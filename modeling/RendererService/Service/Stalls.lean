import RendererService.Service.Progress

/-!
# Steps that strand a task

A request that asks a service which its renderer does not offer begins no
action, a declaration that fails cancels the queue of its own task, and a
context that goes away takes the actions on its proxies with it.  Nothing else
leaves a current task with nothing to wait for.
-/

namespace RendererService

open Transition

variable {w w' : World} {a : TaskAtom} {k : TaskQueueKey} {q : TaskQueue} {d : Nat}
  {handled : Option Nat} {path : String} {asks : Option ServiceKind} {strict : Prop}

def TaskType.service? : TaskType → Option ServiceKind
  | .play | .pause | .playPause | .stop | .next | .previous | .openUri _ | .seek _
  | .setPosition _ | .gotoTrack _ => some .av
  | .getProp interfaceName propName =>
      if (interfaceName = interfacePlayer ∨ interfaceName = "") ∧ propName = "Position" then
        some .av
      else none
  | .getAllProps interfaceName =>
      if interfaceName = interfacePlayer ∨ interfaceName = "" then some .av else none
  | .setProp interfaceName propName =>
      if (interfaceName = interfacePlayer ∨ interfaceName = "") ∧ propName = "Volume" then
        some .rc
      else none
  | _ => none

/-- The preferred context of the renderer at `path` does not offer the service. -/
def World.Misses (w : World) (path : String) (kind : ServiceKind) : Prop :=
  ∃ d dev context, rsuDeviceFromPath path w.upnp.serverUdnMap w = some d ∧
    w.devices d = some dev ∧ rsuDeviceGetContext dev = some context ∧
    context.serviceProxies.get kind = none

instance (w : World) (path : String) (kind : ServiceKind) : Decidable (w.Misses path kind) :=
  decidable_of_iff ((rsuDeviceFromPath path w.upnp.serverUdnMap w).any fun d =>
    (w.devices d).any fun dev => (rsuDeviceGetContext dev).any fun context =>
      (context.serviceProxies.get kind).isNone) (by simp [World.Misses, Option.any_eq_true])

/-- The task is left with nothing to wait for once it was carried out. -/
def Task.Strands (env : Environment) (w : World) : Task → Prop
  | .client t => ∃ kind, t.type.service? = some kind ∧ w.Misses t.path kind
  | .service t => t.tAction = .prvDeclare ∧ ∃ i < rsuInterfaceInfoMax, env.registered i = 0

instance (env : Environment) (w : World) : ∀ r : Task, Decidable (r.Strands env w)
  | .client t =>
      decidable_of_iff (t.type.service?.any fun kind => decide (w.Misses t.path kind)) (by
        simp [Task.Strands, Option.any_eq_true])
  | .service t => inferInstanceAs (Decidable (t.tAction = .prvDeclare ∧
      ∃ i < rsuInterfaceInfoMax, env.registered i = 0))

/-- The task at the head of the queue strands once it was carried out. -/
def World.HeadStrands (w : World) (env : Environment) (k : TaskQueueKey) : Prop :=
  ∃ q a r, w.queue? k = some q ∧ q.tasks.head? = some a ∧ w.tasks a = some r ∧ r.Strands env w

instance (w : World) (env : Environment) (k : TaskQueueKey) : Decidable (w.HeadStrands env k) :=
  decidable_of_iff ((w.queue? k).any fun q => q.tasks.head?.any fun a =>
    (w.tasks a).any fun r => decide (r.Strands env w)) (by
      simp [World.HeadStrands, Option.any_eq_true])

/-- A context goes away that is not the last one of its device, and an action is pending on a
proxy of it. -/
def World.DropsAction (w : World) (udn ipAddress : String) : Prop :=
  ∃ d uc dev context, w.upnp.find udn = some (d, uc) ∧ w.devices d = some dev ∧
    dev.contexts.find? (fun context => context.ipAddress = ipAddress) = some context ∧
    dev.contexts.eraseP (fun context => context.ipAddress = ipAddress) ≠ [] ∧
    ∃ act ∈ w.gupnp.actions, act.proxy ∈ context.serviceProxies.toList

instance (w : World) (udn ipAddress : String) : Decidable (w.DropsAction udn ipAddress) :=
  decidable_of_iff ((w.upnp.find udn).any fun found => (w.devices found.1).any fun dev =>
    (dev.contexts.find? fun context => context.ipAddress = ipAddress).any fun context =>
      decide (dev.contexts.eraseP (fun context => context.ipAddress = ipAddress) ≠ [] ∧
        ∃ act ∈ w.gupnp.actions, act.proxy ∈ context.serviceProxies.toList)) (by
    simp [World.DropsAction, Option.any_eq_true])

def Input.stalls (w : World) : Input → Bool
  | .processIdle _ k env => decide (w.HeadStrands env k)
  | .unavailable udn ipAddress => decide (w.DropsAction udn ipAddress)
  | _ => false

/-- The action that is lost with the context is one of the queue of `k`. -/
def World.DropsActionAt (w : World) (k : TaskQueueKey) (udn ipAddress : String) : Prop :=
  ∃ d uc dev context, w.upnp.find udn = some (d, uc) ∧ w.devices d = some dev ∧
    dev.contexts.find? (fun context => context.ipAddress = ipAddress) = some context ∧
    dev.contexts.eraseP (fun context => context.ipAddress = ipAddress) ≠ [] ∧
    ∃ act ∈ w.gupnp.actions, act.task.queueId = k ∧ act.proxy ∈ context.serviceProxies.toList

/-- The step strands the current task of the queue of `k`. -/
def Input.stallsAt (w : World) (k : TaskQueueKey) : Input → Prop
  | .processIdle _ k' env => k' = k ∧ w.HeadStrands env k
  | .unavailable udn ipAddress => w.DropsActionAt k udn ipAddress
  | _ => False

theorem stalls_eq_false_iff {i : Input} : i.stalls w = false ↔ ∀ k, ¬i.stallsAt w k := by
  cases i with
  | processIdle id k env => simp [Input.stalls, Input.stallsAt]
  | unavailable udn ipAddress =>
      simp only [Input.stalls, Input.stallsAt, decide_eq_false_iff_not]
      refine ⟨fun hnone k ⟨d, uc, dev, context, hfind, hdev, hcontext, hothers, act, hact, _, hp⟩ =>
        hnone ⟨d, uc, dev, context, hfind, hdev, hcontext, hothers, act, hact, hp⟩, ?_⟩
      rintro hnone ⟨d, uc, dev, context, hfind, hdev, hcontext, hothers, act, hact, hp⟩
      exact hnone act.task.queueId
        ⟨d, uc, dev, context, hfind, hdev, hcontext, hothers, act, hact, rfl, hp⟩
  | _ => simp [Input.stalls, Input.stallsAt]

/-! ## What a request comes to -/

/-- An action is begun on the service that the request asks, or it is completed at once. -/
inductive Outcome (asks : Option ServiceKind) (path : String) (a : TaskAtom) (w : World) :
    World → Prop
  | begin {d : Nat} {kind : ServiceKind} (name : String) {callback : ActionCallback}
      (localCb : Option DeviceLocalCb) :
      asks = some kind → rsuDeviceFromPath path w.upnp.serverUdnMap w = some d →
      Outcome asks path a w (beginCommand d kind name callback localCb a w)
  | complete {f : ClientTask → ClientTask} (h : HostService) :
      (asks = none ∨ rsuDeviceFromPath path w.upnp.serverUdnMap w = none) →
      (∀ t : ClientTask, t.Reports (f t)) →
      Outcome asks path a w (completeWith a f (w.setHostService h))
  | crash (f : Fault) : Outcome asks path a w (w.crash f)

theorem Outcome.done {f : ClientTask → ClientTask} (hasks : asks = none)
    (hf : ∀ t : ClientTask, t.Reports (f t)) : Outcome asks path a w (completeWith a f w) :=
  .complete w.upnp.hostService (.inl hasks) hf

theorem withServer_outcome {command : Nat → TaskAtom → World → World} {t : ClientTask}
    (ht : w.tasks a = some (.client t))
    (hcommand : ∀ d, rsuDeviceFromPath t.path w.upnp.serverUdnMap w = some d →
      Outcome asks t.path a w (command d a w)) :
    Outcome asks t.path a w (withServer command a w) := by
  simp only [withServer, World.withClient, ht]
  split
  · exact hcommand _ ‹_›
  next hnone =>
    exact .complete w.upnp.hostService (.inr hnone) fun _ => ⟨⟨rfl, rfl, rfl, rfl⟩, rfl, rfl, rfl⟩

section Requests

variable (hd : rsuDeviceFromPath path w.upnp.serverUdnMap w = some d)
include hd

theorem rsuDeviceSetProp_outcome (env : Environment) (interfaceName propName : String) :
    Outcome (TaskType.setProp interfaceName propName).service? path a w
      (rsuDeviceSetProp env interfaceName propName d a w) := by
  unfold rsuDeviceSetProp
  split
  next hinterface =>
    refine .done (if_neg fun h => ?_) fun _ => ⟨⟨rfl, rfl, rfl, rfl⟩, rfl, rfl, rfl⟩
    exact h.1.elim hinterface.1 hinterface.2
  next hinterface =>
    split
    next hrate =>
      refine .done (if_neg fun h => ?_) fun _ => ⟨⟨rfl, rfl, rfl, rfl⟩, rfl, rfl, rfl⟩
      rw [hrate] at h
      exact absurd h.2 (by decide)
    · split
      next hvolume =>
        exact .done (if_neg fun h => hvolume h.2) fun _ => ⟨⟨rfl, rfl, rfl, rfl⟩, rfl, rfl, rfl⟩
      next hvolume =>
        refine .begin _ _ (if_pos ⟨?_, Classical.not_not.mp hvolume⟩) hd
        by_contra hother
        exact hinterface (not_or.mp hother)

theorem rsuDeviceGetProp_outcome (env : Environment) (interfaceName propName : String) :
    Outcome (TaskType.getProp interfaceName propName).service? path a w
      (rsuDeviceGetProp env interfaceName propName d a w) := by
  unfold rsuDeviceGetProp
  split
  next hposition => exact .begin _ _ (if_pos hposition) hd
  next hposition =>
    exact .done (if_neg hposition) fun t => prvGetProp_reports env { t with device := some d } _

theorem rsuDeviceGetAllProps_outcome (interfaceName : String) :
    Outcome (TaskType.getAllProps interfaceName).service? path a w
      (rsuDeviceGetAllProps interfaceName d a w) := by
  unfold rsuDeviceGetAllProps
  split
  next hplayer => exact .begin _ _ (if_pos hplayer) hd
  next hplayer =>
    exact .done (if_neg hplayer) fun t => prvGetProps_reports { t with device := some d } _

theorem rsuDevicePlayPause_outcome (env : Environment) :
    Outcome (some .av) path a w (rsuDevicePlayPause env d a w) := by
  unfold rsuDevicePlayPause
  split <;> exact .begin _ _ rfl hd

omit hd in
theorem hostOutcome {f : DeviceContext → ClientTask → ClientTask}
    {h : DeviceContext → HostService} (d : Nat)
    (hf : ∀ (context : DeviceContext) (t : ClientTask), t.Reports (f context t)) :
    Outcome none path a w (w.withContext d fun context =>
      completeWith a (f context) (w.setHostService (h context))) := by
  rcases withContext_cases w d with ⟨fault, -, hcrash⟩ | ⟨dev, context, hdev, hcontext⟩
  · rw [hcrash]
    exact .crash fault
  · simp only [World.withContext, World.withDevice, hdev, hcontext]
    exact .complete _ (.inl rfl) (hf context)

end Requests

theorem prvProcessAsyncTask_outcome {t : ClientTask} (env : Environment)
    (ht : w.tasks a = some (.client t)) (hasync : t.type.isAsync = true) :
    Outcome t.type.service? t.path a (w.markCancellable a) (prvProcessAsyncTask env a w) := by
  have hmark : (w.markCancellable a).tasks a =
      some (.client { t with cancellable := some {} }) := by
    simp [World.markCancellable, World.modifyClient, World.withClient, ht, World.setTask]
  have hserver : ∀ {asks : Option ServiceKind} (command : Nat → TaskAtom → World → World),
      (∀ d, rsuDeviceFromPath t.path (w.markCancellable a).upnp.serverUdnMap
        (w.markCancellable a) = some d →
        Outcome asks t.path a (w.markCancellable a) (command d a (w.markCancellable a))) →
      Outcome asks t.path a (w.markCancellable a) (withServer command a (w.markCancellable a)) :=
    fun command hcommand =>
      withServer_outcome (t := { t with cancellable := some {} }) hmark hcommand
  simp only [prvProcessAsyncTask, World.withClient, ht]
  cases htype : t.type with
  | getVersion | getServers | raise | quit => simp [TaskType.isAsync, htype] at hasync
  | getProp i p => exact hserver _ fun d hd => rsuDeviceGetProp_outcome hd env i p
  | getAllProps i => exact hserver _ fun d hd => rsuDeviceGetAllProps_outcome hd i
  | setProp i p => exact hserver _ fun d hd => rsuDeviceSetProp_outcome hd env i p
  | playPause => exact hserver _ fun d hd => rsuDevicePlayPause_outcome hd env
  | hostUri uri client =>
      exact hserver _ fun d _ => hostOutcome d fun context t => hosted_reports t d _
  | removeUri uri client =>
      exact hserver _ fun d _ => hostOutcome d fun context t => unhosted_reports t d _
  | play | pause | stop | next | previous | openUri _ | seek _ | setPosition _ | gotoTrack _ =>
      exact hserver _ fun d hd => .begin _ _ rfl hd

/-! ## Tasks that are carried out -/

/-- A queue whose current task has nothing to wait for, for a reason that holds, goes on only in
so far as that does not count. -/
theorem advances_stuck {reason : Prop} (hreason : reason) (hq : w.queue? k = some q)
    (ha : q.currentTask = some a) (hflags : q.flags = q.callbacks.flags)
    (hdeferred : q.deferRemove = true → q.idleId = 0) (hquiet : w.Quiet a) :
    w.AdvancesIf strict k ↔ (strict → ¬reason) := by
  constructor
  · intro hadvances hstrict
    exact absurd hquiet ((hadvances q hq).running a ha hstrict).pending
  · intro hnot q' hq'
    obtain rfl := Option.some.inj (hq.symm.trans hq')
    exact ⟨hflags, hdeferred, fun _ _ hstrict => absurd hreason (hnot hstrict),
      fun hnone => by simp [ha] at hnone⟩

theorem Outcome.advances {t : ClientTask} (hs : ServiceOk handled w)
    (hq : w.queue? a.queueId = some q) (ha : q.currentTask = some a)
    (hflags : q.flags = q.callbacks.flags) (hdeferred : q.deferRemove = true → q.idleId = 0)
    (ht : w.tasks a = some (.client t)) (hfresh : t.cancellable = none)
    (hasync : t.synchronous = false)
    (houtcome : Outcome asks path a (w.markCancellable a) w') (hfault : w'.fault = none) :
    w'.AdvancesIf strict a.queueId ↔
      (strict → ¬∃ kind, asks = some kind ∧ w.Misses path kind) := by
  have hquiet : w.Quiet a := hs.outer.quiet_client ht hfresh
  have hmark : w.markCancellable a =
      w.setTask a (some (.client { t with cancellable := some {} })) := modifyClient_eq ht _
  rw [hmark] at houtcome
  cases houtcome with
  | @begin d kind name callback localCb hasks hd =>
      rcases withContext_cases (w.setTask a (some (.client { t with cancellable := some {} }))) d
        with ⟨f, -, hcrash⟩ | ⟨dev, context, hdev, hcontext⟩
      · rw [beginCommand, hcrash] at hfault
        exact absurd hfault (fault_crash _ _)
      · cases hproxy : context.serviceProxies.get kind with
        | none =>
            rw [beginCommand_none (tasks_setTask _ _ _) hdev hcontext hproxy, setTask_setTask]
            exact advances_stuck ⟨kind, hasks, d, dev, context, hd, hdev, hcontext, hproxy⟩ hq ha
              hflags hdeferred hquiet
        | some p =>
            rw [beginCommand_some (tasks_setTask _ _ _) hdev hcontext hproxy,
              beginAction_setTask, setTask_setTask]
            refine iff_of_true (fun q' hq' => ?_) ?_
            · obtain rfl := Option.some.inj (hq.symm.trans hq')
              refine ⟨hflags, hdeferred, fun b hb _ => ?_, fun hnone => by simp [ha] at hnone⟩
              obtain rfl := Option.some.inj (ha.symm.trans hb)
              refine awaited_of_action (List.mem_append_right _ List.mem_cons_self) rfl
                fun t' ht' => ?_
              rw [tasks_setTask] at ht'
              cases ht'
              exact hasync
            · rintro - ⟨kind', hasks', d', dev', context', hd', hdev', hcontext', hproxy'⟩
              obtain rfl := Option.some.inj (hasks.symm.trans hasks')
              obtain rfl := Option.some.inj (hd.symm.trans hd')
              obtain rfl := Option.some.inj (hdev.symm.trans hdev')
              obtain rfl := Option.some.inj (hcontext.symm.trans hcontext')
              simp [hproxy] at hproxy'
  | @complete f h hnone hf =>
      refine iff_of_true (advances_completeWith hq ha hflags hdeferred (fun _ t' ht' => ?_)
        fun t => (hf t).1) ?_
      · have hrecord : (w.setTask a (some (.client { t with cancellable := some {} }))).tasks a =
            some (.client t') := ht'
        rw [tasks_setTask] at hrecord
        cases hrecord
        exact hasync
      · rintro - ⟨kind, hasks, d, dev, context, hd, -⟩
        rcases hnone with hnone | hnone
        · simp [hasks] at hnone
        · have hsome : rsuDeviceFromPath path w.upnp.serverUdnMap w = none := hnone
          simp [hd] at hsome
  | crash f => exact absurd hfault (fault_crash _ _)

theorem advances_prvProcessSyncTask {t : ClientTask} (hok : ProcessorOk w)
    (hq : w.queue? a.queueId = some q) (ha : q.currentTask = some a)
    (hflags : q.flags = q.callbacks.flags) (ht : w.tasks a = some (.client t))
    (hsync : t.type.isAsync = false) : (prvProcessSyncTask a w).AdvancesIf strict a.queueId := by
  simp only [prvProcessSyncTask, World.withClient, ht]
  split
  · exact (touches_answerTask _).advances_completed hok hq ha hflags
  · have htouch : Touches a w (w.modifyClient a fun t =>
        { t with result := some (.servers (rsuUpnpGetServerIds w)) }) :=
      touches_modifyClient fun _ => ⟨rfl, rfl, rfl, rfl⟩
    exact (htouch.trans (touches_answerTask _)).advances_completed hok hq ha hflags
  · exact (touches_answerTask _).advances_completed hok hq ha hflags
  · exact (touches_answerTask _).advances_completed hok hq ha hflags
  next hother => cases htype : t.type <;> simp_all [TaskType.isAsync]

/-- A queue that is cancelled while its construction step has begun nothing keeps that step. -/
theorem cancelQueue_strands {t : ServiceTask} {reason : Prop} (hreason : reason)
    (hok : ProcessorOk w) (hq : w.queue? a.queueId = some q) (ha : q.currentTask = some a)
    (hflags : q.flags = q.callbacks.flags) (ht : w.tasks a = some (.service t))
    (hnone : t.pAction = none) (hquiet : w.Quiet a) :
    (rsuTaskProcessorCancelQueue taskDeleteCb taskCancelCb a.queueId w).AdvancesIf strict
      a.queueId ↔ (strict → ¬reason) := by
  have hold := hok.queues _ q hq
  obtain ⟨-, -, hnot, hlive⟩ := hold.current a ha
  have hcs : q.callbacks = .service := by
    cases hcs : q.callbacks with
    | client => simp [hcs, ht, TaskCallbacks.Live] at hlive
    | service => rfl
  have ht₁ : (w.clearQueue a.queueId q).tasks a = some (.service t) :=
    (if_neg hnot).trans ht
  have hcancel : rsuTaskProcessorCancelQueue taskDeleteCb taskCancelCb a.queueId w =
      (w.clearQueue a.queueId q).emit (.cancelled a) := by
    have hclear : rsuTaskProcessorCancelQueue taskDeleteCb taskCancelCb a.queueId w =
        afterClear a.queueId q.emptied (w.clearQueue a.queueId q) := by
      simp only [rsuTaskProcessorCancelQueue, hq]
      exact prvTaskQueueCancel_eq hq hold.nodup hold.fresh hok.idlePositive
    have ht₂ : ((w.clearQueue a.queueId q).emit (.cancelled a)).tasks a =
        some (.service t) := ht₁
    have hcurrent : q.emptied.currentTask = some a := ha
    have hservice : q.emptied.callbacks = .service := hcs
    rw [hclear]
    simp only [afterClear, hcurrent, hservice, taskCancelCb, rsuServiceTaskCancelCb_eq ht₂, hnone,
      Option.isSome_none, Bool.false_eq_true, if_false]
  rw [hcancel]
  exact advances_stuck (w := (w.clearQueue a.queueId q).emit (.cancelled a)) (q := q.emptied)
    hreason (queue?_clearQueue_self hq) ha hflags (fun _ => rfl) hquiet

theorem serviceTaskAction_failed {env : Environment} {t : ServiceTask}
    (hstrands : (Task.service t).Strands env w) :
    (serviceTaskAction env t.tAction t a w).2.1 = true := by
  obtain ⟨haction, i, hi, hzero⟩ := hstrands
  have hshort : (((List.range rsuInterfaceInfoMax).map env.registered).takeWhile
      fun id => id ≠ 0).length < rsuInterfaceInfoMax := by
    refine Nat.lt_of_not_le fun hle => ?_
    have hids : ((List.range rsuInterfaceInfoMax).map env.registered).takeWhile
        (fun id => id ≠ 0) = (List.range rsuInterfaceInfoMax).map env.registered := by
      refine (List.takeWhile_prefix _).eq_of_length_le ?_
      rwa [List.length_map, List.length_range]
    have hall := List.takeWhile_eq_self_iff.mp hids (env.registered i)
      (List.mem_map.mpr ⟨i, List.mem_range.mpr hi, rfl⟩)
    simp [hzero] at hall
  rw [haction]
  exact decide_eq_true hshort

theorem advances_rsuServiceTaskProcessCb {t : ServiceTask} (env : Environment)
    (hs : ServiceOk handled w) (hq : w.queue? a.queueId = some q) (ha : q.currentTask = some a)
    (hflags : q.flags = q.callbacks.flags) (hdeferred : q.deferRemove = true → q.idleId = 0)
    (ht : w.tasks a = some (.service t)) (hfresh : t.pAction = none) :
    (rsuServiceTaskProcessCb (serviceTaskAction env) a w).AdvancesIf strict a.queueId ↔
      (strict → ¬(Task.service t).Strands env w) := by
  have hquiet : w.Quiet a :=
    ⟨hs.outer.actions.noAction_service ht hfresh, hs.outer.not_complete_service ht⟩
  have hfailed : (Task.service t).Strands env w →
      (serviceTaskAction env t.tAction t a w).2.1 = true := serviceTaskAction_failed
  have hdeclares : (serviceTaskAction env t.tAction t a w).2.1 = true →
      t.tAction = .prvDeclare := by
    cases haction : t.tAction with
    | prvGetProtocolInfo =>
        exact fun h => absurd h (by simp [serviceTaskAction, prvGetProtocolInfo])
    | prvSubscribe => exact fun h => absurd h (by simp [serviceTaskAction, prvSubscribe])
    | prvDeclare => exact fun _ => rfl
  have htouch : ∀ {w' : World}, Cosmetic w w' →
      Touches a w (w'.setTask a (some (.service { t with pAction := none }))) := fun hc =>
    (Touches.of_cosmetic hc).trans (touches_setService none (by rw [hc.tasks, ht]))
  simp only [rsuServiceTaskProcessCb, World.withService, ht]
  have hcases := serviceTaskAction_construction env t a w
  revert hcases hfailed hdeclares
  generalize serviceTaskAction env t.tAction t a w = r
  intro hfailed hdeclares hcases
  cases hcases with
  | @begun p hproxy =>
      simp only [Bool.false_eq_true, if_false, Option.isNone_some] at hfailed ⊢
      refine iff_of_true (fun q' hq' => ?_) fun _ => hfailed
      obtain rfl := Option.some.inj (hq.symm.trans hq')
      refine ⟨hflags, hdeferred, fun b hb _ => ?_, fun hnone => by simp [ha] at hnone⟩
      obtain rfl := Option.some.inj (ha.symm.trans hb)
      refine awaited_of_action (List.mem_append_right _ List.mem_cons_self) rfl fun t' ht' => ?_
      rw [tasks_setTask] at ht'
      cases ht'
  | done hc =>
      simp only [Bool.false_eq_true] at hfailed
      exact iff_of_true ((htouch hc).advances_completed hs.processor hq ha hflags) fun _ => hfailed
  | @failed w₁ hc hzero =>
      have hstrands : (Task.service t).Strands env w := ⟨hdeclares rfl, hzero⟩
      have hok₁ := elsewhere_ok hs.processor ((htouch hc).elsewhere hs.processor ⟨q, hq, ha⟩)
      refine cancelQueue_strands hstrands hok₁ (((htouch hc).queue? _).trans hq) ha hflags
        (tasks_setTask _ _ _) rfl ⟨?_, ?_⟩
      · show ∀ act ∈ w₁.gupnp.actions, act.task ≠ a
        rw [hc.actions]
        exact hquiet.1
      · show a ∉ w₁.loop.completeIdles
        rw [hc.completeIdles]
        exact hquiet.2

/-- A task that was handed over is ended by something that is pending, unless it is left
with nothing to wait for. -/
theorem advances_taskProcessCb (env : Environment) (hs : ServiceOk handled w)
    (hq : w.queue? a.queueId = some q) (ha : q.currentTask = some a)
    (hflags : q.flags = q.callbacks.flags) (hdeferred : q.deferRemove = true → q.idleId = 0)
    (hfresh : q.callbacks.Fresh (w.tasks a))
    (hfault : (taskProcessCb env q.callbacks a w).fault = none) :
    (taskProcessCb env q.callbacks a w).AdvancesIf strict a.queueId ↔
      (strict → ¬∃ r, w.tasks a = some r ∧ r.Strands env w) := by
  cases hcs : q.callbacks with
  | client =>
      rw [hcs] at hfresh hfault
      obtain ⟨t, ht⟩ := TaskCallbacks.live_client hfresh.live
      have hnone : t.cancellable = none := by simpa [TaskCallbacks.Fresh, ht] using hfresh
      have hsuits : t.synchronous = !t.type.isAsync := (hs.outer.requests a t ht).1
      have hrecord : (∃ r, w.tasks a = some r ∧ r.Strands env w) ↔
          ∃ kind, t.type.service? = some kind ∧ w.Misses t.path kind := by
        simp [ht, Task.Strands]
      rw [hrecord]
      simp only [taskProcessCb, prvProcessTask, World.withClient, ht] at hfault ⊢
      cases hasync : t.type.isAsync with
      | true =>
          have hsync : t.synchronous = false := by rw [hsuits, hasync]; rfl
          simp only [hsync, Bool.false_eq_true, if_false] at hfault ⊢
          exact (prvProcessAsyncTask_outcome env ht hasync).advances hs hq ha hflags hdeferred ht
            hnone hsync hfault
      | false =>
          have hsync : t.synchronous = true := by rw [hsuits, hasync]; rfl
          simp only [hsync, if_true]
          refine iff_of_true (advances_prvProcessSyncTask hs.processor hq ha hflags ht hasync) ?_
          rintro - ⟨kind, hkind, -⟩
          cases htype : t.type <;> simp_all [TaskType.isAsync, TaskType.service?]
  | service =>
      rw [hcs] at hfresh
      obtain ⟨t, ht⟩ := TaskCallbacks.live_service hfresh.live
      have hnone : t.pAction = none := by simpa [TaskCallbacks.Fresh, ht] using hfresh
      have hrecord : (∃ r, w.tasks a = some r ∧ r.Strands env w) ↔
          (Task.service t).Strands env w := by
        simp [ht]
      rw [hrecord]
      exact advances_rsuServiceTaskProcessCb env hs hq ha hflags hdeferred ht hnone

/-! ## The idle of a queue -/

theorem advances_processIdle_self {id : Nat} (env : Environment) (hs : ServiceOk handled w)
    (hidle : (id, k) ∈ w.loop.processIdles) (h : w.AdvancesIf strict k)
    (hfault : (exec w (.processIdle id k env)).fault = none) :
    (exec w (.processIdle id k env)).AdvancesIf strict k ↔ (strict → ¬w.HeadStrands env k) := by
  obtain ⟨q, a, rest, hq, rfl, hne, hcons, rfl, heq⟩ :=
    prvTaskQueueProcessTask_dispatch env hs.processor hidle
  let w₁ := (w.sourceRemoveProcess q.idleId).dispatchTask a.queueId a rest
  let q₁ : TaskQueue :=
    { q with cancelled := false, idleId := 0, currentTask := some a, tasks := rest }
  have hexec : exec w (.processIdle q.idleId a.queueId env) = taskProcessCb env q.callbacks a w₁ :=
    heq
  rw [hexec] at hfault ⊢
  have hs₁ : ServiceOk handled w₁ := hs.step (.dispatch hq hne hcons) (by simp) trivial
  have hq₁ : w₁.queue? a.queueId = some q₁ := by
    show ((w.sourceRemoveProcess q.idleId).dispatchTask a.queueId a rest).queue? a.queueId = _
    rw [queue?_dispatchTask, if_pos rfl]
    exact congrArg _ hq
  have hfresh : q₁.callbacks.Fresh (w₁.tasks a) :=
    (hs.processor.queues _ q hq).fresh a (hcons ▸ List.mem_cons_self)
  have hhead : w.HeadStrands env a.queueId ↔ ∃ r, w₁.tasks a = some r ∧ r.Strands env w₁ := by
    have hstrands : ∀ r : Task, r.Strands env w₁ ↔ r.Strands env w := fun r => Iff.rfl
    have htasks : w₁.tasks a = w.tasks a := rfl
    constructor
    · rintro ⟨q', a', r, hq', ha', hr, hstrand⟩
      obtain rfl := Option.some.inj (hq.symm.trans hq')
      rw [hcons, List.head?_cons] at ha'
      obtain rfl := Option.some.inj ha'
      exact ⟨r, hr, hstrand⟩
    · rintro ⟨r, hr, hstrand⟩
      exact ⟨q, a, r, hq, by rw [hcons, List.head?_cons], hr, hstrand⟩
  rw [hhead]
  exact advances_taskProcessCb (q := q₁) env hs₁ hq₁ rfl (h q hq).flags (fun _ => rfl) hfresh hfault

theorem advances_processIdle {id : Nat} {k₀ : TaskQueueKey} (env : Environment)
    (hs : ServiceOk handled w) (hidle : (id, k₀) ∈ w.loop.processIdles)
    (h : w.AdvancesIf strict k) (hfault : (exec w (.processIdle id k₀ env)).fault = none) :
    (exec w (.processIdle id k₀ env)).AdvancesIf strict k ↔
      (strict → ¬(k₀ = k ∧ w.HeadStrands env k)) := by
  by_cases hk : k₀ = k
  · subst hk
    simpa using advances_processIdle_self env hs hidle h hfault
  · have hrun : (serviceSteps (fun k' => k' = k₀) handled).Run w
        (exec w (.processIdle id k₀ env)) := prvTaskQueueProcessTask_serves env hs rfl hidle
    exact iff_of_true (advances_of_run hrun hs h fun heq => absurd heq.symm hk)
      fun _ hstrands => hk hstrands.1

/-! ## New renderers -/

theorem advances_queueConstruction {ct : DeviceNewCt}
    (hq : w.queue? k = some (constructionQueue ct)) (hsource : 0 < w.loop.nextSource) (d : Nat)
    (proxy : Option ServiceProxy) : (w.queueConstruction k d proxy).AdvancesIf strict k := by
  have hq₁ := queue?_pushTask_self hq
    (constructionTask d proxy .prvGetProtocolInfo (some .prvGetProtocolInfoCb))
  have hq₂ := queue?_pushTask_self hq₁ (constructionTask d proxy .prvSubscribe none)
  have hq₃ := queue?_pushTask_self hq₂ (constructionTask d proxy .prvDeclare none)
  intro q' hq'
  have hlookup : (w.queueConstruction k d proxy).queue? k = _ :=
    (queue?_modifyQueue _ k k _).trans ((if_pos rfl).trans (congrArg _ hq₃))
  obtain rfl := Option.some.inj (hlookup.symm.trans hq')
  exact ⟨rfl, fun hdefer => absurd hdefer (by simp [constructionQueue]),
    fun a ha => by simp [constructionQueue] at ha, fun _ _ => .inl (Nat.ne_of_gt hsource)⟩

theorem spared_openConstruction {k' : TaskQueueKey} (hk : k' ≠ w.newKey) (udn ipAddress : String)
    (offered : DeviceServices) : Spared k' w (w.openConstruction udn ipAddress offered) := by
  have hgains := gains_openConstruction (w := w) udn ipAddress offered
  refine ⟨⟨?_, fun a _ _ => ?_⟩, fun act _ => ?_, fun a _ => ?_, fun hquit => ?_⟩
  · rw [queue?_openConstruction, if_neg hk]
  · rw [hgains.tasks]
    rfl
  · rw [hgains.actions]
    rfl
  · rw [hgains.completeIdles]
    rfl
  · rw [hgains.processor]
    exact hquit

theorem advances_prvServerConstruct (udn ipAddress : String) (offered : DeviceServices)
    (hs : ServiceOk handled w) (h : w.AdvancesIf strict k) :
    (prvServerConstruct udn ipAddress offered w).AdvancesIf strict k := by
  let proxy := (gupnpDeviceInfoGetServices w.gupnp.nextContext offered).cmProxy
  let w₁ := w.openConstruction udn ipAddress offered
  have hs₁ : ServiceOk handled w₁ := openConstruction_serviceOk udn ipAddress offered hs
  have hq₁ : w₁.queue? w.newKey = some (constructionQueue (w.newCt udn)) := by
    rw [queue?_openConstruction, if_pos rfl]
  have hqueued : (w₁.queueConstruction w.newKey w.upnp.counter proxy).AdvancesIf strict k := by
    by_cases hk : k = w.newKey
    · subst hk
      exact advances_queueConstruction hq₁ hs₁.processor.source w.upnp.counter proxy
    · have hqueued : Spared k w₁ (w₁.queueConstruction w.newKey w.upnp.counter proxy) :=
        (((spared_pushTask hk _ _).trans (spared_pushTask hk _ _)).trans
          (spared_pushTask hk _ _)).trans (spared_idleAddProcess hk _)
      exact ((spared_openConstruction hk udn ipAddress offered).trans hqueued).advances
        hs.processor h
  have hs₂ : ServiceOk handled (w₁.queueConstruction w.newKey w.upnp.counter proxy) :=
    queueConstruction_serviceOk w.upnp.counter proxy hs₁ hq₁
  rw [prvServerConstruct_eq udn ipAddress offered hs.outer.keys.newKey]
  exact advances_of_same hqueued hs₂.processor rfl rfl rfl rfl

theorem advances_prvServerAvailableCb (udn ipAddress : String) (offered : DeviceServices)
    (hs : ServiceOk handled w) (h : w.AdvancesIf strict k) :
    (prvServerAvailableCb udn ipAddress offered w).AdvancesIf strict k := by
  cases arrival udn ipAddress offered w with
  | unknown _ heq =>
      rw [heq]
      exact advances_prvServerConstruct udn ipAddress offered hs h
  | dangling _ _ heq =>
      rw [heq]
      exact advances_of_same h hs.processor rfl rfl rfl rfl
  | present _ _ _ heq => rwa [heq]
  | extended _ hdev _ heq =>
      rw [heq]
      have hgains := gains_rsuDeviceAppendNewContext (w := w) ipAddress offered
        (core_of_device hdev)
      exact advances_of_same h hs.processor hgains.processor hgains.tasks hgains.actions
        hgains.completeIdles

/-! ## Actions that are lost -/

/-- The invariants that say what a pending action is for. -/
structure PendingOk (w : World) : Prop where
  service : ServiceOk none w
  registry : RegistryOk w
  holders : HoldersOk w
  aims : AimsOk w

/-- The task that waits for an action on a proxy of `d`: a request for `d`, which is known,
or the step of its construction. -/
inductive World.WaitsOn (w : World) (d : Nat) (a : TaskAtom) : Prop
  | request {t : ClientTask} : w.tasks a = some (.client t) → t.Armed →
      w.Serves d a.queueId.sink → w.WaitsOn d a
  | construction {ct : DeviceNewCt} : w.Constructs ct → ct.device = d → ct.queueId = a.queueId →
      w.WaitsOn d a

theorem PendingOk.waitsOn (h : PendingOk w) {act : ProxyAction} (hact : act ∈ w.gupnp.actions)
    (howns : w.Owns d act.proxy) : w.WaitsOn d act.task := by
  obtain ⟨-, hexpects⟩ := h.service.outer.actions.awaited act hact
  cases hr : w.tasks act.task with
  | none => simp [Expects, hr] at hexpects
  | some r =>
      rw [hr] at hexpects
      cases r with
      | client t =>
          have harmed : t.Armed := hexpects.2.2.1
          have hdevice := h.aims.requests act hact t hr harmed d howns
          have hbegun : t.cancellable ≠ none := by
            rw [show t.cancellable = _ from harmed]
            simp
          obtain ⟨hsync, hpath⟩ := h.service.outer.requests _ t hr
          rw [(h.holders.clients.begun _ t hr hbegun).1] at hsync
          have hserves :=
            (h.holders.clients.serves _ t d hr hdevice).resolve_left harmed.not_givenUp
          rw [hpath (by simpa using hsync.symm)] at hserves
          exact .request hr harmed hserves
      | service t =>
          obtain ⟨q, ct, hq, hcs, hdata, hdevice⟩ := h.registry.constructions.tasks _ t hr
          obtain ⟨-, ct', hdata', hkey, hct⟩ := h.registry.constructions.queues _ q hq hcs
          obtain rfl := Option.some.inj (hdata.symm.trans hdata')
          have haim := (h.aims.constructions _ t act.proxy hr hexpects.2.1).2 d howns
          exact .construction hct (hdevice.symm.trans haim) hkey

theorem WaitsOn.known (h : w.WaitsOn d a) (hmaps : MapsOk w) {udn : String}
    (hudn : w.upnp.serverUdnMap.lookup udn = some d) :
    ∃ t, w.tasks a = some (.client t) ∧ t.Armed ∧ w.path d = some a.queueId.sink := by
  cases h with
  | request ht harmed hserves => exact ⟨_, ht, harmed, hserves.2⟩
  | construction hct hdevice _ => exact absurd hdevice.symm (hmaps.apart udn _ d _ hudn hct).2

theorem WaitsOn.constructed {ct : DeviceNewCt} (h : w.WaitsOn ct.device a) (hmaps : MapsOk w)
    (hct : w.Constructs ct) : ct.queueId = a.queueId := by
  cases h with
  | request _ _ hserves =>
      obtain ⟨udn, hudn⟩ := hserves.1
      exact absurd rfl (hmaps.apart udn _ _ _ hudn hct).2
  | @construction ct' hct' hdevice hkey =>
      have hudn := hmaps.ucSingle _ _ _ _ hct' hct hdevice
      have hsame : w.upnp.serverUcMap.lookup ct.udn = some ct' := hudn ▸ hct'
      obtain rfl := Option.some.inj (hsame.symm.trans hct)
      exact hkey

/-- An action is pending for a task whose completion is not scheduled. -/
theorem not_complete_action (hs : ServiceOk handled w) {act : ProxyAction}
    (hact : act ∈ w.gupnp.actions) : act.task ∉ w.loop.completeIdles := by
  intro hidle
  obtain ⟨-, t, ht, hscheduled⟩ := hs.outer.completions.pending _ hidle
  have hexpects := (hs.outer.actions.awaited act hact).2
  rw [ht] at hexpects
  exact hscheduled (.inr hexpects.2.2.1)

/-- The task of an action that is lost has nothing to wait for. -/
theorem Frees.strands {gone : List ServiceProxy} (hf : Frees gone w w') (hs : ServiceOk handled w)
    {act : ProxyAction} (hact : act ∈ w.gupnp.actions) (hgone : act.proxy ∈ gone) :
    w'.Quiet act.task := by
  refine ⟨fun act' hact' htask => ?_, ?_⟩
  · rw [hf.actions, List.mem_filter] at hact'
    obtain rfl := hs.outer.actions.unique hact'.1 hact htask
    simp [hgone] at hact'
  · rw [hf.completeIdles]
    exact not_complete_action hs hact

/-- A queue goes on when proxies are freed, unless the action that its task waits for is lost. -/
theorem Frees.advances_or {gone : List ServiceProxy} (hf : Frees gone w w')
    (hs : ServiceOk handled w) (h : w.AdvancesIf strict k) :
    w'.AdvancesIf strict k ∨ ∃ act ∈ w.gupnp.actions, act.proxy ∈ gone ∧ act.task.queueId = k ∧
      ∃ q, w'.queue? k = some q ∧ q.currentTask = some act.task ∧
        w'.GoesOn (fun a => strict → w'.Endable a) q := by
  have hqueue : w'.queue? k = w.queue? k := by
    unfold World.queue?
    rw [hf.processor]
  have hquit : w.processor.quitting = true → w'.processor.quitting = true := fun hq => by
    rw [hf.processor]
    exact hq
  by_cases hlost : ∃ act ∈ w.gupnp.actions, act.proxy ∈ gone ∧ act.task.queueId = k
  · obtain ⟨act, hact, hgone, rfl⟩ := hlost
    obtain ⟨q, hq, ha⟩ := (hs.outer.actions.awaited act hact).1
    refine .inr ⟨act, hact, hgone, rfl, q, hqueue.trans hq, ha, ?_⟩
    exact ((h q hq).endable hs hq).mono (fun b _ hends hstrict =>
      endable_congr (congrFun hf.tasks b) hf.completeIdles (hends hstrict)) hquit
  · refine .inl (Spared.advances ⟨⟨hqueue, fun a _ _ => congrFun hf.tasks a⟩, fun act hk => ?_,
      fun a _ => by rw [hf.completeIdles], hquit⟩ hs.processor h)
    rw [hf.actions, List.mem_filter]
    exact and_iff_left_of_imp fun hact => by
      simpa using fun hgone => hlost ⟨act, hact, hgone, hk⟩

theorem actions_rsuDeviceDelete (hnone : ∀ act ∈ w.gupnp.actions, ¬w.Owns d act.proxy) :
    (rsuDeviceDelete d w).gupnp.actions = w.gupnp.actions := by
  cases hc : w.core d with
  | none =>
      have hdev : w.devices d = none := Option.map_eq_none_iff.mp hc
      simp only [rsuDeviceDelete, World.withDevice, hdev]
      rfl
  | some c =>
      rw [(frees_rsuDeviceDelete hc).1.actions, List.filter_eq_self]
      exact fun act hact => by simpa using fun hmem => hnone act hact ⟨c, hc, hmem⟩

theorem advances_rsuDeviceDelete (hok : ProcessorOk w)
    (hnone : ∀ act ∈ w.gupnp.actions, ¬w.Owns d act.proxy) (h : w.AdvancesIf strict k) :
    (rsuDeviceDelete d w).AdvancesIf strict k := by
  have hoff := offstage_rsuDeviceDelete d w
  exact advances_of_same h hok hoff.processor hoff.tasks (actions_rsuDeviceDelete hnone)
    hoff.completeIdles

/-! ## Lost renderers -/

/-- A known renderer that has lost its last context: the requests for it are given up. -/
theorem advances_lostKnown {gone : List ServiceProxy} {dev : Device} {udn : String}
    (h : PendingOk w) (hudn : w.upnp.serverUdnMap.lookup udn = some d)
    (hdev : w.devices d = some dev) (hf : Frees gone w w')
    (hgone : ∀ p ∈ gone, w.Owns d p) (hfollows : Follows w w') (hs' : ServiceOk none w')
    (hempty : w'.core d = some ⟨dev.path, []⟩) (hadv : w.AdvancesIf strict k) :
    (prvServerLost udn d dev.path none w').AdvancesIf strict k := by
  let w₁ := w'.emit (.lostServer dev.path)
  have hs₁ : ServiceOk none w₁ := hs'.backstage (backstage_emit rfl)
  have hhit : w'.GoesOnAfter strict (fun k => k.sink = dev.path)
      w'.processor.taskQueues.keys k := by
    rcases hf.advances_or h.service hadv with hgoes | ⟨act, hact, hlost, rfl, q, hq, ha, hgoes⟩
    · exact .inl hgoes
    · obtain ⟨t, ht, harmed, hsink⟩ :=
        WaitsOn.known (h.waitsOn hact (hgone _ hlost)) h.registry.maps hudn
      have hpath : act.task.queueId.sink = dev.path := by
        rw [World.path, hdev] at hsink
        exact (Option.some.inj hsink).symm
      have hbegun : t.cancellable ≠ none := by
        rw [show t.cancellable = _ from harmed]
        simp
      have hq₀ : w.queue? act.task.queueId = some q := by
        unfold World.queue?
        rw [← hf.processor]
        exact hq
      have hkey : act.task.queueId ∈ w'.processor.taskQueues.keys :=
        AList.mem_keys.mp (AList.lookup_isSome.mp (Option.isSome_of_mem hq))
      refine .inr ⟨hkey, by simpa using hpath, q, hq, ?_, hgoes⟩
      cases hdefer : q.deferRemove with
      | false => rfl
      | true =>
          have hfinishing := (h.holders.clients.deferred _ q hq₀ hdefer).2 _ t ha ht hbegun
            (h.holders.clients.begun _ t ht hbegun).1
          exact absurd hfinishing harmed.not_givenUp
  have hsame : Spared k w' w₁ := .of_same rfl rfl rfl rfl
  have hfreed : (prvLostMediaServer dev.path w').AdvancesIf strict k :=
    advances_freeQueues _ _ w₁ hs₁ (hsame.goesOnAfter hs'.processor hhit)
  have hs₂ := prvLostMediaServer_serviceOk dev.path hs'
  have hfollows₂ : Follows w (prvLostMediaServer dev.path w') :=
    hfollows.trans ((follows_emit w' _).trans (follows_removeQueuesForSink dev.path hs₁.processor))
  have hfollows₁ : Follows w' (prvLostMediaServer dev.path w') :=
    (follows_emit w' _).trans (follows_removeQueuesForSink dev.path hs₁.processor)
  refine advances_rsuDeviceDelete ?_ (fun act hact howns => ?_)
    (advances_of_same hfreed hs₂.processor rfl rfl rfl rfl)
  · exact hs₂.processor.congr rfl rfl rfl rfl rfl rfl rfl
  · have hbound := h.aims.bound act (hfollows₂.actions act hact)
    obtain ⟨c, hc, hmem⟩ := hfollows₁.owners d act.proxy
      (Nat.lt_of_lt_of_le hbound hfollows.nextContext) howns
    obtain rfl := Option.some.inj (hempty.symm.trans hc)
    exact absurd hmem List.not_mem_nil

/-- A renderer that has lost its last context while it is constructed: its construction is
cancelled. -/
theorem advances_lostConstruction {gone : List ServiceProxy} {ct : DeviceNewCt}
    (h : PendingOk w) (hct : w.Constructs ct) (hf : Frees gone w w')
    (hgone : ∀ p ∈ gone, w.Owns ct.device p) (hs' : ServiceOk none w')
    (hadv : w.AdvancesIf strict k)
    (hfault : (rsuTaskProcessorCancelQueue taskDeleteCb taskCancelCb ct.queueId w').fault = none) :
    (rsuTaskProcessorCancelQueue taskDeleteCb taskCancelCb ct.queueId w').AdvancesIf strict k := by
  cases hq : w'.queue? ct.queueId with
  | none =>
      simp only [rsuTaskProcessorCancelQueue, hq] at hfault
      exact absurd hfault (fault_crash _ _)
  | some q =>
      simp only [rsuTaskProcessorCancelQueue, hq]
      have hrun : (serviceSteps (fun k' => k' = ct.queueId) none).Run w'
          (prvTaskQueueCancel taskDeleteCb taskCancelCb ct.queueId q w') :=
        prvTaskQueueCancel_run serviceSteps_cancels hs' rfl hq
      have hlost := hf.advances_or h.service hadv
      by_cases hk : k = ct.queueId
      · subst hk
        refine advances_prvTaskQueueCancel hs' hq ?_
        rcases hlost with hgoes | ⟨_, _, _, _, q', hq', _, hgoes⟩
        · exact (hgoes q hq).endable hs' hq
        · obtain rfl := Option.some.inj (hq.symm.trans hq')
          exact hgoes
      · refine (spared_of_run hrun hs' hk).advances hs'.processor ?_
        refine hlost.resolve_right ?_
        rintro ⟨act, hact, hmem, rfl, -⟩
        exact hk (WaitsOn.constructed (h.waitsOn hact (hgone _ hmem)) h.registry.maps hct).symm

theorem dropsActionAt_iff {udn ipAddress : String} {uc : Option DeviceNewCt} {dev : Device}
    {context : DeviceContext} (h : w.Departing udn ipAddress d uc dev context) :
    w.DropsActionAt k udn ipAddress ↔
      dev.contexts.eraseP (fun context => context.ipAddress = ipAddress) ≠ [] ∧
        ∃ act ∈ w.gupnp.actions, act.task.queueId = k ∧
          act.proxy ∈ context.serviceProxies.toList := by
  constructor
  · rintro ⟨d', uc', dev', context', hfind, hdev, hcontext, hdrops⟩
    obtain ⟨rfl, rfl⟩ := Prod.mk.inj (Option.some.inj (h.find.symm.trans hfind))
    obtain rfl := Option.some.inj (h.device.symm.trans hdev)
    obtain rfl := Option.some.inj (h.context.symm.trans hcontext)
    exact hdrops
  · exact fun hdrops => ⟨d, uc, dev, context, h.find, h.device, h.context, hdrops⟩

/-- While the device keeps other contexts, the actions that are lost decide. -/
theorem Frees.advances_iff {gone : List ServiceProxy} (hf : Frees gone w w')
    (hs : ServiceOk handled w) (hadv : w.AdvancesIf strict k) :
    w'.AdvancesIf strict k ↔
      (strict → ¬∃ act ∈ w.gupnp.actions, act.task.queueId = k ∧ act.proxy ∈ gone) := by
  rcases hf.advances_or hs hadv with hgoes | ⟨act, hact, hgone, hk, q, hq, ha, hgoes⟩
  · refine iff_of_true hgoes ?_
    rintro hstrict ⟨act, hact, rfl, hgone⟩
    obtain ⟨q, hq, ha⟩ := (hs.outer.actions.awaited act hact).1
    have hq' : w'.queue? act.task.queueId = some q := by
      unfold World.queue?
      rw [hf.processor]
      exact hq
    exact ((hgoes q hq').running _ ha hstrict).pending (hf.strands hs hact hgone)
  · exact advances_stuck ⟨act, hact, hk, hgone⟩ hq ha hgoes.flags hgoes.deferred
      (hf.strands hs hact hgone)

theorem advances_lostContext {udn ipAddress : String} {uc : Option DeviceNewCt} {dev : Device}
    {context : DeviceContext} (h : PendingOk w)
    (hdeparting : w.Departing udn ipAddress d uc dev context)
    (hlast : dev.contexts.eraseP (fun context => context.ipAddress = ipAddress) = [])
    (hadv : w.AdvancesIf strict k)
    (hfault : (prvServerLost udn d dev.path uc
      (w.removeContext d dev context ipAddress)).fault = none) :
    (prvServerLost udn d dev.path uc
      (w.removeContext d dev context ipAddress)).AdvancesIf strict k := by
  have hf := frees_departing w d dev context ipAddress
  have hd : w.core d = some dev.core := core_of_device hdeparting.device
  have howns : ∀ p ∈ context.serviceProxies.toList, w.Owns d p := fun p hp =>
    ⟨dev.core, hd, DeviceCore.mem_proxies.mpr ⟨context.core, List.mem_map.mpr
      ⟨context, List.mem_of_find?_eq_some hdeparting.context, rfl⟩, hp⟩⟩
  have hs₁ := h.service.departing hdeparting
  rcases find_some hdeparting.find with ⟨hudn, rfl⟩ | ⟨ct, hct, rfl, rfl⟩
  · have hfollows := follows_removeContext hdeparting.device context ipAddress
    refine advances_lostKnown h hudn hdeparting.device hf howns hfollows hs₁ ?_ hadv
    rw [World.removeContext, (frees_removeContext d dev context _).2, if_pos rfl, hlast]
    rfl
  · have hconstructs : w.Constructs ct := by
      rw [World.Constructs, (h.registry.maps.uc _ ct hct).1]
      exact hct
    exact advances_lostConstruction h hconstructs hf howns hs₁ hadv hfault

theorem advances_prvServerUnavailableCb (udn ipAddress : String) (h : PendingOk w)
    (hadv : w.AdvancesIf strict k)
    (hfault : (prvServerUnavailableCb udn ipAddress w).fault = none) :
    (prvServerUnavailableCb udn ipAddress w).AdvancesIf strict k ↔
      (strict → ¬w.DropsActionAt k udn ipAddress) := by
  cases departure udn ipAddress w with
  | ignored hnone heq =>
      rw [heq]
      refine iff_of_true hadv ?_
      rintro - ⟨d, uc, dev, context, hfind, hdev, hcontext, -⟩
      exact hnone d uc dev context ⟨hfind, hdev, hcontext⟩
  | dangling _ _ heq =>
      rw [heq] at hfault
      exact absurd hfault (fault_crash _ _)
  | last hdeparting hlast heq =>
      rw [heq] at hfault
      rw [heq, dropsActionAt_iff hdeparting]
      exact iff_of_true (advances_lostContext h hdeparting hlast hadv hfault)
        fun _ hdrops => hdrops.1 hlast
  | @later d _ dev context hdeparting hothers _ heq =>
      rw [heq, dropsActionAt_iff hdeparting, and_iff_right hothers]
      have hf : Frees context.serviceProxies.toList w
          (subscribeLater d (w.removeContext d dev context ipAddress)) := by
        have htimer := (frees_departing w d dev context ipAddress).trans
          (.of_cosmetic (cosmetic_subscribeLater d))
        rwa [List.append_nil] at htimer
      exact hf.advances_iff h.service hadv
  | @other d _ dev context hdeparting hothers _ heq =>
      rw [heq, dropsActionAt_iff hdeparting, and_iff_right hothers]
      exact (frees_departing w d dev context ipAddress).advances_iff h.service hadv

/-! ## The end of a construction -/

theorem advances_finallyIdle (h : PendingOk w) (hmem : q ∈ w.loop.finallyIdles)
    (hadv : w.AdvancesIf strict k) : (exec w (.finallyIdle q)).AdvancesIf strict k := by
  obtain ⟨ct, hdata, hct, hnone, -⟩ := h.registry.constructions.idles q hmem
  have hok := h.service.processor
  let w₁ := (w.setLoop { w.loop with finallyIdles := w.loop.finallyIdles.erase q }).emit
    (.chainEnd q.cancelled ct.udn)
  show (prvTaskQueueFinallyCb q _).AdvancesIf strict k
  simp only [prvTaskQueueFinallyCb, hdata, prvDeviceChainEnd]
  split
  · refine advances_rsuDeviceDelete ?_ (fun act hact howns => ?_)
      (advances_of_same hadv hok rfl rfl rfl rfl)
    · exact hok.congr rfl rfl rfl rfl rfl rfl rfl
    · have hkey := WaitsOn.constructed (h.waitsOn hact howns) h.registry.maps hct
      obtain ⟨q', hq', -⟩ := (h.service.outer.actions.awaited act hact).1
      rw [← hkey, hnone] at hq'
      exact absurd hq' (by simp)
  · unfold World.withDevice
    split
    next dev hdev =>
      have hnew : w.upnp.serverUdnMap.lookup ct.udn = none := by
        cases hlookup : w.upnp.serverUdnMap.lookup ct.udn with
        | none => rfl
        | some d => exact absurd rfl (h.registry.maps.apart _ _ d ct hlookup hct).1
      have hinsert : serverUdnMapInsert ct.udn ct.device w₁ =
          w₁.setUdnMap (w.upnp.serverUdnMap.insert ct.udn ct.device) := by
        have hnew₁ : w₁.upnp.serverUdnMap.lookup ct.udn = none := hnew
        simp only [serverUdnMapInsert, hnew₁]
        rfl
      exact advances_of_same hadv hok (congrArg (fun w => w.processor) hinsert)
        (congrArg (fun w => w.tasks) hinsert) (congrArg (fun w => w.gupnp.actions) hinsert)
        (congrArg (fun w => w.loop.completeIdles) hinsert)
    · exact advances_of_same hadv hok rfl rfl rfl rfl

end RendererService
