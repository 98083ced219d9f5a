import RendererService.Service.Callbacks
import Mathlib.Data.List.TakeWhile

/-!
# Processing under the invariant of the service

A task that has just become current is carried out: a request completes, begins
its one action or schedules its completion.  The replies to actions and the
completions that were scheduled end what was begun.
-/

namespace RendererService

variable {w w' : World} {a : TaskAtom} {handled : Option Nat} {mine : TaskQueueKey → Prop}

/-! ## Requests -/

/-- What a command that begins an action writes to the record of its task. -/
def ClientTask.begun (t : ClientTask) (d : Nat) (localCb : Option DeviceLocalCb)
    (proxy : Option ServiceProxy) (action : Option Nat) : ClientTask :=
  { t with
    device := some d
    localCb := localCb
    cancellable := t.cancellable.map fun c => { c with connected := true }
    proxy := proxy
    action := action }

def World.beginAction (w : World) (act : ProxyAction) : World :=
  { w with gupnp := { w.gupnp with
      actions := w.gupnp.actions ++ [act]
      nextAction := w.gupnp.nextAction + 1 } }

theorem mem_beginAction {act act' : ProxyAction} (hne : act'.task ≠ act.task) :
    act' ∈ (w.beginAction act).gupnp.actions ↔ act' ∈ w.gupnp.actions := by
  have hactions : (w.beginAction act).gupnp.actions = w.gupnp.actions ++ [act] := rfl
  rw [hactions, List.mem_append, List.mem_singleton]
  exact or_iff_left fun heq => hne (heq ▸ rfl)

theorem beginAction_setTask (w : World) (a : TaskAtom) (r : Option Task) (act : ProxyAction) :
    (w.setTask a r).beginAction act = (w.beginAction act).setTask a r := rfl

section Begin

variable {t : ClientTask} {d : Nat} {dev : Device} {context : DeviceContext} {kind : ServiceKind}
  {name : String} {callback : ActionCallback} {localCb : Option DeviceLocalCb}

theorem setHostService_setTask (h : HostService) (r : Option Task) :
    (w.setTask a r).setHostService h = (w.setHostService h).setTask a r := rfl

theorem beginCommand_none (ht : w.tasks a = some (.client t)) (hdev : w.devices d = some dev)
    (hcontext : rsuDeviceGetContext dev = some context)
    (hproxy : context.serviceProxies.get kind = none) :
    beginCommand d kind name callback localCb a w =
      w.setTask a (some (.client (t.begun d localCb none none))) := by
  simp only [beginCommand, World.withContext, World.withDevice, hdev, hcontext, hproxy,
    modifyClient_eq ht, gupnpServiceProxyBeginAction]
  rw [modifyClient_eq (tasks_setTask _ _ _), setTask_setTask]
  rfl

theorem beginCommand_some (ht : w.tasks a = some (.client t)) (hdev : w.devices d = some dev)
    (hcontext : rsuDeviceGetContext dev = some context) {p : ServiceProxy}
    (hproxy : context.serviceProxies.get kind = some p) :
    beginCommand d kind name callback localCb a w =
      (w.beginAction ⟨w.gupnp.nextAction, p, name, callback, a⟩).setTask a
        (some (.client (t.begun d localCb (some p) (some w.gupnp.nextAction)))) := by
  simp only [beginCommand, World.withContext, World.withDevice, hdev, hcontext, hproxy,
    modifyClient_eq ht, gupnpServiceProxyBeginAction]
  change
    ((w.setTask a _).beginAction ⟨w.gupnp.nextAction, p, name, callback, a⟩).modifyClient a _ = _
  rw [beginAction_setTask, modifyClient_eq (tasks_setTask _ _ _), setTask_setTask]
  rfl

/-- The services of the preferred context of a device are live. -/
theorem DevicesOk.preferred_live (h : DevicesOk w) (hdev : w.devices d = some dev)
    (hcontext : rsuDeviceGetContext dev = some context) {p : ServiceProxy}
    (hproxy : context.serviceProxies.get kind = some p) : p ∈ w.gupnp.proxies := by
  refine h.live d dev.core context.core p (core_of_device hdev) ?_
    (ServiceProxies.mem_of_get hproxy)
  exact List.mem_map_of_mem (rsuDeviceGetContext_mem hcontext)

end Begin

theorem CompletionsOk.wait (h : CompletionsOk w) {t : ClientTask}
    (ht : w.tasks a = some (.client t)) (hopen : t.Unscheduled) (htouch : Touches a w w')
    (hlog : w'.log = w.log) (hidles : w'.loop.completeIdles = w.loop.completeIdles) :
    CompletionsOk w' := by
  refine h.rewrite htouch (by rw [hlog, List.append_nil]) (by simp) hidles ?_ ?_
  · intro t' ht' hclosed
    obtain rfl : t = t' := by simpa using ht.symm.trans ht'
    exact absurd hopen hclosed
  · exact fun _ _ _ => ⟨t, ht, hopen⟩

/-- The request of a task that was just handed over is carried out. -/
theorem Command.serves {path : String} {t : ClientTask} (h : ServiceOk handled w)
    (ha : w.Current a) (hmine : mine a.queueId) (ht : w.tasks a = some (.client t))
    (hfresh : t.cancellable = none) (hcommand : Command path a (w.markCancellable a) w') :
    (serviceSteps mine handled).Run w w' := by
  have htouch : Touches a w w' := touches_markCancellable.trans hcommand.touches
  have hquiet : w.Quiet a := h.outer.quiet_client ht hfresh
  have hmark : w.markCancellable a =
      w.setTask a (some (.client { t with cancellable := some {} })) := modifyClient_eq ht _
  have hidle : w'.gupnp.actions = w.gupnp.actions → w'.gupnp.nextAction = w.gupnp.nextAction →
      w'.log = w.log → w'.loop.completeIdles = w.loop.completeIdles →
      (∀ id, w'.Names a id → w.Names a id) → (serviceSteps mine handled).Run w w' := by
    intro hactions hnext hlog hidles hown
    refine h.touches ha hmine (htouch.focus hactions hidles) ?_
      (h.outer.completions.wait ht (.inl hfresh) htouch hlog hidles)
    exact h.outer.actions.settle htouch (by rw [hactions]) hnext hown
      (by unfold World.NoAction; rw [hactions]; exact hquiet.1)
  rw [hmark] at hcommand
  cases hcommand with
  | @complete f hs hf =>
      have heq : completeWith a f ((w.setTask a (some (.client { t with cancellable := some {} }))
          ).setHostService hs) = ((w.setTask a (some (.client (f { t with
            cancellable := some {} })))).setHostService hs).idleAddComplete a := by
        rw [completeWith, setHostService_setTask, modifyClient_eq (tasks_setTask _ _ _),
          setTask_setTask, setHostService_setTask]
      rw [heq] at htouch ⊢
      have hset : Focus a w ((w.setTask a (some (.client (f { t with
          cancellable := some {} })))).setHostService hs) :=
        ((touches_setClient ht (hf { t with cancellable := some {} }).1).trans
          (touches_setHostService hs)).focus rfl rfl
      refine h.touches ha hmine (hset.trans focus_idleAddComplete)
        (h.outer.actions.settle htouch (.refl _) rfl ?_ hquiet.1) ?_
      · refine fun id => names_of_setTask ht fun _ hname => ?_
        rw [Task.action, (hf _).2.2.1] at hname
        exact hname
      · refine h.schedule ha ht (.inl hfresh) htouch rfl rfl (tasks_setTask _ _ _) ?_
        simp [ClientTask.Unscheduled, ClientTask.Armed, (hf _).2.1]
  | @begin d kind name callback localCb hd hcallback =>
      rcases withContext_cases
          (w.setTask a (some (.client { t with cancellable := some {} }))) d with
        ⟨f, hf, hcrash⟩ | ⟨dev, context, hdev, hcontext⟩
      · rw [beginCommand, hcrash] at hidle ⊢
        exact hidle rfl rfl rfl rfl fun id => names_of_setTask ht fun _ hname => hname
      · cases hproxy : context.serviceProxies.get kind with
        | none =>
            rw [beginCommand_none (tasks_setTask _ _ _) hdev hcontext hproxy, setTask_setTask]
              at hidle ⊢
            refine hidle rfl rfl rfl rfl fun id => names_of_setTask ht fun _ hname => ?_
            simp [Task.action, ClientTask.begun] at hname
        | some p =>
            rw [beginCommand_some (tasks_setTask _ _ _) hdev hcontext hproxy,
              beginAction_setTask, setTask_setTask] at htouch ⊢
            refine h.touches ha hmine ⟨htouch, fun act hact => ?_, fun _ _ => Iff.rfl⟩ ?_
              (h.outer.completions.wait ht (.inl hfresh) htouch rfl rfl)
            · exact mem_beginAction hact
            refine h.outer.actions.begin htouch rfl rfl rfl rfl ha ?_
              (h.outer.devices.preferred_live hdev hcontext hproxy) hquiet.1
            rw [tasks_setTask]
            exact ⟨rfl, rfl, rfl, hcallback⟩
  | crash _ _ _ =>
      exact hidle rfl rfl rfl rfl fun id => names_of_setTask ht fun _ hname => hname

theorem prvProcessAsyncTask_serves {t : ClientTask} (env : Environment) (h : ServiceOk handled w)
    (ha : w.Current a) (hmine : mine a.queueId) (ht : w.tasks a = some (.client t))
    (hfresh : t.cancellable = none) :
    (serviceSteps mine handled).Run w (prvProcessAsyncTask env a w) := by
  cases hasync : t.type.isAsync with
  | true => exact (prvProcessAsyncTask_command env ht hasync).serves h ha hmine ht hfresh
  | false =>
      have htouch : Touches a w (w.markCancellable a) := touches_markCancellable
      rw [prvProcessAsyncTask_sync env ht hasync]
      have hquiet : w.Quiet a := h.outer.quiet_client ht hfresh
      rw [World.markCancellable, modifyClient_eq ht] at htouch ⊢
      refine h.touches ha hmine (htouch.focus rfl rfl)
        (h.outer.actions.settle htouch (.refl _) rfl ?_ hquiet.1)
        (h.outer.completions.wait ht (.inl hfresh) htouch rfl rfl)
      exact fun id => names_of_setTask ht fun _ hname => hname

theorem prvProcessSyncTask_serves {q : TaskQueue} {t : ClientTask} (h : ServiceOk handled w)
    (hmine : mine a.queueId) (hq : w.queue? a.queueId = some q) (ha : q.currentTask = some a)
    (ht : w.tasks a = some (.client t)) (hfresh : t.cancellable = none) :
    (serviceSteps mine handled).Run w (prvProcessSyncTask a w) := by
  have hquiet : w.Quiet a := h.outer.quiet_client ht hfresh
  simp only [prvProcessSyncTask, World.withClient, ht]
  split
  · exact answerTask_complete h hmine hq ha hquiet ht _
  · have htouch : Touches a w (w.modifyClient a fun t =>
        { t with result := some (.servers (rsuUpnpGetServerIds w)) }) :=
      touches_modifyClient fun _ => ⟨rfl, rfl, rfl, rfl⟩
    rw [modifyClient_eq ht] at htouch ⊢
    have hown : ∀ id, (w.setTask a (some (.client { t with
        result := some (.servers (rsuUpnpGetServerIds w)) }))).Names a id → w.Names a id :=
      fun id => names_of_setTask ht fun _ hname => hname
    have hfirst := h.touches ⟨q, hq, ha⟩ hmine (htouch.focus rfl rfl)
      (h.outer.actions.settle htouch (.refl _) rfl hown hquiet.1)
      (h.outer.completions.wait ht (.inl hfresh) htouch rfl rfl)
    exact hfirst.trans (answerTask_complete (hfirst.inv h) hmine
      ((htouch.queue? _).trans hq) ha hquiet (tasks_setTask _ _ _) _)
  · exact answerTask_complete h hmine hq ha hquiet ht _
  · exact answerTask_complete h hmine hq ha hquiet ht _
  · exact .refl

/-! ## Construction -/

/-- The completions are not concerned with the record of a service task. -/
theorem CompletionsOk.service (h : CompletionsOk w) {t : ServiceTask} (pAction : Option Nat)
    (ht : w.tasks a = some (.service t)) (htouch : Touches a w w') (hlog : w'.log = w.log)
    (hidles : w'.loop.completeIdles = w.loop.completeIdles)
    (ht' : w'.tasks a = some (.service { t with pAction := pAction })) : CompletionsOk w' := by
  refine h.rewrite htouch (by rw [hlog, List.append_nil]) (by simp) hidles ?_ ?_
  · intro t' hclient
    simp [ht] at hclient
  · intro t' hclient
    simp [ht'] at hclient

theorem weak_mem {g : Gupnp} {p : Option ServiceProxy} {p' : ServiceProxy}
    (h : g.weak p = some p') : p = some p' ∧ p' ∈ g.proxies := by
  simpa [Gupnp.weak, Option.filter_eq_some_iff] using h

/-- What a construction step returns: it begins an action, is over at once, or
fails because an interface cannot be registered. -/
inductive Construction (env : Environment) (t : ServiceTask) (a : TaskAtom) (w : World) :
    Option Nat × Bool × World → Prop
  | begun {p : ServiceProxy} :
      w.gupnp.weak t.proxy = some p →
      Construction env t a w (some w.gupnp.nextAction, false, w.beginAction
        ⟨w.gupnp.nextAction, p, "GetProtocolInfo", .rsuServiceTaskBeginActionCb, a⟩)
  | done {w' : World} : Cosmetic w w' → Construction env t a w (none, false, w')
  | failed {w' : World} :
      Cosmetic w w' → (∃ i < rsuInterfaceInfoMax, env.registered i = 0) →
      Construction env t a w (none, true, w')

theorem serviceTaskAction_construction (env : Environment) (t : ServiceTask) (a : TaskAtom)
    (w : World) : Construction env t a w (serviceTaskAction env t.tAction t a w) := by
  cases t.tAction with
  | prvGetProtocolInfo =>
      have heq : serviceTaskAction env .prvGetProtocolInfo t a w =
          ((gupnpServiceProxyBeginAction (w.gupnp.weak t.proxy) "GetProtocolInfo"
            .rsuServiceTaskBeginActionCb a w).1, false,
            (gupnpServiceProxyBeginAction (w.gupnp.weak t.proxy) "GetProtocolInfo"
              .rsuServiceTaskBeginActionCb a w).2) := rfl
      rw [heq]
      cases hproxy : w.gupnp.weak t.proxy with
      | none => exact .done .refl
      | some p => exact .begun hproxy
  | prvSubscribe => exact .done (cosmetic_prvDeviceSubscribeContext _)
  | prvDeclare =>
      by_cases hdeclared : (((List.range rsuInterfaceInfoMax).map env.registered).takeWhile
          fun id => id ≠ 0).length < rsuInterfaceInfoMax
      · have heq : serviceTaskAction env .prvDeclare t a w =
            (none, true, (prvDeclare env t w).2.2) := by
          simp only [serviceTaskAction, prvDeclare, hdeclared, decide_true]
        rw [heq]
        refine .failed (cosmetic_prvDeclare env t) ?_
        by_contra hall
        have hids : ((List.range rsuInterfaceInfoMax).map env.registered).takeWhile
            (fun id => id ≠ 0) = (List.range rsuInterfaceInfoMax).map env.registered := by
          rw [List.takeWhile_eq_self_iff]
          intro id hid
          obtain ⟨i, hi, rfl⟩ := List.mem_map.mp hid
          simp only [decide_eq_true_eq]
          exact fun hzero => hall ⟨i, List.mem_range.mp hi, hzero⟩
        rw [hids, List.length_map, List.length_range] at hdeclared
        exact Nat.lt_irrefl _ hdeclared
      · have heq : serviceTaskAction env .prvDeclare t a w =
            (none, false, (prvDeclare env t w).2.2) := by
          simp only [serviceTaskAction, prvDeclare, hdeclared, decide_false]
        rw [heq]
        exact .done (cosmetic_prvDeclare env t)

theorem rsuServiceTaskProcessCb_serves {q : TaskQueue} {t : ServiceTask} (env : Environment)
    (h : ServiceOk handled w) (hmine : mine a.queueId) (hq : w.queue? a.queueId = some q)
    (ha : q.currentTask = some a) (ht : w.tasks a = some (.service t)) (hfresh : t.pAction = none) :
    (serviceSteps mine handled).Run w (rsuServiceTaskProcessCb (serviceTaskAction env) a w) := by
  have hnone : w.NoAction a := h.outer.actions.noAction_service ht hfresh
  have hidles : a ∉ w.loop.completeIdles := h.outer.not_complete_service ht
  have hover : ∀ {w' : World}, Cosmetic w w' →
      Focus a w (w'.setTask a (some (.service { t with pAction := none }))) ∧
        ActionsOk (w'.setTask a (some (.service { t with pAction := none }))) ∧
        CompletionsOk (w'.setTask a (some (.service { t with pAction := none }))) ∧
        (w'.setTask a (some (.service { t with pAction := none }))).Quiet a := by
    intro w' hc
    have htouch : Touches a w (w'.setTask a (some (.service { t with pAction := none }))) :=
      (Touches.of_cosmetic hc).trans (touches_setService none (by rw [hc.tasks, ht]))
    have hnone' : (w'.setTask a (some (.service { t with pAction := none }))).NoAction a := by
      show ∀ act ∈ w'.gupnp.actions, act.task ≠ a
      rw [hc.actions]
      exact hnone
    refine ⟨htouch.focus hc.actions hc.completeIdles, ?_, ?_, hnone', ?_⟩
    · refine h.outer.actions.settle htouch ?_ hc.nextAction ?_ hnone'
      · show w'.gupnp.actions.Sublist w.gupnp.actions
        rw [hc.actions]
      · refine fun id => names_of_setTask ht fun _ hname => ?_
        simp [Task.action] at hname
    · exact h.outer.completions.service none ht htouch hc.log hc.completeIdles
        (tasks_setTask _ _ _)
    · show a ∉ w'.loop.completeIdles
      rw [hc.completeIdles]
      exact hidles
  simp only [rsuServiceTaskProcessCb, World.withService, ht]
  have hcases := serviceTaskAction_construction env t a w
  revert hcases
  generalize serviceTaskAction env t.tAction t a w = r
  intro hcases
  cases hcases with
  | @begun p hproxy =>
      obtain ⟨hp, hlive⟩ := weak_mem hproxy
      have htouch : Touches a w ((w.beginAction
          ⟨w.gupnp.nextAction, p, "GetProtocolInfo", .rsuServiceTaskBeginActionCb, a⟩).setTask a
            (some (.service { t with pAction := some w.gupnp.nextAction }))) :=
        (touches_actions _ _).trans (touches_setService _ ht)
      have hactions := h.outer.actions.begin htouch rfl rfl rfl rfl ⟨q, hq, ha⟩
        (by rw [tasks_setTask]; exact ⟨rfl, hp, rfl⟩) hlive hnone
      exact h.touches ⟨q, hq, ha⟩ hmine
        ⟨htouch, fun act hact => mem_beginAction hact, fun _ _ => Iff.rfl⟩ hactions
        (h.outer.completions.service _ ht htouch rfl rfl (tasks_setTask _ _ _))
  | done hc =>
      obtain ⟨hfocus, hactions, hcompletions, hquiet⟩ := hover hc
      exact h.touches_complete hmine hq ha hfocus hactions hcompletions hquiet
  | failed hc _ =>
      obtain ⟨hfocus, hactions, hcompletions, -⟩ := hover hc
      have hfirst := h.touches ⟨q, hq, ha⟩ hmine hfocus hactions hcompletions
      exact hfirst.trans (rsuTaskProcessorCancelQueue_run serviceSteps_cancels (hfirst.inv h)
        hmine ((hfocus.queue? _).trans hq))

/-! ## The idle of a queue -/

/-- The process callbacks, on the task that has just become current. -/
theorem taskProcessCb_serves {q : TaskQueue} (env : Environment) (h : ServiceOk handled w)
    (hmine : mine a.queueId) (hq : w.queue? a.queueId = some q) (ha : q.currentTask = some a)
    (hfresh : q.callbacks.Fresh (w.tasks a)) :
    (serviceSteps mine handled).Run w (taskProcessCb env q.callbacks a w) := by
  cases hcs : q.callbacks with
  | client =>
      rw [hcs] at hfresh
      obtain ⟨t, ht⟩ := TaskCallbacks.live_client hfresh.live
      have hnone : t.cancellable = none := by simpa [TaskCallbacks.Fresh, ht] using hfresh
      simp only [taskProcessCb, prvProcessTask, World.withClient, ht]
      split
      · exact prvProcessSyncTask_serves h hmine hq ha ht hnone
      · exact prvProcessAsyncTask_serves env h ⟨q, hq, ha⟩ hmine ht hnone
  | service =>
      rw [hcs] at hfresh
      obtain ⟨t, ht⟩ := TaskCallbacks.live_service hfresh.live
      have hnone : t.pAction = none := by simpa [TaskCallbacks.Fresh, ht] using hfresh
      exact rsuServiceTaskProcessCb_serves env h hmine hq ha ht hnone

theorem prvTaskQueueProcessTask_serves {id : Nat} {k : TaskQueueKey} (env : Environment)
    (h : ServiceOk handled w) (hmine : mine k) (hidle : (id, k) ∈ w.loop.processIdles) :
    (serviceSteps mine handled).Run w
      (prvTaskQueueProcessTask (taskProcessCb env) k (w.sourceRemoveProcess id)) := by
  obtain ⟨q, a, rest, hq, rfl, hne, hcons, rfl, heq⟩ :=
    prvTaskQueueProcessTask_dispatch env h.processor hidle
  have hfirst : (serviceSteps mine handled).Run w
      ((w.sourceRemoveProcess q.idleId).dispatchTask a.queueId a rest) :=
    .one (.dispatch hq hne hcons) ⟨trivial, hmine⟩
  have hq' : ((w.sourceRemoveProcess q.idleId).dispatchTask a.queueId a rest).queue? a.queueId =
      some { q with cancelled := false, idleId := 0, currentTask := some a, tasks := rest } := by
    rw [queue?_dispatchTask, if_pos rfl]
    exact congrArg _ hq
  rw [heq]
  exact hfirst.trans (taskProcessCb_serves
    (q := { q with cancelled := false, idleId := 0, currentTask := some a, tasks := rest }) env
    (hfirst.inv h) hmine hq' rfl ((h.processor.queues _ q hq).fresh a (hcons ▸ List.mem_cons_self)))

/-! ## Replies -/

/-- A change of a client task that disconnects its cancel handler. -/
def ClientTask.Disconnects (t t' : ClientTask) : Prop :=
  t.Keeps t' ∧ t'.action = t.action ∧ t'.proxy = t.proxy ∧
    t'.cancellable = t.cancellable.map fun c => { c with connected := false }

theorem gCancellableDisconnect_disconnects {t t' : ClientTask} (h : t.Reports t') :
    t.Disconnects (gCancellableDisconnect t') :=
  ⟨h.1, h.2.2.1, h.2.2.2, by rw [gCancellableDisconnect, h.2.1]⟩

theorem endAction_reports (env : Environment) (what : String) (t : ClientTask) :
    t.Reports (endAction env what t) := by
  unfold endAction
  split <;> exact ⟨⟨rfl, rfl, rfl, rfl⟩, rfl, rfl, rfl⟩

theorem ClientTask.Reports.trans {t t' t'' : ClientTask} (h : t.Reports t') (h' : t'.Reports t'') :
    t.Reports t'' := by
  obtain ⟨⟨htype, hpath, hsync, hinvocation⟩, hcancellable, haction, hproxy⟩ := h
  obtain ⟨⟨htype', hpath', hsync', hinvocation'⟩, hcancellable', haction', hproxy'⟩ := h'
  exact ⟨⟨htype'.trans htype, hpath'.trans hpath, hsync'.trans hsync,
    hinvocation'.trans hinvocation⟩, hcancellable'.trans hcancellable, haction'.trans haction,
    hproxy'.trans hproxy⟩

theorem deviceLocalCb_disconnects (env : Environment) (cb : DeviceLocalCb) {t t' : ClientTask}
    (h : t.Reports t') : t.Disconnects (deviceLocalCb env cb t') := by
  cases cb with
  | prvCompleteGetProp =>
      simp only [deviceLocalCb, prvCompleteGetProp]
      split
      · exact gCancellableDisconnect_disconnects (h.trans (prvGetProp_reports env t' _))
      · exact gCancellableDisconnect_disconnects h
  | prvCompleteGetProps =>
      simp only [deviceLocalCb, prvCompleteGetProps]
      split
      · exact gCancellableDisconnect_disconnects (h.trans (prvGetProps_reports t' _))
      · exact gCancellableDisconnect_disconnects h

section Reply

variable {action : ProxyAction} (h : ServiceOk handled w) (haction : action ∈ w.gupnp.actions)

theorem focus_dropReply (action : ProxyAction) :
    Focus action.task w (w.dropReply action) := by
  refine ⟨touches_actions _ _, fun act hact => ?_, fun _ _ => Iff.rfl⟩
  have hne : act ≠ action := fun heq => hact (heq ▸ rfl)
  exact List.mem_erase_of_ne hne

include h haction

theorem dropReply_noAction : (w.dropReply action).NoAction action.task := by
  intro act hact htask
  have hnodup : w.gupnp.actions.Nodup := .of_map _ h.outer.actions.ids
  obtain ⟨hne, hmem⟩ := hnodup.mem_erase_iff.mp hact
  exact hne (h.outer.actions.unique hmem haction htask)

/-- The record of the task changes once the reply to its action has come. -/
theorem dropReply_actionsOk (htouch : Touches action.task w w')
    (hactions : w'.gupnp.actions = (w.dropReply action).gupnp.actions)
    (hnext : w'.gupnp.nextAction = w.gupnp.nextAction)
    (hown : ∀ id, w'.Names action.task id → w.Names action.task id) : ActionsOk w' := by
  refine h.outer.actions.settle htouch ?_ hnext hown ?_
  · rw [hactions]
    exact List.erase_sublist
  · unfold World.NoAction
    rw [hactions]
    exact dropReply_noAction h haction

/-- The reply to the action of a client task schedules its completion. -/
theorem completeWith_serves (hmine : mine action.task.queueId)
    (hcallback : action.callback ≠ .rsuServiceTaskBeginActionCb)
    {f : ClientTask → ClientTask} (hf : ∀ t : ClientTask, t.Disconnects (f t)) :
    (serviceSteps mine handled).Run w (completeWith action.task f (w.dropReply action)) := by
  obtain ⟨hcurrent, hexpects⟩ := h.outer.actions.awaited action haction
  have htouch : Touches action.task w (completeWith action.task f (w.dropReply action)) :=
    (touches_actions _ _).trans (touches_completeWith fun t => (hf t).1)
  rcases hr : w.tasks action.task with _ | t | t
  · rw [hr] at hexpects
    exact hexpects.elim
  · rw [hr] at hexpects
    have ht : (w.dropReply action).tasks action.task = some (.client t) := hr
    have hcancellable : t.cancellable = some { cancelled := false, connected := true } :=
      hexpects.2.2.1
    rw [completeWith, modifyClient_eq ht] at htouch ⊢
    have hset : Focus action.task (w.dropReply action)
        ((w.dropReply action).setTask action.task (some (.client (f t)))) :=
      (touches_setClient ht (hf t).1).focus rfl rfl
    have hown : ∀ id, (((w.dropReply action).setTask action.task
        (some (.client (f t)))).idleAddComplete action.task).Names action.task id →
          w.Names action.task id := by
      refine fun id => names_of_setTask hr fun _ hname => ?_
      rw [Task.action, (hf t).2.1] at hname
      exact hname
    refine h.touches hcurrent hmine
      ((focus_dropReply action).trans (hset.trans focus_idleAddComplete))
      (dropReply_actionsOk h haction htouch rfl rfl hown) ?_
    refine h.schedule hcurrent hr (.inr hexpects.2.2.1) htouch rfl rfl (tasks_setTask _ _ _) ?_
    simp [ClientTask.Unscheduled, ClientTask.Armed, (hf t).2.2.2, hcancellable]
  · rw [hr] at hexpects
    exact absurd hexpects.2.2 hcallback

theorem rsuServiceTaskBeginActionCb_serves (env : Environment)
    (hmine : mine action.task.queueId)
    (hcallback : action.callback = .rsuServiceTaskBeginActionCb) :
    (serviceSteps mine handled).Run w
      (rsuServiceTaskBeginActionCb (serviceTaskCallback env) action.task (w.dropReply action)) := by
  obtain ⟨⟨q, hq, ha⟩, hexpects⟩ := h.outer.actions.awaited action haction
  rcases hr : w.tasks action.task with _ | t | t
  · rw [hr] at hexpects
    exact hexpects.elim
  · rw [hr] at hexpects
    exact absurd hcallback hexpects.2.2.2
  · have ht : (w.dropReply action).tasks action.task = some (.service t) := hr
    have htouch : Touches action.task w ((w.dropReply action).setTask action.task
        (some (.service { t with pAction := none }))) :=
      (touches_actions _ _).trans (touches_setService none ht)
    have hset : Focus action.task (w.dropReply action) ((w.dropReply action).setTask action.task
        (some (.service { t with pAction := none }))) := (touches_setService none ht).focus rfl rfl
    have hfocus := (focus_dropReply action).trans hset
    have hown : ∀ id, ((w.dropReply action).setTask action.task
        (some (.service { t with pAction := none }))).Names action.task id →
          w.Names action.task id :=
      fun id => names_of_setTask hr fun _ hname => absurd hname (by simp [Task.action])
    have hactions := dropReply_actionsOk h haction htouch rfl rfl hown
    have hcompletions := h.outer.completions.service none hr htouch rfl rfl (tasks_setTask _ _ _)
    simp only [rsuServiceTaskBeginActionCb, World.withService, ht]
    have hcrash : ∀ f : Fault, (∀ k, f ≠ .deadQueueKey k) → Touches action.task
        ((w.dropReply action).setTask action.task (some (.service { t with pAction := none })))
        (((w.dropReply action).setTask action.task
          (some (.service { t with pAction := none }))).crash f) := fun _ hf => touches_crash hf
    split
    · have hnull := hcrash (.nullCallback action.task) (by simp)
      refine h.touches ⟨q, hq, ha⟩ hmine (hfocus.trans (hnull.focus rfl rfl)) ?_ ?_
      · exact dropReply_actionsOk h haction (htouch.trans hnull) rfl rfl hown
      · exact h.outer.completions.service none hr (htouch.trans hnull) rfl rfl
          (tasks_setTask _ _ _)
    next cb _ =>
      cases cb with
      | prvGetProtocolInfoCb =>
          have hquiet := And.intro (dropReply_noAction h haction) (h.outer.not_complete_service hr)
          rw [serviceTaskCallback]
          rcases prvGetProtocolInfoCb_cases env t ((w.dropReply action).setTask action.task
            (some (.service { t with pAction := none }))) with heq | heq
          · rw [heq]
            exact h.touches_complete hmine hq ha hfocus hactions hcompletions hquiet
          · have hdead := hcrash (.deadDevice t.device) (by simp)
            rw [heq]
            refine h.touches_complete hmine hq ha (hfocus.trans (hdead.focus rfl rfl)) ?_ ?_ hquiet
            · exact dropReply_actionsOk h haction (htouch.trans hdead) rfl rfl hown
            · exact h.outer.completions.service none hr (htouch.trans hdead) rfl rfl
                (tasks_setTask _ _ _)

theorem actionReply_serves (hmine : mine action.task.queueId) (env : Environment) :
    (serviceSteps mine handled).Run w (actionReply action env w) := by
  cases hcallback : action.callback with
  | rsuServiceTaskBeginActionCb =>
      simp only [actionReply, hcallback]
      exact rsuServiceTaskBeginActionCb_serves h haction env hmine hcallback
  | prvSimpleCallCb =>
      simp only [actionReply, hcallback, prvSimpleCallCb]
      exact completeWith_serves h haction hmine (by simp [hcallback]) fun t =>
        gCancellableDisconnect_disconnects (endAction_reports env _ t)
  | prvGetPositionInfoCb =>
      obtain ⟨hcurrent, hexpects⟩ := h.outer.actions.awaited action haction
      rcases hr : w.tasks action.task with _ | t | t
      · rw [hr] at hexpects
        exact hexpects.elim
      · have ht : (w.dropReply action).tasks action.task = some (.client t) := hr
        rw [hr] at hexpects
        have hcrash : ∀ f : Fault, (∀ k, f ≠ .deadQueueKey k) →
            (serviceSteps mine handled).Run w ((w.dropReply action).crash f) := by
          intro f hf
          have htouch : Touches action.task w ((w.dropReply action).crash f) :=
            (touches_actions _ _).trans (touches_crash hf)
          have hdead : Touches action.task (w.dropReply action) ((w.dropReply action).crash f) :=
            touches_crash hf
          refine h.touches hcurrent hmine ((focus_dropReply action).trans (hdead.focus rfl rfl))
            (dropReply_actionsOk h haction htouch rfl rfl fun _ hid => hid) ?_
          exact h.outer.completions.wait hr (.inr hexpects.2.2.1) htouch rfl rfl
        simp only [actionReply, hcallback, prvGetPositionInfoCb, World.withClient, ht]
        split
        · exact hcrash _ (by simp)
        next cb _ =>
          rcases withTaskDevice_cases (w.dropReply action) action.task t (completeWith action.task
            (fun t => deviceLocalCb env cb (endAction env "GetPositionInfo operation failed: " t))
            (w.dropReply action)) with heq | ⟨f, hf, heq⟩
          · rw [heq]
            exact completeWith_serves h haction hmine (by simp [hcallback]) fun t =>
              deviceLocalCb_disconnects env _ (endAction_reports env _ t)
          · rw [heq]
            exact hcrash f hf
      · rw [hr] at hexpects
        simp [Expects, hcallback] at hexpects

end Reply

/-! ## Completions -/

theorem rsuAsyncTaskComplete_serves (h : ServiceOk handled w) (hmine : mine a.queueId)
    (hmem : a ∈ w.loop.completeIdles) :
    (serviceSteps mine handled).Run w (rsuAsyncTaskComplete a
      (w.setLoop { w.loop with completeIdles := w.loop.completeIdles.erase a })) := by
  obtain ⟨⟨q, hq, ha⟩, t, ht, hclosed⟩ := h.outer.completions.pending a hmem
  let w₁ := (w.setLoop { w.loop with
    completeIdles := w.loop.completeIdles.erase a }).emit (.completeRan a)
  have htouch : Touches a w w₁ := touches_completion (e := .completeRan a) rfl _
  have hactions : ActionsOk w₁ :=
    h.outer.actions.rewrite htouch rfl rfl (fun _ hid => hid) fun _ => id
  have hcompletions : CompletionsOk w₁ := h.outer.completions.run rfl rfl hmem rfl rfl rfl
  have hquiet : w₁.Quiet a := by
    refine ⟨h.outer.actions.noAction_client ht fun harmed => hclosed (.inr harmed), ?_⟩
    have hcount := h.outer.completions.count_le a
    rw [← List.count_eq_zero]
    show (w.loop.completeIdles.erase a).count a = 0
    rw [List.count_erase_self]
    omega
  have hfocus : Focus a w w₁ := by
    refine ⟨htouch, fun _ _ => Iff.rfl, fun b hb => ?_⟩
    show b ∈ w.loop.completeIdles.erase a ↔ b ∈ w.loop.completeIdles
    exact List.mem_erase_of_ne hb
  have hfirst := h.touches ⟨q, hq, ha⟩ hmine hfocus hactions hcompletions
  have hq₁ : w₁.queue? a.queueId = some q := hq
  have ht₁ : w₁.tasks a = some (.client t) := ht
  have heq : rsuAsyncTaskComplete a (w.setLoop { w.loop with
      completeIdles := w.loop.completeIdles.erase a }) = prvAsyncTaskComplete a t.error w₁ := by
    have ht₀ : (w.setLoop { w.loop with
      completeIdles := w.loop.completeIdles.erase a }).tasks a = some (.client t) := ht
    simp only [rsuAsyncTaskComplete, World.withClient, ht₀]
    rfl
  rw [heq]
  refine hfirst.trans ?_
  unfold prvAsyncTaskComplete
  cases t.error with
  | some error => exact answerTask_complete (hfirst.inv h) hmine hq₁ ha hquiet ht₁ _
  | none => exact answerTask_complete (hfirst.inv h) hmine hq₁ ha hquiet ht₁ _

end RendererService
