import RendererService.Service.Settling

/-!
# Tasks that wait

A construction step that runs waits for the reply to an action, and a request that
runs waits for a reply or for its completion.  A task is left without either only
by a step that strands it, and the steps that strand the tasks of one kind of queue
do not depend on what has happened to the other kind.
-/

namespace RendererService

open Transition

variable {w w' : World} {k : TaskQueueKey} {q : TaskQueue} {a : TaskAtom} {strict : Prop}

/-! ## Some of the queues -/

/-- Every queue goes on, where what the current task waits for only counts at the keys of `P`. -/
def World.AdvancingOn (w : World) (P : TaskQueueKey → Prop) : Prop := ∀ k, w.AdvancesIf (P k) k

theorem advancesIf_iff (h : w.AdvancesIf False k) : w.AdvancesIf strict k ↔
    (strict → ∀ q a, w.queue? k = some q → q.currentTask = some a → w.Awaited a) := by
  constructor
  · exact fun hadv hstrict q a hq ha => (hadv q hq).running a ha hstrict
  · intro hawaited q hq
    obtain ⟨hflags, hdeferred, -, hwaiting⟩ := h q hq
    exact ⟨hflags, hdeferred, fun a ha hstrict => hawaited hstrict q a hq ha, hwaiting⟩

section Runs

variable {neverQuit : Bool} {is : List Input}

theorem service_advancingOn {P : TaskQueueKey → Prop} {C : World → Input → Prop}
    (hC : ∀ w i, ServiceOk none w → C w i → ∀ k, P k → ¬i.stallsAt w k)
    (h : ((service neverQuit).restrict C).Reaches is w) (hfree : w.context.freed = false) :
    w.AdvancingOn P := by
  refine service_restrict_invariant (P := fun _ w => w.AdvancingOn P) h hfree
    (fun k => advances_of_none (AList.lookup_empty k)) fun is w i hr hdoes hspares hadv k => ?_
  have hpending := service_pendingOk hr hdoes.freed
  exact (exec_advances hpending (hadv k) hdoes.enabled hdoes.last hdoes.fault).mpr
    (hC w i hpending.service hspares k)

/-- In every run a queue without a current task is about to start its next one, is a client's
that waits for a request, or belongs to a service that is quitting. -/
theorem service_resumes (h : (service neverQuit).Reaches is w) (hfree : w.context.freed = false)
    (k : TaskQueueKey) : w.AdvancesIf False k :=
  service_advancingOn (P := fun _ => False) (C := fun _ _ => True) (fun _ _ _ _ _ => False.elim)
    (h.restrict_of_forall fun _ _ => trivial) hfree k

end Runs

/-! ## Two kinds of queues -/

/-- The key is one of a queue with these callbacks. -/
def TaskQueueKey.Of (cs : TaskCallbacks) (k : TaskQueueKey) : Prop :=
  BusSource k.source ↔ cs = .client

theorem KeysOk.of_iff (h : KeysOk w) {cs : TaskCallbacks} (hq : w.queue? k = some q) :
    k.Of cs ↔ q.callbacks = cs := by
  have hfits := h.fits k q hq
  unfold TaskQueueKey.Of
  cases hcs : q.callbacks with
  | client =>
      rw [hcs] at hfits
      simp only [iff_true_left (show BusSource k.source from hfits), eq_comm]
  | service =>
      rw [hcs] at hfits
      have hnot : ¬BusSource k.source := hfits.2.not_bus
      cases cs <;> simp [hnot]

/-- The step strands the current task of a queue with these callbacks. -/
def Input.Strands (cs : TaskCallbacks) (w : World) (i : Input) : Prop :=
  ∃ k q, w.queue? k = some q ∧ q.callbacks = cs ∧ i.stallsAt w k

theorem stallsAt_queue (h : ServiceOk none w) {i : Input} (hstalls : i.stallsAt w k) :
    ∃ q, w.queue? k = some q := by
  cases i with
  | processIdle id k' env =>
      obtain ⟨-, q, _, _, hq, -⟩ := hstalls
      exact ⟨q, hq⟩
  | unavailable udn ipAddress =>
      obtain ⟨_, _, _, _, _, _, _, _, act, hact, rfl, -⟩ := hstalls
      obtain ⟨q, hq, -⟩ := (h.outer.actions.awaited act hact).1
      exact ⟨q, hq⟩
  | _ => exact hstalls.elim

theorem not_strands_iff (h : ServiceOk none w) {cs : TaskCallbacks} {i : Input} :
    ¬i.Strands cs w ↔ ∀ k : TaskQueueKey, k.Of cs → ¬i.stallsAt w k := by
  constructor
  · intro hnot k hkey hstalls
    obtain ⟨q, hq⟩ := stallsAt_queue h hstalls
    exact hnot ⟨k, q, hq, (h.outer.keys.of_iff hq).mp hkey, hstalls⟩
  · rintro hnone ⟨k, q, hq, hcs, hstalls⟩
    exact hnone k ((h.outer.keys.of_iff hq).mpr hcs) hstalls

/-! ## Constructions that are cancelled -/

/-- The queue has gone, and the idle that ends its construction is pending. -/
structure Ended (k : TaskQueueKey) (q : TaskQueue) (w w' : World) : Prop where
  queue : w'.queue? k = none
  finallyIdles : w'.loop.finallyIdles = w.loop.finallyIdles ++ [q]
  runningTasks : w'.processor.runningTasks = w.processor.runningTasks

theorem ended_removeQueue (hq : w.queue? k = some q) (htasks : q.tasks = [])
    (hfinally : q.finallyCb = true) : Ended k q w (removeQueue taskDeleteCb k w) := by
  obtain ⟨hnone, hrunning⟩ := queue?_removeQueue hq htasks
  refine ⟨hnone, ?_, hrunning⟩
  have hsame : { q with tasks := [] } = q := by rw [← htasks]
  have hdrop : w.dropQueue k q = ((w.eraseQueue k).freeTasks q.tasks
      (q.tasks.flatMap w.deleteEvents)).idleAddFinally { q with tasks := [] } := if_pos hfinally
  rw [removeQueue_eq hq (by simp [htasks]) (by simp [htasks]), hdrop, hsame]
  rfl

theorem ended_completed (hok : ProcessorOk w) (hq : w.queue? k = some q)
    (ha : q.currentTask = some a) (htasks : q.tasks = []) (hauto : q.flags.autoRemove = true)
    (hfinally : q.finallyCb = true) (hquit : w.processor.quitting = false) :
    Ended k { q with currentTask := none } (w.setRunning (w.processor.runningTasks - 1))
      (rsuTaskQueueTaskCompleted taskDeleteCb k w) := by
  obtain ⟨-, -, -, hlive⟩ := (hok.queues k q hq).current a ha
  have hpos : 0 < w.processor.runningTasks := by
    rw [hok.running]
    exact Assoc.count_pos_of_lookup hq (by simp [ha])
  have hq₁ : (w.finishTask k a).queue? k = some { q with currentTask := none } := by
    have hfinish : (w.finishTask k a).queue? k =
        if k = k then (w.queue? k).map fun q => { q with currentTask := none }
        else w.queue? k := queue?_modifyQueue _ k k _
    rw [hfinish, if_pos rfl, hq]
    rfl
  have hgoes : ¬((w.finishTask k a).processor.quitting = true ∧
      (w.finishTask k a).processor.runningTasks = 0) := fun h =>
    absurd (hquit.symm.trans h.1) Bool.false_ne_true
  have hremoved : rsuTaskQueueTaskCompleted taskDeleteCb k w =
      removeQueue taskDeleteCb k (w.finishTask k a) := by
    rw [rsuTaskQueueTaskCompleted_eq hq ha hlive, afterCompletion, if_neg hgoes]
    simp [htasks, hauto]
  rw [hremoved]
  obtain ⟨hqueue, hidles, hrunning⟩ := ended_removeQueue hq₁ htasks hfinally
  refine ⟨hqueue, hidles, hrunning.trans ?_⟩
  exact if_neg (Nat.ne_of_gt hpos)

/-- A construction that is cancelled, before its steps or while one of them waits, loses its
queue at once, and the idle that ends it is scheduled. -/
theorem ended_cancelled (hs : ServiceOk none w) (hq : w.queue? k = some q)
    (hcs : q.callbacks = .service) (hfinally : q.finallyCb = true)
    (hgoes : w.GoesOn w.Awaited q) (hquit : w.processor.quitting = false) :
    Ended k { q.emptied with currentTask := none }
      (w.setRunning (w.processor.runningTasks - if q.currentTask.isSome then 1 else 0))
      (rsuTaskProcessorCancelQueue taskDeleteCb taskCancelCb k w) := by
  have hold := hs.processor.queues k q hq
  have hauto : q.flags.autoRemove = true := by
    rw [hgoes.flags, hcs]
    rfl
  let w₁ := w.clearQueue k q
  have hs₁ : ServiceOk none w₁ := hs.step (.clear hq) (by simp) trivial
  have hq₁ : w₁.queue? k = some q.emptied := queue?_clearQueue_self hq
  simp only [rsuTaskProcessorCancelQueue, hq]
  rw [prvTaskQueueCancel_eq hq hold.nodup hold.fresh hs.processor.idlePositive]
  cases ha : q.currentTask with
  | none =>
      have hemptied : { q.emptied with currentTask := none } = q.emptied := by
        rw [← ha]
        rfl
      simp only [hauto, if_true]
      rw [hemptied]
      obtain ⟨hqueue, hidles, hrunning⟩ := ended_removeQueue hq₁ rfl hfinally
      exact ⟨hqueue, hidles, hrunning⟩
  | some a =>
      obtain ⟨hkey, -, hnot, hlive⟩ := hold.current a ha
      rw [hcs] at hlive
      obtain ⟨t, ht⟩ := TaskCallbacks.live_service hlive
      have hends : w.Endable a := (hgoes.running a ha).endable hs ⟨_, ht⟩
      have hbegun : t.pAction.isSome = true := by simpa only [World.Endable, ht] using hends
      let w₂ := w₁.emit (.cancelled a)
      have hs₂ : ServiceOk none w₂ :=
        hs₁.step (.cancelling ⟨q.emptied, hkey ▸ hq₁, ha⟩) (by simp) trivial
      have ht₂ : w₂.tasks a = some (.service t) := (if_neg hnot).trans ht
      let w₃ := w₂.giveUpStep a t
      have htouch : Touches a w₂ w₃ := touches_giveUpStep ht₂
      have hcancel : taskCancelCb q.callbacks a w₂ =
          rsuTaskQueueTaskCompleted taskDeleteCb k w₃ := by
        rw [hcs, ← hkey]
        simp only [taskCancelCb, rsuServiceTaskCancelCb_eq ht₂, hbegun, if_true]
        rfl
      have hok₃ := elsewhere_ok hs₂.processor
        (htouch.elsewhere hs₂.processor ⟨q.emptied, hkey ▸ hq₁, ha⟩)
      have hq₃ : w₃.queue? k = some q.emptied := (htouch.queue? k).trans hq₁
      have hquit₃ : w₃.processor.quitting = false := by
        rw [htouch.processor]
        exact hquit
      obtain ⟨hqueue, hidles, hrunning⟩ := ended_completed hok₃ hq₃ ha rfl hauto hfinally hquit₃
      show Ended k _ _ (taskCancelCb q.callbacks a w₂)
      rw [hcancel]
      refine ⟨hqueue, hidles.trans ?_, hrunning.trans ?_⟩
      · exact congrArg (· ++ _) htouch.finallyIdles
      · show w₃.processor.runningTasks - 1 = w.processor.runningTasks - _
        rw [htouch.processor]
        rfl

/-! ## What a current task waits for -/

/-- An action of the task is outstanding on a live proxy. -/
def World.Calls (w : World) (a : TaskAtom) : Prop :=
  ∃ act ∈ w.gupnp.actions, act.task = a ∧ act.proxy ∈ w.gupnp.proxies

/-- Each current task of the queues with these callbacks has its completion scheduled, or an
action outstanding. -/
def World.Attends (cs : TaskCallbacks) (w : World) : Prop :=
  ∀ k q a, w.queue? k = some q → q.callbacks = cs → q.currentTask = some a →
    a ∈ w.loop.completeIdles ∨ w.Calls a

theorem awaited_iff (h : PendingOk w) : w.Awaited a ↔ a ∈ w.loop.completeIdles ∨ w.Calls a := by
  have hbegun : ∀ t, w.tasks a = some (.client t) → t.cancellable ≠ none →
      t.synchronous = false := fun t ht hne => (h.holders.clients.begun a t ht hne).1
  constructor
  · rintro hawaited
    refine hawaited.cases.imp_right fun ⟨act, hact, htask⟩ => ⟨act, hact, htask, ?_⟩
    exact h.service.outer.actions.live act hact
  · rintro (hidle | ⟨act, hact, rfl, -⟩)
    · refine awaited_of_completion hidle fun t ht => hbegun t ht fun hnone => ?_
      obtain ⟨-, t', ht', hscheduled⟩ := h.service.outer.completions.pending a hidle
      cases ht.symm.trans ht'
      exact hscheduled (.inl hnone)
    · refine awaited_of_action hact rfl fun t ht => hbegun t ht fun hnone => ?_
      have hexpects := (h.service.outer.actions.awaited act hact).2
      rw [ht] at hexpects
      have harmed : t.cancellable = some _ := hexpects.2.2.1
      simp [hnone] at harmed

theorem attends_iff (h : PendingOk w) (hweak : ∀ k, w.AdvancesIf False k) {cs : TaskCallbacks} :
    w.Attends cs ↔ w.AdvancingOn (TaskQueueKey.Of cs) := by
  have hkeys := h.service.outer.keys
  constructor
  · intro hattends k
    refine (advancesIf_iff (hweak k)).mpr fun hkey q a hq ha => ?_
    exact (awaited_iff h).mpr (hattends k q a hq ((hkeys.of_iff hq).mp hkey) ha)
  · intro hadv k q a hq hcs ha
    exact (awaited_iff h).mp ((hadv k q hq).running a ha ((hkeys.of_iff hq).mpr hcs))

theorem exec_pendingOk {i : Input} (h : PendingOk w) (hfault : w.fault = none)
    (hdoes : Performs w i) : PendingOk (exec w i) :=
  ⟨stepFn_serviceOk h.service hfault hdoes.step hdoes.last,
    exec_registryOk h.service h.registry hdoes.enabled hdoes.last,
    (exec_holdersOk h.service h.registry h.holders hdoes.enabled hdoes.last).2 hdoes.fault,
    exec_aimsOk h.aims h.service hdoes.enabled hdoes.last⟩

section Runs

variable {neverQuit : Bool} {is : List Input} {cs : TaskCallbacks}

/-- While the tasks of these queues wait for something, the next step keeps it so if and only
if it strands none of them. -/
theorem service_attends
    (h : ((service neverQuit).restrict fun w i => ¬i.Strands cs w).Reaches is w)
    (hfree : w.context.freed = false) :
    w.Attends cs ∧ ∀ i w', stepFn w i = some w' → i ≠ .contextFree →
      (w'.Attends cs ↔ ¬i.Strands cs w) := by
  have hpending := service_pendingOk h.of_restrict hfree
  have hweak := service_resumes h.of_restrict hfree
  have hadv : w.AdvancingOn (TaskQueueKey.Of cs) :=
    service_advancingOn (fun _ _ hok => (not_strands_iff hok).mp) h hfree
  refine ⟨(attends_iff hpending hweak).mpr hadv, fun i w' hstep hlast => ?_⟩
  obtain ⟨hdoes, rfl⟩ := Performs.of_stepFn hstep hlast
  have hnext : ∀ {strict : Prop} {k}, w.AdvancesIf strict k →
      ((exec w i).AdvancesIf strict k ↔ (strict → ¬i.stallsAt w k)) := fun hk =>
    exec_advances hpending hk hdoes.enabled hdoes.last hdoes.fault
  rw [attends_iff (exec_pendingOk hpending (service_fault h.of_restrict) hdoes)
    fun k => (hnext (hweak k)).mpr False.elim, not_strands_iff hpending.service]
  exact forall_congr' fun k => hnext (hadv k)

theorem not_strands_of_stalls (cs : TaskCallbacks) {i : Input} (h : i.stalls w = false) :
    ¬i.Strands cs w := by
  rintro ⟨k, _, _, _, hstalls⟩
  exact stalls_eq_false_iff.mp h k hstalls

/-! ### Construction steps -/

def World.ConstructionsWait (w : World) : Prop :=
  ∀ k q a, w.queue? k = some q → q.callbacks = .service → q.currentTask = some a → w.Calls a

theorem constructionsWait_iff (h : PendingOk w) :
    w.ConstructionsWait ↔ w.Attends .service := by
  constructor
  · exact fun hwait k q a hq hcs ha => .inr (hwait k q a hq hcs ha)
  · intro hattends k q a hq hcs ha
    refine (hattends k q a hq hcs ha).resolve_left fun hidle => ?_
    obtain ⟨hkey, -, -, hlive⟩ := (h.service.processor.queues k q hq).current a ha
    rw [hcs] at hlive
    obtain ⟨t, ht⟩ := TaskCallbacks.live_service hlive
    exact h.service.outer.not_complete_service ht hidle

/-- In every run in which no construction step is stranded each one that runs has an action
outstanding, and the next step keeps it so if and only if it strands none: it is neither the
dispatch of a declaration that fails nor the loss of a context, not the last one of its
device, with the action of a construction step.  A construction that is cancelled then loses
its queue at once, its idle is scheduled, and no task of it counts as running any more. -/
theorem service_constructionsWait
    (h : ((service neverQuit).restrict fun w i => ¬i.Strands .service w).Reaches is w)
    (hfree : w.context.freed = false) :
    w.ConstructionsWait ∧
    (∀ i w', stepFn w i = some w' → i ≠ .contextFree →
      (w'.ConstructionsWait ↔ ¬i.Strands .service w)) ∧
    (w.processor.quitting = false → ∀ k q, w.queue? k = some q → q.callbacks = .service →
      ∃ w' q', w' = rsuTaskProcessorCancelQueue taskDeleteCb taskCancelCb k w ∧
        w'.queue? k = none ∧ w'.loop.finallyIdles = w.loop.finallyIdles ++ [q'] ∧
        q'.cancelled = true ∧ q'.userData = q.userData ∧ w'.processor.runningTasks =
          w.processor.runningTasks - if q.currentTask.isSome then 1 else 0) := by
  have hpending := service_pendingOk h.of_restrict hfree
  obtain ⟨hattends, hnext⟩ := service_attends h hfree
  refine ⟨(constructionsWait_iff hpending).mpr hattends, fun i w' hstep hlast => ?_,
    fun hquit k q hq hcs => ?_⟩
  · obtain ⟨hdoes, rfl⟩ := Performs.of_stepFn hstep hlast
    rw [constructionsWait_iff (exec_pendingOk hpending (service_fault h.of_restrict) hdoes)]
    exact hnext i _ hstep hlast
  · have hgoes := service_resumes h.of_restrict hfree k q hq
    have hfinally := (hpending.registry.constructions.queues k q hq hcs).1
    have hended := ended_cancelled hpending.service hq hcs hfinally
      ⟨hgoes.flags, hgoes.deferred, fun a ha =>
        (awaited_iff hpending).mpr (hattends k q a hq hcs ha), hgoes.waiting⟩ hquit
    exact ⟨_, _, rfl, hended.queue, hended.finallyIdles, rfl, rfl, hended.runningTasks⟩

/-- The key of a construction that comes before any other queue. -/
def firstConstruction : TaskQueueKey := ⟨0, "source-1", rsuSink⟩

/-- The first step of a construction waits for the protocols of its renderer. -/
theorem service_constructionsWait_oneAvailable :
    ∃ is w q, ((service true).restrict fun w i => ¬i.Strands .service w).Reaches is w ∧
      w.queue? firstConstruction = some q ∧ q.currentTask = some ⟨0, firstConstruction⟩ ∧
      w.Calls ⟨0, firstConstruction⟩ := by
  obtain ⟨is, w, hr, hfree, hqueue⟩ := service_reaches_of_guarded true
    (C := fun w i => i.stalls w = false) [.input oneAvailable, .processIdle]
    (p := fun w => w.context.freed = false ∧ ((w.queue? firstConstruction).any fun q =>
      q.callbacks = .service ∧ q.currentTask = some ⟨0, firstConstruction⟩) = true)
    (by decide +kernel)
  obtain ⟨q, hq, hcurrent⟩ := (Option.any_eq_true _ _).mp hqueue
  obtain ⟨hcs, ha⟩ := of_decide_eq_true hcurrent
  have hspares := hr.restrict_mono fun _ _ => not_strands_of_stalls .service
  exact ⟨is, w, q, hspares, hq, ha, (service_constructionsWait hspares hfree).1 _ q _ hq hcs ha⟩

/-- The renderer is constructed up to its declaration, whose objects cannot be registered. -/
def declareFails : List Choice :=
  [.input oneAvailable, .processIdle, .reply, .processIdle,
    .processIdle { registered := fun _ => 0 }]

/-- The declaration runs on for ever: nothing is pending, and the renderer stays in the map
of those under construction. -/
theorem declaration_stuck : ∃ is w q, (service true).Reaches is w ∧
    w.queue? firstConstruction = some q ∧ q.currentTask.isSome = true ∧ w.AtRest ∧
    (w.upnp.serverUcMap.lookup "uuid:r").isSome = true ∧ w.processor.runningTasks = 1 ∧
    ¬w.ConstructionsWait := by
  obtain ⟨is, w, hr, hqueue, hactions, hprocess, hcomplete, hfinally, huc, hrunning⟩ :=
    service_reaches_of_schedule true declareFails
      (p := fun w => ((w.queue? firstConstruction).any fun q =>
          q.callbacks = .service ∧ q.currentTask.isSome = true) = true ∧
        w.gupnp.actions.length = 0 ∧ w.loop.processIdles.length = 0 ∧
        w.loop.completeIdles.length = 0 ∧ w.loop.finallyIdles.length = 0 ∧
        (w.upnp.serverUcMap.lookup "uuid:r").isSome = true ∧ w.processor.runningTasks = 1)
      (by decide +kernel)
  obtain ⟨q, hq, hcurrent⟩ := (Option.any_eq_true _ _).mp hqueue
  obtain ⟨hcs, hsome⟩ := of_decide_eq_true hcurrent
  refine ⟨is, w, q, hr, hq, hsome, ⟨List.length_eq_zero_iff.mp hactions,
    List.length_eq_zero_iff.mp hprocess, List.length_eq_zero_iff.mp hcomplete,
    List.length_eq_zero_iff.mp hfinally⟩, huc, hrunning, fun hwait => ?_⟩
  obtain ⟨a, ha⟩ := Option.isSome_iff_exists.mp hsome
  obtain ⟨act, hact, -⟩ := hwait _ q a hq hcs ha
  rw [List.length_eq_zero_iff.mp hactions] at hact
  exact absurd hact List.not_mem_nil

/-! ### Requests -/

/-- In every run in which no request is stranded each one that runs has its completion
scheduled or an action outstanding, and the next step keeps it so if and only if it strands
none: it is neither the dispatch of a request that asks a service which the preferred context
of its renderer lacks, nor the loss of a context, not the last one of its device, with the
action of a request. -/
theorem service_requestsWait
    (h : ((service neverQuit).restrict fun w i => ¬i.Strands .client w).Reaches is w)
    (hfree : w.context.freed = false) :
    w.Attends .client ∧ ∀ i w', stepFn w i = some w' → i ≠ .contextFree →
      (w'.Attends .client ↔ ¬i.Strands .client w) :=
  service_attends h hfree

/-- Play, of a renderer that offers everything. -/
def playRunning : List Choice :=
  oneRenderer ++ [.input (.playerCall oneClient onePath .play), .processIdle]

theorem service_requestsWait_playRunning :
    ∃ is w q a, ((service true).restrict fun w i => ¬i.Strands .client w).Reaches is w ∧
      w.queue? requestKey = some q ∧ q.currentTask = some a ∧
      (a ∈ w.loop.completeIdles ∨ w.Calls a) := by
  obtain ⟨is, w, hr, hfree, hqueue⟩ := service_reaches_of_guarded true
    (C := fun w i => i.stalls w = false) playRunning
    (p := fun w => w.context.freed = false ∧ ((w.queue? requestKey).any fun q =>
      q.callbacks = .client ∧ q.currentTask.isSome = true) = true) (by decide +kernel)
  obtain ⟨q, hq, hcurrent⟩ := (Option.any_eq_true _ _).mp hqueue
  obtain ⟨hcs, hsome⟩ := of_decide_eq_true hcurrent
  obtain ⟨a, ha⟩ := Option.isSome_iff_exists.mp hsome
  have hspares := hr.restrict_mono fun _ _ => not_strands_of_stalls .client
  exact ⟨is, w, q, a, hspares, hq, ha, (service_requestsWait hspares hfree).1 _ q a hq hcs ha⟩

/-- Play, of a renderer without AVTransport: nothing will ever end the request. -/
theorem request_stuck : ∃ is w q t, (service true).Reaches is w ∧
    w.queue? requestKey = some q ∧ q.currentTask = some ⟨3, requestKey⟩ ∧
    w.tasks ⟨3, requestKey⟩ = some (.client t) ∧ t.type = .play ∧
    ⟨3, requestKey⟩ ∉ w.loop.completeIdles ∧ ¬w.Calls ⟨3, requestKey⟩ ∧ w.AtRest := by
  obtain ⟨is, w, hr, hqueue, htask, hactions, hprocess, hcomplete, hfinally⟩ :=
    service_reaches_of_schedule true (playWithoutTransport ++ [.processIdle])
      (p := fun w => ((w.queue? requestKey).any fun q =>
          q.currentTask = some ⟨3, requestKey⟩) = true ∧
        (((w.tasks ⟨3, requestKey⟩).bind Task.client?).any fun t => t.type = .play) = true ∧
        w.gupnp.actions.length = 0 ∧ w.loop.processIdles.length = 0 ∧
        w.loop.completeIdles.length = 0 ∧ w.loop.finallyIdles.length = 0) (by decide +kernel)
  obtain ⟨q, hq, hcurrent⟩ := (Option.any_eq_true _ _).mp hqueue
  obtain ⟨t, hclient, htype⟩ := (Option.any_eq_true _ _).mp htask
  obtain ⟨r, ht, hr'⟩ := Option.bind_eq_some_iff.mp hclient
  have hactions := List.length_eq_zero_iff.mp hactions
  have hcomplete := List.length_eq_zero_iff.mp hcomplete
  refine ⟨is, w, q, t, hr, hq, of_decide_eq_true hcurrent, ?_, of_decide_eq_true htype,
    hcomplete ▸ List.not_mem_nil, ?_, hactions, List.length_eq_zero_iff.mp hprocess, hcomplete,
    List.length_eq_zero_iff.mp hfinally⟩
  · cases r with
    | client t' => rw [ht, Option.some.inj hr']
    | service t' => simp [Task.client?] at hr'
  · rintro ⟨act, hact, -⟩
    rw [hactions] at hact
    exact absurd hact List.not_mem_nil

end Runs

end RendererService
