import RendererService.Service.Stalls
import RendererService.Model.Schedules

/-!
# Coming to an end

As long as no step strands a task, every queue goes on.  When nothing is left to
be delivered, every request has been answered, every construction is over, and
the queues wait for further requests.
-/

namespace RendererService

open Transition

variable {w w' : World} {a : TaskAtom} {k : TaskQueueKey} {q : TaskQueue}
  {handled : Option Nat} {strict : Prop}

/-! ## Every input -/

theorem advances_cosmetic (hc : Cosmetic w w') (hok : ProcessorOk w) (h : w.AdvancesIf strict k) :
    w'.AdvancesIf strict k :=
  advances_of_same h hok hc.processor hc.tasks hc.actions hc.completeIdles

theorem advances_prvRemoveClient (name : String) (hs : ServiceOk handled w)
    (h : w.AdvancesIf strict k) : (prvRemoveClient name w).AdvancesIf strict k := by
  have hrun : (serviceSteps (fun _ => True) handled).Run w
      (rsuTaskProcessorRemoveQueuesForSource taskDeleteCb taskCancelCb name w) :=
    rsuTaskProcessorRemoveQueuesForSource_run serviceSteps_cancels name hs fun _ _ _ => trivial
  have hdropped : (w.dropClient name).AdvancesIf strict k :=
    advances_of_same (advances_removeQueuesForSource name hs h) (hrun.inv hs).processor
      rfl rfl rfl rfl
  rw [prvRemoveClient_eq]
  split
  · exact advances_setQuitting (dropClient_serviceOk name hs) hdropped
  · exact hdropped

theorem advances_newInvocation (hok : ProcessorOk w) (h : w.AdvancesIf strict k) :
    w.newInvocation.2.AdvancesIf strict k :=
  advances_of_same h hok rfl rfl rfl rfl

theorem advances_emit (hok : ProcessorOk w) (e : Event) (h : w.AdvancesIf strict k) :
    (w.emit e).AdvancesIf strict k :=
  advances_of_same h hok rfl rfl rfl rfl

theorem advances_prvRsuMethodCall (sender : BusName) (method : ManagerMethod)
    (hs : ServiceOk none w) (h : w.AdvancesIf strict k) :
    (prvRsuMethodCall sender.name method w).AdvancesIf strict k := by
  have hs₁ := newInvocation_serviceOk hs
  have h₁ := advances_newInvocation hs.processor h
  cases method with
  | getVersion => exact advances_prvAddTask _ hs₁ sender.unique h₁
  | getServers => exact advances_prvAddTask _ hs₁ sender.unique h₁
  | release =>
      exact advances_emit (prvRemoveClient_serviceOk sender.name hs₁).processor _
        (advances_prvRemoveClient sender.name hs₁ h₁)

theorem advances_withDeviceId {object : String} {f : Nat → ClientTask} (sender : BusName)
    (hs : ServiceOk none w) (h : w.AdvancesIf strict k) :
    (withDeviceId object (fun invocation =>
      prvAddTask sender.name invocation (f invocation)) w).AdvancesIf strict k := by
  have hs₁ := newInvocation_serviceOk hs
  have h₁ := advances_newInvocation hs.processor h
  rcases withDeviceId_cases object
    (fun invocation => prvAddTask sender.name invocation (f invocation)) w with heq | ⟨error, heq⟩
  · rw [heq]
    exact advances_prvAddTask _ hs₁ sender.unique h₁
  · rw [heq]
    exact advances_emit hs₁.processor _ h₁

theorem advances_cancelCall (sender object : String) (hs : ServiceOk none w)
    (h : w.AdvancesIf strict k) :
    (prvRendererDeviceMethodCall sender object w).AdvancesIf strict k := by
  have hs₁ := newInvocation_serviceOk hs
  have h₁ := advances_newInvocation hs.processor h
  rcases prvRendererDeviceMethodCall_cases sender object w with ⟨k₀, hk, heq⟩ | ⟨reply, heq⟩
  · obtain ⟨⟨q, hq⟩, -⟩ := lookupQueue_some hk
    have hrun : (serviceSteps (fun k' => k' = k₀) (some w.context.nextInvocation)).Run
        w.newInvocation.2
        (rsuTaskProcessorCancelQueue taskDeleteCb taskCancelCb k₀ w.newInvocation.2) :=
      rsuTaskProcessorCancelQueue_run serviceSteps_cancels hs₁ rfl hq
    rw [heq]
    exact advances_emit (hrun.inv hs₁).processor _ (advances_cancelQueue k₀ hs₁ h₁)
  · rw [heq]
    exact advances_emit hs₁.processor _ h₁

theorem advances_rehash {queues : Assoc.Table TaskQueueKey TaskQueue}
    {devices : Assoc.Table String Nat}
    (hqueues : queues.entries.Perm w.processor.taskQueues.entries) (hok : ProcessorOk w)
    (h : w.AdvancesIf strict k) : ((w.setQueues queues).setUdnMap devices).AdvancesIf strict k := by
  have hlookup : ((w.setQueues queues).setUdnMap devices).queue? k = w.queue? k :=
    AList.perm_lookup hqueues
  exact Spared.advances ⟨⟨hlookup, fun _ _ _ => rfl⟩, fun _ _ => Iff.rfl, fun _ _ => Iff.rfl, id⟩
    hok h

/-- A step leaves a queue to go on if and only if it does not strand its task. -/
theorem exec_advances {i : Input} (h : PendingOk w) (hadv : w.AdvancesIf strict k)
    (henabled : i.enabled w = true) (hfree : i ≠ .contextFree) (hfault : (exec w i).fault = none) :
    (exec w i).AdvancesIf strict k ↔ (strict → ¬i.stallsAt w k) := by
  have hs := h.service
  have hok := hs.processor
  have hspares : strict → ¬False := fun _ => not_false
  cases i with
  | contextFree => exact absurd rfl hfree
  | processIdle id k₀ env =>
      have hmem : (id, k₀) ∈ w.loop.processIdles := by simp_all [Input.enabled]
      exact advances_processIdle env hs hmem hadv hfault
  | unavailable udn ipAddress =>
      exact advances_prvServerUnavailableCb udn ipAddress h hadv hfault
  | managerCall sender method =>
      exact iff_of_true (advances_prvRsuMethodCall sender method hs hadv) hspares
  | propsCall sender object method =>
      exact iff_of_true (advances_withDeviceId (f := fun n => method.new object n) sender hs hadv)
        hspares
  | rsuDeviceCall sender object method =>
      exact iff_of_true (advances_withDeviceId (f := fun n => method.new n) sender hs hadv) hspares
  | playerCall sender object method =>
      exact iff_of_true (advances_withDeviceId (f := fun n => method.new object n) sender hs hadv)
        hspares
  | pushHostCall sender object method =>
      exact iff_of_true (advances_withDeviceId (f := fun n => method.new sender.name object n)
        sender hs hadv) hspares
  | cancelCall sender object =>
      exact iff_of_true (advances_cancelCall sender.name object hs hadv) hspares
  | lostClient name => exact iff_of_true (advances_prvRemoveClient name hs hadv) hspares
  | available udn ipAddress offered =>
      exact iff_of_true (advances_prvServerAvailableCb udn ipAddress offered hs hadv) hspares
  | reply action env =>
      have hmem : action ∈ w.gupnp.actions := by simp_all [Input.enabled]
      exact iff_of_true (advances_actionReply env hs hmem hadv hfault) hspares
  | finallyIdle q =>
      have hmem : q ∈ w.loop.finallyIdles := by simp_all [Input.enabled]
      exact iff_of_true (advances_finallyIdle h hmem hadv) hspares
  | completeIdle a =>
      have hmem : a ∈ w.loop.completeIdles := by simp_all [Input.enabled]
      exact iff_of_true (advances_completeIdle hs hmem hadv) hspares
  | subscribeTimer id d =>
      have hloop : (w.setLoop { w.loop with
          subscribeTimers := w.loop.subscribeTimers.erase (id, d) }).AdvancesIf strict k :=
        advances_of_same hadv hok rfl rfl rfl rfl
      exact iff_of_true (advances_cosmetic (cosmetic_prvSubscribeToServiceChanges d)
        (hok.congr rfl rfl rfl rfl rfl rfl rfl) hloop) hspares
  | notify proxy =>
      exact iff_of_true (advances_cosmetic (cosmetic_foldl_notify _ w) hok hadv) hspares
  | subscriptionLost proxy =>
      exact iff_of_true (advances_cosmetic (cosmetic_subscriptionLost proxy w) hok hadv) hspares
  | retryTimer r =>
      have hloop : (w.setLoop { w.loop with
          retryTimers := w.loop.retryTimers.erase r }).AdvancesIf strict k :=
        advances_of_same hadv hok rfl rfl rfl rfl
      exact iff_of_true (advances_cosmetic (cosmetic_prvReEnableSubscription r)
        (hok.congr rfl rfl rfl rfl rfl rfl rfl) hloop) hspares
  | soupRequest mapped deviceIf msg =>
      exact iff_of_true (advances_of_same hadv hok rfl rfl rfl rfl) hspares
  | soupFinished t =>
      refine iff_of_true ?_ hspares
      show (soupFinished t w).AdvancesIf strict k
      unfold soupFinished
      split
      · exact advances_of_same hadv hok rfl rfl rfl rfl
      · exact advances_of_same hadv hok rfl rfl rfl rfl
  | quitIdle =>
      have hc := cosmetic_rsuUpnpUnsubscribe
        { w.setLoop { w.loop with quitIdles := w.loop.quitIdles - 1 } with
          context := { w.context with ownerId := false } }
      exact iff_of_true (advances_of_same hadv hok hc.processor hc.tasks hc.actions
        hc.completeIdles) hspares
  | quitTimer => exact iff_of_true (advances_of_same hadv hok rfl rfl rfl rfl) hspares
  | signal =>
      exact iff_of_true (advances_of_same (advances_setQuitting hs hadv)
        (rsuTaskProcessorSetQuitting_serviceOk hs).processor rfl rfl rfl rfl) hspares
  | nameLost => exact iff_of_true (advances_setQuitting hs hadv) hspares
  | rehash queues devices =>
      simp only [Input.enabled, Bool.and_eq_true, List.isPerm_iff] at henabled
      exact iff_of_true (advances_rehash henabled.2.1 hok hadv) hspares

/-- A step leaves every queue to go on if and only if it does not strand a task. -/
theorem exec_advancing {i : Input} (h : PendingOk w) (hadv : w.Advancing)
    (henabled : i.enabled w = true) (hfree : i ≠ .contextFree) (hfault : (exec w i).fault = none) :
    (exec w i).Advancing ↔ i.stalls w = false := by
  rw [stalls_eq_false_iff]
  refine forall_congr' fun k => ?_
  rw [← advancesIf_true, exec_advances h (advancesIf_true.mpr (hadv k)) henabled hfree hfault,
    true_imp_iff]

/-! ## Runs -/

section Runs

variable {neverQuit : Bool} {is : List Input}

theorem service_pendingOk (h : (service neverQuit).Reaches is w)
    (hfree : w.context.freed = false) : PendingOk w :=
  ⟨service_ok h hfree, service_registryOk h hfree, service_holdersOk h hfree,
    service_aimsOk h hfree⟩

theorem start_advancing (neverQuit : Bool) : (start neverQuit).Advancing := fun k =>
  advancesIf_true.mp (advances_of_none (AList.lookup_empty k))

/-- While every queue goes on, the next step keeps it so if and only if it strands no task. -/
theorem advancing_next {i : Input} (h : (service neverQuit).Reaches is w) (hadv : w.Advancing)
    (hdoes : Performs w i) : (exec w i).Advancing ↔ i.stalls w = false :=
  exec_advancing (service_pendingOk h hdoes.freed) hadv hdoes.enabled hdoes.last hdoes.fault

theorem service_advancing
    (h : ((service neverQuit).restrict fun w i => i.stalls w = false).Reaches is w)
    (hfree : w.context.freed = false) : w.Advancing :=
  service_restrict_invariant (P := fun _ => World.Advancing) h hfree (start_advancing neverQuit)
    fun _ _ _ hr hdoes hspares hadv => (advancing_next hr hadv hdoes).mpr hspares

/-- In every run that has stranded no task every queue goes on, and the next step keeps it so
if and only if it strands none. -/
theorem service_advances
    (h : ((service neverQuit).restrict fun w i => i.stalls w = false).Reaches is w)
    (hfree : w.context.freed = false) :
    w.Advancing ∧ ∀ i w', stepFn w i = some w' → i ≠ .contextFree →
      (w'.Advancing ↔ i.stalls w = false) := by
  have hadv := service_advancing h hfree
  refine ⟨hadv, fun i w' hstep hlast => ?_⟩
  obtain ⟨hdoes, rfl⟩ := Performs.of_stepFn hstep hlast
  exact advancing_next h.of_restrict hadv hdoes

def playWithoutTransport : List Choice :=
  [.input (.available "uuid:r" "192.168.1.2" ⟨true, false, true⟩), .processIdle, .reply,
    .processIdle, .processIdle, .finallyIdle, .input (.playerCall oneClient onePath .play)]

/-- Every queue goes on up to the step that carries the request out. -/
theorem service_advances_playWithoutTransport :
    ∃ is w w', ((service true).restrict fun w i => i.stalls w = false).Reaches is w ∧
      w.Advancing ∧ stepFn w (.processIdle 4 requestKey {}) = some w' ∧ ¬w'.Advancing := by
  obtain ⟨is, w, hr, hfree, hsome, hstalls⟩ := service_reaches_of_guarded true
    (C := fun w i => i.stalls w = false) playWithoutTransport
    (p := fun w => w.context.freed = false ∧
      (stepFn w (.processIdle 4 requestKey {})).isSome = true ∧
      (Input.processIdle 4 requestKey {}).stalls w = true) (by decide +kernel)
  obtain ⟨w', hst⟩ := Option.isSome_iff_exists.mp hsome
  obtain ⟨hadv, hnext⟩ := service_advances hr hfree
  refine ⟨is, w, w', hr, hadv, hst, fun hall => ?_⟩
  rw [(hnext _ w' hst (by simp)).mp hall] at hstalls
  exact absurd hstalls (by simp)

/-- Nothing is left to be delivered that a queue or a construction waits for. -/
structure World.AtRest (w : World) : Prop where
  actions : w.gupnp.actions = []
  processIdles : w.loop.processIdles = []
  completeIdles : w.loop.completeIdles = []
  finallyIdles : w.loop.finallyIdles = []

/-- A queue that goes on while nothing is pending waits for a request. -/
theorem idle_of_rest (hok : ProcessorOk w) (hadv : w.Advancing) (hrest : w.AtRest)
    (hquit : w.processor.quitting = false) (hq : w.queue? k = some q) :
    q.callbacks = .client ∧ q.tasks = [] ∧ q.currentTask = none := by
  have hgoes := hadv k q hq
  have hnone : q.currentTask = none := by
    cases ha : q.currentTask with
    | none => rfl
    | some a =>
        rcases (hgoes.running a ha).cases with hidle | ⟨act, hact, -⟩
        · rw [hrest.completeIdles] at hidle
          exact absurd hidle List.not_mem_nil
        · rw [hrest.actions] at hact
          exact absurd hact List.not_mem_nil
  rcases hgoes.waiting hnone hquit with hidle | ⟨hcs, htasks, -⟩
  · have hmem := ((hok.queues k q hq).idle hidle).2.2
    rw [hrest.processIdles] at hmem
    exact absurd hmem List.not_mem_nil
  · exact ⟨hcs, htasks, hnone⟩

/-- A construction that neither a queue nor an idle carries on is over. -/
theorem ConstructionsOk.over (h : ConstructionsOk w)
    (hclients : ∀ k q, w.queue? k = some q → q.callbacks = .client)
    (hidles : w.loop.finallyIdles = []) (udn : String) :
    w.upnp.serverUcMap.lookup udn = none := by
  cases huc : w.upnp.serverUcMap.lookup udn with
  | none => rfl
  | some ct =>
      rcases h.pending udn ct huc with ⟨q, hq, hfinally, -⟩ | ⟨q, hmem, -⟩
      · rw [h.clients _ q hq (hclients _ q hq)] at hfinally
        exact absurd hfinally (by simp)
      · rw [hidles] at hmem
        exact absurd hmem List.not_mem_nil

theorem unconstructed_of_rest (hok : PendingOk w) (hadv : w.Advancing) (hrest : w.AtRest)
    (hquit : w.processor.quitting = false) (udn : String) :
    w.upnp.serverUcMap.lookup udn = none :=
  hok.registry.constructions.over (fun _ _ hq =>
    (idle_of_rest hok.service.processor hadv hrest hquit hq).1) hrest.finallyIdles udn

/-- When nothing is pending any more after a run that has stranded no task, and the service
is not about to quit, every request has been answered once, no task is left, every queue is
that of a client, and every construction is over. -/
theorem service_settles
    (h : ((service neverQuit).restrict fun w i => i.stalls w = false).Reaches is w)
    (hfree : w.context.freed = false) (hquit : w.processor.quitting = false)
    (hrest : w.AtRest) :
    AllAnswered w ∧ (∀ a, w.tasks a = none) ∧
      (∀ k q, w.queue? k = some q → q.callbacks = .client ∧ q.tasks = [] ∧ q.currentTask = none) ∧
      ∀ udn, w.upnp.serverUcMap.lookup udn = none := by
  have hp := service_pendingOk h.of_restrict hfree
  have hadv := service_advancing h hfree
  have hidle : ∀ k q, w.queue? k = some q →
      q.callbacks = .client ∧ q.tasks = [] ∧ q.currentTask = none :=
    fun k q hq => idle_of_rest hp.service.processor hadv hrest hquit hq
  have htasks : ∀ a, w.tasks a = none := by
    intro a
    cases hr : w.tasks a with
    | none => rfl
    | some r =>
        obtain ⟨q, hq, hheld⟩ := hp.service.outer.held a r hr
        obtain ⟨-, hempty, hnone⟩ := hidle _ q hq
        simp [hempty, hnone] at hheld
  refine ⟨fun n a hwrapped => ?_, htasks, hidle, unconstructed_of_rest hp hadv hrest hquit⟩
  have hinv := hp.service.outer.invocations
  rcases hinv.wrapped n a hwrapped with hanswered | howed
  · exact List.count_eq_one_of_mem hinv.once hanswered
  · rw [htasks] at howed
    exact absurd howed List.not_mem_nil

def playCarriedOut : List Choice :=
  oneRenderer ++ [.input (.playerCall oneClient onePath .play), .processIdle, .reply, .completeIdle]

theorem service_settles_playCarriedOut :
    ∃ is w, ((service true).restrict fun w i => i.stalls w = false).Reaches is w ∧
      .wrapped 0 ⟨3, requestKey⟩ ∈ w.log ∧ AllAnswered w ∧ ∀ a, w.tasks a = none := by
  obtain ⟨is, w, hr, hfree, hquit, hwrapped, hactions, hprocess, hcomplete, hfinally⟩ :=
    service_reaches_of_guarded true (C := fun w i => i.stalls w = false) playCarriedOut
      (p := fun w => w.context.freed = false ∧ w.processor.quitting = false ∧
        .wrapped 0 ⟨3, requestKey⟩ ∈ w.log ∧ w.gupnp.actions.length = 0 ∧
        w.loop.processIdles.length = 0 ∧ w.loop.completeIdles.length = 0 ∧
        w.loop.finallyIdles.length = 0) (by decide +kernel)
  have hrest : w.AtRest := ⟨List.length_eq_zero_iff.mp hactions,
    List.length_eq_zero_iff.mp hprocess, List.length_eq_zero_iff.mp hcomplete,
    List.length_eq_zero_iff.mp hfinally⟩
  obtain ⟨hanswered, htasks, -⟩ := service_settles hr hfree hquit hrest
  exact ⟨is, w, hr, hwrapped, hanswered, htasks⟩

end Runs

end RendererService
