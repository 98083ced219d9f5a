import RendererService.Lib.Potential
import RendererService.Service.Calm

/-!
# The work that is left

A task that waits in a queue is still to be dispatched and to be completed, a
current task to be completed, and every pending reply, source and response to
be dispatched once.  Weighted by what follows it, the sum of all this goes down
with every callback of the main loop; only what comes from outside raises it.
-/

namespace RendererService

open Transition

variable {w w' : World} {a : TaskAtom} {k : TaskQueueKey} {n : Nat}

/-! ## Weights -/

/-- A current task may still begin an action, and its completion may schedule the quit. -/
def TaskQueue.work (q : TaskQueue) : Nat :=
  4 * q.tasks.length + (if q.currentTask.isSome then 3 else 0) + if q.finallyCb then 1 else 0

/-- The completions are paid for by the current tasks that they are for. -/
def MainLoop.work (l : MainLoop) : Nat :=
  l.processIdles.length + l.finallyIdles.length + l.subscribeTimers.length +
    l.retryTimers.length + 2 * l.quitIdles + l.quitTimers

def World.work (w : World) : Nat :=
  Assoc.total TaskQueue.work w.processor.taskQueues + w.loop.work + w.gupnp.actions.length +
    w.upnp.hostService.transfers.length

/-! ## Pointers and records -/

theorem work_withClient_le {f : ClientTask → World} (hw : w.work ≤ n)
    (hf : ∀ t, w.tasks a = some (.client t) → (f t).work ≤ n) : (w.withClient a f).work ≤ n := by
  unfold World.withClient
  split
  next t ht => exact hf t ht
  · exact hw

theorem work_withService_le {f : ServiceTask → World} (hw : w.work ≤ n)
    (hf : ∀ t, w.tasks a = some (.service t) → (f t).work ≤ n) :
    (w.withService a f).work ≤ n := by
  unfold World.withService
  split
  next t ht => exact hf t ht
  · exact hw

theorem work_withDevice_le {d : Nat} {f : Device → World} (hw : w.work ≤ n)
    (hf : ∀ dev, w.devices d = some dev → (f dev).work ≤ n) : (w.withDevice d f).work ≤ n := by
  unfold World.withDevice
  split
  next dev hdev => exact hf dev hdev
  · exact hw

theorem work_withContext_le {d : Nat} {f : DeviceContext → World} (hw : w.work ≤ n)
    (hf : ∀ context, (f context).work ≤ n) : (w.withContext d f).work ≤ n := by
  refine work_withDevice_le hw fun dev _ => ?_
  split
  · exact hf _
  · exact hw

theorem work_modifyClient (a : TaskAtom) (f : ClientTask → ClientTask) (w : World) :
    (w.modifyClient a f).work = w.work := by
  unfold World.modifyClient World.withClient
  split <;> rfl

theorem work_modifyContext (d c : Nat) (f : DeviceContext → DeviceContext) (w : World) :
    (w.modifyContext d c f).work = w.work := by
  unfold World.modifyContext World.withDevice
  split <;> rfl

theorem work_answerTask (a : TaskAtom) (reply : ClientTask → Reply) (w : World) :
    (answerTask a reply w).work = w.work := by
  unfold answerTask World.withClient
  split
  · dsimp only
    split <;> rfl
  · rfl

theorem work_taskDeleteCb (cs : TaskCallbacks) (a : TaskAtom) (w : World) :
    (taskDeleteCb cs a w).work = w.work := by
  cases cs with
  | client =>
      simp only [taskDeleteCb, rsuTaskDelete, World.withClient]
      split
      · split <;> rfl
      · rfl
  | service =>
      simp only [taskDeleteCb, rsuServiceTaskDeleteCb, World.withService]
      split <;> rfl

theorem work_foldl_le {α : Type} {I : World → Prop} {f : World → α → World}
    (hf : ∀ w x, I w → I (f w x) ∧ (f w x).work ≤ w.work) (l : List α) (hw : I w) :
    (l.foldl f w).work ≤ w.work := by
  induction l generalizing w with
  | nil => exact Nat.le_refl _
  | cons x l ih =>
      obtain ⟨hI, hle⟩ := hf w x hw
      exact Nat.le_trans (ih hI) hle

/-! ## Queues -/

theorem work_modifyQueue_le {f : TaskQueue → TaskQueue}
    (hf : ∀ q, w.queue? k = some q → (f q).work ≤ q.work + n) :
    (w.modifyQueue k f).work ≤ w.work + n := by
  have htotal := Assoc.total_modify_le hf
  simp only [World.work, World.modifyQueue, World.setQueues] at htotal ⊢
  omega

theorem work_modifyQueue_add {f : TaskQueue → TaskQueue} {q : TaskQueue}
    (hq : w.queue? k = some q) :
    (w.modifyQueue k f).work + q.work = w.work + (f q).work := by
  have htotal := Assoc.total_modify (f := TaskQueue.work) hq f
  simp only [World.work, World.modifyQueue, World.setQueues] at htotal ⊢
  omega

theorem work_eraseQueue_add {q : TaskQueue} (hq : w.queue? k = some q) :
    (w.eraseQueue k).work + q.work = w.work := by
  have htotal := Assoc.total_eq_erase TaskQueue.work hq
  simp only [World.work, World.eraseQueue, World.setQueues] at htotal ⊢
  omega

theorem work_setQueue_le (w : World) (k : TaskQueueKey) (q : TaskQueue) :
    (w.setQueue k q).work ≤ w.work + q.work := by
  have htotal := Assoc.total_insert_le TaskQueue.work w.processor.taskQueues k q
  simp only [World.work, World.setQueue, World.setQueues] at htotal ⊢
  omega

theorem work_idleAddProcess_le (w : World) (k : TaskQueueKey) :
    (w.idleAddProcess k).work ≤ w.work + 1 := by
  have hsame := work_modifyQueue_le (n := 0) (k := k)
    (w := { w with loop := { w.loop with
      nextSource := w.loop.nextSource + 1
      processIdles := w.loop.processIdles ++ [(w.loop.nextSource, k)] } })
    (f := fun q => { q with idleId := w.loop.nextSource }) fun q _ => Nat.le_refl _
  refine Nat.le_trans hsame ?_
  simp only [World.work, MainLoop.work, List.length_append, List.length_singleton]
  omega

theorem work_idleAddQuit (w : World) : w.idleAddQuit.work = w.work + 2 := by
  simp only [World.work, MainLoop.work, World.idleAddQuit]
  omega

theorem work_sourceRemoveProcess_le (w : World) (id : Nat) :
    (w.sourceRemoveProcess id).work ≤ w.work := by
  have hfilter := List.length_filter_le (fun s => decide (s.1 ≠ id)) w.loop.processIdles
  simp only [World.work, MainLoop.work, World.sourceRemoveProcess]
  omega

theorem work_sourceRemoveProcess_lt {id : Nat} (hmem : (id, k) ∈ w.loop.processIdles) :
    (w.sourceRemoveProcess id).work + 1 ≤ w.work := by
  have hfilter : (w.loop.processIdles.filter fun s => decide (s.1 ≠ id)).length <
      w.loop.processIdles.length := by
    rw [List.length_filter_lt_length_iff_exists]
    exact ⟨(id, k), hmem, by simp⟩
  simp only [World.work, MainLoop.work, World.sourceRemoveProcess]
  omega

theorem work_prvTaskQueueFreeCb (q : TaskQueue) (w : World) :
    (prvTaskQueueFreeCb taskDeleteCb q w).work ≤ w.work + if q.finallyCb then 1 else 0 := by
  have hloop := work_foldl_le (w := w) (I := fun _ => True)
    (f := fun w a => prvTaskFreeCb taskDeleteCb q a w)
    (fun w a _ => ⟨trivial, Nat.le_of_eq (work_taskDeleteCb q.callbacks a (w.emit (.deleted a)))⟩)
    q.tasks trivial
  unfold prvTaskQueueFreeCb
  split
  · simp only [World.work, MainLoop.work, World.idleAddFinally, List.length_append,
      List.length_singleton] at hloop ⊢
    omega
  · exact hloop

theorem work_removeQueue_le (k : TaskQueueKey) (w : World) :
    (removeQueue taskDeleteCb k w).work ≤ w.work := by
  unfold removeQueue
  split
  next q hq =>
    have hfree := work_prvTaskQueueFreeCb q (w.eraseQueue k)
    have herase := work_eraseQueue_add hq
    unfold TaskQueue.work at herase
    omega
  · exact Nat.le_refl _

/-- A completion ends its task, and schedules at most the quit. -/
theorem work_rsuTaskQueueTaskCompleted_lt {q : TaskQueue} (hq : w.queue? k = some q)
    (ha : q.currentTask = some a) :
    (rsuTaskQueueTaskCompleted taskDeleteCb k w).work + 1 ≤ w.work := by
  have hprocessor := processor_taskDeleteCb q.callbacks a
    ((w.emit (.completed k)).emit (.deleted a))
  let w₁ := (taskDeleteCb q.callbacks a ((w.emit (.completed k)).emit (.deleted a))).modifyQueue k
    fun q => { q with currentTask := none }
  have hended : w₁.work + 3 ≤ w.work := by
    have hq' : (taskDeleteCb q.callbacks a ((w.emit (.completed k)).emit (.deleted a))).queue? k =
        some q := by
      rw [← hq]
      exact congrArg (fun p => p.taskQueues.lookup k) hprocessor
    have hadd := work_modifyQueue_add (f := fun q => { q with currentTask := none }) hq'
    have hdelete := work_taskDeleteCb q.callbacks a ((w.emit (.completed k)).emit (.deleted a))
    have hemit : ((w.emit (.completed k)).emit (.deleted a)).work = w.work := rfl
    simp only [TaskQueue.work, ha, Option.isSome_some, Option.isSome_none, if_true] at hadd
    simp only [w₁]
    simp only [Bool.false_eq_true, if_false] at hadd
    omega
  let w₂ : World := { w₁ with
    processor := { w₁.processor with runningTasks := guintPred w₁.processor.runningTasks } }
  have hrunning : w₂.work = w₁.work := rfl
  have hquit := work_idleAddQuit w₂
  have hremove := work_removeQueue_le k w₂
  have hidle := work_idleAddProcess_le w₂ k
  simp only [rsuTaskQueueTaskCompleted, hq, ha]
  split
  · simp only [w₂, w₁] at hquit hrunning hended
    omega
  · split
    · simp only [w₂, w₁] at hremove hrunning hended
      omega
    · split
      · simp only [w₂, w₁] at hidle hrunning hended
        omega
      · split
        · simp only [w₂, w₁] at hremove hrunning hended
          omega
        · simp only [w₂, w₁] at hrunning hended
          omega

/-! ## Cancelling -/

theorem work_cancelAction_le (action : Option Nat) (w : World) :
    (gupnpServiceProxyCancelAction action w).work ≤ w.work := by
  have hfilter := List.length_filter_le (fun act : ProxyAction => decide (some act.id ≠ action))
    w.gupnp.actions
  simp only [World.work, gupnpServiceProxyCancelAction]
  omega

theorem work_rsuTaskCancel_le (a : TaskAtom) (w : World) : (rsuTaskCancel a w).work ≤ w.work := by
  have hcancelled :
      ∀ w' : World, w'.work ≤ w.work → (rsuAsyncTaskCancelled a w').work ≤ w.work := by
    intro w' hw'
    refine work_withClient_le hw' fun t _ => ?_
    refine Nat.le_trans (Nat.le_of_eq (work_modifyClient a _ _)) ?_
    split
    · exact Nat.le_trans (work_cancelAction_le t.action w') hw'
    · exact hw'
  have hcancel : ∀ w' : World, w'.work ≤ w.work → (rsuAsyncTaskCancel a w').work ≤ w.work := by
    intro w' hw'
    refine work_withClient_le hw' fun t _ => ?_
    split
    next c _ =>
      unfold gCancellableCancel
      split
      · exact hw'
      · have hmark := work_modifyClient a (fun t => { t with
          cancellable := some { c with cancelled := true } }) w'
        dsimp only
        split
        · exact hcancelled _ (hmark.trans_le hw')
        · exact hmark.trans_le hw'
    · exact hw'
  refine work_withClient_le (Nat.le_refl _) fun t _ => ?_
  have hanswer := Nat.le_of_eq (work_answerTask a (fun _ => .error operationCancelled) w)
  dsimp only
  split
  · exact hanswer
  · exact hcancel _ hanswer

theorem work_cancelPending_le (proxy : Option ServiceProxy) (action : Option Nat) (w : World) :
    (w.cancelPending proxy action).work ≤ w.work := by
  unfold World.cancelPending
  split
  · exact work_cancelAction_le action w
  · exact Nat.le_refl _

/-- Cancelling the current task ends it at once, or leaves its end to a completion. -/
theorem work_taskCancelCb_le {q : TaskQueue} (cs : TaskCallbacks)
    (hq : w.queue? a.queueId = some q) (ha : q.currentTask = some a) :
    (taskCancelCb cs a w).work ≤ w.work := by
  cases cs with
  | client => exact work_rsuTaskCancel_le a w
  | service =>
      refine work_withService_le (Nat.le_refl _) fun t _ => ?_
      split
      · have hcancel := work_cancelPending_le t.proxy t.pAction w
        have hqueue : (w.cancelPending t.proxy t.pAction).queue? a.queueId = some q := by
          unfold World.cancelPending
          split <;> exact hq
        have hcompleted := work_rsuTaskQueueTaskCompleted_lt
          (w := (w.cancelPending t.proxy t.pAction).setTask a
            (some (.service { t with pAction := none }))) hqueue ha
        exact Nat.le_trans (Nat.le_of_succ_le hcompleted) hcancel
      · exact Nat.le_refl _

theorem work_clearQueue_le (w : World) (k : TaskQueueKey) (q : TaskQueue) :
    (w.clearQueue k q).work ≤ w.work := by
  have hsource := work_sourceRemoveProcess_le
    (w.freeTasks q.tasks (q.tasks.flatMap w.cancelEvents)) q.idleId
  refine Nat.le_trans (work_modifyQueue_le (n := 0) fun q' _ => ?_) hsource
  simp only [TaskQueue.work, List.length_nil]
  omega

structure Emptiable (w : World) (k : TaskQueueKey) (q : TaskQueue) : Prop where
  nodup : q.tasks.Nodup
  fresh : ∀ a ∈ q.tasks, q.callbacks.Fresh (w.tasks a)
  current : ∀ a, q.currentTask = some a → a.queueId = k
  idle : w.IdlePositive

theorem work_prvTaskQueueCancel_le {q : TaskQueue} (hq : w.queue? k = some q)
    (hok : Emptiable w k q) :
    (prvTaskQueueCancel taskDeleteCb taskCancelCb k q w).work ≤ w.work := by
  have hclear := work_clearQueue_le w k q
  rw [prvTaskQueueCancel_eq hq hok.nodup hok.fresh hok.idle]
  cases ha : q.currentTask with
  | some a =>
      obtain rfl := hok.current a ha
      have hq' : ((w.clearQueue a.queueId q).emit (.cancelled a)).queue? a.queueId =
          some { q with cancelled := true, tasks := [], idleId := 0 } := by
        have hlookup := queue?_clearQueue w a.queueId a.queueId q
        rw [if_pos rfl, hq] at hlookup
        exact hlookup
      exact Nat.le_trans (work_taskCancelCb_le q.callbacks hq' ha) hclear
  | none =>
      dsimp only
      split
      · exact Nat.le_trans (work_removeQueue_le k _) hclear
      · exact hclear

theorem ProcessorOk.emptiable (hok : ProcessorOk w) {q : TaskQueue} (hq : w.queue? k = some q) :
    Emptiable w k q where
  nodup := (hok.queues k q hq).nodup
  fresh := (hok.queues k q hq).fresh
  current a ha := ((hok.queues k q hq).current a ha).1
  idle s hs := (hok.positive s hs).1

theorem work_rsuTaskProcessorCancelQueue_le (hok : ProcessorOk w) (k : TaskQueueKey) :
    (rsuTaskProcessorCancelQueue taskDeleteCb taskCancelCb k w).work ≤ w.work := by
  unfold rsuTaskProcessorCancelQueue
  split
  · exact Nat.le_refl _
  next q hq => exact work_prvTaskQueueCancel_le hq (hok.emptiable hq)

theorem work_prvTaskQueueCancelCb_le (hok : ProcessorOk w) (k : TaskQueueKey) :
    (prvTaskQueueCancelCb taskDeleteCb taskCancelCb k w).work ≤ w.work := by
  unfold prvTaskQueueCancelCb
  split
  · exact Nat.le_refl _
  next q hq => exact work_prvTaskQueueCancel_le hq (hok.emptiable hq)

theorem work_prvFreeQueueFor_le (hok : ProcessorOk w) (hit : TaskQueueKey → Bool)
    (k : TaskQueueKey) :
    (prvFreeQueueFor taskDeleteCb taskCancelCb hit k w).work ≤ w.work := by
  unfold prvFreeQueueFor
  split
  · exact Nat.le_refl _
  next q hq =>
    split
    · let b := q.currentTask.isSome
      have hq' : (w.modifyQueue k fun q => { q with deferRemove := b }).queue? k =
          some { q with deferRemove := b } := by
        rw [queue?_modifyQueue, if_pos rfl]
        exact congrArg _ hq
      have hmark : (w.modifyQueue k fun q => { q with deferRemove := b }).work ≤ w.work :=
        work_modifyQueue_le (n := 0) fun _ _ => Nat.le_refl _
      have hold := hok.emptiable hq
      have hcancel := work_prvTaskQueueCancel_le hq'
        ⟨hold.nodup, hold.fresh, hold.current, hold.idle⟩
      dsimp only
      split
      · exact Nat.le_trans hcancel hmark
      · exact Nat.le_trans (work_removeQueue_le k _) (Nat.le_trans hcancel hmark)
    · exact Nat.le_refl _

theorem work_freeQueues_le (hok : ProcessorOk w) (hit : TaskQueueKey → Bool) :
    (w.processor.taskQueues.keys.foldl
      (fun w k => prvFreeQueueFor taskDeleteCb taskCancelCb hit k w) w).work ≤ w.work :=
  work_foldl_le (I := ProcessorOk) (fun _ k hok =>
    ⟨prvFreeQueueFor_processorOk hok hit k, work_prvFreeQueueFor_le hok hit k⟩) _ hok

theorem work_rsuTaskProcessorSetQuitting_le (hok : ProcessorOk w) :
    (rsuTaskProcessorSetQuitting taskDeleteCb taskCancelCb w).work ≤ w.work + 2 := by
  unfold rsuTaskProcessorSetQuitting
  dsimp only
  split
  next hrunning =>
    have hset : ProcessorOk w.setQuitting :=
      (Step.quitting (E := Elsewhere) (w := w) hrunning).ok (fun _ _ _ he => he) hok
    have hall : ProcessorOk (prvCancelAllQueues taskDeleteCb taskCancelCb w.setQuitting) ∧
        (prvCancelAllQueues taskDeleteCb taskCancelCb w.setQuitting).work ≤ w.work := by
      refine Assoc.visitWhile_keeps (I := fun w' => ProcessorOk w' ∧ w'.work ≤ w.work)
        (fun w' k _ hboth => ?_) ⟨hset, Nat.le_refl _⟩
      obtain ⟨hok', hle⟩ := hboth
      exact ⟨(prvTaskQueueCancelCb_run (D := localSteps fun _ => True) localSteps_local.cancels
        hok' trivial).inv hok', Nat.le_trans (work_prvTaskQueueCancelCb_le hok' k) hle⟩
    exact Nat.le_trans hall.2 (Nat.le_add_right w.work 2)
  · exact Nat.le_of_eq (work_idleAddQuit _)

/-! ## Subscriptions -/

theorem work_prvSubscribeService (d : Nat) (context : DeviceContext) (kind signal : ServiceKind)
    (w : World) : (prvSubscribeService d context kind signal w).work = w.work := by
  unfold prvSubscribeService
  split
  · dsimp only
    split
    · exact work_modifyContext d context.id (fun context => context.setSubscribed true kind) _
    · exact work_modifyContext d context.id (fun context => context.setSubscribed true kind) _
  · rfl

theorem work_rsuDeviceSubscribeToServiceChanges_le (d : Nat) (w : World) :
    (rsuDeviceSubscribeToServiceChanges d w).work ≤ w.work := by
  refine work_withContext_le (Nat.le_refl _) fun context => Nat.le_of_eq ?_
  dsimp only
  rw [work_prvSubscribeService, work_prvSubscribeService, work_prvSubscribeService]

theorem work_stopRetry_le (d : Nat) (context : DeviceContext) (kind : ServiceKind) (w : World) :
    (context.stopRetry d kind w).work ≤ w.work := by
  unfold DeviceContext.stopRetry
  split
  · have herase := List.length_erase_le (a := context.notify d kind) (l := w.loop.retryTimers)
    dsimp only
    rw [work_modifyContext]
    simp only [World.work, MainLoop.work, World.setRetryTimers]
    omega
  · exact Nat.le_refl _

theorem work_stopNotify (d : Nat) (context : DeviceContext) (kind : ServiceKind) (w : World) :
    (context.stopNotify d kind w).work = w.work := by
  unfold DeviceContext.stopNotify
  split
  · exact work_modifyContext d context.id (fun context => context.setSubscribed false kind) _
  · rfl

theorem work_prvRsuContextUnsubscribe_le (d : Nat) (context : DeviceContext) (w : World) :
    (prvRsuContextUnsubscribe d context w).work ≤ w.work := by
  simp only [prvRsuContextUnsubscribe, work_stopNotify]
  exact Nat.le_trans (work_stopRetry_le d context .rc _)
    (Nat.le_trans (work_stopRetry_le d context .av _) (work_stopRetry_le d context .cm w))

theorem work_prvServiceProxiesFree_le (gone : ServiceProxies) (w : World) :
    (prvServiceProxiesFree gone w).work ≤ w.work := by
  have hfilter := List.length_filter_le (fun act : ProxyAction => decide (act.proxy ∉ gone.toList))
    w.gupnp.actions
  simp only [World.work, prvServiceProxiesFree]
  omega

theorem work_prvRsuContextDelete_le (d : Nat) (context : DeviceContext) (w : World) :
    (prvRsuContextDelete d context w).work ≤ w.work :=
  Nat.le_trans (work_prvServiceProxiesFree_le _ _) (work_prvRsuContextUnsubscribe_le d context w)

theorem work_prvDeviceSubscribeContext_le (d : Nat) (w : World) :
    (prvDeviceSubscribeContext d w).work ≤ w.work := by
  refine work_withDevice_le (Nat.le_refl _) fun dev _ => ?_
  refine work_withContext_le (Nat.le_refl _) fun context => ?_
  split
  · exact work_rsuDeviceSubscribeToServiceChanges_le d w
  · split
    · exact Nat.le_refl _
    · exact Nat.le_trans (work_rsuDeviceSubscribeToServiceChanges_le d _)
        (work_prvRsuContextUnsubscribe_le d _ w)

theorem work_prvDeviceAppendNewContext_le (d : Nat) (ipAddress : String) (offered : DeviceServices)
    (w : World) : (prvDeviceAppendNewContext d ipAddress offered w).work ≤ w.work :=
  work_withDevice_le (Nat.le_refl _) fun _ _ => Nat.le_refl _

theorem work_rsuDeviceUnsubscribe_le (d : Nat) (w : World) :
    (rsuDeviceUnsubscribe d w).work ≤ w.work :=
  work_withDevice_le (Nat.le_refl _) fun _ _ => work_foldl_le (I := fun _ => True)
    (fun w context _ => ⟨trivial, work_prvRsuContextUnsubscribe_le d context w⟩) _ trivial

theorem work_rsuUpnpUnsubscribe_le (w : World) : (rsuUpnpUnsubscribe w).work ≤ w.work :=
  work_foldl_le (I := fun _ => True)
    (fun w e _ => ⟨trivial, work_rsuDeviceUnsubscribe_le e.2 w⟩) _ trivial

theorem work_rsuDeviceDelete_le (d : Nat) (w : World) : (rsuDeviceDelete d w).work ≤ w.work := by
  refine work_withDevice_le (Nat.le_refl _) fun dev _ => ?_
  refine Nat.le_trans (work_foldl_le (I := fun _ => True)
    (fun w context _ => ⟨trivial, work_prvRsuContextDelete_le d context w⟩) _ trivial) ?_
  split
  · have hfilter := List.length_filter_le (fun s => decide (s.1 ≠ dev.timeoutId))
      w.loop.subscribeTimers
    simp only [World.work, MainLoop.work, World.setSubscribeTimers]
    omega
  · exact Nat.le_refl _

/-! ## Requests -/

theorem work_completeWith (a : TaskAtom) (f : ClientTask → ClientTask) (w : World) :
    (completeWith a f w).work = w.work :=
  work_modifyClient a f w

theorem work_beginAction_le (proxy : Option ServiceProxy) (name : String)
    (callback : ActionCallback) (a : TaskAtom) (w : World) :
    (gupnpServiceProxyBeginAction proxy name callback a w).2.work ≤
      w.work +
        if (gupnpServiceProxyBeginAction proxy name callback a w).1.isSome then 1 else 0 := by
  cases proxy with
  | none => exact Nat.le_refl _
  | some p =>
      simp only [gupnpServiceProxyBeginAction, World.work, List.length_append,
        List.length_singleton, Option.isSome_some, if_true]
      omega

theorem work_beginCommand_le (d : Nat) (kind : ServiceKind) (name : String)
    (callback : ActionCallback) (localCb : Option DeviceLocalCb) (a : TaskAtom) (w : World) :
    (beginCommand d kind name callback localCb a w).work ≤ w.work + 1 := by
  refine work_withContext_le (Nat.le_succ _) fun context => ?_
  let w₁ := w.modifyClient a fun t => { t with
    device := some d
    localCb := localCb
    cancellable := t.cancellable.map fun c => { c with connected := true }
    proxy := context.serviceProxies.get kind }
  have hrecord : w₁.work = w.work := work_modifyClient a _ w
  have hbegin := work_beginAction_le (context.serviceProxies.get kind) name callback a w₁
  dsimp only
  rw [work_modifyClient]
  refine Nat.le_trans hbegin ?_
  split <;> omega

theorem transfers_rsuHostServiceAdd (env : HostEnvironment) (deviceIf client file : String)
    (h : HostService) :
    (rsuHostServiceAdd env deviceIf client file h).2.transfers = h.transfers := by
  unfold rsuHostServiceAdd
  split
  · rfl
  · split <;> rfl

theorem work_setUpnp {u : Upnp}
    (htransfers : u.hostService.transfers = w.upnp.hostService.transfers) :
    ({ w with upnp := u } : World).work = w.work := by
  simp only [World.work, htransfers]

theorem work_setHostService {h : HostService}
    (htransfers : h.transfers = w.upnp.hostService.transfers) :
    (w.setHostService h).work = w.work :=
  work_setUpnp htransfers

theorem work_withServer_le {command : Nat → TaskAtom → World → World}
    (hcommand : ∀ d w, (command d a w).work ≤ w.work + 1) (w : World) :
    (withServer command a w).work ≤ w.work + 1 := by
  refine work_withClient_le (Nat.le_succ _) fun t _ => ?_
  split
  · exact hcommand _ w
  · exact Nat.le_succ_of_le (Nat.le_of_eq (work_completeWith a _ w))

/-- A request begins one action, or its completion is scheduled. -/
theorem work_prvProcessAsyncTask_le (env : Environment) (a : TaskAtom) (w : World) :
    (prvProcessAsyncTask env a w).work ≤ w.work + 1 := by
  have hcomplete : ∀ (f : ClientTask → ClientTask) (w : World),
      (completeWith a f w).work ≤ w.work + 1 := fun f w =>
    Nat.le_succ_of_le (Nat.le_of_eq (work_completeWith a f w))
  refine work_withClient_le (Nat.le_succ _) fun t _ => ?_
  let w₁ := w.modifyClient a fun t => { t with cancellable := some {} }
  have hserver : ∀ {command : Nat → TaskAtom → World → World},
      (∀ d w, (command d a w).work ≤ w.work + 1) → (withServer command a w₁).work ≤ w.work + 1 := by
    intro command hcommand
    refine Nat.le_trans (work_withServer_le hcommand w₁) (Nat.le_of_eq ?_)
    exact congrArg (· + 1) (work_modifyClient a _ w)
  dsimp only
  cases t.type with
  | getProp i p =>
      refine hserver fun d w => ?_
      unfold rsuDeviceGetProp
      split
      · exact work_beginCommand_le _ _ _ _ _ a w
      · exact hcomplete _ w
  | getAllProps i =>
      refine hserver fun d w => ?_
      unfold rsuDeviceGetAllProps
      split
      · exact work_beginCommand_le _ _ _ _ _ a w
      · exact hcomplete _ w
  | setProp i p =>
      refine hserver fun d w => ?_
      unfold rsuDeviceSetProp
      split
      · exact hcomplete _ w
      · split
        · exact hcomplete _ w
        · split
          · exact hcomplete _ w
          · exact work_beginCommand_le _ _ _ _ _ a w
  | playPause =>
      refine hserver fun d w => ?_
      unfold rsuDevicePlayPause
      split <;> exact work_beginCommand_le _ _ _ _ _ a w
  | play | pause | stop | next | previous | openUri _ | seek _ | setPosition _ | gotoTrack _ =>
      exact hserver fun d w => work_beginCommand_le _ _ _ _ _ a w
  | hostUri uri client =>
      refine hserver fun d w => work_withContext_le (Nat.le_succ _) fun context => ?_
      refine Nat.le_trans (hcomplete _ _) (Nat.le_of_eq (congrArg (· + 1) (work_setHostService ?_)))
      exact transfers_rsuHostServiceAdd _ _ _ _ _
  | removeUri uri client =>
      refine hserver fun d w => work_withContext_le (Nat.le_succ _) fun context => ?_
      refine Nat.le_trans (hcomplete _ _) (Nat.le_of_eq (congrArg (· + 1) (work_setHostService ?_)))
      exact HostService.transfers_remove _ _ _ _
  | getVersion | getServers | raise | quit =>
      exact Nat.le_succ_of_le (Nat.le_of_eq (work_modifyClient a _ w))

/-! ## Processing -/

theorem work_answerTask_complete_lt {q : TaskQueue} (hq : w.queue? a.queueId = some q)
    (ha : q.currentTask = some a) (reply : ClientTask → Reply) :
    (rsuTaskQueueTaskCompleted taskDeleteCb a.queueId (answerTask a reply w)).work + 1 ≤
      w.work := by
  have hqueue : (answerTask a reply w).queue? a.queueId = some q :=
    ((touches_answerTask (a := a) reply).queue? a.queueId).trans hq
  exact Nat.le_trans (work_rsuTaskQueueTaskCompleted_lt hqueue ha)
    (Nat.le_of_eq (work_answerTask a reply w))

theorem work_prvProcessSyncTask_le {q : TaskQueue} (hq : w.queue? a.queueId = some q)
    (ha : q.currentTask = some a) : (prvProcessSyncTask a w).work ≤ w.work := by
  refine work_withClient_le (Nat.le_refl _) fun t _ => ?_
  split
  · exact Nat.le_of_succ_le (work_answerTask_complete_lt hq ha _)
  · have hservers := touches_modifyClient (a := a) (w := w)
      (f := fun t => { t with result := some (.servers (rsuUpnpGetServerIds w)) })
      fun _ => ⟨rfl, rfl, rfl, rfl⟩
    refine Nat.le_of_succ_le (Nat.le_trans (work_answerTask_complete_lt
      ((hservers.queue? a.queueId).trans hq) ha _) ?_)
    exact Nat.le_of_eq (work_modifyClient a _ w)
  · exact Nat.le_of_succ_le (work_answerTask_complete_lt hq ha _)
  · exact Nat.le_of_succ_le (work_answerTask_complete_lt hq ha _)
  · exact Nat.le_refl _

theorem work_serviceTaskAction_le (env : Environment) (t : ServiceTask) (a : TaskAtom) (w : World) :
    (serviceTaskAction env t.tAction t a w).2.2.work ≤
      w.work + if (serviceTaskAction env t.tAction t a w).1.isSome then 1 else 0 := by
  unfold serviceTaskAction
  split
  · exact work_beginAction_le _ _ _ a w
  · exact work_prvDeviceSubscribeContext_le t.device w
  · exact work_withDevice_le (Nat.le_refl _) fun _ _ => Nat.le_refl _

theorem work_rsuServiceTaskProcessCb_le {q : TaskQueue} {t : ServiceTask} (env : Environment)
    (hok : ProcessorOk w) (hq : w.queue? a.queueId = some q) (ha : q.currentTask = some a)
    (ht : w.tasks a = some (.service t)) :
    (rsuServiceTaskProcessCb (serviceTaskAction env) a w).work ≤ w.work + 1 := by
  simp only [rsuServiceTaskProcessCb, World.withService, ht]
  have hwork := work_serviceTaskAction_le env t a w
  have htouch := touches_serviceTaskAction (a := a) (w := w) env t.tAction t
  have htasks := tasks_serviceTaskAction (a := a) (w := w) env t.tAction t
  revert hwork htouch htasks
  generalize serviceTaskAction env t.tAction t a w = r
  obtain ⟨pAction, failed, w'⟩ := r
  intro hwork htouch htasks
  dsimp only at hwork htouch htasks ⊢
  have hset : Touches a w (w'.setTask a (some (.service { t with pAction := pAction }))) :=
    htouch.trans (touches_setService pAction (by rw [htasks, ht]))
  have hqueue := (hset.queue? a.queueId).trans hq
  have hok' : ProcessorOk (w'.setTask a (some (.service { t with pAction := pAction }))) :=
    (Step.elsewhere (hset.elsewhere hok ⟨q, hq, ha⟩)).ok (fun _ _ _ he => he) hok
  have hsame : (w'.setTask a (some (.service { t with pAction := pAction }))).work = w'.work := rfl
  split
  · have hcancel := work_rsuTaskProcessorCancelQueue_le hok' a.queueId
    split at hwork <;> omega
  · split
    · have hcompleted := work_rsuTaskQueueTaskCompleted_lt hqueue ha
      split at hwork <;> omega
    · split at hwork <;> omega

theorem work_taskProcessCb_le {q : TaskQueue} (env : Environment) (hok : ProcessorOk w)
    (hq : w.queue? a.queueId = some q) (ha : q.currentTask = some a)
    (hlive : q.callbacks.Live (w.tasks a)) :
    (taskProcessCb env q.callbacks a w).work ≤ w.work + 1 := by
  cases hcs : q.callbacks with
  | client =>
      refine work_withClient_le (Nat.le_succ _) fun t _ => ?_
      split
      · exact Nat.le_succ_of_le (work_prvProcessSyncTask_le hq ha)
      · exact work_prvProcessAsyncTask_le env a w
  | service =>
      rw [hcs] at hlive
      obtain ⟨t, ht⟩ := TaskCallbacks.live_service hlive
      exact work_rsuServiceTaskProcessCb_le env hok hq ha ht

/-- The idle of a queue hands over one task, which begins one action at most. -/
theorem work_processIdle_lt {id : Nat} (env : Environment) (hok : ProcessorOk w)
    (hidle : (id, k) ∈ w.loop.processIdles) :
    (prvTaskQueueProcessTask (taskProcessCb env) k (w.sourceRemoveProcess id)).work + 1 ≤
      w.work := by
  obtain ⟨q, a, rest, hq, rfl, hne, hcons, rfl, heq⟩ :=
    prvTaskQueueProcessTask_dispatch env hok hidle
  let w₁ := (w.sourceRemoveProcess q.idleId).dispatchTask a.queueId a rest
  have hold := hok.queues _ q hq
  have hok₁ : ProcessorOk w₁ :=
    (Step.dispatch (E := Elsewhere) hq hne hcons).ok (fun _ _ _ he => he) hok
  have hq₁ : w₁.queue? a.queueId =
      some { q with cancelled := false, idleId := 0, currentTask := some a, tasks := rest } := by
    rw [queue?_dispatchTask, if_pos rfl]
    exact congrArg _ hq
  have hwork₁ : w₁.work + 2 ≤ w.work := by
    have hsource := work_sourceRemoveProcess_lt hidle
    have hadd := work_modifyQueue_add (w := w.sourceRemoveProcess q.idleId) (f := fun q => { q with
      cancelled := false, idleId := 0, currentTask := some a, tasks := rest }) hq
    have hcurrent := (hold.idle hne).1
    simp only [TaskQueue.work, hcurrent, hcons, List.length_cons, Option.isSome_some,
      Option.isSome_none, Bool.false_eq_true, if_true, if_false] at hadd
    have hsame : w₁.work = ((w.sourceRemoveProcess q.idleId).modifyQueue a.queueId fun q =>
      { q with cancelled := false, idleId := 0, currentTask := some a, tasks := rest }).work := rfl
    omega
  have hlive := (hold.fresh a (hcons ▸ List.mem_cons_self)).live
  have hprocess := work_taskProcessCb_le env hok₁ hq₁ rfl hlive
  rw [heq]
  dsimp only at hprocess
  simp only [w₁] at hprocess hwork₁
  omega

/-! ## Replies and completions -/

theorem work_dropReply_lt {action : ProxyAction} (haction : action ∈ w.gupnp.actions) :
    (w.dropReply action).work + 1 ≤ w.work := by
  have herase := List.length_erase_of_mem haction
  have hpos := List.length_pos_of_mem haction
  simp only [World.work, World.dropReply]
  omega

theorem work_actionReply_lt {action : ProxyAction} (env : Environment)
    (haction : action ∈ w.gupnp.actions) (hcurrent : w.Current action.task) :
    (actionReply action env w).work + 1 ≤ w.work := by
  have hdrop := work_dropReply_lt haction
  obtain ⟨q, hq, ha⟩ := hcurrent
  have hq' : (w.dropReply action).queue? action.task.queueId = some q := hq
  have hcallback : (actionReply action env w).work ≤ (w.dropReply action).work := by
    unfold actionReply
    dsimp only
    split
    · refine work_withService_le (Nat.le_refl _) fun t _ => ?_
      dsimp only
      split
      · exact Nat.le_refl _
      next cb _ =>
        cases cb with
        | prvGetProtocolInfoCb =>
            rcases prvGetProtocolInfoCb_cases env t ((w.dropReply action).setTask action.task
              (some (.service { t with pAction := none }))) with heq | heq
            · simp only [serviceTaskCallback, heq]
              exact Nat.le_of_succ_le (work_rsuTaskQueueTaskCompleted_lt hq' ha)
            · simp only [serviceTaskCallback, heq]
              exact Nat.le_of_succ_le (work_rsuTaskQueueTaskCompleted_lt hq' ha)
    · refine work_withClient_le (Nat.le_refl _) fun t _ => ?_
      split
      · exact Nat.le_refl _
      next cb _ =>
        rcases withTaskDevice_cases (w.dropReply action) action.task t
          (completeWith action.task (fun t => deviceLocalCb env cb
            (endAction env "GetPositionInfo operation failed: " t)) (w.dropReply action)) with
          heq | ⟨f, -, heq⟩
        · rw [heq]
          exact Nat.le_of_eq (work_completeWith _ _ _)
        · rw [heq]
          exact Nat.le_refl _
    · exact Nat.le_of_eq (work_completeWith _ _ _)
  omega

theorem work_completeIdle_lt (l : List TaskAtom) (hcurrent : w.Current a) {t : ClientTask}
    (ht : w.tasks a = some (.client t)) :
    (rsuAsyncTaskComplete a (w.setLoop { w.loop with completeIdles := l })).work + 1 ≤ w.work := by
  obtain ⟨q, hq, ha⟩ := hcurrent
  let w₁ := (w.setLoop { w.loop with completeIdles := l }).emit (.completeRan a)
  have ht₁ : (w.setLoop { w.loop with completeIdles := l }).tasks a = some (.client t) := ht
  have hq₁ : w₁.queue? a.queueId = some q := hq
  have hsame : w₁.work = w.work := rfl
  simp only [rsuAsyncTaskComplete, World.withClient, ht₁, prvAsyncTaskComplete]
  split
  · exact hsame ▸ work_answerTask_complete_lt hq₁ ha _
  · exact hsame ▸ work_answerTask_complete_lt hq₁ ha _

end RendererService
