import RendererService.Processor.Callbacks

/-!
# Closed forms of the processor

A queue is emptied, freed and completed by loops and nested callbacks; here
each of these is one update of the `World`.  Nothing below this module unfolds
the functions of task-processor.c again.
-/

namespace RendererService

namespace World

/-- A queue in which no idle is pending under the id 0, which stands for none. -/
def IdlePositive (w : World) : Prop := ∀ s ∈ w.loop.processIdles, 0 < s.1

def clearQueue (w : World) (k : TaskQueueKey) (q : TaskQueue) : World :=
  ((w.freeTasks q.tasks (q.tasks.flatMap w.cancelEvents)).sourceRemoveProcess
    q.idleId).modifyQueue k fun q => { q with cancelled := true, tasks := [], idleId := 0 }

def dropQueue (w : World) (k : TaskQueueKey) (q : TaskQueue) : World :=
  let w' := (w.eraseQueue k).freeTasks q.tasks (q.tasks.flatMap w.deleteEvents)
  if q.finallyCb then w'.idleAddFinally { q with tasks := [] } else w'

def setRunning (w : World) (n : Nat) : World :=
  { w with processor := { w.processor with runningTasks := n } }

/-- `rsu_task_queue_task_completed` up to the scheduling of what follows. -/
def finishTask (w : World) (k : TaskQueueKey) (a : TaskAtom) : World :=
  ((((w.emit (.completed k)).freeTasks [a] (w.deleteEvents a)).modifyQueue k fun q =>
    { q with currentTask := none }).setRunning (guintPred w.processor.runningTasks))

def dispatchTask (w : World) (k : TaskQueueKey) (a : TaskAtom) (rest : List TaskAtom) :
    World :=
  (((w.modifyQueue k fun q =>
    { q with cancelled := false, idleId := 0, currentTask := some a, tasks := rest }).setRunning
      (w.processor.runningTasks + 1)).emit (.processed a))

def pushTask (w : World) (k : TaskQueueKey) (task : Task) : World :=
  ((({ w.setTask (w.newAtom k) (some task) with nextTask := w.nextTask + 1 } : World).emit
    (.added (w.newAtom k))).modifyQueue k fun q => { q with tasks := q.tasks ++ [w.newAtom k] })

end World

/-! ## Emptying and freeing -/

theorem removeQueue_eq {w : World} {k : TaskQueueKey} {q : TaskQueue}
    (hq : w.queue? k = some q) (hnodup : q.tasks.Nodup)
    (hlive : ∀ a ∈ q.tasks, q.callbacks.Live (w.tasks a)) :
    removeQueue taskDeleteCb k w = w.dropQueue k q := by
  have hloop := foldl_prvTaskFreeCb (w := w.eraseQueue k) hnodup hlive
  simp only [removeQueue, hq, prvTaskQueueFreeCb, hloop]
  rfl

theorem sourceRemoveProcess_zero {w : World} (h : w.IdlePositive) :
    w.sourceRemoveProcess 0 = w := by
  have hfilter : (w.loop.processIdles.filter fun s => decide (s.1 ≠ 0)) =
      w.loop.processIdles := by
    rw [List.filter_eq_self]
    intro s hs
    have := h s hs
    simp only [decide_eq_true_eq]
    omega
  simp only [World.sourceRemoveProcess, hfilter]

theorem modifyQueue_modifyQueue (w : World) (k : TaskQueueKey) (f g : TaskQueue → TaskQueue) :
    (w.modifyQueue k f).modifyQueue k g = w.modifyQueue k (g ∘ f) := by
  simp only [World.modifyQueue, World.setQueues, Assoc.modify_modify]

theorem modifyQueue_congr {w : World} {k : TaskQueueKey} {q : TaskQueue}
    {f g : TaskQueue → TaskQueue} (hq : w.queue? k = some q) (h : f q = g q) :
    w.modifyQueue k f = w.modifyQueue k g := by
  have htable : Assoc.modify w.processor.taskQueues k f =
      Assoc.modify w.processor.taskQueues k g := by
    refine Assoc.modify_congr fun v hv => ?_
    obtain rfl : q = v := Option.some.inj (hq.symm.trans hv)
    exact h
  simp only [World.modifyQueue, htable]

theorem prvTaskQueueCancel_eq {w : World} {k : TaskQueueKey} {q : TaskQueue}
    (hq : w.queue? k = some q) (hnodup : q.tasks.Nodup)
    (hfresh : ∀ a ∈ q.tasks, q.callbacks.Fresh (w.tasks a)) (hidle : w.IdlePositive) :
    prvTaskQueueCancel taskDeleteCb taskCancelCb k q w =
      match q.currentTask with
      | some a => taskCancelCb q.callbacks a ((w.clearQueue k q).emit (.cancelled a))
      | none =>
          if q.flags.autoRemove then removeQueue taskDeleteCb k (w.clearQueue k q)
          else w.clearQueue k q := by
  have hloop := foldl_prvTaskCancelAndFreeCb
    (w := w.modifyQueue k fun q => { q with cancelled := true }) hnodup hfresh
  let w₁ := w.freeTasks q.tasks (q.tasks.flatMap w.cancelEvents)
  have hclear :
      (let w' := (w₁.modifyQueue k fun q => { q with cancelled := true }).modifyQueue k fun q =>
          { q with tasks := [] }
        if q.idleId ≠ 0 then
          (w'.sourceRemoveProcess q.idleId).modifyQueue k fun q => { q with idleId := 0 }
        else w') = w.clearQueue k q := by
    rw [modifyQueue_modifyQueue]
    by_cases hid : q.idleId = 0
    · have hnone : w₁.sourceRemoveProcess q.idleId = w₁ := by
        rw [hid]
        exact sourceRemoveProcess_zero hidle
      rw [if_neg (not_not_intro hid), World.clearQueue, hnone]
      refine modifyQueue_congr (w := w₁) hq ?_
      simp [hid]
    · rw [if_pos hid]
      exact modifyQueue_modifyQueue (w₁.sourceRemoveProcess q.idleId) k _ _
  rw [← hclear]
  simp only [prvTaskQueueCancel, hloop]
  rfl

/-! ## Completing -/

/-- What `rsu_task_queue_task_completed` schedules or removes in the end. -/
def afterCompletion (k : TaskQueueKey) (q : TaskQueue) (w : World) : World :=
  if w.processor.quitting ∧ w.processor.runningTasks = 0 then w.idleAddQuit
  else if q.deferRemove then removeQueue taskDeleteCb k w
  else if 0 < q.tasks.length then w.idleAddProcess k
  else if q.flags.autoRemove then removeQueue taskDeleteCb k w
  else w

theorem rsuTaskQueueTaskCompleted_eq {w : World} {k : TaskQueueKey} {q : TaskQueue}
    {a : TaskAtom} (hq : w.queue? k = some q) (ha : q.currentTask = some a)
    (hlive : q.callbacks.Live (w.tasks a)) :
    rsuTaskQueueTaskCompleted taskDeleteCb k w = afterCompletion k q (w.finishTask k a) := by
  have hdelete := prvTaskFreeCb_eq (w := w.emit (.completed k)) hlive
  simp only [prvTaskFreeCb] at hdelete
  simp only [rsuTaskQueueTaskCompleted, hq, ha, hdelete]
  rfl

end RendererService
