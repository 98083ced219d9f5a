import RendererService.Processor.Invariant
import RendererService.Lib.Transition

/-!
# The functions of the processor as runs

Each function of task-processor.c is a run of steps.  The same decomposition
serves several purposes, so it is stated for any `Discipline`: an invariant and
the steps that keep it.
-/

namespace RendererService

open Transition

/-- An invariant of worlds and the steps that may be taken under it. -/
structure Discipline where
  /-- what the callbacks and the rest of the process may do -/
  E : World → World → Prop
  Allowed : World → Act → Prop
  Inv : World → Prop
  /-- the queues that the steps may be about -/
  Mine : TaskQueueKey → Prop
  processor : ∀ {w}, Inv w → ProcessorOk w
  preserved : ∀ {w act w'}, Inv w → Allowed w act → Step E w act w' → Inv w'
  defer : ∀ w {k}, Mine k → Allowed w (.defer k)
  clear : ∀ w {k}, Mine k → Allowed w (.clear k)
  cancelling : ∀ w {a : TaskAtom}, Mine a.queueId → Allowed w (.cancelling a)
  remove : ∀ w {k}, Mine k → Allowed w (.remove k)

namespace Discipline

variable (D : Discipline)

def system : System World Act where
  init := D.Inv
  step w act w' := D.Allowed w act ∧ Step D.E w act w'

def Run : World → World → Prop := D.system.Steps

/-- `task_cancel_cb` of the current task of an emptied queue is a run. -/
def Cancels : Prop :=
  ∀ w q a, D.Inv w → D.Mine a.queueId → w.queue? a.queueId = some q → q.currentTask = some a →
    q.tasks = [] → D.Run w (taskCancelCb q.callbacks a w)

variable {D} {w w' w'' : World}

theorem Run.refl : D.Run w w := Relation.ReflTransGen.refl

theorem Run.trans (h : D.Run w w') (h' : D.Run w' w'') : D.Run w w'' :=
  Relation.ReflTransGen.trans h h'

theorem Run.inv (h : D.Run w w') (hw : D.Inv w) : D.Inv w' :=
  System.Steps.invariant h hw fun _ _ _ hI hstep => D.preserved hI hstep.1 hstep.2

theorem Run.one {act : Act} (hstep : Step D.E w act w') (hact : D.Allowed w act) : D.Run w w' :=
  System.Steps.single (i := act) ⟨hact, hstep⟩

theorem Run.foldl_mem {α : Type} {f : World → α → World} {l : List α} :
    (∀ w, ∀ x ∈ l, D.Inv w → D.Run w (f w x)) → ∀ w, D.Inv w → D.Run w (l.foldl f w) := by
  induction l with
  | nil => exact fun _ w _ => .refl
  | cons x l ih =>
      intro hf w hw
      have hx := hf w x List.mem_cons_self hw
      exact hx.trans (ih (fun w y hy => hf w y (List.mem_cons_of_mem x hy)) (f w x) (hx.inv hw))

theorem Run.foldl {α : Type} {f : World → α → World} (hf : ∀ w x, D.Inv w → D.Run w (f w x))
    (l : List α) : ∀ w, D.Inv w → D.Run w (l.foldl f w) :=
  Run.foldl_mem fun w x _ => hf w x

end Discipline

variable {D : Discipline} {w : World} {k : TaskQueueKey} {q : TaskQueue}

/-! ## Removing and completing -/

theorem removeQueue_run (h : D.Inv w) (hk : D.Mine k) (hq : w.queue? k = some q)
    (hcurrent : q.currentTask = none) (hidle : q.idleId = 0)
    (htasks : q.tasks = [] ∨ q.deferRemove = true) :
    D.Run w (removeQueue taskDeleteCb k w) := by
  have hold := (D.processor h).queues k q hq
  rw [removeQueue_eq hq hold.nodup fun a ha => (hold.fresh a ha).live]
  exact .one (.remove hq hcurrent hidle htasks) (D.remove w hk)

theorem queue?_completeTask (w : World) (k k' : TaskQueueKey) (a : TaskAtom) :
    (w.completeTask k a).queue? k' =
      if k' = k then (w.queue? k).map fun q => { q with currentTask := none }
      else w.queue? k' := by
  have hfinish : (w.finishTask k a).queue? k' =
      if k' = k then (w.queue? k).map fun q => { q with currentTask := none }
      else w.queue? k' := queue?_modifyQueue _ k k' _
  rw [← hfinish]
  unfold World.completeTask
  dsimp only
  split <;> rfl

/-- The completion of a current task; an idle is armed only where the queue
goes on with its next task. -/
theorem rsuTaskQueueTaskCompleted_run {a : TaskAtom} (h : D.Inv w) (hk : D.Mine a.queueId)
    (hq : w.queue? a.queueId = some q) (ha : q.currentTask = some a)
    (hcomplete : D.Allowed w (.complete a))
    (harm : q.tasks ≠ [] → q.deferRemove = false →
      ¬(w.processor.quitting ∧ w.processor.runningTasks = 1) →
      D.Allowed (w.completeTask a.queueId a) (.arm a.queueId)) :
    D.Run w (rsuTaskQueueTaskCompleted taskDeleteCb a.queueId w) := by
  have hold := (D.processor h).queues _ q hq
  obtain ⟨-, -, -, hlive⟩ := hold.current a ha
  have hidle : q.idleId = 0 := by
    by_contra hne
    rw [(hold.idle hne).1] at ha
    exact absurd ha (by simp)
  have hpos : 0 < w.processor.runningTasks := by
    rw [(D.processor h).running]
    exact Assoc.count_pos_of_lookup hq (by simp [ha])
  have hcount : (w.finishTask a.queueId a).processor.runningTasks =
      w.processor.runningTasks - 1 := if_neg (Nat.ne_of_gt hpos)
  have hfirst : D.Run w (w.completeTask a.queueId a) := .one (.complete ⟨q, hq, ha⟩) hcomplete
  have hinv := hfirst.inv h
  have hq' : (w.completeTask a.queueId a).queue? a.queueId =
      some { q with currentTask := none } := by simp [queue?_completeTask, hq]
  rw [rsuTaskQueueTaskCompleted_eq hq ha hlive, afterCompletion]
  by_cases hquit : (w.finishTask a.queueId a).processor.quitting ∧
      (w.finishTask a.queueId a).processor.runningTasks = 0
  · rw [if_pos hquit]
    simpa only [World.completeTask, if_pos hquit] using hfirst
  · have hsame : w.completeTask a.queueId a = w.finishTask a.queueId a := if_neg hquit
    rw [if_neg hquit]
    rw [hsame] at hfirst hinv hq' harm
    by_cases hdefer : q.deferRemove
    · rw [if_pos hdefer]
      exact hfirst.trans (removeQueue_run hinv hk hq' rfl hidle (.inr hdefer))
    · rw [if_neg hdefer]
      by_cases htasks : 0 < q.tasks.length
      · rw [if_pos htasks]
        have hne : q.tasks ≠ [] := List.ne_nil_of_length_pos htasks
        refine hfirst.trans (.one (.arm hq' rfl hidle hne)
          (harm hne (by simpa using hdefer) ?_))
        rintro ⟨hquitting, hone⟩
        exact hquit ⟨hquitting, by rw [hcount, hone]⟩
      · rw [if_neg htasks]
        split
        · refine hfirst.trans (removeQueue_run hinv hk hq' rfl hidle (.inl ?_))
          exact List.length_eq_zero_iff.mp (Nat.eq_zero_of_not_pos htasks)
        · exact hfirst

/-! ## Cancelling -/

theorem queue?_clearQueue (w : World) (k k' : TaskQueueKey) (q : TaskQueue) :
    (w.clearQueue k q).queue? k' =
      if k' = k then (w.queue? k).map fun q =>
        { q with cancelled := true, tasks := [], idleId := 0 }
      else w.queue? k' :=
  queue?_modifyQueue _ k k' _

/-- `prv_task_queue_cancel` from the current task on. -/
def afterClear (k : TaskQueueKey) (q : TaskQueue) (w : World) : World :=
  match q.currentTask with
  | some a => taskCancelCb q.callbacks a (w.emit (.cancelled a))
  | none => if q.flags.autoRemove then removeQueue taskDeleteCb k w else w

theorem clearQueue_deferQueue (w : World) (k : TaskQueueKey) (q : TaskQueue) (b : Bool) :
    (w.deferQueue k b).clearQueue k { q with deferRemove := b } =
      (w.clearQueue k q).deferQueue k b := by
  let w₁ := (w.freeTasks q.tasks (q.tasks.flatMap w.cancelEvents)).sourceRemoveProcess q.idleId
  have hleft : (w.deferQueue k b).clearQueue k { q with deferRemove := b } =
      (w₁.deferQueue k b).modifyQueue k fun q =>
        { q with cancelled := true, tasks := [], idleId := 0 } := rfl
  have hright : (w.clearQueue k q).deferQueue k b =
      (w₁.modifyQueue k fun q => { q with cancelled := true, tasks := [], idleId := 0 }).deferQueue
        k b := rfl
  rw [hleft, hright, World.deferQueue, World.deferQueue, modifyQueue_modifyQueue,
    modifyQueue_modifyQueue]
  rfl

/-- A queue without a current task is gone, or empty, once it was cancelled. -/
theorem afterClear_idle (hq : w.queue? k = some q) (ha : q.currentTask = none)
    (hidle : q.idleId = 0) (htasks : q.tasks = []) :
    ∀ q', (afterClear k q w).queue? k = some q' →
      q'.currentTask = none ∧ q'.idleId = 0 ∧ q'.tasks = [] := by
  intro q'
  rw [afterClear, ha]
  dsimp only
  split
  · rw [removeQueue_eq hq (by simp [htasks]) (by simp [htasks]), queue?_dropQueue]
    simp
  · rw [hq]
    intro heq
    obtain rfl := Option.some.inj heq
    exact ⟨ha, hidle, htasks⟩

section Cancel

variable (hD : D.Cancels)
include hD

theorem afterClear_run (h : D.Inv w) (hk : D.Mine k) (hq : w.queue? k = some q)
    (hidle : q.idleId = 0) (htasks : q.tasks = []) : D.Run w (afterClear k q w) := by
  have hold := (D.processor h).queues k q hq
  unfold afterClear
  cases ha : q.currentTask with
  | some a =>
      obtain rfl : a.queueId = k := (hold.current a ha).1
      have hmark : D.Run w (w.emit (.cancelled a)) :=
        .one (.cancelling ⟨_, hq, ha⟩) (D.cancelling _ hk)
      exact hmark.trans (hD _ q a (hmark.inv h) hk hq ha htasks)
  | none =>
      dsimp only
      split
      · exact removeQueue_run h hk hq ha hidle (.inl htasks)
      · exact .refl

theorem prvTaskQueueCancel_run (h : D.Inv w) (hk : D.Mine k) (hq : w.queue? k = some q) :
    D.Run w (prvTaskQueueCancel taskDeleteCb taskCancelCb k q w) := by
  have hold := (D.processor h).queues k q hq
  have hclear : D.Run w (w.clearQueue k q) := .one (.clear hq) (D.clear w hk)
  have hq' : (w.clearQueue k q).queue? k =
      some { q with cancelled := true, tasks := [], idleId := 0 } := by
    simp [queue?_clearQueue, hq]
  rw [prvTaskQueueCancel_eq hq hold.nodup hold.fresh (D.processor h).idlePositive]
  exact hclear.trans (afterClear_run (q := { q with cancelled := true, tasks := [], idleId := 0 })
    hD (hclear.inv h) hk hq' rfl rfl)

theorem rsuTaskProcessorCancelQueue_run (h : D.Inv w) (hk : D.Mine k) (hq : w.queue? k = some q) :
    D.Run w (rsuTaskProcessorCancelQueue taskDeleteCb taskCancelCb k w) := by
  simp only [rsuTaskProcessorCancelQueue, hq]
  exact prvTaskQueueCancel_run hD h hk hq

theorem prvTaskQueueCancelCb_run (h : D.Inv w) (hk : D.Mine k) :
    D.Run w (prvTaskQueueCancelCb taskDeleteCb taskCancelCb k w) := by
  unfold prvTaskQueueCancelCb
  split
  · exact .refl
  · exact prvTaskQueueCancel_run hD h hk ‹_›

theorem prvCancelAllQueues_run (hall : ∀ k ∈ w.processor.taskQueues.keys, D.Mine k)
    (h : D.Inv w) : D.Run w (prvCancelAllQueues taskDeleteCb taskCancelCb w) :=
  Assoc.visitWhile_keeps (I := D.Run w)
    (fun _ k hk hrun => hrun.trans (prvTaskQueueCancelCb_run hD (hrun.inv h) (hall k hk))) .refl

theorem rsuTaskProcessorSetQuitting_run (hall : ∀ k ∈ w.processor.taskQueues.keys, D.Mine k)
    (h : D.Inv w)
    (hquitting : 0 < w.processor.runningTasks → D.Allowed w .quitting)
    (hnow : w.processor.runningTasks = 0 → D.Allowed w .quitNow) :
    D.Run w (rsuTaskProcessorSetQuitting taskDeleteCb taskCancelCb w) := by
  unfold rsuTaskProcessorSetQuitting
  dsimp only
  split
  next hrunning =>
    have hfirst : D.Run w w.setQuitting := .one (.quitting hrunning) (hquitting hrunning)
    exact hfirst.trans (prvCancelAllQueues_run hD hall (hfirst.inv h))
  next hrunning =>
    have hzero : w.processor.runningTasks = 0 := Nat.eq_zero_of_not_pos hrunning
    exact .one (.quitNow hzero) (hnow hzero)

theorem prvFreeQueueFor_run (hit : TaskQueueKey → Bool) (h : D.Inv w)
    (hk : hit k = true → D.Mine k) :
    D.Run w (prvFreeQueueFor taskDeleteCb taskCancelCb hit k w) := by
  unfold prvFreeQueueFor
  cases hq : w.queue? k with
  | none => exact .refl
  | some q =>
      dsimp only
      split
      next hfree =>
        have hmine := hk hfree.1
        have hok := D.processor h
        have hold := hok.queues k q hq
        have hclear : D.Run w (w.clearQueue k q) := .one (.clear hq) (D.clear w hmine)
        have hq₁ : (w.clearQueue k q).queue? k =
            some { q with cancelled := true, tasks := [], idleId := 0 } := by
          simp [queue?_clearQueue, hq]
        have hmark : D.Run w ((w.clearQueue k q).deferQueue k q.currentTask.isSome) :=
          hclear.trans (.one (.defer _ hq₁ rfl (by simpa using hfree.2)) (D.defer _ hmine))
        have hq₂ : ((w.clearQueue k q).deferQueue k q.currentTask.isSome).queue? k =
            some { q with
              cancelled := true
              tasks := []
              idleId := 0
              deferRemove := q.currentTask.isSome } := by
          simp [World.deferQueue, queue?_modifyQueue, hq₁]
        have hq₀ : (w.deferQueue k q.currentTask.isSome).queue? k =
            some { q with deferRemove := q.currentTask.isSome } := by
          simp [World.deferQueue, queue?_modifyQueue, hq]
        have hcancel := hmark.trans (afterClear_run hD (hmark.inv h) hmine hq₂ rfl rfl)
        have heq : prvTaskQueueCancel taskDeleteCb taskCancelCb k
            { q with deferRemove := q.currentTask.isSome }
            (w.deferQueue k q.currentTask.isSome) =
              afterClear k { q with
                cancelled := true
                tasks := []
                idleId := 0
                deferRemove := q.currentTask.isSome }
                ((w.clearQueue k q).deferQueue k q.currentTask.isSome) := by
          rw [prvTaskQueueCancel_eq hq₀ hold.nodup hold.fresh hok.idlePositive,
            clearQueue_deferQueue]
          rfl
        rw [World.deferQueue] at heq
        rw [heq]
        split
        · exact hcancel
        next hnone =>
          have ha : q.currentTask = none := by simpa using hnone
          refine hcancel.trans ?_
          have hdone := hcancel.inv h
          have hafter := afterClear_idle hq₂ ha rfl rfl
          revert hdone hafter
          generalize afterClear k _ _ = w'
          intro hdone hafter
          cases hq' : w'.queue? k with
          | none =>
              simp only [removeQueue, hq']
              exact .refl
          | some q' =>
              obtain ⟨hcurrent, hidle, htasks⟩ := hafter q' hq'
              exact removeQueue_run hdone hmine hq' hcurrent hidle (.inl htasks)
      · exact .refl

theorem rsuTaskProcessorRemoveQueuesForSource_run (source : String) (h : D.Inv w)
    (hall : ∀ k ∈ w.processor.taskQueues.keys, k.source = source → D.Mine k) :
    D.Run w (rsuTaskProcessorRemoveQueuesForSource taskDeleteCb taskCancelCb source w) :=
  Discipline.Run.foldl_mem
    (fun _ k hk hw => prvFreeQueueFor_run hD _ hw fun hit => hall k hk (by simpa using hit)) w h

theorem rsuTaskProcessorRemoveQueuesForSink_run (sink : String) (h : D.Inv w)
    (hall : ∀ k ∈ w.processor.taskQueues.keys, k.sink = sink → D.Mine k) :
    D.Run w (rsuTaskProcessorRemoveQueuesForSink taskDeleteCb taskCancelCb sink w) :=
  Discipline.Run.foldl_mem
    (fun _ k hk hw => prvFreeQueueFor_run hD _ hw fun hit => hall k hk (by simpa using hit)) w h

end Cancel

/-! ## Adding and starting -/

theorem rsuTaskProcessorAddQueue_eq {source sink : String} (flags : TaskQueueFlags)
    (callbacks : TaskCallbacks) (hnew : rsuTaskProcessorLookupQueue w source sink = none) :
    rsuTaskProcessorAddQueue taskDeleteCb source sink flags callbacks w =
      (⟨w.processor.nextKey, source, sink⟩, w.addQueue source sink flags callbacks) := by
  have hnew' : ∀ n, rsuTaskProcessorLookupQueue
      { w with processor := { w.processor with nextKey := n } } source sink = none :=
    fun _ => hnew
  simp only [rsuTaskProcessorAddQueue, hnew']
  rfl

theorem rsuTaskQueueStart_run (hq : w.queue? k = some q) (htasks : q.tasks ≠ [])
    (harm : q.deferRemove = false → q.currentTask = none → q.idleId = 0 →
      D.Allowed w (.arm k)) :
    D.Run w (rsuTaskQueueStart k w) := by
  simp only [rsuTaskQueueStart, hq]
  split
  · exact .refl
  next hdefer =>
    split
    next hready =>
      exact .one (.arm hq hready.1 hready.2 htasks)
        (harm (by simpa using hdefer) hready.1 hready.2)
    · exact .refl

theorem queue?_pushTask (w : World) (k k' : TaskQueueKey) (task : Task) :
    (w.pushTask k task).queue? k' =
      if k' = k then (w.queue? k).map fun q => { q with tasks := q.tasks ++ [w.newAtom k] }
      else w.queue? k' :=
  queue?_modifyQueue _ k k' _

theorem rsuTaskQueueAddTask_run {task : Task} (hq : w.queue? k = some q)
    (hfresh : q.callbacks.Fresh (some task)) (hadd : D.Allowed w (.addTask k q.deferRemove task))
    (harm : q.deferRemove = false → q.flags.autoStart → q.currentTask = none → q.idleId = 0 →
      D.Allowed (w.pushTask k task) (.arm k)) :
    D.Run w (rsuTaskQueueAddTask k task w) := by
  have hpush : D.Run w (w.pushTask k task) := .one (.addTask hq hfresh) hadd
  have hq' : (w.pushTask k task).queue? k =
      some { q with tasks := q.tasks ++ [w.newAtom k] } := by simp [queue?_pushTask, hq]
  simp only [rsuTaskQueueAddTask, hq]
  split
  · exact hpush
  next hdefer =>
    split
    next hready =>
      exact hpush.trans (.one (.arm hq' hready.2.1 hready.2.2 (by simp))
        (harm (by simpa using hdefer) hready.1 hready.2.1 hready.2.2))
    · exact hpush

end RendererService
