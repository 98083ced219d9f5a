import Mathlib.Data.List.Induction
import RendererService.Processor.Cancellation

/-!
# Visiting the queues

`prv_cancel_all_queues` goes through the table with `g_hash_table_foreach`.  A
visit may remove the queue that it visits, and the loop stops there.
-/

namespace RendererService

open Transition

/-! ## One visit -/

def World.Awaits (w : World) (a : TaskAtom) : Prop :=
  ∃ t, w.tasks a = some (.service t) ∧ t.pAction.isSome = true

/-- To cancel the queue while the process quits is to remove it: it is removed
when it is empty, and either nothing of it runs or what runs ends with its
cancellation, which is not the end of the last task. -/
def World.RemovedByCancel (w : World) (q : TaskQueue) : Prop :=
  q.flags.autoRemove = true ∧
    ∀ a, q.currentTask = some a → w.Awaits a ∧ w.processor.runningTasks ≠ 1

section Visit

variable {w : World} {k : TaskQueueKey} {q : TaskQueue} {a : TaskAtom}

theorem queue?_removeQueue (hq : w.queue? k = some q) (htasks : q.tasks = []) :
    (removeQueue taskDeleteCb k w).queue? k = none ∧
      (removeQueue taskDeleteCb k w).processor.runningTasks = w.processor.runningTasks := by
  rw [removeQueue_eq hq (by simp [htasks]) (by simp [htasks])]
  refine ⟨by rw [queue?_dropQueue, if_pos rfl], ?_⟩
  unfold World.dropQueue
  cases q.finallyCb <;> rfl

theorem completed_removes (hq : w.queue? k = some q) (ha : q.currentTask = some a)
    (hlive : q.callbacks.Live (w.tasks a)) (htasks : q.tasks = [])
    (hauto : q.flags.autoRemove = true) (hquit : w.processor.quitting = true)
    (hpos : 0 < w.processor.runningTasks) :
    let w' := rsuTaskQueueTaskCompleted taskDeleteCb k w
    (w'.queue? k = none ↔ w.processor.runningTasks ≠ 1) ∧
      w'.processor.runningTasks ≤ w.processor.runningTasks ∧
      ∀ q', w'.queue? k = some q' → q'.tasks = [] ∧ q'.idleId = q.idleId := by
  have hcount : (w.finishTask k a).processor.runningTasks = w.processor.runningTasks - 1 :=
    if_neg (Nat.ne_of_gt hpos)
  have hflag : (w.finishTask k a).processor.quitting = true := hquit
  have hq' : (w.finishTask k a).queue? k = some { q with currentTask := none } := by
    have hlookup : (w.finishTask k a).queue? k =
        if k = k then (w.queue? k).map fun q => { q with currentTask := none }
        else w.queue? k := queue?_modifyQueue _ k k _
    rw [hlookup, if_pos rfl, hq]
    rfl
  dsimp only
  rw [rsuTaskQueueTaskCompleted_eq hq ha hlive, afterCompletion]
  by_cases hlast : w.processor.runningTasks = 1
  · have hzero : (w.finishTask k a).processor.runningTasks = 0 := by omega
    have hkept : (w.finishTask k a).idleAddQuit.queue? k = some { q with currentTask := none } :=
      hq'
    rw [if_pos ⟨hflag, hzero⟩]
    refine ⟨by simp [hkept, hlast], ?_, ?_⟩
    · show (w.finishTask k a).processor.runningTasks ≤ _
      omega
    · intro q₀ hq₀
      obtain rfl := Option.some.inj (hkept.symm.trans hq₀)
      exact ⟨htasks, rfl⟩
  · have hne : ¬((w.finishTask k a).processor.quitting = true ∧
        (w.finishTask k a).processor.runningTasks = 0) := by
      rintro ⟨-, hzero⟩
      omega
    obtain ⟨hnone, hrunning⟩ := queue?_removeQueue hq' htasks
    have hremoved : (if q.deferRemove then removeQueue taskDeleteCb k (w.finishTask k a)
        else if 0 < q.tasks.length then (w.finishTask k a).idleAddProcess k
        else if q.flags.autoRemove then removeQueue taskDeleteCb k (w.finishTask k a)
        else w.finishTask k a) = removeQueue taskDeleteCb k (w.finishTask k a) := by
      simp [htasks, hauto]
    rw [if_neg hne, hremoved]
    refine ⟨by simp [hnone, hlast], ?_, ?_⟩
    · rw [hrunning]
      omega
    · intro q₀ hq₀
      rw [hnone] at hq₀
      simp at hq₀

structure Visited (w : World) (k : TaskQueueKey) (q : TaskQueue) (w' : World) : Prop where
  gone : w'.queue? k = none ↔ w.RemovedByCancel q
  running_le : w'.processor.runningTasks ≤ w.processor.runningTasks
  running_eq : (∀ a, q.currentTask = some a → ¬w.Awaits a) →
    w'.processor.runningTasks = w.processor.runningTasks
  cleared : ∀ q', w'.queue? k = some q' → q'.tasks = [] ∧ q'.idleId = 0

theorem visited_of_emptied {w' : World} (hqueue : w'.queue? k = some q.emptied)
    (hprocessor : w'.processor.runningTasks = w.processor.runningTasks)
    (hkept : ¬w.RemovedByCancel q) : Visited w k q w' := by
  refine ⟨by simp [hqueue, hkept], Nat.le_of_eq hprocessor, fun _ => hprocessor, ?_⟩
  intro q' hq'
  obtain rfl := Option.some.inj (hqueue.symm.trans hq')
  exact ⟨rfl, rfl⟩

theorem visited_idle (hok : ProcessorOk w) (hq : w.queue? k = some q)
    (hidle : q.currentTask = none) :
    Visited w k q (prvTaskQueueCancelCb taskDeleteCb taskCancelCb k w) := by
  have hold := hok.queues k q hq
  have heq : prvTaskQueueCancelCb taskDeleteCb taskCancelCb k w =
      if q.flags.autoRemove then removeQueue taskDeleteCb k (w.clearQueue k q)
      else w.clearQueue k q := by
    simp only [prvTaskQueueCancelCb, hq]
    rw [prvTaskQueueCancel_eq hq hold.nodup hold.fresh hok.idlePositive, hidle]
  rw [heq]
  split
  next hauto =>
    obtain ⟨hnone, hrunning⟩ := queue?_removeQueue (queue?_clearQueue_self hq) rfl
    have hremoved : w.RemovedByCancel q := ⟨hauto, fun a ha => absurd ha (by simp [hidle])⟩
    refine ⟨by simp [hnone, hremoved], Nat.le_of_eq hrunning, fun _ => hrunning, ?_⟩
    intro q' hq'
    rw [hnone] at hq'
    simp at hq'
  next hauto =>
    exact visited_of_emptied (queue?_clearQueue_self hq) rfl fun hremoved => hauto hremoved.1

theorem prvTaskQueueCancelCb_running (hok : ProcessorOk w) (hq : w.queue? k = some q)
    (ha : q.currentTask = some a) :
    prvTaskQueueCancelCb taskDeleteCb taskCancelCb k w =
      taskCancelCb q.callbacks a ((w.clearQueue k q).emit (.cancelled a)) := by
  have hold := hok.queues k q hq
  simp only [prvTaskQueueCancelCb, hq]
  rw [prvTaskQueueCancel_eq hq hold.nodup hold.fresh hok.idlePositive, ha]

/-- A request is cancelled: it goes on until its completion. -/
theorem visited_client (hok : ProcessorOk w) (husual : UsualOk w) (hq : w.queue? k = some q)
    (ha : q.currentTask = some a) (hcs : q.callbacks = .client) :
    Visited w k q (prvTaskQueueCancelCb taskDeleteCb taskCancelCb k w) := by
  rw [prvTaskQueueCancelCb_running hok hq ha, hcs]
  have htouch : Touches a ((w.clearQueue k q).emit (.cancelled a))
      (taskCancelCb .client a ((w.clearQueue k q).emit (.cancelled a))) := touches_rsuTaskCancel
  have hauto : q.flags.autoRemove = false := by
    rw [husual.flags _ q hq, hcs]
    rfl
  refine visited_of_emptied ((htouch.queue? _).trans (queue?_clearQueue_self hq)) ?_
    fun hremoved => ?_
  · rw [htouch.processor]
    rfl
  · exact absurd (hauto.symm.trans hremoved.1) (by simp)

/-- A step of a construction that waits for an action is cancelled: it completes. -/
theorem visited_waiting (hok : ProcessorOk w) (husual : UsualOk w)
    (hquit : w.processor.quitting = true) (hq : w.queue? k = some q)
    (ha : q.currentTask = some a) (hcs : q.callbacks = .service) {t : ServiceTask}
    (ht : w.tasks a = some (.service t)) (hwaits : t.pAction.isSome = true) :
    Visited w k q (prvTaskQueueCancelCb taskDeleteCb taskCancelCb k w) := by
  obtain ⟨rfl, -, hnot, -⟩ := (hok.queues k q hq).current a ha
  rw [prvTaskQueueCancelCb_running hok hq ha, hcs]
  let w₁ := (w.clearQueue a.queueId q).emit (.cancelled a)
  have ht₁ : w₁.tasks a = some (.service t) := Eq.trans (if_neg hnot) ht
  have hauto : q.flags.autoRemove = true := by
    rw [husual.flags _ q hq, hcs]
    rfl
  let w₂ := w₁.giveUpStep a t
  have htouch : Touches a w₁ w₂ := touches_giveUpStep ht₁
  have hcancelled : taskCancelCb .service a w₁ =
      rsuTaskQueueTaskCompleted taskDeleteCb a.queueId w₂ := by
    simp only [taskCancelCb, rsuServiceTaskCancelCb_eq ht₁, hwaits]
    rfl
  have hq₂ : w₂.queue? a.queueId = some q.emptied :=
    (htouch.queue? _).trans (queue?_clearQueue_self hq)
  have hlive : q.emptied.callbacks.Live (w₂.tasks a) := by
    rw [show w₂.tasks a = _ from if_pos rfl, show q.emptied.callbacks = .service from hcs]
    trivial
  have hprocessor : w₂.processor.runningTasks = w.processor.runningTasks := by
    rw [htouch.processor]
    rfl
  have hquit₂ : w₂.processor.quitting = true := by
    rw [htouch.processor]
    exact hquit
  have hpos : 0 < w₂.processor.runningTasks := by
    rw [hprocessor, hok.running]
    exact Assoc.count_pos_of_lookup hq (by simp [ha])
  obtain ⟨hgone, hle, hkept⟩ := completed_removes hq₂ ha hlive rfl hauto hquit₂ hpos
  show Visited w a.queueId q (taskCancelCb .service a w₁)
  rw [hcancelled]
  rw [hprocessor] at hgone hle
  refine ⟨hgone.trans ?_, hle, fun hnone => absurd ⟨t, ht, hwaits⟩ (hnone a ha), hkept⟩
  constructor
  · intro hmany
    refine ⟨hauto, fun b hb => ?_⟩
    obtain rfl := Option.some.inj (ha.symm.trans hb)
    exact ⟨⟨t, ht, hwaits⟩, hmany⟩
  · exact fun hremoved => (hremoved.2 a ha).2

/-- A step of a construction whose action has ended has nothing to cancel. -/
theorem visited_ended (hok : ProcessorOk w) (hq : w.queue? k = some q)
    (ha : q.currentTask = some a) (hcs : q.callbacks = .service) {t : ServiceTask}
    (ht : w.tasks a = some (.service t)) (hwaits : ¬t.pAction.isSome = true) :
    Visited w k q (prvTaskQueueCancelCb taskDeleteCb taskCancelCb k w) := by
  obtain ⟨-, -, hnot, -⟩ := (hok.queues k q hq).current a ha
  rw [prvTaskQueueCancelCb_running hok hq ha, hcs]
  have ht₁ : ((w.clearQueue k q).emit (.cancelled a)).tasks a = some (.service t) :=
    Eq.trans (if_neg hnot) ht
  have hsame : taskCancelCb .service a ((w.clearQueue k q).emit (.cancelled a)) =
      (w.clearQueue k q).emit (.cancelled a) := by
    simp only [taskCancelCb, rsuServiceTaskCancelCb_eq ht₁]
    exact if_neg hwaits
  rw [hsame]
  refine visited_of_emptied (queue?_clearQueue_self hq) rfl fun hremoved => ?_
  obtain ⟨⟨t', ht', hwaits'⟩, -⟩ := hremoved.2 a ha
  obtain rfl : t = t' := by simpa [ht] using ht'
  exact hwaits hwaits'

theorem visited_running (hok : ProcessorOk w) (husual : UsualOk w)
    (hquit : w.processor.quitting = true) (hq : w.queue? k = some q)
    (ha : q.currentTask = some a) :
    Visited w k q (prvTaskQueueCancelCb taskDeleteCb taskCancelCb k w) := by
  cases hcs : q.callbacks with
  | client => exact visited_client hok husual hq ha hcs
  | service =>
      obtain ⟨-, -, -, hlive⟩ := (hok.queues k q hq).current a ha
      rw [hcs] at hlive
      obtain ⟨t, ht⟩ := TaskCallbacks.live_service hlive
      by_cases hwaits : t.pAction.isSome = true
      · exact visited_waiting hok husual hquit hq ha hcs ht hwaits
      · exact visited_ended hok hq ha hcs ht hwaits

theorem visited_cancel (hok : ProcessorOk w) (husual : UsualOk w)
    (hquit : w.processor.quitting = true) (hq : w.queue? k = some q) :
    Visited w k q (prvTaskQueueCancelCb taskDeleteCb taskCancelCb k w) := by
  cases ha : q.currentTask with
  | none => exact visited_idle hok hq ha
  | some a => exact visited_running hok husual hquit hq ha

end Visit

/-! ## The loop -/

/-- The steps that take queues down, and add nothing. -/
def teardownSteps : Discipline := processorSteps (fun act => act.teardown = true) fun _ h => h

section Loop

variable {w w' : World} {k : TaskQueueKey} {q : TaskQueue} {l : List TaskQueueKey}

theorem Step.quitting_eq {act : Act} (hstep : Step Elsewhere w act w') (hact : act ≠ .quitting)
    (hact' : act ≠ .quitNow) : w'.processor.quitting = w.processor.quitting := by
  cases hstep with
  | quitting _ => exact absurd rfl hact
  | quitNow _ => exact absurd rfl hact'
  | @complete a _ =>
      show (w.completeTask a.queueId a).processor.quitting = _
      unfold World.completeTask
      dsimp only
      split <;> rfl
  | @remove k q _ _ _ _ =>
      unfold World.dropQueue
      cases q.finallyCb <;> rfl
  | elsewhere he => rw [he.processor]
  | _ => rfl

theorem Step.nextKey_eq {act : Act} (hstep : Step Elsewhere w act w')
    (hact : act.teardown = true) : w'.processor.nextKey = w.processor.nextKey := by
  cases hstep with
  | @complete a _ =>
      show (w.completeTask a.queueId a).processor.nextKey = _
      unfold World.completeTask
      dsimp only
      split <;> rfl
  | @remove k q _ _ _ _ =>
      unfold World.dropQueue
      cases q.finallyCb <;> rfl
  | elsewhere he => rw [he.processor]
  | defer _ _ _ _ | clear _ | cancelling _ => rfl
  | _ => simp [Act.teardown] at hact

structure TakenDown (w w' : World) : Prop where
  ok : ProcessorOk w'
  usual : UsualOk w'
  quitting : w'.processor.quitting = w.processor.quitting
  nextKey : w'.processor.nextKey = w.processor.nextKey

theorem teardownSteps_takenDown (h : teardownSteps.Run w w') (hok : ProcessorOk w)
    (husual : UsualOk w) : TakenDown w w' := by
  refine System.Steps.invariant (I := TakenDown w) h ⟨hok, husual, rfl, rfl⟩ ?_
  rintro w₁ act w₂ ⟨hok₁, husual₁, hquitting, hnext⟩ ⟨hact, hstep⟩
  have hteardown : act.teardown = true := hact
  refine ⟨hstep.ok (fun _ _ _ he => he) hok₁, hstep.usualOk hok₁ husual₁ ?_ ?_, ?_, ?_⟩
  · rintro source sink callbacks rfl
    simp [Act.teardown] at hteardown
  · rintro k deferRemove t rfl
    simp [Act.teardown] at hteardown
  · refine (hstep.quitting_eq ?_ ?_).trans hquitting <;> rintro rfl <;>
      simp [Act.teardown] at hteardown
  · exact (hstep.nextKey_eq hteardown).trans hnext

def World.visits (w : World) (l : List TaskQueueKey) : World :=
  l.foldl (fun w k => prvTaskQueueCancelCb taskDeleteCb taskCancelCb k w) w

theorem visits_snoc (w : World) (l : List TaskQueueKey) (k : TaskQueueKey) :
    w.visits (l ++ [k]) = prvTaskQueueCancelCb taskDeleteCb taskCancelCb k (w.visits l) := by
  simp [World.visits, List.foldl_append]

theorem cancelVisit_run {mine : TaskQueueKey → Prop} (w : World) (k : TaskQueueKey) (hk : mine k)
    (hok : ProcessorOk w) :
    (localSteps mine).Run w (prvTaskQueueCancelCb taskDeleteCb taskCancelCb k w) :=
  prvTaskQueueCancelCb_run localSteps_local.cancels hok hk

theorem visits_takenDown (hok : ProcessorOk w) (husual : UsualOk w) (l : List TaskQueueKey) :
    TakenDown w (w.visits l) := by
  have hrun : teardownSteps.Run w (w.visits l) :=
    Discipline.Run.foldl
      (fun _ _ hw => prvTaskQueueCancelCb_run processorSteps_open.cancels hw trivial) l w hok
  exact teardownSteps_takenDown hrun hok husual

theorem visits_untouched (hok : ProcessorOk w) (hk : k ∉ l) : Untouched k w (w.visits l) := by
  have hrun : (localSteps (· ∈ l)).Run w (w.visits l) :=
    visits_run (fun w k hmem => cancelVisit_run w k hmem) hok
  exact localSteps_untouched hrun hok hk

theorem Untouched.awaits {a : TaskAtom} (h : Untouched k w w') (hok : ProcessorOk w)
    (hq : w.queue? k = some q) (ha : q.currentTask = some a) : w'.Awaits a ↔ w.Awaits a := by
  obtain ⟨rfl, -⟩ := (hok.queues k q hq).current a ha
  unfold World.Awaits
  rw [h.records a rfl ⟨q, hq, .inr ha⟩]

theorem visits_next (hok : ProcessorOk w) (husual : UsualOk w)
    (hquit : w.processor.quitting = true) (hk : k ∉ l) (hq : w.queue? k = some q) :
    Visited (w.visits l) k q (w.visits (l ++ [k])) := by
  have hdown := visits_takenDown hok husual l
  have hsame : (w.visits l).queue? k = some q := (visits_untouched hok hk).queue.trans hq
  rw [visits_snoc]
  exact visited_cancel hdown.ok hdown.usual (hdown.quitting.trans hquit) hsame

theorem running_pos {a : TaskAtom} (hok : ProcessorOk w) (hq : w.queue? k = some q)
    (ha : q.currentTask = some a) : 0 < w.processor.runningTasks := by
  rw [hok.running]
  exact Assoc.count_pos_of_lookup hq (by simp [ha])

theorem sameVersion_iff : w.SameVersion w' ↔
    ∀ k, (∃ q, w'.queue? k = some q) ↔ ∃ q, w.queue? k = some q := by
  have hnodup : w.processor.taskQueues.keys.Nodup := w.processor.taskQueues.nodupKeys
  have hnodup' : w'.processor.taskQueues.keys.Nodup := w'.processor.taskQueues.nodupKeys
  refine (List.perm_ext_iff_of_nodup hnodup' hnodup).trans (forall_congr' fun k => ?_)
  rw [Assoc.mem_keys_iff, Assoc.mem_keys_iff]

/-- A visit changes the table only by removing the queue that it visits. -/
theorem visits_sameVersion (hok : ProcessorOk w) (husual : UsualOk w)
    (hkept : ∀ q, (w.visits l).queue? k = some q → (w.visits (l ++ [k])).queue? k ≠ none) :
    (w.visits l).SameVersion (w.visits (l ++ [k])) := by
  have hdown := visits_takenDown hok husual l
  refine sameVersion_iff.mpr fun k' => ?_
  by_cases hne : k' = k
  · subst hne
    refine ⟨fun hsome => ?_, fun ⟨q, hq⟩ => Option.ne_none_iff_exists'.mp (hkept q hq)⟩
    by_contra hnone
    have hgone : (w.visits l).queue? k' = none := by
      cases hq : (w.visits l).queue? k' with
      | none => rfl
      | some q => exact absurd ⟨q, hq⟩ hnone
    have hidle : w.visits (l ++ [k']) = w.visits l := by
      rw [visits_snoc]
      simp only [prvTaskQueueCancelCb, hgone]
    exact hnone (hidle ▸ hsome)
  · have hrun : (localSteps (· = k)).Run (w.visits l)
        (prvTaskQueueCancelCb taskDeleteCb taskCancelCb k (w.visits l)) :=
      cancelVisit_run _ k rfl hdown.ok
    rw [visits_snoc, (localSteps_untouched hrun hdown.ok hne).queue]

theorem visits_running_le (hok : ProcessorOk w) (husual : UsualOk w)
    (hquit : w.processor.quitting = true) (l : List TaskQueueKey) :
    l.Nodup → (w.visits l).processor.runningTasks ≤ w.processor.runningTasks := by
  induction l using List.reverseRecOn with
  | nil => exact fun _ => Nat.le_refl _
  | append_singleton l k ih =>
      intro hnodup
      obtain ⟨hl, -, hdisjoint⟩ := List.nodup_append.mp hnodup
      have hk : k ∉ l := fun hmem => hdisjoint k hmem k (List.mem_singleton.mpr rfl) rfl
      cases hq : w.queue? k with
      | none =>
          have hsame := (visits_untouched hok hk).queue.trans hq
          rw [visits_snoc]
          simp only [prvTaskQueueCancelCb, hsame]
          exact ih hl
      | some q => exact Nat.le_trans (visits_next hok husual hquit hk hq).running_le (ih hl)

/-- A queue that its visit removes is one that its visit would have removed at
the start. -/
theorem removedByCancel_of_visits (hok : ProcessorOk w) (husual : UsualOk w)
    (hquit : w.processor.quitting = true) (hl : l.Nodup) (hk : k ∉ l) (hq : w.queue? k = some q)
    (h : (w.visits l).RemovedByCancel q) : w.RemovedByCancel q := by
  obtain ⟨hauto, hends⟩ := h
  have hsame := visits_untouched hok hk
  refine ⟨hauto, fun a ha => ?_⟩
  obtain ⟨hawaits, hmany⟩ := hends a ha
  have hpos := running_pos (visits_takenDown hok husual l).ok (hsame.queue.trans hq) ha
  have hle := visits_running_le hok husual hquit l hl
  exact ⟨(hsame.awaits hok hq ha).mp hawaits, by omega⟩

/-- Where the table is not the same after a visit, the visit has removed its
queue. -/
theorem removedByCancel_of_changed (hok : ProcessorOk w) (husual : UsualOk w)
    (hquit : w.processor.quitting = true) (hl : l.Nodup) (hk : k ∉ l)
    (hchanged : ¬(w.visits l).SameVersion (w.visits (l ++ [k]))) :
    ∃ q, w.queue? k = some q ∧ w.RemovedByCancel q := by
  by_contra hkeep
  refine hchanged (visits_sameVersion hok husual fun q hq hnone => hkeep ?_)
  have hq₀ : w.queue? k = some q := (visits_untouched hok hk).queue.symm.trans hq
  exact ⟨q, hq₀, removedByCancel_of_visits hok husual hquit hl hk hq₀
    ((visits_next hok husual hquit hk hq₀).gone.mp hnone)⟩

/-- The loop visits the queues in the order of the table, up to the first queue
that its visit removes. -/
theorem prvCancelAllQueues_visits (hok : ProcessorOk w) (husual : UsualOk w)
    (hquit : w.processor.quitting = true) :
    ∃ done rest, w.processor.taskQueues.keys = done ++ rest ∧
      prvCancelAllQueues taskDeleteCb taskCancelCb w = w.visits done ∧
      (rest ≠ [] → ∃ before k q, done = before ++ [k] ∧ w.queue? k = some q ∧
        w.RemovedByCancel q) := by
  obtain ⟨done, rest, hkeys, hvisits, hlast⟩ := @Assoc.visitWhile_split _ _ World.SameVersion _
    (fun w k => prvTaskQueueCancelCb taskDeleteCb taskCancelCb k w) w.processor.taskQueues.keys w
  refine ⟨done, rest, hkeys, hvisits, fun hrest => ?_⟩
  obtain ⟨before, k, rfl, hchanged⟩ := hlast hrest
  have hnodup : (before ++ [k] ++ rest).Nodup := hkeys ▸ w.processor.taskQueues.nodupKeys
  obtain ⟨hbefore, -, hdisjoint⟩ := List.nodup_append.mp (List.nodup_append.mp hnodup).1
  have hk : k ∉ before := fun hmem => hdisjoint k hmem k (List.mem_singleton.mpr rfl) rfl
  obtain ⟨q, hq, hremoved⟩ := removedByCancel_of_changed hok husual hquit hbefore hk hchanged
  exact ⟨before, k, q, rfl, hq, hremoved⟩

/-- Where no queue is one that its visit removes, all are visited. -/
theorem prvCancelAllQueues_eq_visits (hok : ProcessorOk w) (husual : UsualOk w)
    (hquit : w.processor.quitting = true)
    (hkeep : ∀ k q, w.queue? k = some q → ¬w.RemovedByCancel q) :
    prvCancelAllQueues taskDeleteCb taskCancelCb w = w.visits w.processor.taskQueues.keys := by
  obtain ⟨done, rest, hkeys, hvisits, hlast⟩ := prvCancelAllQueues_visits hok husual hquit
  by_cases hrest : rest = []
  · rw [hvisits, hkeys, hrest, List.append_nil]
  · obtain ⟨-, k, q, -, hq, hremoved⟩ := hlast hrest
    exact absurd hremoved (hkeep k q hq)

end Loop

end RendererService
