import RendererService.Processor.Order
import RendererService.Model.Schedules

/-!
# Accepted tasks

A task that was added to a queue should be processed or cancelled before it is
deleted.  This holds as long as no task is added to a queue that waits for its
removal: `rsu_task_queue_task_completed` deletes such a queue together with
what was added to it in the meantime.
-/

namespace RendererService

open Transition

/-- A task is handed to `task_delete_cb` only after it was handed to
`task_process_cb` or to `task_cancel_cb`. -/
def NoneDropped (log : List Event) : Prop :=
  Log.Before (fun past e => ∀ a, e = .deleted a →
    .processed a ∈ past ∨ .cancelled a ∈ past) log

/-- The log drops no task, a queue that waits for its removal is empty, and a
current task has been processed. -/
structure Accepted (w : World) : Prop where
  noneDropped : NoneDropped w.log
  removed : ∀ k q, w.queue? k = some q → q.deferRemove = true → q.tasks = []
  current : ∀ a, w.Current a → .processed a ∈ w.log

section Steps

variable {w w' : World} {k : TaskQueueKey} {l : List Event}

theorem NoneDropped.append {log : List Event} (h : NoneDropped log)
    (hl : ∀ a, .deleted a ∈ l → .processed a ∈ log) : NoneDropped (log ++ l) := by
  refine Log.Before.append h ?_
  rintro past e future rfl a rfl
  exact .inl (List.mem_append_left _ (hl a (by simp)))

theorem noneDropped_cancelEvents (w : World) (tasks : List TaskAtom) :
    NoneDropped (tasks.flatMap w.cancelEvents) := by
  refine Log.before_flatMap ?_ (fun a => ?_) tasks
  · intro pre past e h a he
    exact (h a he).imp (List.mem_append_right pre) (List.mem_append_right pre)
  · rintro past e future hsplit b rfl
    cases past with
    | nil => simp [World.cancelEvents] at hsplit
    | cons x past =>
        obtain ⟨rfl, hrest⟩ := List.cons.inj hsplit
        have hmem : Event.deleted b ∈ pendingReply (w.tasks a) (.error operationCancelled) ++
            [.deleted a] := by
          rw [hrest]
          simp
        rcases List.mem_append.mp hmem with hmem | hmem
        · obtain ⟨_, hreply⟩ := mem_pendingReply hmem
          simp at hreply
        · obtain rfl : b = a := by simpa using hmem
          exact .inr List.mem_cons_self

/-- The tasks of a queue other than `k` and the current tasks stay. -/
theorem Accepted.modify (h : Accepted w) {f : TaskQueue → TaskQueue} (hlog : w'.log = w.log ++ l)
    (hdropped : NoneDropped (w.log ++ l))
    (hlookup : ∀ k₀, w'.queue? k₀ = if k₀ = k then (w.queue? k).map f else w.queue? k₀)
    (hf : ∀ q, w.queue? k = some q → (f q).deferRemove = true → (f q).tasks = [])
    (hcurrent : ∀ q a, w.queue? k = some q → (f q).currentTask = some a →
      q.currentTask = some a ∨ .processed a ∈ l) : Accepted w' := by
  refine ⟨hlog ▸ hdropped, ?_, ?_⟩
  · intro k₀ q hq hdefer
    rw [hlookup] at hq
    split at hq
    · obtain ⟨q₀, hq₀, rfl⟩ := Option.map_eq_some_iff.mp hq
      exact hf q₀ hq₀ hdefer
    · exact h.removed k₀ q hq hdefer
  · rintro a ⟨q, hq, ha⟩
    rw [hlog]
    rw [hlookup] at hq
    split at hq
    next hk =>
      obtain ⟨q₀, hq₀, rfl⟩ := Option.map_eq_some_iff.mp hq
      rcases hcurrent q₀ a hq₀ ha with hold | hnew
      · exact List.mem_append_left _ (h.current a ⟨q₀, hk ▸ hq₀, hold⟩)
      · exact List.mem_append_right _ hnew
    · exact List.mem_append_left _ (h.current a ⟨q, hq, ha⟩)

theorem Accepted.untouched (h : Accepted w) (hlog : w'.log = w.log ++ l)
    (hl : ∀ a, .deleted a ∉ l) (hqueues : ∀ k, w'.queue? k = w.queue? k) : Accepted w' := by
  refine ⟨hlog ▸ NoneDropped.append h.noneDropped fun a ha => absurd ha (hl a), ?_, ?_⟩
  · intro k q hq
    exact h.removed k q (hqueues k ▸ hq)
  · rintro a ⟨q, hq, ha⟩
    rw [hlog]
    exact List.mem_append_left _ (h.current a ⟨q, hqueues _ ▸ hq, ha⟩)

theorem addQueue_accepted (h : Accepted w) {source sink : String} (flags : TaskQueueFlags)
    (callbacks : TaskCallbacks) : Accepted (w.addQueue source sink flags callbacks) := by
  have hlookup : ∀ k q, (w.addQueue source sink flags callbacks).queue? k = some q →
      q = { callbacks := callbacks, flags := flags } ∨ w.queue? k = some q := by
    intro k q hq
    have heq : (w.addQueue source sink flags callbacks).queue? k =
        if k = ⟨w.processor.nextKey, source, sink⟩ then
          some { callbacks := callbacks, flags := flags } else w.queue? k :=
      Assoc.lookup_insert_eq _ _ _ _
    rw [heq] at hq
    split at hq
    · exact .inl (Option.some.inj hq).symm
    · exact .inr hq
  refine ⟨h.noneDropped, ?_, ?_⟩
  · intro k q hq hdefer
    rcases hlookup k q hq with rfl | hq
    · rfl
    · exact h.removed k q hq hdefer
  · rintro a ⟨q, hq, ha⟩
    rcases hlookup _ q hq with rfl | hq
    · simp at ha
    · exact h.current a ⟨q, hq, ha⟩

theorem completeTask_accepted (h : Accepted w) {a : TaskAtom} (ha : w.Current a) :
    Accepted (w.completeTask a.queueId a) := by
  refine h.modify (completeTask_log w _ a) (h.noneDropped.append ?_)
    (fun k₀ => queue?_completeTask w _ k₀ a) (fun q hq => h.removed _ q hq) (by simp)
  intro b hb
  obtain rfl : b = a := by
    rcases List.mem_cons.mp hb with hb | hb
    · simp at hb
    · rcases List.mem_append.mp hb with hb | hb
      · simpa using mem_deleteEvents hb
      · simpa using mem_quitEvents hb
  exact h.current b ha

theorem dropQueue_accepted (h : Accepted w) {q : TaskQueue} (hq : w.queue? k = some q)
    (htasks : q.tasks = [] ∨ q.deferRemove = true) : Accepted (w.dropQueue k q) := by
  have hempty : q.tasks = [] := htasks.elim id (h.removed k q hq)
  have hlog : (w.dropQueue k q).log = w.log := by
    rw [dropQueue_log, hempty, List.flatMap_nil, List.append_nil]
  have hlookup : ∀ k₀ q₀, (w.dropQueue k q).queue? k₀ = some q₀ → w.queue? k₀ = some q₀ := by
    intro k₀ q₀ hq₀
    rw [queue?_dropQueue] at hq₀
    split at hq₀
    · simp at hq₀
    · exact hq₀
  refine ⟨hlog ▸ h.noneDropped, fun k₀ q₀ hq₀ => h.removed k₀ q₀ (hlookup k₀ q₀ hq₀), ?_⟩
  rintro a ⟨q₀, hq₀, ha⟩
  rw [hlog]
  exact h.current a ⟨q₀, hlookup _ q₀ hq₀, ha⟩

/-- Every step keeps what was accepted, unless it adds a task to a queue that
waits for its removal. -/
theorem Step.accepted {act : Act} (h : Accepted w) (hact : ∀ k task, act ≠ .addTask k true task)
    (hstep : Step Elsewhere w act w') : Accepted w' := by
  cases hstep with
  | addQueue flags callbacks _ => exact addQueue_accepted h flags callbacks
  | @addTask k q task hq _ =>
      have hdefer : q.deferRemove = false := by simpa using hact k task
      refine h.modify rfl (h.noneDropped.append (by simp)) (fun k₀ => queue?_pushTask w k k₀ task)
        ?_ fun _ _ _ ha => .inl ha
      intro q' hq' hdefer'
      obtain rfl : q = q' := Option.some.inj (hq.symm.trans hq')
      exact absurd (hdefer.symm.trans hdefer') (by simp)
  | arm hq _ _ _ =>
      exact h.modify (List.append_nil _).symm (by simpa using h.noneDropped)
        (fun k₀ => queue?_modifyQueue _ _ k₀ _) (fun q hq => h.removed _ q hq)
        fun _ _ _ ha => .inl ha
  | @dispatch k q a rest hq _ htasks =>
      refine h.modify (w := w) (k := k) (l := [.processed a]) rfl
        (h.noneDropped.append (by simp)) (fun k₀ => queue?_dispatchTask _ k k₀ a rest) ?_ ?_
      · intro q' hq' hdefer
        have hempty := h.removed k q' hq' hdefer
        obtain rfl : q = q' := Option.some.inj (hq.symm.trans hq')
        simp [htasks] at hempty
      · intro q' b _ hb
        obtain rfl : a = b := Option.some.inj hb
        exact .inr List.mem_cons_self
  | configure hq hf =>
      obtain ⟨htasks, -, hcurrent, -, -, hdefer⟩ := hf
      refine h.modify (List.append_nil _).symm (by simpa using h.noneDropped)
        (fun k₀ => queue?_modifyQueue _ _ k₀ _) ?_ ?_
      · intro q' hq' hdefer'
        obtain rfl := Option.some.inj (hq.symm.trans hq')
        rw [htasks]
        exact h.removed _ _ hq (hdefer ▸ hdefer')
      · intro q' a hq' ha
        obtain rfl := Option.some.inj (hq.symm.trans hq')
        exact .inl (hcurrent ▸ ha)
  | defer _ hq htasks _ =>
      refine h.modify (List.append_nil _).symm (by simpa using h.noneDropped)
        (fun k₀ => queue?_modifyQueue _ _ k₀ _) ?_ fun _ _ _ ha => .inl ha
      intro q' hq' _
      obtain rfl := Option.some.inj (hq.symm.trans hq')
      exact htasks
  | clear hq =>
      refine h.modify (clearQueue_log w _ _) ?_ (fun k₀ => queue?_clearQueue w _ k₀ _)
        (fun _ _ _ => rfl) fun _ _ _ ha => .inl ha
      refine h.noneDropped.append_before ?_ (noneDropped_cancelEvents w _)
      intro pre past e hpast a he
      exact (hpast a he).imp (List.mem_append_right pre) (List.mem_append_right pre)
  | cancelling _ => exact h.untouched (l := [_]) rfl (by simp) fun _ => rfl
  | complete ha => exact completeTask_accepted h ha
  | remove hq _ _ htasks => exact dropQueue_accepted h hq htasks
  | quitting _ => exact h.untouched (l := [_]) rfl (by simp) fun _ => rfl
  | quitNow _ =>
      exact h.untouched (l := [_, _]) (List.append_assoc _ _ _) (by simp) fun _ => rfl
  | rehash ht =>
      exact h.untouched (List.append_nil _).symm (by simp) fun _ => AList.perm_lookup ht
  | elsewhere he =>
      obtain ⟨es, hlog, hes⟩ := he.log
      refine h.untouched hlog (fun a ha => ?_) fun k => ?_
      · exact absurd (hes _ ha) (by simp [Event.isProcessor])
      · show AList.lookup k _ = _
        rw [he.processor]

end Steps

/-! ## Runs -/

theorem World.NewProcessor.accepted {w : World} (h : w.NewProcessor) : Accepted w := by
  have hnone : ∀ k q, w.queue? k ≠ some q := fun k q hq => by
    have hempty : w.queue? k = none := by
      show w.processor.taskQueues.lookup k = none
      rw [h.taskQueues]
      exact AList.lookup_empty k
    exact absurd (hempty.symm.trans hq) (by simp)
  refine ⟨?_, fun k q hq => absurd hq (hnone k q), fun a ⟨q, hq, _⟩ => absurd hq (hnone _ q)⟩
  rw [h.log]
  exact Log.before_nil

/-- The operation adds a task to a queue that waits for its removal. -/
def Op.AddsLate (w : World) : Op → Prop
  | addTask k _ => ∃ q, w.queue? k = some q ∧ q.deferRemove = true
  | _ => False

/-- In every run that adds no task to a queue waiting for its removal, no task
is deleted that was neither processed nor cancelled. -/
theorem processor_noneDropped {ops : List Op} {w : World}
    (h : (processor.restrict fun w op => ¬op.AddsLate w).Reaches ops w) : NoneDropped w.log := by
  have haccepted : Accepted w := by
    refine h.invariant_of (fun _ _ hr => processor_ok hr.of_restrict)
      (fun _ hnew => hnew.accepted) ?_
    rintro w op _ hok hacc ⟨hlate, hlegal, rfl⟩
    have hboth : ProcessorOk (op.perform w) ∧ Accepted (op.perform w) := by
      refine System.Steps.invariant (I := fun w => ProcessorOk w ∧ Accepted w)
        (Op.run hok hlegal) ⟨hok, hacc⟩ ?_
      rintro w₁ act w₂ ⟨hok₁, hacc₁⟩ ⟨hmay, hstep⟩
      refine ⟨hstep.ok (fun _ _ _ he => he) hok₁, hstep.accepted hacc₁ ?_⟩
      rintro k task rfl
      obtain ⟨q, rfl, hq, hdefer⟩ := hmay
      exact hlate ⟨q, hq, hdefer⟩
    exact hboth.2
  exact haccepted.noneDropped

/-- Of two tasks the first is processed and the second is cancelled. -/
def cancelledTaskOps : List Op := twoTasksOps ++ [.cancelQueue ⟨0, ":1", "/s"⟩]

theorem cancelledTask_legal : Op.AllLegal (fun w op => ¬op.AddsLate w) {} cancelledTaskOps := by
  have hnotLate : ∀ {w : World} {k q task}, w.queue? k = some q → q.deferRemove = false →
      ¬(Op.addTask k task).AddsLate w := by
    rintro w k q task hq hdefer ⟨q', hq', hdefer'⟩
    obtain rfl := Option.some.inj (hq.symm.trans hq')
    exact absurd (hdefer.symm.trans hdefer') (by simp)
  exact ⟨⟨id, by dsimp only [Op.Legal]; decide⟩, ⟨hnotLate rfl rfl, _, rfl, rfl⟩,
    ⟨hnotLate rfl rfl, _, rfl, rfl⟩, ⟨id, by dsimp only [Op.Legal]; decide⟩, ⟨id, _, rfl⟩, trivial⟩

theorem processor_noneDropped_cancelledTask :
    NoneDropped (cancelledTaskOps.foldl Op.perform {}).log :=
  processor_noneDropped
    (processor_reaches_foldl cancelledTaskOps (.init newProcessor_default) cancelledTask_legal)

/-! ## A request after Release -/

theorem NoneDropped.mem {log : List Event} (h : NoneDropped log) {a : TaskAtom}
    (ha : .deleted a ∈ log) : .processed a ∈ log ∨ .cancelled a ∈ log := by
  obtain ⟨past, future, rfl⟩ := List.append_of_mem ha
  exact (h past _ future rfl a rfl).imp (List.mem_append_left _) (List.mem_append_left _)

/-- A client releases the service while its request runs and sends another one
to the same renderer; then the first request completes. -/
def releasedSchedule : List Choice :=
  oneRenderer ++
    [.input (.playerCall oneClient onePath .play), .processIdle,
      .input (.managerCall oneClient .release), .input (.playerCall oneClient onePath .play),
      .completeIdle]

/-- The second request is deleted without having been processed or cancelled,
in a process that neither quits nor ends. -/
theorem released_request_dropped :
    ∃ is w, (service true).Reaches is w ∧ w.processor.quitting = false ∧
      w.context.freed = false ∧ .answered 2 diedReply ∈ w.log ∧ ¬NoneDropped w.log := by
  let a : TaskAtom := ⟨4, ⟨1, ":1.7", onePath⟩⟩
  obtain ⟨is, w, hreaches, hquit, hfreed, hanswer, hdeleted, hprocessed, hcancelled⟩ :=
    service_reaches_of_schedule true releasedSchedule
      (p := fun w => w.processor.quitting = false ∧ w.context.freed = false ∧
        .answered 2 diedReply ∈ w.log ∧ .deleted a ∈ w.log ∧ .processed a ∉ w.log ∧
        .cancelled a ∉ w.log) (by decide +kernel)
  refine ⟨is, w, hreaches, hquit, hfreed, hanswer, fun hnone => ?_⟩
  exact (hnone.mem hdeleted).elim hprocessed hcancelled

end RendererService
