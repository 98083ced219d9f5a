import RendererService.Processor.Locality

/-!
# Cancellation

Cancel, the loss of a client and the loss of a device empty the queues that they
select and answer what those queues still owe.  They share
`prv_task_queue_cancel`, which Cancel calls as it is, while the other two leave
alone a queue that is already marked `defer_remove`.
-/

namespace RendererService

open Transition

/-! ## The queues of the program -/

def TaskCallbacks.flags : TaskCallbacks → TaskQueueFlags
  | .client => autoStart
  | .service => autoRemove

/-- The queues are those of the program, and a request that waits still owes its
answer. -/
structure UsualOk (w : World) : Prop where
  flags : ∀ k q, w.queue? k = some q → q.flags = q.callbacks.flags
  owing : ∀ k q a t, w.queue? k = some q → a ∈ q.tasks → w.tasks a = some (.client t) →
    t.invocation.isSome = true

/-- The queue was there before, with at least the tasks it has now. -/
def Inherits (w w' : World) (k : TaskQueueKey) (q' : TaskQueue) : Prop :=
  ∃ q, w.queue? k = some q ∧ q'.flags = q.flags ∧ q'.callbacks = q.callbacks ∧
    ∀ a ∈ q'.tasks, a ∈ q.tasks ∧ w'.tasks a = w.tasks a

section Usual

variable {w w' : World} {k : TaskQueueKey} {act : Act}

theorem inherits_of_modify {k : TaskQueueKey} {f : TaskQueue → TaskQueue}
    (hlookup : ∀ k₀, w'.queue? k₀ = if k₀ = k then (w.queue? k).map f else w.queue? k₀)
    (hself : ∀ q, w.queue? k = some q → (f q).flags = q.flags ∧ (f q).callbacks = q.callbacks ∧
      ∀ a ∈ (f q).tasks, a ∈ q.tasks ∧ w'.tasks a = w.tasks a)
    (hothers : ∀ k₀ q a, k₀ ≠ k → w.queue? k₀ = some q → a ∈ q.tasks → w'.tasks a = w.tasks a)
    (k' : TaskQueueKey) (q' : TaskQueue) (hq' : w'.queue? k' = some q') : Inherits w w' k' q' := by
  rw [hlookup] at hq'
  split at hq'
  next hk =>
    obtain ⟨q, hq, rfl⟩ := Option.map_eq_some_iff.mp hq'
    exact ⟨q, hk ▸ hq, hself q hq⟩
  next hk =>
    exact ⟨q', hq', rfl, rfl, fun a ha => ⟨ha, hothers k' q' a hk hq' ha⟩⟩

/-- Only `addQueue` and `addTask` bring something new to the queues. -/
theorem Step.inherits (hok : ProcessorOk w) (hstep : Step Elsewhere w act w')
    (hqueue : ∀ source sink callbacks, act ≠ .addQueue source sink callbacks)
    (htask : ∀ k deferRemove task, act ≠ .addTask k deferRemove task) :
    ∀ k q', w'.queue? k = some q' → Inherits w w' k q' := by
  have hsame : ∀ q : TaskQueue, ∀ a ∈ q.tasks, a ∈ q.tasks ∧ w.tasks a = w.tasks a :=
    fun q a ha => ⟨ha, rfl⟩
  cases hstep with
  | addQueue _ _ _ => exact absurd rfl (hqueue _ _ _)
  | addTask _ _ => exact absurd rfl (htask _ _ _)
  | arm _ _ _ _ | defer _ _ _ _ =>
      exact inherits_of_modify (fun k₀ => queue?_modifyQueue _ _ k₀ _)
        (fun q _ => ⟨rfl, rfl, hsame q⟩) fun _ _ _ _ _ _ => rfl
  | @dispatch k q a rest hq _ htasks =>
      refine inherits_of_modify (w := w) (fun k₀ => queue?_dispatchTask _ k k₀ a rest) ?_
        fun _ _ _ _ _ _ => rfl
      intro q' hq'
      obtain rfl := Option.some.inj (hq.symm.trans hq')
      refine ⟨rfl, rfl, fun b hb => ⟨?_, rfl⟩⟩
      rw [htasks]
      exact List.mem_cons_of_mem a hb
  | configure hq hf =>
      refine inherits_of_modify (fun k₀ => queue?_modifyQueue w _ k₀ _) (fun q' hq' => ?_)
        fun _ _ _ _ _ _ => rfl
      obtain rfl := Option.some.inj (hq.symm.trans hq')
      refine ⟨hf.2.2.2.2.1, hf.2.1, ?_⟩
      rw [hf.1]
      exact hsame _
  | @clear k q hq =>
      refine inherits_of_modify (fun k₀ => queue?_clearQueue w k k₀ q)
        (fun _ _ => ⟨rfl, rfl, fun a ha => absurd ha List.not_mem_nil⟩) ?_
      intro k₀ q₀ a hk hq₀ ha
      refine if_neg (hok.not_holds hq ?_).1
      rw [((hok.queues k₀ q₀ hq₀).owned a ha).1]
      exact hk
  | @complete b hb =>
      refine inherits_of_modify (fun k₀ => queue?_completeTask w b.queueId k₀ b) ?_ ?_
      · intro q hq
        refine ⟨rfl, rfl, fun a ha => ⟨ha, ?_⟩⟩
        rw [tasks_completeTask]
        refine if_neg ?_
        rintro rfl
        exact hok.current_not_mem hb hq ha
      · intro k₀ q a _ hq ha
        rw [tasks_completeTask]
        refine if_neg ?_
        rintro rfl
        exact hok.current_not_mem hb hq ha
  | @remove k q hq _ _ _ =>
      intro k' q' hq'
      rw [queue?_dropQueue] at hq'
      split at hq'
      · simp at hq'
      next hk =>
        refine ⟨q', hq', rfl, rfl, fun a ha => ⟨ha, ?_⟩⟩
        rw [tasks_dropQueue]
        refine if_neg (hok.not_holds hq ?_).1
        rw [((hok.queues k' q' hq').owned a ha).1]
        exact hk
  | cancelling _ | quitting _ | quitNow _ =>
      exact fun k q' hq' => ⟨q', hq', rfl, rfl, hsame q'⟩
  | @rehash t ht =>
      intro k q' hq'
      have hlookup : (w.setQueues t).queue? k = w.queue? k := AList.perm_lookup ht
      exact ⟨q', hlookup ▸ hq', rfl, rfl, hsame q'⟩
  | elsewhere he =>
      intro k q' hq'
      have hlookup : w'.queue? k = w.queue? k := by
        unfold World.queue?
        rw [he.processor]
      have hq : w.queue? k = some q' := hlookup ▸ hq'
      exact ⟨q', hq, rfl, rfl, fun a ha => ⟨ha, he.queued k q' a hq ha⟩⟩

theorem UsualOk.inherits (h : UsualOk w) (hall : ∀ k q', w'.queue? k = some q' →
    Inherits w w' k q') : UsualOk w' := by
  constructor
  · intro k q' hq'
    obtain ⟨q, hq, hflags, hcs, -⟩ := hall k q' hq'
    rw [hflags, hcs]
    exact h.flags k q hq
  · intro k q' a t hq' ha ht
    obtain ⟨q, hq, -, -, htasks⟩ := hall k q' hq'
    obtain ⟨hmem, hrecord⟩ := htasks a ha
    exact h.owing k q a t hq hmem (hrecord ▸ ht)

theorem addQueue_usualOk (h : UsualOk w) {source sink : String} {flags : TaskQueueFlags}
    {callbacks : TaskCallbacks} (hflags : flags = callbacks.flags) :
    UsualOk (w.addQueue source sink flags callbacks) := by
  have hlookup : ∀ k, (w.addQueue source sink flags callbacks).queue? k =
      if k = ⟨w.processor.nextKey, source, sink⟩ then
        some { callbacks := callbacks, flags := flags } else w.queue? k :=
    fun k => Assoc.lookup_insert_eq _ _ _ _
  constructor
  · intro k q hq
    rw [hlookup] at hq
    split at hq
    · obtain rfl := Option.some.inj hq
      exact hflags
    · exact h.flags k q hq
  · intro k q a t hq ha ht
    rw [hlookup] at hq
    split at hq
    · obtain rfl := Option.some.inj hq
      simp at ha
    · exact h.owing k q a t hq ha ht

theorem pushTask_usualOk (h : UsualOk w) {k : TaskQueueKey} {task : Task}
    (htask : ∀ t, task = .client t → t.invocation.isSome = true) : UsualOk (w.pushTask k task) := by
  have hrecord : ∀ a, (w.pushTask k task).tasks a =
      if a = w.newAtom k then some task else w.tasks a := fun _ => rfl
  constructor
  · intro k' q' hq'
    rw [queue?_pushTask] at hq'
    split at hq'
    · obtain ⟨q, hq, rfl⟩ := Option.map_eq_some_iff.mp hq'
      exact h.flags k q hq
    · exact h.flags k' q' hq'
  · intro k' q' a t hq' ha ht
    rw [hrecord] at ht
    split at ht
    · exact htask t (Option.some.inj ht)
    next hnew =>
      rw [queue?_pushTask] at hq'
      split at hq'
      · obtain ⟨q, hq, rfl⟩ := Option.map_eq_some_iff.mp hq'
        rcases List.mem_append.mp ha with ha | ha
        · exact h.owing k q a t hq ha ht
        · exact absurd (List.mem_singleton.mp ha) hnew
      · exact h.owing k' q' a t hq' ha ht

theorem Step.usualOk (hok : ProcessorOk w) (h : UsualOk w) (hstep : Step Elsewhere w act w')
    (hqueue : ∀ source sink callbacks, act ≠ .addQueue source sink callbacks)
    (htask : ∀ k deferRemove t, act = .addTask k deferRemove (.client t) →
      t.invocation.isSome = true) : UsualOk w' := by
  by_cases hadd : ∃ k deferRemove task, act = .addTask k deferRemove task
  · obtain ⟨k, deferRemove, task, rfl⟩ := hadd
    cases hstep with
    | addTask _ _ => exact pushTask_usualOk h fun t ht => htask k _ t (by rw [ht])
  · exact h.inherits (hstep.inherits hok hqueue fun k d task hact => hadd ⟨k, d, task, hact⟩)

theorem Op.usualOk {op : Op} (hok : ProcessorOk w) (h : UsualOk w) (hlegal : op.Legal w)
    (husual : op.Usual w) : UsualOk (op.perform w) := by
  by_cases hadd : ∃ source sink flags callbacks, op = .addQueue source sink flags callbacks
  · obtain ⟨source, sink, flags, callbacks, rfl⟩ := hadd
    rw [Op.perform, rsuTaskProcessorAddQueue_eq flags callbacks hlegal]
    refine addQueue_usualOk h ?_
    cases callbacks <;> exact husual
  · have hboth : ProcessorOk (op.perform w) ∧ UsualOk (op.perform w) := by
      refine System.Steps.invariant (I := fun w => ProcessorOk w ∧ UsualOk w)
        (Op.run hok hlegal) ⟨hok, h⟩ ?_
      rintro w₁ act w₂ ⟨hok₁, h₁⟩ ⟨hmay, hstep⟩
      refine ⟨hstep.ok (fun _ _ _ he => he) hok₁, hstep.usualOk hok₁ h₁ ?_ ?_⟩
      · rintro source sink callbacks rfl
        obtain ⟨flags, rfl⟩ := hmay
        exact hadd ⟨source, sink, flags, callbacks, rfl⟩
      · rintro k deferRemove t rfl
        obtain ⟨q, rfl, -, -⟩ := hmay
        exact husual
    exact hboth.2

theorem World.NewProcessor.usualOk (h : w.NewProcessor) : UsualOk w := by
  have hnone : ∀ k, w.queue? k = none := fun k => by
    show w.processor.taskQueues.lookup k = none
    rw [h.taskQueues]
    exact AList.lookup_empty k
  exact ⟨fun k q hq => absurd ((hnone k).symm.trans hq) (by simp),
    fun k q a t hq => absurd ((hnone k).symm.trans hq) (by simp)⟩

theorem processor_usualOk {ops : List Op} (h : (processor.restrict Op.Usual).Reaches ops w) :
    UsualOk w := by
  refine h.invariant_of (fun _ _ hr => processor_ok hr.of_restrict)
    (fun _ hnew => hnew.usualOk) ?_
  rintro w op _ hok husual ⟨hop, hlegal, rfl⟩
  exact Op.usualOk hok husual hlegal hop

end Usual

/-! ## Emptying a queue of requests -/

section Emptying

variable {w w' : World} {k : TaskQueueKey} {q : TaskQueue} {es es' : List Event}

def TaskQueue.emptied (q : TaskQueue) : TaskQueue :=
  { q with cancelled := true, tasks := [], idleId := 0 }

theorem queue?_clearQueue_self (hq : w.queue? k = some q) :
    (w.clearQueue k q).queue? k = some q.emptied := by
  rw [queue?_clearQueue, if_pos rfl, hq]
  rfl

/-- The visit of a queue that is not marked `defer_remove` yet. -/
theorem prvFreeQueueFor_eq (hok : ProcessorOk w) (hq : w.queue? k = some q)
    {hit : TaskQueueKey → Bool} (hhit : hit k = true) (hdefer : q.deferRemove = false) :
    prvFreeQueueFor taskDeleteCb taskCancelCb hit k w =
      if q.currentTask.isSome then
        afterClear k { q.emptied with deferRemove := true }
          ((w.clearQueue k q).deferQueue k true)
      else
        removeQueue taskDeleteCb k (afterClear k { q.emptied with deferRemove := false }
          ((w.clearQueue k q).deferQueue k false)) := by
  have hold := hok.queues k q hq
  have hcancel : ∀ b, prvTaskQueueCancel taskDeleteCb taskCancelCb k { q with deferRemove := b }
      (w.deferQueue k b) =
        afterClear k { q.emptied with deferRemove := b } ((w.clearQueue k q).deferQueue k b) := by
    intro b
    have hq₀ : (w.deferQueue k b).queue? k = some { q with deferRemove := b } := by
      simp [World.deferQueue, queue?_modifyQueue, hq]
    rw [prvTaskQueueCancel_eq hq₀ hold.nodup hold.fresh hok.idlePositive, clearQueue_deferQueue]
    rfl
  have hvisit : ∀ b, q.currentTask.isSome = b →
      prvFreeQueueFor taskDeleteCb taskCancelCb hit k w =
        if b then prvTaskQueueCancel taskDeleteCb taskCancelCb k { q with deferRemove := b }
          (w.deferQueue k b)
        else removeQueue taskDeleteCb k (prvTaskQueueCancel taskDeleteCb taskCancelCb k
          { q with deferRemove := b } (w.deferQueue k b)) := by
    rintro b rfl
    simp only [prvFreeQueueFor, hq, hhit, hdefer]
    rfl
  cases hb : q.currentTask.isSome with
  | true => rw [hvisit true hb, hcancel, if_pos rfl, if_pos rfl]
  | false =>
      rw [hvisit false hb, hcancel, if_neg Bool.false_ne_true, if_neg Bool.false_ne_true]

end Emptying

/-! ## Deleted tasks -/

section Deleted

variable {w w' w'' : World} {k : TaskQueueKey} {act : Act}

end Deleted

end RendererService
