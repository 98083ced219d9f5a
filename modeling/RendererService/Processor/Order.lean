import RendererService.Processor.Logs
import RendererService.Processor.Accounting

/-!
# Order

The tasks of one queue are processed one at a time and in the order in which
they were added.  Both facts are read off the log: `addedTo` and `handedTo` are
the tasks added to and handed over from a queue, and `Finished` says that each
task that was handed over has since been completed and deleted.
-/

namespace RendererService

/-! ## Reading the log -/

def addedTo (k : TaskQueueKey) (log : List Event) : List TaskAtom :=
  log.filterMap fun e =>
    match e with
    | .added a => if a.queueId = k then some a else none
    | _ => none

def handedTo (k : TaskQueueKey) (log : List Event) : List TaskAtom :=
  log.filterMap fun e =>
    match e with
    | .processed a => if a.queueId = k then some a else none
    | _ => none

/-- Each task of `k` that was handed over has been completed and deleted. -/
def Finished (k : TaskQueueKey) (log : List Event) : Prop :=
  Log.After (fun e future => ∀ a, e = .processed a → a.queueId = k →
    [Event.completed k, .deleted a].Sublist future) log

def Event.Hands (k : TaskQueueKey) (e : Event) : Prop :=
  ∃ a : TaskAtom, a.queueId = k ∧ e = .processed a

def Event.Moves (k : TaskQueueKey) (e : Event) : Prop :=
  e.Hands k ∨ ∃ a : TaskAtom, a.queueId = k ∧ e = .added a

section Reading

variable {k : TaskQueueKey} {log es : List Event}

theorem addedTo_append : addedTo k (log ++ es) = addedTo k log ++ addedTo k es :=
  List.filterMap_append

theorem handedTo_append : handedTo k (log ++ es) = handedTo k log ++ handedTo k es :=
  List.filterMap_append

theorem addedTo_eq_nil (h : ∀ e ∈ es, ¬e.Moves k) : addedTo k es = [] := by
  refine List.filterMap_eq_nil_iff.mpr fun e he => ?_
  cases e with
  | added a =>
      have hne : a.queueId ≠ k := fun ha => h _ he (.inr ⟨a, ha, rfl⟩)
      simp [hne]
  | _ => rfl

theorem handedTo_eq_nil (h : ∀ e ∈ es, ¬e.Hands k) : handedTo k es = [] := by
  refine List.filterMap_eq_nil_iff.mpr fun e he => ?_
  cases e with
  | processed a =>
      have hne : a.queueId ≠ k := fun ha => h _ he ⟨a, ha, rfl⟩
      simp [hne]
  | _ => rfl

theorem Finished.append (h : Finished k log) (hes : ∀ e ∈ es, ¬e.Hands k) :
    Finished k (log ++ es) := by
  refine Log.After.append ?_ h ?_
  · intro e future hfuture a he ha
    exact (hfuture a he ha).trans (List.sublist_append_left _ _)
  · refine Log.After.of_forall ?_
    rintro e he future a rfl ha
    exact absurd ⟨a, ha, rfl⟩ (hes _ he)

/-- Once its completion and deletion follow, the last task is finished too. -/
theorem Finished.complete {past future : List Event} {a : TaskAtom} (h : Finished k past)
    (hfuture : ∀ e ∈ future, ¬e.Hands k) (ha : [Event.completed k, .deleted a].Sublist future) :
    Finished k (past ++ .processed a :: future) := by
  refine Log.After.append ?_ h ?_
  · intro e rest hrest b he hb
    exact (hrest b he hb).trans (List.sublist_append_left _ _)
  · refine Log.After.cons ?_ (Log.After.of_forall ?_)
    · rintro b hb -
      rwa [← Event.processed.inj hb]
    · rintro e he rest b rfl hb
      exact absurd ⟨b, hb, rfl⟩ (hfuture _ he)

end Reading

/-! ## The invariant of one key -/

/-- The hand-overs of `k` follow the additions, and no task is handed over while
an earlier one is not finished. -/
structure InOrder (k : TaskQueueKey) (log : List Event) : Prop where
  subsequence : (handedTo k log).Sublist (addedTo k log)
  once : (addedTo k log).Nodup
  sequential : Log.Before (fun past e => ∀ a, e = .processed a → a.queueId = k →
    Finished k past) log

/-- Every task of `k` is finished but the current one. -/
structure Settled (w : World) (k : TaskQueueKey) : Prop where
  finished : (∀ q, w.queue? k = some q → q.currentTask = none) → Finished k w.log
  current : ∀ q a, w.queue? k = some q → q.currentTask = some a →
    ∃ past future, w.log = past ++ .processed a :: future ∧ Finished k past ∧
      ∀ e ∈ future, ¬e.Hands k

structure OrderOk (w : World) (k : TaskQueueKey) : Prop extends InOrder k w.log, Settled w k where
  fresh : ∀ a ∈ addedTo k w.log, a.id < w.nextTask
  queued : ∀ q, w.queue? k = some q →
    (handedTo k w.log ++ q.tasks).Sublist (addedTo k w.log)

section Invariant

variable {w w' : World} {k : TaskQueueKey} {l : List Event}

/-- The queue of `k` keeps its current task, or is new, or goes without one. -/
def SameCurrent (k : TaskQueueKey) (w w' : World) : Prop :=
  (∀ q', w'.queue? k = some q' →
    (∃ q, w.queue? k = some q ∧ q'.currentTask = q.currentTask) ∨
      w.queue? k = none ∧ q'.currentTask = none) ∧
    (w'.queue? k = none → ∀ q, w.queue? k = some q → q.currentTask = none)

theorem SameCurrent.of_eq (h : w'.queue? k = w.queue? k) : SameCurrent k w w' := by
  constructor
  · intro q hq
    exact .inl ⟨q, h.symm.trans hq, rfl⟩
  · intro hnone q hq
    exact absurd (hnone.symm.trans (h.trans hq)) (by simp)

theorem SameCurrent.of_modify {k' : TaskQueueKey} {f : TaskQueue → TaskQueue}
    (hlookup : ∀ k₀, w'.queue? k₀ = if k₀ = k' then (w.queue? k').map f else w.queue? k₀)
    (hf : ∀ q, w.queue? k' = some q → (f q).currentTask = q.currentTask) :
    SameCurrent k w w' := by
  by_cases hk : k = k'
  · subst hk
    have hqueue : w'.queue? k = (w.queue? k).map f := by simp [hlookup]
    constructor
    · intro q' hq'
      obtain ⟨q, hq, rfl⟩ := Option.map_eq_some_iff.mp (hqueue.symm.trans hq')
      exact .inl ⟨q, hq, hf q hq⟩
    · intro hnone q hq
      rw [hqueue, hq] at hnone
      simp at hnone
  · exact .of_eq (by rw [hlookup, if_neg hk])

theorem Settled.quiet (h : Settled w k) (hlog : w'.log = w.log ++ l)
    (hl : ∀ e ∈ l, ¬e.Hands k) (hsame : SameCurrent k w w') : Settled w' k where
  finished hnone := by
    rw [hlog]
    refine Finished.append (h.finished fun q hq => ?_) hl
    cases hq' : w'.queue? k with
    | none => exact hsame.2 hq' q hq
    | some q' =>
        rcases hsame.1 q' hq' with ⟨q₀, hq₀, hcurrent⟩ | ⟨hnew, -⟩
        · obtain rfl : q₀ = q := Option.some.inj (hq₀.symm.trans hq)
          rw [← hcurrent]
          exact hnone q' hq'
        · exact absurd (hnew.symm.trans hq) (by simp)
  current q' a hq' ha := by
    rcases hsame.1 q' hq' with ⟨q, hq, hcurrent⟩ | ⟨-, hcurrent⟩
    · obtain ⟨past, future, hsplit, hpast, hfuture⟩ := h.current q a hq (hcurrent ▸ ha)
      refine ⟨past, future ++ l, by rw [hlog, hsplit]; simp, hpast, ?_⟩
      intro e he
      rcases List.mem_append.mp he with he | he
      · exact hfuture e he
      · exact hl e he
    · exact absurd (hcurrent.symm.trans ha) (by simp)

/-- A step that neither adds nor hands over a task of `k`, nor ends one. -/
theorem OrderOk.quiet (h : OrderOk w k) (hlog : w'.log = w.log ++ l)
    (hl : ∀ e ∈ l, ¬e.Moves k) (htask : w.nextTask ≤ w'.nextTask)
    (hsame : SameCurrent k w w')
    (htasks : ∀ q', w'.queue? k = some q' →
      q'.tasks = [] ∨ ∃ q, w.queue? k = some q ∧ q'.tasks = q.tasks) : OrderOk w' k := by
  have hhands : ∀ e ∈ l, ¬e.Hands k := fun e he hmoves => hl e he (.inl hmoves)
  have hadded : addedTo k w'.log = addedTo k w.log := by
    rw [hlog, addedTo_append, addedTo_eq_nil hl, List.append_nil]
  have hhanded : handedTo k w'.log = handedTo k w.log := by
    rw [hlog, handedTo_append, handedTo_eq_nil hhands, List.append_nil]
  refine ⟨⟨?_, ?_, ?_⟩, h.toSettled.quiet hlog hhands hsame, ?_, ?_⟩
  · rw [hadded, hhanded]
    exact h.subsequence
  · rw [hadded]
    exact h.once
  · rw [hlog]
    refine h.sequential.append_of_forall ?_
    rintro e he past a rfl ha
    exact absurd ⟨a, ha, rfl⟩ (hhands _ he)
  · rw [hadded]
    exact fun a ha => Nat.lt_of_lt_of_le (h.fresh a ha) htask
  · intro q' hq'
    rw [hadded, hhanded]
    rcases htasks q' hq' with hempty | ⟨q, hq, heq⟩
    · rw [hempty, List.append_nil]
      exact h.subsequence
    · rw [heq]
      exact h.queued q hq

theorem OrderOk.untouched (h : OrderOk w k) (hlog : w'.log = w.log ++ l)
    (hl : ∀ e ∈ l, ¬e.Moves k) (htask : w.nextTask ≤ w'.nextTask)
    (hqueue : w'.queue? k = w.queue? k) : OrderOk w' k :=
  h.quiet hlog hl htask (.of_eq hqueue) fun q hq => .inr ⟨q, hqueue.symm.trans hq, rfl⟩

theorem OrderOk.modify (h : OrderOk w k) {k' : TaskQueueKey} {f : TaskQueue → TaskQueue}
    (hlog : w'.log = w.log ++ l) (hl : ∀ e ∈ l, ¬e.Moves k)
    (htask : w.nextTask ≤ w'.nextTask)
    (hlookup : ∀ k₀, w'.queue? k₀ = if k₀ = k' then (w.queue? k').map f else w.queue? k₀)
    (hf : ∀ q, w.queue? k' = some q →
      (f q).currentTask = q.currentTask ∧ ((f q).tasks = [] ∨ (f q).tasks = q.tasks)) :
    OrderOk w' k := by
  refine h.quiet hlog hl htask (.of_modify hlookup fun q hq => (hf q hq).1) ?_
  intro q' hq'
  rw [hlookup] at hq'
  split at hq'
  next hk =>
    obtain ⟨q, hq, rfl⟩ := Option.map_eq_some_iff.mp hq'
    rcases (hf q hq).2 with hempty | heq
    · exact .inl hempty
    · exact .inr ⟨q, hk ▸ hq, heq⟩
  · exact .inr ⟨q', hq', rfl⟩

end Invariant

/-! ## One step -/

section Steps

variable {w : World} {k : TaskQueueKey}

theorem not_moves_flatMap {l : List TaskAtom} {f : TaskAtom → List Event}
    (hf : ∀ a e, e ∈ f a → e = .cancelled a ∨ e = .deleted a ∨
      ∃ invocation reply, e = .answered invocation reply) :
    ∀ e ∈ l.flatMap f, ¬e.Moves k := by
  rintro e he hmoves
  obtain ⟨a, -, hea⟩ := List.mem_flatMap.mp he
  rcases hf a e hea with rfl | rfl | ⟨_, _, rfl⟩ <;>
    simp [Event.Moves, Event.Hands] at hmoves

theorem not_moves_of_isProcessor {e : Event} (h : e.isProcessor = false) : ¬e.Moves k := by
  rintro (⟨a, -, rfl⟩ | ⟨a, -, rfl⟩) <;> simp [Event.isProcessor] at h

theorem pushTask_inOrder (h : OrderOk w k) (k' : TaskQueueKey) (task : Task) :
    OrderOk (w.pushTask k' task) k := by
  have hlog : (w.pushTask k' task).log = w.log ++ [.added (w.newAtom k')] := rfl
  by_cases hk : k = k'
  · subst hk
    have hadded : addedTo k (w.pushTask k task).log = addedTo k w.log ++ [w.newAtom k] := by
      rw [hlog, addedTo_append]
      simp [addedTo, World.newAtom]
    have hhanded : handedTo k (w.pushTask k task).log = handedTo k w.log := by
      rw [hlog, handedTo_append]
      simp [handedTo]
    refine ⟨⟨?_, ?_, h.sequential.snoc (by simp)⟩, ?_, ?_, ?_⟩
    · rw [hadded, hhanded]
      exact h.subsequence.trans (List.sublist_append_left _ _)
    · rw [hadded]
      refine List.nodup_append.mpr ⟨h.once, List.nodup_singleton _, ?_⟩
      intro a ha b hb hab
      have hlt := h.fresh a ha
      rw [hab, List.mem_singleton.mp hb] at hlt
      exact Nat.lt_irrefl _ hlt
    · exact h.toSettled.quiet hlog (by simp [Event.Hands])
        (.of_modify (fun k₀ => queue?_pushTask w k k₀ task) fun _ _ => rfl)
    · rw [hadded]
      intro a ha
      rcases List.mem_append.mp ha with ha | ha
      · exact Nat.lt_succ_of_lt (h.fresh a ha)
      · rw [List.mem_singleton.mp ha]
        exact Nat.lt_succ_self _
    · intro q' hq'
      rw [queue?_pushTask, if_pos rfl] at hq'
      obtain ⟨q, hq, rfl⟩ := Option.map_eq_some_iff.mp hq'
      rw [hadded, hhanded, ← List.append_assoc]
      exact (h.queued q hq).append (List.Sublist.refl _)
  · refine h.untouched hlog ?_ (Nat.le_succ _) (by simp [queue?_pushTask, hk])
    rintro e he (⟨a, ha, rfl⟩ | ⟨a, ha, rfl⟩)
    · simp at he
    · have heq : a = w.newAtom k' := by simpa using he
      exact hk (by rw [← ha, heq]; rfl)

theorem dispatchTask_inOrder (hok : ProcessorOk w) (h : OrderOk w k) {k' : TaskQueueKey}
    {q : TaskQueue} {a : TaskAtom} {rest : List TaskAtom} (hq : w.queue? k' = some q)
    (hidle : q.idleId ≠ 0) (htasks : q.tasks = a :: rest) :
    OrderOk ((w.sourceRemoveProcess q.idleId).dispatchTask k' a rest) k := by
  have hlog : ((w.sourceRemoveProcess q.idleId).dispatchTask k' a rest).log =
      w.log ++ [.processed a] := rfl
  have hlookup := fun k₀ => queue?_dispatchTask (w.sourceRemoveProcess q.idleId) k' k₀ a rest
  have hold := hok.queues k' q hq
  have hkey : a.queueId = k' := (hold.owned a (htasks ▸ List.mem_cons_self)).1
  by_cases hk : k = k'
  · subst hk
    have hfinished : Finished k w.log := by
      refine h.finished fun q' hq' => ?_
      obtain rfl : q = q' := Option.some.inj (hq.symm.trans hq')
      exact (hold.idle hidle).1
    have hqueued := h.queued q hq
    rw [htasks, List.append_cons] at hqueued
    have hadded : addedTo k ((w.sourceRemoveProcess q.idleId).dispatchTask k a rest).log =
        addedTo k w.log := by
      rw [hlog, addedTo_append]
      simp [addedTo]
    have hhanded : handedTo k ((w.sourceRemoveProcess q.idleId).dispatchTask k a rest).log =
        handedTo k w.log ++ [a] := by
      rw [hlog, handedTo_append]
      simp [handedTo, hkey]
    have hqueue : ((w.sourceRemoveProcess q.idleId).dispatchTask k a rest).queue? k = some
        { q with cancelled := false, idleId := 0, currentTask := some a, tasks := rest } := by
      rw [hlookup, if_pos rfl]
      exact congrArg _ hq
    refine ⟨⟨?_, ?_, h.sequential.snoc fun _ _ _ => hfinished⟩, ⟨?_, ?_⟩, ?_, ?_⟩
    · rw [hadded, hhanded]
      exact (List.sublist_append_left _ _).trans hqueued
    · rw [hadded]
      exact h.once
    · intro hnone
      exact absurd (hnone _ hqueue) (by simp)
    · intro q' b hq' hb
      rw [hqueue] at hq'
      obtain rfl := Option.some.inj hq'
      obtain rfl : a = b := Option.some.inj hb
      exact ⟨w.log, [], hlog, hfinished, by simp⟩
    · rw [hadded]
      exact h.fresh
    · intro q' hq'
      rw [hqueue] at hq'
      obtain rfl := Option.some.inj hq'
      rw [hadded, hhanded]
      exact hqueued
  · refine h.untouched hlog ?_ (Nat.le_refl _) (by rw [hlookup, if_neg hk]; rfl)
    rintro e he (⟨b, hb, rfl⟩ | ⟨b, hb, rfl⟩)
    · have heq : b = a := by simpa using he
      exact hk (by rw [← hb, heq, hkey])
    · simp at he

theorem completeTask_inOrder (h : OrderOk w k) {a : TaskAtom} (ha : w.Current a) :
    OrderOk (w.completeTask a.queueId a) k := by
  obtain ⟨q, hq, hcurrent⟩ := ha
  have hlog := completeTask_log w a.queueId a
  have hlookup := fun k₀ => queue?_completeTask w a.queueId k₀ a
  have hmoves : ∀ e ∈ .completed a.queueId :: (w.deleteEvents a ++ w.quitEvents a.queueId a),
      ¬e.Moves k := by
    intro e he hmoves
    rcases List.mem_cons.mp he with rfl | he
    · simp [Event.Moves, Event.Hands] at hmoves
    · rcases List.mem_append.mp he with he | he
      · rcases mem_deleteEvents he with rfl | ⟨_, _, rfl⟩ <;>
          simp [Event.Moves, Event.Hands] at hmoves
      · obtain rfl := mem_quitEvents he
        simp [Event.Moves, Event.Hands] at hmoves
  have htask : (w.completeTask a.queueId a).nextTask = w.nextTask := by
    unfold World.completeTask
    dsimp only
    split <;> rfl
  by_cases hk : k = a.queueId
  · subst hk
    have hqueue : (w.completeTask a.queueId a).queue? a.queueId =
        some { q with currentTask := none } := by simp [hlookup, hq]
    have hadded : addedTo a.queueId (w.completeTask a.queueId a).log =
        addedTo a.queueId w.log := by
      rw [hlog, addedTo_append, addedTo_eq_nil hmoves, List.append_nil]
    have hhands : ∀ e ∈ .completed a.queueId ::
        (w.deleteEvents a ++ w.quitEvents a.queueId a), ¬e.Hands a.queueId :=
      fun e he hh => hmoves e he (.inl hh)
    have hhanded : handedTo a.queueId (w.completeTask a.queueId a).log =
        handedTo a.queueId w.log := by
      rw [hlog, handedTo_append, handedTo_eq_nil hhands, List.append_nil]
    refine ⟨⟨?_, ?_, ?_⟩, ⟨?_, ?_⟩, ?_, ?_⟩
    · rw [hadded, hhanded]
      exact h.subsequence
    · rw [hadded]
      exact h.once
    · rw [hlog]
      refine h.sequential.append_of_forall ?_
      rintro e he past b rfl hb
      exact absurd ⟨b, hb, rfl⟩ (hhands _ he)
    · intro _
      obtain ⟨past, future, hsplit, hpast, hfuture⟩ := h.current q a hq hcurrent
      rw [hlog, hsplit, List.append_assoc, List.cons_append]
      refine hpast.complete ?_ ?_
      · intro e he
        rcases List.mem_append.mp he with he | he
        · exact hfuture e he
        · exact hhands e he
      · refine List.Sublist.trans ?_ (List.sublist_append_right _ _)
        exact (((List.nil_sublist _).cons_cons _).cons_cons _)
    · intro q' b hq' hb
      rw [hqueue] at hq'
      obtain rfl := Option.some.inj hq'
      simp at hb
    · rw [hadded, htask]
      exact h.fresh
    · intro q' hq'
      rw [hqueue] at hq'
      obtain rfl := Option.some.inj hq'
      rw [hadded, hhanded]
      exact h.queued q hq
  · exact h.untouched hlog hmoves (Nat.le_of_eq htask.symm) (by rw [hlookup, if_neg hk])

theorem addQueue_inOrder (hok : ProcessorOk w) (h : OrderOk w k) (source sink : String)
    (flags : TaskQueueFlags) (callbacks : TaskCallbacks) :
    OrderOk (w.addQueue source sink flags callbacks) k := by
  have hlookup : ∀ k', (w.addQueue source sink flags callbacks).queue? k' =
      if k' = ⟨w.processor.nextKey, source, sink⟩ then
        some { callbacks := callbacks, flags := flags } else w.queue? k' :=
    fun k' => Assoc.lookup_insert_eq _ _ _ _
  have hlog : (w.addQueue source sink flags callbacks).log = w.log ++ [] :=
    (List.append_nil _).symm
  by_cases hk : k = ⟨w.processor.nextKey, source, sink⟩
  · have hnone : w.queue? k = none := by
      by_contra hne
      obtain ⟨q, hq⟩ := Option.ne_none_iff_exists'.mp hne
      have := (hok.queues k q hq).key
      simp [hk] at this
    refine h.quiet hlog (by simp) (Nat.le_refl _) ⟨?_, ?_⟩ ?_
    · intro q hq
      rw [hlookup, if_pos hk] at hq
      obtain rfl := Option.some.inj hq
      exact .inr ⟨hnone, rfl⟩
    · intro hgone
      rw [hlookup, if_pos hk] at hgone
      simp at hgone
    · intro q hq
      rw [hlookup, if_pos hk] at hq
      obtain rfl := Option.some.inj hq
      exact .inl rfl
  · exact h.untouched hlog (by simp) (Nat.le_refl _) (by rw [hlookup, if_neg hk])

theorem dropQueue_inOrder (h : OrderOk w k) {k' : TaskQueueKey} {q : TaskQueue}
    (hq : w.queue? k' = some q) (hcurrent : q.currentTask = none) :
    OrderOk (w.dropQueue k' q) k := by
  have htask : (w.dropQueue k' q).nextTask = w.nextTask := by
    unfold World.dropQueue
    cases q.finallyCb <;> rfl
  refine h.quiet (dropQueue_log w k' q)
    (not_moves_flatMap fun _ _ he => .inr (mem_deleteEvents he)) (Nat.le_of_eq htask.symm)
    ⟨?_, ?_⟩ ?_
  · intro q' hq'
    rw [queue?_dropQueue] at hq'
    split at hq'
    · simp at hq'
    · exact .inl ⟨q', hq', rfl⟩
  · intro hnone q' hq'
    rw [queue?_dropQueue] at hnone
    split at hnone
    next hk =>
      obtain rfl : q = q' := Option.some.inj (hq.symm.trans (hk ▸ hq'))
      exact hcurrent
    · exact absurd (hnone.symm.trans hq') (by simp)
  · intro q' hq'
    rw [queue?_dropQueue] at hq'
    split at hq'
    · simp at hq'
    · exact .inr ⟨q', hq', rfl⟩

theorem Step.inOrder {w' : World} {act : Act} (hok : ProcessorOk w) (h : OrderOk w k)
    (hstep : Step Elsewhere w act w') : OrderOk w' k := by
  cases hstep with
  | addQueue source sink hnew => exact addQueue_inOrder hok h _ _ _ _
  | addTask hq hfresh => exact pushTask_inOrder h _ _
  | arm hq hcurrent hidle htasks =>
      exact h.modify (List.append_nil _).symm (by simp) (Nat.le_refl _)
        (fun k₀ => queue?_modifyQueue _ _ k₀ _) fun q _ => ⟨rfl, .inr rfl⟩
  | dispatch hq hidle htasks => exact dispatchTask_inOrder hok h hq hidle htasks
  | configure hq hf =>
      obtain ⟨htasks, -, hcurrent, -⟩ := hf
      refine h.modify (List.append_nil _).symm (by simp) (Nat.le_refl _)
        (fun k₀ => queue?_modifyQueue _ _ k₀ _) fun q' hq' => ?_
      obtain rfl := Option.some.inj (hq.symm.trans hq')
      exact ⟨hcurrent, .inr htasks⟩
  | defer _ hq _ _ =>
      exact h.modify (List.append_nil _).symm (by simp) (Nat.le_refl _)
        (fun k₀ => queue?_modifyQueue _ _ k₀ _) fun q _ => ⟨rfl, .inr rfl⟩
  | clear hq =>
      exact h.modify (clearQueue_log w _ _) (not_moves_flatMap fun _ _ he => mem_cancelEvents he)
        (Nat.le_refl _) (fun k₀ => queue?_clearQueue w _ k₀ _) fun _ _ => ⟨rfl, .inl rfl⟩
  | cancelling _ =>
      exact h.untouched (l := [_]) rfl (by simp [Event.Moves, Event.Hands]) (Nat.le_refl _) rfl
  | complete ha => exact completeTask_inOrder h ha
  | remove hq hcurrent _ _ => exact dropQueue_inOrder h hq hcurrent
  | quitting _ =>
      exact h.untouched (l := [_]) rfl (by simp [Event.Moves, Event.Hands]) (Nat.le_refl _) rfl
  | quitNow _ =>
      refine h.untouched (l := [_, _]) (List.append_assoc _ _ _) ?_ (Nat.le_refl _) rfl
      simp [Event.Moves, Event.Hands]
  | rehash ht =>
      exact h.untouched (List.append_nil _).symm (by simp) (Nat.le_refl _)
        (AList.perm_lookup ht)
  | elsewhere he =>
      obtain ⟨es, hlog, hes⟩ := he.log
      refine h.untouched hlog (fun e hmem => not_moves_of_isProcessor (hes e hmem))
        (Nat.le_of_eq he.nextTask.symm) ?_
      show AList.lookup k _ = _
      rw [he.processor]

end Steps

/-! ## Runs -/

theorem World.NewProcessor.inOrder {w : World} (h : w.NewProcessor) (k : TaskQueueKey) :
    OrderOk w k := by
  have hnone : w.queue? k = none := by
    show w.processor.taskQueues.lookup k = none
    rw [h.taskQueues]
    exact AList.lookup_empty k
  refine ⟨⟨?_, ?_, ?_⟩, ⟨?_, ?_⟩, ?_, ?_⟩
  · rw [h.log]
    exact List.nil_sublist _
  · rw [h.log]
    exact List.nodup_nil
  · rw [h.log]
    exact Log.before_nil
  · intro _
    rw [h.log]
    exact Log.after_nil
  · intro q a hq
    exact absurd (hnone.symm.trans hq) (by simp)
  · rw [h.log]
    simp [addedTo]
  · intro q hq
    exact absurd (hnone.symm.trans hq) (by simp)

theorem processor_orderOk {ops : List Op} {w : World} (h : processor.Reaches ops w)
    (k : TaskQueueKey) : OrderOk w k := by
  refine h.invariant_of (fun _ _ => processor_ok) (fun _ hnew => hnew.inOrder k) ?_
  rintro w op _ hok hord ⟨hlegal, rfl⟩
  have hrun := Op.run hok hlegal
  have hboth : ProcessorOk (op.perform w) ∧ OrderOk (op.perform w) k := by
    refine Transition.System.Steps.invariant (I := fun w => ProcessorOk w ∧ OrderOk w k) hrun
      ⟨hok, hord⟩ ?_
    rintro w act w' ⟨hok, hord⟩ ⟨-, hstep⟩
    exact ⟨hstep.ok (fun _ _ _ he => he) hok, hstep.inOrder hok hord⟩
  exact hboth.2

/-- In every run of the processor, whatever happens on other queues, the tasks
of a key are handed over in the order of their addition, each once, and an
earlier one is completed and deleted before the next one is handed over. -/
theorem processor_inOrder {ops : List Op} {w : World} (h : processor.Reaches ops w)
    (k : TaskQueueKey) :
    (handedTo k w.log).Sublist (addedTo k w.log) ∧ (handedTo k w.log).Nodup ∧
      ∀ past a between b future,
        w.log = past ++ .processed a :: (between ++ .processed b :: future) →
        a.queueId = k → b.queueId = k → [Event.completed k, .deleted a].Sublist between := by
  have hord := processor_orderOk h k
  refine ⟨hord.subsequence, hord.once.sublist hord.subsequence, ?_⟩
  intro past a between b future hlog ha hb
  have hfinished : Finished k (past ++ .processed a :: between) := by
    refine hord.sequential (past ++ .processed a :: between) (.processed b) future ?_ b rfl hb
    rw [hlog, List.append_assoc, List.cons_append]
  exact hfinished past (.processed a) between rfl a rfl ha

def bothTasksDone : World :=
  (Op.processIdle 2 ⟨0, ":1", "/s"⟩ {}).perform (twoTasksOps.foldl Op.perform {})

theorem bothTasksDone_reaches :
    processor.Reaches (twoTasksOps ++ [.processIdle 2 ⟨0, ":1", "/s"⟩ {}]) bothTasksDone :=
  twoTasks_reaches.step ⟨by dsimp only [Op.Legal]; decide, rfl⟩

theorem processor_inOrder_bothTasks :
    (handedTo ⟨0, ":1", "/s"⟩ bothTasksDone.log).Sublist
        (addedTo ⟨0, ":1", "/s"⟩ bothTasksDone.log) ∧
      (handedTo ⟨0, ":1", "/s"⟩ bothTasksDone.log).Nodup ∧
      ∀ past a between b future,
        bothTasksDone.log = past ++ .processed a :: (between ++ .processed b :: future) →
        a.queueId = ⟨0, ":1", "/s"⟩ → b.queueId = ⟨0, ":1", "/s"⟩ →
        [Event.completed ⟨0, ":1", "/s"⟩, .deleted a].Sublist between :=
  processor_inOrder bothTasksDone_reaches _

end RendererService
