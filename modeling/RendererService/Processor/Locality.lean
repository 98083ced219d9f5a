import RendererService.Processor.Footprint

/-!
# Locality

A step of the processor is about one queue, and the callbacks of a queue work on
the record of its current task.  A queue that none of the steps is about, and
the records of the tasks that it holds, stay as they are.
-/

namespace RendererService

open Transition

/-! ## Steps about some queues -/

/-- A step about queues of `mine`, other than a step of a new construction.  What is
added is added for a client and a sink, under whatever key. -/
def Act.Within (mine : TaskQueueKey → Prop) : Act → Prop
  | .addQueue source sink callbacks => callbacks = .client ∧ ∀ id, mine ⟨id, source, sink⟩
  | .addTask k _ task => (∀ id, mine ⟨id, k.source, k.sink⟩) ∧ ∃ t, task = .client t
  | .arm k | .dispatch k | .defer k | .clear k | .remove k => mine k
  | .cancelling a | .complete a => mine a.queueId
  | .configure _ => False
  | .quitting | .quitNow | .rehash | .elsewhere => True

/-- Nothing happens to the queue of `k` and to the tasks that it holds. -/
structure Untouched (k : TaskQueueKey) (w w' : World) : Prop where
  queue : w'.queue? k = w.queue? k
  records : ∀ a : TaskAtom, a.queueId = k → w.Holds a → w'.tasks a = w.tasks a

section Untouched

variable {w w' w'' : World} {k : TaskQueueKey}

theorem Untouched.refl : Untouched k w w := ⟨rfl, fun _ _ _ => rfl⟩

theorem Untouched.holds (h : Untouched k w w') {a : TaskAtom} (ha : a.queueId = k) :
    w'.Holds a ↔ w.Holds a := by
  unfold World.Holds
  rw [ha, h.queue]

theorem Untouched.trans (h : Untouched k w w') (h' : Untouched k w' w'') : Untouched k w w'' := by
  refine ⟨h'.queue.trans h.queue, fun a ha hholds => ?_⟩
  have hlater := h'.records a ha ((h.holds ha).mpr hholds)
  exact hlater.trans (h.records a ha hholds)

/-- Only the queue of another key changes, and only tasks that it held lose
their records. -/
theorem untouched_of_modify {k' : TaskQueueKey} (hne : k ≠ k') {o : Option TaskQueue}
    (hlookup : ∀ k₀, w'.queue? k₀ = if k₀ = k' then o else w.queue? k₀)
    (hrecords : ∀ a : TaskAtom, a.queueId ≠ k' → w.Holds a → w'.tasks a = w.tasks a) :
    Untouched k w w' := by
  refine ⟨(hlookup k).trans (if_neg hne), fun a ha hholds => ?_⟩
  subst ha
  exact hrecords a hne hholds

theorem ProcessorOk.mem_processIdles (hok : ProcessorOk w) {id : Nat} :
    (id, k) ∈ w.loop.processIdles ↔ ∃ q, w.queue? k = some q ∧ q.idleId = id ∧ id ≠ 0 := by
  constructor
  · intro hmem
    obtain ⟨q, hq, hid⟩ := hok.idles _ hmem
    exact ⟨q, hq, hid, Nat.ne_of_gt (hok.positive _ hmem).1⟩
  · rintro ⟨q, hq, rfl, hne⟩
    exact ((hok.queues k q hq).idle hne).2.2

theorem Untouched.processIdles (h : Untouched k w w') (hok : ProcessorOk w)
    (hok' : ProcessorOk w') (id : Nat) :
    (id, k) ∈ w'.loop.processIdles ↔ (id, k) ∈ w.loop.processIdles := by
  rw [hok'.mem_processIdles, hok.mem_processIdles, h.queue]

theorem tasks_completeTask (w : World) (k : TaskQueueKey) (a b : TaskAtom) :
    (w.completeTask k a).tasks b = if b = a then none else w.tasks b := by
  have hfinish : (w.finishTask k a).tasks b = if b = a then none else w.tasks b := by
    show (if b ∈ [a] then none else w.tasks b) = _
    simp only [List.mem_singleton]
  rw [← hfinish]
  unfold World.completeTask
  dsimp only
  split <;> rfl

theorem tasks_dropQueue (w : World) (k : TaskQueueKey) (q : TaskQueue) (b : TaskAtom) :
    (w.dropQueue k q).tasks b = if b ∈ q.tasks then none else w.tasks b := by
  unfold World.dropQueue
  cases q.finallyCb <;> rfl

theorem ProcessorOk.not_holds {q : TaskQueue} (hok : ProcessorOk w) (hq : w.queue? k = some q)
    {a : TaskAtom} (ha : a.queueId ≠ k) : a ∉ q.tasks ∧ q.currentTask ≠ some a :=
  ⟨fun hmem => ha ((hok.queues k q hq).owned a hmem).1,
    fun hcurrent => ha ((hok.queues k q hq).current a hcurrent).1⟩

theorem Step.untouched {E : World → World → Prop} {act : Act} {mine : TaskQueueKey → Prop}
    (hok : ProcessorOk w) (hstep : Step E w act w') (hact : act ≠ .elsewhere)
    (hwithin : act.Within mine) (hk : ¬mine k) : Untouched k w w' := by
  have hne : ∀ k', mine k' → k ≠ k' := fun k' hmine heq => hk (heq ▸ hmine)
  cases hstep with
  | @addQueue source sink flags callbacks _ =>
      exact untouched_of_modify (hne _ (hwithin.2 _))
        (fun k₀ => Assoc.lookup_insert_eq _ _ _ _) fun _ _ _ => rfl
  | @addTask k' q task hq _ =>
      refine untouched_of_modify (hne _ (hwithin.1 k'.id))
        (fun k₀ => queue?_pushTask w k' k₀ task) ?_
      intro a ha _
      have hnew : a ≠ w.newAtom k' := fun heq => ha (heq ▸ rfl)
      exact if_neg hnew
  | arm _ _ _ _ =>
      exact untouched_of_modify (hne _ hwithin) (fun k₀ => queue?_modifyQueue _ _ k₀ _)
        fun _ _ _ => rfl
  | @dispatch k' _ a rest _ _ _ =>
      exact untouched_of_modify (w := w) (hne _ hwithin)
        (fun k₀ => queue?_dispatchTask _ k' k₀ a rest) fun _ _ _ => rfl
  | configure _ _ => exact hwithin.elim
  | defer _ _ _ _ =>
      exact untouched_of_modify (hne _ hwithin) (fun k₀ => queue?_modifyQueue w _ k₀ _)
        fun _ _ _ => rfl
  | @clear k' q hq =>
      refine untouched_of_modify (hne _ hwithin) (fun k₀ => queue?_clearQueue w k' k₀ q) ?_
      exact fun a ha _ => if_neg (hok.not_holds hq ha).1
  | cancelling _ | quitting _ | quitNow _ => exact ⟨rfl, fun _ _ _ => rfl⟩
  | @complete b _ =>
      refine untouched_of_modify (hne _ hwithin) (fun k₀ => queue?_completeTask w b.queueId k₀ b) ?_
      intro a ha _
      have hother : a ≠ b := fun heq => ha (heq ▸ rfl)
      rw [tasks_completeTask]
      exact if_neg hother
  | @remove k' q hq _ _ _ =>
      refine untouched_of_modify (hne _ hwithin) (fun k₀ => queue?_dropQueue w k' k₀ q) ?_
      intro a ha _
      rw [tasks_dropQueue]
      exact if_neg (hok.not_holds hq ha).1
  | rehash ht => exact ⟨AList.perm_lookup ht, fun _ _ _ => rfl⟩
  | elsewhere _ => exact absurd rfl hact

end Untouched

/-! ## Runs about some queues -/

/-- The steps about the queues of `mine`, under the invariant of the processor. -/
def localSteps (mine : TaskQueueKey → Prop) : Discipline where
  E w w' := Elsewhere w w' ∧ ∃ a : TaskAtom, mine a.queueId ∧ Touches a w w'
  Allowed _ act := act.Within mine
  Inv := ProcessorOk
  Mine := mine
  processor h := h
  preserved h _ hstep := hstep.ok (fun _ _ _ he => he.1) h
  defer _ _ hk := hk
  clear _ _ hk := hk
  cancelling _ _ hk := hk
  remove _ _ hk := hk

section Runs

variable {mine : TaskQueueKey → Prop} {w w' : World} {k : TaskQueueKey}

theorem localSteps_local : (localSteps mine).Local where
  touches hok hmine ha h := ⟨h.elsewhere hok ha, _, hmine, h⟩
  elsewhere _ := trivial
  complete _ _ hmine := hmine

theorem Touches.untouched {a : TaskAtom} (h : Touches a w w') (hk : a.queueId ≠ k) :
    Untouched k w w' := by
  refine ⟨h.queue? k, fun b hb _ => h.others b ?_⟩
  rintro rfl
  exact hk hb

theorem localSteps_untouched (h : (localSteps mine).Run w w') (hok : ProcessorOk w)
    (hk : ¬mine k) : Untouched k w w' := by
  have hboth : ProcessorOk w' ∧ Untouched k w w' := by
    refine System.Steps.invariant (I := fun w' => ProcessorOk w' ∧ Untouched k w w') h
      ⟨hok, .refl⟩ ?_
    rintro w₁ act w₂ ⟨hok₁, hsame⟩ ⟨hwithin, hstep⟩
    refine ⟨hstep.ok (fun _ _ _ he => he.1) hok₁, hsame.trans ?_⟩
    by_cases hact : act = .elsewhere
    · subst hact
      cases hstep with
      | elsewhere he =>
          obtain ⟨-, a, hmine, htouch⟩ := he
          exact htouch.untouched fun ha => hk (ha ▸ hmine)
    · exact hstep.untouched hok₁ hact hwithin hk
  exact hboth.2

theorem Step.log_append {E : World → World → Prop} {act : Act}
    (hE : ∀ w w', E w w' → Elsewhere w w') (hok : ProcessorOk w) (hstep : Step E w act w') :
    ∃ es, w'.log = w.log ++ es := by
  by_cases hact : act = .elsewhere
  · subst hact
    cases hstep with
    | elsewhere he =>
        obtain ⟨es, hlog, -⟩ := (hE _ _ he).log
        exact ⟨es, hlog⟩
  · obtain ⟨es, hlog, -⟩ := (hstep.footprint hok hact).log
    exact ⟨es, hlog⟩

theorem localSteps_log (h : (localSteps mine).Run w w') (hok : ProcessorOk w) :
    ∃ es, w'.log = w.log ++ es := by
  have hboth : ProcessorOk w' ∧ ∃ es, w'.log = w.log ++ es := by
    refine System.Steps.invariant (I := fun w' => ProcessorOk w' ∧ ∃ es, w'.log = w.log ++ es) h
      ⟨hok, [], (List.append_nil _).symm⟩ ?_
    rintro w₁ act w₂ ⟨hok₁, es, hlog⟩ ⟨-, hstep⟩
    obtain ⟨es', hlog'⟩ := hstep.log_append (fun _ _ he => he.1) hok₁
    refine ⟨hstep.ok (fun _ _ _ he => he.1) hok₁, es ++ es', ?_⟩
    rw [hlog', hlog, List.append_assoc]
  exact hboth.2

theorem visits_run {visit : World → TaskQueueKey → World} {keys : List TaskQueueKey}
    (hvisit : ∀ w, ∀ k ∈ keys, ProcessorOk w →
      (localSteps (fun k => k ∈ keys)).Run w (visit w k)) (hok : ProcessorOk w) :
    (localSteps (fun k => k ∈ keys)).Run w (keys.foldl visit w) :=
  Discipline.Run.foldl_mem hvisit w hok

/-- What a loop over queues does to the queue of `k` is done by its visit. -/
theorem visits_split (visit : World → TaskQueueKey → World) {keys : List TaskQueueKey}
    (hvisit : ∀ {mine : TaskQueueKey → Prop} w k, mine k → ProcessorOk w →
      (localSteps mine).Run w (visit w k))
    (hnodup : keys.Nodup) (hk : k ∈ keys) (hok : ProcessorOk w) :
    ∃ w₁ es es', ProcessorOk w₁ ∧ Untouched k w w₁ ∧ w₁.log = w.log ++ es ∧
      Untouched k (visit w₁ k) (keys.foldl visit w) ∧
      (keys.foldl visit w).log = (visit w₁ k).log ++ es' := by
  obtain ⟨before, after, rfl⟩ := List.append_of_mem hk
  obtain ⟨-, hafter, hdisjoint⟩ := List.nodup_append.mp hnodup
  have hbefore : k ∉ before := fun hmem => hdisjoint k hmem k List.mem_cons_self rfl
  have hrest : k ∉ after := (List.nodup_cons.mp hafter).1
  let w₁ := before.foldl visit w
  have hfirst : (localSteps (· ∈ before)).Run w w₁ :=
    visits_run (fun w k hmem => hvisit w k hmem) hok
  have hok₁ : ProcessorOk w₁ := hfirst.inv hok
  have hown : (localSteps (· = k)).Run w₁ (visit w₁ k) := hvisit w₁ k rfl hok₁
  have hok₂ : ProcessorOk (visit w₁ k) := hown.inv hok₁
  have hlast : (localSteps (· ∈ after)).Run (visit w₁ k) (after.foldl visit (visit w₁ k)) :=
    visits_run (fun w k hmem => hvisit w k hmem) hok₂
  obtain ⟨es, hes⟩ := localSteps_log hfirst hok
  obtain ⟨es', hes'⟩ := localSteps_log hlast hok₂
  have hfold : (before ++ k :: after).foldl visit w = after.foldl visit (visit w₁ k) := by
    rw [List.foldl_append, List.foldl_cons]
  rw [hfold]
  exact ⟨w₁, es, es', hok₁, localSteps_untouched hfirst hok hbefore, hes,
    localSteps_untouched hlast hok₂ hrest, hes'⟩

end Runs

end RendererService
