/-!
# Logs

Properties of a growing log of events: what every event must have before it,
and what every event must have after it.
-/

namespace Log

universe u

variable {ε : Type u}

/-- Every event of the log meets `R` with what precedes it. -/
def Before (R : List ε → ε → Prop) (log : List ε) : Prop :=
  ∀ past e future, log = past ++ e :: future → R past e

/-- Every event of the log meets `S` with what follows it. -/
def After (S : ε → List ε → Prop) (log : List ε) : Prop :=
  ∀ past e future, log = past ++ e :: future → S e future

/-- An event of a concatenation is in the first log or in the second one. -/
theorem split_append {x y past future : List ε} {e : ε} (h : x ++ y = past ++ e :: future) :
    (∃ rest, x = past ++ e :: rest ∧ future = rest ++ y) ∨
      ∃ rest, y = rest ++ e :: future ∧ past = x ++ rest := by
  rcases List.append_eq_append_iff.mp h with ⟨l, hpast, hy⟩ | ⟨l, hx, hfuture⟩
  · exact .inr ⟨l, hy, hpast⟩
  · cases l with
    | nil => exact .inr ⟨[], hfuture.symm, by simpa using hx.symm⟩
    | cons e' l =>
        obtain ⟨rfl, hrest⟩ := List.cons.inj hfuture
        exact .inl ⟨l, hx, hrest⟩

section Before

variable {R : List ε → ε → Prop}

theorem before_nil : Before R [] := by
  intro past e future h
  simp at h

theorem Before.append {log es : List ε} (h : Before R log)
    (hes : ∀ past e future, es = past ++ e :: future → R (log ++ past) e) :
    Before R (log ++ es) := by
  intro past e future hsplit
  rcases split_append hsplit with ⟨rest, hlog, -⟩ | ⟨rest, hes', rfl⟩
  · exact h past e rest hlog
  · exact hes rest e future hes'

/-- Events that `R` holds of whatever precedes them. -/
theorem Before.append_of_forall {log es : List ε} (h : Before R log)
    (hes : ∀ e ∈ es, ∀ past, R past e) : Before R (log ++ es) :=
  h.append fun _ e _ hsplit => hes e (hsplit ▸ by simp) _

theorem Before.snoc {log : List ε} {e : ε} (h : Before R log) (he : R log e) :
    Before R (log ++ [e]) := by
  refine h.append ?_
  rintro past e' future hsplit
  obtain ⟨rfl, rfl, rfl⟩ : past = [] ∧ e' = e ∧ future = [] := by
    cases past with
    | nil => simpa [eq_comm] using hsplit
    | cons x past => simp at hsplit
  simpa using he

/-- Two logs that meet `R` on their own meet it one after the other. -/
theorem Before.append_before (hmono : ∀ pre past e, R past e → R (pre ++ past) e)
    {x y : List ε} (hx : Before R x) (hy : Before R y) : Before R (x ++ y) :=
  hx.append fun past e future hsplit => hmono x past e (hy past e future hsplit)

theorem before_flatMap {α : Type u} (hmono : ∀ pre past e, R past e → R (pre ++ past) e)
    {f : α → List ε} (hf : ∀ a, Before R (f a)) (l : List α) : Before R (l.flatMap f) := by
  induction l with
  | nil => exact before_nil
  | cons a l ih =>
      rw [List.flatMap_cons]
      exact (hf a).append_before hmono ih

end Before

section After

variable {S : ε → List ε → Prop}

theorem after_nil : After S [] := by
  intro past e future h
  simp at h

/-- What an event has after it stays there when the log grows. -/
theorem After.append {log es : List ε}
    (hmono : ∀ e future, S e future → S e (future ++ es)) (h : After S log)
    (hes : After S es) : After S (log ++ es) := by
  intro past e future hsplit
  rcases split_append hsplit with ⟨rest, hlog, rfl⟩ | ⟨rest, hes', -⟩
  · exact hmono e rest (h past e rest hlog)
  · exact hes rest e future hes'

theorem After.of_forall {log : List ε} (h : ∀ e ∈ log, ∀ future, S e future) : After S log :=
  fun _ e _ hsplit => h e (hsplit ▸ by simp) _

theorem After.cons {log : List ε} {e : ε} (he : S e log) (h : After S log) :
    After S (e :: log) := by
  intro past e' future hsplit
  cases past with
  | nil =>
      obtain ⟨rfl, rfl⟩ := List.cons.inj hsplit
      exact he
  | cons x past =>
      obtain ⟨rfl, hrest⟩ := List.cons.inj hsplit
      exact h past e' future hrest

end After

/-- What the latest event of a log says that says anything. -/
theorem findSome?_reverse_snoc {α : Type u} (f : ε → Option α) (log : List ε) (e : ε) :
    (log ++ [e]).reverse.findSome? f = (f e).or (log.reverse.findSome? f) := by
  rw [List.reverse_append, List.reverse_singleton, List.singleton_append, List.findSome?_cons]
  cases f e with
  | none => rfl
  | some a => rfl

end Log
