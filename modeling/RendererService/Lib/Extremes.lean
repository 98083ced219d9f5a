import Mathlib.Order.Bounds.Basic
import Mathlib.Order.Defs.LinearOrder

/-!
# The least and the greatest in one loop

A loop that keeps the least and the greatest element it has seen, by a comparison
whose sign says which of two elements is greater.  An element that is less than
the least is not tried as the greatest.
-/

namespace Extremes

variable {α β : Type*}

structure Pair (α : Type*) where
  least : α
  greatest : α

def Pair.add (c : α → α → ℤ) (s : Pair α) (a : α) : Pair α :=
  if 0 < c s.least a then { s with least := a }
  else if c s.greatest a < 0 then { s with greatest := a }
  else s

/-! ## Two comparisons -/

/-- Wherever the loop by `c'` compares two elements, `c` has the sign of `c'`. -/
def Agree (c c' : α → α → ℤ) : Pair α → List α → Prop
  | _, [] => True
  | s, a :: l => (0 < c s.least a ↔ 0 < c' s.least a) ∧
      (c' s.least a ≤ 0 → (c s.greatest a < 0 ↔ c' s.greatest a < 0)) ∧ Agree c c' (s.add c' a) l

theorem add_congr {c c' : α → α → ℤ} {s : Pair α} {a : α}
    (hleast : 0 < c s.least a ↔ 0 < c' s.least a)
    (hgreatest : c' s.least a ≤ 0 → (c s.greatest a < 0 ↔ c' s.greatest a < 0)) :
    s.add c a = s.add c' a := by
  unfold Pair.add
  by_cases hless : 0 < c' s.least a
  · rw [if_pos hless, if_pos (hleast.mpr hless)]
  · rw [if_neg hless, if_neg fun h => hless (hleast.mp h)]
    simp only [hgreatest (le_of_not_gt hless)]

theorem foldl_congr {c c' : α → α → ℤ} {l : List α} {s : Pair α} (h : Agree c c' s l) :
    l.foldl (Pair.add c) s = l.foldl (Pair.add c') s := by
  induction l generalizing s with
  | nil => rfl
  | cons a l ih =>
      obtain ⟨hleast, hgreatest, hrest⟩ := h
      rw [List.foldl_cons, List.foldl_cons, add_congr hleast hgreatest]
      exact ih hrest

/-! ## Elements that stay -/

theorem least_foldl {c : α → α → ℤ} {l : List α} {s : Pair α} (h : ∀ a ∈ l, c s.least a ≤ 0) :
    (l.foldl (Pair.add c) s).least = s.least := by
  induction l generalizing s with
  | nil => rfl
  | cons a l ih =>
      have hstays : (s.add c a).least = s.least := by
        rw [Pair.add, if_neg (h a List.mem_cons_self).not_gt]
        split <;> rfl
      calc
        (l.foldl (Pair.add c) (s.add c a)).least = (s.add c a).least := by
          apply ih
          rw [hstays]
          exact fun b hb => h b (List.mem_cons_of_mem a hb)
        _ = s.least := hstays

theorem greatest_foldl {c : α → α → ℤ} {l : List α} {s : Pair α}
    (h : ∀ a ∈ l, 0 ≤ c s.greatest a) : (l.foldl (Pair.add c) s).greatest = s.greatest := by
  induction l generalizing s with
  | nil => rfl
  | cons a l ih =>
      have hstays : (s.add c a).greatest = s.greatest := by
        unfold Pair.add
        split
        · rfl
        · rw [if_neg (h a List.mem_cons_self).not_gt]
      calc
        (l.foldl (Pair.add c) (s.add c a)).greatest = (s.add c a).greatest := by
          apply ih
          rw [hstays]
          exact fun b hb => h b (List.mem_cons_of_mem a hb)
        _ = s.greatest := hstays

/-! ## The extremes of an order -/

variable [LinearOrder β]

/-- The sign of the comparison is that of an order, on the elements of a set. -/
def Compares (c : α → α → ℤ) (f : α → β) (S : Set α) : Prop :=
  ∀ a ∈ S, ∀ b ∈ S, (0 < c a b ↔ f b < f a) ∧ (c a b < 0 ↔ f a < f b)

/-- What the loop keeps: elements it has seen, which bound those it has seen. -/
structure Bounds (f : α → β) (seen : Set α) (s : Pair α) : Prop where
  least_mem : s.least ∈ seen
  greatest_mem : s.greatest ∈ seen
  least_le : ∀ a ∈ seen, f s.least ≤ f a
  le_greatest : ∀ a ∈ seen, f a ≤ f s.greatest

theorem bounds_add {c : α → α → ℤ} {f : α → β} {S seen : Set α} {s : Pair α} {a : α}
    (hc : Compares c f S) (hseen : seen ⊆ S) (ha : a ∈ S) (hs : Bounds f seen s) :
    Bounds f (insert a seen) (s.add c a) := by
  have hleast := (hc s.least (hseen hs.least_mem) a ha).1
  have hgreatest := (hc s.greatest (hseen hs.greatest_mem) a ha).2
  unfold Pair.add
  split
  next hless =>
    rw [hleast] at hless
    refine ⟨.inl rfl, .inr hs.greatest_mem, ?_, ?_⟩
    · rintro b (rfl | hb)
      · exact le_refl _
      · exact hless.le.trans (hs.least_le b hb)
    · rintro b (rfl | hb)
      · exact hless.le.trans (hs.le_greatest _ hs.least_mem)
      · exact hs.le_greatest b hb
  next hless =>
    rw [hleast, not_lt] at hless
    split
    next hgreater =>
      rw [hgreatest] at hgreater
      refine ⟨.inr hs.least_mem, .inl rfl, ?_, ?_⟩
      · rintro b (rfl | hb)
        · exact hless
        · exact hs.least_le b hb
      · rintro b (rfl | hb)
        · exact le_refl _
        · exact (hs.le_greatest b hb).trans hgreater.le
    next hgreater =>
      rw [hgreatest, not_lt] at hgreater
      refine ⟨.inr hs.least_mem, .inr hs.greatest_mem, ?_, ?_⟩
      · rintro b (rfl | hb)
        · exact hless
        · exact hs.least_le b hb
      · rintro b (rfl | hb)
        · exact hgreater
        · exact hs.le_greatest b hb

/-- The loop ends with the extremes of all elements. -/
theorem bounds_foldl {c : α → α → ℤ} {f : α → β} {S seen : Set α} {l : List α} {s : Pair α}
    (hc : Compares c f S) (hseen : seen ⊆ S) (hl : ∀ a ∈ l, a ∈ S) (hs : Bounds f seen s) :
    Bounds f (seen ∪ { a | a ∈ l }) (l.foldl (Pair.add c) s) := by
  induction l generalizing s seen with
  | nil => simpa using hs
  | cons a l ih =>
      have ha := hl a List.mem_cons_self
      have hstep := bounds_add hc hseen ha hs
      have hrest := ih (Set.insert_subset ha hseen)
        (fun b hb => hl b (List.mem_cons_of_mem a hb)) hstep
      have hset : insert a seen ∪ { b | b ∈ l } = seen ∪ { b | b ∈ a :: l } := by
        ext b
        simp only [Set.mem_union, Set.mem_insert_iff, Set.mem_ofPred_eq, List.mem_cons]
        tauto
      rwa [← hset]

/-- One element bounds itself. -/
theorem bounds_singleton (f : α → β) (a : α) : Bounds f {a} ⟨a, a⟩ := by
  refine ⟨rfl, rfl, ?_, ?_⟩
  · rintro b rfl
    exact le_refl _
  · rintro b rfl
    exact le_refl _

end Extremes
