import Mathlib.Data.List.Basic

/-!
# Separated fields

A text is split at a separator, and a change of the characters that leaves the
separators alone goes through to the fields.  Lists of fields are compared up to
their order, to repetitions and to the spelling of each field.
-/

namespace Fields

variable {α β : Type}

/-! ## Splitting -/

/-- The map neither makes a separator nor takes one away. -/
theorem splitOn_map [DecidableEq α] {sep : α} {f : α → α} (hsep : ∀ a, f a = sep ↔ a = sep)
    (l : List α) : (l.map f).splitOn sep = (l.splitOn sep).map (List.map f) := by
  induction l with
  | nil => simp
  | cons a l ih =>
      rw [List.map_cons, List.splitOn_cons_eq_if_modifyHead, List.splitOn_cons_eq_if_modifyHead, ih]
      by_cases ha : a = sep
      · have hfa : f a = sep := (hsep a).mpr ha
        rw [if_pos (beq_iff_eq.mpr hfa), if_pos (beq_iff_eq.mpr ha)]
        rfl
      · have hfa : f a ≠ sep := fun heq => ha ((hsep a).mp heq)
        rw [if_neg (by simpa using hfa), if_neg (by simpa using ha)]
        cases l.splitOn sep with
        | nil => rfl
        | cons field fields => rfl

/-! ## Rearranging -/

/-- The second list is the first with its members reordered, repeated, or written
in another way that `norm` does not tell apart. -/
inductive Rearranged (norm : α → β) : List α → List α → Prop
  | reorder {l l' : List α} : l.Perm l' → Rearranged norm l l'
  | again {l : List α} {a : α} : a ∈ l → Rearranged norm l (a :: l)
  | respell {l l' : List α} : l.map norm = l'.map norm → Rearranged norm l l'
  | trans {l l' l'' : List α} : Rearranged norm l l' → Rearranged norm l' l'' →
      Rearranged norm l l''

/-- What is read from the members up to their spelling is the same. -/
theorem Rearranged.mem_map {norm : α → β} {l l' : List α} (h : Rearranged norm l l') (b : β) :
    b ∈ l.map norm ↔ b ∈ l'.map norm := by
  induction h with
  | reorder hperm => exact (hperm.map norm).mem_iff
  | again hmem =>
      rw [List.map_cons, List.mem_cons, or_iff_right_of_imp]
      rintro rfl
      exact List.mem_map_of_mem hmem
  | respell heq => rw [heq]
  | trans _ _ ih ih' => exact ih.trans ih'

theorem Rearranged.exists_iff {norm : α → β} {l l' : List α} (h : Rearranged norm l l')
    (p : β → Prop) : (∃ a ∈ l, p (norm a)) ↔ ∃ a ∈ l', p (norm a) := by
  calc
    (∃ a ∈ l, p (norm a)) ↔ ∃ b ∈ l.map norm, p b := by simp
    _ ↔ ∃ b ∈ l'.map norm, p b := by simp only [h.mem_map]
    _ ↔ ∃ a ∈ l', p (norm a) := by simp

end Fields
