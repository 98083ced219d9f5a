import RendererService.Lib.Table

/-!
# Recorded changes

A list of entries that are put into a table in order: what a writer reports of
its writes, and what a reader of the report applies to a copy.
-/

namespace Assoc

variable {κ α : Type} [DecidableEq κ]

def insertAll (t : Table κ α) (changes : List (κ × α)) : Table κ α :=
  changes.foldl (fun t e => t.insert e.1 e.2) t

theorem insertAll_append (t : Table κ α) (l l' : List (κ × α)) :
    insertAll t (l ++ l') = insertAll (insertAll t l) l' := by
  simp only [insertAll, List.foldl_append]

theorem lookup_insertAll_of_not_mem {l : List (κ × α)} {k : κ} (hk : k ∉ l.map Prod.fst)
    (t : Table κ α) : (insertAll t l).lookup k = t.lookup k := by
  induction l generalizing t with
  | nil => rfl
  | cons e l ih =>
      rw [List.map_cons, List.mem_cons, not_or] at hk
      calc
        (insertAll (t.insert e.1 e.2) l).lookup k = (t.insert e.1 e.2).lookup k := ih hk.2 _
        _ = t.lookup k := AList.lookup_insert_ne hk.1

theorem lookup_insertAll_of_mem {l : List (κ × α)} (hl : (l.map Prod.fst).Nodup) {e : κ × α}
    (he : e ∈ l) (t : Table κ α) : (insertAll t l).lookup e.1 = some e.2 := by
  induction l generalizing t with
  | nil => simp at he
  | cons e' l ih =>
      rw [List.map_cons, List.nodup_cons] at hl
      cases List.mem_cons.mp he with
      | inl heq =>
          subst heq
          calc
            (insertAll (t.insert e.1 e.2) l).lookup e.1 = (t.insert e.1 e.2).lookup e.1 :=
              lookup_insertAll_of_not_mem hl.1 _
            _ = some e.2 := AList.lookup_insert t
      | inr he => exact ih hl.2 he _

/-- Copies that agree still agree when they are given the same changes. -/
theorem lookup_insertAll_congr {t t' : Table κ α} (h : ∀ k, t.lookup k = t'.lookup k)
    (l : List (κ × α)) (k : κ) : (insertAll t l).lookup k = (insertAll t' l).lookup k := by
  induction l generalizing t t' with
  | nil => exact h k
  | cons e l ih =>
      apply ih
      intro k'
      rw [lookup_insert_eq, lookup_insert_eq, h k']

end Assoc
