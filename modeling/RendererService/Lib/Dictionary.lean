import Mathlib.Data.List.Nodup

/-!
# Dictionaries that are sent as lists

A list of entries is a dictionary if no key occurs twice.  An entry is put into it by
replacing the value of its key in place, or at the end where the key is new.
-/

namespace Dictionary

variable {κ α : Type*} [DecidableEq κ] {k k' : κ} {v : α} {l : List (κ × α)}

/-- Give the key a value in every place where it stands. -/
def replace (k : κ) (v : α) (l : List (κ × α)) : List (κ × α) :=
  l.map fun e => if k = e.1 then (e.1, v) else e

def put (k : κ) (v : α) (l : List (κ × α)) : List (κ × α) :=
  if k ∈ l.map Prod.fst then replace k v l else replace k v l ++ [(k, v)]

theorem replace_cons (k : κ) (v : α) (e : κ × α) (l : List (κ × α)) :
    replace k v (e :: l) = (if k = e.1 then (e.1, v) else e) :: replace k v l := rfl

@[simp] theorem keys_replace (k : κ) (v : α) (l : List (κ × α)) :
    (replace k v l).map Prod.fst = l.map Prod.fst := by
  rw [replace, List.map_map]
  apply List.map_congr_left
  intro e _
  show (if k = e.1 then (e.1, v) else e).1 = e.1
  split
  · rfl
  · rfl

theorem keys_put (k : κ) (v : α) (l : List (κ × α)) :
    (put k v l).map Prod.fst =
      if k ∈ l.map Prod.fst then l.map Prod.fst else l.map Prod.fst ++ [k] := by
  unfold put
  split
  · rw [keys_replace]
  · rw [List.map_append, keys_replace]
    rfl

theorem nodup_put (k : κ) (v : α) (hl : (l.map Prod.fst).Nodup) :
    ((put k v l).map Prod.fst).Nodup := by
  rw [keys_put]
  split
  · exact hl
  next hk =>
    apply hl.append (List.nodup_singleton k)
    rwa [List.disjoint_singleton]

theorem lookup_cons_ne {e : κ × α} (h : k ≠ e.1) : (e :: l).lookup k = l.lookup k := by
  have hbeq : (k == e.1) = false := beq_eq_false_iff_ne.mpr h
  rw [List.lookup_cons, hbeq]

theorem lookup_eq_none_of_not_mem (hk : k ∉ l.map Prod.fst) : l.lookup k = none := by
  rw [List.lookup_eq_none_iff]
  intro e he
  have hne : k ≠ e.1 := fun heq => hk (heq ▸ List.mem_map_of_mem he)
  simpa using hne

theorem lookup_replace_self (hk : k ∈ l.map Prod.fst) : (replace k v l).lookup k = some v := by
  induction l with
  | nil => simp at hk
  | cons e l ih =>
      rw [replace_cons]
      by_cases he : k = e.1
      · subst he
        rw [if_pos rfl, List.lookup_cons_self]
      · rw [if_neg he, lookup_cons_ne he]
        exact ih ((List.mem_cons.mp hk).resolve_left he)

theorem lookup_replace_ne (h : k' ≠ k) : (replace k v l).lookup k' = l.lookup k' := by
  induction l with
  | nil => rfl
  | cons e l ih =>
      rw [replace_cons]
      by_cases he : k = e.1
      · subst he
        rw [if_pos rfl, lookup_cons_ne (e := (e.1, v)) h, lookup_cons_ne h, ih]
      · rw [if_neg he, List.lookup_cons, List.lookup_cons, ih]

@[simp] theorem lookup_put_self (k : κ) (v : α) (l : List (κ × α)) :
    (put k v l).lookup k = some v := by
  unfold put
  split
  next hk => exact lookup_replace_self hk
  next hk =>
    have hnone : (replace k v l).lookup k = none :=
      lookup_eq_none_of_not_mem (by rwa [keys_replace])
    rw [List.lookup_append, hnone, Option.none_or, List.lookup_cons_self]

theorem lookup_put_ne (v : α) (l : List (κ × α)) (h : k' ≠ k) :
    (put k v l).lookup k' = l.lookup k' := by
  unfold put
  split
  · exact lookup_replace_ne h
  · rw [List.lookup_append, lookup_replace_ne h, lookup_cons_ne h, List.lookup_nil, Option.or_none]

/-! ## Several entries -/

def putAll (new l : List (κ × α)) : List (κ × α) :=
  new.foldl (fun l e => put e.1 e.2 l) l

theorem nodup_putAll (new : List (κ × α)) (hl : (l.map Prod.fst).Nodup) :
    ((putAll new l).map Prod.fst).Nodup := by
  induction new generalizing l with
  | nil => exact hl
  | cons e new ih => exact ih (nodup_put e.1 e.2 hl)

theorem lookup_putAll_of_not_mem {new : List (κ × α)} (hk : k ∉ new.map Prod.fst)
    (l : List (κ × α)) : (putAll new l).lookup k = l.lookup k := by
  induction new generalizing l with
  | nil => rfl
  | cons e new ih =>
      rw [List.map_cons, List.mem_cons, not_or] at hk
      calc
        (putAll new (put e.1 e.2 l)).lookup k = (put e.1 e.2 l).lookup k := ih hk.2 _
        _ = l.lookup k := lookup_put_ne e.2 l hk.1

theorem lookup_putAll_of_mem {new : List (κ × α)} (hnew : (new.map Prod.fst).Nodup) {e : κ × α}
    (he : e ∈ new) (l : List (κ × α)) : (putAll new l).lookup e.1 = some e.2 := by
  induction new generalizing l with
  | nil => simp at he
  | cons e' new ih =>
      rw [List.map_cons, List.nodup_cons] at hnew
      cases List.mem_cons.mp he with
      | inl heq =>
          subst heq
          calc
            (putAll new (put e.1 e.2 l)).lookup e.1 = (put e.1 e.2 l).lookup e.1 :=
              lookup_putAll_of_not_mem hnew.1 _
            _ = some e.2 := lookup_put_self e.1 e.2 l
      | inr he => exact ih hnew.2 he _

/-- What stands first in a list is found there. -/
theorem lookup_append_of_mem {l' : List (κ × α)} (hl : (l.map Prod.fst).Nodup) {e : κ × α}
    (he : e ∈ l) : (l ++ l').lookup e.1 = some e.2 := by
  induction l with
  | nil => simp at he
  | cons e' l ih =>
      rw [List.map_cons, List.nodup_cons] at hl
      cases List.mem_cons.mp he with
      | inl heq =>
          subst heq
          exact List.lookup_cons_self
      | inr he =>
          have hne : e.1 ≠ e'.1 := fun heq => hl.1 (heq ▸ List.mem_map_of_mem he)
          rw [List.cons_append, lookup_cons_ne hne]
          exact ih hl.2 he

end Dictionary
