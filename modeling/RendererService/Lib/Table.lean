import Mathlib.Algebra.GroupWithZero.Nat
import Mathlib.Data.List.AList

/-!
# Finite tables

`AList` is the association table of Mathlib; this module adds what programs
that keep records in a table need: changing one entry in place, and counting
the entries that satisfy a predicate.
-/

namespace Assoc

variable {κ α : Type} [DecidableEq κ]

abbrev Table (κ α : Type) := AList fun _ : κ => α

/-- Change the entry of `k`, if there is one. -/
def modify (t : Table κ α) (k : κ) (f : α → α) : Table κ α :=
  match t.lookup k with
  | some v => t.insert k (f v)
  | none => t

def count (p : α → Bool) (t : Table κ α) : Nat :=
  t.entries.countP fun e => p e.2

theorem lookup_insert_eq (t : Table κ α) (k k' : κ) (v : α) :
    (t.insert k v).lookup k' = if k' = k then some v else t.lookup k' := by
  by_cases h : k' = k
  · subst h
    simp
  · simp [h, AList.lookup_insert_ne h]

theorem lookup_erase_eq (t : Table κ α) (k k' : κ) :
    (t.erase k).lookup k' = if k' = k then none else t.lookup k' := by
  by_cases h : k' = k
  · subst h
    simp
  · simp [h, AList.lookup_erase_ne h]

theorem lookup_modify (t : Table κ α) (k k' : κ) (f : α → α) :
    (modify t k f).lookup k' =
      if k' = k then (t.lookup k).map f else t.lookup k' := by
  unfold modify
  cases hk : t.lookup k with
  | some v => simp [lookup_insert_eq]
  | none =>
      by_cases h : k' = k
      · subst h
        simp [hk]
      · simp [h]

theorem modify_eq_insert {t : Table κ α} {k : κ} {v : α}
    (h : t.lookup k = some v) (f : α → α) : modify t k f = t.insert k (f v) := by
  simp [modify, h]

theorem modify_congr {t : Table κ α} {k : κ} {f g : α → α}
    (h : ∀ v, t.lookup k = some v → f v = g v) : modify t k f = modify t k g := by
  cases hk : t.lookup k with
  | some v => simp [modify, hk, h v hk]
  | none => simp [modify, hk]

theorem modify_modify (t : Table κ α) (k : κ) (f g : α → α) :
    modify (modify t k f) k g = modify t k (g ∘ f) := by
  cases h : t.lookup k with
  | some v => simp [modify, h, AList.insert_insert]
  | none => simp [modify, h]

theorem mem_keys_iff {t : Table κ α} {k : κ} :
    k ∈ t.keys ↔ ∃ v, t.lookup k = some v := by
  rw [← AList.mem_keys, ← AList.lookup_isSome, Option.isSome_iff_exists]

theorem lookup_of_mem_entries {t : Table κ α} {e : Sigma fun _ : κ => α}
    (h : e ∈ t.entries) : t.lookup e.1 = some e.2 :=
  AList.mem_lookup_iff.mpr h

/-- A table is a permutation of one of its entries and the rest. -/
theorem entries_perm_erase {t : Table κ α} {k : κ} {v : α}
    (h : t.lookup k = some v) :
    t.entries.Perm (⟨k, v⟩ :: (t.erase k).entries) := by
  have hmem : (⟨k, v⟩ : Sigma fun _ : κ => α) ∈ t.entries :=
    AList.mem_lookup_iff.mp h
  obtain ⟨b, l₁, l₂, _, hsplit, herase⟩ :=
    List.exists_of_kerase (List.mem_keys_of_mem hmem)
  have hb : b = v := by
    have hb' : (⟨k, b⟩ : Sigma fun _ : κ => α) ∈ t.entries := by simp [hsplit]
    have hlook : t.lookup k = some b := AList.mem_lookup_iff.mpr hb'
    exact Option.some.inj (hlook.symm.trans h)
  subst hb
  change t.entries.Perm (⟨k, b⟩ :: List.kerase k t.entries)
  rw [herase, hsplit]
  exact List.perm_middle

/-- The count splits into one entry and the rest of the table. -/
theorem count_eq_erase {t : Table κ α} {k : κ} {v : α} (p : α → Bool)
    (h : t.lookup k = some v) :
    count p t = count p (t.erase k) + if p v then 1 else 0 := by
  unfold count
  rw [(entries_perm_erase h).countP_eq, List.countP_cons]

theorem count_insert (t : Table κ α) (k : κ) (v : α) (p : α → Bool) :
    count p (t.insert k v) = count p (t.erase k) + if p v then 1 else 0 := by
  unfold count
  rw [AList.entries_insert, List.countP_cons]
  rfl

theorem count_modify {t : Table κ α} {k : κ} {v : α} {f : α → α} {p : α → Bool}
    (h : t.lookup k = some v) :
    count p (modify t k f) + (if p v then 1 else 0) =
      count p t + if p (f v) then 1 else 0 := by
  rw [modify_eq_insert h, count_insert, count_eq_erase p h]
  omega

theorem count_insert_of_lookup_none {t : Table κ α} {k : κ} (v : α) (p : α → Bool)
    (h : t.lookup k = none) :
    count p (t.insert k v) = count p t + if p v then 1 else 0 := by
  unfold count
  rw [AList.entries_insert_of_notMem (AList.lookup_eq_none.mp h), List.countP_cons]

theorem count_pos_of_lookup {t : Table κ α} {k : κ} {v : α} {p : α → Bool}
    (h : t.lookup k = some v) (hp : p v = true) : 0 < count p t := by
  rw [count_eq_erase p h, if_pos hp]
  omega

theorem two_le_count_of_lookup {t : Table κ α} {k k' : κ} {v v' : α} {p : α → Bool}
    (h : t.lookup k = some v) (h' : t.lookup k' = some v') (hne : k' ≠ k) (hp : p v = true)
    (hp' : p v' = true) : 2 ≤ count p t := by
  have hrest : (t.erase k).lookup k' = some v' := by rw [lookup_erase_eq, if_neg hne, h']
  have hpos := count_pos_of_lookup hrest hp'
  rw [count_eq_erase p h, if_pos hp]
  omega

theorem entries_eq_nil_iff {t : Table κ α} : t.entries = [] ↔ ∀ k, t.lookup k = none := by
  constructor
  · intro h k
    rw [AList.lookup_eq_none, AList.mem_keys, AList.keys, List.keys, h]
    exact List.not_mem_nil
  · intro h
    rw [List.eq_nil_iff_forall_not_mem]
    intro e he
    have hlookup := lookup_of_mem_entries he
    rw [h] at hlookup
    simp at hlookup

/-- A loop over distinct keys, each turn of which changes what is seen of its
own key only. -/
theorem foldl_visit {σ β : Type} {step : σ → κ → σ} (view : σ → κ → β) {g : κ → β → β}
    (hstep : ∀ s k k', view (step s k) k' = if k' = k then g k (view s k) else view s k')
    {ks : List κ} (hnodup : ks.Nodup) (s : σ) (k : κ) :
    view (ks.foldl step s) k = if k ∈ ks then g k (view s k) else view s k := by
  induction ks generalizing s with
  | nil => simp
  | cons k₀ ks ih =>
      obtain ⟨hfresh, hrest⟩ := List.nodup_cons.mp hnodup
      rw [List.foldl_cons, ih hrest, hstep]
      by_cases hk : k = k₀
      · subst hk
        simp [hfresh]
      · simp [hk]

/-- A loop each turn of which only adds: what is there at the end was there, or some
turn added it. -/
theorem foldl_adds {σ β γ : Type} {step : σ → β → σ} {P : σ → γ → Prop} {Q : β → γ → Prop}
    (hstep : ∀ s b c, P (step s b) c ↔ P s c ∨ Q b c) (bs : List β) (s : σ) (c : γ) :
    P (bs.foldl step s) c ↔ P s c ∨ ∃ b ∈ bs, Q b c := by
  induction bs generalizing s with
  | nil => simp
  | cons b bs ih =>
      calc
        P ((b :: bs).foldl step s) c
            ↔ P (step s b) c ∨ ∃ b' ∈ bs, Q b' c := ih (step s b)
        _ ↔ (P s c ∨ Q b c) ∨ ∃ b' ∈ bs, Q b' c := by rw [hstep]
        _ ↔ P s c ∨ ∃ b' ∈ b :: bs, Q b' c := by rw [or_assoc, List.exists_mem_cons_iff]

theorem mem_keys_insert {t : Table κ α} {k k' : κ} {v : α} :
    k' ∈ (t.insert k v).keys ↔ k' ∈ t.keys ∨ k = k' := by
  rw [← AList.mem_keys, AList.mem_insert, AList.mem_keys, or_comm, eq_comm]

omit [DecidableEq κ] in
theorem count_perm {t t' : Table κ α} (h : t.entries.Perm t'.entries)
    (p : α → Bool) : count p t = count p t' :=
  h.countP_eq _

/-! ## Loops that a change of the table ends -/

/-- Visit the keys in turn, up to the first visit that does not keep `same`. -/
def visitWhile {σ κ : Type} (same : σ → σ → Prop) [DecidableRel same] (visit : σ → κ → σ) :
    List κ → σ → σ
  | [], s => s
  | k :: ks, s =>
      if same s (visit s k) then visitWhile same visit ks (visit s k) else visit s k

section VisitWhile

variable {σ κ : Type} {same : σ → σ → Prop} [DecidableRel same] {visit : σ → κ → σ}

/-- The keys that are visited come first, and where some are left out the last
visit is the only one that did not keep `same`. -/
theorem visitWhile_split (ks : List κ) (s : σ) :
    ∃ done rest, ks = done ++ rest ∧ visitWhile same visit ks s = done.foldl visit s ∧
      (rest ≠ [] → ∃ before k, done = before ++ [k] ∧
        ¬same (before.foldl visit s) (done.foldl visit s)) := by
  induction ks generalizing s with
  | nil => exact ⟨[], [], rfl, rfl, fun hne => absurd rfl hne⟩
  | cons k ks ih =>
      rw [visitWhile]
      split
      next hsame =>
        obtain ⟨done, rest, rfl, hfold, hlast⟩ := ih (visit s k)
        refine ⟨k :: done, rest, rfl, hfold, fun hne => ?_⟩
        obtain ⟨before, k', rfl, hchanged⟩ := hlast hne
        exact ⟨k :: before, k', rfl, hchanged⟩
      next hchanged => exact ⟨[k], ks, rfl, rfl, fun _ => ⟨[], k, rfl, hchanged⟩⟩

/-- What every visit keeps, the loop keeps. -/
theorem visitWhile_keeps {I : σ → Prop} {ks : List κ} {s : σ}
    (hvisit : ∀ s, ∀ k ∈ ks, I s → I (visit s k)) (h : I s) : I (visitWhile same visit ks s) := by
  induction ks generalizing s with
  | nil => exact h
  | cons k ks ih =>
      have hfirst := hvisit s k List.mem_cons_self h
      rw [visitWhile]
      split
      · exact ih (fun s k hk => hvisit s k (List.mem_cons_of_mem _ hk)) hfirst
      · exact hfirst

end VisitWhile

/-! ## Sums over the entries -/

def total (f : α → Nat) (t : Table κ α) : Nat := (t.entries.map fun e => f e.2).sum

section Total

variable {f : α → Nat} {t : Table κ α} {k : κ} {v : α}

theorem total_eq_erase (f : α → Nat) (h : t.lookup k = some v) :
    total f t = f v + total f (t.erase k) := by
  unfold total
  rw [((entries_perm_erase h).map fun e => f e.2).sum_nat]
  rfl

theorem total_insert (f : α → Nat) (t : Table κ α) (k : κ) (v : α) :
    total f (t.insert k v) = f v + total f (t.erase k) := by
  unfold total
  rw [AList.entries_insert]
  rfl

theorem total_erase_le (f : α → Nat) (t : Table κ α) (k : κ) :
    total f (t.erase k) ≤ total f t := by
  cases h : t.lookup k with
  | none =>
      have hsame : (t.erase k).entries = t.entries :=
        List.kerase_of_notMem_keys (AList.lookup_eq_none.mp h)
      rw [total, hsame, total]
  | some v =>
      rw [total_eq_erase f h]
      omega

theorem total_insert_le (f : α → Nat) (t : Table κ α) (k : κ) (v : α) :
    total f (t.insert k v) ≤ f v + total f t := by
  rw [total_insert]
  have := total_erase_le f t k
  omega

/-- One record is replaced. -/
theorem total_modify (h : t.lookup k = some v) (g : α → α) :
    total f (modify t k g) + f v = total f t + f (g v) := by
  rw [modify_eq_insert h, total_insert, total_eq_erase f h]
  omega

/-- A change of one record that adds at most `n` to it. -/
theorem total_modify_le {g : α → α} {n : Nat} (hg : ∀ v, t.lookup k = some v → f (g v) ≤ f v + n) :
    total f (modify t k g) ≤ total f t + n := by
  cases h : t.lookup k with
  | none =>
      simp only [modify, h]
      omega
  | some v =>
      have hsum := total_modify (f := f) h g
      have := hg v h
      omega

omit [DecidableEq κ] in
theorem total_perm {t' : Table κ α} (h : t.entries.Perm t'.entries) : total f t = total f t' := by
  unfold total
  exact (h.map fun e => f e.2).sum_nat

omit [DecidableEq κ] in
theorem total_empty : total f (∅ : Table κ α) = 0 := rfl

end Total

/-! ## Several tables -/

def allEntries (tables : List (Table κ α)) : List (κ × α) :=
  tables.flatMap fun t => t.entries.map fun e => (e.1, e.2)

/-- The entry that is found first. -/
def lookupFirst (tables : List (Table κ α)) (k : κ) : Option α :=
  tables.findSome? fun t => t.lookup k

@[simp] theorem lookupFirst_nil (k : κ) : lookupFirst ([] : List (Table κ α)) k = none := rfl

@[simp] theorem lookupFirst_cons (t : Table κ α) (tables : List (Table κ α)) (k : κ) :
    lookupFirst (t :: tables) k = (t.lookup k).or (lookupFirst tables k) := by
  rw [lookupFirst, List.findSome?_cons]
  cases t.lookup k with
  | none => rfl
  | some v => rfl

/-- No key is in two of the tables. -/
def Apart (tables : List (Table κ α)) : Prop :=
  tables.Pairwise fun t t' => ∀ k v, t.lookup k = some v → t'.lookup k = none

theorem mem_entries_iff {t : Table κ α} {k : κ} {v : α} :
    (k, v) ∈ (t.entries.map fun e => (e.1, e.2)) ↔ t.lookup k = some v := by
  rw [List.mem_map]
  constructor
  · intro ⟨e, he, heq⟩
    obtain ⟨rfl, rfl⟩ := Prod.mk.inj heq
    exact lookup_of_mem_entries he
  · intro hlookup
    exact ⟨⟨k, v⟩, AList.mem_lookup_iff.mp hlookup, rfl⟩

/-- Where the tables are apart, the order of the search does not matter. -/
theorem mem_allEntries {tables : List (Table κ α)} (hapart : Apart tables) {k : κ} {v : α} :
    (k, v) ∈ allEntries tables ↔ lookupFirst tables k = some v := by
  induction tables with
  | nil => simp [allEntries, lookupFirst]
  | cons t tables ih =>
      obtain ⟨hfirst, hrest⟩ := List.pairwise_cons.mp hapart
      have hlater : (k, v) ∈ allEntries tables ↔ lookupFirst tables k = some v := ih hrest
      rw [allEntries, List.flatMap_cons, List.mem_append, mem_entries_iff, lookupFirst,
        List.findSome?_cons]
      cases ht : t.lookup k with
      | none => exact ⟨fun h => hlater.mp (h.resolve_left (by simp)), fun h => .inr (hlater.mpr h)⟩
      | some v' =>
          have hnone : ¬(k, v) ∈ allEntries tables := by
            intro hmem
            obtain ⟨t', ht', hlookup⟩ := List.exists_of_findSome?_eq_some (hlater.mp hmem)
            rw [hfirst t' ht' k v' ht] at hlookup
            cases hlookup
          exact ⟨fun h => h.resolve_right hnone, .inl⟩

theorem nodup_allEntries {tables : List (Table κ α)} (hapart : Apart tables) :
    ((allEntries tables).map Prod.fst).Nodup := by
  induction tables with
  | nil => exact List.nodup_nil
  | cons t tables ih =>
      obtain ⟨hfirst, hrest⟩ := List.pairwise_cons.mp hapart
      have hkeys : (t.entries.map fun e => (e.1, e.2)).map Prod.fst = t.keys := by
        rw [List.map_map]
        rfl
      rw [allEntries, List.flatMap_cons, List.map_append, hkeys, List.nodup_append]
      refine ⟨t.nodupKeys, ih hrest, fun k hk k' hk' heq => ?_⟩
      subst heq
      obtain ⟨v, hv⟩ := mem_keys_iff.mp hk
      obtain ⟨⟨_, v'⟩, hmem, rfl⟩ := List.mem_map.mp hk'
      obtain ⟨t', ht', hlookup⟩ :=
        List.exists_of_findSome?_eq_some ((mem_allEntries hrest).mp hmem)
      rw [hfirst t' ht' _ v hv] at hlookup
      cases hlookup

end Assoc
