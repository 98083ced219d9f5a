import Mathlib.Data.List.Nodup
import Mathlib.Data.Set.Insert
import Mathlib.Logic.Function.Basic
import Mathlib.Order.BooleanAlgebra.Set

/-!
# Rosters

Who is there, and at which addresses.  A name is entered when it is first announced, and
stays on trial until it is confirmed or discarded.  A confirmed name that is withdrawn
from its last address is struck out; one on trial keeps its entry, without an address.
-/

structure Roster.Entry (α : Type*) where
  confirmed : Bool := false
  addresses : List α

/-- A roster of names with addresses. -/
def Roster (ν α : Type*) : Type _ := ν → Option (Roster.Entry α)

namespace Roster

variable {ν α : Type*}

def empty : Roster ν α := fun _ => none

/-- The names, each with the addresses it is found at. -/
def contacts (r : Roster ν α) : Set (ν × α) :=
  {p | ∃ e, r p.1 = some e ∧ p.2 ∈ e.addresses}

def Distinct (r : Roster ν α) : Prop := ∀ n e, r n = some e → e.addresses.Nodup

/-- A name that is confirmed has an address. -/
def Located (r : Roster ν α) : Prop :=
  ∀ n e, r n = some e → e.confirmed = true → e.addresses ≠ []

theorem mem_contacts {r : Roster ν α} {n : ν} {a : α} :
    (n, a) ∈ r.contacts ↔ ∃ e, r n = some e ∧ a ∈ e.addresses := Iff.rfl

theorem contacts_empty : (empty : Roster ν α).contacts = ∅ := by
  ext p
  simp [contacts, empty]

theorem distinct_empty : (empty : Roster ν α).Distinct := by simp [Distinct, empty]

theorem located_empty : (empty : Roster ν α).Located := by simp [Located, empty]

variable [DecidableEq ν]

def put (r : Roster ν α) (n : ν) (e : Option (Entry α)) : Roster ν α := Function.update r n e

theorem put_apply (r : Roster ν α) (n : ν) (e : Option (Entry α)) (m : ν) :
    r.put n e m = if m = n then e else r m := Function.update_apply r n e m

theorem put_put (r : Roster ν α) (n : ν) (e e' : Option (Entry α)) :
    (r.put n e).put n e' = r.put n e' := by
  funext m
  rw [put_apply, put_apply, put_apply]
  split <;> rfl

theorem Distinct.put {r : Roster ν α} (h : r.Distinct) {n : ν} {e : Option (Entry α)}
    (he : ∀ e', e = some e' → e'.addresses.Nodup) : (r.put n e).Distinct := by
  intro m e' hm
  rw [put_apply] at hm
  split at hm
  · exact he e' hm
  · exact h m e' hm

theorem Located.put {r : Roster ν α} (h : r.Located) {n : ν} {e : Option (Entry α)}
    (he : ∀ e', e = some e' → e'.confirmed = true → e'.addresses ≠ []) : (r.put n e).Located := by
  intro m e' hm
  rw [put_apply] at hm
  split at hm
  · exact he e' hm
  · exact h m e' hm

/-- The contacts of another name stay, and those of the name are what its entry has. -/
theorem mem_contacts_put {r : Roster ν α} {n m : ν} {e : Option (Entry α)} {a : α} :
    (m, a) ∈ (r.put n e).contacts ↔
      if m = n then ∃ e', e = some e' ∧ a ∈ e'.addresses else (m, a) ∈ r.contacts := by
  rw [mem_contacts, put_apply]
  split <;> rfl

/-! ## Confirming and discarding -/

/-- The trial of a name ends well. -/
def confirm (n : ν) (r : Roster ν α) : Roster ν α :=
  r.put n ((r n).map fun e => { e with confirmed := true })

/-- The trial of a name ends badly. -/
def discard (n : ν) (r : Roster ν α) : Roster ν α := r.put n none

theorem contacts_confirm (n : ν) (r : Roster ν α) : (r.confirm n).contacts = r.contacts := by
  ext ⟨m, a⟩
  rw [confirm, mem_contacts_put]
  split
  next hm =>
    subst hm
    cases hr : r m <;> simp [mem_contacts, hr]
  · rfl

theorem contacts_discard (n : ν) (r : Roster ν α) :
    (r.discard n).contacts = r.contacts \ {p | p.1 = n} := by
  ext ⟨m, a⟩
  rw [discard, mem_contacts_put]
  split
  next hm => simp [hm]
  next hm => simp [hm]

/-- Nothing is lost by discarding a name that has no address, and only by that. -/
theorem contacts_discard_eq_iff {n : ν} {r : Roster ν α} :
    (r.discard n).contacts = r.contacts ↔ ∀ a, (n, a) ∉ r.contacts := by
  rw [contacts_discard, sdiff_eq_left, Set.disjoint_right]
  constructor
  · exact fun h a => h rfl
  · rintro h ⟨m, a⟩ rfl
    exact h a

theorem Distinct.confirm {r : Roster ν α} (h : r.Distinct) (n : ν) : (r.confirm n).Distinct := by
  refine h.put fun e' he' => ?_
  obtain ⟨e, he, rfl⟩ := Option.map_eq_some_iff.mp he'
  exact h n e he

theorem Distinct.discard {r : Roster ν α} (h : r.Distinct) (n : ν) : (r.discard n).Distinct :=
  h.put fun _ he => absurd he (by simp)

/-- What is confirmed must have an address. -/
theorem Located.confirm {r : Roster ν α} (h : r.Located) {n : ν}
    (hn : ∀ e, r n = some e → e.addresses ≠ []) : (r.confirm n).Located := by
  refine h.put fun e' he' _ => ?_
  obtain ⟨e, he, rfl⟩ := Option.map_eq_some_iff.mp he'
  exact hn e he

theorem Located.discard {r : Roster ν α} (h : r.Located) (n : ν) : (r.discard n).Located :=
  h.put fun _ he => absurd he (by simp)

/-! ## Announcing and withdrawing -/

variable [DecidableEq α]

/-- A name is there at an address. -/
def announce (n : ν) (a : α) (r : Roster ν α) : Roster ν α :=
  match r n with
  | none => r.put n (some { addresses := [a] })
  | some e =>
      if a ∈ e.addresses then r
      else r.put n (some { e with addresses := e.addresses ++ [a] })

/-- A name is no more at an address. -/
def withdraw (n : ν) (a : α) (r : Roster ν α) : Roster ν α :=
  match r n with
  | none => r
  | some e =>
      if a ∈ e.addresses then
        let addresses := e.addresses.erase a
        if addresses = [] ∧ e.confirmed = true then r.put n none
        else r.put n (some { e with addresses := addresses })
      else r

theorem contacts_announce (n : ν) (a : α) (r : Roster ν α) :
    (r.announce n a).contacts = insert (n, a) r.contacts := by
  ext ⟨m, b⟩
  rw [Set.mem_insert_iff, Prod.mk.injEq, announce]
  split
  next hr =>
    rw [mem_contacts_put]
    split
    next hm => simp [hm, mem_contacts, hr]
    next hm => simp [hm]
  next e hr =>
    split
    next ha =>
      refine ⟨.inr, fun h => h.elim ?_ id⟩
      rintro ⟨rfl, rfl⟩
      exact ⟨e, hr, ha⟩
    · rw [mem_contacts_put]
      split
      next hm =>
        subst hm
        simp [mem_contacts, hr, or_comm]
      next hm => simp [hm]

theorem contacts_withdraw {r : Roster ν α} (hr : r.Distinct) (n : ν) (a : α) :
    (r.withdraw n a).contacts = r.contacts \ {(n, a)} := by
  ext ⟨m, b⟩
  rw [Set.mem_sdiff, Set.mem_singleton_iff, Prod.mk.injEq, withdraw]
  split
  next hn =>
    refine ⟨fun h => ⟨h, ?_⟩, And.left⟩
    rintro ⟨rfl, -⟩
    obtain ⟨e, he, -⟩ := h
    exact absurd (hn.symm.trans he) (by simp)
  next e hn =>
    have herase : ∀ b, b ∈ e.addresses.erase a ↔ b ∈ e.addresses ∧ b ≠ a := fun b => by
      rw [(hr n e hn).mem_erase_iff, and_comm]
    split
    next ha =>
      dsimp only
      split
      next hlast =>
        rw [mem_contacts_put]
        split
        next hm =>
          subst hm
          have hnone := herase b
          rw [hlast.1] at hnone
          simp only [List.not_mem_nil, false_iff] at hnone
          simp only [reduceCtorEq, false_and, exists_false, false_iff]
          rintro ⟨⟨e', he', hb⟩, hne⟩
          obtain rfl := Option.some.inj (hn.symm.trans he')
          exact hnone ⟨hb, fun heq => hne ⟨trivial, heq⟩⟩
        next hm => simp [hm]
      · rw [mem_contacts_put]
        split
        next hm =>
          subst hm
          simp [mem_contacts, hn, herase]
        next hm => simp [hm]
    next ha =>
      refine ⟨fun h => ⟨h, ?_⟩, And.left⟩
      rintro ⟨rfl, rfl⟩
      obtain ⟨e', he', hb⟩ := h
      obtain rfl := Option.some.inj (hn.symm.trans he')
      exact ha hb

theorem Distinct.announce {r : Roster ν α} (h : r.Distinct) (n : ν) (a : α) :
    (r.announce n a).Distinct := by
  unfold Roster.announce
  split
  · refine h.put fun e' he' => ?_
    obtain rfl := Option.some.inj he'
    exact List.nodup_singleton a
  next e hn =>
    split
    · exact h
    next ha =>
      refine h.put fun e' he' => ?_
      obtain rfl := Option.some.inj he'
      exact List.nodup_append.mpr ⟨h n e hn, List.nodup_singleton a, fun b hb c hc heq =>
        ha (by rw [← List.mem_singleton.mp hc, ← heq]; exact hb)⟩

theorem Distinct.withdraw {r : Roster ν α} (h : r.Distinct) (n : ν) (a : α) :
    (r.withdraw n a).Distinct := by
  unfold Roster.withdraw
  split
  · exact h
  next e hn =>
    split
    · dsimp only
      split
      · exact h.put fun _ he => absurd he (by simp)
      · refine h.put fun e' he' => ?_
        obtain rfl := Option.some.inj he'
        exact (h n e hn).erase a
    · exact h

theorem Located.announce {r : Roster ν α} (h : r.Located) (n : ν) (a : α) :
    (r.announce n a).Located := by
  unfold Roster.announce
  split
  · refine h.put fun e' he' _ => ?_
    obtain rfl := Option.some.inj he'
    simp
  · split
    · exact h
    · refine h.put fun e' he' _ => ?_
      obtain rfl := Option.some.inj he'
      simp

theorem Located.withdraw {r : Roster ν α} (h : r.Located) (n : ν) (a : α) :
    (r.withdraw n a).Located := by
  unfold Roster.withdraw
  split
  · exact h
  · split
    · dsimp only
      split
      · exact h.put fun _ he => absurd he (by simp)
      next hlast =>
        refine h.put fun e' he' hconfirmed => ?_
        obtain rfl := Option.some.inj he'
        exact fun hnil => hlast ⟨hnil, hconfirmed⟩
    · exact h

end Roster
