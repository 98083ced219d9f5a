import Mathlib.Data.List.Basic

/-!
# Printed numbers

Nothing but digits and a sign is printed, so a numeral can be told from what
follows it.
-/

namespace Decimal

theorem isDigit_of_mem_toString {n : Nat} {c : Char} (hc : c ∈ (toString n).toList) :
    c.isDigit = true := by
  have hmem : c ∈ Nat.toDigits 10 n := by
    rw [← Nat.toList_repr]
    exact hc
  exact Nat.isDigit_of_mem_toDigits (by decide) (by decide) hmem

theorem toString_negSucc (n : Nat) :
    (toString (Int.negSucc n)).toList = '-' :: (toString (n + 1)).toList := by
  have hprint : toString (Int.negSucc n) = "-" ++ toString (n + 1) := rfl
  rw [hprint, String.toList_append]
  rfl

theorem mem_toString_int {a : Int} {c : Char} (hc : c ∈ (toString a).toList) :
    c = '-' ∨ c.isDigit = true := by
  cases a with
  | ofNat n => exact .inr (isDigit_of_mem_toString hc)
  | negSucc n =>
      rw [toString_negSucc] at hc
      rcases List.mem_cons.mp hc with rfl | hc
      · exact .inl rfl
      · exact .inr (isDigit_of_mem_toString hc)

/-- What stands before the first separator is determined by the whole. -/
theorem append_left_inj_of_sep {α : Type} {sep : α} {x y : List α} :
    ∀ {x' y' : List α}, sep ∉ x → sep ∉ y → (∀ a ∈ x'.head?, a = sep) →
      (∀ a ∈ y'.head?, a = sep) → x ++ x' = y ++ y' → x = y := by
  induction x generalizing y with
  | nil =>
      intro x' y' _ hy hx' _ h
      cases y with
      | nil => rfl
      | cons b y =>
          have hb : b = sep := hx' b (by rw [List.nil_append] at h; simp [h])
          exact absurd hb (fun hb => hy (hb ▸ List.mem_cons_self))
  | cons a x ih =>
      intro x' y' hx hy hx' hy' h
      cases y with
      | nil =>
          have ha : a = sep := hy' a (by rw [List.nil_append] at h; simp [← h])
          exact absurd ha (fun ha => hx (ha ▸ List.mem_cons_self))
      | cons b y =>
          obtain ⟨rfl, hrest⟩ := List.cons.inj h
          rw [ih (fun hmem => hx (List.mem_cons_of_mem a hmem))
            (fun hmem => hy (List.mem_cons_of_mem a hmem)) hx' hy' hrest]

end Decimal
