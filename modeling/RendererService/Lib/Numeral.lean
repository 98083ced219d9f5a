import Mathlib.Data.List.DropRight
import Mathlib.Data.List.TakeWhile
import RendererService.Lib.Decimal

/-!
# Numbers in text

Decimal numbers as programs write them: digits, perhaps with a sign, perhaps
between blanks.  Each form is a relation between a text and its number, and the
lemmas say where the scanners of a library stop.
-/

namespace Numeral

/-! ## Digits and signs -/

structure Digits (l : List Char) : Prop where
  ne_nil : l ≠ []
  digit : ∀ c ∈ l, c.isDigit = true

instance (l : List Char) : Decidable (Digits l) :=
  decidable_of_iff (l ≠ [] ∧ l.all Char.isDigit = true)
    ⟨fun h => ⟨h.1, List.all_eq_true.mp h.2⟩, fun h => ⟨h.ne_nil, List.all_eq_true.mpr h.digit⟩⟩

def value (l : List Char) : ℕ := Nat.ofDigitChars 10 l 0

inductive Signed : List Char → ℤ → Prop
  | unsigned {l : List Char} : Digits l → Signed l (value l)
  | plus {l : List Char} : Digits l → Signed ('+' :: l) (value l)
  | minus {l : List Char} : Digits l → Signed ('-' :: l) (-(value l))

def Padded (blank : Char → Bool) (l : List Char) (n : ℤ) : Prop :=
  ∃ pre num post, (∀ c ∈ pre, blank c = true) ∧ Signed num n ∧ (∀ c ∈ post, blank c = true) ∧
    l = pre ++ num ++ post

/-- What follows a number does not go on with a digit. -/
def Stops (rest : List Char) : Prop := ∀ c ∈ rest.head?, c.isDigit = false

theorem stops_nil : Stops [] := by simp [Stops]

theorem stops_cons {c : Char} (h : c.isDigit = false) (rest : List Char) : Stops (c :: rest) := by
  intro c' hc'
  rwa [← Option.some.inj hc']

theorem stops_of_forall {l : List Char} (hl : ∀ c ∈ l, c.isDigit = false) : Stops l :=
  fun c hc => hl c (List.mem_of_mem_head? hc)

theorem Stops.append {l rest : List Char} (hl : Stops l) (hrest : Stops rest) :
    Stops (l ++ rest) := by
  cases l with
  | nil => exact hrest
  | cons c l => exact stops_cons (hl c rfl) _

theorem Digits.takeWhile_append {l rest : List Char} (h : Digits l) (hrest : Stops rest) :
    (l ++ rest).takeWhile Char.isDigit = l := by
  rw [List.takeWhile_append_of_pos h.digit]
  cases rest with
  | nil => simp
  | cons c rest =>
      have hc := hrest c rfl
      simp [hc]

theorem Digits.not_mem {l : List Char} (h : Digits l) {c : Char} (hc : c.isDigit = false) :
    c ∉ l := by
  intro hmem
  simp [h.digit c hmem] at hc

theorem Signed.ne_nil {l : List Char} {n : ℤ} (h : Signed l n) : l ≠ [] := by
  cases h with
  | unsigned hdigits => exact hdigits.ne_nil
  | plus _ => exact List.cons_ne_nil _ _
  | minus _ => exact List.cons_ne_nil _ _

theorem Signed.mem {l : List Char} {n : ℤ} (h : Signed l n) {c : Char} (hc : c ∈ l) :
    c.isDigit = true ∨ c = '+' ∨ c = '-' := by
  cases h with
  | unsigned hdigits => exact .inl (hdigits.digit c hc)
  | plus hdigits =>
      rcases List.mem_cons.mp hc with rfl | hc
      · exact .inr (.inl rfl)
      · exact .inl (hdigits.digit c hc)
  | minus hdigits =>
      rcases List.mem_cons.mp hc with rfl | hc
      · exact .inr (.inr rfl)
      · exact .inl (hdigits.digit c hc)

theorem Signed.getLast_digit {l : List Char} {n : ℤ} (h : Signed l n) :
    (l.getLast h.ne_nil).isDigit = true := by
  cases h with
  | unsigned hdigits => exact hdigits.digit _ (List.getLast_mem hdigits.ne_nil)
  | plus hdigits =>
      rw [List.getLast_cons hdigits.ne_nil]
      exact hdigits.digit _ (List.getLast_mem hdigits.ne_nil)
  | minus hdigits =>
      rw [List.getLast_cons hdigits.ne_nil]
      exact hdigits.digit _ (List.getLast_mem hdigits.ne_nil)

/-- A character that is neither blank nor part of a number. -/
theorem Padded.not_mem {blank : Char → Bool} {l : List Char} {n : ℤ} (h : Padded blank l n)
    {c : Char} (hblank : blank c = false) (hdigit : c.isDigit = false) (hplus : c ≠ '+')
    (hminus : c ≠ '-') : c ∉ l := by
  obtain ⟨pre, num, post, hpre, hnum, hpost, rfl⟩ := h
  rw [List.append_assoc, List.mem_append, List.mem_append]
  rintro (hc | hc | hc)
  · simp [hpre c hc] at hblank
  · rcases hnum.mem hc with hc | hc | hc
    · simp [hc] at hdigit
    · exact hplus hc
    · exact hminus hc
  · simp [hpost c hc] at hblank

/-! ## Printing -/

theorem digits_toString (n : ℕ) : Digits (toString n).toList where
  ne_nil := by
    rw [Nat.toString_eq_repr, Nat.toList_repr]
    exact Nat.toDigits_ne_nil
  digit _ hc := Decimal.isDigit_of_mem_toString hc

theorem value_toString (n : ℕ) : value (toString n).toList = n := by
  rw [value, Nat.toString_eq_repr, Nat.toList_repr]
  exact Nat.ofDigitChars_toDigits (by decide) (by decide)

/-- A leading zero does not change a number. -/
theorem value_zero_cons (l : List Char) : value ('0' :: l) = value l := rfl

/-! ## Trimming -/

/-- Blanks are taken off both ends. -/
def trim (p : Char → Bool) (l : List Char) : List Char :=
  ((l.dropWhile p).reverse.dropWhile p).reverse

theorem dropWhile_append_core {p : Char → Bool} (pre : List Char) {core : List Char}
    (hfirst : ∀ c ∈ core.head?, p c = false) :
    (pre ++ core).dropWhile p = pre.dropWhile p ++ core := by
  have hcore : core.dropWhile p = core := by
    cases core with
    | nil => rfl
    | cons c core => simp [hfirst c rfl]
  rw [List.dropWhile_append]
  split
  next hempty =>
    rw [hcore, List.isEmpty_iff.mp hempty]
    rfl
  · rfl

/-- What stands between a first and a last character that are not blank stays. -/
theorem trim_append {p : Char → Bool} (pre : List Char) {core : List Char} (post : List Char)
    (hne : core ≠ []) (hfirst : p (core.head hne) = false) (hlast : p (core.getLast hne) = false) :
    trim p (pre ++ core ++ post) = pre.dropWhile p ++ core ++ post.rdropWhile p := by
  have hleft : ∀ c ∈ (core ++ post).head?, p c = false := by
    intro c hc
    rw [List.head?_append_of_ne_nil core hne, List.head?_eq_some_head hne] at hc
    rwa [← Option.some.inj hc]
  have hright : ∀ c ∈ (core.reverse ++ (pre.dropWhile p).reverse).head?, p c = false := by
    intro c hc
    have hne' : core.reverse ≠ [] := List.reverse_ne_nil_iff.mpr hne
    rw [List.head?_append_of_ne_nil _ hne', List.head?_reverse, List.getLast?_eq_some_getLast hne]
      at hc
    rwa [← Option.some.inj hc]
  rw [trim, List.append_assoc, dropWhile_append_core pre hleft, List.reverse_append,
    List.reverse_append, List.append_assoc, dropWhile_append_core post.reverse hright]
  simp [List.rdropWhile]

end Numeral
