import RendererService.Lib.Numeral
import RendererService.Model.Values

/-!
# Reading numbers

What `strtol`, `atoi` and the functions that split strings make of numbers that
stand between blanks.
-/

namespace RendererService

open Numeral

/-! ## strtol and atoi -/

/-- The numbers of a `long`, and of an `int`. -/
def InLong (n : ℤ) : Prop := longMin ≤ n ∧ n ≤ longMax
def InInt (n : ℤ) : Prop := -2 ^ 31 ≤ n ∧ n < 2 ^ 31

instance (n : ℤ) : Decidable (InLong n) := inferInstanceAs (Decidable (_ ∧ _))
instance (n : ℤ) : Decidable (InInt n) := inferInstanceAs (Decidable (_ ∧ _))

theorem InInt.inLong {n : ℤ} (h : InInt n) : InLong n := by
  obtain ⟨hlow, hhigh⟩ := h
  constructor
  · rw [longMin]
    omega
  · rw [longMax]
    omega

theorem InInt.bmod {n : ℤ} (h : InInt n) : n.bmod (2 ^ 32) = n := by
  obtain ⟨hlow, hhigh⟩ := h
  rw [Int.bmod_eq_of_le]
  · omega
  · omega

theorem digitsValue_append {l rest : List Char} (h : Digits l) (hrest : Stops rest) :
    digitsValue (l ++ rest) = value l := by
  rw [digitsValue, h.takeWhile_append hrest]
  rfl

theorem toNat_of_isDigit {c : Char} (h : c.isDigit = true) : 48 ≤ c.toNat ∧ c.toNat ≤ 57 := by
  simp only [Char.isDigit, Bool.and_eq_true, decide_eq_true_eq] at h
  exact ⟨UInt32.le_iff_toNat_le.mp h.1, UInt32.le_iff_toNat_le.mp h.2⟩

theorem isSpace_of_isDigit {c : Char} (h : c.isDigit = true) : isSpace c = false := by
  obtain ⟨hlow, hhigh⟩ := toNat_of_isDigit h
  rw [isSpace, decide_eq_false_iff_not]
  rintro (rfl | ⟨-, hle⟩)
  · revert hlow
    decide
  · omega

theorem not_isDigit_of_isSpace {c : Char} (h : isSpace c = true) : c.isDigit = false := by
  by_contra hdigit
  rw [Bool.not_eq_false] at hdigit
  simp [isSpace_of_isDigit hdigit] at h

theorem isSpace_of_gAsciiIsSpace {c : Char} (h : gAsciiIsSpace c = true) : isSpace c = true := by
  rw [gAsciiIsSpace, decide_eq_true_eq] at h
  rw [isSpace, decide_eq_true_eq]
  rcases h with rfl | rfl | rfl | rfl | h
  · exact .inl rfl
  · exact .inr (by decide)
  · exact .inr (by decide)
  · exact .inr (by decide)
  · exact .inr (by omega)

theorem not_isSpace_of_signed {num : List Char} {n : ℤ} (h : Signed num n) {c : Char}
    (hc : c ∈ num) :
    isSpace c = false := by
  rcases h.mem hc with hdigit | rfl | rfl
  · exact isSpace_of_isDigit hdigit
  · decide
  · decide

theorem clamp_inLong {n : ℤ} (hn : InLong n) : max longMin (min n longMax) = n := by
  rw [min_eq_left hn.2, max_eq_right hn.1]

theorem strtol_signed {num rest : List Char} {n : ℤ} (hnum : Signed num n) (hrest : Stops rest)
    (hn : InLong n) : strtol (num ++ rest) = n := by
  have hstart : (num ++ rest).dropWhile isSpace = num ++ rest := by
    obtain ⟨c, num', rfl⟩ := List.exists_cons_of_ne_nil hnum.ne_nil
    have hc := not_isSpace_of_signed hnum List.mem_cons_self
    simp [hc]
  rw [strtol, hstart]
  cases hnum with
  | unsigned hdigits =>
      have hfirst : ∀ c tail, c.isDigit = false → num ++ rest ≠ c :: tail := by
        intro c tail hc heq
        obtain ⟨d, num', rfl⟩ := List.exists_cons_of_ne_nil hdigits.ne_nil
        obtain ⟨rfl, -⟩ := List.cons.inj heq
        simp [hdigits.digit d List.mem_cons_self] at hc
      split
      next heq => exact absurd heq (hfirst _ _ (by decide))
      next heq => exact absurd heq (hfirst _ _ (by decide))
      · rw [digitsValue_append hdigits hrest]
        exact clamp_inLong hn
  | plus hdigits =>
      show max longMin (min (digitsValue (_ ++ rest) : ℤ) longMax) = _
      rw [digitsValue_append hdigits hrest]
      exact clamp_inLong hn
  | minus hdigits =>
      show max longMin (min (-(digitsValue (_ ++ rest) : ℤ)) longMax) = _
      rw [digitsValue_append hdigits hrest]
      exact clamp_inLong hn

theorem strtol_blank {pre : List Char} (hpre : ∀ c ∈ pre, isSpace c = true) (s : List Char) :
    strtol (pre ++ s) = strtol s := by
  rw [strtol, List.dropWhile_append_of_pos hpre]
  rfl

theorem stops_of_blank {post : List Char} (hpost : ∀ c ∈ post, isSpace c = true) : Stops post :=
  stops_of_forall fun c hc => not_isDigit_of_isSpace (hpost c hc)

/-- What follows a number between blanks does not go on with a digit. -/
theorem strtol_padded {l rest : List Char} {n : ℤ} (h : Padded isSpace l n) (hrest : Stops rest)
    (hn : InLong n) : strtol (l ++ rest) = n := by
  obtain ⟨pre, num, post, hpre, hnum, hpost, rfl⟩ := h
  have hstops : Stops (post ++ rest) := (stops_of_blank hpost).append hrest
  rw [List.append_assoc, List.append_assoc, strtol_blank hpre]
  exact strtol_signed hnum hstops hn

/-! ## Stripped fields -/

theorem toList_gStrstrip (s : String) : (gStrstrip s).toList = trim gAsciiIsSpace s.toList := by
  rw [gStrstrip, String.toList_ofList, trim]

/-- A field that holds a number, and perhaps more, between blanks. -/
theorem atoi_gStrstrip {pre num core post : List Char} {n : ℤ}
    (hpre : ∀ c ∈ pre, isSpace c = true) (hnum : Signed num n) (hcore : Stops core)
    (hlast : ∀ c ∈ core.getLast?, isSpace c = false) (hpost : ∀ c ∈ post, isSpace c = true)
    (hn : InInt n) :
    atoi (gStrstrip (String.ofList (pre ++ (num ++ core) ++ post))) = n := by
  have hne : num ++ core ≠ [] := List.append_ne_nil_of_left_ne_nil hnum.ne_nil core
  have hkept : ∀ {c}, isSpace c = false → gAsciiIsSpace c = false := by
    intro c hc
    by_contra hspace
    rw [Bool.not_eq_false] at hspace
    simp [isSpace_of_gAsciiIsSpace hspace] at hc
  have hfirst : gAsciiIsSpace ((num ++ core).head hne) = false := by
    apply hkept
    rw [List.head_append_of_ne_nil hnum.ne_nil]
    exact not_isSpace_of_signed hnum (List.head_mem _)
  have hend : gAsciiIsSpace ((num ++ core).getLast hne) = false := by
    apply hkept
    by_cases hempty : core = []
    · subst hempty
      simp only [List.append_nil]
      exact isSpace_of_isDigit hnum.getLast_digit
    · rw [List.getLast_append_of_ne_nil _ hempty]
      exact hlast _ (List.getLast?_eq_some_getLast hempty)
  have hblank : ∀ c ∈ post.rdropWhile gAsciiIsSpace, isSpace c = true :=
    fun c hc => hpost c ((List.rdropWhile_prefix _ _).mem hc)
  have hstart : ∀ c ∈ pre.dropWhile gAsciiIsSpace, isSpace c = true :=
    fun c hc => hpre c ((List.dropWhile_suffix _).mem hc)
  rw [atoi, toList_gStrstrip, String.toList_ofList, trim_append pre post hne hfirst hend,
    List.append_assoc, List.append_assoc, strtol_blank hstart,
    strtol_signed hnum (hcore.append (stops_of_blank hblank)) hn.inLong, hn.bmod]

theorem atoi_gStrstrip_padded {l : List Char} {n : ℤ} (h : Padded isSpace l n) (hn : InInt n) :
    atoi (gStrstrip (String.ofList l)) = n := by
  obtain ⟨pre, num, post, hpre, hnum, hpost, rfl⟩ := h
  have hfield := atoi_gStrstrip hpre hnum stops_nil (by simp) hpost hn
  rwa [List.append_nil] at hfield

/-! ## Split strings -/

theorem gStrsplit_of_ne_nil {s : String} {c : Char} (h : s.toList ≠ []) :
    gStrsplit s c = (s.toList.splitOn c).map String.ofList :=
  if_neg h

/-! ## Fractions -/

inductive IsFraction (text : String) : ℤ → ℤ → Prop
  | whole {p : ℤ} : Padded isSpace text.toList p → InLong p → IsFraction text p 1
  | fraction {l r : List Char} {p q : ℤ} :
      text.toList = l ++ '/' :: r → Padded isSpace l p → Padded isSpace r q → InLong p →
      InLong q → IsFraction text p q

theorem slash_not_mem {l : List Char} {n : ℤ} (h : Padded isSpace l n) : '/' ∉ l :=
  h.not_mem (by decide) (by decide) (by decide) (by decide)

theorem strtol_whole {l : List Char} {n : ℤ} (h : Padded isSpace l n) (hn : InLong n) :
    strtol l = n := by
  have hread := strtol_padded h stops_nil hn
  rwa [List.append_nil] at hread

theorem prvRational_eq {text : String} {p q : ℤ} (h : IsFraction text p q) :
    prvRationalGetNumerator text = p ∧ prvRationalGetDenominator text = q := by
  cases h with
  | whole hpad hp =>
      have hslash : text.toList.dropWhile (· ≠ '/') = [] := by
        rw [List.dropWhile_eq_nil_iff]
        exact fun c hc => decide_eq_true fun heq => slash_not_mem hpad (heq ▸ hc)
      refine ⟨strtol_whole hpad hp, ?_⟩
      rw [prvRationalGetDenominator, hslash]
  | @fraction l r _ _ htext hl hr hp hq =>
      have hbefore : ∀ c ∈ l, decide (c ≠ '/') = true :=
        fun c hc => decide_eq_true fun heq => slash_not_mem hl (heq ▸ hc)
      have hslash : text.toList.dropWhile (· ≠ '/') = '/' :: r := by
        rw [htext, List.dropWhile_append_of_pos hbefore]
        simp
      constructor
      · rw [prvRationalGetNumerator, htext]
        exact strtol_padded hl (stops_cons (by decide) r) hp
      · rw [prvRationalGetDenominator, hslash]
        exact strtol_whole hr hq

end RendererService
