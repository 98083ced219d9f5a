import RendererService.Properties.Numbers
import RendererService.Model.Properties

/-!
# Durations

`prv_duration_to_int64` reads the durations of UPnP, as in `-1:02:03.4`.  Each
field is multiplied as an `unsigned int`, so that a product wraps at `2 ^ 32`, and
the sign is part of the hours only.
-/

namespace RendererService.Props

open Numeral

/-! ## The form of a duration -/

def Field (l core : List Char) : Prop :=
  ∃ pre post, (∀ c ∈ pre, isSpace c = true) ∧ (∀ c ∈ post, isSpace c = true) ∧
    l = pre ++ core ++ post

def TwoDigits (l : List Char) : Prop := Digits l ∧ l.length = 2

/-- The form `[+|-]H+:MM:SS[.F+]`, with blanks around each field; the sign, and the
numbers of hours, minutes and seconds. -/
inductive IsDuration (duration : String) : Bool → ℕ → ℕ → ℕ → Prop
  | mk {hours minutes seconds sign h m s fraction : List Char} :
      duration.toList = hours ++ ':' :: (minutes ++ ':' :: seconds) →
      Field hours (sign ++ h) → sign = [] ∨ sign = ['+'] ∨ sign = ['-'] → Digits h →
      Field minutes m → TwoDigits m → Field seconds (s ++ fraction) → TwoDigits s →
      (fraction = [] ∨ ∃ digits, fraction = '.' :: digits ∧ Digits digits) →
      IsDuration duration (sign = ['-']) (value h) (value m) (value s)

def microseconds (negative : Bool) (h m s : ℕ) : ℤ :=
  (if negative then -1 else 1) * (3600 * h + 60 * m + s) * 1000000

theorem Field.not_mem {l core : List Char} (h : Field l core) {c : Char}
    (hspace : isSpace c = false) (hcore : c ∉ core) : c ∉ l := by
  obtain ⟨pre, post, hpre, hpost, rfl⟩ := h
  rw [List.append_assoc, List.mem_append, List.mem_append]
  rintro (hc | hc | hc)
  · simp [hpre c hc] at hspace
  · exact hcore hc
  · simp [hpost c hc] at hspace

theorem value_lt_of_twoDigits {l : List Char} (h : TwoDigits l) : value l < 100 := by
  obtain ⟨hdigits, hlength⟩ := h
  obtain ⟨a, b, rfl⟩ := List.length_eq_two.mp hlength
  have ha := toNat_of_isDigit (hdigits.digit a (by simp))
  have hb := toNat_of_isDigit (hdigits.digit b (by simp))
  have hvalue : value [a, b] = 10 * (10 * 0 + (a.toNat - 48)) + (b.toNat - 48) := rfl
  rw [hvalue]
  omega

theorem atoi_field {l num core : List Char} {n : ℤ} (hfield : Field l (num ++ core))
    (hnum : Signed num n) (hcore : core = [] ∨ ∃ digits, core = '.' :: digits ∧ Digits digits)
    (hn : InInt n) : atoi (gStrstrip (String.ofList l)) = n := by
  obtain ⟨pre, post, hpre, hpost, rfl⟩ := hfield
  apply atoi_gStrstrip hpre hnum _ _ hpost hn
  · rcases hcore with rfl | ⟨digits, rfl, -⟩
    · exact stops_nil
    · exact stops_cons (by decide) digits
  · rcases hcore with rfl | ⟨digits, rfl, hdigits⟩
    · simp
    · intro c hc
      rw [List.getLast?_cons_of_ne_nil hdigits.ne_nil] at hc
      exact isSpace_of_isDigit (hdigits.digit c (List.mem_of_getLast? hc))

/-! ## What the code reads -/

theorem prvDurationToInt64_eq {duration : String} {negative : Bool} {h m s : ℕ}
    (hform : IsDuration duration negative h m s) (hh : h < 2 ^ 31) :
    m < 100 ∧ s < 100 ∧ prvDurationToInt64 duration =
      (s + 60 * m + (if negative then -(h : ℤ) else h) * 3600 % 2 ^ 32) * 1000000 := by
  cases hform with
  | @mk hours minutes seconds sign h m s fraction hduration hhours hsign hdigits hminutes hm
      hseconds hs hfraction =>
      have hm100 := value_lt_of_twoDigits hm
      have hs100 := value_lt_of_twoDigits hs
      refine ⟨hm100, hs100, ?_⟩
      have hsigned : Signed (sign ++ h) (if decide (sign = ['-']) then -(value h : ℤ)
          else value h) := by
        rcases hsign with rfl | rfl | rfl
        · exact .unsigned hdigits
        · exact .plus hdigits
        · exact .minus hdigits
      have hint : InInt (if decide (sign = ['-']) then -(value h : ℤ) else value h) := by
        constructor <;> split <;> omega
      have hsmall : ∀ {n : ℕ}, n < 100 → InInt n := by
        intro n hn
        constructor <;> omega
      have hcolon : ∀ {l : List Char} {n : ℤ}, Signed l n → ':' ∉ l := by
        intro l n hl hc
        rcases hl.mem hc with hc | hc | hc
        · exact absurd hc (by decide)
        · exact absurd hc (by decide)
        · exact absurd hc (by decide)
      have hcolon' : ':' ∉ s ++ fraction := by
        rw [List.mem_append, not_or]
        refine ⟨hcolon (.unsigned hs.1), ?_⟩
        rcases hfraction with rfl | ⟨digits, rfl, hF⟩
        · simp
        · rw [List.mem_cons, not_or]
          exact ⟨by decide, hF.not_mem (by decide)⟩
      have hread : gStrsplit duration ':' =
          [String.ofList hours, String.ofList minutes, String.ofList seconds] := by
        rw [gStrsplit_of_ne_nil (by simp [hduration]), hduration,
          List.splitOn_append_cons_self_of_not_mem (hhours.not_mem (by decide) (hcolon hsigned)),
          List.splitOn_append_cons_self_of_not_mem
            (hminutes.not_mem (by decide) (hcolon (.unsigned hm.1))),
          List.splitOn_eq_singleton (hseconds.not_mem (by decide) hcolon')]
        rfl
      rw [← List.append_nil (sign ++ h)] at hhours
      rw [← List.append_nil m] at hminutes
      have hH := atoi_field hhours hsigned (.inl rfl) hint
      have hM := atoi_field hminutes (.unsigned hm.1) (.inl rfl) (hsmall hm100)
      have hS := atoi_field hseconds (.unsigned hs.1) hfraction (hsmall hs100)
      rw [prvDurationToInt64, hread]
      dsimp only
      rw [durationField, durationField, durationField, hH, hM, hS]
      push_cast
      omega

/-- A duration is read as what it says exactly if it is not negative and its hours, as
seconds, are less than `2 ^ 32`, or if it is zero; a string without three fields is read
as zero. -/
theorem prvDurationToInt64_exact (duration : String) :
    (∀ negative h m s, IsDuration duration negative h m s → h < 2 ^ 31 →
      (prvDurationToInt64 duration = microseconds negative h m s ↔
        (negative = false ∧ 3600 * h < 2 ^ 32) ∨ (h = 0 ∧ m = 0 ∧ s = 0)) ∧
      -2 ^ 63 ≤ microseconds negative h m s ∧ microseconds negative h m s < 2 ^ 63) ∧
    ((duration.toList.splitOn ':').length ≠ 3 → prvDurationToInt64 duration = 0) := by
  constructor
  · intro negative h m s hform hh
    obtain ⟨hm, hs, hread⟩ := prvDurationToInt64_eq hform hh
    cases negative with
    | false =>
        rw [if_neg (by decide)] at hread
        simp only [hread, microseconds, Bool.false_eq_true, if_false, true_and]
        clear hread
        omega
    | true =>
        rw [if_pos rfl] at hread
        simp only [hread, microseconds, if_true, reduceCtorEq, false_and, false_or]
        clear hread
        omega
  · intro hfields
    rw [prvDurationToInt64]
    split
    next hours minutes seconds hsplit =>
      unfold gStrsplit at hsplit
      split at hsplit
      · cases hsplit
      · have hlength := congrArg List.length hsplit
        rw [List.length_map] at hlength
        exact absurd hlength hfields
    · rfl

theorem field_self (l : List Char) : Field l l := ⟨[], [], by simp, by simp, by simp⟩

theorem prvDurationToInt64_exact_minute : prvDurationToInt64 "+0: 01 :02.5" = 62000000 := by
  have hform : IsDuration "+0: 01 :02.5" false (value ['0']) (value ['0', '1'])
      (value ['0', '2']) :=
    .mk (by decide) (field_self ("+0".toList)) (.inr (.inl rfl)) (by decide)
      ⟨[' '], [' '], List.all_eq_true.mp rfl, List.all_eq_true.mp rfl, rfl⟩ ⟨by decide, rfl⟩
      (field_self ("02.5".toList)) ⟨by decide, rfl⟩ (.inr ⟨['5'], rfl, by decide⟩)
  have hexact := (prvDurationToInt64_exact _).1 _ _ _ _ hform (by decide)
  exact (hexact.1.mpr (.inl ⟨rfl, by decide⟩)).trans (by decide)

/-- An hour less than zero is read as 2^32 - 3600 seconds, and ten seconds less than zero
as ten seconds. -/
theorem prvDurationToInt64_negative :
    (IsDuration "-1:00:00" true 1 0 0 ∧ prvDurationToInt64 "-1:00:00" = 4294963696000000 ∧
      microseconds true 1 0 0 = -3600000000) ∧
    IsDuration "-0:00:10" true 0 0 10 ∧ prvDurationToInt64 "-0:00:10" = 10000000 ∧
      microseconds true 0 0 10 = -10000000 := by
  have hhour : IsDuration "-1:00:00" true (value ['1']) (value ['0', '0']) (value ['0', '0']) :=
    .mk (by decide) (field_self ("-1".toList)) (.inr (.inr rfl)) (by decide)
      (field_self ("00".toList)) ⟨by decide, rfl⟩ (field_self ("00".toList)) ⟨by decide, rfl⟩
      (.inl rfl)
  have hseconds : IsDuration "-0:00:10" true (value ['0']) (value ['0', '0'])
      (value ['1', '0']) :=
    .mk (by decide) (field_self ("-0".toList)) (.inr (.inr rfl)) (by decide)
      (field_self ("00".toList)) ⟨by decide, rfl⟩ (field_self ("10".toList)) ⟨by decide, rfl⟩
      (.inl rfl)
  exact ⟨⟨hhour, by decide +kernel, by decide⟩, hseconds, by decide +kernel, by decide⟩

end RendererService.Props
