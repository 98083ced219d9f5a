import RendererService.Model.Service
import RendererService.Properties.Durations

/-!
# The targets of a seek

`prv_int64_to_duration` prints the position of a Seek or a SetPosition, as in
`-1:02:03`.  It counts the seconds in an `unsigned int`, which wraps at `2 ^ 32`.
-/

namespace RendererService.Props

open Numeral

/-! ## The form of a target -/

/-- The form `[-]H+:MM:SS`, with the sign, and the numbers of hours, minutes and
seconds. -/
inductive IsTarget (target : String) : Bool → ℕ → ℕ → ℕ → Prop
  | mk {negative : Bool} {h m s : List Char} :
      target.toList = (if negative then ['-'] else []) ++ h ++ ':' :: (m ++ ':' :: s) →
      Digits h → TwoDigits m → TwoDigits s →
      IsTarget target negative (value h) (value m) (value s)

def wholeSeconds (position : ℤ) : ℕ := position.natAbs / 1000000

def IsTargetOf (position : ℤ) (target : String) : Prop :=
  ∃ h m s, IsTarget target (position < 0) h m s ∧ m < 60 ∧ s < 60 ∧
    3600 * h + 60 * m + s = wholeSeconds position

theorem split_target {sign h m s : List Char} (hsign : ':' ∉ sign) (hh : Digits h)
    (hm : Digits m) (hs : Digits s) :
    (sign ++ h ++ ':' :: (m ++ ':' :: s)).splitOn ':' = [sign ++ h, m, s] := by
  have hcolon : ':' ∉ sign ++ h := by
    rw [List.mem_append, not_or]
    exact ⟨hsign, hh.not_mem (by decide)⟩
  rw [List.splitOn_append_cons_self_of_not_mem hcolon,
    List.splitOn_append_cons_self_of_not_mem (hm.not_mem (by decide)),
    List.splitOn_eq_singleton (hs.not_mem (by decide))]

theorem sign_inj {negative negative' : Bool} {h h' : List Char} (hh : Digits h) (hh' : Digits h')
    (heq : (if negative then ['-'] else []) ++ h = (if negative' then ['-'] else []) ++ h') :
    negative = negative' ∧ h = h' := by
  have hminus : ∀ {l : List Char}, Digits l → '-' ∉ l := fun hl => hl.not_mem (by decide)
  cases negative <;> cases negative'
  · exact ⟨rfl, heq⟩
  · obtain rfl : h = '-' :: h' := heq
    exact absurd List.mem_cons_self (hminus hh)
  · obtain rfl : '-' :: h = h' := heq
    exact absurd List.mem_cons_self (hminus hh')
  · exact ⟨rfl, (List.cons.inj heq).2⟩

theorem IsTarget.unique {target : String} {negative negative' : Bool} {h m s h' m' s' : ℕ}
    (ht : IsTarget target negative h m s) (ht' : IsTarget target negative' h' m' s') :
    negative = negative' ∧ h = h' ∧ m = m' ∧ s = s' := by
  have hsign : ∀ negative : Bool, ':' ∉ (if negative then ['-'] else []) := by decide
  obtain ⟨heq, hh, hm, hs⟩ := ht
  obtain ⟨heq', hh', hm', hs'⟩ := ht'
  have hsplit := split_target (hsign negative) hh hm.1 hs.1
  rw [← heq, heq', split_target (hsign negative') hh' hm'.1 hs'.1] at hsplit
  simp only [List.cons.injEq, and_true] at hsplit
  obtain ⟨hfirst, rfl, rfl⟩ := hsplit
  obtain ⟨rfl, rfl⟩ := sign_inj hh' hh hfirst
  exact ⟨rfl, rfl, rfl, rfl⟩

/-! ## What the code prints -/

theorem digits_printTwoDigits (n : ℕ) : Digits (printTwoDigits n).toList := by
  unfold printTwoDigits
  split
  · rw [String.toList_append]
    exact ⟨by simp, fun c hc => (List.mem_append.mp hc).elim
      (fun hc => by obtain rfl := List.mem_singleton.mp hc; decide) ((digits_toString n).digit c)⟩
  · exact digits_toString n

theorem value_printTwoDigits (n : ℕ) : value (printTwoDigits n).toList = n := by
  unfold printTwoDigits
  split
  · rw [String.toList_append]
    exact (value_zero_cons _).trans (value_toString n)
  · exact value_toString n

theorem twoDigits_printTwoDigits {n : ℕ} (hn : n < 100) :
    TwoDigits (printTwoDigits n).toList := by
  refine ⟨digits_printTwoDigits n, ?_⟩
  have hle : ∀ k, 0 < k → ((toString n).toList.length ≤ k ↔ n < 10 ^ k) := by
    intro k hk
    rw [Nat.toString_eq_repr, Nat.toList_repr]
    exact Nat.length_toDigits_le_iff (by decide) hk
  have hone := hle 1 (by decide)
  have htwo := hle 2 (by decide)
  have hpos : 0 < (toString n).toList.length :=
    List.length_pos_iff.mpr (digits_toString n).ne_nil
  unfold printTwoDigits
  split
  · rw [String.toList_append, List.length_append]
    show 1 + _ = 2
    omega
  · omega

def printedSeconds (overflow position : ℤ) : ℕ :=
  uintSeconds (if position < 0 then negateInt64 overflow position else position)

theorem printedSeconds_lt (overflow position : ℤ) : printedSeconds overflow position < 2 ^ 32 := by
  unfold printedSeconds uintSeconds
  omega

theorem printedSeconds_eq (overflow : ℤ) {position : ℤ} (hposition : position ≠ -2 ^ 63) :
    printedSeconds overflow position = wholeSeconds position % 2 ^ 32 := by
  have hmagnitude : (if position < 0 then negateInt64 overflow position else position) =
      (position.natAbs : ℤ) := by
    rw [negateInt64, if_neg hposition]
    split
    · omega
    · omega
  rw [printedSeconds, hmagnitude, uintSeconds, wholeSeconds]
  have hquotient : (position.natAbs : ℤ).tdiv 1000000 = (position.natAbs / 1000000 : ℕ) :=
    (Int.ofNat_tdiv position.natAbs 1000000).symm
  rw [hquotient]
  omega

theorem toList_prvInt64ToDuration (overflow position : ℤ) :
    (prvInt64ToDuration overflow position).toList =
      (if decide (position < 0) then ['-'] else []) ++
        (printTwoDigits (printedSeconds overflow position / 3600)).toList ++
        ':' :: ((printTwoDigits (printedSeconds overflow position / 60 % 60)).toList ++
          ':' :: (printTwoDigits (printedSeconds overflow position % 60)).toList) := by
  have hsign : (if position < 0 then "-" else "").toList =
      if decide (position < 0) then ['-'] else [] := by
    split <;> simp_all
  rw [← hsign]
  simp [prvInt64ToDuration, printedSeconds]

theorem isTarget_prvInt64ToDuration (overflow position : ℤ) :
    IsTarget (prvInt64ToDuration overflow position) (position < 0)
      (printedSeconds overflow position / 3600) (printedSeconds overflow position / 60 % 60)
      (printedSeconds overflow position % 60) := by
  have hminutes : printedSeconds overflow position / 60 % 60 < 100 := by omega
  have hseconds : printedSeconds overflow position % 60 < 100 := by omega
  have hform := IsTarget.mk (toList_prvInt64ToDuration overflow position) (digits_printTwoDigits _)
    (twoDigits_printTwoDigits hminutes) (twoDigits_printTwoDigits hseconds)
  rwa [value_printTwoDigits, value_printTwoDigits, value_printTwoDigits] at hform

/-- A target is right exactly if the seconds that are printed are. -/
theorem isTargetOf_iff (overflow position : ℤ) :
    IsTargetOf position (prvInt64ToDuration overflow position) ↔
      printedSeconds overflow position = wholeSeconds position := by
  have hform := isTarget_prvInt64ToDuration overflow position
  constructor
  · rintro ⟨h, m, s, htarget, -, -, hsum⟩
    obtain ⟨-, rfl, rfl, rfl⟩ := htarget.unique hform
    omega
  · intro heq
    refine ⟨_, _, _, hform, ?_, ?_, ?_⟩
    · omega
    · omega
    · omega

/-- Two positions have the same target exactly if they have the same sign and the same
printed seconds. -/
theorem prvInt64ToDuration_inj (overflow position position' : ℤ) :
    prvInt64ToDuration overflow position = prvInt64ToDuration overflow position' ↔
      (position < 0 ↔ position' < 0) ∧
        printedSeconds overflow position = printedSeconds overflow position' := by
  have hform := isTarget_prvInt64ToDuration overflow position
  have hform' := isTarget_prvInt64ToDuration overflow position'
  constructor
  · intro heq
    rw [heq] at hform
    obtain ⟨hsign, hhours, hminutes, hseconds⟩ := hform.unique hform'
    exact ⟨decide_eq_decide.mp hsign, by omega⟩
  · intro ⟨hsign, hprinted⟩
    apply String.toList_injective
    rw [toList_prvInt64ToDuration, toList_prvInt64ToDuration, hprinted,
      decide_eq_decide.mpr hsign]

/-! ## Reading a target back -/

theorem IsTarget.isDuration {target : String} {negative : Bool} {h m s : ℕ}
    (ht : IsTarget target negative h m s) : IsDuration target negative h m s := by
  obtain ⟨heq, hh, hm, hs⟩ := ht
  have hsign : ∀ negative : Bool, decide ((if negative then ['-'] else []) = ['-']) = negative ∧
      ((if negative then ['-'] else []) = [] ∨ (if negative then ['-'] else []) = ['+'] ∨
        (if negative then ['-'] else []) = ['-']) := by
    decide
  have hwhole : ∀ l : List Char, Field l (l ++ []) := by
    intro l
    rw [List.append_nil]
    exact field_self l
  have hform := IsDuration.mk heq (field_self _) (hsign negative).2 hh (field_self _) hm
    (hwhole _) hs (.inl rfl)
  rwa [(hsign negative).1] at hform

/-- Forwards, a renderer that answers with the target it was sent is shown at the whole
second of the position. -/
theorem prvDurationToInt64_prvInt64ToDuration (overflow : ℤ) {position : ℤ}
    (hnonneg : 0 ≤ position) (hsmall : position < 2 ^ 32 * 1000000) :
    prvDurationToInt64 (prvInt64ToDuration overflow position) =
      position / 1000000 * 1000000 := by
  have hprinted := printedSeconds_eq overflow (show position ≠ -2 ^ 63 by omega)
  have hform := (isTarget_prvInt64ToDuration overflow position).isDuration
  obtain ⟨-, -, hread⟩ := prvDurationToInt64_eq hform (by omega)
  rw [hread, hprinted, wholeSeconds, if_neg (by simpa using hnonneg)]
  omega

/-! ## The targets that are sent -/

/-- Both commands send the position as `prv_int64_to_duration` prints it, which is right
exactly for positions of less than `2 ^ 32` seconds; two positions lead to the same target
exactly if they have the same sign and their whole seconds agree modulo `2 ^ 32`. -/
theorem seekTarget_exact (overflow : ℤ) :
    (∀ (t : Int64) (object : String) (invocation : Nat),
      ((PlayerMethod.seek t.toInt).new object invocation).type.seekArguments overflow =
        some { unit := "REL_TIME", target := prvInt64ToDuration overflow t.toInt } ∧
      ((PlayerMethod.setPosition t.toInt).new object invocation).type.seekArguments overflow =
        some { unit := "ABS_TIME", target := prvInt64ToDuration overflow t.toInt }) ∧
    (∀ t : Int64, IsTargetOf t.toInt (prvInt64ToDuration overflow t.toInt) ↔
      t.toInt.natAbs < 2 ^ 32 * 1000000) ∧
    ∀ t u : Int64, t ≠ Int64.minValue → u ≠ Int64.minValue →
      (prvInt64ToDuration overflow t.toInt = prvInt64ToDuration overflow u.toInt ↔
        (t.toInt < 0 ↔ u.toInt < 0) ∧
          wholeSeconds t.toInt % 2 ^ 32 = wholeSeconds u.toInt % 2 ^ 32) := by
  have hmin : ∀ t : Int64, t ≠ Int64.minValue → t.toInt ≠ -2 ^ 63 := by
    intro t ht heq
    exact ht (Int64.toInt_inj.mp heq)
  refine ⟨fun t object invocation => ⟨rfl, rfl⟩, fun t => ?_, fun t u ht hu => ?_⟩
  · rw [isTargetOf_iff]
    by_cases hsmallest : t.toInt = -2 ^ 63
    · have hprinted := printedSeconds_lt overflow t.toInt
      rw [wholeSeconds, hsmallest] at *
      omega
    · rw [printedSeconds_eq overflow hsmallest, wholeSeconds]
      omega
  · rw [prvInt64ToDuration_inj, printedSeconds_eq overflow (hmin t ht),
      printedSeconds_eq overflow (hmin u hu)]

/-- An hour and a second, forwards and backwards. -/
theorem seekTarget_exact_signs :
    prvInt64ToDuration 0 (3601000000 : Int64).toInt = "01:00:01" ∧
    prvInt64ToDuration 0 (3601000000 : Int64).toInt ≠
      prvInt64ToDuration 0 (-3601000000 : Int64).toInt := by
  refine ⟨by decide +kernel, ?_⟩
  intro heq
  have hsame := ((seekTarget_exact 0).2.2 _ _ (by decide) (by decide)).mp heq
  exact absurd hsame.1 (by decide)

/-- At `2 ^ 32` seconds the targets begin again with the one of zero. -/
theorem seekTarget_wraps :
    ¬IsTargetOf (4294967296000000 : Int64).toInt
      (prvInt64ToDuration 0 (4294967296000000 : Int64).toInt) ∧
    prvInt64ToDuration 0 (4294967296000000 : Int64).toInt =
      prvInt64ToDuration 0 (0 : Int64).toInt := by
  rw [isTargetOf_iff]
  exact ⟨by decide, by decide +kernel⟩

end RendererService.Props
