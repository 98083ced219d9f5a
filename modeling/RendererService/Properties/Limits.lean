import RendererService.Lib.Extremes
import RendererService.Properties.Rate
import RendererService.Properties.Volume

/-!
# The limits of the rate

MinimumRate and MaximumRate are found in the loop that collects the speeds.  It
starts from the first allowed value, though the loop may skip that value, and a
limit that is zero counts as one that was not found.
-/

namespace RendererService.Props

open Assoc Transition Numeral

variable {dev : RsuDevice} {s : Renderer} {i : Input} {is : List Input}
  {parseDidl : String → DidlParse}

/-! ## The order of the speeds -/

def validSpeeds (values : List String) : List String :=
  values.filter fun value => !prvRationalIsInvalid value

/-- The difference that `prv_compare_rationals` returns, as an integer. -/
def crossDifference (a b : String) : ℤ :=
  prvRationalGetNumerator a * prvRationalGetDenominator b -
    prvRationalGetNumerator b * prvRationalGetDenominator a

theorem mem_validSpeeds {values : List String} {value : String} :
    value ∈ validSpeeds values ↔ value ∈ values ∧ prvRationalGetNumerator value ≠ 0 ∧
      prvRationalGetDenominator value ≠ 0 := by
  rw [validSpeeds, List.mem_filter, Bool.not_eq_true', prvRationalIsInvalid,
    decide_eq_false_iff_not, not_or]

theorem crossDifference_compares {S : Set String}
    (hpos : ∀ a ∈ S, 0 < prvRationalGetDenominator a) :
    Extremes.Compares crossDifference speedValue S := by
  intro a ha b hb
  have hqa : (0 : ℚ) < prvRationalGetDenominator a := by exact_mod_cast hpos a ha
  have hqb : (0 : ℚ) < prvRationalGetDenominator b := by exact_mod_cast hpos b hb
  rw [speedValue, speedValue, div_lt_div_iff₀ hqb hqa, div_lt_div_iff₀ hqa hqb, crossDifference]
  constructor
  · rw [sub_pos]
    exact_mod_cast Iff.rfl
  · rw [sub_neg]
    exact_mod_cast Iff.rfl

theorem roundAway_mono {x y : ℚ} (h : x ≤ y) : roundAway x ≤ roundAway y := by
  unfold roundAway
  by_cases hx : 0 ≤ x
  · rw [if_pos hx, if_pos (hx.trans h)]
    exact Rat.floor_monotone (by linarith)
  · rw [if_neg hx]
    rw [not_le] at hx
    split
    next hy =>
      have hnonpos : (x - 1 / 2).ceil ≤ 0 := Rat.ceil_le_iff.mpr (by push_cast; linarith)
      have hnonneg : 0 ≤ (y + 1 / 2).floor := Rat.le_floor_iff.mpr (by push_cast; linarith)
      exact hnonpos.trans hnonneg
    · have hceil : y - 1 / 2 ≤ (y - 1 / 2).ceil := Rat.le_ceil
      exact Rat.ceil_le_iff.mpr (by linarith)

theorem shownSpeed_mono {values : List String} {a b : String} (ha : a ∈ validSpeeds values)
    (hb : b ∈ validSpeeds values) (h : speedValue a ≤ speedValue b) :
    shownSpeed a ≤ shownSpeed b := by
  obtain ⟨-, hnum, hden⟩ := mem_validSpeeds.mp ha
  obtain ⟨-, hnum', hden'⟩ := mem_validSpeeds.mp hb
  rw [shownSpeed_eq hnum hden, shownSpeed_eq hnum' hden']
  have hround : roundAway (speedValue a * 100) ≤ roundAway (speedValue b * 100) :=
    roundAway_mono (mul_le_mul_of_nonneg_right h (by norm_num))
  have hcast : (roundAway (speedValue a * 100) : ℚ) ≤ roundAway (speedValue b * 100) := by
    exact_mod_cast hround
  exact div_le_div_of_nonneg_right hcast (by norm_num)

/-! ## The loop -/

def Rates.limits (rates : Rates) : Extremes.Pair String := ⟨rates.minRateStr, rates.maxRateStr⟩

theorem validSpeeds_cons (rate : String) (l : List String) :
    validSpeeds (rate :: l) =
      if prvRationalIsInvalid rate then validSpeeds l else rate :: validSpeeds l := by
  rw [validSpeeds, List.filter_cons]
  cases prvRationalIsInvalid rate <;> rfl

theorem limits_add (rates : Rates) (rate : String) :
    (rates.add rate).limits =
      if prvRationalIsInvalid rate then rates.limits
      else rates.limits.add prvCompareRationals rate := by
  unfold Rates.add Extremes.Pair.add Rates.limits
  cases prvRationalIsInvalid rate with
  | true => rfl
  | false =>
      simp only [Bool.false_eq_true, if_false]
      split
      · rfl
      · split <;> rfl

/-- The loop of `prv_get_rates_values` is one over the valid values. -/
theorem limits_foldl (l : List String) (rates : Rates) :
    (l.foldl Rates.add rates).limits =
      (validSpeeds l).foldl (Extremes.Pair.add prvCompareRationals) rates.limits := by
  induction l generalizing rates with
  | nil => rfl
  | cons rate l ih =>
      rw [List.foldl_cons, ih, limits_add, validSpeeds_cons]
      cases prvRationalIsInvalid rate <;> rfl

/-- No comparison of the loop changes its sign when it is returned as a `gint`. -/
def Uncut (values : List String) : Prop :=
  ∀ first ∈ values.head?,
    Extremes.Agree prvCompareRationals crossDifference ⟨first, first⟩ (validSpeeds values)

def limitsOf (first : String) (values : List String) : Extremes.Pair String :=
  (validSpeeds values).foldl (Extremes.Pair.add crossDifference) ⟨first, first⟩

theorem prvGetRatesValues_uncut {first : String} {rest : List String}
    (huncut : Uncut (first :: rest)) :
    ∃ rates, prvGetRatesValues (some (first :: rest)) = some rates ∧
      rates.mprisTpSpeeds = (validSpeeds (first :: rest)).map shownSpeed ∧
      rates.minRate = shownSpeed (limitsOf first (first :: rest)).least ∧
      rates.maxRate = shownSpeed (limitsOf first (first :: rest)).greatest := by
  have hlimits := limits_foldl (first :: rest) { minRateStr := first, maxRateStr := first }
  rw [Rates.limits, Rates.limits, Extremes.foldl_congr (huncut first rfl)] at hlimits
  have hpair := Extremes.Pair.mk.inj hlimits
  refine ⟨_, rfl, ?_, ?_, ?_⟩
  · rw [mprisTpSpeeds_foldl, List.nil_append]
    rfl
  · exact congrArg shownSpeed hpair.1
  · exact congrArg shownSpeed hpair.2

/-! ## When the limits are found -/

theorem shownSpeed_of_not_valid {values : List String} {speed : String} (hmem : speed ∈ values)
    (h : speed ∉ validSpeeds values) : shownSpeed speed = 0 := by
  rw [mem_validSpeeds, not_and] at h
  have hinvalid := h hmem
  exact shownSpeed_of_invalid (by tauto)

/-- The first value is a speed or lies between two of them, and no limit is shown as
zero. -/
structure LimitsFit (values : List String) : Prop where
  first : ∀ first ∈ values.head?, prvRationalGetDenominator first ≠ 0 ∧
    (prvRationalGetNumerator first ≠ 0 ∨ (∃ v ∈ validSpeeds values, prvRationalGetNumerator v < 0) ∧
      ∃ v ∈ validSpeeds values, 0 < prvRationalGetNumerator v)
  least : ¬IsLeast { x | x ∈ (validSpeeds values).map shownSpeed } 0
  greatest : ¬IsGreatest { x | x ∈ (validSpeeds values).map shownSpeed } 0

section Fit

variable {first : String} {rest : List String}

theorem limitsOf_bounds (hpos : ∀ v ∈ first :: rest, 0 ≤ prvRationalGetDenominator v)
    (hfirst : prvRationalGetDenominator first ≠ 0) :
    Extremes.Bounds speedValue ({first} ∪ { v | v ∈ validSpeeds (first :: rest) })
      (limitsOf first (first :: rest)) := by
  let S : Set String := {first} ∪ { v | v ∈ validSpeeds (first :: rest) }
  have hden : ∀ v ∈ S, 0 < prvRationalGetDenominator v := by
    rintro v (rfl | hv)
    · have := hpos v List.mem_cons_self
      omega
    · obtain ⟨hmem, -, hne⟩ := mem_validSpeeds.mp hv
      have := hpos v hmem
      omega
  exact Extremes.bounds_foldl (crossDifference_compares hden) Set.subset_union_left
    (fun v hv => .inr hv) (Extremes.bounds_singleton speedValue first)

theorem speedValue_neg {v : String} (hden : 0 < prvRationalGetDenominator v)
    (hnum : prvRationalGetNumerator v < 0) : speedValue v < 0 := by
  have hnum' : (prvRationalGetNumerator v : ℚ) < 0 := by exact_mod_cast hnum
  have hden' : (0 : ℚ) < prvRationalGetDenominator v := by exact_mod_cast hden
  exact div_neg_of_neg_of_pos hnum' hden'

theorem speedValue_pos {v : String} (hden : 0 < prvRationalGetDenominator v)
    (hnum : 0 < prvRationalGetNumerator v) : 0 < speedValue v := by
  have hnum' : (0 : ℚ) < prvRationalGetNumerator v := by exact_mod_cast hnum
  have hden' : (0 : ℚ) < prvRationalGetDenominator v := by exact_mod_cast hden
  exact div_pos hnum' hden'

theorem LimitsFit.limits_valid (hfit : LimitsFit (first :: rest))
    (hpos : ∀ v ∈ first :: rest, 0 ≤ prvRationalGetDenominator v) :
    (limitsOf first (first :: rest)).least ∈ validSpeeds (first :: rest) ∧
      (limitsOf first (first :: rest)).greatest ∈ validSpeeds (first :: rest) := by
  obtain ⟨hden, hbetween⟩ := hfit.first first rfl
  have hbounds := limitsOf_bounds hpos hden
  have hpositive : ∀ v ∈ validSpeeds (first :: rest), 0 < prvRationalGetDenominator v := by
    intro v hv
    obtain ⟨hmem, -, hne⟩ := mem_validSpeeds.mp hv
    have := hpos v hmem
    omega
  -- the first value is a limit only if it is a speed
  have hzero : prvRationalGetNumerator first = 0 → speedValue first = 0 := by
    intro hnum
    rw [speedValue, hnum, Int.cast_zero, zero_div]
  have hlimit : ∀ v, v ∈ ({first} : Set String) ∪ { v | v ∈ validSpeeds (first :: rest) } →
      (prvRationalGetNumerator first = 0 → v ≠ first) → v ∈ validSpeeds (first :: rest) := by
    rintro v (rfl | hv) hne
    · apply mem_validSpeeds.mpr
      exact ⟨List.mem_cons_self, fun hnum => hne hnum rfl, hden⟩
    · exact hv
  constructor
  · apply hlimit _ hbounds.least_mem
    intro hnum heq
    obtain ⟨⟨v, hv, hneg⟩, -⟩ := hbetween.resolve_left (absurd hnum)
    have hle := hbounds.least_le v (.inr hv)
    rw [heq, hzero hnum] at hle
    exact absurd (speedValue_neg (hpositive v hv) hneg) hle.not_gt
  · apply hlimit _ hbounds.greatest_mem
    intro hnum heq
    obtain ⟨-, v, hv, hpos'⟩ := hbetween.resolve_left (absurd hnum)
    have hle := hbounds.le_greatest v (.inr hv)
    rw [heq, hzero hnum] at hle
    exact absurd (speedValue_pos (hpositive v hv) hpos') hle.not_gt

theorem limitsFit_first (hpos : ∀ v ∈ first :: rest, 0 ≤ prvRationalGetDenominator v)
    (hleast : shownSpeed (limitsOf first (first :: rest)).least ≠ 0)
    (hgreatest : shownSpeed (limitsOf first (first :: rest)).greatest ≠ 0) :
    prvRationalGetDenominator first ≠ 0 ∧ (prvRationalGetNumerator first ≠ 0 ∨
      (∃ v ∈ validSpeeds (first :: rest), prvRationalGetNumerator v < 0) ∧
        ∃ v ∈ validSpeeds (first :: rest), 0 < prvRationalGetNumerator v) := by
  have hdens : ∀ v ∈ validSpeeds (first :: rest), 0 ≤ prvRationalGetDenominator v :=
    fun v hv => hpos v (mem_validSpeeds.mp hv).1
  have hstays : first ∉ validSpeeds (first :: rest) →
      (∃ v ∈ validSpeeds (first :: rest), 0 < crossDifference first v) ∧
        ∃ v ∈ validSpeeds (first :: rest), crossDifference first v < 0 := by
    intro hinvalid
    have hshown := shownSpeed_of_not_valid List.mem_cons_self hinvalid
    constructor
    · by_contra hnone
      push Not at hnone
      have hkept := Extremes.least_foldl (s := ⟨first, first⟩) hnone
      rw [limitsOf, hkept] at hleast
      exact hleast hshown
    · by_contra hnone
      push Not at hnone
      have hkept := Extremes.greatest_foldl (s := ⟨first, first⟩) hnone
      rw [limitsOf, hkept] at hgreatest
      exact hgreatest hshown
  constructor
  · intro hden
    have hinvalid : first ∉ validSpeeds (first :: rest) :=
      fun hv => (mem_validSpeeds.mp hv).2.2 hden
    obtain ⟨⟨v, hv, hless⟩, w, hw, hgreater⟩ := hstays hinvalid
    rw [crossDifference, hden, mul_zero, sub_zero] at hless hgreater
    have hnum : 0 < prvRationalGetNumerator first := by
      by_contra hle
      have hprod := mul_nonpos_of_nonpos_of_nonneg (not_lt.mp hle) (hdens v hv)
      omega
    have hprod := mul_nonneg hnum.le (hdens w hw)
    omega
  · by_contra hneither
    push Not at hneither
    obtain ⟨hnum, hnone⟩ := hneither
    have hinvalid : first ∉ validSpeeds (first :: rest) :=
      fun hv => (mem_validSpeeds.mp hv).2.1 hnum
    obtain ⟨⟨v, hv, hless⟩, w, hw, hgreater⟩ := hstays hinvalid
    rw [crossDifference, hnum, zero_mul, zero_sub] at hless hgreater
    have hfirst := hpos first List.mem_cons_self
    have hneg : prvRationalGetNumerator v < 0 := by
      by_contra hge
      have hprod := mul_nonneg (not_lt.mp hge) hfirst
      omega
    have hpositive := hnone ⟨v, hv, hneg⟩ w hw
    have hprod := mul_nonpos_of_nonpos_of_nonneg hpositive hfirst
    omega

end Fit

/-! ## What is published -/

theorem rateKeys_absent (h : (renderer parseDidl).Reaches is s)
    (hsynced : s.device.synced = false) :
    ∀ key ∈ rateKeys, s.device.playerProps.lookup key = none := by
  refine h.invariant (I := fun s => s.device.synced = false →
    ∀ key ∈ rateKeys, s.device.playerProps.lookup key = none) ?_ ?_ hsynced
  · rintro s rfl _ key _
    rfl
  · intro s i s' habsent hstep hsynced key hkey
    obtain ⟨-, rfl⟩ := stepFn_eq hstep
    cases hsyncs : i.syncs s.device with
    | false =>
        rw [(exec_volume parseDidl s hsyncs).1] at hsynced
        rw [(exec_rates parseDidl s hsyncs).2 key hkey]
        exact habsent hsynced key hkey
    | true =>
        obtain ⟨context, -, hexec⟩ := exec_firstUse parseDidl s hsyncs
        have hafter := i.syncs_of_synced (synced_prvPropsUpdate context s.device)
        rw [hexec, (exec_volume parseDidl _ hafter).1, device_setDevice,
          synced_prvPropsUpdate] at hsynced
        cases hsynced

theorem publishRate_lookup (key : String) (rate : ℚ) (u : Update) :
    (publishRate key rate u).device.playerProps.lookup key =
      if rate ≠ 0 then some (.double rate) else u.device.playerProps.lookup key := by
  unfold publishRate
  split
  · exact AList.lookup_insert _
  · rfl

theorem publishRate_lookup_ne {key key' : String} (hne : key' ≠ key) (rate : ℚ) (u : Update) :
    (publishRate key rate u).device.playerProps.lookup key' =
      u.device.playerProps.lookup key' := by
  unfold publishRate
  split
  · exact AList.lookup_insert_ne hne
  · rfl

/-- The limits that the first use publishes: none that is zero. -/
theorem prvPropsUpdate_limits {context : ContextInfo} {rates : Rates}
    (hrates : context.av.bind prvGetAvServiceStatesValues = some rates)
    (habsent : ∀ key ∈ rateKeys, dev.playerProps.lookup key = none) :
    (prvPropsUpdate context dev).playerProps.lookup "MinimumRate" =
        (if rates.minRate ≠ 0 then some (.double rates.minRate) else none) ∧
      (prvPropsUpdate context dev).playerProps.lookup "MaximumRate" =
        (if rates.maxRate ≠ 0 then some (.double rates.maxRate) else none) ∧
      (prvPropsUpdate context dev).playerProps.lookup "TransportPlaySpeeds" =
        some (.doubles rates.mprisTpSpeeds) := by
  have hmin := habsent "MinimumRate" (by decide)
  have hmax := habsent "MaximumRate" (by decide)
  refine ⟨?_, ?_, ?_⟩
  · rw [prvPropsUpdate_lookup context dev (by decide), hrates]
    calc
      _ = _ := AList.lookup_insert_ne (by decide)
      _ = _ := publishRate_lookup_ne (by decide) _ _
      _ = _ := publishRate_lookup _ _ _
      _ = _ := by rw [← hmin]; rfl
  · rw [prvPropsUpdate_lookup context dev (by decide), hrates]
    calc
      _ = _ := AList.lookup_insert_ne (by decide)
      _ = _ := publishRate_lookup _ _ _
      _ = _ := by rw [publishRate_lookup_ne (by decide), ← hmax]; rfl
  · rw [prvPropsUpdate_lookup context dev (by decide), hrates]
    exact AList.lookup_insert _

/-- The limits are published, and they are the least and the greatest of the published
speeds; or there is no speed, and neither is. -/
def LimitsBound (values : List String) (dev : RsuDevice) : Prop :=
  if validSpeeds values = [] then
    dev.playerProps.lookup "MinimumRate" = none ∧ dev.playerProps.lookup "MaximumRate" = none
  else
    ∃ tps x y, tps = (validSpeeds values).map shownSpeed ∧
      dev.playerProps.lookup "TransportPlaySpeeds" = some (.doubles tps) ∧
      dev.playerProps.lookup "MinimumRate" = some (.double x) ∧ IsLeast { t | t ∈ tps } x ∧
      dev.playerProps.lookup "MaximumRate" = some (.double y) ∧ IsGreatest { t | t ∈ tps } y

theorem limitsBound_of_empty {context : ContextInfo}
    (hav : context.av = some (some ⟨some []⟩))
    (habsent : ∀ key ∈ rateKeys, dev.playerProps.lookup key = none) :
    LimitsBound [] (prvPropsUpdate context dev) := by
  have hrates : context.av.bind prvGetAvServiceStatesValues = none := by
    rw [hav]
    rfl
  have hnone : ∀ key ∈ rateKeys, (prvPropsUpdate context dev).playerProps.lookup key = none := by
    intro key hkey
    rw [prvPropsUpdate_lookup context dev hkey, hrates]
    exact habsent key hkey
  have hempty : validSpeeds [] = [] := rfl
  rw [LimitsBound, if_pos hempty]
  exact ⟨hnone _ (by decide), hnone _ (by decide)⟩

theorem limitsBound_of_fit {first : String} {rest : List String} {rates : Rates}
    {context : ContextInfo} (hfit : LimitsFit (first :: rest))
    (hpos : ∀ v ∈ first :: rest, 0 ≤ prvRationalGetDenominator v)
    (hrates : context.av.bind prvGetAvServiceStatesValues = some rates)
    (habsent : ∀ key ∈ rateKeys, dev.playerProps.lookup key = none)
    (hspeeds : rates.mprisTpSpeeds = (validSpeeds (first :: rest)).map shownSpeed)
    (hmin : rates.minRate = shownSpeed (limitsOf first (first :: rest)).least)
    (hmax : rates.maxRate = shownSpeed (limitsOf first (first :: rest)).greatest) :
    LimitsBound (first :: rest) (prvPropsUpdate context dev) := by
  obtain ⟨hlookupMin, hlookupMax, hlookup⟩ := prvPropsUpdate_limits hrates habsent
  obtain ⟨hleast, hgreatest⟩ := hfit.limits_valid hpos
  have hbounds := limitsOf_bounds hpos (hfit.first first rfl).1
  have hisLeast :
      IsLeast { t | t ∈ (validSpeeds (first :: rest)).map shownSpeed } rates.minRate := by
    rw [hmin]
    refine ⟨List.mem_map_of_mem hleast, fun t ht => ?_⟩
    obtain ⟨v, hv, rfl⟩ := List.mem_map.mp ht
    exact shownSpeed_mono hleast hv (hbounds.least_le v (.inr hv))
  have hisGreatest :
      IsGreatest { t | t ∈ (validSpeeds (first :: rest)).map shownSpeed } rates.maxRate := by
    rw [hmax]
    refine ⟨List.mem_map_of_mem hgreatest, fun t ht => ?_⟩
    obtain ⟨v, hv, rfl⟩ := List.mem_map.mp ht
    exact shownSpeed_mono hv hgreatest (hbounds.le_greatest v (.inr hv))
  have hmin0 : rates.minRate ≠ 0 := fun hzero => hfit.least (hzero ▸ hisLeast)
  have hmax0 : rates.maxRate ≠ 0 := fun hzero => hfit.greatest (hzero ▸ hisGreatest)
  rw [if_pos hmin0] at hlookupMin
  rw [if_pos hmax0] at hlookupMax
  rw [LimitsBound, if_neg (List.ne_nil_of_mem hleast)]
  exact ⟨_, _, _, hspeeds, hlookup, hlookupMin, hspeeds ▸ hisLeast, hlookupMax,
    hspeeds ▸ hisGreatest⟩

theorem fit_of_limitsBound {first : String} {rest : List String} {rates : Rates}
    {context : ContextInfo} (hsome : validSpeeds (first :: rest) ≠ [])
    (hpos : ∀ v ∈ first :: rest, 0 ≤ prvRationalGetDenominator v)
    (hrates : context.av.bind prvGetAvServiceStatesValues = some rates)
    (habsent : ∀ key ∈ rateKeys, dev.playerProps.lookup key = none)
    (hmin : rates.minRate = shownSpeed (limitsOf first (first :: rest)).least)
    (hmax : rates.maxRate = shownSpeed (limitsOf first (first :: rest)).greatest)
    (hbound : LimitsBound (first :: rest) (prvPropsUpdate context dev)) :
    LimitsFit (first :: rest) := by
  obtain ⟨hlookupMin, hlookupMax, -⟩ := prvPropsUpdate_limits hrates habsent
  rw [LimitsBound, if_neg hsome] at hbound
  obtain ⟨tps, x, y, rfl, -, hx, hleast, hy, hgreatest⟩ := hbound
  have hx0 : rates.minRate ≠ 0 ∧ x = rates.minRate := by
    rw [hx] at hlookupMin
    split at hlookupMin
    next hne => exact ⟨hne, Variant.double.inj (Option.some.inj hlookupMin)⟩
    · cases hlookupMin
  have hy0 : rates.maxRate ≠ 0 ∧ y = rates.maxRate := by
    rw [hy] at hlookupMax
    split at hlookupMax
    next hne => exact ⟨hne, Variant.double.inj (Option.some.inj hlookupMax)⟩
    · cases hlookupMax
  refine ⟨?_, fun hzero => ?_, fun hzero => ?_⟩
  · intro v hv
    obtain rfl := Option.some.inj hv
    exact limitsFit_first hpos (hmin ▸ hx0.1) (hmax ▸ hy0.1)
  · exact hx0.1 (hx0.2.symm.trans (hleast.unique hzero))
  · exact hy0.1 (hy0.2.symm.trans (hgreatest.unique hzero))

/-- Where no comparison is cut, the published limits are the least and the greatest speed
exactly if there is no speed or the limits fit. -/
theorem limitsBound_iff (h : (renderer parseDidl).Reaches is s) (hsynced : s.device.synced = false)
    {context : ContextInfo} {values : List String}
    (hav : context.av = some (some ⟨some values⟩))
    (hform : ∀ v ∈ values, ∃ p q, IsFraction v p q ∧ 0 ≤ q) (huncut : Uncut values) :
    LimitsBound values (prvPropsUpdate context s.device) ↔
      validSpeeds values = [] ∨ LimitsFit values := by
  have habsent := rateKeys_absent h hsynced
  have hpos : ∀ v ∈ values, 0 ≤ prvRationalGetDenominator v := by
    intro v hv
    obtain ⟨p, q, hfraction, hq⟩ := hform v hv
    rwa [(prvRational_eq hfraction).2]
  cases values with
  | nil => exact iff_of_true (limitsBound_of_empty hav habsent) (.inl rfl)
  | cons first rest =>
      obtain ⟨rates, hget, hspeeds, hmin, hmax⟩ := prvGetRatesValues_uncut huncut
      have hrates : context.av.bind prvGetAvServiceStatesValues = some rates := by
        rw [hav]
        exact hget
      by_cases hempty : validSpeeds (first :: rest) = []
      · refine iff_of_true ?_ (.inl hempty)
        have hfirst : first ∉ validSpeeds (first :: rest) := by
          rw [hempty]
          exact List.not_mem_nil
        have hshown := shownSpeed_of_not_valid List.mem_cons_self hfirst
        have hlimits : limitsOf first (first :: rest) = ⟨first, first⟩ := by
          rw [limitsOf, hempty]
          rfl
        obtain ⟨hlookupMin, hlookupMax, -⟩ := prvPropsUpdate_limits hrates habsent
        rw [hmin, hlimits, if_neg (not_not.mpr hshown)] at hlookupMin
        rw [hmax, hlimits, if_neg (not_not.mpr hshown)] at hlookupMax
        rw [LimitsBound, if_pos hempty]
        exact ⟨hlookupMin, hlookupMax⟩
      · constructor
        · exact fun hbound =>
            .inr (fit_of_limitsBound hempty hpos hrates habsent hmin hmax hbound)
        · rintro (hnone | hfit)
          · exact absurd hnone hempty
          · exact limitsBound_of_fit hfit hpos hrates habsent hspeeds hmin hmax

def allowing (values : List String) : ContextInfo where
  deviceInfo := { udn := "uuid:1" }
  av := some (some ⟨some values⟩)
  rc := none

theorem isFraction_whole {text : String} (h : Digits text.toList)
    (hlong : InLong (value text.toList)) : IsFraction text (value text.toList) 1 :=
  .whole ⟨[], text.toList, [], by simp, .unsigned h, by simp, by simp⟩ hlong

theorem limitsBound_iff_slow :
    LimitsBound ["1", "0", "1/2", "2"] (prvPropsUpdate (allowing ["1", "0", "1/2", "2"]) {}) := by
  have hreach : (renderer fun _ => {}).Reaches [] {} := .init rfl
  have hhalf : IsFraction "1/2" (value ['1']) (value ['2']) :=
    .fraction (l := ['1']) (r := ['2']) rfl
      ⟨[], ['1'], [], by simp, .unsigned (by decide), by simp, rfl⟩
      ⟨[], ['2'], [], by simp, .unsigned (by decide), by simp, rfl⟩
      (by decide) (by decide)
  have hform : ∀ v ∈ ["1", "0", "1/2", "2"], ∃ p q, IsFraction v p q ∧ 0 ≤ q := by
    intro v hv
    simp only [List.mem_cons, List.not_mem_nil, or_false] at hv
    rcases hv with rfl | rfl | rfl | rfl
    · exact ⟨_, _, isFraction_whole (by decide) (by decide), by decide⟩
    · exact ⟨_, _, isFraction_whole (by decide) (by decide), by decide⟩
    · exact ⟨_, _, hhalf, by decide⟩
    · exact ⟨_, _, isFraction_whole (by decide) (by decide), by decide⟩
  have hvalid : validSpeeds ["1", "0", "1/2", "2"] = ["1", "1/2", "2"] := by decide +kernel
  have huncut : Uncut ["1", "0", "1/2", "2"] := by
    intro first hfirst
    obtain rfl := Option.some.inj hfirst
    rw [hvalid]
    exact ⟨by decide +kernel, by decide +kernel, by decide +kernel, by decide +kernel,
      by decide +kernel, by decide +kernel, trivial⟩
  have hzero : (0 : ℚ) ∉ (validSpeeds ["1", "0", "1/2", "2"]).map shownSpeed := by decide +kernel
  have hfit : LimitsFit ["1", "0", "1/2", "2"] := by
    refine ⟨fun first hfirst => ?_, fun h => hzero h.1, fun h => hzero h.1⟩
    obtain rfl := Option.some.inj hfirst
    exact ⟨by decide +kernel, .inl (by decide +kernel)⟩
  exact (limitsBound_iff hreach rfl rfl hform huncut).mpr (.inr hfit)

/-- Of the allowed values 0 and 1 the second is the only speed, and no minimum is
published. -/
theorem limitsBound_zero : ¬∀ parseDidl is s, (renderer parseDidl).Reaches is s →
    s.device.synced = false → ∀ context values, context.av = some (some ⟨some values⟩) →
    (∀ v ∈ values, ∃ p q, IsFraction v p q ∧ 0 ≤ q) →
    LimitsBound values (prvPropsUpdate context s.device) := by
  intro hall
  have hform : ∀ v ∈ ["0", "1"], ∃ p q, IsFraction v p q ∧ 0 ≤ q := by
    intro v hv
    simp only [List.mem_cons, List.not_mem_nil, or_false] at hv
    rcases hv with rfl | rfl
    · exact ⟨_, _, isFraction_whole (by decide) (by decide), by decide⟩
    · exact ⟨_, _, isFraction_whole (by decide) (by decide), by decide⟩
  have hbound := hall (fun _ => {}) [] {} (.init rfl) rfl (allowing ["0", "1"]) _ rfl hform
  have hsome : validSpeeds ["0", "1"] ≠ [] := by decide +kernel
  rw [LimitsBound, if_neg hsome] at hbound
  obtain ⟨tps, x, y, -, -, hx, -⟩ := hbound
  have hnone :
      (prvPropsUpdate (allowing ["0", "1"]) {}).playerProps.lookup "MinimumRate" = none := by
    decide +kernel
  rw [hnone] at hx
  cases hx

end RendererService.Props
