import RendererService.Properties.Callbacks

/-!
# Set(Rate)

The speeds a renderer allows are kept twice: as the strings of UPnP in
`transport_play_speeds` and, rounded, as the doubles of the property
TransportPlaySpeeds.  A Set looks for the value in the second list and takes the
string of the first.
-/

namespace RendererService.Props

open Assoc Transition

variable {dev : RsuDevice} {s s' : Renderer} {i : Input} {is : List Input}
  {parseDidl : String → DidlParse}

/-! ## Rounding -/

/-- `x` is the multiple of 0.01 nearest to `q`; halves are rounded away from zero. -/
structure RoundsTo (q x : ℚ) : Prop where
  multiple : ∃ n : ℤ, x = n / 100
  near : |x - q| ≤ 1 / 200
  half : |x - q| = 1 / 200 → |q| ≤ |x|

theorem roundAway_sub (x : ℚ) :
    (0 ≤ x ∧ -(1 / 2) < (roundAway x : ℚ) - x ∧ (roundAway x : ℚ) - x ≤ 1 / 2) ∨
      (x < 0 ∧ -(1 / 2) ≤ (roundAway x : ℚ) - x ∧ (roundAway x : ℚ) - x < 1 / 2) := by
  unfold roundAway
  split
  next hx =>
    have hle : ((x + 1 / 2).floor : ℚ) ≤ x + 1 / 2 := Rat.floor_le _
    have hlt : x + 1 / 2 - 1 < (x + 1 / 2).floor := Rat.lt_floor
    exact .inl ⟨hx, by linarith, by linarith⟩
  next hx =>
    have hle : x - 1 / 2 ≤ (x - 1 / 2).ceil := Rat.le_ceil
    have hlt : ((x - 1 / 2).ceil : ℚ) < x - 1 / 2 + 1 := Rat.ceil_lt
    exact .inr ⟨not_le.mp hx, by linarith, by linarith⟩

theorem abs_roundAway_sub_le (x : ℚ) : |(roundAway x : ℚ) - x| ≤ 1 / 2 := by
  rw [abs_le]
  rcases roundAway_sub x with ⟨-, hlow, hhigh⟩ | ⟨-, hlow, hhigh⟩
  · exact ⟨hlow.le, hhigh⟩
  · exact ⟨hlow, hhigh.le⟩

theorem abs_le_abs_roundAway {x : ℚ} (h : |(roundAway x : ℚ) - x| = 1 / 2) :
    |x| ≤ |(roundAway x : ℚ)| := by
  rcases roundAway_sub x with ⟨hx, hlow, -⟩ | ⟨hx, -, hhigh⟩
  · rcases eq_or_eq_neg_of_abs_eq h with hup | hdown
    · rw [abs_of_nonneg hx, abs_of_nonneg (by linarith)]
      linarith
    · exact absurd hdown hlow.ne'
  · rcases eq_or_eq_neg_of_abs_eq h with hup | hdown
    · exact absurd hup hhigh.ne
    · rw [abs_of_neg hx, abs_of_neg (by linarith)]
      linarith

theorem roundsTo_roundAway (q : ℚ) : RoundsTo q (roundAway (q * 100) / 100) := by
  have hscale : (roundAway (q * 100) : ℚ) / 100 - q =
      ((roundAway (q * 100) : ℚ) - q * 100) / 100 := by ring
  have habs : |(roundAway (q * 100) : ℚ) / 100 - q| =
      |(roundAway (q * 100) : ℚ) - q * 100| / 100 := by
    rw [hscale, abs_div]
    norm_num
  refine ⟨⟨_, rfl⟩, ?_, fun hhalf => ?_⟩
  · have hnear := abs_roundAway_sub_le (q * 100)
    rw [habs]
    linarith
  · have haway := abs_le_abs_roundAway (x := q * 100) (by rw [habs] at hhalf; linarith)
    rw [abs_mul] at haway
    rw [abs_div]
    norm_num at haway ⊢
    linarith

theorem RoundsTo.unique {q x y : ℚ} (hx : RoundsTo q x) (hy : RoundsTo q y) : x = y := by
  have hle : ∀ {x y : ℚ}, RoundsTo q x → RoundsTo q y → y ≤ x := by
    intro x y hx hy
    obtain ⟨m, rfl⟩ := hx.multiple
    obtain ⟨n, rfl⟩ := hy.multiple
    by_contra hlt
    have hmn : m + 1 ≤ n := by
      have hcast : (m : ℚ) < n := by linarith
      exact_mod_cast hcast
    have hnext : (m : ℚ) + 1 ≤ n := by exact_mod_cast hmn
    obtain ⟨hxlow, -⟩ := abs_le.mp hx.near
    obtain ⟨-, hyhigh⟩ := abs_le.mp hy.near
    have hq : q = m / 100 + 1 / 200 := by linarith
    have hn : (n : ℚ) = m + 1 := by linarith
    have hxaway := hx.half (by rw [hq]; norm_num)
    have hyaway := hy.half (by rw [hq, hn]; ring_nf; norm_num)
    rcases le_or_gt 0 m with hpos | hneg
    · have hm : (0 : ℚ) ≤ m := by exact_mod_cast hpos
      rw [abs_of_nonneg (by linarith), abs_of_nonneg (by linarith)] at hxaway
      linarith
    · have hm : (m : ℚ) + 1 ≤ 0 := by exact_mod_cast hneg
      rw [abs_of_nonpos (by linarith), abs_of_nonpos (by linarith)] at hyaway
      linarith
  exact le_antisymm (hle hy hx) (hle hx hy)

/-! ## The two lists -/

def speedValue (speed : String) : ℚ :=
  (prvRationalGetNumerator speed : ℚ) / prvRationalGetDenominator speed

/-- The double that is published for a string. -/
def shownSpeed (speed : String) : ℚ := prvRationalToDouble speed ratesPrecision

theorem shownSpeed_eq {speed : String} (hnum : prvRationalGetNumerator speed ≠ 0)
    (hden : prvRationalGetDenominator speed ≠ 0) :
    shownSpeed speed = roundAway
      ((prvRationalGetNumerator speed : ℚ) / prvRationalGetDenominator speed * 100) / 100 := by
  have hprecision : (1 / 100 : ℚ) ≠ 0 := by norm_num
  have hscale : ∀ x : ℚ, x / (1 / 100) = x * 100 := fun x => by
    rw [div_div_eq_mul_div, div_one]
  rw [shownSpeed, prvRationalToDouble, if_neg (not_or.mpr ⟨hnum, hden⟩), ratesPrecision,
    if_pos hprecision, hscale]
  exact mul_one_div _ _

theorem shownSpeed_of_invalid {speed : String}
    (h : prvRationalGetNumerator speed = 0 ∨ prvRationalGetDenominator speed = 0) :
    shownSpeed speed = 0 := by
  rw [shownSpeed, prvRationalToDouble, if_pos h]

theorem roundsTo_shownSpeed (speed : String) : RoundsTo (speedValue speed) (shownSpeed speed) := by
  by_cases hinvalid : prvRationalGetNumerator speed = 0 ∨ prvRationalGetDenominator speed = 0
  · have hzero : speedValue speed = 0 := by
      rw [speedValue, div_eq_zero_iff]
      exact_mod_cast hinvalid
    rw [hzero, shownSpeed_of_invalid hinvalid]
    exact ⟨⟨0, by norm_num⟩, by norm_num, by norm_num⟩
  · rw [not_or] at hinvalid
    rw [shownSpeed_eq hinvalid.1 hinvalid.2]
    exact roundsTo_roundAway _

/-- Where speeds are published, the device has their strings. -/
def SpeedsOk (dev : RsuDevice) : Prop :=
  ∀ value, dev.playerProps.lookup "TransportPlaySpeeds" = some value →
    ∃ speeds, dev.transportPlaySpeeds = some speeds ∧ value = .doubles (speeds.map shownSpeed)

theorem upnpTpSpeeds_add (rates : Rates) (rate : String) :
    (rates.add rate).upnpTpSpeeds =
      rates.upnpTpSpeeds ++ if prvRationalIsInvalid rate then [] else [rate] := by
  unfold Rates.add
  split
  · exact (List.append_nil _).symm
  · dsimp only
    split
    · rfl
    · split <;> rfl

theorem mprisTpSpeeds_add (rates : Rates) (rate : String) :
    (rates.add rate).mprisTpSpeeds = rates.mprisTpSpeeds ++
      if prvRationalIsInvalid rate then [] else [shownSpeed rate] := by
  unfold Rates.add
  split
  · exact (List.append_nil _).symm
  · dsimp only
    split
    · rfl
    · split <;> rfl

theorem upnpTpSpeeds_foldl (l : List String) (rates : Rates) :
    (l.foldl Rates.add rates).upnpTpSpeeds =
      rates.upnpTpSpeeds ++ l.filter fun rate => !prvRationalIsInvalid rate := by
  induction l generalizing rates with
  | nil => simp
  | cons rate l ih =>
      rw [List.foldl_cons, ih, upnpTpSpeeds_add, List.append_assoc, List.filter_cons]
      cases prvRationalIsInvalid rate <;> rfl

theorem mprisTpSpeeds_foldl (l : List String) (rates : Rates) :
    (l.foldl Rates.add rates).mprisTpSpeeds =
      rates.mprisTpSpeeds ++ (l.filter fun rate => !prvRationalIsInvalid rate).map shownSpeed := by
  induction l generalizing rates with
  | nil => simp
  | cons rate l ih =>
      rw [List.foldl_cons, ih, mprisTpSpeeds_add, List.append_assoc, List.filter_cons]
      cases prvRationalIsInvalid rate <;> rfl

/-- What the first use finds: the valid strings and what they are shown as. -/
theorem prvGetRatesValues_speeds {svi : Option (List String)} {rates : Rates}
    (h : prvGetRatesValues svi = some rates) : ∃ values, svi = some values ∧
      rates.upnpTpSpeeds = values.filter (fun rate => !prvRationalIsInvalid rate) ∧
      rates.mprisTpSpeeds = rates.upnpTpSpeeds.map shownSpeed := by
  unfold prvGetRatesValues at h
  split at h
  next first rest =>
    obtain rfl := Option.some.inj h
    refine ⟨first :: rest, rfl, ?_, ?_⟩
    · rw [upnpTpSpeeds_foldl, List.nil_append]
    · rw [mprisTpSpeeds_foldl, upnpTpSpeeds_foldl, List.nil_append, List.nil_append]
  · cases h

theorem prvGetAvServiceStatesValues_speeds {context : ContextInfo} {rates : Rates}
    (h : context.av.bind prvGetAvServiceStatesValues = some rates) :
    rates.mprisTpSpeeds = rates.upnpTpSpeeds.map shownSpeed := by
  obtain ⟨introspection, -, h⟩ := Option.bind_eq_some_iff.mp h
  obtain ⟨av, -, h⟩ := Option.bind_eq_some_iff.mp h
  obtain ⟨-, -, -, hspeeds⟩ := prvGetRatesValues_speeds h
  exact hspeeds

/-! ## Runs -/

theorem Input.writtenKeys_not_rates (i : Input) : ∀ key ∈ i.writtenKeys, key ∉ rateKeys := by
  unfold Input.writtenKeys
  split
  next change =>
    intro key hkey
    have hall : ∀ key ∈ "Metadata" :: (actionKeys ++ playbackKeys), key ∉ rateKeys := by decide
    exact hall key (AvLastChange.mem_writtenKeys hkey)
  · decide
  · decide
  · simp

theorem exec_rates (parseDidl : String → DidlParse) (s : Renderer)
    (hsyncs : i.syncs s.device = false) :
    (exec parseDidl s i).device.transportPlaySpeeds = s.device.transportPlaySpeeds ∧
      ∀ key ∈ rateKeys,
        (exec parseDidl s i).device.playerProps.lookup key = s.device.playerProps.lookup key := by
  constructor
  · by_cases hsink : ∃ sink, i = .sinkChange sink
    · obtain ⟨sink, rfl⟩ := hsink
      cases sink <;> rfl
    · exact (exec_rest parseDidl s hsyncs fun sink heq => hsink ⟨sink, heq⟩).transportPlaySpeeds
  · intro key hkey
    apply exec_lookup parseDidl s hsyncs
    · exact fun hwritten => i.writtenKeys_not_rates key hwritten hkey
    · rintro rfl
      exact absurd hkey (by decide)

/-- The actions that the first use publishes leave what it published of the rates. -/
theorem prvPropsUpdate_lookup (context : ContextInfo) (dev : RsuDevice) {key : String}
    (hkey : key ∈ rateKeys) : (prvPropsUpdate context dev).playerProps.lookup key =
      (ifSet (context.av.bind prvGetAvServiceStatesValues) publishRates
        ⟨readDescription context dev, some []⟩).device.playerProps.lookup key := by
  apply (prvAddAllActions_writes _).lookup
  revert key
  decide

/-- What the first use stores: the speeds of the description, if it has any. -/
theorem prvPropsUpdate_speeds (context : ContextInfo) (dev : RsuDevice) :
    match context.av.bind prvGetAvServiceStatesValues with
    | none => (prvPropsUpdate context dev).transportPlaySpeeds = dev.transportPlaySpeeds ∧
        ∀ key ∈ rateKeys,
          (prvPropsUpdate context dev).playerProps.lookup key = dev.playerProps.lookup key
    | some rates => (prvPropsUpdate context dev).transportPlaySpeeds = some rates.upnpTpSpeeds ∧
        (prvPropsUpdate context dev).playerProps.lookup "TransportPlaySpeeds" =
          some (.doubles rates.mprisTpSpeeds) := by
  have hrest := (publish_writes context ⟨readDescription context dev, some []⟩).rest
  have hspeeds : (prvPropsUpdate context dev).transportPlaySpeeds =
      (readDescription context dev).transportPlaySpeeds := hrest.transportPlaySpeeds
  have hprops : ∀ key ∈ rateKeys, (prvPropsUpdate context dev).playerProps.lookup key =
      (ifSet (context.av.bind prvGetAvServiceStatesValues) publishRates
        ⟨readDescription context dev, some []⟩).device.playerProps.lookup key :=
    fun key hkey => prvPropsUpdate_lookup context dev hkey
  rw [hspeeds, readDescription]
  rw [readDescription] at hprops
  cases hrates : context.av.bind prvGetAvServiceStatesValues with
  | none =>
      rw [hrates] at hprops
      exact ⟨rfl, hprops⟩
  | some rates =>
      rw [hrates] at hprops
      refine ⟨rfl, ?_⟩
      rw [hprops _ (by decide)]
      exact AList.lookup_insert _

theorem speedsOk_prvPropsUpdate (context : ContextInfo) (hok : SpeedsOk dev) :
    SpeedsOk (prvPropsUpdate context dev) := by
  intro value hvalue
  have hupdate := prvPropsUpdate_speeds context dev
  split at hupdate
  · rw [hupdate.1]
    rw [hupdate.2 _ (by decide)] at hvalue
    exact hok value hvalue
  next rates hrates =>
    rw [hupdate.2] at hvalue
    refine ⟨rates.upnpTpSpeeds, hupdate.1, ?_⟩
    rw [← Option.some.inj hvalue, prvGetAvServiceStatesValues_speeds hrates]

theorem speedsOk_step (hok : SpeedsOk s.device) : SpeedsOk (exec parseDidl s i).device := by
  have hrest : ∀ s, i.syncs s.device = false → SpeedsOk s.device →
      SpeedsOk (exec parseDidl s i).device := by
    intro s hsyncs hok value hvalue
    obtain ⟨hspeeds, hprops⟩ := exec_rates parseDidl s hsyncs
    rw [hprops _ (by decide)] at hvalue
    rw [hspeeds]
    exact hok value hvalue
  cases hsyncs : i.syncs s.device with
  | false => exact hrest s hsyncs hok
  | true =>
      obtain ⟨context, -, hexec⟩ := exec_firstUse parseDidl s hsyncs
      rw [hexec]
      apply hrest
      · exact i.syncs_of_synced (synced_prvPropsUpdate context s.device)
      · exact speedsOk_prvPropsUpdate context hok

theorem speedsOk (h : (renderer parseDidl).Reaches is s) : SpeedsOk s.device := by
  apply h.invariant (I := fun s => SpeedsOk s.device)
  · rintro s rfl value hvalue
    simp at hvalue
  · intro s i s' hok hstep
    obtain ⟨-, rfl⟩ := stepFn_eq hstep
    exact speedsOk_step hok

/-! ## The search -/

theorem findRate_eq (v : ℚ) (tps : List ℚ) :
    (findRate v tps).map Prod.fst = tps.find? fun x => |v - x| ≤ 1 / 100 := by
  calc
    (findRate v tps).map Prod.fst
        = (tps.zipIdx.map Prod.fst).find? fun x => |v - x| ≤ 1 / 100 := by
          rw [List.find?_map]
          rfl
    _ = tps.find? fun x => |v - x| ≤ 1 / 100 := by rw [List.zipIdx_map_fst]

theorem findRate_isSome_iff (v : ℚ) (tps : List ℚ) :
    (findRate v tps).isSome ↔ ∃ x ∈ tps, |v - x| ≤ 1 / 100 := by
  rw [← Option.isSome_map (f := Prod.fst), findRate_eq, List.find?_isSome]
  simp

theorem findRate_some {v x : ℚ} {tps : List ℚ} {n : ℕ} (h : findRate v tps = some (x, n)) :
    tps[n]? = some x ∧ |v - x| ≤ 1 / 100 := by
  refine ⟨List.mem_zipIdx_iff_getElem?.mp (List.mem_of_find?_eq_some h), ?_⟩
  simpa using List.find?_some h

/-- A speed of the list is picked if no other speed before it is close. -/
theorem find_close_iff {v : ℚ} {tps : List ℚ} (hv : v ∈ tps) :
    (tps.find? fun x => |v - x| ≤ 1 / 100) = some v ↔
      ∀ x ∈ tps.takeWhile (· ≠ v), 1 / 100 < |v - x| := by
  induction tps with
  | nil => simp at hv
  | cons y tps ih =>
      by_cases hy : y = v
      · subst hy
        simp
      · have hv' : v ∈ tps := (List.mem_cons.mp hv).resolve_left (Ne.symm hy)
        rw [List.takeWhile_cons_of_pos (by simpa using hy), List.forall_mem_cons, ← ih hv']
        by_cases hclose : |v - y| ≤ 1 / 100
        · rw [List.find?_cons_of_pos (by simpa using hclose)]
          refine iff_of_false (fun heq => hy (Option.some.inj heq)) ?_
          exact fun hfar => absurd hclose hfar.1.not_ge
        · rw [List.find?_cons_of_neg (by simpa using hclose)]
          exact ⟨fun hfind => ⟨lt_of_not_ge hclose, hfind⟩, fun h => h.2⟩

/-! ## What a Set(Rate) does -/

/-- A Set that is refused leaves the device alone. -/
inductive SetsRate (dev : RsuDevice) (params : Variant) : Writing × RsuDevice → Prop
  | refused {error : GError} :
      (∀ v tps, params = .double v →
        dev.playerProps.lookup "TransportPlaySpeeds" = some (.doubles tps) →
        findRate v tps = none) →
      SetsRate dev params (.completed (some error), dev)
  | set {v x : ℚ} {tps : List ℚ} {n : ℕ} {speeds : List String} {speed : String} :
      params = .double v →
      dev.playerProps.lookup "TransportPlaySpeeds" = some (.doubles tps) →
      findRate v tps = some (x, n) → dev.transportPlaySpeeds = some speeds → speed ∈ speeds →
      shownSpeed speed = x →
      SetsRate dev params (.completed none, { dev with
        rate := some speed, playerProps := dev.playerProps.insert "Rate" (.double x) })

theorem rsuDeviceSetProp_rate (hok : SpeedsOk dev) {interfaceName : String}
    (haccepted : interfaceName = interfacePlayer ∨ interfaceName = "") (params : Variant) :
    SetsRate dev params (rsuDeviceSetProp interfaceName "Rate" params dev) := by
  have hinterface : ¬(interfaceName ≠ interfacePlayer ∧ interfaceName ≠ "") := by tauto
  rw [rsuDeviceSetProp, if_neg hinterface, if_pos rfl]
  cases params with
  | double v =>
      rw [prvSetRate, prvGetRateValueFromDouble]
      cases hlisted : dev.playerProps.lookup "TransportPlaySpeeds" with
      | none => exact .refused fun v tps _ hlisted' => by simp [hlisted] at hlisted'
      | some value =>
          obtain ⟨speeds, hspeeds, rfl⟩ := hok value hlisted
          dsimp only
          cases hfind : findRate v (speeds.map shownSpeed) with
          | none =>
              apply SetsRate.refused
              intro v' tps hparams hlisted'
              obtain rfl := Variant.double.inj hparams
              obtain rfl := Variant.doubles.inj (Option.some.inj (hlisted.symm.trans hlisted'))
              exact hfind
          | some found =>
              obtain ⟨x, n⟩ := found
              obtain ⟨hx, -⟩ := findRate_some hfind
              rw [List.getElem?_map] at hx
              obtain ⟨speed, hspeed, rfl⟩ := Option.map_eq_some_iff.mp hx
              have hmem := List.mem_of_getElem? hspeed
              have hat : (dev.transportPlaySpeeds.getD [])[n]? = some speed := by
                rw [hspeeds, Option.getD_some, hspeed]
              dsimp only
              rw [hat]
              exact .set rfl hlisted hfind hspeeds hmem rfl
  | _ => exact .refused fun v tps hparams => by cases hparams

/-- A Set(Rate) stays in bounds, takes a speed that is close to the value and its own
string, and changes nothing where it fails. -/
theorem setRate_atomic (h : (renderer parseDidl).Reaches is s) :
    (∀ value, s.device.playerProps.lookup "TransportPlaySpeeds" = some value →
      ∃ (speeds : List String) (tps : List ℚ),
        s.device.transportPlaySpeeds = some speeds ∧ value = .doubles tps ∧
        speeds.length = tps.length ∧
        ∀ (n : ℕ) (speed : String), speeds[n]? = some speed →
          ∃ x, tps[n]? = some x ∧ RoundsTo (speedValue speed) x) ∧
    ∀ interfaceName, interfaceName = interfacePlayer ∨ interfaceName = "" →
      ∀ params writing dev, rsuDeviceSetProp interfaceName "Rate" params s.device = (writing, dev) →
        (writing = .completed none ↔ ∃ v tps, params = .double v ∧
          s.device.playerProps.lookup "TransportPlaySpeeds" = some (.doubles tps) ∧
          ∃ x ∈ tps, |v - x| ≤ 1 / 100) ∧
        (writing = .completed none → ∃ v speeds speed x, params = .double v ∧
          s.device.transportPlaySpeeds = some speeds ∧ speed ∈ speeds ∧
          RoundsTo (speedValue speed) x ∧ |v - x| ≤ 1 / 100 ∧ dev.rate = some speed ∧
          dev.playerProps.lookup "Rate" = some (.double x)) ∧
        (writing ≠ .completed none →
          dev.rate = s.device.rate ∧ dev.playerProps = s.device.playerProps) := by
  have hok := speedsOk h
  constructor
  · intro value hvalue
    obtain ⟨speeds, hspeeds, rfl⟩ := hok value hvalue
    refine ⟨speeds, _, hspeeds, rfl, by simp, fun n speed hspeed => ?_⟩
    refine ⟨shownSpeed speed, ?_, roundsTo_shownSpeed speed⟩
    rw [List.getElem?_map, hspeed]
    rfl
  · intro interfaceName haccepted params writing dev hset
    have hsets := rsuDeviceSetProp_rate hok haccepted params
    rw [hset] at hsets
    cases hsets with
    | refused hnone =>
        refine ⟨iff_of_false (by simp) ?_, fun hdone => by simp at hdone, fun _ => ⟨rfl, rfl⟩⟩
        rintro ⟨v, tps, hparams, hlisted, hclose⟩
        have hsome := (findRate_isSome_iff v tps).mpr hclose
        simp [hnone v tps hparams hlisted] at hsome
    | @set v x tps n speeds speed hparams hlisted hfind hspeeds hspeed hshown =>
        have hclose := (findRate_some hfind).2
        refine ⟨iff_of_true rfl ?_, fun _ => ?_, fun hfail => absurd rfl hfail⟩
        · exact ⟨v, tps, hparams, hlisted, (findRate_isSome_iff v tps).mp (by simp [hfind])⟩
        · subst hshown
          exact ⟨v, speeds, speed, _, hparams, hspeeds, hspeed, roundsTo_shownSpeed speed, hclose,
            rfl, AList.lookup_insert _⟩

def slowSpeeds : ContextInfo where
  deviceInfo := { udn := "uuid:1" }
  av := some (some ⟨some ["1/32", "fast", "1/64"]⟩)
  rc := none

def slowRenderer : Renderer := exec (fun _ => {}) {} (.getProp slowSpeeds "" "Rate")

theorem slowRenderer_reached :
    (renderer fun _ => {}).Reaches [.getProp slowSpeeds "" "Rate"] slowRenderer :=
  .step (.init rfl) rfl

theorem slowRenderer_listed : slowRenderer.device.playerProps.lookup "TransportPlaySpeeds" =
    some (.doubles [3 / 100, 2 / 100]) := by
  decide +kernel

theorem setRate_atomic_slow :
    (rsuDeviceSetProp "" "Rate" (.double (1 / 40)) slowRenderer.device).1 = .completed none := by
  have hsets := (setRate_atomic slowRenderer_reached).2 "" (.inr rfl) (.double (1 / 40)) _ _
    Prod.mk.eta.symm
  apply hsets.1.mpr
  exact ⟨1 / 40, _, rfl, slowRenderer_listed, 3 / 100, by decide +kernel, by decide +kernel⟩

/-- The Set of a listed speed takes that speed, and a string that is rounded to it. -/
def SelectsRate (dev : RsuDevice) (interfaceName : String) (v : ℚ) : Prop :=
  let set := rsuDeviceSetProp interfaceName "Rate" (.double v) dev
  set.1 = .completed none ∧ set.2.playerProps.lookup "Rate" = some (.double v) ∧
    ∃ speeds speed, dev.transportPlaySpeeds = some speeds ∧ speed ∈ speeds ∧
      set.2.rate = some speed ∧ RoundsTo (speedValue speed) v

/-- A listed speed is selected exactly if no other speed before it in the list is within
0.01 of it. -/
theorem setRate_listed (h : (renderer parseDidl).Reaches is s) {interfaceName : String}
    (haccepted : interfaceName = interfacePlayer ∨ interfaceName = "") {tps : List ℚ}
    (hlisted : s.device.playerProps.lookup "TransportPlaySpeeds" = some (.doubles tps)) {v : ℚ}
    (hv : v ∈ tps) :
    SelectsRate s.device interfaceName v ↔ ∀ x ∈ tps.takeWhile (· ≠ v), 1 / 100 < |v - x| := by
  have hsets := rsuDeviceSetProp_rate (speedsOk h) haccepted (.double v)
  rw [← find_close_iff hv, ← findRate_eq, SelectsRate]
  revert hsets
  generalize rsuDeviceSetProp interfaceName "Rate" (.double v) s.device = set
  intro hsets
  cases hsets with
  | refused hnone =>
      rw [hnone v tps rfl hlisted]
      simp
  | @set v' x tps' n speeds speed hparams hlisted' hfind hspeeds hspeed hshown =>
      obtain rfl := Variant.double.inj hparams
      obtain rfl := Variant.doubles.inj (Option.some.inj (hlisted.symm.trans hlisted'))
      rw [hfind, Option.map_some, Option.some.injEq]
      dsimp only
      constructor
      · rintro ⟨-, hrate, -⟩
        rw [AList.lookup_insert, Option.some.injEq] at hrate
        exact Variant.double.inj hrate
      · rintro rfl
        exact ⟨rfl, AList.lookup_insert _, speeds, speed, hspeeds, hspeed, rfl,
          hshown ▸ roundsTo_shownSpeed speed⟩

theorem setRate_listed_first : SelectsRate slowRenderer.device "" (3 / 100) := by
  apply (setRate_listed slowRenderer_reached (.inr rfl) slowRenderer_listed (by decide +kernel)).mpr
  decide +kernel

/-- Of 1/32 and 1/64, shown as 0.03 and 0.02, a Set of the second selects the first. -/
theorem slowRenderer_selects :
    ¬∀ parseDidl is s, (renderer parseDidl).Reaches is s → ∀ interfaceName,
      interfaceName = interfacePlayer ∨ interfaceName = "" → ∀ tps,
      s.device.playerProps.lookup "TransportPlaySpeeds" = some (.doubles tps) → ∀ v ∈ tps,
      SelectsRate s.device interfaceName v := by
  intro hall
  obtain ⟨-, hrate, -⟩ := hall _ _ _ slowRenderer_reached "" (.inr rfl) _ slowRenderer_listed
    (2 / 100) (by decide +kernel)
  have hother : (rsuDeviceSetProp "" "Rate" (.double (2 / 100))
      slowRenderer.device).2.playerProps.lookup "Rate" = some (.double (3 / 100)) := by
    decide +kernel
  rw [hother, Option.some.injEq] at hrate
  have hne : (3 / 100 : ℚ) ≠ 2 / 100 := by norm_num
  exact hne (Variant.double.inj hrate)

end RendererService.Props
