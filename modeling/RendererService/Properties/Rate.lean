import RendererService.Properties.Numbers
import RendererService.Properties.Speeds

/-!
# The rate that is shown and the rate that is played

The device keeps its rate twice, as the string that Play sends and as the double
of the property Rate.  Events read the string with `prv_map_transport_speed`, the
first use with `prv_rational_to_double`; on a fraction of integers the two come to
the same number, up to the rounding of the second.
-/

namespace RendererService.Props

open Assoc Transition Numeral

variable {dev : RsuDevice} {s s' : Renderer} {i : Input} {is : List Input}
  {parseDidl : String → DidlParse}

/-! ## Speeds -/

/-- The text of an integer other than zero, or of a fraction of two. -/
inductive IsSpeed (speed : String) : ℚ → Prop
  | whole {p : ℤ} : Padded isSpace speed.toList p → InInt p → p ≠ 0 → IsSpeed speed p
  | fraction {l r : List Char} {p q : ℤ} :
      speed.toList = l ++ '/' :: r → Padded isSpace l p → Padded isSpace r q → InInt p →
      InInt q → p ≠ 0 → q ≠ 0 → IsSpeed speed (p / q)

theorem padded_ne_nil {l : List Char} {n : ℤ} (h : Padded isSpace l n) : l ≠ [] := by
  obtain ⟨pre, num, post, -, hnum, -, rfl⟩ := h
  simp [hnum.ne_nil]

theorem prvMapTransportSpeed_eq {speed : String} {x : ℚ} (h : IsSpeed speed x) :
    prvMapTransportSpeed speed = x := by
  cases h with
  | whole hpad hint _ =>
      rw [prvMapTransportSpeed, gStrsplit_of_ne_nil (padded_ne_nil hpad),
        List.splitOn_eq_singleton (slash_not_mem hpad)]
      show (atoi (gStrstrip (String.ofList speed.toList)) : ℚ) = _
      rw [atoi_gStrstrip_padded hpad hint]
  | @fraction l r p q hspeed hl hr hp hq _ hq0 =>
      have hne : speed.toList ≠ [] := by simp [hspeed]
      rw [prvMapTransportSpeed, gStrsplit_of_ne_nil hne, hspeed,
        List.splitOn_append_cons_self_of_not_mem (slash_not_mem hl),
        List.splitOn_eq_singleton (slash_not_mem hr)]
      show (if atoi (gStrstrip (String.ofList r)) = 0 then 1
        else (atoi (gStrstrip (String.ofList l)) : ℚ) / atoi (gStrstrip (String.ofList r))) = _
      rw [atoi_gStrstrip_padded hl hp, atoi_gStrstrip_padded hr hq, if_neg hq0]

theorem IsSpeed.isFraction {speed : String} {x : ℚ} (h : IsSpeed speed x) :
    ∃ p q : ℤ, IsFraction speed p q ∧ p ≠ 0 ∧ q ≠ 0 ∧ x = p / q := by
  cases h with
  | @whole p hpad hp hp0 => exact ⟨p, 1, .whole hpad hp.inLong, hp0, one_ne_zero, by simp⟩
  | @fraction l r p q hspeed hl hr hp hq hp0 hq0 =>
      exact ⟨p, q, .fraction hspeed hl hr hp.inLong hq.inLong, hp0, hq0, rfl⟩

theorem IsSpeed.speedValue_eq {speed : String} {x : ℚ} (h : IsSpeed speed x) :
    speedValue speed = x := by
  obtain ⟨p, q, hspeed, -, -, rfl⟩ := h.isFraction
  obtain ⟨hnum, hden⟩ := prvRational_eq hspeed
  rw [speedValue, hnum, hden]

theorem abs_shownSpeed_sub_le {speed : String} {x : ℚ} (h : IsSpeed speed x) :
    |shownSpeed speed - x| ≤ 1 / 200 := by
  rw [← h.speedValue_eq]
  exact (roundsTo_shownSpeed speed).near

/-! ## Steps -/

def Input.speed? : Input → Option String
  | .avLastChange (some change) => change.transportPlaySpeed
  | _ => none

@[simp] theorem rate_prvChangeProps (key : String) (value : Variant) (u : Update) :
    (prvChangeProps key value u).device.rate = u.device.rate := rfl

theorem rate_ifSet {α : Type} {value : Option α} {f : α → Update → Update}
    (h : ∀ a u, (f a u).device.rate = u.device.rate) (u : Update) :
    (ifSet value f u).device.rate = u.device.rate := by
  cases value with
  | none => rfl
  | some a => exact h a u

theorem rate_publishRates (rates : Rates) (u : Update) :
    (publishRates rates u).device.rate = u.device.rate := by
  have hrate : ∀ key rate u, (publishRate key rate u).device.rate = u.device.rate := by
    intro key rate u
    unfold publishRate
    split <;> rfl
  rw [publishRates, rate_prvChangeProps, hrate, hrate]

theorem rate_prvPropsUpdate (context : ContextInfo) (dev : RsuDevice) :
    (prvPropsUpdate context dev).rate = dev.rate :=
  rate_ifSet rate_publishRates _

theorem rate_changeMetaData (parseDidl : String → DidlParse) (change : AvLastChange)
    (u : Update) : (changeMetaData parseDidl change u).device.rate = u.device.rate := by
  unfold changeMetaData
  dsimp only
  split
  · unfold prvAddTrackMetaData
    dsimp only
    split <;> rfl
  · exact (rate_ifSet (by intros; rfl) _).trans (rate_ifSet (by intros; rfl) u)

theorem rate_changeNumber (key : String) (parsed : Option UInt32) (u : Update) :
    (changeNumber key parsed u).device.rate = u.device.rate := by
  unfold changeNumber
  dsimp only
  split <;> rfl

/-- The speed of an event is stored as it is, and shown as the number it is read as. -/
theorem applyLastChange_rate (parseDidl : String → DidlParse) (change : AvLastChange)
    (u : Update) :
    match change.transportPlaySpeed with
    | none => (applyLastChange parseDidl change u).device.rate = u.device.rate
    | some speed => (applyLastChange parseDidl change u).device.rate = some speed ∧
        (applyLastChange parseDidl change u).device.playerProps.lookup "Rate" =
          some (.double (prvMapTransportSpeed speed)) := by
  have hbefore : (ifSet change.currentTransportActions prvAddActions
      (changeMetaData parseDidl change u)).device.rate = u.device.rate :=
    (rate_ifSet (by intros; rfl) _).trans (rate_changeMetaData parseDidl change u)
  unfold applyLastChange changePlayback
  cases change.transportPlaySpeed with
  | none =>
      show (changeNumber _ _ _).device.rate = _
      rw [rate_changeNumber, rate_changeNumber]
      exact (rate_ifSet (by intros; rfl) _).trans hbefore
  | some speed =>
      dsimp only
      constructor
      · rw [rate_changeNumber, rate_changeNumber]
        exact (rate_ifSet (by intros; rfl) _).trans rfl
      · rw [(changeNumber_writes "CurrentTrack" _ _).lookup (by decide),
          (changeNumber_writes "NumberOfTracks" _ _).lookup (by decide),
          (Writes.ifSet fun _ => prvChangeProps_writes "PlaybackStatus" _ _).lookup (by decide)]
        exact AList.lookup_insert _

theorem applyLastChange_lookup_rate (parseDidl : String → DidlParse) (change : AvLastChange)
    (u : Update) (hspeed : change.transportPlaySpeed = none) :
    (applyLastChange parseDidl change u).device.playerProps.lookup "Rate" =
      u.device.playerProps.lookup "Rate" := by
  unfold applyLastChange changePlayback
  rw [hspeed]
  calc
    _ = _ := (changeNumber_writes "CurrentTrack" _ _).lookup (by decide)
    _ = _ := (changeNumber_writes "NumberOfTracks" _ _).lookup (by decide)
    _ = _ := (Writes.ifSet fun _ => prvChangeProps_writes "PlaybackStatus" _ _).lookup (by decide)
    _ = _ := (Writes.ifSet fun actions => prvAddActions_writes actions _).lookup (by decide)
    _ = _ := (changeMetaData_writes parseDidl change u).lookup (by decide)

theorem exec_rate (parseDidl : String → DidlParse) (s : Renderer) (hset : i.isSet = false)
    (hsyncs : i.syncs s.device = false) :
    match i.speed? with
    | none => (exec parseDidl s i).device.rate = s.device.rate ∧
        (exec parseDidl s i).device.playerProps.lookup "Rate" =
          s.device.playerProps.lookup "Rate"
    | some speed => (exec parseDidl s i).device.rate = some speed ∧
        (exec parseDidl s i).device.playerProps.lookup "Rate" =
          some (.double (prvMapTransportSpeed speed)) := by
  have hsame : "Rate" ∉ i.writtenKeys → (exec parseDidl s i).device.playerProps.lookup "Rate" =
      s.device.playerProps.lookup "Rate" := (exec_reports parseDidl s hset hsyncs).lookup
  cases i with
  | avLastChange change =>
      cases change with
      | none => exact ⟨rfl, rfl⟩
      | some change =>
          have hchange := applyLastChange_rate parseDidl change ⟨s.device, some []⟩
          have hlookup := applyLastChange_lookup_rate parseDidl change ⟨s.device, some []⟩
          show match change.transportPlaySpeed with
            | none => _
            | some speed => _
          cases hspeed : change.transportPlaySpeed with
          | none =>
              rw [hspeed] at hchange
              exact ⟨hchange, hlookup hspeed⟩
          | some speed =>
              rw [hspeed] at hchange
              exact hchange
  | rcLastChange context change garbage =>
      refine ⟨?_, hsame (by simp [Input.writtenKeys])⟩
      cases change with
      | none => rfl
      | some change =>
          rw [exec, device_setDevice, exec_rcLastChange_device context change garbage hsyncs,
            storeVolume]
          split <;> rfl
  | sinkChange sink => cases sink <;> exact ⟨rfl, rfl⟩
  | getProp context interfaceName propName =>
      rw [exec, device_wait, exec_getProp_device context interfaceName propName hsyncs]
      exact ⟨rfl, rfl⟩
  | getAllProps context interfaceName =>
      rw [exec, device_wait, exec_getAllProps_device context interfaceName hsyncs]
      exact ⟨rfl, rfl⟩
  | setProp interfaceName propName params => cases hset
  | positionInfo localCb reply =>
      refine ⟨?_, hsame (by simp [Input.writtenKeys])⟩
      cases reply <;> rfl

/-! ## Runs -/

structure Input.OfSpeeds (i : Input) : Prop where
  event : ∀ speed ∈ i.speed?, ∃ x, IsSpeed speed x
  description : ∀ context ∈ i.context?, ∀ values, context.av = some (some ⟨some values⟩) →
    ∀ speed ∈ values, ∃ x, IsSpeed speed x

/-- The strings of the device are speeds, and the property shows the one that Play
sends. -/
structure RateOk (dev : RsuDevice) : Prop where
  speeds : ∀ speeds, dev.transportPlaySpeeds = some speeds → ∀ speed ∈ speeds, ∃ x, IsSpeed speed x
  rate : ∀ value, dev.playerProps.lookup "Rate" = some value →
    ∃ speed x r, dev.rate = some speed ∧ IsSpeed speed x ∧ value = .double r ∧ |r - x| ≤ 1 / 200

theorem rateOk_prvPropsUpdate {context : ContextInfo} (hok : RateOk dev)
    (hspeeds : ∀ values, context.av = some (some ⟨some values⟩) →
      ∀ speed ∈ values, ∃ x, IsSpeed speed x) : RateOk (prvPropsUpdate context dev) where
  speeds speeds hupnp speed hspeed := by
    have hupdate := prvPropsUpdate_speeds context dev
    split at hupdate
    · rw [hupdate.1] at hupnp
      exact hok.speeds speeds hupnp speed hspeed
    next rates hrates =>
      rw [hupdate.1, Option.some.injEq] at hupnp
      obtain ⟨introspection, hav, hrates⟩ := Option.bind_eq_some_iff.mp hrates
      obtain ⟨av, hintro, hrates⟩ := Option.bind_eq_some_iff.mp hrates
      obtain ⟨values, hvalues, hkept, -⟩ := prvGetRatesValues_speeds hrates
      have hav' : context.av = some (some ⟨some values⟩) := by rw [hav, hintro, ← hvalues]
      rw [← hupnp, hkept] at hspeed
      exact hspeeds values hav' speed (List.mem_filter.mp hspeed).1
  rate value hvalue := by
    have hrate : (prvPropsUpdate context dev).playerProps.lookup "Rate" =
        dev.playerProps.lookup "Rate" := (prvPropsUpdate_reports context dev).lookup (by decide)
    rw [rate_prvPropsUpdate]
    exact hok.rate value (hrate ▸ hvalue)

theorem rateOk_setProp (hok : RateOk dev) (hspeeds : SpeedsOk dev)
    (interfaceName propName : String) (params : Variant) :
    RateOk (rsuDeviceSetProp interfaceName propName params dev).2 := by
  by_cases haccepted : (interfaceName = interfacePlayer ∨ interfaceName = "") ∧ propName = "Rate"
  · obtain ⟨hinterface, rfl⟩ := haccepted
    have hsets := rsuDeviceSetProp_rate hspeeds hinterface params
    revert hsets
    generalize rsuDeviceSetProp interfaceName "Rate" params dev = set
    intro hsets
    cases hsets with
    | refused _ => exact hok
    | @set v x tps n speeds speed _ _ _ hupnp hspeed hshown =>
        refine ⟨hok.speeds, fun value hvalue => ?_⟩
        rw [AList.lookup_insert, Option.some.injEq] at hvalue
        obtain ⟨y, hy⟩ := hok.speeds speeds hupnp speed hspeed
        exact ⟨speed, y, x, rfl, hy, hvalue.symm, hshown ▸ abs_shownSpeed_sub_le hy⟩
  · have hpicked : dev.pickedRate interfaceName propName params = none := by
      unfold RsuDevice.pickedRate
      split
      · exact if_neg haccepted
      · rfl
    have hstores := rsuDeviceSetProp_device interfaceName propName params dev
    rw [hpicked] at hstores
    rw [hstores]
    exact hok

theorem rateOk_rest (hok : RateOk s.device) (hspeeds : SpeedsOk s.device) (hi : i.OfSpeeds)
    (hsyncs : i.syncs s.device = false) : RateOk (exec parseDidl s i).device := by
  cases hset : i.isSet with
  | true =>
      cases i with
      | setProp interfaceName propName params =>
          exact rateOk_setProp hok hspeeds interfaceName propName params
      | _ => cases hset
  | false =>
      have hupnp := (exec_rates parseDidl s hsyncs).1
      have hrate := exec_rate parseDidl s hset hsyncs
      refine ⟨fun speeds h => hok.speeds speeds (hupnp ▸ h), fun value hvalue => ?_⟩
      cases hspeed : i.speed? with
      | none =>
          rw [hspeed] at hrate
          rw [hrate.2] at hvalue
          rw [hrate.1]
          exact hok.rate value hvalue
      | some speed =>
          rw [hspeed] at hrate
          rw [hrate.2, Option.some.injEq] at hvalue
          obtain ⟨x, hx⟩ := hi.event speed hspeed
          have hread := prvMapTransportSpeed_eq hx
          refine ⟨speed, x, _, hrate.1, hx, hvalue.symm, ?_⟩
          rw [hread, sub_self, abs_zero]
          norm_num

theorem rateOk_step (hok : RateOk s.device) (hspeeds : SpeedsOk s.device) (hi : i.OfSpeeds) :
    RateOk (exec parseDidl s i).device := by
  cases hsyncs : i.syncs s.device with
  | false => exact rateOk_rest hok hspeeds hi hsyncs
  | true =>
      obtain ⟨context, hcontext, hexec⟩ := exec_firstUse parseDidl s hsyncs
      rw [hexec]
      apply rateOk_rest _ _ hi
      · exact i.syncs_of_synced (synced_prvPropsUpdate context s.device)
      · exact rateOk_prvPropsUpdate hok (hi.description context hcontext)
      · exact speedsOk_prvPropsUpdate context hspeeds

/-- In every run whose speeds are fractions of integers, the property Rate is within
1/200 of the rate that Play sends. -/
theorem rate_shown (h : (renderer parseDidl).Reaches is s) (hspeeds : ∀ i ∈ is, i.OfSpeeds)
    (value : Variant) (hrate : s.device.playerProps.lookup "Rate" = some value) :
    ∃ speed x r, s.device.rate = some speed ∧ IsSpeed speed x ∧ value = .double r ∧
      |r - x| ≤ 1 / 200 := by
  have hok : RateOk s.device := by
    refine h.trace_invariant (P := fun is s => (∀ i ∈ is, i.OfSpeeds) → RateOk s.device)
      ?_ ?_ hspeeds
    · rintro s rfl _
      exact ⟨fun speeds hspeeds => by simp at hspeeds, fun value hvalue => by simp at hvalue⟩
    · intro is s i s' hr hok hstep hspeeds
      obtain ⟨-, rfl⟩ := stepFn_eq hstep
      apply rateOk_step _ (speedsOk hr)
      · exact hspeeds i (List.mem_append_right _ List.mem_cons_self)
      · exact hok fun i hi => hspeeds i (List.mem_append_left _ hi)
  exact hok.rate value hrate

def speedEvent (speed : String) : Input := .avLastChange (some { transportPlaySpeed := some speed })

def thirdSpeed : ContextInfo where
  deviceInfo := { udn := "uuid:1" }
  av := some (some ⟨some ["1/3"]⟩)
  rc := none

def thirdRun : List Input :=
  [speedEvent " 1 /-3", .getProp thirdSpeed "" "Rate", .setProp "" "Rate" (.double (33 / 100))]

theorem thirdRun_ofSpeeds : ∀ i ∈ thirdRun, i.OfSpeeds := by
  have hone : ∀ pre post, (∀ c ∈ pre, isSpace c = true) → (∀ c ∈ post, isSpace c = true) →
      Padded isSpace (pre ++ ['1'] ++ post) ((value ['1'] : ℕ) : ℤ) :=
    fun pre post hpre hpost => ⟨pre, ['1'], post, hpre, .unsigned (by decide), hpost, rfl⟩
  have hminus : Padded isSpace ['-', '3'] (-((value ['3'] : ℕ) : ℤ)) :=
    ⟨[], ['-', '3'], [], by simp, .minus (by decide), by simp, rfl⟩
  have hthree : Padded isSpace ['3'] ((value ['3'] : ℕ) : ℤ) :=
    ⟨[], ['3'], [], by simp, .unsigned (by decide), by simp, rfl⟩
  have hblank : ∀ c ∈ [' '], isSpace c = true := by simp [isSpace]
  have hevent : IsSpeed " 1 /-3" _ := .fraction (by decide) (hone [' '] [' '] hblank hblank)
    hminus (by decide) (by decide) (by decide) (by decide)
  have hlisted : IsSpeed "1/3" _ := .fraction (by decide) (hone [] [] (by simp) (by simp)) hthree
    (by decide) (by decide) (by decide) (by decide)
  intro i hi
  simp only [thirdRun, List.mem_cons, List.not_mem_nil, or_false] at hi
  rcases hi with rfl | rfl | rfl
  · refine ⟨fun speed hmem => ?_, fun context hcontext => ?_⟩
    · obtain rfl := Option.some.inj hmem
      exact ⟨_, hevent⟩
    · simp [speedEvent, Input.context?] at hcontext
  · refine ⟨fun speed hmem => ?_, fun context hcontext values hvalues speed hmem => ?_⟩
    · simp [Input.speed?] at hmem
    · obtain rfl := Option.some.inj hcontext
      obtain rfl : ["1/3"] = values := by simpa [thirdSpeed] using hvalues
      obtain rfl := List.mem_singleton.mp hmem
      exact ⟨_, hlisted⟩
  · exact ⟨fun speed hmem => by simp [Input.speed?] at hmem,
      fun context hcontext => by simp [Input.context?] at hcontext⟩

/-- The Set stores the one allowed speed in place of that of the event. -/
theorem rate_shown_setThird : ∃ is s, (renderer fun _ => {}).Reaches is s ∧
    s.device.rate = some "1/3" ∧
    s.device.playerProps.lookup "Rate" = some (.double (33 / 100)) ∧
    ∃ speed x r, s.device.rate = some speed ∧ IsSpeed speed x ∧
      Variant.double (33 / 100) = .double r ∧ |r - x| ≤ 1 / 200 := by
  obtain ⟨s, hrun, hfinal⟩ := (Option.any_eq_true _ _).mp
    (show ((runFrom (stepFn fun _ => {}) thirdRun {}).any fun s => s.device.rate = some "1/3" ∧
      s.device.playerProps.lookup "Rate" = some (.double (33 / 100))) = true by decide +kernel)
  obtain ⟨hstring, hrate⟩ := of_decide_eq_true hfinal
  have hreach : (renderer fun _ => {}).Reaches thirdRun s := reaches_of_run hrun
  exact ⟨_, s, hreach, hstring, hrate, rate_shown hreach thirdRun_ofSpeeds _ hrate⟩

end RendererService.Props
