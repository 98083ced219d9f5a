import RendererService.Properties.Changes

/-!
# The steps of a renderer

What each callback and request does to the device: which properties it may write
and report, when it is the first use, and what a Set stores.
-/

namespace RendererService.Props

open Assoc Transition

variable {dev dev' : RsuDevice} {s s' : Renderer} {i : Input} {parseDidl : String → DidlParse}

/-! ## One step -/

@[simp] theorem device_wait (s : Renderer) (read : Reading × RsuDevice) :
    (s.wait read).device = read.2 := by
  unfold Renderer.wait
  split
  · rfl
  · rfl

@[simp] theorem device_setDevice (s : Renderer) (dev : RsuDevice) :
    (s.setDevice dev).device = dev := rfl

theorem stepFn_eq (h : stepFn parseDidl s i = some s') :
    i.enabled s = true ∧ s' = exec parseDidl s i := by
  unfold stepFn at h
  split at h
  next henabled => exact ⟨henabled, (Option.some.inj h).symm⟩
  · cases h

/-! ## First use -/

def syncKeys : List String := rateKeys ++ actionKeys

/-- What is published between the reading of the descriptions and the signal. -/
theorem publish_writes (context : ContextInfo) (u : Update) :
    Writes syncKeys u (prvAddAllActions
      (ifSet (context.av.bind prvGetAvServiceStatesValues) publishRates u)) := by
  apply Writes.trans _ ((prvAddAllActions_writes _).mono (by decide))
  exact .ifSet fun rates => (publishRates_writes rates u).mono (by decide)

theorem prvPropsUpdate_reports (context : ContextInfo) (dev : RsuDevice) :
    Reports syncKeys dev (prvPropsUpdate context dev) := by
  have hread : Reports syncKeys dev (readDescription context dev) := .of_eq rfl rfl
  have hpublish := publish_writes context ⟨readDescription context dev, some []⟩
  exact (hread.trans hpublish.reports).trans (.of_eq rfl rfl)

theorem synced_prvPropsUpdate (context : ContextInfo) (dev : RsuDevice) :
    (prvPropsUpdate context dev).synced = true := rfl

theorem maxVolume_prvPropsUpdate (context : ContextInfo) (dev : RsuDevice) :
    (prvPropsUpdate context dev).maxVolume =
      (context.rc.bind prvGetRcServiceStatesValues).getD dev.maxVolume :=
  (publish_writes context ⟨readDescription context dev, some []⟩).rest.maxVolume

def Input.context? : Input → Option ContextInfo
  | .rcLastChange context _ _ | .getProp context _ _ | .getAllProps context _ => some context
  | _ => none

def Input.syncs (dev : RsuDevice) : Input → Bool
  | .rcLastChange _ change _ => !dev.synced && change.isSome
  | .getProp _ interfaceName propName =>
      !dev.synced && !((interfaceName = interfacePlayer ∨ interfaceName = "") ∧
        propName = "Position")
  | .getAllProps _ _ => !dev.synced
  | _ => false

theorem Input.syncs_of_synced (i : Input) (hsynced : dev.synced = true) : i.syncs dev = false := by
  cases i <;> simp [Input.syncs, hsynced]

theorem syncProps_of_synced (context : ContextInfo) (hsynced : dev.synced = true) :
    syncProps context dev = dev :=
  if_pos hsynced

theorem syncProps_of_not_synced (context : ContextInfo) (hsynced : dev.synced = false) :
    syncProps context dev = prvPropsUpdate context dev := by
  rw [syncProps, if_neg (by simp [hsynced])]

/-- The first use is `prv_props_update`, and then the step it would have been. -/
theorem exec_firstUse (parseDidl : String → DidlParse) (s : Renderer)
    (hsyncs : i.syncs s.device = true) : ∃ context, i.context? = some context ∧
      exec parseDidl s i =
        exec parseDidl (s.setDevice (prvPropsUpdate context s.device)) i := by
  cases i with
  | rcLastChange context change garbage =>
      obtain ⟨hsynced, hchange⟩ : s.device.synced = false ∧ change.isSome = true := by
        simpa [Input.syncs] using hsyncs
      obtain ⟨change, rfl⟩ := Option.isSome_iff_exists.mp hchange
      refine ⟨context, rfl, ?_⟩
      simp only [exec, prvRcLastChangeCb, device_setDevice, syncProps_of_not_synced context hsynced,
        syncProps_of_synced context (synced_prvPropsUpdate context s.device)]
      rfl
  | getProp context interfaceName propName =>
      obtain ⟨hsynced, hposition⟩ : s.device.synced = false ∧
          ¬((interfaceName = interfacePlayer ∨ interfaceName = "") ∧ propName = "Position") := by
        simp only [Input.syncs, Bool.and_eq_true, Bool.not_eq_true', decide_eq_false_iff_not]
          at hsyncs
        exact hsyncs
      refine ⟨context, rfl, ?_⟩
      simp only [exec, rsuDeviceGetProp, if_neg hposition, device_setDevice,
        syncProps_of_not_synced context hsynced,
        syncProps_of_synced context (synced_prvPropsUpdate context s.device)]
      rfl
  | getAllProps context interfaceName =>
      have hsynced : s.device.synced = false := by simpa [Input.syncs] using hsyncs
      refine ⟨context, rfl, ?_⟩
      simp only [exec, rsuDeviceGetAllProps, device_setDevice,
        syncProps_of_not_synced context hsynced,
        syncProps_of_synced context (synced_prvPropsUpdate context s.device)]
      split
      · rfl
      · rfl
  | _ => cases hsyncs

/-! ## Other steps -/

theorem prvLastChangeCb_reports (parseDidl : String → DidlParse) (change : AvLastChange)
    (dev : RsuDevice) :
    Reports change.writtenKeys dev (prvLastChangeCb parseDidl (some change) dev) :=
  (applyLastChange_writes parseDidl change ⟨dev, some []⟩).reports

theorem storeVolume_reports (deviceVolume : UInt32) (dev : RsuDevice) :
    Reports ["Volume"] dev (storeVolume deviceVolume dev) := by
  unfold storeVolume
  split
  · exact .of_eq rfl rfl
  · exact (prvChangeProps_writes "Volume" _ _).reports

theorem storePosition_reports (reply : PositionReply) (dev : RsuDevice) :
    Reports ["Position"] dev (storePosition reply dev) := by
  cases reply with
  | error message => exact .of_eq rfl rfl
  | ok relPos => exact (prvChangeProps_writes "Position" _ _).reports

def Input.isSet : Input → Bool
  | .setProp .. => true
  | _ => false

/-- The properties that the input may write and report, the first use apart. -/
def Input.writtenKeys : Input → List String
  | .avLastChange (some change) => change.writtenKeys
  | .rcLastChange _ _ _ => ["Volume"]
  | .positionInfo _ _ => ["Position"]
  | _ => []

theorem exec_getProp_device (context : ContextInfo) (interfaceName propName : String)
    (hsyncs : (Input.getProp context interfaceName propName).syncs dev = false) :
    (rsuDeviceGetProp context interfaceName propName dev).2 = dev := by
  unfold rsuDeviceGetProp
  split
  · rfl
  next hposition =>
    have hsynced : dev.synced = true := by simpa [Input.syncs, hposition] using hsyncs
    exact syncProps_of_synced context hsynced

theorem exec_getAllProps_device (context : ContextInfo) (interfaceName : String)
    (hsyncs : (Input.getAllProps context interfaceName).syncs dev = false) :
    (rsuDeviceGetAllProps context interfaceName dev).2 = dev := by
  have hsynced : dev.synced = true := by simpa [Input.syncs] using hsyncs
  unfold rsuDeviceGetAllProps
  dsimp only
  split
  · exact syncProps_of_synced context hsynced
  · exact syncProps_of_synced context hsynced

theorem exec_rcLastChange_device (context : ContextInfo) (change : RcLastChange)
    (garbage : UInt32)
    (hsyncs : (Input.rcLastChange context (some change) garbage).syncs dev = false) :
    prvRcLastChangeCb context (some change) garbage dev =
      storeVolume (change.volume.getD garbage) dev := by
  have hsynced : dev.synced = true := by simpa [Input.syncs] using hsyncs
  rw [prvRcLastChangeCb, syncProps_of_synced context hsynced]

theorem exec_reports (parseDidl : String → DidlParse) (s : Renderer) (hi : i.isSet = false)
    (hsyncs : i.syncs s.device = false) :
    Reports i.writtenKeys s.device (exec parseDidl s i).device := by
  cases i with
  | avLastChange change =>
      cases change with
      | none => exact .of_eq rfl rfl
      | some change => exact prvLastChangeCb_reports parseDidl change s.device
  | rcLastChange context change garbage =>
      cases change with
      | none => exact .of_eq rfl rfl
      | some change =>
          rw [exec, device_setDevice, exec_rcLastChange_device context change garbage hsyncs]
          exact storeVolume_reports _ _
  | sinkChange sink =>
      cases sink with
      | none => exact .of_eq rfl rfl
      | some protocolInfo => exact .of_eq rfl rfl
  | getProp context interfaceName propName =>
      rw [exec, device_wait, exec_getProp_device context interfaceName propName hsyncs]
      exact .of_eq rfl rfl
  | getAllProps context interfaceName =>
      rw [exec, device_wait, exec_getAllProps_device context interfaceName hsyncs]
      exact .of_eq rfl rfl
  | setProp interfaceName propName params => cases hi
  | positionInfo localCb reply => exact storePosition_reports reply s.device

def playerKeys : List String :=
  "Metadata" :: (actionKeys ++ playbackKeys) ++ rateKeys ++ ["Volume", "Position"]

theorem Input.writtenKeys_player (i : Input) : ∀ key ∈ i.writtenKeys, key ∈ playerKeys := by
  unfold Input.writtenKeys
  split
  next change =>
    intro key hkey
    exact List.mem_append_left _ (List.mem_append_left _ (AvLastChange.mem_writtenKeys hkey))
  · decide
  · decide
  · decide

theorem exec_reports_player (parseDidl : String → DidlParse) (s : Renderer)
    (hi : i.isSet = false) : Reports playerKeys s.device (exec parseDidl s i).device := by
  cases hsyncs : i.syncs s.device with
  | false => exact (exec_reports parseDidl s hi hsyncs).mono i.writtenKeys_player
  | true =>
      obtain ⟨context, -, hexec⟩ := exec_firstUse parseDidl s hsyncs
      have hsynced := i.syncs_of_synced (synced_prvPropsUpdate context s.device)
      have hupdate : Reports playerKeys s.device (prvPropsUpdate context s.device) :=
        (prvPropsUpdate_reports context s.device).mono (by decide)
      have hrest :=
        exec_reports parseDidl (s.setDevice (prvPropsUpdate context s.device)) hi hsynced
      rw [hexec]
      exact hupdate.trans (hrest.mono i.writtenKeys_player)

/-! ## Sets -/

def RsuDevice.listedRate (dev : RsuDevice) (mprisRate : ℚ) : Option ℚ :=
  match dev.playerProps.lookup "TransportPlaySpeeds" with
  | some (.doubles tps) => (findRate mprisRate tps).map Prod.fst
  | _ => none

def RsuDevice.pickedRate (dev : RsuDevice) (interfaceName propName : String) (params : Variant) :
    Option ℚ :=
  match params with
  | .double mprisRate =>
      if (interfaceName = interfacePlayer ∨ interfaceName = "") ∧ propName = "Rate" then
        dev.listedRate mprisRate
      else none
  | _ => none

theorem listedRate_ok {mprisRate : ℚ} {found : ℚ × Option String}
    (h : prvGetRateValueFromDouble mprisRate dev = .ok found) :
    dev.listedRate mprisRate = some found.1 := by
  rw [RsuDevice.listedRate]
  rw [prvGetRateValueFromDouble] at h
  generalize dev.playerProps.lookup "TransportPlaySpeeds" = speeds at h ⊢
  match speeds, h with
  | some (.doubles tps), h =>
      cases hfind : findRate mprisRate tps with
      | none =>
          simp only [hfind] at h
          cases h
      | some speed =>
          simp only [hfind] at h
          obtain rfl := Except.ok.inj h
          simp only [hfind, Option.map_some]

theorem listedRate_error {mprisRate : ℚ} {error : GError}
    (h : prvGetRateValueFromDouble mprisRate dev = .error error) :
    dev.listedRate mprisRate = none := by
  rw [RsuDevice.listedRate]
  rw [prvGetRateValueFromDouble] at h
  generalize dev.playerProps.lookup "TransportPlaySpeeds" = speeds at h ⊢
  rcases speeds with - | speeds
  · rfl
  cases speeds with
  | doubles tps =>
      cases hfind : findRate mprisRate tps with
      | none => simp only [hfind, Option.map_none]
      | some speed =>
          simp only [hfind] at h
          cases h
  | _ => rfl

theorem rsuDeviceSetProp_device (interfaceName propName : String) (params : Variant)
    (dev : RsuDevice) :
    match dev.pickedRate interfaceName propName params with
    | none => (rsuDeviceSetProp interfaceName propName params dev).2 = dev
    | some rate => ∃ upnpRate, (rsuDeviceSetProp interfaceName propName params dev).2 =
        { dev with
          rate := upnpRate, playerProps := dev.playerProps.insert "Rate" (.double rate) } := by
  by_cases haccepted : (interfaceName = interfacePlayer ∨ interfaceName = "") ∧ propName = "Rate"
  · have hinterface : ¬(interfaceName ≠ interfacePlayer ∧ interfaceName ≠ "") := by tauto
    simp only [rsuDeviceSetProp, if_neg hinterface, if_pos haccepted.2]
    cases params with
    | double mprisRate =>
        simp only [RsuDevice.pickedRate, if_pos haccepted, prvSetRate]
        cases hfound : prvGetRateValueFromDouble mprisRate dev with
        | error error => rw [listedRate_error hfound]
        | ok found =>
            rw [listedRate_ok hfound]
            exact ⟨found.2, rfl⟩
    | _ => rfl
  · have hpicked : dev.pickedRate interfaceName propName params = none := by
      unfold RsuDevice.pickedRate
      split
      · exact if_neg haccepted
      · rfl
    rw [hpicked]
    show (rsuDeviceSetProp interfaceName propName params dev).2 = dev
    unfold rsuDeviceSetProp
    split
    · rfl
    next hinterface =>
      have hrate : propName ≠ "Rate" := fun hrate => haccepted ⟨by tauto, hrate⟩
      rw [if_neg hrate]
      split
      · rfl
      · rfl

theorem rsuDeviceSetProp_lookup (interfaceName propName : String) (params : Variant)
    (dev : RsuDevice) {key : String} (hkey : key ≠ "Rate") :
    (rsuDeviceSetProp interfaceName propName params dev).2.playerProps.lookup key =
      dev.playerProps.lookup key := by
  have hstores := rsuDeviceSetProp_device interfaceName propName params dev
  split at hstores
  · rw [hstores]
  next rate _ =>
    obtain ⟨upnpRate, hstores⟩ := hstores
    rw [hstores]
    exact AList.lookup_insert_ne hkey

/-! ## What a step leaves alone -/

theorem exec_lookup (parseDidl : String → DidlParse) (s : Renderer) {key : String}
    (hsyncs : i.syncs s.device = false) (hwritten : key ∉ i.writtenKeys) (hrate : key ≠ "Rate") :
    (exec parseDidl s i).device.playerProps.lookup key = s.device.playerProps.lookup key := by
  cases hset : i.isSet with
  | false => exact (exec_reports parseDidl s hset hsyncs).lookup hwritten
  | true =>
      cases i with
      | setProp interfaceName propName params =>
          exact rsuDeviceSetProp_lookup interfaceName propName params s.device hrate
      | _ => cases hset

/-- A property that neither the input nor a first use writes keeps its value. -/
theorem exec_lookup_of_not_sync (parseDidl : String → DidlParse) (s : Renderer) {key : String}
    (hsync : key ∉ syncKeys) (hwritten : key ∉ i.writtenKeys) (hrate : key ≠ "Rate") :
    (exec parseDidl s i).device.playerProps.lookup key = s.device.playerProps.lookup key := by
  cases hsyncs : i.syncs s.device with
  | false => exact exec_lookup parseDidl s hsyncs hwritten hrate
  | true =>
      obtain ⟨context, -, hexec⟩ := exec_firstUse parseDidl s hsyncs
      have hafter := i.syncs_of_synced (synced_prvPropsUpdate context s.device)
      have hrest :=
        exec_lookup parseDidl (s.setDevice (prvPropsUpdate context s.device)) hafter hwritten hrate
      rw [hexec, hrest]
      exact (prvPropsUpdate_reports context s.device).lookup hsync

theorem rsuDeviceSetProp_rest (interfaceName propName : String) (params : Variant)
    (dev : RsuDevice) : SameRest dev (rsuDeviceSetProp interfaceName propName params dev).2 := by
  have hstores := rsuDeviceSetProp_device interfaceName propName params dev
  split at hstores
  · rw [hstores]
    exact .refl
  next rate _ =>
    obtain ⟨upnpRate, hstores⟩ := hstores
    rw [hstores]
    exact ⟨rfl, rfl, rfl, rfl, rfl⟩

/-- Only the first use and the protocols of a sink change more than the player
properties. -/
theorem exec_rest (parseDidl : String → DidlParse) (s : Renderer)
    (hsyncs : i.syncs s.device = false) (hsink : ∀ sink, i ≠ .sinkChange sink) :
    SameRest s.device (exec parseDidl s i).device := by
  cases i with
  | avLastChange change =>
      cases change with
      | none => exact .refl
      | some change =>
          have hwrites := applyLastChange_writes parseDidl change ⟨s.device, some []⟩
          have hrest := hwrites.rest
          exact ⟨hrest.rootProps, hrest.deviceProps, hrest.synced, hrest.maxVolume,
            hrest.transportPlaySpeeds⟩
  | rcLastChange context change garbage =>
      cases change with
      | none => exact .refl
      | some change =>
          rw [exec, device_setDevice, exec_rcLastChange_device context change garbage hsyncs,
            storeVolume]
          split
          · exact .refl
          · exact ⟨rfl, rfl, rfl, rfl, rfl⟩
  | sinkChange sink => exact absurd rfl (hsink sink)
  | getProp context interfaceName propName =>
      rw [exec, device_wait, exec_getProp_device context interfaceName propName hsyncs]
      exact .refl
  | getAllProps context interfaceName =>
      rw [exec, device_wait, exec_getAllProps_device context interfaceName hsyncs]
      exact .refl
  | setProp interfaceName propName params =>
      exact rsuDeviceSetProp_rest interfaceName propName params s.device
  | positionInfo localCb reply =>
      cases reply with
      | error message => exact .refl
      | ok relPos => exact ⟨rfl, rfl, rfl, rfl, rfl⟩

/-- A renderer with a hundred steps of volume that plays at single and double
speed. -/
def twoSpeeds : ContextInfo where
  deviceInfo := { udn := "uuid:1", friendlyName := some "Renderer" }
  av := some (some ⟨some ["1", "2"]⟩)
  rc := some (some ⟨some 100⟩)

end RendererService.Props
