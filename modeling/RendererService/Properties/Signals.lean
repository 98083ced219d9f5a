import RendererService.Properties.Callbacks

/-!
# The dictionaries of the change signals

An event or a first use collects its changes in one builder, which does not merge the
entries of a key.  The writers are called so that each key comes once, but for the two
merges into Metadata.
-/

namespace RendererService.Props

open Assoc Transition

variable {keys keys' : List String} {u u' u'' : Update} {dev dev' : RsuDevice} {s s' : Renderer}
  {i : Input} {parseDidl : String → DidlParse}

/-! ## Writing in order -/

/-- The entries that are put into the player properties are those added to the builder,
and their keys are among the given ones, in this order. -/
def WritesInOrder (keys : List String) (u u' : Update) : Prop :=
  ∃ l : List (String × Variant), (l.map Prod.fst).Sublist keys ∧
    u'.device.playerProps = insertAll u.device.playerProps l ∧
    u'.changedPropsVb = u.changedPropsVb.map fun vb => vb ++ l

namespace WritesInOrder

theorem refl (keys : List String) (u : Update) : WritesInOrder keys u u :=
  ⟨[], List.nil_sublist keys, rfl, by simp⟩

theorem trans (h : WritesInOrder keys u u') (h' : WritesInOrder keys' u' u'') :
    WritesInOrder (keys ++ keys') u u'' := by
  obtain ⟨l, hkeys, hprops, hvb⟩ := h
  obtain ⟨l', hkeys', hprops', hvb'⟩ := h'
  refine ⟨l ++ l', ?_, ?_, ?_⟩
  · rw [List.map_append]
    exact hkeys.append hkeys'
  · rw [hprops', hprops, insertAll_append]
  · rw [hvb', hvb, Option.map_map]
    apply Option.map_congr
    intro vb _
    exact List.append_assoc vb l l'

theorem ifSet {α : Type} (value : Option α) {f : α → Update → Update}
    (h : ∀ a, WritesInOrder keys u (f a u)) : WritesInOrder keys u (Props.ifSet value f u) := by
  cases value with
  | none => exact refl keys u
  | some a => exact h a

end WritesInOrder

theorem prvChangeProps_inOrder (key : String) (value : Variant) (u : Update) :
    WritesInOrder [key] u (prvChangeProps key value u) :=
  ⟨[(key, value)], .refl _, rfl, rfl⟩

theorem changeAll_inOrder (l : List (String × Variant)) (u : Update) :
    WritesInOrder (l.map Prod.fst) u (changeAll l u) := by
  induction l generalizing u with
  | nil => exact .refl _ u
  | cons e l ih => exact (prvChangeProps_inOrder e.1 e.2 u).trans (ih _)

theorem prvAddActions_inOrder (actions : String) (u : Update) :
    WritesInOrder actionKeys u (prvAddActions actions u) := by
  rw [prvAddActions_eq]
  exact changeAll_inOrder (ActionFlags.changes _) u

theorem prvAddAllActions_inOrder (u : Update) :
    WritesInOrder (actionKeys.tail ++ ["CanControl"]) u (prvAddAllActions u) := by
  rw [prvAddAllActions_eq]
  exact changeAll_inOrder allActionChanges u

theorem changeNumber_inOrder (key : String) (parsed : Option UInt32) (u : Update) :
    WritesInOrder [key] u (changeNumber key parsed u) := by
  unfold changeNumber
  dsimp only
  split
  · exact prvChangeProps_inOrder key _ u
  · exact .refl _ u

theorem changePlayback_inOrder (change : AvLastChange) (u : Update) :
    WritesInOrder playbackKeys u (changePlayback change u) := by
  unfold changePlayback
  have hrate : ∀ playSpeed, WritesInOrder ["Rate"] u (changeRate playSpeed u) :=
    fun playSpeed => prvChangeProps_inOrder "Rate" _ u
  have hspeed := WritesInOrder.ifSet change.transportPlaySpeed hrate
  have hstate := hspeed.trans (.ifSet change.transportState fun state =>
    prvChangeProps_inOrder "PlaybackStatus" (.string (prvMapTransportState state)) _)
  have hnumber := hstate.trans (changeNumber_inOrder "NumberOfTracks" change.numberOfTracks _)
  exact hnumber.trans (changeNumber_inOrder "CurrentTrack" change.currentTrack _)

theorem publishRates_inOrder (rates : Rates) (u : Update) :
    WritesInOrder rateKeys u (publishRates rates u) := by
  have hrate : ∀ key rate u, WritesInOrder [key] u (publishRate key rate u) := by
    intro key rate u
    unfold publishRate
    split
    · exact prvChangeProps_inOrder key _ u
    · exact .refl _ u
  unfold publishRates
  have hmin := hrate "MinimumRate" rates.minRate u
  have hmax := hmin.trans (hrate "MaximumRate" rates.maxRate _)
  exact hmax.trans (prvChangeProps_inOrder "TransportPlaySpeeds" _ _)

/-! ## The signals of a step -/

def propsUpdate (context : ContextInfo) (dev : RsuDevice) : Update :=
  let u : Update := ⟨readDescription context dev, some []⟩
  let u := prvAddAllActions (ifSet (context.av.bind prvGetAvServiceStatesValues) publishRates u)
  { u with device := { u.device with synced := true } }

def volumeUpdate (deviceVolume : UInt32) (dev : RsuDevice) : Update :=
  prvChangeProps "Volume" (.double (deviceVolume.toNat / dev.maxVolume.toNat)) ⟨dev, some []⟩

def firstUpdate (context : ContextInfo) (dev : RsuDevice) : List Update :=
  if dev.synced then [] else [propsUpdate context dev]

/-- The updates that the input ends by emitting them, each with the device at that time. -/
def Input.updates (parseDidl : String → DidlParse) (dev : RsuDevice) : Input → List Update
  | .avLastChange (some change) => [applyLastChange parseDidl change ⟨dev, some []⟩]
  | .rcLastChange context (some change) garbage =>
      firstUpdate context dev ++
        if (syncProps context dev).maxVolume = 0 then []
        else [volumeUpdate (change.volume.getD garbage) (syncProps context dev)]
  | .getProp context interfaceName propName =>
      if (interfaceName = interfacePlayer ∨ interfaceName = "") ∧ propName = "Position" then []
      else firstUpdate context dev
  | .getAllProps context _ => firstUpdate context dev
  | .positionInfo _ (.ok relPos) => [prvAddReltime (gStrstrip relPos) ⟨dev, some []⟩]
  | _ => []

def Update.signal (u : Update) : PropertiesChanged := ⟨interfacePlayer, u.changedPropsVb.getD []⟩

theorem Writes.signals_emit (h : Writes keys ⟨dev, some []⟩ u) :
    u.emit.signals = dev.signals ++ [u.signal] := by
  have hsignals : u.device.signals = dev.signals := h.signals
  rw [Update.emit, prvEmitSignalPropertiesChanged, hsignals]
  rfl

theorem signals_syncProps (context : ContextInfo) (dev : RsuDevice) :
    (syncProps context dev).signals =
      dev.signals ++ (firstUpdate context dev).map Update.signal := by
  unfold syncProps firstUpdate
  split
  · exact (List.append_nil _).symm
  · have hsignals : (propsUpdate context dev).device.signals = dev.signals :=
      (publish_writes context ⟨readDescription context dev, some []⟩).signals
    show (propsUpdate context dev).emit.signals = _
    rw [Update.emit, prvEmitSignalPropertiesChanged, hsignals]
    rfl

theorem signals_storeVolume (deviceVolume : UInt32) (dev : RsuDevice) :
    (storeVolume deviceVolume dev).signals = dev.signals ++
      (if dev.maxVolume = 0 then [] else [volumeUpdate deviceVolume dev]).map Update.signal := by
  unfold storeVolume
  split
  · exact (List.append_nil _).symm
  · rfl

theorem exec_signals (parseDidl : String → DidlParse) (s : Renderer) (i : Input) :
    (exec parseDidl s i).device.signals =
      s.device.signals ++ (i.updates parseDidl s.device).map Update.signal := by
  cases i with
  | avLastChange change =>
      cases change with
      | none => exact (List.append_nil _).symm
      | some change => exact (applyLastChange_writes parseDidl change _).signals_emit
  | rcLastChange context change garbage =>
      cases change with
      | none => exact (List.append_nil _).symm
      | some change =>
          rw [exec, device_setDevice, prvRcLastChangeCb, signals_storeVolume, signals_syncProps,
            Input.updates, List.map_append, List.append_assoc]
  | sinkChange sink =>
      cases sink with
      | none => exact (List.append_nil _).symm
      | some protocolInfo => exact (List.append_nil _).symm
  | getProp context interfaceName propName =>
      rw [exec, device_wait, Input.updates, rsuDeviceGetProp]
      split
      · exact (List.append_nil _).symm
      · exact signals_syncProps context s.device
  | getAllProps context interfaceName =>
      rw [exec, device_wait, Input.updates, rsuDeviceGetAllProps, ← signals_syncProps]
      split
      · rfl
      · rfl
  | setProp interfaceName propName params =>
      have hstores := rsuDeviceSetProp_device interfaceName propName params s.device
      show (rsuDeviceSetProp interfaceName propName params s.device).2.signals = _
      split at hstores
      · rw [hstores]
        exact (List.append_nil _).symm
      next rate _ =>
        obtain ⟨upnpRate, hstores⟩ := hstores
        rw [hstores]
        exact (List.append_nil _).symm
  | positionInfo localCb reply =>
      cases reply with
      | error message => exact (List.append_nil _).symm
      | ok relPos => rfl

theorem playerProps_firstUpdate (context : ContextInfo) (dev : RsuDevice) :
    ∀ u ∈ firstUpdate context dev, (syncProps context dev).playerProps = u.device.playerProps := by
  intro u hu
  unfold firstUpdate at hu
  split at hu
  · cases hu
  next hsynced =>
    obtain rfl := List.mem_singleton.mp hu
    rw [syncProps, if_neg hsynced]
    rfl

/-- After the last signal the step changes no property any more. -/
theorem exec_updates_last (parseDidl : String → DidlParse) (s : Renderer) (i : Input) :
    ∀ u ∈ (i.updates parseDidl s.device).getLast?,
      (exec parseDidl s i).device.playerProps = u.device.playerProps := by
  intro u hu
  cases i with
  | avLastChange change =>
      cases change with
      | none => simp [Input.updates] at hu
      | some change =>
          obtain rfl := Option.some.inj hu
          rfl
  | rcLastChange context change garbage =>
      cases change with
      | none => simp [Input.updates] at hu
      | some change =>
          show (storeVolume (change.volume.getD garbage)
            (syncProps context s.device)).playerProps = _
          rw [Input.updates] at hu
          unfold storeVolume
          split
          next hzero =>
            rw [if_pos hzero, List.append_nil] at hu
            exact playerProps_firstUpdate context s.device u (List.mem_of_getLast? hu)
          next hzero =>
            rw [if_neg hzero, List.getLast?_append] at hu
            obtain rfl := Option.some.inj hu
            rfl
  | getProp context interfaceName propName =>
      rw [exec, device_wait, rsuDeviceGetProp]
      rw [Input.updates] at hu
      split at hu
      · simp at hu
      next hposition =>
        rw [if_neg hposition]
        exact playerProps_firstUpdate context s.device u (List.mem_of_getLast? hu)
  | getAllProps context interfaceName =>
      have hlast := playerProps_firstUpdate context s.device u (List.mem_of_getLast? hu)
      rw [exec, device_wait, rsuDeviceGetAllProps, ← hlast]
      split
      · rfl
      · rfl
  | positionInfo localCb reply =>
      cases reply with
      | error message => simp [Input.updates] at hu
      | ok relPos =>
          obtain rfl := Option.some.inj hu
          rfl
  | sinkChange sink => simp [Input.updates] at hu
  | setProp interfaceName propName params => simp [Input.updates] at hu

/-! ## Well-formed dictionaries -/

/-- The dictionary of the signal has each key once, with the value that is stored. -/
structure Update.WellFormed (u : Update) : Prop where
  nodup : (u.signal.changedProps.map Prod.fst).Nodup
  stored : ∀ e ∈ u.signal.changedProps, u.device.playerProps.lookup e.1 = some e.2

theorem WritesInOrder.wellFormed (h : WritesInOrder keys ⟨dev, some []⟩ u) (hkeys : keys.Nodup) :
    u.WellFormed := by
  obtain ⟨l, hsublist, hprops, hvb⟩ := h
  have hchanged : u.signal.changedProps = l := by
    rw [Update.signal, hvb]
    rfl
  have hnodup : (l.map Prod.fst).Nodup := hsublist.nodup hkeys
  refine ⟨?_, ?_⟩
  · rwa [hchanged]
  · intro e he
    rw [hchanged] at he
    rw [hprops]
    exact lookup_insertAll_of_mem hnodup he _

theorem propsUpdate_wellFormed (context : ContextInfo) (dev : RsuDevice) :
    (propsUpdate context dev).WellFormed := by
  have hrates : WritesInOrder rateKeys ⟨readDescription context dev, some []⟩
      (ifSet (context.av.bind prvGetAvServiceStatesValues) publishRates
        ⟨readDescription context dev, some []⟩) :=
    .ifSet _ fun rates => publishRates_inOrder rates _
  have hall : WritesInOrder (rateKeys ++ (actionKeys.tail ++ ["CanControl"]))
      ⟨readDescription context dev, some []⟩ (propsUpdate context dev) :=
    hrates.trans (prvAddAllActions_inOrder _)
  exact hall.wellFormed (by decide)

theorem firstUpdate_wellFormed (context : ContextInfo) (dev : RsuDevice) :
    ∀ u ∈ firstUpdate context dev, u.WellFormed := by
  intro u hu
  unfold firstUpdate at hu
  split at hu
  · cases hu
  · obtain rfl := List.mem_singleton.mp hu
    exact propsUpdate_wellFormed context dev

/-- The event has a duration and a URI, and no document to put them in. -/
def AvLastChange.mergesTwice (change : AvLastChange) : Bool :=
  change.currentTrackMetaData.isNone && change.currentTrackDuration.isSome &&
    change.currentTrackUri.isSome

theorem changeMetaData_inOrder (parseDidl : String → DidlParse) (change : AvLastChange)
    (hmerges : change.mergesTwice = false) (u : Update) :
    WritesInOrder ["Metadata"] u (changeMetaData parseDidl change u) := by
  have hmerge : ∀ key value, WritesInOrder ["Metadata"] u (prvMergeMetaData key value u) :=
    fun key value => prvChangeProps_inOrder "Metadata" _ u
  unfold changeMetaData
  cases hdocument : change.currentTrackMetaData with
  | some metaData =>
      dsimp only
      unfold prvAddTrackMetaData
      dsimp only
      split
      · exact prvChangeProps_inOrder "Metadata" _ u
      · exact .refl _ u
  | none =>
      cases hduration : change.currentTrackDuration with
      | none => exact .ifSet _ fun uri => hmerge "xesam:url" (.string uri)
      | some duration =>
          cases huri : change.currentTrackUri with
          | none => exact hmerge "mpris:length" (.int64 (prvDurationToInt64 duration))
          | some uri => simp [AvLastChange.mergesTwice, hdocument, hduration, huri] at hmerges

theorem changeMetaData_twice (parseDidl : String → DidlParse) (change : AvLastChange)
    (hmerges : change.mergesTwice = true) (dev : RsuDevice) : ∃ first second,
      (changeMetaData parseDidl change ⟨dev, some []⟩).changedPropsVb =
        some [("Metadata", first), ("Metadata", second)] := by
  obtain ⟨⟨hdocument, hduration⟩, huri⟩ : (change.currentTrackMetaData = none ∧
      change.currentTrackDuration.isSome) ∧ change.currentTrackUri.isSome := by
    simpa [AvLastChange.mergesTwice] using hmerges
  obtain ⟨duration, hduration⟩ := Option.isSome_iff_exists.mp hduration
  obtain ⟨uri, huri⟩ := Option.isSome_iff_exists.mp huri
  rw [changeMetaData, hdocument, hduration, huri]
  exact ⟨_, _, rfl⟩

theorem applyLastChange_wellFormed_iff (change : AvLastChange) (dev : RsuDevice) :
    (applyLastChange parseDidl change ⟨dev, some []⟩).WellFormed ↔ change.mergesTwice = false := by
  cases hmerges : change.mergesTwice with
  | false =>
      refine iff_of_true ?_ rfl
      have hmeta := changeMetaData_inOrder parseDidl change hmerges ⟨dev, some []⟩
      have hactions := hmeta.trans (.ifSet change.currentTransportActions fun actions =>
        prvAddActions_inOrder actions _)
      exact (hactions.trans (changePlayback_inOrder change _)).wellFormed (by decide)
  | true =>
      refine iff_of_false ?_ (by decide)
      intro hwell
      obtain ⟨first, second, htwice⟩ := changeMetaData_twice parseDidl change hmerges dev
      have hwrites : Writes (actionKeys ++ playbackKeys)
          (changeMetaData parseDidl change ⟨dev, some []⟩)
          (applyLastChange parseDidl change ⟨dev, some []⟩) := by
        apply Writes.trans (.ifSet fun actions => (prvAddActions_writes actions _).mono (by decide))
        exact (changePlayback_writes change _).mono (by decide)
      obtain ⟨l, -, -, hvb⟩ := hwrites.entries
      have hnodup := hwell.nodup
      rw [Update.signal, hvb, htwice] at hnodup
      simp at hnodup

def Input.mergesTwice : Input → Bool
  | .avLastChange (some change) => change.mergesTwice
  | _ => false

/-- For every device and every event or call: the signals it emits, the properties that
are stored at the last of them, and when their dictionaries are well formed. -/
theorem signals_wellFormed_iff (parseDidl : String → DidlParse) (s : Renderer) (i : Input) :
    (exec parseDidl s i).device.signals =
        s.device.signals ++ (i.updates parseDidl s.device).map Update.signal ∧
      (∀ u ∈ (i.updates parseDidl s.device).getLast?,
        (exec parseDidl s i).device.playerProps = u.device.playerProps) ∧
      ((∀ u ∈ i.updates parseDidl s.device, u.WellFormed) ↔ i.mergesTwice = false) := by
  refine ⟨exec_signals parseDidl s i, exec_updates_last parseDidl s i, ?_⟩
  cases i with
  | avLastChange change =>
      cases change with
      | none => simp [Input.updates, Input.mergesTwice]
      | some change =>
          rw [Input.updates, List.forall_mem_singleton]
          exact applyLastChange_wellFormed_iff change s.device
  | rcLastChange context change garbage =>
      refine iff_of_true ?_ rfl
      cases change with
      | none => simp [Input.updates]
      | some change =>
          rw [Input.updates, List.forall_mem_append]
          refine ⟨firstUpdate_wellFormed context s.device, ?_⟩
          split
          · simp
          · rw [List.forall_mem_singleton]
            exact (prvChangeProps_inOrder "Volume" _ _).wellFormed (by decide)
  | getProp context interfaceName propName =>
      refine iff_of_true ?_ rfl
      rw [Input.updates]
      split
      · simp
      · exact firstUpdate_wellFormed context s.device
  | getAllProps context interfaceName =>
      exact iff_of_true (firstUpdate_wellFormed context s.device) rfl
  | positionInfo localCb reply =>
      refine iff_of_true ?_ rfl
      cases reply with
      | error message => simp [Input.updates]
      | ok relPos =>
          rw [Input.updates, List.forall_mem_singleton]
          exact (prvChangeProps_inOrder "Position" _ _).wellFormed (by decide)
  | sinkChange sink => exact iff_of_true (by simp [Input.updates]) rfl
  | setProp interfaceName propName params => exact iff_of_true (by simp [Input.updates]) rfl

/-- An event with a duration and a URI is told with two values of Metadata, of which the
first is not the one that is stored. -/
theorem signals_wellFormed_twice : ¬∀ parseDidl is s, (renderer parseDidl).Reaches is s →
    ∀ signal ∈ s.device.signals, (signal.changedProps.map Prod.fst).Nodup := by
  intro hall
  let parseDidl : String → DidlParse := fun _ => {}
  let i := Input.avLastChange (some
    { currentTrackDuration := some "0:03:20", currentTrackUri := some "http://192.168.1.2/1.mp3" })
  have hreach : (renderer parseDidl).Reaches [i] (exec parseDidl {} i) := .step (.init rfl) rfl
  have hkeys : (exec parseDidl {} i).device.signals.map (fun signal =>
      signal.changedProps.map Prod.fst) = [["Metadata", "Metadata"]] := by decide +kernel
  have hmem : ["Metadata", "Metadata"] ∈ (exec parseDidl {} i).device.signals.map fun signal =>
      signal.changedProps.map Prod.fst := by
    rw [hkeys]
    exact List.mem_singleton_self _
  obtain ⟨signal, hsignal, htwice⟩ := List.mem_map.mp hmem
  have hnodup := hall parseDidl _ _ hreach signal hsignal
  rw [htwice] at hnodup
  revert hnodup
  decide

end RendererService.Props
