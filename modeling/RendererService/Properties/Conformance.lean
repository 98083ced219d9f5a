import RendererService.Model.Introspection
import RendererService.Properties.Signals
import RendererService.Properties.Reads

/-!
# The properties are as the introspection declares them

GDBus does not check what the service puts into a reply to Get or into a signal.
Every writer keeps to the names and types that are declared for the interface of its
table.
-/

namespace RendererService.Props

open Assoc Transition

variable {u : Update} {dev : RsuDevice} {s : Renderer} {i : Input} {is : List Input}
  {parseDidl : String → DidlParse} {info : InterfaceInfo} {t : Table String Variant}
  {interfaceName propName : String} {error : Option GError}

def InterfaceInfo.Covers (info : InterfaceInfo) (t : Table String Variant) : Prop :=
  ∀ name value, t.lookup name = some value → info.Declares name value

def InterfaceInfo.DeclaresAll (info : InterfaceInfo) (l : List (String × Variant)) : Prop :=
  ∀ e ∈ l, info.Declares e.1 e.2

theorem InterfaceInfo.covers_empty : info.Covers ∅ := fun _ _ h => (nomatch h)

namespace InterfaceInfo.Covers

theorem insert (h : info.Covers t) (name : String) (value : Variant)
    (hdeclares : info.Declares name value) : info.Covers (t.insert name value) := by
  intro name' value' hlookup
  rw [lookup_insert_eq] at hlookup
  split at hlookup
  next heq =>
    obtain rfl := Option.some.inj hlookup
    rwa [heq]
  · exact h name' value' hlookup

theorem erase (h : info.Covers t) (name : String) : info.Covers (t.erase name) := by
  intro name' value' hlookup
  rw [lookup_erase_eq] at hlookup
  split at hlookup
  · cases hlookup
  · exact h name' value' hlookup

theorem insertString (h : info.Covers t) {name : String}
    (hstring : ∀ s, info.Declares name (.string s)) (value : Option String) :
    info.Covers (insertString name value t) := by
  cases value with
  | none => exact h.erase name
  | some s => exact h.insert name (.string s) (hstring s)

theorem declares_entries (h : info.Covers t) :
    info.DeclaresAll (t.entries.map fun e => (e.1, e.2)) := by
  intro e he
  obtain ⟨entry, hentry, rfl⟩ := List.mem_map.mp he
  exact h entry.1 entry.2 (lookup_of_mem_entries hentry)

end InterfaceInfo.Covers

/-- The tables and the signals of a device keep to the introspection. -/
structure RsuDevice.Conforms (dev : RsuDevice) : Prop where
  root : mpris.Covers dev.rootProps
  player : player.Covers dev.playerProps
  device : rendererDevice.Covers dev.deviceProps
  signals : ∀ signal ∈ dev.signals, signal.interface = Props.player.name ∧
    Props.player.DeclaresAll signal.changedProps

structure Update.Conforms (u : Update) : Prop where
  device : u.device.Conforms
  told : player.DeclaresAll (u.changedPropsVb.getD [])

theorem RsuDevice.Conforms.begin (h : dev.Conforms) : (⟨dev, some []⟩ : Update).Conforms :=
  ⟨h, fun _ he => (nomatch he)⟩

theorem RsuDevice.Conforms.silent (h : dev.Conforms) : (⟨dev, none⟩ : Update).Conforms :=
  ⟨h, fun _ he => (nomatch he)⟩

theorem Update.Conforms.emit (h : u.Conforms) : u.emit.Conforms := by
  refine ⟨h.device.root, h.device.player, h.device.device, ?_⟩
  intro signal hsignal
  cases List.mem_append.mp hsignal with
  | inl hold => exact h.device.signals signal hold
  | inr hnew =>
      obtain rfl := List.mem_singleton.mp hnew
      exact ⟨rfl, h.told⟩

/-! ## Each writer -/

theorem Update.Conforms.prvChangeProps (h : u.Conforms) (key : String) (value : Variant)
    (hdeclares : player.Declares key value) : (prvChangeProps key value u).Conforms := by
  refine ⟨⟨h.device.root, h.device.player.insert key value hdeclares, h.device.device,
    h.device.signals⟩, ?_⟩
  obtain ⟨device, vb⟩ := u
  cases vb with
  | none => exact fun _ he => (nomatch he)
  | some vb =>
      intro e he
      cases List.mem_append.mp he with
      | inl hold => exact h.told e hold
      | inr hnew =>
          obtain rfl := List.mem_singleton.mp hnew
          exact hdeclares

theorem Update.Conforms.ifSet {α : Type} (h : u.Conforms) (value : Option α)
    {f : α → Update → Update} (hf : ∀ a, (f a u).Conforms) :
    (Props.ifSet value f u).Conforms := by
  cases value with
  | none => exact h
  | some a => exact hf a

theorem Update.Conforms.changeAll (h : u.Conforms) {l : List (String × Variant)}
    (hl : player.DeclaresAll l) : (changeAll l u).Conforms := by
  induction l generalizing u with
  | nil => exact h
  | cons e l ih =>
      have hhead : (Props.prvChangeProps e.1 e.2 u).Conforms :=
        h.prvChangeProps e.1 e.2 (hl e List.mem_cons_self)
      exact ih hhead fun e' he' => hl e' (List.mem_cons_of_mem e he')

theorem ActionFlags.declares_changes (flags : ActionFlags) :
    player.DeclaresAll flags.changes := by
  unfold ActionFlags.changes
  simp only [InterfaceInfo.DeclaresAll, List.forall_mem_cons]
  exact ⟨rfl, rfl, rfl, rfl, rfl, rfl, fun _ he => (nomatch he)⟩

theorem Update.Conforms.prvAddActions (h : u.Conforms) (actions : String) :
    (prvAddActions actions u).Conforms := by
  rw [prvAddActions_eq]
  exact h.changeAll (ActionFlags.declares_changes _)

theorem Update.Conforms.prvAddAllActions (h : u.Conforms) : (prvAddAllActions u).Conforms := by
  rw [prvAddAllActions_eq]
  apply h.changeAll
  unfold InterfaceInfo.DeclaresAll
  decide

theorem Update.Conforms.prvMergeMetaData (h : u.Conforms) (key : String) (value : MetaValue) :
    (prvMergeMetaData key value u).Conforms :=
  h.prvChangeProps "Metadata" _ rfl

theorem Update.Conforms.changeMetaData (h : u.Conforms) (parseDidl : String → DidlParse)
    (change : AvLastChange) : (changeMetaData parseDidl change u).Conforms := by
  unfold Props.changeMetaData
  dsimp only
  split
  · unfold prvAddTrackMetaData
    dsimp only
    split
    · exact h.prvChangeProps "Metadata" _ rfl
    · exact h
  · have hlength := h.ifSet change.currentTrackDuration fun duration =>
      h.prvMergeMetaData "mpris:length" (.int64 (prvDurationToInt64 duration))
    exact hlength.ifSet change.currentTrackUri fun uri =>
      hlength.prvMergeMetaData "xesam:url" (.string uri)

theorem Update.Conforms.changeRate (h : u.Conforms) (playSpeed : String) :
    (changeRate playSpeed u).Conforms := by
  have hchange : (Props.prvChangeProps "Rate"
    (.double (prvMapTransportSpeed playSpeed)) u).Conforms := h.prvChangeProps "Rate" _ rfl
  exact ⟨⟨hchange.device.root, hchange.device.player, hchange.device.device,
    hchange.device.signals⟩, hchange.told⟩

theorem Update.Conforms.changeNumber (h : u.Conforms) (key : String)
    (hkey : ∀ n, player.Declares key (.uint32 n)) (parsed : Option UInt32) :
    (changeNumber key parsed u).Conforms := by
  unfold Props.changeNumber
  dsimp only
  split
  · exact h.prvChangeProps key _ (hkey _)
  · exact h

theorem Update.Conforms.changePlayback (h : u.Conforms) (change : AvLastChange) :
    (changePlayback change u).Conforms := by
  have hspeed := h.ifSet change.transportPlaySpeed fun playSpeed => h.changeRate playSpeed
  have hstate := hspeed.ifSet change.transportState fun state =>
    hspeed.prvChangeProps "PlaybackStatus" (.string (prvMapTransportState state)) rfl
  have hnumber := hstate.changeNumber "NumberOfTracks" (fun _ => rfl) change.numberOfTracks
  exact hnumber.changeNumber "CurrentTrack" (fun _ => rfl) change.currentTrack

theorem Update.Conforms.applyLastChange (h : u.Conforms) (parseDidl : String → DidlParse)
    (change : AvLastChange) : (applyLastChange parseDidl change u).Conforms := by
  have hmeta := h.changeMetaData parseDidl change
  have hactions := hmeta.ifSet change.currentTransportActions fun actions =>
    hmeta.prvAddActions actions
  exact hactions.changePlayback change

theorem Update.Conforms.publishRate (h : u.Conforms) (key : String)
    (hkey : ∀ x, player.Declares key (.double x)) (rate : ℚ) :
    (publishRate key rate u).Conforms := by
  unfold Props.publishRate
  split
  · exact h.prvChangeProps key _ (hkey rate)
  · exact h

theorem Update.Conforms.publishRates (h : u.Conforms) (rates : Rates) :
    (publishRates rates u).Conforms := by
  have hmin := h.publishRate "MinimumRate" (fun _ => rfl) rates.minRate
  have hmax := hmin.publishRate "MaximumRate" (fun _ => rfl) rates.maxRate
  exact hmax.prvChangeProps "TransportPlaySpeeds" _ rfl

/-! ## First use, volumes, positions and protocols -/

theorem InterfaceInfo.Covers.prvUpdateDeviceProps (h : rendererDevice.Covers t)
    (description : DeviceInfo) : rendererDevice.Covers (prvUpdateDeviceProps description t) := by
  unfold Props.prvUpdateDeviceProps
  iterate 11 refine InterfaceInfo.Covers.insertString ?_ (by exact fun _ => rfl) _
  exact h

theorem InterfaceInfo.Covers.updateRootProps (h : mpris.Covers t)
    {deviceProps : Table String Variant} (hdevice : rendererDevice.Covers deviceProps) :
    mpris.Covers (updateRootProps deviceProps t) := by
  have hflags : mpris.Covers ((((t.insert "CanQuit" (.boolean false)).insert "CanRaise"
      (.boolean false)).insert "CanSetFullscreen" (.boolean false)).insert "HasTrackList"
      (.boolean false)) :=
    (((h.insert "CanQuit" (.boolean false) rfl).insert "CanRaise" (.boolean false) rfl).insert
      "CanSetFullscreen" (.boolean false) rfl).insert "HasTrackList" (.boolean false) rfl
  unfold Props.updateRootProps
  dsimp only
  split
  next name hname =>
    have hstring : rendererDevice.Declares "FriendlyName" name := hdevice _ _ hname
    exact hflags.insert "Identity" name hstring
  · exact hflags.erase "Identity"

theorem RsuDevice.Conforms.readDescription (h : dev.Conforms) (context : ContextInfo) :
    (readDescription context dev).Conforms :=
  have hdevice := h.device.prvUpdateDeviceProps context.deviceInfo
  ⟨h.root.updateRootProps hdevice, h.player, hdevice, h.signals⟩

theorem RsuDevice.Conforms.prvPropsUpdate (h : dev.Conforms) (context : ContextInfo) :
    (prvPropsUpdate context dev).Conforms := by
  have hread := (h.readDescription context).begin
  have hrates := hread.ifSet (context.av.bind prvGetAvServiceStatesValues)
    fun rates => hread.publishRates rates
  have hactions := hrates.prvAddAllActions
  have hupdate : (propsUpdate context dev).Conforms :=
    ⟨⟨hactions.device.root, hactions.device.player, hactions.device.device,
      hactions.device.signals⟩, hactions.told⟩
  exact hupdate.emit

theorem RsuDevice.Conforms.syncProps (h : dev.Conforms) (context : ContextInfo) :
    (syncProps context dev).Conforms := by
  unfold Props.syncProps
  split
  · exact h
  · exact h.prvPropsUpdate context

theorem RsuDevice.Conforms.storeVolume (h : dev.Conforms) (deviceVolume : UInt32) :
    (storeVolume deviceVolume dev).Conforms := by
  unfold Props.storeVolume
  split
  · exact h
  · exact (h.begin.prvChangeProps "Volume" (.double _) rfl).emit

theorem RsuDevice.Conforms.storePosition (h : dev.Conforms) (reply : PositionReply) :
    (storePosition reply dev).Conforms := by
  cases reply with
  | error message => exact h
  | ok relPos => exact (h.begin.prvChangeProps "Position" (.int64 _) rfl).emit

theorem RsuDevice.Conforms.prvSinkChangeCb (h : dev.Conforms) (sink : Option String) :
    (prvSinkChangeCb sink dev).Conforms := by
  cases sink with
  | none => exact h
  | some protocolInfo =>
      have hprotocols : ∀ names, mpris.Declares "SupportedUriSchemes" (.strings names) :=
        fun _ => rfl
      have htypes : ∀ names, mpris.Declares "SupportedMimeTypes" (.strings names) := fun _ => rfl
      exact ⟨(h.root.insert _ _ (hprotocols _)).insert _ _ (htypes _), h.player,
        h.device.insert "ProtocolInfo" (.string protocolInfo) rfl, h.signals⟩

theorem RsuDevice.Conforms.rsuDeviceSetProp (h : dev.Conforms)
    (interfaceName propName : String) (params : Variant) :
    (rsuDeviceSetProp interfaceName propName params dev).2.Conforms := by
  have hstores := rsuDeviceSetProp_device interfaceName propName params dev
  split at hstores
  · rwa [hstores]
  next rate _ =>
    obtain ⟨upnpRate, hstores⟩ := hstores
    rw [hstores]
    exact ⟨h.root, h.player.insert "Rate" (.double rate) rfl, h.device, h.signals⟩

/-! ## Runs -/

theorem RsuDevice.Conforms.exec (h : s.device.Conforms) (parseDidl : String → DidlParse)
    (i : Input) : (exec parseDidl s i).device.Conforms := by
  cases i with
  | avLastChange change =>
      cases change with
      | none => exact h
      | some change => exact (h.begin.applyLastChange parseDidl change).emit
  | rcLastChange context change garbage =>
      cases change with
      | none => exact h
      | some change => exact (h.syncProps context).storeVolume _
  | sinkChange sink => exact h.prvSinkChangeCb sink
  | getProp context interfaceName propName =>
      rw [Props.exec, device_wait, rsuDeviceGetProp]
      split
      · exact h
      · exact h.syncProps context
  | getAllProps context interfaceName =>
      rw [Props.exec, device_wait, rsuDeviceGetAllProps]
      split
      · exact h.syncProps context
      · exact h.syncProps context
  | setProp interfaceName propName params => exact h.rsuDeviceSetProp interfaceName propName params
  | positionInfo localCb reply => exact h.storePosition reply

theorem conforms (h : (renderer parseDidl).Reaches is s) : s.device.Conforms := by
  refine h.invariant (I := fun s => s.device.Conforms) ?_ ?_
  · intro s hstart
    obtain rfl : s = {} := hstart
    exact ⟨InterfaceInfo.covers_empty, InterfaceInfo.covers_empty, InterfaceInfo.covers_empty,
      fun _ hsignal => (nomatch hsignal)⟩
  · intro s i s' hconforms hstep
    obtain ⟨-, rfl⟩ := stepFn_eq hstep
    exact hconforms.exec parseDidl i

/-! ## Reads and Sets -/

/-- The interface that a name asks for; the empty name asks for each of them. -/
def InterfaceInfo.Asked (interfaceName : String) (info : InterfaceInfo) : Prop :=
  info ∈ gRsuServerIntrospection ∧ (interfaceName = info.name ∨ interfaceName = "")

def InterfaceInfo.Listed (interfaceName : String) (info : InterfaceInfo) : Prop :=
  info.Asked interfaceName ∨ (interfaceName = interfaceServer ∧ info = rendererDevice)

theorem RsuDevice.Conforms.searched (h : dev.Conforms) {tables : List (Table String Variant)}
    (hsearched : dev.searched interfaceName = some tables) :
    ∀ t ∈ tables, ∃ info : InterfaceInfo, info.Asked interfaceName ∧ info.Covers t := by
  have hroot : mpris ∈ gRsuServerIntrospection := .head _
  have hplayer : Props.player ∈ gRsuServerIntrospection := .tail _ (.head _)
  have hdevice : rendererDevice ∈ gRsuServerIntrospection := .tail _ (.tail _ (.head _))
  unfold RsuDevice.searched at hsearched
  split_ifs at hsearched with hisDevice hisRoot hisPlayer hany
  · obtain rfl := Option.some.inj hsearched
    rw [List.forall_mem_singleton]
    exact ⟨rendererDevice, ⟨hdevice, .inl hisDevice⟩, h.device⟩
  · obtain rfl := Option.some.inj hsearched
    rw [List.forall_mem_singleton]
    exact ⟨mpris, ⟨hroot, .inl hisRoot⟩, h.root⟩
  · obtain rfl := Option.some.inj hsearched
    rw [List.forall_mem_singleton]
    exact ⟨Props.player, ⟨hplayer, .inl hisPlayer⟩, h.player⟩
  · obtain rfl := Option.some.inj hsearched
    rw [List.forall_mem_cons, List.forall_mem_cons, List.forall_mem_singleton]
    exact ⟨⟨mpris, ⟨hroot, .inr hany⟩, h.root⟩, ⟨Props.player, ⟨hplayer, .inr hany⟩, h.player⟩,
      ⟨rendererDevice, ⟨hdevice, .inr hany⟩, h.device⟩⟩

theorem RsuDevice.Conforms.listed (h : dev.Conforms) {tables : List (Table String Variant)}
    (hlisted : dev.listed interfaceName = some tables) :
    ∀ t ∈ tables, ∃ info : InterfaceInfo, info.Listed interfaceName ∧ info.Covers t := by
  unfold RsuDevice.listed at hlisted
  split at hlisted
  next hisRoot =>
    obtain rfl := Option.some.inj hlisted
    rw [List.forall_mem_cons, List.forall_mem_singleton]
    exact ⟨⟨mpris, .inl ⟨.head _, .inl hisRoot⟩, h.root⟩,
      ⟨rendererDevice, .inr ⟨hisRoot, rfl⟩, h.device⟩⟩
  · intro t ht
    obtain ⟨info, hasked, hcovers⟩ := h.searched hlisted t ht
    exact ⟨info, .inl hasked, hcovers⟩

/-- What a Get returns is declared for an interface that it asks for. -/
theorem RsuDevice.Conforms.prvGetProp (h : dev.Conforms) {value : Variant}
    (hvalue : (prvGetProp interfaceName propName dev error).result = some (.value value)) :
    ∃ info : InterfaceInfo, info.Asked interfaceName ∧ info.Declares propName value := by
  rw [prvGetProp_eq] at hvalue
  cases hsearched : dev.searched interfaceName with
  | none => simp [hsearched] at hvalue
  | some tables =>
      cases hfound : lookupFirst tables propName with
      | none => simp [hsearched, hfound] at hvalue
      | some found =>
          obtain rfl : found = value := by simpa [hsearched, hfound] using hvalue
          obtain ⟨t, ht, hlookup⟩ := List.exists_of_findSome?_eq_some hfound
          obtain ⟨info, hasked, hcovers⟩ := h.searched hsearched t ht
          exact ⟨info, hasked, hcovers propName found hlookup⟩

theorem RsuDevice.Conforms.prvGetProps (h : dev.Conforms) {entries : List (String × Variant)}
    (hentries : (prvGetProps interfaceName dev error).result = some (.dictionary entries)) :
    ∀ e ∈ entries, ∃ info : InterfaceInfo, info.Listed interfaceName ∧
      info.Declares e.1 e.2 := by
  rw [prvGetProps_eq] at hentries
  cases hlisted : dev.listed interfaceName with
  | none => simp [hlisted] at hentries
  | some tables =>
      obtain rfl : allEntries tables = entries := by simpa [hlisted] using hentries
      intro e he
      obtain ⟨t, ht, hmem⟩ := List.mem_flatMap.mp he
      obtain ⟨info, hasked, hcovers⟩ := h.listed hlisted t ht
      exact ⟨info, hasked, hcovers.declares_entries e hmem⟩

def Writing.Refused (writing : Writing) : Prop :=
  ∃ error : GError, writing = .completed (some error) ∧
    (error.code = .unknownInterface ∨ error.code = .unknownProperty)

theorem InterfaceInfo.lookupProperty_some {name : String} {property : PropertyInfo}
    (h : info.lookupProperty name = some property) :
    property ∈ info.properties ∧ property.name = name := by
  unfold InterfaceInfo.lookupProperty at h
  exact ⟨List.mem_of_find?_eq_some h, by simpa using List.find?_some h⟩

theorem lookupProperty_writable (name : String) :
    (player.lookupProperty name).map PropertyInfo.access = some .readwrite ↔
      name = "Rate" ∨ name = "Volume" := by
  constructor
  · intro haccess
    obtain ⟨property, hfound, hwritable⟩ := Option.map_eq_some_iff.mp haccess
    obtain ⟨hmem, hname⟩ := InterfaceInfo.lookupProperty_some hfound
    have hall : ∀ property ∈ player.properties, property.access = .readwrite →
        property.name = "Rate" ∨ property.name = "Volume" := by decide
    rw [← hname]
    exact hall property hmem hwritable
  · rintro (rfl | rfl)
    · rfl
    · rfl

theorem prvSetRate_not_refused (params : Variant) (dev : RsuDevice) :
    ¬(prvSetRate params dev).1.Refused := by
  have hcode : ∀ {code : RsuError} {message : String}, code ≠ .unknownInterface →
      code ≠ .unknownProperty → ¬(Writing.completed (some ⟨code, message⟩)).Refused := by
    rintro code message hinterface hproperty ⟨error, heq, hrefused⟩
    obtain rfl := Option.some.inj (Writing.completed.inj heq)
    exact hrefused.elim hinterface hproperty
  cases params with
  | double mprisRate =>
      unfold prvSetRate
      dsimp only
      split
      next error herror =>
        unfold prvGetRateValueFromDouble at herror
        split at herror
        next tps _ =>
          split at herror
          · cases herror
          · obtain rfl := Except.error.inj herror
            exact hcode (by decide) (by decide)
        · obtain rfl := Except.error.inj herror
          exact hcode (by decide) (by decide)
      · rintro ⟨error, heq, -⟩
        cases heq
  | _ => exact hcode (by decide) (by decide)

/-- A Set is refused unless the player has the property for writing. -/
theorem refused_rsuDeviceSetProp (interfaceName propName : String) (params : Variant)
    (dev : RsuDevice) : (rsuDeviceSetProp interfaceName propName params dev).1.Refused ↔
      ¬((interfaceName = player.name ∨ interfaceName = "") ∧
        (player.lookupProperty propName).map PropertyInfo.access = some .readwrite) := by
  rw [lookupProperty_writable]
  unfold rsuDeviceSetProp
  split_ifs with hinterface hrate hvolume
  · refine iff_of_true ⟨_, rfl, .inl rfl⟩ fun hmanaged => ?_
    exact hmanaged.1.elim hinterface.1 hinterface.2
  · refine iff_of_false (prvSetRate_not_refused params dev) ?_
    have hname : interfaceName = player.name ∨ interfaceName = "" := by tauto
    exact not_not.mpr ⟨hname, .inl hrate⟩
  · exact iff_of_true ⟨_, rfl, .inr rfl⟩ fun hmanaged => hmanaged.2.elim hrate hvolume
  · refine iff_of_false ?_ ?_
    · rintro ⟨error, heq, -⟩
      cases heq
    · have hname : interfaceName = player.name ∨ interfaceName = "" := by tauto
      exact not_not.mpr ⟨hname, .inr (not_not.mp hvolume)⟩

/-- For every run of a renderer: the tables and the signals hold declared properties
with values of their types, what a Get returns and what a GetAll lists is declared for
an interface that was asked for, and a Set is refused unless the property is writable. -/
theorem renderer_conforms (h : (renderer parseDidl).Reaches is s) :
    s.device.Conforms ∧
      (∀ interfaceName propName error value,
        (prvGetProp interfaceName propName s.device error).result = some (.value value) →
          ∃ info : InterfaceInfo, info.Asked interfaceName ∧ info.Declares propName value) ∧
      (∀ interfaceName error entries,
        (prvGetProps interfaceName s.device error).result = some (.dictionary entries) →
          ∀ e ∈ entries, ∃ info : InterfaceInfo, info.Listed interfaceName ∧
            info.Declares e.1 e.2) ∧
      ∀ interfaceName propName params,
        (rsuDeviceSetProp interfaceName propName params s.device).1.Refused ↔
          ¬((interfaceName = player.name ∨ interfaceName = "") ∧
            (player.lookupProperty propName).map PropertyInfo.access = some .readwrite) := by
  have hconforms := conforms h
  refine ⟨hconforms, ?_, ?_, ?_⟩
  · intro interfaceName propName error value hvalue
    exact hconforms.prvGetProp hvalue
  · intro interfaceName error entries hentries
    exact hconforms.prvGetProps hentries
  · intro interfaceName propName params
    exact refused_rsuDeviceSetProp interfaceName propName params s.device

/-- The first use publishes the limits of the rate, which have their types. -/
theorem renderer_conforms_twoSpeeds : ∃ s : Renderer, s.device.Conforms ∧
    s.device.signals.length = 1 ∧
    s.device.playerProps.lookup "MaximumRate" = some (.double 2) := by
  let i := Input.getAllProps twoSpeeds interfaceServer
  have hreach : (renderer fun _ => {}).Reaches [i] (exec (fun _ => {}) {} i) :=
    .step (.init rfl) rfl
  exact ⟨_, (renderer_conforms hreach).1, by decide +kernel, by decide +kernel⟩

end RendererService.Props
