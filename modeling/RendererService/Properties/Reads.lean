import RendererService.Properties.Callbacks

/-!
# Get and GetAll

Each of the two requests chooses the tables of an interface name by itself.  They
choose the same ones but for the name of the MPRIS root interface, where GetAll
adds the device properties.
-/

namespace RendererService.Props

open Assoc Transition

variable {dev : RsuDevice} {s s' : Renderer} {i : Input} {is : List Input}
  {interfaceName propName : String} {error : Option GError} {parseDidl : String → DidlParse}

/-! ## The keys of each table -/

def rootKeys : List String :=
  ["CanQuit", "CanRaise", "CanSetFullscreen", "HasTrackList", "Identity", "SupportedUriSchemes",
    "SupportedMimeTypes"]

def deviceKeys : List String :=
  ["DeviceType", "UDN", "FriendlyName", "IconURL", "Manufacturer", "ManufacturerUrl",
    "ModelDescription", "ModelName", "ModelNumber", "SerialNumber", "PresentationURL",
    "ProtocolInfo"]

def Within (keys : List String) (t : Table String Variant) : Prop :=
  ∀ key, key ∉ keys → t.lookup key = none

theorem Within.insert {keys : List String} {t : Table String Variant} (h : Within keys t)
    {key : String} (hkey : key ∈ keys) (value : Variant) : Within keys (t.insert key value) := by
  intro key' hkey'
  have hne : key' ≠ key := fun heq => hkey' (heq ▸ hkey)
  rw [AList.lookup_insert_ne hne]
  exact h key' hkey'

theorem Within.erase {keys : List String} {t : Table String Variant} (h : Within keys t)
    (key : String) : Within keys (t.erase key) := by
  intro key' hkey'
  rw [lookup_erase_eq]
  split
  · rfl
  · exact h key' hkey'

theorem Within.insertString {keys : List String} {t : Table String Variant} (h : Within keys t)
    {key : String} (hkey : key ∈ keys) (value : Option String) :
    Within keys (insertString key value t) := by
  cases value with
  | none => exact h.erase key
  | some s => exact h.insert hkey _

theorem within_prvUpdateDeviceProps (info : DeviceInfo) {t : Table String Variant}
    (h : Within deviceKeys t) : Within deviceKeys (prvUpdateDeviceProps info t) := by
  unfold prvUpdateDeviceProps
  iterate 11 refine Within.insertString ?_ (by decide) _
  exact h

theorem within_updateRootProps (deviceProps : Table String Variant) {t : Table String Variant}
    (h : Within rootKeys t) : Within rootKeys (updateRootProps deviceProps t) := by
  have hflags : Within rootKeys ((((t.insert "CanQuit" (.boolean false)).insert "CanRaise"
      (.boolean false)).insert "CanSetFullscreen" (.boolean false)).insert "HasTrackList"
      (.boolean false)) :=
    (((h.insert (by decide) _).insert (by decide) _).insert (by decide) _).insert (by decide) _
  unfold updateRootProps
  dsimp only
  split
  · exact hflags.insert (by decide) _
  · exact hflags.erase _

/-- Each property is in the table it belongs to, and the UDN is known from the
first use on. -/
structure TablesOk (dev : RsuDevice) : Prop where
  root : Within rootKeys dev.rootProps
  player : Within playerKeys dev.playerProps
  device : Within deviceKeys dev.deviceProps
  udn : dev.synced = true → (dev.deviceProps.lookup "UDN").isSome

theorem lookup_insertString (key : String) (value : Option String) (t : Table String Variant)
    (key' : String) : (insertString key value t).lookup key' =
      if key' = key then value.map Variant.string else t.lookup key' := by
  cases value with
  | none => exact lookup_erase_eq t key key'
  | some s => exact lookup_insert_eq t key key' _

theorem udn_prvUpdateDeviceProps (info : DeviceInfo) (t : Table String Variant) :
    (prvUpdateDeviceProps info t).lookup "UDN" = some (.string info.udn) := by
  simp [prvUpdateDeviceProps, lookup_insertString]

theorem Within.reports {keys : List String} {dev dev' : RsuDevice}
    (h : Within playerKeys dev.playerProps) (hreports : Reports keys dev dev')
    (hkeys : ∀ key ∈ keys, key ∈ playerKeys) : Within playerKeys dev'.playerProps := by
  intro key hkey
  rw [hreports.lookup fun hmem => hkey (hkeys key hmem)]
  exact h key hkey

theorem TablesOk.prvPropsUpdate (h : TablesOk dev) (context : ContextInfo) :
    TablesOk (prvPropsUpdate context dev) := by
  have hrest := (publish_writes context ⟨readDescription context dev, some []⟩).rest
  have hdevice : (Props.prvPropsUpdate context dev).deviceProps =
      prvUpdateDeviceProps context.deviceInfo dev.deviceProps := hrest.deviceProps
  have hroot : (Props.prvPropsUpdate context dev).rootProps =
      updateRootProps (prvUpdateDeviceProps context.deviceInfo dev.deviceProps) dev.rootProps :=
    hrest.rootProps
  refine ⟨?_, ?_, ?_, fun _ => ?_⟩
  · rw [hroot]
    exact within_updateRootProps _ h.root
  · exact h.player.reports (prvPropsUpdate_reports context dev) (by decide)
  · rw [hdevice]
    exact within_prvUpdateDeviceProps _ h.device
  · rw [hdevice, udn_prvUpdateDeviceProps]
    rfl

theorem TablesOk.prvSinkChangeCb (h : TablesOk dev) (sink : Option String) :
    TablesOk (prvSinkChangeCb sink dev) := by
  cases sink with
  | none => exact h
  | some protocolInfo =>
      refine ⟨(h.root.insert (by decide) _).insert (by decide) _, h.player,
        h.device.insert (by decide) _, fun hsynced => ?_⟩
      show ((dev.deviceProps.insert "ProtocolInfo" _).lookup "UDN").isSome
      rw [AList.lookup_insert_ne (by decide)]
      exact h.udn hsynced

theorem TablesOk.rest {dev' : RsuDevice} (h : TablesOk dev) (hrest : SameRest dev dev')
    (hplayer : Within playerKeys dev'.playerProps) : TablesOk dev' := by
  refine ⟨?_, hplayer, ?_, ?_⟩
  · rw [hrest.rootProps]
    exact h.root
  · rw [hrest.deviceProps]
    exact h.device
  · rw [hrest.synced, hrest.deviceProps]
    exact h.udn

theorem TablesOk.quiet (parseDidl : String → DidlParse) (h : TablesOk s.device)
    (hsyncs : i.syncs s.device = false) : TablesOk (exec parseDidl s i).device := by
  by_cases hsink : ∃ sink, i = .sinkChange sink
  · obtain ⟨sink, rfl⟩ := hsink
    exact h.prvSinkChangeCb sink
  · have hrest := exec_rest parseDidl s hsyncs fun sink heq => hsink ⟨sink, heq⟩
    refine h.rest hrest ?_
    cases hset : i.isSet with
    | false => exact h.player.reports (exec_reports_player parseDidl s hset) fun _ hkey => hkey
    | true =>
        cases i with
        | setProp interfaceName propName params =>
            have hstores := rsuDeviceSetProp_device interfaceName propName params s.device
            rw [exec, device_setDevice]
            split at hstores
            · rw [hstores]
              exact h.player
            next rate _ =>
              obtain ⟨upnpRate, hstores⟩ := hstores
              rw [hstores]
              exact h.player.insert (by decide) _
        | _ => cases hset

theorem TablesOk.exec (parseDidl : String → DidlParse) (h : TablesOk s.device) (i : Input) :
    TablesOk (exec parseDidl s i).device := by
  cases hsyncs : i.syncs s.device with
  | false => exact h.quiet parseDidl hsyncs
  | true =>
      obtain ⟨context, -, hexec⟩ := exec_firstUse parseDidl s hsyncs
      have hupdated : TablesOk (s.setDevice (Props.prvPropsUpdate context s.device)).device :=
        h.prvPropsUpdate context
      rw [hexec]
      exact hupdated.quiet parseDidl (i.syncs_of_synced (synced_prvPropsUpdate context s.device))

theorem tablesOk (h : (renderer parseDidl).Reaches is s) : TablesOk s.device := by
  refine h.invariant (I := fun s => TablesOk s.device) ?_ ?_
  · intro s hstart
    obtain rfl : s = {} := hstart
    exact ⟨fun _ _ => rfl, fun _ _ => rfl, fun _ _ => rfl, fun hsynced => (nomatch hsynced)⟩
  · intro s i s' hok hstep
    obtain ⟨-, rfl⟩ := stepFn_eq hstep
    exact hok.exec parseDidl i

/-! ## The tables that are read -/

def RsuDevice.searched (dev : RsuDevice) (interfaceName : String) :
    Option (List (Table String Variant)) :=
  if interfaceName = interfaceRendererDevice then some [dev.deviceProps]
  else if interfaceName = interfaceServer then some [dev.rootProps]
  else if interfaceName = interfacePlayer then some [dev.playerProps]
  else if interfaceName = "" then some [dev.rootProps, dev.playerProps, dev.deviceProps]
  else none

def RsuDevice.listed (dev : RsuDevice) (interfaceName : String) :
    Option (List (Table String Variant)) :=
  if interfaceName = interfaceServer then some [dev.rootProps, dev.deviceProps]
  else dev.searched interfaceName

def unknownInterface : GError := ⟨.unknownInterface, "Unknown Interface"⟩

def unknownProperty : GError := ⟨.unknownProperty, "Property not defined for object"⟩

theorem prvGetProp_eq (interfaceName propName : String) (dev : RsuDevice)
    (error : Option GError) : prvGetProp interfaceName propName dev error =
      match dev.searched interfaceName with
      | none => { error := some unknownInterface }
      | some tables =>
          match lookupFirst tables propName with
          | none => { error := error.or (some unknownProperty) }
          | some value => { error := error, result := some (.value value) } := by
  unfold prvGetProp RsuDevice.searched
  dsimp only
  split_ifs
  · simp only [lookupFirst_cons, lookupFirst_nil, Option.or_none]
    rfl
  · simp only [lookupFirst_cons, lookupFirst_nil, Option.or_none]
    rfl
  · simp only [lookupFirst_cons, lookupFirst_nil, Option.or_none]
    rfl
  · simp only [lookupFirst_cons, lookupFirst_nil, Option.or_none]
    rfl
  · rfl

theorem prvGetProps_eq (interfaceName : String) (dev : RsuDevice) (error : Option GError) :
    prvGetProps interfaceName dev error =
      match dev.listed interfaceName with
      | none => { error := some unknownInterface }
      | some tables => { error := error, result := some (.dictionary (allEntries tables)) } := by
  have hone : ∀ t : Table String Variant, prvAddProps t [] = allEntries [t] := by
    intro t
    rw [prvAddProps, allEntries, List.flatMap_singleton, List.nil_append]
  have hmore : ∀ (t : Table String Variant) tables,
      prvAddProps t (allEntries tables) = allEntries (tables ++ [t]) := by
    intro t tables
    rw [prvAddProps, allEntries, allEntries, List.flatMap_append, List.flatMap_singleton]
  unfold prvGetProps RsuDevice.listed RsuDevice.searched
  simp only [hone, hmore]
  have hserver : interfaceServer ≠ interfaceRendererDevice := by decide
  split_ifs <;> first | rfl | simp_all

/-! ## The task of the service -/

theorem searched_isSome (dev : RsuDevice) (interfaceName : String) :
    (dev.searched interfaceName).isSome = decide (interfaceName ∈ interfaceNames) := by
  unfold RsuDevice.searched
  simp only [interfaceNames, List.mem_cons, List.not_mem_nil, or_false]
  split_ifs <;> simp_all

theorem listed_isSome (dev : RsuDevice) (interfaceName : String) :
    (dev.listed interfaceName).isSome = decide (interfaceName ∈ interfaceNames) := by
  unfold RsuDevice.listed
  split
  next hserver =>
    rw [hserver]
    rfl
  · exact searched_isSome dev interfaceName

/-- What a read leaves in the task of the service, which keeps no values. -/
def Outcome.leaves (outcome : Outcome) (t : ClientTask) : ClientTask :=
  { t with
    error := outcome.error
    result := if outcome.result.isSome then some .value else t.result }

theorem prvGetProp_leaves (env : Environment) (t : ClientTask)
    (hdefined : env.defined =
      ((dev.searched interfaceName).bind (lookupFirst · propName)).isSome) :
    RendererService.prvGetProp env t interfaceName =
      (prvGetProp interfaceName propName dev t.error).leaves t := by
  have hname := searched_isSome dev interfaceName
  rw [prvGetProp_eq, RendererService.prvGetProp, hdefined]
  cases hsearched : dev.searched interfaceName with
  | none =>
      rw [hsearched, Option.isSome_none, eq_comm, decide_eq_false_iff_not] at hname
      rw [if_neg hname]
      rfl
  | some tables =>
      rw [hsearched, Option.isSome_some, eq_comm, decide_eq_true_eq] at hname
      rw [if_pos hname, Option.bind_some]
      dsimp only
      cases lookupFirst tables propName with
      | none => cases t.error <;> rfl
      | some value => rfl

theorem prvGetProps_leaves (t : ClientTask) :
    RendererService.prvGetProps t interfaceName =
      (prvGetProps interfaceName dev t.error).leaves t := by
  have hname := listed_isSome dev interfaceName
  rw [prvGetProps_eq, RendererService.prvGetProps]
  cases hlisted : dev.listed interfaceName with
  | none =>
      rw [hlisted, Option.isSome_none, eq_comm, decide_eq_false_iff_not] at hname
      rw [if_neg hname]
      rfl
  | some tables =>
      rw [hlisted, Option.isSome_some, eq_comm, decide_eq_true_eq] at hname
      rw [if_pos hname]
      rfl

/-! ## Whole requests -/

def finish (read : Reading × RsuDevice) (reply : PositionReply) : Outcome :=
  match read.1 with
  | .completed outcome => outcome
  | .waits localCb => (prvGetPositionInfoCb localCb reply read.2).1

/-- The answer to a Get, the reply to GetPositionInfo being given. -/
def getProp (context : ContextInfo) (reply : PositionReply) (interfaceName propName : String)
    (dev : RsuDevice) : Outcome :=
  finish (rsuDeviceGetProp context interfaceName propName dev) reply

def getAllProps (context : ContextInfo) (reply : PositionReply) (interfaceName : String)
    (dev : RsuDevice) : Outcome :=
  finish (rsuDeviceGetAllProps context interfaceName dev) reply

/-- The device that a GetAll reads: it has the position, if the player is asked
for. -/
def RsuDevice.located (dev : RsuDevice) (relPos interfaceName : String) : RsuDevice :=
  if interfaceName = interfacePlayer ∨ interfaceName = "" then storePosition (.ok relPos) dev
  else dev

theorem getAllProps_eq (context : ContextInfo) (hsynced : dev.synced = true)
    (relPos interfaceName : String) : getAllProps context (.ok relPos) interfaceName dev =
      prvGetProps interfaceName (dev.located relPos interfaceName) none := by
  unfold getAllProps rsuDeviceGetAllProps RsuDevice.located
  rw [syncProps_of_synced context hsynced]
  dsimp only
  split_ifs
  · rfl
  · rfl

theorem prvGetProp_congr (dev dev' : RsuDevice)
    (hroot : dev'.rootProps.lookup propName = dev.rootProps.lookup propName)
    (hplayer : dev'.playerProps.lookup propName = dev.playerProps.lookup propName)
    (hdevice : dev'.deviceProps.lookup propName = dev.deviceProps.lookup propName) :
    prvGetProp interfaceName propName dev' error =
      prvGetProp interfaceName propName dev error := by
  unfold prvGetProp
  rw [hroot, hplayer, hdevice]

/-- A Get reads the same device, although it asks for the position only where the
position is what it is asked for. -/
theorem getProp_eq (context : ContextInfo) (hsynced : dev.synced = true)
    (relPos interfaceName propName : String) :
    getProp context (.ok relPos) interfaceName propName dev =
      prvGetProp interfaceName propName (dev.located relPos interfaceName) none := by
  unfold getProp rsuDeviceGetProp RsuDevice.located
  rw [syncProps_of_synced context hsynced]
  split_ifs with hposition hplayer hplayer
  · rfl
  · exact absurd hposition.1 hplayer
  · have hother : propName ∉ ["Position"] := by
      rw [List.mem_singleton]
      exact fun heq => hposition ⟨hplayer, heq⟩
    have hplayerProps := (storePosition_reports (.ok relPos) dev).lookup hother
    exact (prvGetProp_congr dev (storePosition (.ok relPos) dev) rfl hplayerProps rfl).symm
  · rfl

theorem TablesOk.located (h : TablesOk dev) (relPos interfaceName : String) :
    TablesOk (dev.located relPos interfaceName) := by
  unfold RsuDevice.located
  split
  · exact h.rest ⟨rfl, rfl, rfl, rfl, rfl⟩
      (h.player.reports (storePosition_reports _ dev) (by decide))
  · exact h

/-! ## Agreement -/

theorem Within.apart {keys keys' : List String} {t t' : Table String Variant}
    (h : Within keys t) (h' : Within keys' t') (hkeys : ∀ key ∈ keys, key ∉ keys') :
    ∀ key value, t.lookup key = some value → t'.lookup key = none := by
  intro key value hlookup
  apply h' key
  apply hkeys key
  by_contra hkey
  rw [h key hkey] at hlookup
  cases hlookup

theorem TablesOk.apart (h : TablesOk dev) {tables : List (Table String Variant)}
    (hsearched : dev.searched interfaceName = some tables) : Apart tables := by
  have hrootPlayer := h.root.apart h.player (by decide)
  have hrootDevice := h.root.apart h.device (by decide)
  have hplayerDevice := h.player.apart h.device (by decide)
  unfold RsuDevice.searched at hsearched
  split_ifs at hsearched <;> obtain rfl := Option.some.inj hsearched
  · exact List.pairwise_singleton _ _
  · exact List.pairwise_singleton _ _
  · exact List.pairwise_singleton _ _
  · simp only [Apart, List.pairwise_cons, List.mem_cons, List.not_mem_nil, or_false]
    refine ⟨?_, ?_, by simp⟩
    · rintro t (rfl | rfl)
      · exact hrootPlayer
      · exact hrootDevice
    · rintro t rfl
      exact hplayerDevice

def Outcome.Gives (outcome : Outcome) (result : ReadResult) : Prop :=
  outcome.error = none ∧ outcome.result = some result

def Outcome.RejectsInterface (outcome : Outcome) : Prop :=
  ∃ error, outcome.error = some error ∧ error.code = .unknownInterface

theorem gives_prvGetProp {tables : List (Table String Variant)}
    (hsearched : dev.searched interfaceName = some tables) {value : Variant} :
    (prvGetProp interfaceName propName dev none).Gives (.value value) ↔
      lookupFirst tables propName = some value := by
  rw [prvGetProp_eq, hsearched]
  cases hlookup : lookupFirst tables propName with
  | none => simp [hlookup, Outcome.Gives]
  | some found => simp [hlookup, Outcome.Gives]

theorem gives_prvGetProps {tables : List (Table String Variant)}
    (hlisted : dev.listed interfaceName = some tables) {entries : List (String × Variant)} :
    (prvGetProps interfaceName dev none).Gives (.dictionary entries) ↔
      allEntries tables = entries := by
  rw [prvGetProps_eq, hlisted]
  simp [Outcome.Gives]

theorem rejects_prvGetProp (interfaceName propName : String) (dev : RsuDevice) :
    (prvGetProp interfaceName propName dev none).RejectsInterface ↔
      dev.searched interfaceName = none := by
  rw [prvGetProp_eq]
  cases hsearched : dev.searched interfaceName with
  | none => simp [Outcome.RejectsInterface, unknownInterface]
  | some tables =>
      cases hlookup : lookupFirst tables propName with
      | none => simp [hlookup, Outcome.RejectsInterface, unknownProperty]
      | some found => simp [hlookup, Outcome.RejectsInterface]

theorem rejects_prvGetProps (interfaceName : String) (dev : RsuDevice) :
    (prvGetProps interfaceName dev none).RejectsInterface ↔ dev.listed interfaceName = none := by
  rw [prvGetProps_eq]
  cases hlisted : dev.listed interfaceName with
  | none => simp [Outcome.RejectsInterface, unknownInterface]
  | some tables => simp [Outcome.RejectsInterface]

/-- Get and GetAll agree about an interface name, GetPositionInfo succeeding where
it is called. -/
structure ReadsAgree (dev : RsuDevice) (interfaceName : String) : Prop where
  values : ∀ context context' relPos propName value,
    (getProp context (.ok relPos) interfaceName propName dev).Gives (.value value) ↔
      ∃ entries,
        (getAllProps context' (.ok relPos) interfaceName dev).Gives (.dictionary entries) ∧
          (propName, value) ∈ entries
  rejections : ∀ context context' relPos propName,
    (getProp context (.ok relPos) interfaceName propName dev).RejectsInterface ↔
      (getAllProps context' (.ok relPos) interfaceName dev).RejectsInterface
  keys : ∀ context relPos entries,
    (getAllProps context (.ok relPos) interfaceName dev).Gives (.dictionary entries) →
      (entries.map Prod.fst).Nodup

theorem TablesOk.readsAgree (h : TablesOk dev) (hsynced : dev.synced = true)
    (hother : interfaceName ≠ interfaceServer) : ReadsAgree dev interfaceName := by
  have hlisted : ∀ dev : RsuDevice, dev.listed interfaceName = dev.searched interfaceName :=
    fun dev => if_neg hother
  constructor
  · intro context context' relPos propName value
    have hok := h.located relPos interfaceName
    rw [getProp_eq context hsynced, getAllProps_eq context' hsynced]
    generalize dev.located relPos interfaceName = dev' at hok ⊢
    cases hsearched : dev'.searched interfaceName with
    | none =>
        have hget := (rejects_prvGetProp interfaceName propName dev').mpr hsearched
        have hgetAll :=
          (rejects_prvGetProps interfaceName dev').mpr ((hlisted dev').trans hsearched)
        constructor
        · intro hgives
          obtain ⟨error, herror, -⟩ := hget
          cases herror.symm.trans hgives.1
        · rintro ⟨entries, hgives, -⟩
          obtain ⟨error, herror, -⟩ := hgetAll
          cases herror.symm.trans hgives.1
    | some tables =>
        rw [gives_prvGetProp hsearched, ← mem_allEntries (hok.apart hsearched)]
        simp only [gives_prvGetProps ((hlisted dev').trans hsearched)]
        simp
  · intro context context' relPos propName
    rw [getProp_eq context hsynced, getAllProps_eq context' hsynced, rejects_prvGetProp,
      rejects_prvGetProps, hlisted]
  · intro context relPos entries hgives
    have hok := h.located relPos interfaceName
    rw [getAllProps_eq context hsynced] at hgives
    generalize dev.located relPos interfaceName = dev' at hok hgives
    cases hsearched : dev'.searched interfaceName with
    | none =>
        obtain ⟨error, herror, -⟩ :=
          (rejects_prvGetProps interfaceName dev').mpr ((hlisted dev').trans hsearched)
        cases herror.symm.trans hgives.1
    | some tables =>
        obtain rfl := (gives_prvGetProps ((hlisted dev').trans hsearched)).mp hgives
        exact nodup_allEntries (hok.apart hsearched)

theorem TablesOk.not_readsAgree (h : TablesOk dev) (hsynced : dev.synced = true) :
    ¬ReadsAgree dev interfaceServer := by
  intro hagree
  obtain ⟨udn, hudn⟩ := Option.isSome_iff_exists.mp (h.udn hsynced)
  have hroot : dev.rootProps.lookup "UDN" = none := h.root "UDN" (by decide)
  have hsame : dev.located "" interfaceServer = dev := if_neg (by decide)
  have hsearched : dev.searched interfaceServer = some [dev.rootProps] := by
    rw [RsuDevice.searched, if_neg (by decide), if_pos rfl]
  let context : ContextInfo := ⟨{ udn := "" }, none, none⟩
  have hgetAll : (getAllProps context (.ok "") interfaceServer dev).Gives
      (.dictionary (allEntries [dev.rootProps, dev.deviceProps])) := by
    rw [getAllProps_eq context hsynced, hsame]
    exact (gives_prvGetProps (if_pos rfl)).mpr rfl
  have hmem : ("UDN", udn) ∈ allEntries [dev.rootProps, dev.deviceProps] := by
    have hapart : Apart [dev.rootProps, dev.deviceProps] := by
      simpa [Apart] using h.root.apart h.device (by decide)
    rw [mem_allEntries hapart, lookupFirst_cons, lookupFirst_cons, hroot, hudn]
    rfl
  have hget := (hagree.values context context "" "UDN" udn).mpr ⟨_, hgetAll, hmem⟩
  rw [getProp_eq context hsynced, hsame, gives_prvGetProp hsearched, lookupFirst_cons,
    hroot] at hget
  cases hget

/-- For every reachable state of a renderer whose properties are synced, Get and
GetAll agree about every interface name but that of the MPRIS root interface. -/
theorem reads_agree (h : (renderer parseDidl).Reaches is s) (hsynced : s.device.synced = true)
    (interfaceName : String) :
    ReadsAgree s.device interfaceName ↔ interfaceName ≠ interfaceServer := by
  have hok := tablesOk h
  constructor
  · rintro hagree rfl
    exact hok.not_readsAgree hsynced hagree
  · exact hok.readsAgree hsynced

theorem reads_agree_player : ∃ is s, (renderer fun _ => {}).Reaches is s ∧
    ReadsAgree s.device interfacePlayer := by
  let s := exec (fun _ => {}) {} (.getAllProps twoSpeeds interfacePlayer)
  have hreach : (renderer fun _ => {}).Reaches [.getAllProps twoSpeeds interfacePlayer] s :=
    .step (.init rfl) rfl
  exact ⟨_, s, hreach, (reads_agree hreach rfl interfacePlayer).mpr (by decide)⟩

/-- GetAll of the MPRIS root interface lists the UDN, and Get does not find it. -/
theorem reads_agree_server : ¬∀ parseDidl is s, (renderer parseDidl).Reaches is s →
    s.device.synced = true → ∀ interfaceName, ReadsAgree s.device interfaceName := by
  intro hall
  let s := exec (fun _ => {}) {} (.getAllProps twoSpeeds interfaceServer)
  have hreach : (renderer fun _ => {}).Reaches [.getAllProps twoSpeeds interfaceServer] s :=
    .step (.init rfl) rfl
  have hagree := hall _ _ s hreach rfl interfaceServer
  have hgetAll : ∃ entries, (getAllProps twoSpeeds (.ok "") interfaceServer s.device).Gives
      (.dictionary entries) ∧ ("UDN", .string "uuid:1") ∈ entries :=
    ⟨_, ⟨rfl, rfl⟩, by decide +kernel⟩
  have hget := (hagree.values twoSpeeds twoSpeeds "" "UDN" (.string "uuid:1")).mpr hgetAll
  have herror : (getProp twoSpeeds (.ok "") interfaceServer "UDN" s.device).error =
      some unknownProperty := by decide +kernel
  cases herror.symm.trans hget.1

end RendererService.Props
