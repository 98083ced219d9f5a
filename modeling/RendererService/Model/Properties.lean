import RendererService.Lib.Transition
import RendererService.Model.Device
import RendererService.Model.Values

/-!
# The properties of a renderer

The property tables of device.c, the callbacks and requests that write them and
the requests that read them.  One renderer is followed: its state is what
`rsu_device_t` keeps for its properties, together with the PropertiesChanged
signals it emitted so far and the reads that wait for a position.
-/

namespace RendererService.Props

/-! ## What GUPnP delivers -/

/-- A `GUPnPDeviceInfo`.  The strings that a description may leave out are
optional; every device has a UDN. -/
structure DeviceInfo where
  deviceType : Option String := none
  udn : String
  friendlyName : Option String := none
  iconUrl : Option String := none
  manufacturer : Option String := none
  manufacturerUrl : Option String := none
  modelDescription : Option String := none
  modelName : Option String := none
  modelNumber : Option String := none
  serialNumber : Option String := none
  presentationUrl : Option String := none

/-- The introspection of an AVTransport service: the allowed values of its
variable TransportPlaySpeed, if it has the variable. -/
structure AvIntrospection where
  transportPlaySpeed : Option (List String)

/-- The introspection of a RenderingControl service: the maximum of its variable
Volume, if it has the variable. -/
structure RcIntrospection where
  volume : Option UInt32

/-- What is read from the context that `rsu_device_get_context` returns.  A
service is missing where its proxy is NULL, and so is its introspection where it
could not be fetched. -/
structure ContextInfo where
  deviceInfo : DeviceInfo
  av : Option (Option AvIntrospection)
  rc : Option (Option RcIntrospection)

/-- The variables that `prv_last_change_cb` asks `gupnp_last_change_parser` for. -/
structure AvLastChange where
  currentTrackMetaData : Option String := none
  currentTransportActions : Option String := none
  transportPlaySpeed : Option String := none
  transportState : Option String := none
  currentTrackDuration : Option String := none
  currentTrackUri : Option String := none
  numberOfTracks : Option UInt32 := none
  currentTrack : Option UInt32 := none

/-- The variable that `prv_rc_last_change_cb` asks for. -/
structure RcLastChange where
  volume : Option UInt32

structure DidlContributor where
  name : String
  role : Option String

structure DidlObject where
  trackNumber : Int := -1
  title : Option String := none
  albumArt : Option String := none
  album : Option String := none
  genre : Option String := none
  artists : List DidlContributor := []

inductive XmlError
  | emptyNode
  | other
deriving DecidableEq

/-- What `gupnp_didl_lite_parser_parse_didl` does with a document: the objects it
announces by "object-available", and the error it returns. -/
structure DidlParse where
  items : List DidlObject := []
  error : Option XmlError := none

/-! ## The state -/

structure PropertiesChanged where
  interface : String
  changedProps : List (String × Variant)
deriving DecidableEq

/-- `rsu_device_t` and its `rsu_props_t`, as far as the properties need them, and
the signals emitted so far. -/
structure RsuDevice where
  rootProps : Assoc.Table String Variant := ∅
  playerProps : Assoc.Table String Variant := ∅
  deviceProps : Assoc.Table String Variant := ∅
  synced : Bool := false
  maxVolume : UInt32 := 0
  transportPlaySpeeds : Option (List String) := none
  rate : Option String := some "1"
  signals : List PropertiesChanged := []

/-- A device whose player properties are being changed, with the builder of the
next signal, if there is to be one. -/
structure Update where
  device : RsuDevice
  changedPropsVb : Option (List (String × Variant)) := some []

/-- `if (value) f (value)`. -/
def ifSet {α σ : Type} (value : Option α) (f : α → σ → σ) (s : σ) : σ :=
  match value with
  | some a => f a s
  | none => s

/-! ## Changes of the player properties -/

/-- `prv_change_props`, which is only called for the player properties. -/
def prvChangeProps (key : String) (value : Variant) (u : Update) : Update where
  device := { u.device with playerProps := u.device.playerProps.insert key value }
  changedPropsVb := u.changedPropsVb.map fun vb => vb ++ [(key, value)]

def prvEmitSignalPropertiesChanged (interface : String)
    (changedProps : List (String × Variant)) (device : RsuDevice) : RsuDevice :=
  { device with signals := device.signals ++ [⟨interface, changedProps⟩] }

/-- The builder is ended and its dictionary emitted. -/
def Update.emit (u : Update) : RsuDevice :=
  prvEmitSignalPropertiesChanged interfacePlayer (u.changedPropsVb.getD []) u.device

def currentMetaData (device : RsuDevice) : List (String × MetaValue) :=
  match device.playerProps.lookup "Metadata" with
  | some (.metadata entries) => entries
  | _ => []

def prvMergeMetaData (key : String) (value : MetaValue) (u : Update) : Update :=
  let current := currentMetaData u.device
  let vb := current.map fun entry => if key = entry.1 then (entry.1, value) else entry
  let vb := if key ∈ current.map Prod.fst then vb else vb ++ [(key, value)]
  prvChangeProps "Metadata" (.metadata vb) u

/-- The flags that `prv_add_actions` sets while it goes through the list. -/
structure ActionFlags where
  play : Bool := false
  ppause : Bool := false
  seek : Bool := false
  next : Bool := false
  previous : Bool := false

def ActionFlags.note (flags : ActionFlags) (part : String) : ActionFlags :=
  if part = "Play" then { flags with play := true }
  else if part = "Pause" then { flags with ppause := true }
  else if part = "Seek" then { flags with seek := true }
  else if part = "Next" then { flags with next := true }
  else if part = "Previous" then { flags with previous := true }
  else flags

def prvAddActions (actions : String) (u : Update) : Update :=
  let flags := ((gStrsplit actions ',').map gStrstrip).foldl ActionFlags.note {}
  let u := prvChangeProps "CanControl" (.boolean false) u
  let u := prvChangeProps "CanPlay" (.boolean flags.play) u
  let u := prvChangeProps "CanPause" (.boolean flags.ppause) u
  let u := prvChangeProps "CanSeek" (.boolean flags.seek) u
  let u := prvChangeProps "CanGoNext" (.boolean flags.next) u
  prvChangeProps "CanGoPrevious" (.boolean flags.previous) u

def prvAddAllActions (u : Update) : Update :=
  let u := prvChangeProps "CanPlay" (.boolean true) u
  let u := prvChangeProps "CanPause" (.boolean true) u
  let u := prvChangeProps "CanSeek" (.boolean true) u
  let u := prvChangeProps "CanGoNext" (.boolean true) u
  let u := prvChangeProps "CanGoPrevious" (.boolean true) u
  prvChangeProps "CanControl" (.boolean true) u

def prvAddReltime (reltime : String) (u : Update) : Update :=
  prvChangeProps "Position" (.int64 (prvDurationToInt64 reltime)) u

/-! ## Metadata -/

def rsuObject : String := "/com/intel/RendererServiceUPnP"

def addString (key : String) (value : Option String) (vb : List (String × MetaValue)) :
    List (String × MetaValue) :=
  ifSet value (fun s vb => vb ++ [(key, .string s)]) vb

def prvFoundItem (object : DidlObject) (vb : List (String × MetaValue)) :
    List (String × MetaValue) :=
  let trackNumber := object.trackNumber
  let number := if trackNumber ≠ -1 then trackNumber else 0
  let trackId := rsuObject ++ "/track/" ++ toString (number % 2 ^ 32)
  let vb := vb ++ [("mpris:trackid", .string trackId)]
  let vb := if trackNumber ≠ -1 then vb ++ [("mpris:trackNumber", .int32 trackNumber)] else vb
  let vb := addString "xesam:title" object.title vb
  let vb := addString "mpris:artUrl" object.albumArt vb
  let vb := addString "xesam:album" object.album vb
  let vb := addString "xesam:genre" object.genre vb
  if object.artists.isEmpty then vb
  else
    let artists := object.artists.filter fun artist => artist.role = none
    let albumArtists := object.artists.filter fun artist => artist.role = some "AlbumArtist"
    vb ++ [("xesam:artist", .strings (artists.map DidlContributor.name)),
      ("xesam:albumArtist", .strings (albumArtists.map DidlContributor.name))]

/-- `parseDidl` stands for the parser of DIDL-Lite documents. -/
def prvAddTrackMetaData (parseDidl : String → DidlParse) (metadata : String)
    (duration uri : Option String) (u : Update) : Update :=
  let parse := parseDidl ("<DIDL-Lite>" ++ metadata ++ "</DIDL-Lite>")
  let vb := ifSet duration
    (fun duration vb => vb ++ [("mpris:length", .int64 (prvDurationToInt64 duration))]) []
  let vb := addString "xesam:url" uri vb
  let vb := parse.items.foldl (fun vb object => prvFoundItem object vb) vb
  if parse.error = none ∨ parse.error = some .emptyNode then
    prvChangeProps "Metadata" (.metadata vb) u
  else u

/-! ## LastChange events of AVTransport -/

def gMaxUint : UInt32 := 0xFFFFFFFF

/-- Also `device->rate = play_speed`. -/
def changeRate (playSpeed : String) (u : Update) : Update :=
  let u := prvChangeProps "Rate" (.double (prvMapTransportSpeed playSpeed)) u
  { u with device := { u.device with rate := some playSpeed } }

/-- A number that `gupnp_last_change_parser` did not set is still `G_MAXUINT`. -/
def changeNumber (key : String) (parsed : Option UInt32) (u : Update) : Update :=
  let number := parsed.getD gMaxUint
  if number ≠ gMaxUint then prvChangeProps key (.uint32 number) u else u

/-- Duration and URI are merged into the metadata only where the event carries no
metadata of its own. -/
def changeMetaData (parseDidl : String → DidlParse) (change : AvLastChange) (u : Update) :
    Update :=
  let duration := change.currentTrackDuration
  let uri := change.currentTrackUri
  match change.currentTrackMetaData with
  | some metaData => prvAddTrackMetaData parseDidl metaData duration uri u
  | none =>
      let u := ifSet duration (fun duration =>
        prvMergeMetaData "mpris:length" (.int64 (prvDurationToInt64 duration))) u
      ifSet uri (fun uri => prvMergeMetaData "xesam:url" (.string uri)) u

def changePlayback (change : AvLastChange) (u : Update) : Update :=
  let u := ifSet change.transportPlaySpeed changeRate u
  let u := ifSet change.transportState (fun state =>
    prvChangeProps "PlaybackStatus" (.string (prvMapTransportState state))) u
  let u := changeNumber "NumberOfTracks" change.numberOfTracks u
  changeNumber "CurrentTrack" change.currentTrack u

/-- The changes between the parsing of an event and the signal. -/
def applyLastChange (parseDidl : String → DidlParse) (change : AvLastChange) (u : Update) :
    Update :=
  let u := changeMetaData parseDidl change u
  let u := ifSet change.currentTransportActions prvAddActions u
  changePlayback change u

/-- An event that cannot be parsed is dropped. -/
def prvLastChangeCb (parseDidl : String → DidlParse) (change : Option AvLastChange)
    (device : RsuDevice) : RsuDevice :=
  match change with
  | none => device
  | some change => (applyLastChange parseDidl change ⟨device, some []⟩).emit

/-! ## First use -/

/-- `g_hash_table_insert` of a string that may be missing.  A NULL value is as
good as no entry: a lookup gives NULL, and `g_variant_builder_add` leaves out an
entry without a value. -/
def insertString (key : String) (value : Option String) (props : Assoc.Table String Variant) :
    Assoc.Table String Variant :=
  match value with
  | some s => props.insert key (.string s)
  | none => props.erase key

def prvUpdateDeviceProps (info : DeviceInfo) (props : Assoc.Table String Variant) :
    Assoc.Table String Variant :=
  let props := insertString "DeviceType" info.deviceType props
  let props := insertString "UDN" (some info.udn) props
  let props := insertString "FriendlyName" info.friendlyName props
  let props := insertString "IconURL" info.iconUrl props
  let props := insertString "Manufacturer" info.manufacturer props
  let props := insertString "ManufacturerUrl" info.manufacturerUrl props
  let props := insertString "ModelDescription" info.modelDescription props
  let props := insertString "ModelName" info.modelName props
  let props := insertString "ModelNumber" info.modelNumber props
  let props := insertString "SerialNumber" info.serialNumber props
  insertString "PresentationURL" info.presentationUrl props

/-- The outputs of `prv_get_rates_values`, and its variables in the loop. -/
structure Rates where
  mprisTpSpeeds : List ℚ := []
  upnpTpSpeeds : List String := []
  minRateStr : String
  maxRateStr : String

def ratesPrecision : ℚ := 1 / 100

/-- One turn of the loop over the allowed values. -/
def Rates.add (rates : Rates) (rate : String) : Rates :=
  if prvRationalIsInvalid rate then rates
  else
    let rates := { rates with
      upnpTpSpeeds := rates.upnpTpSpeeds ++ [rate]
      mprisTpSpeeds := rates.mprisTpSpeeds ++ [prvRationalToDouble rate ratesPrecision] }
    if 0 < prvCompareRationals rates.minRateStr rate then { rates with minRateStr := rate }
    else if prvCompareRationals rates.maxRateStr rate < 0 then { rates with maxRateStr := rate }
    else rates

/-- Nothing is set where there are no allowed values. -/
def prvGetRatesValues (svi : Option (List String)) : Option Rates :=
  match svi with
  | some (first :: rest) =>
      some ((first :: rest).foldl Rates.add { minRateStr := first, maxRateStr := first })
  | _ => none

def Rates.minRate (rates : Rates) : ℚ := prvRationalToDouble rates.minRateStr ratesPrecision
def Rates.maxRate (rates : Rates) : ℚ := prvRationalToDouble rates.maxRateStr ratesPrecision

def prvGetAvServiceStatesValues (introspection : Option AvIntrospection) : Option Rates :=
  introspection.bind fun introspection => prvGetRatesValues introspection.transportPlaySpeed

def prvGetRcServiceStatesValues (introspection : Option RcIntrospection) : Option UInt32 :=
  introspection.bind RcIntrospection.volume

/-- A rate that is 0 is not published. -/
def publishRate (key : String) (rate : ℚ) (u : Update) : Update :=
  if rate ≠ 0 then prvChangeProps key (.double rate) u else u

def publishRates (rates : Rates) (u : Update) : Update :=
  let u := publishRate "MinimumRate" rates.minRate u
  let u := publishRate "MaximumRate" rates.maxRate u
  prvChangeProps "TransportPlaySpeeds" (.doubles rates.mprisTpSpeeds) u

def updateRootProps (deviceProps props : Assoc.Table String Variant) :
    Assoc.Table String Variant :=
  let props := props.insert "CanQuit" (.boolean false)
  let props := props.insert "CanRaise" (.boolean false)
  let props := props.insert "CanSetFullscreen" (.boolean false)
  let props := props.insert "HasTrackList" (.boolean false)
  match deviceProps.lookup "FriendlyName" with
  | some name => props.insert "Identity" name
  | none => props.erase "Identity"

/-- What `prv_props_update` stores before it builds the signal. -/
def readDescription (context : ContextInfo) (device : RsuDevice) : RsuDevice :=
  let deviceProps := prvUpdateDeviceProps context.deviceInfo device.deviceProps
  { device with
    deviceProps := deviceProps
    rootProps := updateRootProps deviceProps device.rootProps
    transportPlaySpeeds :=
      ((context.av.bind prvGetAvServiceStatesValues).map Rates.upnpTpSpeeds).or
        device.transportPlaySpeeds
    maxVolume := (context.rc.bind prvGetRcServiceStatesValues).getD device.maxVolume }

def prvPropsUpdate (context : ContextInfo) (device : RsuDevice) : RsuDevice :=
  let u : Update := ⟨readDescription context device, some []⟩
  let u := ifSet (context.av.bind prvGetAvServiceStatesValues) publishRates u
  let u := prvAddAllActions u
  ({ u with device := { u.device with synced := true } } : Update).emit

/-- What every first use does. -/
def syncProps (context : ContextInfo) (device : RsuDevice) : RsuDevice :=
  if device.synced then device else prvPropsUpdate context device

/-! ## LastChange events of RenderingControl -/

/-- The part of `prv_rc_last_change_cb` that stores the volume. -/
def storeVolume (deviceVolume : UInt32) (device : RsuDevice) : RsuDevice :=
  if device.maxVolume = 0 then device
  else
    let mprisVolume : ℚ := deviceVolume.toNat / device.maxVolume.toNat
    (prvChangeProps "Volume" (.double mprisVolume) ⟨device, some []⟩).emit

/-- `garbage` is what `device_volume` holds before it is set. -/
def prvRcLastChangeCb (context : ContextInfo) (change : Option RcLastChange) (garbage : UInt32)
    (device : RsuDevice) : RsuDevice :=
  match change with
  | none => device
  | some change => storeVolume (change.volume.getD garbage) (syncProps context device)

/-! ## The protocols of a sink -/

/-- The two tables that `prv_process_protocol_info` builds. -/
structure ProtocolInfo where
  protocols : Assoc.Table String Unit := ∅
  types : Assoc.Table String Unit := ∅

def ProtocolInfo.add (tables : ProtocolInfo) (entry : String) : ProtocolInfo :=
  match gStrsplit entry ':' with
  | protocol :: _ :: type :: _ =>
      let isHttp := gAsciiStrdown (String.ofList (protocol.toList.take 5)) = "http-"
      let protocol := if isHttp then String.ofList (protocol.toList.take 4) else protocol
      { protocols := tables.protocols.insert (gAsciiStrdown protocol) ()
        types := tables.types.insert (gAsciiStrdown type) () }
  | _ => tables

def prvAsPropFromHashTable (propName : String) (values : Assoc.Table String Unit)
    (props : Assoc.Table String Variant) : Assoc.Table String Variant :=
  props.insert propName (.strings values.keys)

def prvProcessProtocolInfo (protocolInfo : String) (device : RsuDevice) : RsuDevice :=
  let tables := (gStrsplit protocolInfo ',').foldl ProtocolInfo.add {}
  let rootProps := prvAsPropFromHashTable "SupportedUriSchemes" tables.protocols device.rootProps
  { device with
    deviceProps := device.deviceProps.insert "ProtocolInfo" (.string protocolInfo)
    rootProps := prvAsPropFromHashTable "SupportedMimeTypes" tables.types rootProps }

def prvSinkChangeCb (sink : Option String) (device : RsuDevice) : RsuDevice :=
  ifSet sink prvProcessProtocolInfo device

/-! ## Reads -/

/-- What `cb_data->task.result` holds after a read. -/
inductive ReadResult
  | value (value : Variant)
  | dictionary (entries : List (String × Variant))
deriving DecidableEq

/-- `cb_data->error` and `cb_data->task.result`. -/
structure Outcome where
  error : Option GError := none
  result : Option ReadResult := none
deriving DecidableEq

/-- `error` is the `cb_data->error` that was there before. -/
def prvGetProp (interfaceName propName : String) (device : RsuDevice) (error : Option GError) :
    Outcome :=
  let found : Option Variant × Option GError :=
    if interfaceName = interfaceRendererDevice then (device.deviceProps.lookup propName, error)
    else if interfaceName = interfaceServer then (device.rootProps.lookup propName, error)
    else if interfaceName = interfacePlayer then (device.playerProps.lookup propName, error)
    else if interfaceName = "" then
      ((device.rootProps.lookup propName).or ((device.playerProps.lookup propName).or
        (device.deviceProps.lookup propName)), error)
    else (none, some ⟨.unknownInterface, "Unknown Interface"⟩)
  match found.1 with
  | none => { error := found.2.or (some ⟨.unknownProperty, "Property not defined for object"⟩) }
  | some res => { error := found.2, result := some (.value res) }

/-- `prv_add_props` adds the entries in the order of the table. -/
def prvAddProps (props : Assoc.Table String Variant) (vb : List (String × Variant)) :
    List (String × Variant) :=
  vb ++ props.entries.map fun e => (e.1, e.2)

def prvGetProps (interfaceName : String) (device : RsuDevice) (error : Option GError) :
    Outcome :=
  if interfaceName = interfaceRendererDevice then
    { error := error, result := some (.dictionary (prvAddProps device.deviceProps [])) }
  else if interfaceName = interfaceServer then
    { error := error
      result := some (.dictionary
        (prvAddProps device.deviceProps (prvAddProps device.rootProps []))) }
  else if interfaceName = interfacePlayer then
    { error := error, result := some (.dictionary (prvAddProps device.playerProps [])) }
  else if interfaceName = "" then
    { error := error
      result := some (.dictionary (prvAddProps device.deviceProps
        (prvAddProps device.playerProps (prvAddProps device.rootProps [])))) }
  else { error := some ⟨.unknownInterface, "Unknown Interface"⟩ }

/-- An `rsu_device_local_cb_t`, with what it reads from the task. -/
inductive LocalCb
  | prvCompleteGetProp (interfaceName propName : String)
  | prvCompleteGetProps (interfaceName : String)
deriving DecidableEq

def LocalCb.run (device : RsuDevice) (error : Option GError) : LocalCb → Outcome
  | .prvCompleteGetProp interfaceName propName => prvGetProp interfaceName propName device error
  | .prvCompleteGetProps interfaceName => prvGetProps interfaceName device error

/-- The RelTime of the reply, or the message of its error. -/
abbrev PositionReply := Except String String

/-- The part of `prv_get_position_info_cb` that stores the position. -/
def storePosition (reply : PositionReply) (device : RsuDevice) : RsuDevice :=
  match reply with
  | .error _ => device
  | .ok relPos => (prvAddReltime (gStrstrip relPos) ⟨device, some []⟩).emit

def PositionReply.error? : PositionReply → Option GError
  | .error message => some ⟨.operationFailed, "GetPositionInfo operation failed: " ++ message⟩
  | .ok _ => none

def prvGetPositionInfoCb (localCb : LocalCb) (reply : PositionReply) (device : RsuDevice) :
    Outcome × RsuDevice :=
  let device := storePosition reply device
  (localCb.run device reply.error?, device)

/-- A read is completed at once, or it waits for the reply to GetPositionInfo. -/
inductive Reading
  | completed (outcome : Outcome)
  | waits (localCb : LocalCb)

def rsuDeviceGetProp (context : ContextInfo) (interfaceName propName : String)
    (device : RsuDevice) : Reading × RsuDevice :=
  if (interfaceName = interfacePlayer ∨ interfaceName = "") ∧ propName = "Position" then
    (.waits (.prvCompleteGetProp interfaceName propName), device)
  else
    let device := syncProps context device
    (.completed (prvGetProp interfaceName propName device none), device)

def rsuDeviceGetAllProps (context : ContextInfo) (interfaceName : String) (device : RsuDevice) :
    Reading × RsuDevice :=
  let device := syncProps context device
  if interfaceName = interfacePlayer ∨ interfaceName = "" then
    (.waits (.prvCompleteGetProps interfaceName), device)
  else (.completed (prvGetProps interfaceName device none), device)

/-! ## Writes -/

/-- A write is completed at once, or it begins the action SetVolume with the
given DesiredVolume.  It is missing where C leaves it undefined. -/
inductive Writing
  | completed (error : Option GError)
  | setVolume (desiredVolume : Option UInt32)
deriving DecidableEq

/-- `g_variant_get_double`, which gives 0 for a value of another type. -/
def gVariantGetDouble : Variant → ℚ
  | .double x => x
  | _ => 0

def prvSetVolume (params : Variant) (device : RsuDevice) : Writing :=
  .setVolume (guintOfDouble (gVariantGetDouble params * device.maxVolume.toNat))

/-- The first of the speeds that is close to the rate, with its position. -/
def findRate (mprisRate : ℚ) (tps : List ℚ) : Option (ℚ × Nat) :=
  tps.zipIdx.find? fun speed => |mprisRate - speed.1| ≤ 1 / 100

/-- The speed of the list, and the string the device has for it. -/
def prvGetRateValueFromDouble (mprisRate : ℚ) (device : RsuDevice) :
    Except GError (ℚ × Option String) :=
  match device.playerProps.lookup "TransportPlaySpeeds" with
  | some (.doubles tps) =>
      match findRate mprisRate tps with
      | some (tpsValue, i) => .ok (tpsValue, (device.transportPlaySpeeds.getD [])[i]?)
      | none => .error ⟨.badQuery,
          "Value " ++ printTwoDecimals mprisRate ++ " not in TransportPlaySpeeds"⟩
  | _ => .error ⟨.operationFailed, "TransportPlaySpeeds list is empty"⟩

def prvSetRate (params : Variant) (device : RsuDevice) : Writing × RsuDevice :=
  match params with
  | .double mprisRate =>
      match prvGetRateValueFromDouble mprisRate device with
      | .error error => (.completed (some error), device)
      | .ok (val, rate) =>
          let u := prvChangeProps "Rate" (.double val) ⟨{ device with rate := rate }, none⟩
          (.completed none, u.device)
  | _ => (.completed (some ⟨.badQuery, "Parameter is not a double"⟩), device)

def rsuDeviceSetProp (interfaceName propName : String) (params : Variant) (device : RsuDevice) :
    Writing × RsuDevice :=
  if interfaceName ≠ interfacePlayer ∧ interfaceName ≠ "" then
    (.completed (some ⟨.unknownInterface,
      "Interface " ++ interfaceName ++ " not managed for property setting"⟩), device)
  else if propName = "Rate" then prvSetRate params device
  else if propName ≠ "Volume" then
    (.completed (some ⟨.unknownProperty,
      "Property " ++ propName ++ " not managed for setting"⟩), device)
  else (prvSetVolume params device, device)

/-! ## Runs -/

/-- The renderer between two callbacks: its device, and the reads that wait for
the reply to GetPositionInfo. -/
structure Renderer where
  device : RsuDevice := {}
  reads : List LocalCb := []

/-- What happens to the properties of a renderer.  The context is the preferred
one at that time. -/
inductive Input
  | avLastChange (change : Option AvLastChange)
  | rcLastChange (context : ContextInfo) (change : Option RcLastChange) (garbage : UInt32)
  | sinkChange (sink : Option String)
  | getProp (context : ContextInfo) (interfaceName propName : String)
  | getAllProps (context : ContextInfo) (interfaceName : String)
  | setProp (interfaceName propName : String) (params : Variant)
  | positionInfo (localCb : LocalCb) (reply : PositionReply)

def Renderer.setDevice (s : Renderer) (device : RsuDevice) : Renderer :=
  { s with device := device }

/-- A read that waits is remembered. -/
def Renderer.wait (s : Renderer) (read : Reading × RsuDevice) : Renderer :=
  match read.1 with
  | .completed _ => s.setDevice read.2
  | .waits localCb => { device := read.2, reads := localCb :: s.reads }

def exec (parseDidl : String → DidlParse) (s : Renderer) : Input → Renderer
  | .avLastChange change => s.setDevice (prvLastChangeCb parseDidl change s.device)
  | .rcLastChange context change garbage =>
      s.setDevice (prvRcLastChangeCb context change garbage s.device)
  | .sinkChange sink => s.setDevice (prvSinkChangeCb sink s.device)
  | .getProp context interfaceName propName =>
      s.wait (rsuDeviceGetProp context interfaceName propName s.device)
  | .getAllProps context interfaceName =>
      s.wait (rsuDeviceGetAllProps context interfaceName s.device)
  | .setProp interfaceName propName params =>
      s.setDevice (rsuDeviceSetProp interfaceName propName params s.device).2
  | .positionInfo localCb reply =>
      { device := (prvGetPositionInfoCb localCb reply s.device).2
        reads := s.reads.erase localCb }

/-- A reply comes to a read that waits for it. -/
def Input.enabled (s : Renderer) : Input → Bool
  | .positionInfo localCb _ => localCb ∈ s.reads
  | _ => true

def stepFn (parseDidl : String → DidlParse) (s : Renderer) (i : Input) : Option Renderer :=
  if i.enabled s then some (exec parseDidl s i) else none

/-- The runs of a renderer from its construction. -/
def renderer (parseDidl : String → DidlParse) : Transition.System Renderer Input :=
  Transition.System.ofFun {} (stepFn parseDidl)

end RendererService.Props
