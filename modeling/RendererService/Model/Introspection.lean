import RendererService.Model.Properties

/-!
# The introspection of a renderer

The properties that `g_rsu_server_introspection` declares for the objects of a
renderer, interface by interface.
-/

namespace RendererService

/-- The D-Bus types of the properties: `b`, `x`, `u`, `d`, `s`, `as`, `ad` and
`a{sv}`. -/
inductive DBusType
  | boolean
  | int64
  | uint32
  | double
  | string
  | array (element : DBusType)
  | dictionary
deriving DecidableEq, Repr

def Variant.type : Variant → DBusType
  | .boolean _ => .boolean
  | .int64 _ => .int64
  | .uint32 _ => .uint32
  | .double _ => .double
  | .string _ => .string
  | .strings _ => .array .string
  | .doubles _ => .array .double
  | .metadata _ => .dictionary

namespace Props

inductive PropertyAccess
  | read
  | readwrite
deriving DecidableEq, Repr

structure PropertyInfo where
  name : String
  type : DBusType
  access : PropertyAccess
deriving Repr

structure InterfaceInfo where
  name : String
  properties : List PropertyInfo
deriving Repr

def mpris : InterfaceInfo where
  name := interfaceServer
  properties :=
    [⟨"CanQuit", .boolean, .read⟩,
      ⟨"CanRaise", .boolean, .read⟩,
      ⟨"CanSetFullscreen", .boolean, .read⟩,
      ⟨"HasTrackList", .boolean, .read⟩,
      ⟨"Identity", .string, .read⟩,
      ⟨"SupportedUriSchemes", .array .string, .read⟩,
      ⟨"SupportedMimeTypes", .array .string, .read⟩]

def player : InterfaceInfo where
  name := interfacePlayer
  properties :=
    [⟨"PlaybackStatus", .string, .read⟩,
      ⟨"Rate", .double, .readwrite⟩,
      ⟨"MinimumRate", .double, .read⟩,
      ⟨"MaximumRate", .double, .read⟩,
      ⟨"TransportPlaySpeeds", .array .double, .read⟩,
      ⟨"Volume", .double, .readwrite⟩,
      ⟨"CanPlay", .boolean, .read⟩,
      ⟨"CanSeek", .boolean, .read⟩,
      ⟨"CanControl", .boolean, .read⟩,
      ⟨"CanPause", .boolean, .read⟩,
      ⟨"CanGoNext", .boolean, .read⟩,
      ⟨"CanGoPrevious", .boolean, .read⟩,
      ⟨"Position", .int64, .read⟩,
      ⟨"Metadata", .dictionary, .read⟩,
      ⟨"CurrentTrack", .uint32, .read⟩,
      ⟨"NumberOfTracks", .uint32, .read⟩]

def rendererDevice : InterfaceInfo where
  name := interfaceRendererDevice
  properties :=
    [⟨"DeviceType", .string, .read⟩,
      ⟨"UDN", .string, .read⟩,
      ⟨"FriendlyName", .string, .read⟩,
      ⟨"IconURL", .string, .read⟩,
      ⟨"Manufacturer", .string, .read⟩,
      ⟨"ManufacturerUrl", .string, .read⟩,
      ⟨"ModelDescription", .string, .read⟩,
      ⟨"ModelName", .string, .read⟩,
      ⟨"ModelNumber", .string, .read⟩,
      ⟨"SerialNumber", .string, .read⟩,
      ⟨"PresentationURL", .string, .read⟩,
      ⟨"ProtocolInfo", .string, .read⟩]

/-- The interfaces with properties. -/
def gRsuServerIntrospection : List InterfaceInfo := [mpris, player, rendererDevice]

/-- `g_dbus_interface_info_lookup_property`. -/
def InterfaceInfo.lookupProperty (info : InterfaceInfo) (name : String) : Option PropertyInfo :=
  info.properties.find? fun property => property.name = name

/-- The interface has the property, with the type of the value. -/
def InterfaceInfo.Declares (info : InterfaceInfo) (name : String) (value : Variant) : Prop :=
  (info.lookupProperty name).map PropertyInfo.type = some value.type

instance (info : InterfaceInfo) (name : String) (value : Variant) :
    Decidable (info.Declares name value) :=
  inferInstanceAs (Decidable (_ = _))

end Props

end RendererService
