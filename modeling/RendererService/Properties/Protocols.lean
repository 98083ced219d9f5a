import Mathlib.Data.Set.Defs
import RendererService.Lib.Fields
import RendererService.Lib.Log
import RendererService.Properties.Numbers
import RendererService.Properties.Reads

/-!
# The protocols of a sink

A Sink lists what a renderer takes, as in `http-get:*:audio/mpeg:*,rtsp:*:video/mp4:*`:
entries between commas, of which the first field names a protocol and the third
one a type.
-/

namespace RendererService.Props

open Assoc Fields Transition

variable {dev : RsuDevice} {s : Renderer} {i : Input} {is : List Input}
  {parseDidl : String → DidlParse}

/-! ## What a sink offers -/

def lower (l : List Char) : List Char := l.map Char.toLower

def schemeOf (protocol : List Char) : List Char :=
  if "http-".toList <+: protocol then "http".toList else protocol

/-- The scheme and the type of an entry, which has them if it has three fields. -/
inductive Offers (entry : List Char) : String → String → Prop
  | mk {first second third : List Char} {rest : List (List Char)} :
      entry.splitOn ':' = first :: second :: third :: rest →
      Offers entry (String.ofList (schemeOf (lower first))) (String.ofList (lower third))

def entries (sink : String) : List (List Char) := sink.toList.splitOn ','

def schemes (sink : String) : Set String :=
  {scheme | ∃ entry ∈ entries sink, ∃ type, Offers entry scheme type}

def mimeTypes (sink : String) : Set String :=
  {type | ∃ entry ∈ entries sink, ∃ scheme, Offers entry scheme type}

/-! ## The spelling of the entries -/

theorem toLower_eq_colon (c : Char) : c.toLower = ':' ↔ c = ':' := by
  unfold Char.toLower
  split
  next h =>
    have hlow : 65 ≤ c.toNat := UInt32.le_iff_toNat_le.mp h.1
    have hhigh : c.toNat ≤ 90 := UInt32.le_iff_toNat_le.mp h.2
    constructor
    · intro heq
      have hval : (c.val + 32).toNat = 58 := congrArg Char.toNat heq
      rw [UInt32.toNat_add, Char.toNat_val] at hval
      have hsum : (c.toNat + 32) % 2 ^ 32 = 58 := hval
      omega
    · intro heq
      rw [heq] at hlow
      exact absurd hlow (by decide)
  · rfl

theorem offers_iff {entry : List Char} {scheme type : String} :
    Offers entry scheme type ↔ ∃ first second third rest,
      (lower entry).splitOn ':' = first :: second :: third :: rest ∧
        scheme = String.ofList (schemeOf first) ∧ type = String.ofList third := by
  have hsplit : (lower entry).splitOn ':' = (entry.splitOn ':').map lower :=
    splitOn_map toLower_eq_colon entry
  constructor
  · rintro ⟨hfields⟩
    exact ⟨_, _, _, _, by rw [hsplit, hfields]; rfl, rfl, rfl⟩
  · rintro ⟨first, second, third, rest, hfields, rfl, rfl⟩
    rw [hsplit] at hfields
    obtain ⟨first, l, hentry, rfl, hlater⟩ := List.map_eq_cons_iff.mp hfields
    obtain ⟨second, l, rfl, rfl, hlast⟩ := List.map_eq_cons_iff.mp hlater
    obtain ⟨third, l, rfl, rfl, -⟩ := List.map_eq_cons_iff.mp hlast
    exact .mk hentry

theorem schemes_rearranged {sink other : String}
    (h : Rearranged lower (entries sink) (entries other)) : schemes other = schemes sink := by
  ext scheme
  simp only [schemes, Set.mem_ofPred_eq, offers_iff]
  exact (h.exists_iff fun entry => ∃ type first second third rest,
    entry.splitOn ':' = first :: second :: third :: rest ∧
      scheme = String.ofList (schemeOf first) ∧ type = String.ofList third).symm

theorem mimeTypes_rearranged {sink other : String}
    (h : Rearranged lower (entries sink) (entries other)) : mimeTypes other = mimeTypes sink := by
  ext type
  simp only [mimeTypes, Set.mem_ofPred_eq, offers_iff]
  exact (h.exists_iff fun entry => ∃ scheme first second third rest,
    entry.splitOn ':' = first :: second :: third :: rest ∧
      scheme = String.ofList (schemeOf first) ∧ type = String.ofList third).symm

/-! ## What the code makes of an entry -/

theorem gAsciiStrdown_ofList (l : List Char) :
    gAsciiStrdown (String.ofList l) = String.ofList (lower l) := by
  rw [gAsciiStrdown, String.toList_ofList, lower]

theorem http_iff (protocol : List Char) :
    gAsciiStrdown (String.ofList (protocol.take 5)) = "http-" ↔
      "http-".toList <+: lower protocol := by
  have hlower : lower (protocol.take 5) = (lower protocol).take 5 := List.map_take
  rw [gAsciiStrdown_ofList, hlower, List.prefix_iff_eq_take, ← String.toList_inj,
    String.toList_ofList, eq_comm]
  rfl

theorem gAsciiStrdown_cut (protocol : List Char) :
    gAsciiStrdown (if gAsciiStrdown (String.ofList (protocol.take 5)) = "http-" then
        String.ofList (protocol.take 4) else String.ofList protocol) =
      String.ofList (schemeOf (lower protocol)) := by
  unfold schemeOf
  by_cases h : "http-".toList <+: lower protocol
  · have hcut : lower (protocol.take 4) = "http".toList := by
      obtain ⟨rest, hrest⟩ := h
      have htake : lower (protocol.take 4) = (lower protocol).take 4 := List.map_take
      rw [htake, ← hrest]
      rfl
    rw [if_pos ((http_iff protocol).mpr h), if_pos h, gAsciiStrdown_ofList, hcut]
  · rw [if_neg fun heq => h ((http_iff protocol).mp heq), if_neg h, gAsciiStrdown_ofList]

theorem add_of_fields (tables : ProtocolInfo) {entry first second third : List Char}
    {rest : List (List Char)} (hfields : entry.splitOn ':' = first :: second :: third :: rest) :
    tables.add (String.ofList entry) =
      { protocols := tables.protocols.insert (String.ofList (schemeOf (lower first))) ()
        types := tables.types.insert (String.ofList (lower third)) () } := by
  have hne : (String.ofList entry).toList ≠ [] := by
    rw [String.toList_ofList]
    rintro rfl
    simp at hfields
  have hread : gStrsplit (String.ofList entry) ':' =
      String.ofList first :: String.ofList second :: String.ofList third ::
        rest.map String.ofList := by
    rw [gStrsplit_of_ne_nil hne, String.toList_ofList, hfields]
    rfl
  rw [ProtocolInfo.add, hread]
  dsimp only
  rw [String.toList_ofList, gAsciiStrdown_cut, gAsciiStrdown_ofList]

theorem add_of_short (tables : ProtocolInfo) {entry : List Char}
    (hshort : (entry.splitOn ':').length < 3) : tables.add (String.ofList entry) = tables := by
  rw [ProtocolInfo.add]
  split
  next hread =>
    rw [gStrsplit, String.toList_ofList] at hread
    split at hread
    · cases hread
    · have hlength := congrArg List.length hread
      simp at hlength
      omega
  · rfl

theorem mem_add (tables : ProtocolInfo) (entry : List Char) (name : String) :
    (name ∈ (tables.add (String.ofList entry)).protocols.keys ↔
      name ∈ tables.protocols.keys ∨ ∃ type, Offers entry name type) ∧
    (name ∈ (tables.add (String.ofList entry)).types.keys ↔
      name ∈ tables.types.keys ∨ ∃ scheme, Offers entry scheme name) := by
  by_cases hshort : (entry.splitOn ':').length < 3
  · have hnone : ∀ scheme type, ¬Offers entry scheme type := by
      intro scheme type ⟨hfields⟩
      rw [hfields] at hshort
      simp at hshort
      omega
    rw [add_of_short tables hshort]
    simp [hnone]
  · obtain ⟨first, second, third, rest, hfields⟩ : ∃ first second third rest,
        entry.splitOn ':' = first :: second :: third :: rest := by
      match hfields : entry.splitOn ':' with
      | first :: second :: third :: rest => exact ⟨first, second, third, rest, rfl⟩
      | [] => simp [hfields] at hshort
      | [_] => simp [hfields] at hshort
      | [_, _] => simp [hfields] at hshort
    have hoffers : ∀ scheme type, Offers entry scheme type ↔
        String.ofList (schemeOf (lower first)) = scheme ∧ String.ofList (lower third) = type := by
      intro scheme type
      constructor
      · rintro ⟨hfields'⟩
        rw [hfields] at hfields'
        cases hfields'
        exact ⟨rfl, rfl⟩
      · rintro ⟨rfl, rfl⟩
        exact .mk hfields
    rw [add_of_fields tables hfields, mem_keys_insert, mem_keys_insert]
    simp [hoffers]

/-! ## What the code makes of a sink -/

def tablesOf (sink : String) : ProtocolInfo := (gStrsplit sink ',').foldl ProtocolInfo.add {}

/-- The empty sink has one empty entry, and `g_strsplit` makes none of it. -/
theorem tablesOf_eq (sink : String) :
    tablesOf sink =
      (entries sink).foldl (fun tables entry => tables.add (String.ofList entry)) {} := by
  rw [tablesOf, gStrsplit, entries]
  split
  next hempty =>
    rw [hempty]
    rfl
  · rw [List.foldl_map]

theorem mem_protocols (sink name : String) :
    name ∈ (tablesOf sink).protocols.keys ↔ name ∈ schemes sink := by
  rw [tablesOf_eq, foldl_adds (P := fun tables name => name ∈ tables.protocols.keys)
    fun tables entry name => (mem_add tables entry name).1]
  simp [schemes]

theorem mem_types (sink name : String) :
    name ∈ (tablesOf sink).types.keys ↔ name ∈ mimeTypes sink := by
  rw [tablesOf_eq, foldl_adds (P := fun tables name => name ∈ tables.types.keys)
    fun tables entry name => (mem_add tables entry name).2]
  simp [mimeTypes]

structure SinkProps where
  uriSchemes : Option Variant := none
  mimeTypes : Option Variant := none
  protocolInfo : Option Variant := none

def RsuDevice.sinkProps (device : RsuDevice) : SinkProps where
  uriSchemes := device.rootProps.lookup "SupportedUriSchemes"
  mimeTypes := device.rootProps.lookup "SupportedMimeTypes"
  protocolInfo := device.deviceProps.lookup "ProtocolInfo"

theorem sinkProps_prvProcessProtocolInfo (sink : String) (device : RsuDevice) :
    (prvProcessProtocolInfo sink device).sinkProps =
      { uriSchemes := some (.strings (tablesOf sink).protocols.keys)
        mimeTypes := some (.strings (tablesOf sink).types.keys)
        protocolInfo := some (.string sink) } := by
  simp [RsuDevice.sinkProps, prvProcessProtocolInfo, prvAsPropFromHashTable, tablesOf]

theorem prvProcessProtocolInfo_const (sink : String) (device before : RsuDevice) :
    (prvProcessProtocolInfo sink before).sinkProps =
      (prvProcessProtocolInfo sink device).sinkProps := by
  rw [sinkProps_prvProcessProtocolInfo, sinkProps_prvProcessProtocolInfo]

/-- The value is a list without repetition of the members of a set. -/
def ListsSet (value : Option Variant) (members : Set String) : Prop :=
  ∃ l, value = some (.strings l) ∧ l.Nodup ∧ ∀ name, name ∈ l ↔ name ∈ members

theorem prvProcessProtocolInfo_lists (sink : String) (device : RsuDevice) :
    ListsSet (prvProcessProtocolInfo sink device).sinkProps.uriSchemes (schemes sink) ∧
    ListsSet (prvProcessProtocolInfo sink device).sinkProps.mimeTypes (mimeTypes sink) := by
  rw [sinkProps_prvProcessProtocolInfo]
  exact ⟨⟨_, rfl, AList.keys_nodup _, mem_protocols sink⟩,
    ⟨_, rfl, AList.keys_nodup _, mem_types sink⟩⟩

/-- For every sink and whatever the renderer held before, it lists exactly the schemes and
the types of the sink and holds the sink as it is; a sink with the same entries in another
order, repeated or in another case leads to the same two sets. -/
theorem prvProcessProtocolInfo_exact (sink : String) (device : RsuDevice) :
    ListsSet (prvProcessProtocolInfo sink device).sinkProps.uriSchemes (schemes sink) ∧
    ListsSet (prvProcessProtocolInfo sink device).sinkProps.mimeTypes (mimeTypes sink) ∧
    (prvProcessProtocolInfo sink device).sinkProps.protocolInfo = some (.string sink) ∧
    (∀ before : RsuDevice, (prvProcessProtocolInfo sink before).sinkProps =
      (prvProcessProtocolInfo sink device).sinkProps) ∧
    ∀ other before, Rearranged lower (entries sink) (entries other) →
      ListsSet (prvProcessProtocolInfo other before).sinkProps.uriSchemes (schemes sink) ∧
      ListsSet (prvProcessProtocolInfo other before).sinkProps.mimeTypes (mimeTypes sink) := by
  obtain ⟨hschemes, htypes⟩ := prvProcessProtocolInfo_lists sink device
  refine ⟨hschemes, htypes, ?_, prvProcessProtocolInfo_const sink device, ?_⟩
  · rw [sinkProps_prvProcessProtocolInfo]
  · intro other before h
    rw [← schemes_rearranged h, ← mimeTypes_rearranged h]
    exact prvProcessProtocolInfo_lists other before

/-- An entry is repeated, and the other one is in capitals. -/
theorem prvProcessProtocolInfo_exact_recased :
    ListsSet (prvProcessProtocolInfo "http-get:*:audio/ogg,RTSP:*:video/mp4,http-get:*:audio/ogg"
      {}).sinkProps.uriSchemes (schemes "http-get:*:audio/ogg,rtsp:*:video/mp4") := by
  let get : List Char := "http-get:*:audio/ogg".toList
  let rtsp : List Char := "rtsp:*:video/mp4".toList
  let capitals : List Char := "RTSP:*:video/mp4".toList
  have hsink : entries "http-get:*:audio/ogg,rtsp:*:video/mp4" = [get, rtsp] := by
    decide +kernel
  have hother : entries "http-get:*:audio/ogg,RTSP:*:video/mp4,http-get:*:audio/ogg" =
      [get, capitals, get] := by
    decide +kernel
  have hagain : Rearranged lower [get, rtsp] [get, get, rtsp] := .again List.mem_cons_self
  have hreorder : Rearranged lower [get, get, rtsp] [get, rtsp, get] :=
    .reorder (.cons get (.swap rtsp get []))
  have hrespell : Rearranged lower [get, rtsp, get] [get, capitals, get] :=
    .respell (by decide +kernel)
  have hrearranged := (hagain.trans hreorder).trans hrespell
  rw [← hsink, ← hother] at hrearranged
  exact ((prvProcessProtocolInfo_exact _ {}).2.2.2.2 _ {} hrearranged).1

/-! ## Runs -/

def Input.sink? : Input → Option String
  | .sinkChange sink => sink
  | _ => none

def latestSink (is : List Input) : Option String := is.reverse.findSome? Input.sink?

theorem latestSink_append (is : List Input) (i : Input) :
    latestSink (is ++ [i]) = i.sink?.or (latestSink is) :=
  Log.findSome?_reverse_snoc Input.sink? is i

theorem SameRest.sinkProps {dev' : RsuDevice} (h : SameRest dev dev') :
    dev'.sinkProps = dev.sinkProps := by
  rw [RsuDevice.sinkProps, RsuDevice.sinkProps, h.rootProps, h.deviceProps]

theorem lookup_updateRootProps (deviceProps props : Table String Variant) {key : String}
    (hkey : key ∉ ["CanQuit", "CanRaise", "CanSetFullscreen", "HasTrackList", "Identity"]) :
    (updateRootProps deviceProps props).lookup key = props.lookup key := by
  obtain ⟨hquit, hraise, hscreen, hlist, hidentity⟩ : key ≠ "CanQuit" ∧ key ≠ "CanRaise" ∧
      key ≠ "CanSetFullscreen" ∧ key ≠ "HasTrackList" ∧ key ≠ "Identity" := by
    simpa using hkey
  unfold updateRootProps
  dsimp only
  split
  · simp only [lookup_insert_eq, if_neg hquit, if_neg hraise, if_neg hscreen, if_neg hlist,
      if_neg hidentity]
  · simp only [lookup_insert_eq, lookup_erase_eq, if_neg hquit, if_neg hraise, if_neg hscreen,
      if_neg hlist, if_neg hidentity]

/-- The first use reads the description, which has nothing of the sink. -/
theorem sinkProps_prvPropsUpdate (context : ContextInfo) (dev : RsuDevice) :
    (prvPropsUpdate context dev).sinkProps = dev.sinkProps := by
  have hrest := (publish_writes context ⟨readDescription context dev, some []⟩).rest
  have hread : (readDescription context dev).sinkProps = dev.sinkProps := by
    rw [RsuDevice.sinkProps, readDescription, RsuDevice.sinkProps]
    dsimp only
    rw [lookup_updateRootProps _ _ (by decide), lookup_updateRootProps _ _ (by decide)]
    simp [prvUpdateDeviceProps, lookup_insertString]
  exact hrest.sinkProps.trans hread

/-- Only a notification with a sink changes what is held of the sink. -/
theorem exec_sinkProps (parseDidl : String → DidlParse) (s : Renderer) (hsink : i.sink? = none) :
    (exec parseDidl s i).device.sinkProps = s.device.sinkProps := by
  by_cases hchange : ∃ sink, i = .sinkChange sink
  · obtain ⟨sink, rfl⟩ := hchange
    obtain rfl : sink = none := hsink
    rfl
  · have hother : ∀ sink, i ≠ .sinkChange sink := fun sink heq => hchange ⟨sink, heq⟩
    cases hsyncs : i.syncs s.device with
    | false => exact (exec_rest parseDidl s hsyncs hother).sinkProps
    | true =>
        obtain ⟨context, -, hexec⟩ := exec_firstUse parseDidl s hsyncs
        have hafter := i.syncs_of_synced (synced_prvPropsUpdate context s.device)
        have hrest :=
          exec_rest parseDidl (s.setDevice (prvPropsUpdate context s.device)) hafter hother
        rw [hexec]
        exact hrest.sinkProps.trans (sinkProps_prvPropsUpdate context s.device)

/-- After every run the properties are those of the latest sink. -/
theorem sinkProps_latest (h : (renderer parseDidl).Reaches is s) :
    s.device.sinkProps = match latestSink is with
      | some sink => (prvProcessProtocolInfo sink {}).sinkProps
      | none => {} := by
  refine h.trace_invariant (P := fun is s => s.device.sinkProps = match latestSink is with
    | some sink => (prvProcessProtocolInfo sink {}).sinkProps
    | none => {}) ?_ ?_
  · intro s hstart
    obtain rfl : s = {} := hstart
    rfl
  · intro is s i s' _ hinv hstep
    obtain ⟨-, rfl⟩ := stepFn_eq hstep
    rw [latestSink_append]
    cases hsink : i.sink? with
    | none => rw [exec_sinkProps parseDidl s hsink, hinv, Option.none_or]
    | some sink =>
        cases i with
        | sinkChange sink' =>
            obtain rfl : sink' = some sink := hsink
            rw [Option.some_or]
            exact prvProcessProtocolInfo_const sink {} s.device
        | _ => cases hsink

end RendererService.Props
