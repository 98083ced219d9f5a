import RendererService.Lib.Changes
import RendererService.Model.Properties

/-!
# What the writers of player properties do

Every writer puts entries into the player properties and, unless it was given no
builder, the same entries into the next signal.  `Writes` says so of an update
and `Reports` of a callback; both name the keys that may be written.
-/

namespace RendererService.Props

open Assoc

variable {keys keys' : List String} {u u' u'' : Update} {dev dev' dev'' : RsuDevice}

/-- The fields that no change of the player properties touches. -/
structure SameRest (dev dev' : RsuDevice) : Prop where
  rootProps : dev'.rootProps = dev.rootProps
  deviceProps : dev'.deviceProps = dev.deviceProps
  synced : dev'.synced = dev.synced
  maxVolume : dev'.maxVolume = dev.maxVolume
  transportPlaySpeeds : dev'.transportPlaySpeeds = dev.transportPlaySpeeds

theorem SameRest.refl : SameRest dev dev := ⟨rfl, rfl, rfl, rfl, rfl⟩

theorem SameRest.trans (h : SameRest dev dev') (h' : SameRest dev' dev'') :
    SameRest dev dev'' :=
  ⟨h'.rootProps.trans h.rootProps, h'.deviceProps.trans h.deviceProps,
    h'.synced.trans h.synced, h'.maxVolume.trans h.maxVolume,
    h'.transportPlaySpeeds.trans h.transportPlaySpeeds⟩

/-- The entries that are put into the player properties are those added to the
builder. -/
structure Writes (keys : List String) (u u' : Update) : Prop where
  entries : ∃ l : List (String × Variant), (∀ key ∈ l.map Prod.fst, key ∈ keys) ∧
    u'.device.playerProps = insertAll u.device.playerProps l ∧
    u'.changedPropsVb = u.changedPropsVb.map fun vb => vb ++ l
  signals : u'.device.signals = u.device.signals
  rest : SameRest u.device u'.device

namespace Writes

theorem refl : Writes keys u u :=
  ⟨⟨[], by simp, rfl, by simp⟩, rfl, .refl⟩

theorem trans (h : Writes keys u u') (h' : Writes keys u' u'') : Writes keys u u'' := by
  obtain ⟨l, hkeys, hprops, hvb⟩ := h.entries
  obtain ⟨l', hkeys', hprops', hvb'⟩ := h'.entries
  refine ⟨⟨l ++ l', ?_, ?_, ?_⟩, h'.signals.trans h.signals, h.rest.trans h'.rest⟩
  · intro key hkey
    rw [List.map_append, List.mem_append] at hkey
    exact hkey.elim (hkeys key) (hkeys' key)
  · rw [hprops', hprops, insertAll_append]
  · rw [hvb', hvb, Option.map_map]
    apply Option.map_congr
    intro vb _
    exact List.append_assoc vb l l'

theorem mono (h : Writes keys u u') (hsub : ∀ key ∈ keys, key ∈ keys') : Writes keys' u u' := by
  obtain ⟨l, hkeys, hrest⟩ := h.entries
  exact ⟨⟨l, fun key hkey => hsub key (hkeys key hkey), hrest⟩, h.signals, h.rest⟩

theorem lookup (h : Writes keys u u') {key : String} (hkey : key ∉ keys) :
    u'.device.playerProps.lookup key = u.device.playerProps.lookup key := by
  obtain ⟨l, hkeys, hprops, -⟩ := h.entries
  rw [hprops]
  exact lookup_insertAll_of_not_mem (fun hmem => hkey (hkeys key hmem)) _

theorem ifSet {α : Type} {value : Option α} {f : α → Update → Update}
    (h : ∀ a, Writes keys u (f a u)) : Writes keys u (Props.ifSet value f u) := by
  cases value with
  | none => exact refl
  | some a => exact h a

end Writes

/-! ## Each writer -/

theorem prvChangeProps_writes (key : String) (value : Variant) (u : Update) :
    Writes [key] u (prvChangeProps key value u) :=
  ⟨⟨[(key, value)], by simp, rfl, rfl⟩, rfl, ⟨rfl, rfl, rfl, rfl, rfl⟩⟩

theorem prvChangeProps_writes_mem {key : String} (hkey : key ∈ keys) (value : Variant)
    (u : Update) : Writes keys u (prvChangeProps key value u) :=
  (prvChangeProps_writes key value u).mono fun _ hkey' => List.mem_singleton.mp hkey' ▸ hkey

theorem prvMergeMetaData_writes (key : String) (value : MetaValue) (u : Update) :
    Writes ["Metadata"] u (prvMergeMetaData key value u) :=
  prvChangeProps_writes _ _ u

theorem prvAddTrackMetaData_writes (parseDidl : String → DidlParse) (metadata : String)
    (duration uri : Option String) (u : Update) :
    Writes ["Metadata"] u (prvAddTrackMetaData parseDidl metadata duration uri u) := by
  unfold prvAddTrackMetaData
  dsimp only
  split
  · exact prvChangeProps_writes _ _ u
  · exact .refl

def actionKeys : List String :=
  ["CanControl", "CanPlay", "CanPause", "CanSeek", "CanGoNext", "CanGoPrevious"]

def changeAll (l : List (String × Variant)) (u : Update) : Update :=
  l.foldl (fun u e => prvChangeProps e.1 e.2 u) u

theorem changeAll_writes {l : List (String × Variant)} (hl : ∀ key ∈ l.map Prod.fst, key ∈ keys)
    (u : Update) : Writes keys u (changeAll l u) := by
  induction l generalizing u with
  | nil => exact .refl
  | cons e l ih =>
      rw [List.map_cons, List.forall_mem_cons] at hl
      exact (prvChangeProps_writes_mem hl.1 e.2 u).trans (ih hl.2 _)

def ActionFlags.changes (flags : ActionFlags) : List (String × Variant) :=
  [("CanControl", .boolean false), ("CanPlay", .boolean flags.play),
    ("CanPause", .boolean flags.ppause), ("CanSeek", .boolean flags.seek),
    ("CanGoNext", .boolean flags.next), ("CanGoPrevious", .boolean flags.previous)]

theorem ActionFlags.keys_changes (flags : ActionFlags) :
    flags.changes.map Prod.fst = actionKeys := rfl

theorem prvAddActions_eq (actions : String) (u : Update) :
    prvAddActions actions u = changeAll
      (((gStrsplit actions ',').map gStrstrip).foldl ActionFlags.note {}).changes u := rfl

theorem prvAddActions_writes (actions : String) (u : Update) :
    Writes actionKeys u (prvAddActions actions u) := by
  rw [prvAddActions_eq]
  apply changeAll_writes
  rw [ActionFlags.keys_changes]
  exact fun key hkey => hkey

def allActionChanges : List (String × Variant) :=
  (actionKeys.tail ++ ["CanControl"]).map fun key => (key, .boolean true)

theorem prvAddAllActions_eq (u : Update) :
    prvAddAllActions u = changeAll allActionChanges u := rfl

theorem prvAddAllActions_writes (u : Update) : Writes actionKeys u (prvAddAllActions u) := by
  rw [prvAddAllActions_eq]
  exact changeAll_writes (by decide) u

theorem changeRate_writes (playSpeed : String) (u : Update) :
    Writes ["Rate"] u (changeRate playSpeed u) := by
  have hchange := prvChangeProps_writes "Rate" (.double (prvMapTransportSpeed playSpeed)) u
  exact ⟨hchange.entries, rfl, ⟨rfl, rfl, rfl, rfl, rfl⟩⟩

theorem changeNumber_writes (key : String) (parsed : Option UInt32) (u : Update) :
    Writes [key] u (changeNumber key parsed u) := by
  unfold changeNumber
  dsimp only
  split
  · exact prvChangeProps_writes key _ u
  · exact .refl

theorem changeMetaData_writes (parseDidl : String → DidlParse) (change : AvLastChange)
    (u : Update) :
    Writes ["Metadata"] u (changeMetaData parseDidl change u) := by
  unfold changeMetaData
  dsimp only
  split
  next metaData _ => exact prvAddTrackMetaData_writes parseDidl metaData _ _ u
  next =>
    apply Writes.trans (.ifSet fun duration => prvMergeMetaData_writes _ _ _)
    exact .ifSet fun uri => prvMergeMetaData_writes _ _ _

def playbackKeys : List String := ["Rate", "PlaybackStatus", "NumberOfTracks", "CurrentTrack"]

theorem changePlayback_writes (change : AvLastChange) (u : Update) :
    Writes playbackKeys u (changePlayback change u) := by
  have hone : ∀ {key u u'}, key ∈ playbackKeys → Writes [key] u u' → Writes playbackKeys u u' :=
    fun hkey h => h.mono fun _ hkey' => List.mem_singleton.mp hkey' ▸ hkey
  unfold changePlayback
  apply Writes.trans _ (hone (by decide) (changeNumber_writes "CurrentTrack" _ _))
  apply Writes.trans _ (hone (by decide) (changeNumber_writes "NumberOfTracks" _ _))
  apply Writes.trans _ (.ifSet fun state => hone (by decide)
    (prvChangeProps_writes "PlaybackStatus" _ _))
  exact .ifSet fun playSpeed => hone (by decide) (changeRate_writes playSpeed u)

def AvLastChange.writtenKeys (change : AvLastChange) : List String :=
  "Metadata" :: (ifSet change.currentTransportActions (fun _ keys => actionKeys ++ keys)
    playbackKeys)

theorem AvLastChange.mem_writtenKeys {change : AvLastChange} {key : String}
    (hkey : key ∈ change.writtenKeys) : key ∈ "Metadata" :: (actionKeys ++ playbackKeys) := by
  unfold AvLastChange.writtenKeys at hkey
  cases hactions : change.currentTransportActions with
  | none =>
      rw [hactions] at hkey
      exact List.cons_subset_cons _ (List.subset_append_right actionKeys playbackKeys) hkey
  | some actions =>
      rw [hactions] at hkey
      exact hkey

theorem applyLastChange_writes (parseDidl : String → DidlParse) (change : AvLastChange)
    (u : Update) : Writes change.writtenKeys u (applyLastChange parseDidl change u) := by
  unfold applyLastChange AvLastChange.writtenKeys
  cases change.currentTransportActions with
  | none =>
      apply Writes.trans ((changeMetaData_writes parseDidl change u).mono (by simp))
      exact (changePlayback_writes change _).mono (by decide)
  | some actions =>
      apply Writes.trans ((changeMetaData_writes parseDidl change u).mono (by simp))
      apply Writes.trans ((prvAddActions_writes actions _).mono fun key hkey =>
        List.mem_cons_of_mem _ (List.mem_append_left playbackKeys hkey))
      exact (changePlayback_writes change _).mono fun key hkey =>
        List.mem_cons_of_mem _ (List.mem_append_right actionKeys hkey)

def rateKeys : List String := ["MinimumRate", "MaximumRate", "TransportPlaySpeeds"]

theorem publishRates_writes (rates : Rates) (u : Update) :
    Writes rateKeys u (publishRates rates u) := by
  have hrate : ∀ key ∈ rateKeys, ∀ rate u, Writes rateKeys u (publishRate key rate u) := by
    intro key hkey rate u
    unfold publishRate
    split
    · exact prvChangeProps_writes_mem hkey _ u
    · exact .refl
  unfold publishRates
  apply Writes.trans (hrate "MinimumRate" (by decide) _ _)
  apply Writes.trans (hrate "MaximumRate" (by decide) _ _)
  exact prvChangeProps_writes_mem (by decide) _ _

/-! ## Callbacks -/

/-- What a client makes of the signals: it applies those of the player interface
to its copy. -/
def mirror (copy : Table String Variant) (signals : List PropertiesChanged) :
    Table String Variant :=
  signals.foldl (fun copy signal =>
    if signal.interface = interfacePlayer then insertAll copy signal.changedProps else copy) copy

theorem mirror_append (copy : Table String Variant) (signals signals' : List PropertiesChanged) :
    mirror copy (signals ++ signals') = mirror (mirror copy signals) signals' := by
  simp only [mirror, List.foldl_append]

theorem lookup_mirror_congr {t t' : Table String Variant}
    (h : ∀ key, t.lookup key = t'.lookup key) (signals : List PropertiesChanged) (key : String) :
    (mirror t signals).lookup key = (mirror t' signals).lookup key := by
  induction signals generalizing t t' with
  | nil => exact h key
  | cons signal signals ih =>
      apply ih
      intro key'
      dsimp only
      split
      · exact lookup_insertAll_congr h signal.changedProps key'
      · exact h key'

/-- Signals were emitted, and a client that applies them follows the player
properties; all of them are about the keys. -/
structure Reports (keys : List String) (dev dev' : RsuDevice) : Prop where
  signals : ∃ new, dev'.signals = dev.signals ++ new ∧
    (∀ signal ∈ new, signal.interface = interfacePlayer ∧
      ∀ key ∈ signal.changedProps.map Prod.fst, key ∈ keys) ∧
    dev'.playerProps = mirror dev.playerProps new

namespace Reports

theorem of_eq (hsignals : dev'.signals = dev.signals)
    (hprops : dev'.playerProps = dev.playerProps) : Reports keys dev dev' :=
  ⟨[], by simp [hsignals], by simp, hprops⟩

theorem trans (h : Reports keys dev dev') (h' : Reports keys dev' dev'') :
    Reports keys dev dev'' := by
  obtain ⟨new, hsignals, hnew, hprops⟩ := h.signals
  obtain ⟨new', hsignals', hnew', hprops'⟩ := h'.signals
  refine ⟨new ++ new', ?_, ?_, ?_⟩
  · rw [hsignals', hsignals, List.append_assoc]
  · intro signal hsignal
    exact (List.mem_append.mp hsignal).elim (hnew signal) (hnew' signal)
  · rw [hprops', hprops, mirror_append]

theorem mono (h : Reports keys dev dev') (hsub : ∀ key ∈ keys, key ∈ keys') :
    Reports keys' dev dev' := by
  obtain ⟨new, hsignals, hnew, hprops⟩ := h.signals
  exact ⟨new, hsignals, fun signal hsignal => ⟨(hnew signal hsignal).1,
    fun key hkey => hsub key ((hnew signal hsignal).2 key hkey)⟩, hprops⟩

theorem lookup (h : Reports keys dev dev') {key : String} (hkey : key ∉ keys) :
    dev'.playerProps.lookup key = dev.playerProps.lookup key := by
  obtain ⟨new, -, hnew, hprops⟩ := h.signals
  rw [hprops]
  clear hprops
  generalize dev.playerProps = t
  induction new generalizing t with
  | nil => rfl
  | cons signal new ih =>
      obtain ⟨hinterface, hkeys⟩ := hnew signal List.mem_cons_self
      calc
        (mirror (if signal.interface = interfacePlayer then insertAll t signal.changedProps
          else t) new).lookup key = (insertAll t signal.changedProps).lookup key := by
            rw [if_pos hinterface]
            exact ih (fun signal hsignal => hnew signal (List.mem_cons_of_mem _ hsignal)) _
        _ = t.lookup key := lookup_insertAll_of_not_mem (fun hmem => hkey (hkeys key hmem)) t

end Reports

theorem Writes.reports (h : Writes keys ⟨dev, some []⟩ u) : Reports keys dev u.emit := by
  obtain ⟨l, hkeys, hprops, hvb⟩ := h.entries
  have hchanged : u.changedPropsVb = some l := hvb
  refine ⟨[⟨interfacePlayer, l⟩], ?_, ?_, ?_⟩
  · rw [Update.emit, prvEmitSignalPropertiesChanged, hchanged, h.signals]
    rfl
  · intro signal hsignal
    obtain rfl := List.mem_singleton.mp hsignal
    exact ⟨rfl, hkeys⟩
  · exact hprops

end RendererService.Props
