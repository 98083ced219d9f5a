import RendererService.Lib.Dictionary
import RendererService.Properties.Callbacks

/-!
# The metadata of the track

An event with a DIDL-Lite document has Metadata built anew; the duration and the URI of
an event without one are merged into what was there.  Only the merge looks for a key
before it adds it.
-/

namespace RendererService.Props

open Dictionary Transition

variable {dev dev' : RsuDevice} {s s' : Renderer} {i : Input} {is : List Input}
  {parseDidl : String → DidlParse}

/-! ## An item of a document -/

theorem addString_append (key : String) (value : Option String)
    (l vb : List (String × MetaValue)) :
    addString key value (l ++ vb) = l ++ addString key value vb := by
  cases value with
  | none => rfl
  | some s => exact List.append_assoc l vb _

theorem prvFoundItem_append (object : DidlObject) (vb : List (String × MetaValue)) :
    prvFoundItem object vb = vb ++ prvFoundItem object [] := by
  unfold prvFoundItem
  dsimp only
  split
  · split
    · simp only [List.nil_append, List.append_assoc, addString_append]
    · simp only [List.nil_append, addString_append]
  · split
    · simp only [List.nil_append, List.append_assoc, addString_append]
    · simp only [List.nil_append, List.append_assoc, addString_append]

theorem foldl_prvFoundItem (items : List DidlObject) (vb : List (String × MetaValue)) :
    items.foldl (fun vb object => prvFoundItem object vb) vb =
      vb ++ items.flatMap fun object => prvFoundItem object [] := by
  induction items generalizing vb with
  | nil => simp
  | cons object items ih =>
      rw [List.foldl_cons, ih, prvFoundItem_append object vb, List.append_assoc,
        List.flatMap_cons]

def itemKeys : List String :=
  ["mpris:trackid", "mpris:trackNumber", "xesam:title", "mpris:artUrl", "xesam:album",
    "xesam:genre", "xesam:artist", "xesam:albumArtist"]

/-- The keys of a dictionary include the first list and are among the second, in order. -/
def KeysBetween (least most : List String) (vb : List (String × MetaValue)) : Prop :=
  least.Sublist (vb.map Prod.fst) ∧ (vb.map Prod.fst).Sublist most

theorem KeysBetween.append {least most : List String} {vb : List (String × MetaValue)}
    (h : KeysBetween least most vb) (l : List (String × MetaValue)) :
    KeysBetween least (most ++ l.map Prod.fst) (vb ++ l) := by
  rw [KeysBetween, List.map_append]
  exact ⟨h.1.trans (List.sublist_append_left _ _), h.2.append (.refl _)⟩

theorem KeysBetween.skip {least most : List String} {vb : List (String × MetaValue)}
    (h : KeysBetween least most vb) (keys : List String) :
    KeysBetween least (most ++ keys) vb :=
  ⟨h.1, h.2.trans (List.sublist_append_left most keys)⟩

theorem KeysBetween.addString {least most : List String} {vb : List (String × MetaValue)}
    (h : KeysBetween least most vb) (key : String) (value : Option String) :
    KeysBetween least (most ++ [key]) (addString key value vb) := by
  cases value with
  | none => exact h.skip [key]
  | some s => exact h.append [(key, .string s)]

theorem keys_prvFoundItem (object : DidlObject) :
    KeysBetween ["mpris:trackid"] itemKeys (prvFoundItem object []) := by
  have hid : ∀ id, KeysBetween ["mpris:trackid"] ["mpris:trackid"] [("mpris:trackid", id)] :=
    fun id => ⟨.refl _, .refl _⟩
  have hstrings : ∀ vb, KeysBetween ["mpris:trackid"] (itemKeys.take 2) vb →
      KeysBetween ["mpris:trackid"] (itemKeys.take 6)
        (addString "xesam:genre" object.genre (addString "xesam:album" object.album
          (addString "mpris:artUrl" object.albumArt
            (addString "xesam:title" object.title vb)))) := by
    intro vb h
    have htitle := h.addString "xesam:title" object.title
    have hart := htitle.addString "mpris:artUrl" object.albumArt
    have halbum := hart.addString "xesam:album" object.album
    exact halbum.addString "xesam:genre" object.genre
  unfold prvFoundItem
  dsimp only
  split
  · apply KeysBetween.skip (hstrings _ _) (itemKeys.drop 6)
    split
    · exact (hid _).append [("mpris:trackNumber", .int32 object.trackNumber)]
    · exact (hid _).skip ["mpris:trackNumber"]
  · apply KeysBetween.append (hstrings _ _)
    split
    · exact (hid _).append [("mpris:trackNumber", .int32 object.trackNumber)]
    · exact (hid _).skip ["mpris:trackNumber"]

theorem trackid_mem_prvFoundItem (object : DidlObject) :
    "mpris:trackid" ∈ (prvFoundItem object []).map Prod.fst :=
  (keys_prvFoundItem object).1.subset (List.mem_singleton_self _)

/-- What a document with these items adds has distinct keys if there is at most one. -/
theorem nodup_items_iff {l : List (String × MetaValue)} (hl : (l.map Prod.fst).Nodup)
    (hkeys : ∀ key ∈ l.map Prod.fst, key ∉ itemKeys) (items : List DidlObject) :
    ((l ++ items.flatMap fun object => prvFoundItem object []).map Prod.fst).Nodup ↔
      items.length ≤ 1 := by
  match items with
  | [] => simpa using hl
  | [object] =>
      refine iff_of_true ?_ le_rfl
      rw [List.flatMap_singleton, List.map_append]
      have hitem := (keys_prvFoundItem object).2
      apply hl.append (hitem.nodup (by decide))
      intro key hkey hkey'
      exact hkeys key hkey (hitem.subset hkey')
  | object :: object' :: rest =>
      refine iff_of_false ?_ (by simp)
      intro hnodup
      rw [List.map_append, List.flatMap_cons, List.flatMap_cons, List.map_append] at hnodup
      have hdisjoint := List.disjoint_of_nodup_append hnodup.of_append_right
      apply hdisjoint (trackid_mem_prvFoundItem object)
      rw [List.map_append]
      exact List.mem_append_left _ (trackid_mem_prvFoundItem object')

/-! ## What an event does to Metadata -/

/-- The entries that an event has for the dictionary beside its document. -/
def AvLastChange.trackEntries (change : AvLastChange) : List (String × MetaValue) :=
  (change.currentTrackDuration.map fun duration =>
    ("mpris:length", MetaValue.int64 (prvDurationToInt64 duration))).toList ++
  (change.currentTrackUri.map fun uri => ("xesam:url", MetaValue.string uri)).toList

def trackKeys : List String := ["mpris:length", "xesam:url"]

theorem keys_trackEntries (change : AvLastChange) :
    (change.trackEntries.map Prod.fst).Sublist trackKeys := by
  unfold AvLastChange.trackEntries
  rw [List.map_append]
  show List.Sublist _ (["mpris:length"] ++ ["xesam:url"])
  apply List.Sublist.append
  · cases change.currentTrackDuration with
    | none => exact List.nil_sublist _
    | some duration => exact .refl _
  · cases change.currentTrackUri with
    | none => exact List.nil_sublist _
    | some uri => exact .refl _

theorem nodup_trackEntries (change : AvLastChange) : (change.trackEntries.map Prod.fst).Nodup :=
  (keys_trackEntries change).nodup (by decide)

def AvLastChange.parsed (parseDidl : String → DidlParse) (change : AvLastChange) :
    Option DidlParse :=
  change.currentTrackMetaData.map fun metaData =>
    parseDidl ("<DIDL-Lite>" ++ metaData ++ "</DIDL-Lite>")

/-- The parser reports no error, or one that `prv_add_track_meta_data` ignores. -/
def DidlParse.Accepted (parse : DidlParse) : Prop :=
  parse.error = none ∨ parse.error = some .emptyNode

instance (parse : DidlParse) : Decidable parse.Accepted :=
  inferInstanceAs (Decidable (_ ∨ _))

theorem currentMetaData_congr
    (h : dev'.playerProps.lookup "Metadata" = dev.playerProps.lookup "Metadata") :
    currentMetaData dev' = currentMetaData dev := by
  rw [currentMetaData, currentMetaData, h]

theorem currentMetaData_prvChangeProps (entries : List (String × MetaValue)) (u : Update) :
    currentMetaData (prvChangeProps "Metadata" (.metadata entries) u).device = entries := by
  rw [currentMetaData, prvChangeProps, AList.lookup_insert]

theorem currentMetaData_prvMergeMetaData (key : String) (value : MetaValue) (u : Update) :
    currentMetaData (prvMergeMetaData key value u).device =
      put key value (currentMetaData u.device) :=
  currentMetaData_prvChangeProps _ u

theorem currentMetaData_prvAddTrackMetaData (metadata : String) (change : AvLastChange)
    (u : Update) :
    let parse := parseDidl ("<DIDL-Lite>" ++ metadata ++ "</DIDL-Lite>")
    currentMetaData (prvAddTrackMetaData parseDidl metadata change.currentTrackDuration
        change.currentTrackUri u).device =
      if parse.Accepted then
        change.trackEntries ++ parse.items.flatMap fun object => prvFoundItem object []
      else currentMetaData u.device := by
  intro parse
  have hentries : addString "xesam:url" change.currentTrackUri
      (ifSet change.currentTrackDuration (fun duration vb =>
        vb ++ [("mpris:length", .int64 (prvDurationToInt64 duration))]) []) =
      change.trackEntries := by
    unfold AvLastChange.trackEntries
    cases change.currentTrackDuration with
    | none => cases change.currentTrackUri <;> rfl
    | some duration => cases change.currentTrackUri <;> rfl
  unfold prvAddTrackMetaData
  dsimp only
  rw [hentries, foldl_prvFoundItem]
  show currentMetaData (if parse.Accepted then _ else u).device = _
  split
  · exact currentMetaData_prvChangeProps _ u
  · rfl

theorem currentMetaData_changeMetaData (change : AvLastChange) (u : Update) :
    currentMetaData (changeMetaData parseDidl change u).device =
      match change.parsed parseDidl with
      | none => putAll change.trackEntries (currentMetaData u.device)
      | some parse =>
          if parse.Accepted then
            change.trackEntries ++ parse.items.flatMap fun object => prvFoundItem object []
          else currentMetaData u.device := by
  unfold changeMetaData AvLastChange.parsed
  cases change.currentTrackMetaData with
  | some metaData => exact currentMetaData_prvAddTrackMetaData metaData change u
  | none =>
      unfold AvLastChange.trackEntries
      cases change.currentTrackDuration with
      | none =>
          cases change.currentTrackUri with
          | none => rfl
          | some uri => exact currentMetaData_prvMergeMetaData _ _ u
      | some duration =>
          cases change.currentTrackUri with
          | none => exact currentMetaData_prvMergeMetaData _ _ u
          | some uri =>
              dsimp only [ifSet]
              rw [currentMetaData_prvMergeMetaData, currentMetaData_prvMergeMetaData]
              rfl

theorem currentMetaData_prvLastChangeCb (change : AvLastChange) (dev : RsuDevice) :
    currentMetaData (prvLastChangeCb parseDidl (some change) dev) =
      currentMetaData (changeMetaData parseDidl change ⟨dev, some []⟩).device := by
  apply currentMetaData_congr
  show (applyLastChange parseDidl change ⟨dev, some []⟩).device.playerProps.lookup "Metadata" = _
  unfold applyLastChange
  dsimp only
  have hactions : ∀ u, Writes actionKeys u (ifSet change.currentTransportActions prvAddActions u) :=
    fun u => .ifSet fun actions => prvAddActions_writes actions u
  rw [(changePlayback_writes change _).lookup (by decide), (hactions _).lookup (by decide)]

/-- Metadata is written by the events of AVTransport that can be parsed, and by nothing else. -/
theorem currentMetaData_exec (hi : ∀ change, i ≠ .avLastChange (some change)) :
    currentMetaData (exec parseDidl s i).device = currentMetaData s.device := by
  have hwritten : "Metadata" ∉ i.writtenKeys := by
    unfold Input.writtenKeys
    split
    next change => exact absurd rfl (hi change)
    · decide
    · decide
    · decide
  apply currentMetaData_congr
  exact exec_lookup_of_not_sync parseDidl s (by decide) hwritten (by decide)

/-! ## Runs -/

/-- Metadata follows the event: its keys are distinct, it has what the event says beside
its document, and where there is no document the rest is kept. -/
structure FollowsEvent (change : AvLastChange) (dev dev' : RsuDevice) : Prop where
  nodup : ((currentMetaData dev').map Prod.fst).Nodup
  entries : ∀ e ∈ change.trackEntries, (currentMetaData dev').lookup e.1 = some e.2
  others : change.currentTrackMetaData = none → ∀ key ∉ change.trackEntries.map Prod.fst,
    (currentMetaData dev').lookup key = (currentMetaData dev).lookup key

/-- The document has at most one item; or it is refused, and Metadata has the entries of
the event already. -/
def AvLastChange.KeepsMetaData (parseDidl : String → DidlParse) (dev : RsuDevice)
    (change : AvLastChange) : Prop :=
  ∀ parse ∈ change.parsed parseDidl,
    if parse.Accepted then parse.items.length ≤ 1
    else ∀ e ∈ change.trackEntries, (currentMetaData dev).lookup e.1 = some e.2

instance (dev : RsuDevice) (change : AvLastChange) :
    Decidable (change.KeepsMetaData parseDidl dev) :=
  inferInstanceAs (Decidable (∀ _ ∈ _, _))

def KeepsMetaData (parseDidl : String → DidlParse) (s : Renderer) : Input → Prop
  | .avLastChange (some change) => change.KeepsMetaData parseDidl s.device
  | _ => True

theorem followsEvent_iff (hnodup : ((currentMetaData s.device).map Prod.fst).Nodup)
    (change : AvLastChange) :
    FollowsEvent change s.device (exec parseDidl s (.avLastChange (some change))).device ↔
      change.KeepsMetaData parseDidl s.device := by
  have hafter : currentMetaData (exec parseDidl s (.avLastChange (some change))).device = _ :=
    (currentMetaData_prvLastChangeCb change s.device).trans
      (currentMetaData_changeMetaData change _)
  have hdocument : change.currentTrackMetaData = none ↔ change.parsed parseDidl = none := by
    simp [AvLastChange.parsed]
  unfold AvLastChange.KeepsMetaData
  cases hparsed : change.parsed parseDidl with
  | none =>
      rw [hparsed] at hafter
      refine iff_of_true ⟨?_, ?_, ?_⟩ (by simp)
      · rw [hafter]
        exact nodup_putAll _ hnodup
      · intro e he
        rw [hafter]
        exact lookup_putAll_of_mem (nodup_trackEntries change) he _
      · intro _ key hkey
        rw [hafter]
        exact lookup_putAll_of_not_mem hkey _
  | some parse =>
      have hothers : change.currentTrackMetaData ≠ none := by
        rw [ne_eq, hdocument, hparsed]
        exact Option.some_ne_none parse
      rw [hparsed] at hafter
      simp only [Option.mem_def, Option.some.injEq, forall_eq']
      dsimp only at hafter
      split
      next haccepted =>
        rw [if_pos haccepted] at hafter
        have hkeys : ∀ key ∈ change.trackEntries.map Prod.fst, key ∉ itemKeys := by
          intro key hkey
          have hall : ∀ key ∈ trackKeys, key ∉ itemKeys := by decide
          exact hall key ((keys_trackEntries change).subset hkey)
        rw [← nodup_items_iff (nodup_trackEntries change) hkeys, ← hafter]
        constructor
        · exact FollowsEvent.nodup
        · intro hdistinct
          refine ⟨hdistinct, ?_, fun hnone => absurd hnone hothers⟩
          intro e he
          rw [hafter]
          exact lookup_append_of_mem (nodup_trackEntries change) he
      next hrefused =>
        rw [if_neg hrefused] at hafter
        constructor
        · intro hfollows e he
          rw [← hfollows.entries e he, hafter]
        · intro hheld
          refine ⟨?_, ?_, fun hnone => absurd hnone hothers⟩
          · rw [hafter]
            exact hnodup
          · rw [hafter]
            exact hheld

theorem nodup_metaData_step (hnodup : ((currentMetaData s.device).map Prod.fst).Nodup)
    (hkeeps : KeepsMetaData parseDidl s i) :
    ((currentMetaData (exec parseDidl s i).device).map Prod.fst).Nodup := by
  by_cases hi : ∃ change, i = .avLastChange (some change)
  · obtain ⟨change, rfl⟩ := hi
    exact ((followsEvent_iff hnodup change).mpr hkeeps).nodup
  · rw [currentMetaData_exec fun change heq => hi ⟨change, heq⟩]
    exact hnodup

/-- For every run whose events keep Metadata, and for every event that comes next. -/
theorem metaData_follows
    (h : ((renderer parseDidl).restrict (KeepsMetaData parseDidl)).Reaches is s) :
    ((currentMetaData s.device).map Prod.fst).Nodup ∧ ∀ change : AvLastChange,
      FollowsEvent change s.device (exec parseDidl s (.avLastChange (some change))).device ↔
        change.KeepsMetaData parseDidl s.device := by
  have hnodup : ((currentMetaData s.device).map Prod.fst).Nodup := by
    apply h.invariant (I := fun s => ((currentMetaData s.device).map Prod.fst).Nodup)
    · rintro s rfl
      exact List.nodup_nil
    · intro s i s' hnodup hstep
      obtain ⟨hkeeps, hstep⟩ := hstep
      obtain ⟨-, rfl⟩ := stepFn_eq hstep
      exact nodup_metaData_step hnodup hkeeps
  exact ⟨hnodup, followsEvent_iff hnodup⟩

def oneTrack (_ : String) : DidlParse := { items := [{ title := some "Track 1" }] }

/-- An event with a document and a duration, and then one with a URI only. -/
theorem metaData_follows_oneTrack : ∃ s : Renderer,
    FollowsEvent { currentTrackUri := some "http://192.168.1.2/1.mp3" } s.device
      (exec oneTrack s (.avLastChange
        (some { currentTrackUri := some "http://192.168.1.2/1.mp3" }))).device ∧
    (currentMetaData s.device).map Prod.fst = ["mpris:length", "mpris:trackid", "xesam:title"] := by
  let change : AvLastChange :=
    { currentTrackMetaData := some "<item/>", currentTrackDuration := some "0:03:20" }
  let s := exec oneTrack {} (.avLastChange (some change))
  have hreach : ((renderer oneTrack).restrict (KeepsMetaData oneTrack)).Reaches
      [.avLastChange (some change)] s := by
    refine .step (.init rfl) ⟨?_, rfl⟩
    show change.KeepsMetaData oneTrack {}
    decide
  refine ⟨s, ?_, by decide +kernel⟩
  apply ((metaData_follows hreach).2 _).mpr
  decide

/-- Of a document with two items Metadata has two ids. -/
theorem metaData_follows_twoTracks : ¬∀ parseDidl is s, (renderer parseDidl).Reaches is s →
    ∀ change, FollowsEvent change s.device
      (exec parseDidl s (.avLastChange (some change))).device := by
  intro hall
  let parseDidl : String → DidlParse := fun _ => { items := [{}, {}] }
  have hfollows :=
    hall parseDidl [] {} (.init rfl) { currentTrackMetaData := some "<item/><item/>" }
  have htwice : ¬((currentMetaData (exec parseDidl {} (.avLastChange
      (some { currentTrackMetaData := some "<item/><item/>" }))).device).map Prod.fst).Nodup := by
    decide +kernel
  exact htwice hfollows.nodup

end RendererService.Props
