import RendererService.Lib.Log
import RendererService.Properties.Mirror

/-!
# What a client may do with the player

CanPlay and its like are written by two functions: `prv_add_actions`, from the
list of an event, and `prv_add_all_actions`, once at the first use, whatever the
events said before.
-/

namespace RendererService.Props

open Assoc Transition

variable {dev : RsuDevice} {s s' : Renderer} {i : Input} {is : List Input}
  {parseDidl : String → DidlParse}

/-! ## The list of actions -/

/-- A property that depends on the list of an event. -/
inductive Capability
  | canPlay
  | canPause
  | canSeek
  | canGoNext
  | canGoPrevious
deriving DecidableEq

namespace Capability

def key : Capability → String
  | canPlay => "CanPlay"
  | canPause => "CanPause"
  | canSeek => "CanSeek"
  | canGoNext => "CanGoNext"
  | canGoPrevious => "CanGoPrevious"

def action : Capability → String
  | canPlay => "Play"
  | canPause => "Pause"
  | canSeek => "Seek"
  | canGoNext => "Next"
  | canGoPrevious => "Previous"

def flag (flags : ActionFlags) : Capability → Bool
  | canPlay => flags.play
  | canPause => flags.ppause
  | canSeek => flags.seek
  | canGoNext => flags.next
  | canGoPrevious => flags.previous

theorem key_mem (c : Capability) : c.key ∈ actionKeys := by
  cases c <;> decide

theorem action_ne_empty (c : Capability) : c.action ≠ "" := by
  cases c <;> decide

theorem flag_note (c : Capability) (flags : ActionFlags) (part : String) :
    c.flag (flags.note part) = true ↔ c.flag flags = true ∨ part = c.action := by
  unfold ActionFlags.note
  cases c <;> simp only [flag, action] <;> split_ifs <;> simp_all

theorem flag_foldl_note (c : Capability) (parts : List String) (flags : ActionFlags) :
    c.flag (parts.foldl ActionFlags.note flags) = true ↔
      c.flag flags = true ∨ c.action ∈ parts := by
  have hloop := foldl_adds (P := fun flags c => c.flag flags = true)
    (fun flags part c => flag_note c flags part) parts flags c
  rw [hloop]
  simp

instance {p : Capability → Prop} [DecidablePred p] : Decidable (∀ c, p c) :=
  decidable_of_iff (p canPlay ∧ p canPause ∧ p canSeek ∧ p canGoNext ∧ p canGoPrevious)
    ⟨fun ⟨hplay, hpause, hseek, hnext, hprevious⟩ c => by cases c <;> assumption,
      fun h => ⟨h _, h _, h _, h _, h _⟩⟩

end Capability

/-- The action is a field of the list, split at commas and trimmed. -/
def Lists (actions action : String) : Prop :=
  action ∈ (actions.toList.splitOn ',').map fun field => gStrstrip (String.ofList field)

instance (actions action : String) : Decidable (Lists actions action) :=
  inferInstanceAs (Decidable (_ ∈ _))

/-- The empty string has one empty field, and `g_strsplit` makes none of it. -/
theorem mem_gStrsplit {actions action : String} (hne : action ≠ "") :
    action ∈ (gStrsplit actions ',').map gStrstrip ↔ Lists actions action := by
  unfold gStrsplit Lists
  split
  next hempty =>
    have hnone : action ≠ gStrstrip (String.ofList []) := by
      intro heq
      exact hne (heq.trans (by decide))
    simp [hempty, hnone]
  · simp only [List.map_map, Function.comp_def]

/-! ## The two writers -/

def flagsOf (actions : String) : ActionFlags :=
  ((gStrsplit actions ',').map gStrstrip).foldl ActionFlags.note {}

theorem flag_flagsOf (c : Capability) (actions : String) :
    c.flag (flagsOf actions) = true ↔ Lists actions c.action := by
  have hnone : c.flag {} = false := by cases c <;> rfl
  rw [flagsOf, c.flag_foldl_note, hnone, ← mem_gStrsplit c.action_ne_empty]
  simp

theorem prvAddActions_lookup (actions : String) (u : Update) (c : Capability) :
    (prvAddActions actions u).device.playerProps.lookup c.key =
      some (.boolean (c.flag (flagsOf actions))) := by
  cases c <;>
    simp [prvAddActions, prvChangeProps, flagsOf, Capability.key, Capability.flag]

theorem prvAddActions_control (actions : String) (u : Update) :
    (prvAddActions actions u).device.playerProps.lookup "CanControl" = some (.boolean false) := by
  simp [prvAddActions, prvChangeProps]

theorem prvAddAllActions_lookup (u : Update) {key : String} (hkey : key ∈ actionKeys) :
    (prvAddAllActions u).device.playerProps.lookup key = some (.boolean true) := by
  simp only [actionKeys, List.mem_cons, List.not_mem_nil, or_false] at hkey
  rcases hkey with rfl | rfl | rfl | rfl | rfl | rfl <;>
    simp [prvAddAllActions, prvChangeProps]

/-! ## What a step does to these properties -/

def Input.actions? : Input → Option String
  | .avLastChange (some change) => change.currentTransportActions
  | _ => none

/-- An event that brings no list, and a step that is no first use, leave them. -/
theorem exec_quiet (parseDidl : String → DidlParse) (hactions : i.actions? = none)
    (hsyncs : i.syncs s.device = false) {key : String} (hkey : key ∈ actionKeys) :
    (exec parseDidl s i).device.playerProps.lookup key = s.device.playerProps.lookup key := by
  have hother : ∀ key ∈ actionKeys, key ∉ "Metadata" :: playbackKeys ∧
      key ∉ ["Volume"] ∧ key ∉ ["Position"] ∧ key ≠ "Rate" := by decide
  obtain ⟨hevent, hvolume, hposition, hrate⟩ := hother key hkey
  cases hset : i.isSet with
  | false =>
      have hnotMem : key ∉ i.writtenKeys := by
        unfold Input.writtenKeys
        split
        next change =>
          have hnone : change.currentTransportActions = none := hactions
          rw [AvLastChange.writtenKeys, hnone]
          exact hevent
        · exact hvolume
        · exact hposition
        · exact List.not_mem_nil
      exact (exec_reports parseDidl s hset hsyncs).lookup hnotMem
  | true =>
      cases i with
      | setProp interfaceName propName params =>
          have hstores := rsuDeviceSetProp_device interfaceName propName params s.device
          rw [exec, device_setDevice]
          split at hstores
          · rw [hstores]
          next rate _ =>
            obtain ⟨upnpRate, hstores⟩ := hstores
            rw [hstores]
            exact AList.lookup_insert_ne hrate
      | _ => cases hset

theorem exec_actions (parseDidl : String → DidlParse) (s : Renderer) {actions : String}
    (hactions : i.actions? = some actions) :
    (∀ c : Capability, (exec parseDidl s i).device.playerProps.lookup c.key =
      some (.boolean (c.flag (flagsOf actions)))) ∧
    (exec parseDidl s i).device.playerProps.lookup "CanControl" = some (.boolean false) := by
  obtain ⟨change, rfl, hchange⟩ : ∃ change, i = .avLastChange (some change) ∧
      change.currentTransportActions = some actions := by
    unfold Input.actions? at hactions
    split at hactions
    next change => exact ⟨change, rfl, hactions⟩
    · cases hactions
  have hlater : ∀ key ∈ actionKeys,
      (exec parseDidl s (.avLastChange (some change))).device.playerProps.lookup key =
        (prvAddActions actions (changeMetaData parseDidl change ⟨s.device, some []⟩)
          ).device.playerProps.lookup key := by
    intro key hkey
    have hother : ∀ key ∈ actionKeys, key ∉ playbackKeys := by decide
    have hplayback := (changePlayback_writes change (prvAddActions actions
      (changeMetaData parseDidl change ⟨s.device, some []⟩))).lookup (hother key hkey)
    rw [← hplayback]
    show (applyLastChange parseDidl change _).device.playerProps.lookup key = _
    rw [applyLastChange, hchange]
    rfl
  constructor
  · intro c
    rw [hlater c.key c.key_mem]
    exact prvAddActions_lookup actions _ c
  · rw [hlater "CanControl" (by decide)]
    exact prvAddActions_control actions _

theorem exec_syncs (parseDidl : String → DidlParse) (hsyncs : i.syncs s.device = true)
    {key : String} (hkey : key ∈ actionKeys) :
    (exec parseDidl s i).device.playerProps.lookup key = some (.boolean true) := by
  obtain ⟨context, hcontext, hexec⟩ := exec_firstUse parseDidl s hsyncs
  have hactions : i.actions? = none := by
    cases i <;> first | rfl | cases hcontext
  rw [hexec, exec_quiet parseDidl hactions
    (i.syncs_of_synced (synced_prvPropsUpdate context s.device)) hkey]
  exact prvAddAllActions_lookup _ hkey

/-! ## Runs -/

def lastActions (is : List Input) : Option String := is.reverse.findSome? Input.actions?

theorem lastActions_append (is : List Input) (i : Input) :
    lastActions (is ++ [i]) = i.actions?.or (lastActions is) :=
  Log.findSome?_reverse_snoc Input.actions? is i

/-- The capabilities are those of the latest list. -/
def FollowsList (is : List Input) (dev : RsuDevice) : Prop :=
  ∀ actions, lastActions is = some actions → ∀ c : Capability,
    dev.playerProps.lookup c.key = some (.boolean true) ↔ Lists actions c.action

/-- The player is not said to be beyond control while it has a capability. -/
def Controllable (dev : RsuDevice) : Prop :=
  dev.playerProps.lookup "CanControl" = some (.boolean false) → ∀ c : Capability,
    dev.playerProps.lookup c.key ≠ some (.boolean true)

structure CapabilitiesFollow (is : List Input) (dev : RsuDevice) : Prop where
  follow : FollowsList is dev
  control : Controllable dev

/-- The first use comes before any event that brings a list. -/
def Input.SyncsFirst (dev : RsuDevice) (i : Input) : Prop :=
  i.syncs dev = true → dev.playerProps.lookup "CanPlay" = none

instance (dev : RsuDevice) (i : Input) : Decidable (i.SyncsFirst dev) :=
  inferInstanceAs (Decidable (_ → _))

/-- Besides, the list that an event brings is empty of the five actions. -/
def Input.KeepsCapabilities (dev : RsuDevice) (i : Input) : Prop :=
  (∀ actions ∈ i.actions?, ∀ c : Capability, ¬Lists actions c.action) ∧ i.SyncsFirst dev

instance (dev : RsuDevice) (i : Input) : Decidable (i.KeepsCapabilities dev) :=
  inferInstanceAs (Decidable (_ ∧ _))

/-- An event that brings a list leaves CanPlay behind. -/
def ListLeft (is : List Input) (dev : RsuDevice) : Prop :=
  dev.playerProps.lookup "CanPlay" = none → lastActions is = none

theorem listLeft_step (h : ListLeft is s.device) :
    ListLeft (is ++ [i]) (exec parseDidl s i).device := by
  intro hnone
  cases hactions : i.actions? with
  | some actions =>
      have hflag := (exec_actions parseDidl s hactions).1 .canPlay
      rw [Capability.key, hnone] at hflag
      cases hflag
  | none =>
      rw [lastActions_append, hactions, Option.none_or]
      apply h
      cases hsyncs : i.syncs s.device with
      | true =>
          have hshown := exec_syncs parseDidl hsyncs (Capability.canPlay.key_mem)
          rw [Capability.key, hnone] at hshown
          cases hshown
      | false =>
          exact (exec_quiet parseDidl hactions hsyncs Capability.canPlay.key_mem).symm.trans hnone

/-- The parser of an event reads its list, and only the first use writes the
capabilities besides. -/
theorem followsList_step (h : FollowsList is s.device) (hleft : ListLeft is s.device)
    (hfirst : i.SyncsFirst s.device) :
    FollowsList (is ++ [i]) (exec parseDidl s i).device := by
  intro actions hlast c
  rw [lastActions_append] at hlast
  cases hactions : i.actions? with
  | some actions' =>
      rw [hactions, Option.some_or] at hlast
      obtain rfl := Option.some.inj hlast
      rw [(exec_actions parseDidl s hactions).1 c, ← flag_flagsOf]
      simp
  | none =>
      rw [hactions, Option.none_or] at hlast
      cases hsyncs : i.syncs s.device with
      | true =>
          rw [hleft (hfirst hsyncs)] at hlast
          cases hlast
      | false =>
          rw [exec_quiet parseDidl hactions hsyncs c.key_mem]
          exact h actions hlast c

theorem controllable_step (h : Controllable s.device)
    (hunlisted : ∀ actions ∈ i.actions?, ∀ c : Capability, ¬Lists actions c.action) :
    Controllable (exec parseDidl s i).device := by
  intro hcontrol c
  cases hactions : i.actions? with
  | some actions =>
      have hflag : c.flag (flagsOf actions) = false := by
        rw [Bool.eq_false_iff, ne_eq, flag_flagsOf]
        exact hunlisted actions hactions c
      rw [(exec_actions parseDidl s hactions).1 c, hflag]
      simp
  | none =>
      cases hsyncs : i.syncs s.device with
      | true =>
          rw [exec_syncs parseDidl hsyncs (by decide)] at hcontrol
          simp at hcontrol
      | false =>
          rw [exec_quiet parseDidl hactions hsyncs (by decide)] at hcontrol
          rw [exec_quiet parseDidl hactions hsyncs c.key_mem]
          exact h hcontrol c

/-- In every run whose first use comes before any list, the capabilities are those
of the latest list, whatever it names. -/
theorem capabilities_latest
    (h : ((renderer parseDidl).restrict fun s i => i.SyncsFirst s.device).Reaches is s) :
    FollowsList is s.device := by
  have hboth : FollowsList is s.device ∧ ListLeft is s.device := by
    refine h.trace_invariant (P := fun is s => FollowsList is s.device ∧
      ListLeft is s.device) ?_ ?_
    · intro s hstart
      obtain rfl : s = {} := hstart
      exact ⟨fun actions hsome => (nomatch hsome), fun _ => rfl⟩
    · rintro is s i s' _ ⟨hfollows, hleft⟩ ⟨hfirst, hstep⟩
      obtain ⟨-, rfl⟩ := stepFn_eq hstep
      exact ⟨followsList_step hfollows hleft hfirst, listLeft_step hleft⟩
  exact hboth.1

/-- In every run whose events list none of the five actions, and whose first use
comes before any list, the capabilities follow the events. -/
theorem capabilities_follow
    (h : ((renderer parseDidl).restrict fun s i => i.KeepsCapabilities s.device).Reaches is s) :
    CapabilitiesFollow is s.device := by
  refine ⟨capabilities_latest (h.restrict_mono fun _ _ hkeeps => hkeeps.2), ?_⟩
  refine h.invariant (I := fun s => Controllable s.device) ?_ ?_
  · rintro s rfl hcontrol
    cases hcontrol
  · rintro s i s' hcontrol ⟨hkeeps, hstep⟩
    obtain ⟨-, rfl⟩ := stepFn_eq hstep
    exact controllable_step hcontrol hkeeps.1

/-- After the first use an event lists Stop alone. -/
theorem capabilities_follow_stopOnly : ∃ is s, CapabilitiesFollow is (Renderer.device s) ∧
    lastActions is = some "Stop" ∧
    s.device.playerProps.lookup "CanPlay" = some (.boolean false) := by
  obtain ⟨s, hreach, hfinal⟩ : ∃ s, ((renderer fun _ => {}).restrict fun s i =>
      i.KeepsCapabilities s.device).Reaches
        [.getProp twoSpeeds interfacePlayer "CanPlay",
          .avLastChange (some { currentTransportActions := some "Stop" })] s ∧
        s.device.playerProps.lookup "CanPlay" = some (.boolean false) :=
    reaches_of_guarded _ (by decide +kernel)
  exact ⟨_, s, capabilities_follow hreach, rfl, hfinal⟩

/-- An event lists Stop and Play, and the first use says that the renderer can
pause. -/
theorem capabilities_follow_firstUse : ¬∀ parseDidl is s, (renderer parseDidl).Reaches is s →
    CapabilitiesFollow is s.device := by
  intro hall
  let event := Input.avLastChange (some { currentTransportActions := some "Stop, Play" })
  let get := Input.getProp twoSpeeds interfacePlayer "CanPause"
  let s := exec (fun _ => {}) (exec (fun _ => {}) {} event) get
  have hreach : (renderer fun _ => {}).Reaches [event, get] s := .step (.step (.init rfl) rfl) rfl
  have hfollow := (hall _ _ _ hreach).follow "Stop, Play" rfl .canPause
  have hshown : s.device.playerProps.lookup "CanPause" = some (.boolean true) := by decide +kernel
  have hlisted : ¬Lists "Stop, Play" "Pause" := by decide +kernel
  exact hlisted (hfollow.mp hshown)

end RendererService.Props
