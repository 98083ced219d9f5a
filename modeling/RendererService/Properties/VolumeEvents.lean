import RendererService.Properties.Volume

/-!
# The events of RenderingControl

The callback does not look whether the parser found a Volume: every event that can be
parsed stores what its variable holds, as soon as the maximum is known.
-/

namespace RendererService.Props

open Assoc Transition

variable {dev dev' : RsuDevice} {s s' : Renderer} {i : Input} {is : List Input}
  {parseDidl : String → DidlParse}

/-! ## One event -/

/-- The maximum that an event meets: the first use reads it before the event is looked at. -/
def RsuDevice.maximumAt (context : ContextInfo) (dev : RsuDevice) : UInt32 :=
  if dev.synced then dev.maxVolume
  else (context.rc.bind prvGetRcServiceStatesValues).getD dev.maxVolume

theorem maxVolume_syncProps (context : ContextInfo) (dev : RsuDevice) :
    (syncProps context dev).maxVolume = dev.maximumAt context := by
  unfold syncProps RsuDevice.maximumAt
  split
  · rfl
  · exact maxVolume_prvPropsUpdate context dev

theorem synced_syncProps (context : ContextInfo) (dev : RsuDevice) :
    (syncProps context dev).synced = true := by
  unfold syncProps
  split
  next hsynced => exact hsynced
  · rfl

theorem syncProps_reports (context : ContextInfo) (dev : RsuDevice) :
    Reports syncKeys dev (syncProps context dev) := by
  unfold syncProps
  split
  · exact .of_eq rfl rfl
  · exact prvPropsUpdate_reports context dev

theorem volume_syncProps (context : ContextInfo) (dev : RsuDevice) :
    (syncProps context dev).playerProps.lookup "Volume" = dev.playerProps.lookup "Volume" :=
  (syncProps_reports context dev).lookup (by decide)

theorem exec_rcLastChange (context : ContextInfo) (change : RcLastChange) (garbage : UInt32)
    (s : Renderer) :
    (exec parseDidl s (.rcLastChange context (some change) garbage)).device =
      if s.device.maximumAt context = 0 then syncProps context s.device
      else (prvChangeProps "Volume" (.double ((change.volume.getD garbage).toNat /
        (s.device.maximumAt context).toNat)) ⟨syncProps context s.device, some []⟩).emit := by
  rw [← maxVolume_syncProps]
  rfl

def emitted (dev dev' : RsuDevice) : List PropertiesChanged :=
  dev'.signals.drop dev.signals.length

theorem emitted_eq {new : List PropertiesChanged} (h : dev'.signals = dev.signals ++ new) :
    emitted dev dev' = new := by
  rw [emitted, h, List.drop_left]

def LeavesVolume (dev dev' : RsuDevice) : Prop :=
  dev'.playerProps.lookup "Volume" = dev.playerProps.lookup "Volume" ∧
    ∀ signal ∈ emitted dev dev', "Volume" ∉ signal.changedProps.map Prod.fst

/-- An event without a volume leaves it alone only while the maximum is zero. -/
theorem leavesVolume_iff (context : ContextInfo) (change : RcLastChange) (garbage : UInt32)
    (s : Renderer) :
    LeavesVolume s.device (exec parseDidl s (.rcLastChange context (some change) garbage)).device ↔
      s.device.maximumAt context = 0 := by
  obtain ⟨new, hsignals, hnew, -⟩ := (syncProps_reports context s.device).signals
  rw [exec_rcLastChange]
  split
  next hzero =>
    refine iff_of_true ⟨volume_syncProps context s.device, ?_⟩ hzero
    rw [emitted_eq hsignals]
    intro signal hsignal hvolume
    exact absurd ((hnew signal hsignal).2 "Volume" hvolume) (by decide)
  next hzero =>
    refine iff_of_false ?_ hzero
    rintro ⟨-, hnone⟩
    generalize hvalue : Variant.double ((change.volume.getD garbage).toNat /
      (s.device.maximumAt context).toNat) = value at hnone
    have hemitted : emitted s.device
        (prvChangeProps "Volume" value ⟨syncProps context s.device, some []⟩).emit =
          new ++ [⟨interfacePlayer, [("Volume", value)]⟩] := by
      apply emitted_eq
      rw [← List.append_assoc, ← hsignals]
      rfl
    rw [hemitted] at hnone
    exact hnone _ (List.mem_append_right _ List.mem_cons_self) List.mem_cons_self

/-! ## Runs -/

/-- The volume that an event tells while the maximum is not zero. -/
def Input.toldVolume (dev : RsuDevice) : Input → Option UInt32
  | .rcLastChange context (some change) _ =>
      if dev.maximumAt context = 0 then none else change.volume
  | _ => none

def latestVolume (parseDidl : String → DidlParse) (is : List Input) : Option UInt32 :=
  ghost {} (stepFn parseDidl) (fun s i _ latest => (i.toldVolume s.device).or latest) none is

/-- The input is no event, or one with a volume, or the maximum is zero. -/
def Input.tellsVolume (dev : RsuDevice) : Input → Bool
  | .rcLastChange context (some change) _ =>
      change.volume.isSome || dev.maximumAt context = 0
  | _ => true

theorem exec_volume_of_not_told (parseDidl : String → DidlParse)
    (htells : i.tellsVolume s.device = true) (htold : i.toldVolume s.device = none) :
    (exec parseDidl s i).device.playerProps.lookup "Volume" =
      s.device.playerProps.lookup "Volume" := by
  have hother : "Volume" ∉ i.writtenKeys →
      (exec parseDidl s i).device.playerProps.lookup "Volume" =
        s.device.playerProps.lookup "Volume" := by
    intro hwritten
    exact exec_lookup_of_not_sync parseDidl s (by decide) hwritten (by decide)
  cases i with
  | rcLastChange context change garbage =>
      cases change with
      | none => rfl
      | some change =>
          have hzero : s.device.maximumAt context = 0 := by
            by_contra hne
            rw [Input.toldVolume, if_neg hne] at htold
            rw [Input.tellsVolume, htold] at htells
            exact hne (by simpa using htells)
          rw [exec_rcLastChange, if_pos hzero]
          exact volume_syncProps context s.device
  | avLastChange change =>
      apply hother
      cases change with
      | none => simp [Input.writtenKeys]
      | some change => exact fun hkey => absurd (AvLastChange.mem_writtenKeys hkey) (by decide)
  | _ => exact hother (by simp [Input.writtenKeys])

/-- A step that tells a volume stores it, and from then on the maximum is known. -/
theorem exec_volume_of_told (parseDidl : String → DidlParse) {n : UInt32}
    (htold : i.toldVolume s.device = some n) :
    (exec parseDidl s i).device.playerProps.lookup "Volume" =
        some (.double (n.toNat / (exec parseDidl s i).device.maxVolume.toNat)) ∧
      (exec parseDidl s i).device.synced = true := by
  unfold Input.toldVolume at htold
  split at htold
  next context change garbage =>
    split at htold
    · cases htold
    next hne =>
      rw [exec_rcLastChange, if_neg hne, htold]
      refine ⟨?_, synced_syncProps context s.device⟩
      rw [← maxVolume_syncProps]
      exact AList.lookup_insert _
  · cases htold

/-- The volume is the latest one that was told, and one was told after the first use only. -/
def VolumeOk (latest : Option UInt32) (dev : RsuDevice) : Prop :=
  dev.playerProps.lookup "Volume" =
      latest.map (fun n => .double (n.toNat / dev.maxVolume.toNat)) ∧
    (latest.isSome → dev.synced = true)

theorem volumeOk_step {latest : Option UInt32} (hok : VolumeOk latest s.device)
    (htells : i.tellsVolume s.device = true) :
    VolumeOk ((i.toldVolume s.device).or latest) (exec parseDidl s i).device := by
  obtain ⟨hvolume, hsynced⟩ := hok
  cases htold : i.toldVolume s.device with
  | some n =>
      obtain ⟨hstored, hsynced'⟩ := exec_volume_of_told parseDidl htold
      exact ⟨hstored, fun _ => hsynced'⟩
  | none =>
      have hkept := exec_volume_of_not_told parseDidl htells htold
      rw [Option.none_or]
      cases latest with
      | none => exact ⟨hkept.trans hvolume, fun hsome => by cases hsome⟩
      | some n =>
          have hrest := exec_volume parseDidl s (i.syncs_of_synced (hsynced rfl))
          refine ⟨?_, fun _ => hrest.1.trans (hsynced rfl)⟩
          rw [hkept, hvolume, hrest.2]

/-- For every run in which an event without a volume comes only while the maximum is zero,
and for every such event that comes next. -/
theorem volume_latest
    (h : ((renderer parseDidl).restrict fun s i => i.tellsVolume s.device = true).Reaches is s) :
    s.device.playerProps.lookup "Volume" = (latestVolume parseDidl is).map
        (fun n => .double (n.toNat / s.device.maxVolume.toNat)) ∧
      ∀ context garbage, LeavesVolume s.device
          (exec parseDidl s (.rcLastChange context (some ⟨none⟩) garbage)).device ↔
        s.device.maximumAt context = 0 := by
  have hok : VolumeOk (latestVolume parseDidl is) s.device := by
    apply h.trace_invariant (P := fun is s => VolumeOk (latestVolume parseDidl is) s.device)
    · rintro s rfl
      exact ⟨rfl, fun hsome => by cases hsome⟩
    · intro is s i s' hreach hok hstep
      obtain ⟨htells, hstep⟩ := hstep
      have hlatest : latestVolume parseDidl (is ++ [i]) =
          (i.toldVolume s.device).or (latestVolume parseDidl is) :=
        ghost_snoc hreach.of_restrict hstep
      obtain ⟨-, rfl⟩ := stepFn_eq hstep
      rw [hlatest]
      exact volumeOk_step hok htells
  exact ⟨hok.1, fun context garbage => leavesVolume_iff context ⟨none⟩ garbage s⟩

/-- An event that says fifty is the first use, and it stores a half. -/
theorem volume_latest_half : ∃ is s, (renderer fun _ => {}).Reaches is s ∧
    s.device.playerProps.lookup "Volume" = some (.double (1 / 2)) := by
  let i := Input.rcLastChange twoSpeeds (some ⟨some 50⟩) 0
  let s := exec (fun _ => {}) {} i
  have hreach : ((renderer fun _ => {}).restrict fun s i =>
      i.tellsVolume s.device = true).Reaches [i] s :=
    .step (.init rfl) ⟨rfl, rfl⟩
  have hlatest : (latestVolume (fun _ => {}) [i]).map (fun n : UInt32 =>
      Variant.double (n.toNat / s.device.maxVolume.toNat)) = some (.double (1 / 2)) := by
    decide +kernel
  exact ⟨_, s, hreach.of_restrict, (volume_latest hreach).1.trans hlatest⟩

/-- An event that says nothing of the volume has half the maximum stored, if that is what
the variable of the callback holds. -/
theorem volume_latest_garbage : ¬∀ parseDidl is s, (renderer parseDidl).Reaches is s →
    s.device.playerProps.lookup "Volume" = (latestVolume parseDidl is).map
      (fun n => .double (n.toNat / s.device.maxVolume.toNat)) := by
  intro hall
  let i := Input.rcLastChange twoSpeeds (some ⟨none⟩) 50
  have hvolume := hall (fun _ => {}) [i] _ (.step (.init rfl) rfl)
  have hstored : (exec (fun _ => {}) {} i).device.playerProps.lookup "Volume" =
      some (.double (1 / 2)) := by decide +kernel
  have hlatest : latestVolume (fun _ => {}) [i] = none := by decide +kernel
  rw [hstored, hlatest] at hvolume
  cases hvolume

end RendererService.Props
