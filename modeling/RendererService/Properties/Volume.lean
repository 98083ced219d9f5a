import RendererService.Properties.Callbacks

/-!
# Set(Volume)

The volume that is sent is the value times `max_volume`, which is zero until the
first use reads it from the description.  The value is neither checked to be a
double nor limited to the range from 0 to 1.
-/

namespace RendererService.Props

open Transition

variable {s s' : Renderer} {i : Input} {is : List Input} {parseDidl : String → DidlParse}

/-! ## Arithmetic -/

/-- The volume asked for: the value, limited to the range from 0 to 1, as a part
of the maximum. -/
def limitedVolume (v : ℚ) (m : ℕ) : ℤ := ⌊min (max v 0) 1 * m⌋

theorem limitedVolume_of_neg {v : ℚ} (hv : v < 0) (m : ℕ) : limitedVolume v m = 0 := by
  rw [limitedVolume, max_eq_right hv.le, min_eq_left zero_le_one, zero_mul, Int.floor_zero]

theorem limitedVolume_of_le {v : ℚ} (hv : 0 ≤ v) (hone : v ≤ 1) (m : ℕ) :
    limitedVolume v m = ⌊v * m⌋ := by
  rw [limitedVolume, max_eq_left hv, min_eq_left hone]

theorem limitedVolume_of_gt {v : ℚ} (hv : 1 < v) (m : ℕ) : limitedVolume v m = m := by
  have hpos : 0 ≤ v := by linarith
  rw [limitedVolume, max_eq_left hpos, min_eq_right hv.le, one_mul, Int.floor_natCast]

/-- Without the limits the product is too large from the next step of the volume
on. -/
theorem floor_eq_limitedVolume {v : ℚ} {m : ℕ} :
    (⌊v * m⌋.toNat : ℤ) = limitedVolume v m ↔ v * m < m + 1 := by
  have hm : (0 : ℚ) ≤ m := Nat.cast_nonneg m
  rcases lt_or_ge v 0 with hneg | hpos
  · have hle : v * m ≤ 0 := mul_nonpos_of_nonpos_of_nonneg hneg.le hm
    have hfloor : ⌊v * m⌋ ≤ 0 := Int.floor_nonpos hle
    rw [limitedVolume_of_neg hneg]
    refine iff_of_true (by omega) (by linarith)
  · have hprod : 0 ≤ v * m := mul_nonneg hpos hm
    have hfloor : (⌊v * m⌋.toNat : ℤ) = ⌊v * m⌋ := Int.toNat_of_nonneg (Int.floor_nonneg.mpr hprod)
    rw [hfloor]
    rcases le_or_gt v 1 with hone | hlarge
    · have hle : v * m ≤ m := mul_le_of_le_one_left hm hone
      rw [limitedVolume_of_le hpos hone]
      exact iff_of_true rfl (by linarith)
    · have hge : (m : ℚ) ≤ v * m := le_mul_of_one_le_left hm hlarge.le
      rw [limitedVolume_of_gt hlarge, Int.floor_eq_iff]
      push_cast
      exact ⟨fun h => h.2, fun h => ⟨hge, h⟩⟩

theorem limitedVolume_eq_zero {v : ℚ} {m : ℕ} : limitedVolume v m = 0 ↔ v * m < 1 := by
  have hm : (0 : ℚ) ≤ m := Nat.cast_nonneg m
  rcases lt_or_ge v 0 with hneg | hpos
  · have hle : v * m ≤ 0 := mul_nonpos_of_nonpos_of_nonneg hneg.le hm
    exact iff_of_true (limitedVolume_of_neg hneg m) (by linarith)
  · rcases le_or_gt v 1 with hone | hlarge
    · have hprod : 0 ≤ v * m := mul_nonneg hpos hm
      rw [limitedVolume_of_le hpos hone, Int.floor_eq_zero_iff, Set.mem_Ico]
      exact ⟨fun h => h.2, fun h => ⟨hprod, h⟩⟩
    · rw [limitedVolume_of_gt hlarge]
      constructor
      · intro hzero
        have hnone : m = 0 := by exact_mod_cast hzero
        rw [hnone]
        norm_num
      · intro hlt
        by_contra hne
        have hone : (1 : ℚ) ≤ m := by
          have hnat : 1 ≤ m := by omega
          exact_mod_cast hnat
        have hmore : 1 < v * m :=
          calc
            1 < v := hlarge
            _ = v * 1 := (mul_one v).symm
            _ ≤ v * m := mul_le_mul_of_nonneg_left hone hpos
        exact absurd hlt hmore.not_gt

/-- The conversion to a `guint` is defined, and it cuts off the fraction. -/
theorem guintOfDouble_some {x : ℚ} {n : ℤ} :
    (∃ d, guintOfDouble x = some d ∧ (d.toNat : ℤ) = n) ↔
      -1 < x ∧ x < 2 ^ 32 ∧ (⌊x⌋.toNat : ℤ) = n := by
  have hfloor : x.floor = ⌊x⌋ := rfl
  unfold guintOfDouble
  split
  next hrange =>
    have hbound : ⌊x⌋.toNat < 2 ^ 32 := by
      have hlt : ⌊x⌋ < 2 ^ 32 := Int.floor_lt.mpr (by exact_mod_cast hrange.2)
      omega
    have hvalue : (UInt32.ofNat x.floor.toNat).toNat = ⌊x⌋.toNat := by
      rw [UInt32.toNat_ofNat', hfloor, Nat.mod_eq_of_lt hbound]
    constructor
    · rintro ⟨d, hd, rfl⟩
      obtain rfl := Option.some.inj hd
      exact ⟨hrange.1, hrange.2, by rw [hvalue]⟩
    · rintro ⟨-, -, rfl⟩
      exact ⟨_, rfl, by rw [hvalue]⟩
  next hrange =>
    constructor
    · rintro ⟨d, hd, -⟩
      cases hd
    · intro h
      exact absurd ⟨h.1, h.2.1⟩ hrange

/-! ## What is known of the maximum -/

/-- The RenderingControl descriptions that the input reads declare the maximum. -/
def Input.Declares (M : UInt32) (i : Input) : Prop :=
  ∀ context ∈ i.context?, context.rc = some (some ⟨some M⟩)

def KnowsVolume (M : UInt32) (dev : RsuDevice) : Prop :=
  dev.maxVolume = if dev.synced then M else 0

theorem exec_volume (parseDidl : String → DidlParse) (s : Renderer)
    (hsyncs : i.syncs s.device = false) :
    (exec parseDidl s i).device.synced = s.device.synced ∧
      (exec parseDidl s i).device.maxVolume = s.device.maxVolume := by
  by_cases hsink : ∃ sink, i = .sinkChange sink
  · obtain ⟨sink, rfl⟩ := hsink
    cases sink with
    | none => exact ⟨rfl, rfl⟩
    | some protocolInfo => exact ⟨rfl, rfl⟩
  · have hrest := exec_rest parseDidl s hsyncs fun sink heq => hsink ⟨sink, heq⟩
    exact ⟨hrest.synced, hrest.maxVolume⟩

theorem knowsVolume_step {M : UInt32} (h : KnowsVolume M s.device) (hdeclares : i.Declares M) :
    KnowsVolume M (exec parseDidl s i).device := by
  cases hsyncs : i.syncs s.device with
  | false =>
      obtain ⟨hsynced, hmax⟩ := exec_volume parseDidl s hsyncs
      rw [KnowsVolume, hsynced, hmax]
      exact h
  | true =>
      obtain ⟨context, hcontext, hexec⟩ := exec_firstUse parseDidl s hsyncs
      have hafter := i.syncs_of_synced (synced_prvPropsUpdate context s.device)
      obtain ⟨hsynced, hmax⟩ :=
        exec_volume parseDidl (s.setDevice (prvPropsUpdate context s.device)) hafter
      rw [KnowsVolume, hexec, hsynced, hmax, device_setDevice, synced_prvPropsUpdate,
        maxVolume_prvPropsUpdate, hdeclares context hcontext]
      rfl

theorem knowsVolume {M : UInt32} (h : (renderer parseDidl).Reaches is s)
    (hdeclares : ∀ i ∈ is, i.Declares M) : KnowsVolume M s.device := by
  induction h with
  | init hstart =>
      obtain rfl := hstart
      rfl
  | @step is s s' i _ hstep ih =>
      obtain ⟨-, rfl⟩ := stepFn_eq hstep
      apply knowsVolume_step (ih fun i hi => hdeclares i (List.mem_append_left _ hi))
      exact hdeclares i (List.mem_append_right _ List.mem_cons_self)

/-! ## What is sent -/

/-- A Set(Volume) does what was asked: a value that is not a double is refused,
and of a double the limited volume is sent. -/
def SetsVolume (M : UInt32) : Variant → Writing → Prop
  | .double v, writing =>
      ∃ d, writing = .setVolume (some d) ∧ (d.toNat : ℤ) = limitedVolume v M.toNat
  | _, writing => ∃ error, writing = .completed (some error)

/-- The value is a double whose product with the maximum stays in the range; before
the first use, it is one that asks for no volume at all. -/
def VolumeFits (M : UInt32) (dev : RsuDevice) : Variant → Prop
  | .double v =>
      if dev.synced then -1 < v * M.toNat ∧ v * M.toNat < M.toNat + 1 else v * M.toNat < 1
  | _ => False

/-- What is sent for a double, in terms of the maximum that the device knows. -/
theorem prvSetVolume_double {M : UInt32} {v : ℚ} {dev : RsuDevice} :
    SetsVolume M (.double v) (prvSetVolume (.double v) dev) ↔
      -1 < v * dev.maxVolume.toNat ∧ v * dev.maxVolume.toNat < 2 ^ 32 ∧
        (⌊v * dev.maxVolume.toNat⌋.toNat : ℤ) = limitedVolume v M.toNat := by
  rw [← guintOfDouble_some]
  constructor
  · rintro ⟨d, hd, hvalue⟩
    exact ⟨d, Writing.setVolume.inj hd, hvalue⟩
  · rintro ⟨d, hd, hvalue⟩
    exact ⟨d, congrArg Writing.setVolume hd, hvalue⟩

/-- For every reachable state of a renderer whose descriptions declare the maximum
`M`, and every value. -/
theorem setVolume_asked {M : UInt32} (h : (renderer parseDidl).Reaches is s)
    (hdeclares : ∀ i ∈ is, i.Declares M) {interfaceName : String}
    (haccepted : interfaceName = interfacePlayer ∨ interfaceName = "") (params : Variant) :
    SetsVolume M params (rsuDeviceSetProp interfaceName "Volume" params s.device).1 ↔
      VolumeFits M s.device params := by
  have hmax : s.device.maxVolume = if s.device.synced then M else 0 := knowsVolume h hdeclares
  have hsent : (rsuDeviceSetProp interfaceName "Volume" params s.device).1 =
      prvSetVolume params s.device := by
    have hinterface : ¬(interfaceName ≠ interfacePlayer ∧ interfaceName ≠ "") := by tauto
    rw [rsuDeviceSetProp, if_neg hinterface, if_neg (by decide), if_neg (by decide)]
  rw [hsent]
  cases params with
  | double v =>
      rw [prvSetVolume_double, hmax, VolumeFits]
      cases s.device.synced with
      | false =>
          have hzero : v * ((0 : UInt32).toNat : ℚ) = 0 := mul_zero v
          rw [if_neg (by decide), if_neg (by decide), hzero, ← limitedVolume_eq_zero]
          constructor
          · rintro ⟨-, -, hvalue⟩
            rw [← hvalue]
            rfl
          · intro hvalue
            rw [hvalue]
            exact ⟨by norm_num, by norm_num, rfl⟩
      | true =>
          have hM : (M.toNat : ℚ) + 1 ≤ 2 ^ 32 := by exact_mod_cast M.toNat_lt
          rw [if_pos rfl, if_pos rfl, floor_eq_limitedVolume]
          constructor
          · rintro ⟨hlow, -, hhigh⟩
            exact ⟨hlow, hhigh⟩
          · rintro ⟨hlow, hhigh⟩
            exact ⟨hlow, hhigh.trans_le hM, hhigh⟩
  | _ =>
      refine iff_of_false ?_ id
      rintro ⟨error, herror⟩
      cases herror

/-- After the first use, a half of the hundred steps is sent as fifty. -/
theorem setVolume_asked_half : ∃ is s, (renderer fun _ => {}).Reaches is s ∧
    SetsVolume 100 (.double (1 / 2))
      (rsuDeviceSetProp "" "Volume" (.double (1 / 2)) s.device).1 := by
  let s := exec (fun _ => {}) {} (.getProp twoSpeeds "" "Volume")
  have hreach : (renderer fun _ => {}).Reaches [.getProp twoSpeeds "" "Volume"] s :=
    .step (.init rfl) rfl
  have hdeclares : ∀ i ∈ [Input.getProp twoSpeeds "" "Volume"], i.Declares 100 := by
    intro i hi context hcontext
    obtain rfl := List.mem_singleton.mp hi
    obtain rfl := Option.some.inj hcontext
    rfl
  have hfits : VolumeFits 100 s.device (.double (1 / 2)) := by
    have hsynced : s.device.synced = true := rfl
    rw [VolumeFits, if_pos hsynced]
    decide +kernel
  exact ⟨_, s, hreach, (setVolume_asked hreach hdeclares (.inr rfl) _).mpr hfits⟩

/-- A new renderer is asked for half its volume, and zero is sent. -/
theorem setVolume_asked_first : ¬∀ parseDidl is s M, (renderer parseDidl).Reaches is s →
    (∀ i ∈ is, i.Declares M) → ∀ interfaceName, interfaceName = interfacePlayer ∨
      interfaceName = "" → ∀ params, SetsVolume M params
        (rsuDeviceSetProp interfaceName "Volume" params s.device).1 := by
  intro hall
  obtain ⟨d, hd, hvalue⟩ := hall (fun _ => {}) [] {} 100 (.init rfl) (by simp) "" (.inr rfl)
    (.double (1 / 2))
  have hsent : (rsuDeviceSetProp "" "Volume" (.double (1 / 2)) {}).1 = .setVolume (some 0) := by
    decide +kernel
  obtain rfl : 0 = d := Option.some.inj (Writing.setVolume.inj (hsent.symm.trans hd))
  revert hvalue
  decide +kernel

end RendererService.Props
