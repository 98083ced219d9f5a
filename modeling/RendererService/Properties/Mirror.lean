import RendererService.Properties.Callbacks

/-!
# The change signals mirror the player properties

A client that starts with a copy of the player properties and applies the
signals holds the player properties after every step, as long as no Set(Rate)
picks a speed other than the one that is shown: `prv_set_rate` stores it without
a signal.
-/

namespace RendererService.Props

open Assoc Transition

variable {dev dev' dev'' : RsuDevice} {s s' : Renderer} {i : Input}
  {parseDidl : String → DidlParse}

/-- The input is a Set(Rate) that picks another speed than the one shown. -/
def Input.changesRate (dev : RsuDevice) : Input → Bool
  | .setProp interfaceName propName params =>
      (dev.pickedRate interfaceName propName params).any fun rate =>
        dev.playerProps.lookup "Rate" ≠ some (.double rate)
  | _ => false

/-! ## A client's copy -/

/-- Between the two states the signals carry a copy of the player properties
along. -/
def Mirrored (dev dev' : RsuDevice) : Prop :=
  ∃ new, dev'.signals = dev.signals ++ new ∧
    ∀ key, (mirror dev.playerProps new).lookup key = dev'.playerProps.lookup key

theorem Reports.mirrored {keys : List String} (h : Reports keys dev dev') :
    Mirrored dev dev' := by
  obtain ⟨new, hsignals, -, hprops⟩ := h.signals
  exact ⟨new, hsignals, fun key => by rw [hprops]⟩

theorem Mirrored.trans (h : Mirrored dev dev') (h' : Mirrored dev' dev'') :
    Mirrored dev dev'' := by
  obtain ⟨new, hsignals, hcopy⟩ := h
  obtain ⟨new', hsignals', hcopy'⟩ := h'
  refine ⟨new ++ new', ?_, fun key => ?_⟩
  · rw [hsignals', hsignals, List.append_assoc]
  · calc
      (mirror dev.playerProps (new ++ new')).lookup key
          = (mirror (mirror dev.playerProps new) new').lookup key := by rw [mirror_append]
      _ = (mirror dev'.playerProps new').lookup key := lookup_mirror_congr hcopy new' key
      _ = dev''.playerProps.lookup key := hcopy' key

/-- Where nothing was emitted, a copy is right if no property changed. -/
theorem mirrored_of_silent (hsignals : dev'.signals = dev.signals) :
    Mirrored dev dev' ↔ ∀ key, dev'.playerProps.lookup key = dev.playerProps.lookup key := by
  constructor
  · rintro ⟨new, hnew, hcopy⟩ key
    have hnone : new = [] := List.append_right_eq_self.mp (hnew.symm.trans hsignals)
    subst hnone
    exact (hcopy key).symm
  · intro hsame
    exact ⟨[], by rw [hsignals, List.append_nil], fun key => (hsame key).symm⟩

/-- One step keeps a copy right, but for a Set(Rate) that changes the rate. -/
theorem exec_mirrored (parseDidl : String → DidlParse) (s : Renderer) (i : Input) :
    Mirrored s.device (exec parseDidl s i).device ↔ i.changesRate s.device = false := by
  cases i with
  | setProp interfaceName propName params =>
      have hstores := rsuDeviceSetProp_device interfaceName propName params s.device
      rw [exec, device_setDevice, Input.changesRate]
      cases hpicked : s.device.pickedRate interfaceName propName params with
      | none =>
          rw [hpicked] at hstores
          rw [hstores, mirrored_of_silent rfl]
          simp
      | some rate =>
          rw [hpicked] at hstores
          obtain ⟨upnpRate, hstores⟩ := hstores
          rw [mirrored_of_silent (by rw [hstores]), hstores]
          simp only [Option.any_some, decide_not, Bool.not_eq_false', decide_eq_true_eq,
            lookup_insert_eq]
          constructor
          · intro hsame
            simpa using (hsame "Rate").symm
          · intro hshown key
            split
            next hkey => rw [hkey, hshown]
            · rfl
  | _ => exact iff_of_true (exec_reports_player parseDidl s rfl).mirrored rfl

/-- For every run of a renderer in which no Set(Rate) leads to another speed, a
client that applies the signals to a copy of the player properties holds them. -/
theorem player_mirrored
    (h : ((renderer parseDidl).restrict fun s i => i.changesRate s.device = false).Steps s s') :
    Mirrored s.device s'.device := by
  have hstart : Mirrored s.device s.device := (mirrored_of_silent rfl).mpr fun _ => rfl
  refine h.invariant (I := fun s' => Mirrored s.device s'.device) hstart ?_
  intro s₁ i s₂ hmirrored hstep
  obtain ⟨hkeeps, hstep⟩ := hstep
  obtain ⟨-, rfl⟩ := stepFn_eq hstep
  exact hmirrored.trans ((exec_mirrored parseDidl s₁ i).mpr hkeeps)

/-- The event says that the speed is 2 before it is set to 2. -/
theorem player_mirrored_twoSpeeds : ∃ s' : Renderer, Mirrored {} s'.device ∧
    s'.device.signals.length = 2 ∧ s'.device.playerProps.lookup "Rate" = some (.double 2) := by
  obtain ⟨s', hsteps, hfinal⟩ : ∃ s', ((renderer fun _ => {}).restrict fun s i =>
      i.changesRate s.device = false).Steps {} s' ∧ s'.device.signals.length = 2 ∧
        s'.device.playerProps.lookup "Rate" = some (.double 2) :=
    steps_guarded
      [.getProp twoSpeeds interfacePlayer "Rate",
        .avLastChange (some { transportPlaySpeed := some "2" }),
        .setProp interfacePlayer "Rate" (.double 2)] (by decide +kernel)
  exact ⟨s', player_mirrored hsteps, hfinal⟩

/-- After a Set(Rate) to 2 the signals do not tell of the new rate. -/
theorem player_mirrored_setRate : ¬∀ parseDidl is s s', (renderer parseDidl).Reaches is s →
    (renderer parseDidl).Steps s s' → Mirrored s.device s'.device := by
  intro hall
  let parseDidl : String → DidlParse := fun _ => {}
  let s := exec parseDidl {} (.getProp twoSpeeds interfacePlayer "Rate")
  let i := Input.setProp interfacePlayer "Rate" (.double 2)
  have hreach : (renderer parseDidl).Reaches [.getProp twoSpeeds interfacePlayer "Rate"] s :=
    .step (.init rfl) rfl
  have hstep : (renderer parseDidl).Steps s (exec parseDidl s i) := System.Steps.single (i := i) rfl
  have hmirrored := hall parseDidl _ s _ hreach hstep
  have hchanges : i.changesRate s.device = true := by decide +kernel
  rw [exec_mirrored, hchanges] at hmirrored
  cases hmirrored

end RendererService.Props
