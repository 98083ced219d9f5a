import RendererService.Service.Registrations

/-!
# Subscribing again after a context is lost

When a subscribed context of a device is lost, a timer of one second is started
that subscribes the preferred one of the contexts that are left.  The code looks at
the subscriptions of av and cm only: a context that was subscribed to rc alone is
not replaced.
-/

namespace RendererService

open Transition

variable {w w' : World} {d : Nat} {i : Input}

/-! ## Timers that are pending -/

theorem Connects.counter {act : ConnectAct} (hstep : Connects w act w') :
    w.upnp.counter ≤ w'.upnp.counter := by
  have hoffstage : Offstage w w' → w.upnp.counter ≤ w'.upnp.counter :=
    fun h => Nat.le_of_eq (congrArg Upnp.counter h.upnp).symm
  cases hstep with
  | stay hstay => exact hstay.counter
  | @construct d ipAddress offered _ _ =>
      exact Nat.le_of_eq (congrArg Upnp.counter (gains_blankDevice w d ipAddress offered).upnp).symm
  | @extend d dev ipAddress offered hdev =>
      have hd : w.core d = some dev.core := core_of_device hdev
      exact hoffstage (gains_rsuDeviceAppendNewContext ipAddress offered hd).toOffstage
  | settle d => exact hoffstage (cosmetic_prvDeviceSubscribeContext d).toOffstage
  | @fire id d _ =>
      have htimer : Cosmetic w (w.setSubscribeTimers (w.loop.subscribeTimers.erase (id, d))) :=
        cosmetic_setSubscribeTimers _
      exact hoffstage (htimer.trans (cosmetic_prvSubscribeToServiceChanges d)).toOffstage
  | @remove d dev context ipAddress _ _ =>
      exact hoffstage (frees_removeContext d dev context _).1.toOffstage
  | later _ _ _ => exact hoffstage (cosmetic_subscribeLater _).toOffstage
  | lose proxy => exact hoffstage (cosmetic_subscriptionLost proxy w).toOffstage
  | @expire r _ =>
      have htimer : Cosmetic w (w.setRetryTimers (w.loop.retryTimers.erase r)) :=
        cosmetic_setRetryTimers _
      exact hoffstage (htimer.trans (cosmetic_prvReEnableSubscription r)).toOffstage
  | unsubscribe d => exact hoffstage (cosmetic_rsuDeviceUnsubscribe d).toOffstage
  | @delete d dev hdev =>
      have hd : w.core d = some dev.core := core_of_device hdev
      exact hoffstage (frees_rsuDeviceDelete hd).1.toOffstage
  | declare ids hdev => exact hoffstage (offstage_setDevice _ _)

/-- The device, as long as there is one, waits for its timer. -/
structure World.Waiting (d : Nat) (w : World) : Prop where
  timeoutId : w.timeoutId d ≠ some 0
  bound : d < w.upnp.counter

/-- A pending timer of a device goes on pending until it fires. -/
theorem World.Waiting.connects {act : ConnectAct} (h : w.Waiting d) (hstep : Connects w act w')
    (hfire : ∀ id, act ≠ .fire id d) : w'.Waiting d := by
  refine ⟨?_, Nat.lt_of_lt_of_le h.bound hstep.counter⟩
  by_cases htimes : act.times d
  · cases hstep with
    | @construct e ipAddress offered _ hcounter =>
        have heq : e = d := htimes
        have hbound := h.bound
        omega
    | @fire id e _ =>
        have heq : e = d := htimes
        exact absurd (by rw [heq]) (hfire id)
    | @later e dev hdev _ hsource =>
        have heq : e = d := htimes
        subst heq
        simp only [subscribeLater, World.withDevice, hdev]
        simp only [World.timeoutId, World.setDevice, if_true, Option.map_some, ne_eq,
          Option.some.injEq]
        omega
    | @delete e dev hdev =>
        have heq : e = d := htimes
        subst heq
        rw [rsuDeviceDelete_eq hdev]
        simp [World.timeoutId, World.setDevice]
    | _ => exact absurd htimes id
  · rw [hstep.rewires.2 d htimes]
    exact h.timeoutId

/-! ## Runs without an attempt -/

/-- The step makes no subscription attempt on the device. -/
def Input.LeavesAlone (d : Nat) (w : World) (i : Input) : Prop :=
  ∀ x, i.attempt? w ≠ some (d, x)

section Runs

variable {neverQuit : Bool} {is : List Input}

theorem Input.LeavesAlone.not_timer (hr : (service neverQuit).Reaches is w)
    (hstep : stepFn w i = some w') (h : i.LeavesAlone d w) (id : Nat) :
    i ≠ .subscribeTimer id d := by
  rintro rfl
  obtain ⟨henabled, hfault, -⟩ := stepFn_eq hstep
  have hmem : (id, d) ∈ w.loop.subscribeTimers := by simp_all [Input.enabled]
  have hok := service_contextsOk hr
  obtain ⟨dev, hdev, -⟩ := Option.map_eq_some_iff.mp (hok.attached.subscribe _ hmem).2
  cases hpreferred : rsuDeviceGetContext dev with
  | some x =>
      refine h x ?_
      simp only [Input.attempt?, hdev, Option.bind_some, hpreferred, Option.map_some]
  | none =>
      rw [fire_eq_crash hdev hpreferred] at hfault
      simp [World.crash] at hfault

theorem waiting_steps {w₂ : World} (hr : (service neverQuit).Reaches is w) (h : w.Waiting d)
    (hsteps : ((service neverQuit).restrict fun w i => i.LeavesAlone d w).Steps w w₂) :
    w₂.Waiting d := by
  have hboth : (∃ is, (service neverQuit).Reaches is w₂) ∧ w₂.Waiting d := by
    refine hsteps.invariant (I := fun w => (∃ is, (service neverQuit).Reaches is w) ∧ w.Waiting d)
      ⟨⟨is, hr⟩, h⟩ fun w i w' hw hst => ?_
    obtain ⟨⟨js, hr⟩, h⟩ := hw
    obtain ⟨halone, hstep⟩ := hst
    have hnot := halone.not_timer hr hstep
    refine ⟨⟨_, hr.step hstep⟩, ?_⟩
    obtain ⟨henabled, -, rfl⟩ := stepFn_eq hstep
    obtain ⟨hok, hconnected⟩ := service_connected hr henabled
    refine hconnected.keeps hok h fun w₁ act w₂ _ h₁ hdue hst => ?_
    exact h₁.connects hst fun id heq => hnot id (hdue.2 id d heq)
  exact hboth.2

/-- The timer of a device after it has lost a context but not the last one. -/
theorem timeoutId_unavailable {udn ipAddress : String} {uc : Option DeviceNewCt} {dev : Device}
    {context : DeviceContext} (hsource : 0 < w.loop.nextSource)
    (hdeparting : w.Departing udn ipAddress d uc dev context)
    (hothers : (dev.contexts.eraseP fun context => context.ipAddress = ipAddress) ≠ []) :
    (prvServerUnavailableCb udn ipAddress w).timeoutId d ≠ some 0 ↔
      context.subscribedCm = true ∨ context.subscribedAv = true ∨ dev.timeoutId ≠ 0 := by
  let w₁ := w.removeContext d dev context ipAddress
  have hremoved : w₁.timeoutId d = some dev.timeoutId :=
    timeoutId_removeContext w d dev context ipAddress
  have hsource₁ : 0 < w₁.loop.nextSource :=
    Nat.lt_of_lt_of_le hsource (frees_departing w d dev context ipAddress).nextSource
  obtain ⟨dev₁, hdev₁, hid₁⟩ := Option.map_eq_some_iff.mp hremoved
  have heq : prvServerUnavailableCb udn ipAddress w =
      if (context.subscribedAv || context.subscribedCm) = true ∧ dev.timeoutId = 0 then
        subscribeLater d w₁ else w₁ :=
    (prvServerUnavailableCb_departing hdeparting).trans (if_neg hothers)
  rw [heq]
  split
  next hlater =>
    -- The timer that is started is one that GLib never numbers 0.
    have hnew : (subscribeLater d w₁).timeoutId d = some w₁.loop.nextSource := by
      simp only [subscribeLater, World.withDevice, hdev₁]
      simp [World.timeoutId, World.setDevice]
    rw [hnew]
    have hflags := hlater.1
    rw [Bool.or_eq_true] at hflags
    constructor
    · exact fun _ => hflags.elim (fun h => .inr (.inl h)) .inl
    · intro _ hzero
      have hnum := Option.some.inj hzero
      omega
  next hnot =>
    rw [hremoved]
    constructor
    · exact fun hne => .inr (.inr fun hzero => hne (congrArg some hzero))
    · rintro (hcm | hav | hpending) hzero
      · exact hnot ⟨by simp [hcm], Option.some.inj hzero⟩
      · exact hnot ⟨by simp [hav], Option.some.inj hzero⟩
      · exact hpending (Option.some.inj hzero)

/-- A device that loses a subscribed context, and keeps others, waits for its timer
until the next attempt, if and only if rc was not subscribed alone or it waits already. -/
theorem service_resubscribes {udn ipAddress : String} {dev : Device} {context : DeviceContext}
    (hr : (service neverQuit).Reaches is w)
    (hstep : stepFn w (.unavailable udn ipAddress) = some w')
    (hconstructed : w.upnp.serverUdnMap.lookup udn = some d) (hdev : w.devices d = some dev)
    (hcontext : (dev.contexts.find? fun context => context.ipAddress = ipAddress) = some context)
    (hothers : (dev.contexts.eraseP fun context => context.ipAddress = ipAddress) ≠ []) :
    ((context.subscribedCm || context.subscribedAv || context.subscribedRc) = true →
        ∀ w₂ dev₂, ((service neverQuit).restrict fun w i => i.LeavesAlone d w).Steps w' w₂ →
          w₂.devices d = some dev₂ → dev₂.timeoutId ≠ 0) ↔
      (context.subscribedRc = true →
        context.subscribedCm = true ∨ context.subscribedAv = true ∨ dev.timeoutId ≠ 0) := by
  obtain ⟨henabled, -, hw'⟩ := stepFn_eq hstep
  have hfreed := enabled_freed henabled
  have hok := service_ok hr hfreed
  have hfind : w.upnp.find udn = some (d, none) := by rw [Upnp.find, hconstructed]
  have htimer := timeoutId_unavailable hok.processor.source ⟨hfind, hdev, hcontext⟩ hothers
  have hexec : w' = prvServerUnavailableCb udn ipAddress w := hw'
  rw [← hexec] at htimer
  have hbound : d < w'.upnp.counter := by
    obtain ⟨hcontexts, hconnected⟩ := service_connected hr henabled
    have hold := (service_registryOk hr hfreed).maps.bound d (alive_of_device hdev)
    rw [hw']
    exact hconnected.keeps (I := fun w => d < w.upnp.counter) hcontexts hold
      fun w₁ act w₂ _ hlt _ hst => Nat.lt_of_lt_of_le hlt hst.counter
  rw [← htimer]
  constructor
  · intro hwaits hrc hzero
    obtain ⟨dev', hdev', hid⟩ := Option.map_eq_some_iff.mp hzero
    exact hwaits (by simp [hrc]) w' dev' .refl hdev' hid
  · intro hpending hsubscribed w₂ dev₂ hsteps hdev₂ hzero
    have hwaits : w'.timeoutId d ≠ some 0 := by
      rw [Bool.or_eq_true, Bool.or_eq_true] at hsubscribed
      obtain (hcm | hav) | hrc := hsubscribed
      · exact htimer.mpr (.inl hcm)
      · exact htimer.mpr (.inr (.inl hav))
      · exact hpending hrc
    have hwaiting := waiting_steps (hr.step hstep) ⟨hwaits, hbound⟩ hsteps
    exact hwaiting.timeoutId (by rw [World.timeoutId, hdev₂, Option.map_some, hzero])

end Runs

/-- A renderer that offers the services at two addresses, and loses the first one. -/
theorem reaches_twoAddresses (offered : DeviceServices) (construction : List Choice)
    (p : DeviceContext → Nat → Prop) [∀ context timeoutId, Decidable (p context timeoutId)]
    (h : ((runSchedule stepFn (.input (.available "uuid:r" "192.168.1.2" offered) ::
      construction ++ [.input (.available "uuid:r" "10.0.0.2" offered)]) (start true)).any
        fun w => w.upnp.serverUdnMap.lookup "uuid:r" = some 0 ∧
          ((stepFn w (.unavailable "uuid:r" "192.168.1.2")).bind fun w' =>
            (w.devices 0).bind fun dev => (w'.devices 0).bind fun dev' =>
              (dev.contexts.find? fun context => context.ipAddress = "192.168.1.2").map
                fun context => decide (p context dev'.timeoutId ∧
                  (dev.contexts.eraseP fun context => context.ipAddress = "192.168.1.2") ≠ []))
            = some true) = true) :
    ∃ is w w' dev dev' context, (service true).Reaches is w ∧
      stepFn w (.unavailable "uuid:r" "192.168.1.2") = some w' ∧
      w.upnp.serverUdnMap.lookup "uuid:r" = some 0 ∧ w.devices 0 = some dev ∧
      w'.devices 0 = some dev' ∧
      (dev.contexts.find? fun context => context.ipAddress = "192.168.1.2") = some context ∧
      p context dev'.timeoutId ∧
      (dev.contexts.eraseP fun context => context.ipAddress = "192.168.1.2") ≠ [] := by
  obtain ⟨is, w, hreaches, hlookup, hsome⟩ := service_reaches_of_schedule true _ h
  obtain ⟨w', hstep, hsome⟩ := Option.bind_eq_some_iff.mp hsome
  obtain ⟨dev, hdev, hsome⟩ := Option.bind_eq_some_iff.mp hsome
  obtain ⟨dev', hdev', hsome⟩ := Option.bind_eq_some_iff.mp hsome
  obtain ⟨context, hcontext, hp⟩ := Option.map_eq_some_iff.mp hsome
  obtain ⟨hp, hothers⟩ := of_decide_eq_true hp
  exact ⟨is, w, w', dev, dev', context, hreaches, hstep, hlookup, hdev, hdev', hcontext, hp,
    hothers⟩

/-- The first address is subscribed to all three services, and the timer is started. -/
theorem service_resubscribes_allServices :
    ∃ is w w' dev, ∃ context : DeviceContext, (service true).Reaches is w ∧
      stepFn w (.unavailable "uuid:r" "192.168.1.2") = some w' ∧
      w.devices 0 = some dev ∧ context.subscribedRc = true ∧
      (((context.subscribedCm || context.subscribedAv || context.subscribedRc) = true →
        ∀ w₂ dev₂, ((service true).restrict fun w i => i.LeavesAlone 0 w).Steps w' w₂ →
          w₂.devices 0 = some dev₂ → dev₂.timeoutId ≠ 0) ↔
      (context.subscribedRc = true →
        context.subscribedCm = true ∨ context.subscribedAv = true ∨ dev.timeoutId ≠ 0)) := by
  obtain ⟨is, w, w', dev, -, context, hreaches, hstep, hlookup, hdev, -, hcontext, hrc, hothers⟩ :=
    reaches_twoAddresses ⟨true, true, true⟩ oneRenderer.tail
      (fun context _ => context.subscribedRc = true) (by decide +kernel)
  exact ⟨is, w, w', dev, context, hreaches, hstep, hdev, hrc,
    service_resubscribes hreaches hstep hlookup hdev hcontext hothers⟩

/-- The first address is subscribed to rc alone, and the second one is not subscribed
when it is lost. -/
theorem service_resubscribes_rcOnly :
    ∃ is w w' dev context, (service true).Reaches is w ∧
      stepFn w (.unavailable "uuid:r" "192.168.1.2") = some w' ∧
      w.upnp.serverUdnMap.lookup "uuid:r" = some 0 ∧ w.devices 0 = some dev ∧
      (dev.contexts.find? fun context => context.ipAddress = "192.168.1.2") = some context ∧
      (dev.contexts.eraseP fun context => context.ipAddress = "192.168.1.2") ≠ [] ∧
      (context.subscribedCm || context.subscribedAv || context.subscribedRc) = true ∧
      ¬∀ w₂ dev₂, ((service true).restrict fun w i => i.LeavesAlone 0 w).Steps w' w₂ →
        w₂.devices 0 = some dev₂ → dev₂.timeoutId ≠ 0 := by
  obtain ⟨is, w, w', dev, dev', context, hreaches, hstep, hlookup, hdev, hdev', hcontext,
    ⟨hrc, hzero⟩, hothers⟩ := reaches_twoAddresses ⟨false, false, true⟩
      [.processIdle, .processIdle, .processIdle, .finallyIdle]
      (fun context timeoutId => context.subscribedRc = true ∧ timeoutId = 0) (by decide +kernel)
  refine ⟨is, w, w', dev, context, hreaches, hstep, hlookup, hdev, hcontext, hothers, ?_, ?_⟩
  · rw [hrc, Bool.or_true]
  · exact fun hwaits => hwaits w' dev' .refl hdev' hzero

end RendererService
