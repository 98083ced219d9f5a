import RendererService.Processor.Frames

/-!
# Devices and proxies

Every context of a device has proxies of its own, and they live as long as the
context does.  This is what the weak pointers to proxies rest on.
-/

namespace RendererService

/-! ## Proxies that go away -/

/-- The proxies `gone` are destroyed, with the actions pending on them. -/
structure Frees (gone : List ServiceProxy) (w w' : World) : Prop extends Offstage w w' where
  proxies : w'.gupnp.proxies = w.gupnp.proxies.filter fun p => p ∉ gone
  actions : w'.gupnp.actions = w.gupnp.actions.filter fun act => act.proxy ∉ gone
  nextContext : w'.gupnp.nextContext = w.gupnp.nextContext

section Frees

variable {w w' w'' : World} {gone gone' : List ServiceProxy}

theorem Frees.trans (h : Frees gone w w') (h' : Frees gone' w' w'') :
    Frees (gone ++ gone') w w'' where
  toOffstage := h.toOffstage.trans h'.toOffstage
  proxies := by
    rw [h'.proxies, h.proxies, List.filter_filter]
    refine List.filter_congr fun p _ => ?_
    simp [Bool.and_comm]
  actions := by
    rw [h'.actions, h.actions, List.filter_filter]
    refine List.filter_congr fun act _ => ?_
    simp [Bool.and_comm]
  nextContext := h'.nextContext.trans h.nextContext

theorem Frees.of_cosmetic (h : Cosmetic w w') : Frees [] w w' :=
  ⟨h.toOffstage, by simp [h.proxies], by simp [h.actions], h.nextContext⟩

theorem Frees.mem_proxies (h : Frees gone w w') {p : ServiceProxy} :
    p ∈ w'.gupnp.proxies ↔ p ∈ w.gupnp.proxies ∧ p ∉ gone := by
  rw [h.proxies, List.mem_filter, decide_eq_true_eq]

theorem Frees.mem_actions (h : Frees gone w w') {action : ProxyAction} :
    action ∈ w'.gupnp.actions ↔ action ∈ w.gupnp.actions ∧ action.proxy ∉ gone := by
  rw [h.actions, List.mem_filter, decide_eq_true_eq]

theorem frees_prvRsuContextDelete (d : Nat) (context : DeviceContext) (w : World) :
    Frees context.serviceProxies.toList w (prvRsuContextDelete d context w) ∧
      ∀ e, (prvRsuContextDelete d context w).core e = w.core e := by
  have hcosmetic := cosmetic_prvRsuContextUnsubscribe (w := w) d context
  have hfree : Frees context.serviceProxies.toList (prvRsuContextUnsubscribe d context w)
      (prvRsuContextDelete d context w) :=
    ⟨⟨rfl, rfl, rfl, rfl, rfl, rfl, rfl, rfl, rfl, rfl, Nat.le_refl _, rfl, fun _ h => h⟩,
      rfl, rfl, rfl⟩
  exact ⟨(Frees.of_cosmetic hcosmetic).trans hfree, hcosmetic.core⟩

theorem frees_foldl (d : Nat) (contexts : List DeviceContext) :
    ∀ w : World, Frees (contexts.flatMap fun context => context.serviceProxies.toList) w
        (contexts.foldl (fun w context => prvRsuContextDelete d context w) w) ∧
      ∀ e, (contexts.foldl (fun w context => prvRsuContextDelete d context w) w).core e =
        w.core e := by
  induction contexts with
  | nil => exact fun w => ⟨.of_cosmetic .refl, fun _ => rfl⟩
  | cons context contexts ih =>
      intro w
      obtain ⟨hfirst, hcore⟩ := frees_prvRsuContextDelete d context w
      obtain ⟨hrest, hcore'⟩ := ih (prvRsuContextDelete d context w)
      exact ⟨hfirst.trans hrest, fun e => (hcore' e).trans (hcore e)⟩

theorem core_setDevice (w : World) (d : Nat) (dev : Option Device) (e : Nat) :
    (w.setDevice d dev).core e = if e = d then dev.map Device.core else w.core e := by
  unfold World.core World.setDevice
  dsimp only
  split <;> rfl

def DeviceCore.proxies (c : DeviceCore) : List ServiceProxy :=
  c.contexts.flatMap fun x => x.serviceProxies.toList

theorem frees_rsuDeviceDelete {d : Nat} {c : DeviceCore} (hd : w.core d = some c) :
    Frees c.proxies w (rsuDeviceDelete d w) ∧
      ∀ e, (rsuDeviceDelete d w).core e = if e = d then none else w.core e := by
  obtain ⟨dev, hdev, rfl⟩ := Option.map_eq_some_iff.mp hd
  have htimer : Cosmetic w (if dev.timeoutId ≠ 0 then
      w.setSubscribeTimers (w.loop.subscribeTimers.filter fun s => s.1 ≠ dev.timeoutId)
      else w) := by
    split
    · exact cosmetic_setSubscribeTimers _
    · exact .refl
  obtain ⟨hfree, hcore⟩ := frees_foldl d dev.contexts (if dev.timeoutId ≠ 0 then
      w.setSubscribeTimers (w.loop.subscribeTimers.filter fun s => s.1 ≠ dev.timeoutId)
      else w)
  have hproxies : dev.core.proxies =
      dev.contexts.flatMap fun context => context.serviceProxies.toList := by
    simp only [DeviceCore.proxies, Device.core, List.flatMap_map]
    rfl
  have hboth := (Frees.of_cosmetic htimer).trans hfree
  have heq : rsuDeviceDelete d w = (dev.contexts.foldl
      (fun w context => prvRsuContextDelete d context w) (if dev.timeoutId ≠ 0 then
        w.setSubscribeTimers (w.loop.subscribeTimers.filter fun s => s.1 ≠ dev.timeoutId)
        else w)).setDevice d none := by
    simp only [rsuDeviceDelete, World.withDevice, hdev]
  rw [heq, hproxies]
  refine ⟨⟨hboth.toOffstage.trans (offstage_setDevice d none), hboth.proxies, hboth.actions,
    hboth.nextContext⟩, fun e => ?_⟩
  rw [core_setDevice, hcore, htimer.core]
  rfl

theorem frees_removeContext (d : Nat) (dev : Device) (context : DeviceContext)
    (contexts : List DeviceContext) :
    Frees context.serviceProxies.toList w
        (prvRsuContextDelete d context (w.setDevice d (some { dev with contexts := contexts }))) ∧
      ∀ e, (prvRsuContextDelete d context
        (w.setDevice d (some { dev with contexts := contexts }))).core e =
          if e = d then some ⟨dev.path, contexts.map DeviceContext.core⟩ else w.core e := by
  obtain ⟨hfree, hcore⟩ := frees_prvRsuContextDelete d context
    (w.setDevice d (some { dev with contexts := contexts }))
  refine ⟨⟨(offstage_setDevice d _).trans hfree.toOffstage, hfree.proxies, hfree.actions,
    hfree.nextContext⟩, fun e => ?_⟩
  rw [hcore, core_setDevice]
  rfl

end Frees

/-! ## Contexts that go away -/

def World.removeContext (w : World) (d : Nat) (dev : Device) (context : DeviceContext)
    (ipAddress : String) : World :=
  prvRsuContextDelete d context (w.setDevice d (some { dev with
    contexts := dev.contexts.eraseP fun context => context.ipAddress = ipAddress }))

theorem frees_departing (w : World) (d : Nat) (dev : Device) (context : DeviceContext)
    (ipAddress : String) :
    Frees context.serviceProxies.toList w (w.removeContext d dev context ipAddress) :=
  (frees_removeContext d dev context _).1

/-- The context that `prv_server_unavailable_cb` finds for the address of a device. -/
structure World.Departing (w : World) (udn ipAddress : String) (d : Nat)
    (uc : Option DeviceNewCt) (dev : Device) (context : DeviceContext) : Prop where
  find : w.upnp.find udn = some (d, uc)
  device : w.devices d = some dev
  context : dev.contexts.find? (fun context => context.ipAddress = ipAddress) = some context

/-- What `prv_server_unavailable_cb` does, case by case. -/
inductive Departure (udn ipAddress : String) (w : World) : Prop
  | ignored : (∀ d uc dev context, ¬w.Departing udn ipAddress d uc dev context) →
      prvServerUnavailableCb udn ipAddress w = w → Departure udn ipAddress w
  | dangling {d : Nat} {uc : Option DeviceNewCt} : w.upnp.find udn = some (d, uc) →
      w.devices d = none → prvServerUnavailableCb udn ipAddress w = w.crash (.deadDevice d) →
      Departure udn ipAddress w
  | last {d : Nat} {uc : Option DeviceNewCt} {dev : Device} {context : DeviceContext} :
      w.Departing udn ipAddress d uc dev context →
      dev.contexts.eraseP (fun context => context.ipAddress = ipAddress) = [] →
      prvServerUnavailableCb udn ipAddress w =
        prvServerLost udn d dev.path uc (w.removeContext d dev context ipAddress) →
      Departure udn ipAddress w
  | later {d : Nat} {uc : Option DeviceNewCt} {dev : Device} {context : DeviceContext} :
      w.Departing udn ipAddress d uc dev context →
      dev.contexts.eraseP (fun context => context.ipAddress = ipAddress) ≠ [] →
      (context.subscribedAv || context.subscribedCm) = true ∧ dev.timeoutId = 0 →
      prvServerUnavailableCb udn ipAddress w =
        subscribeLater d (w.removeContext d dev context ipAddress) →
      Departure udn ipAddress w
  | other {d : Nat} {uc : Option DeviceNewCt} {dev : Device} {context : DeviceContext} :
      w.Departing udn ipAddress d uc dev context →
      dev.contexts.eraseP (fun context => context.ipAddress = ipAddress) ≠ [] →
      ¬((context.subscribedAv || context.subscribedCm) = true ∧ dev.timeoutId = 0) →
      prvServerUnavailableCb udn ipAddress w = w.removeContext d dev context ipAddress →
      Departure udn ipAddress w

theorem prvServerUnavailableCb_departing {udn ipAddress : String} {w : World} {d : Nat}
    {uc : Option DeviceNewCt} {dev : Device} {context : DeviceContext}
    (h : w.Departing udn ipAddress d uc dev context) :
    prvServerUnavailableCb udn ipAddress w =
      if dev.contexts.eraseP (fun context => context.ipAddress = ipAddress) = [] then
        prvServerLost udn d dev.path uc (w.removeContext d dev context ipAddress)
      else if (context.subscribedAv || context.subscribedCm) = true ∧ dev.timeoutId = 0 then
        subscribeLater d (w.removeContext d dev context ipAddress)
      else w.removeContext d dev context ipAddress := by
  simp only [prvServerUnavailableCb, h.find, World.withDevice, h.device, h.context]
  rfl

theorem Departure.of_departing {udn ipAddress : String} {w : World} {d : Nat}
    {uc : Option DeviceNewCt} {dev : Device} {context : DeviceContext}
    (h : w.Departing udn ipAddress d uc dev context) : Departure udn ipAddress w := by
  have heq := prvServerUnavailableCb_departing h
  split at heq
  next hlast => exact .last h hlast heq
  next hothers =>
    split at heq
    next htimer => exact .later h hothers htimer heq
    next htimer => exact .other h hothers htimer heq

theorem departure (udn ipAddress : String) (w : World) : Departure udn ipAddress w := by
  cases hfind : w.upnp.find udn with
  | none =>
      refine .ignored (fun d uc dev context h => ?_) (by
        simp only [prvServerUnavailableCb, hfind])
      exact absurd (hfind.symm.trans h.find) (by simp)
  | some found =>
      obtain ⟨d, uc⟩ := found
      cases hdev : w.devices d with
      | none =>
          exact .dangling hfind hdev (by
            simp only [prvServerUnavailableCb, hfind, World.withDevice, hdev])
      | some dev =>
          cases hcontext : dev.contexts.find? fun context => context.ipAddress = ipAddress with
          | none =>
              refine .ignored (fun d' uc' dev' context h => ?_) (by
                simp only [prvServerUnavailableCb, hfind, World.withDevice, hdev, hcontext])
              obtain ⟨rfl, rfl⟩ := Prod.mk.inj (Option.some.inj (hfind.symm.trans h.find))
              obtain rfl := Option.some.inj (hdev.symm.trans h.device)
              exact absurd (hcontext.symm.trans h.context) (by simp)
          | some context => exact .of_departing ⟨hfind, hdev, hcontext⟩

/-! ## Contexts that appear -/

/-- What `prv_server_available_cb` does, case by case. -/
inductive Arrival (udn ipAddress : String) (offered : DeviceServices) (w : World) : Prop
  | unknown : w.upnp.find udn = none →
      prvServerAvailableCb udn ipAddress offered w = prvServerConstruct udn ipAddress offered w →
      Arrival udn ipAddress offered w
  | dangling {d : Nat} {uc : Option DeviceNewCt} : w.upnp.find udn = some (d, uc) →
      w.devices d = none →
      prvServerAvailableCb udn ipAddress offered w = w.crash (.deadDevice d) →
      Arrival udn ipAddress offered w
  | present {d : Nat} {uc : Option DeviceNewCt} {dev : Device} :
      w.upnp.find udn = some (d, uc) → w.devices d = some dev →
      (dev.contexts.any fun context => context.ipAddress = ipAddress) = true →
      prvServerAvailableCb udn ipAddress offered w = w → Arrival udn ipAddress offered w
  | extended {d : Nat} {uc : Option DeviceNewCt} {dev : Device} :
      w.upnp.find udn = some (d, uc) → w.devices d = some dev →
      ¬(dev.contexts.any fun context => context.ipAddress = ipAddress) = true →
      prvServerAvailableCb udn ipAddress offered w =
        rsuDeviceAppendNewContext d ipAddress offered w → Arrival udn ipAddress offered w

theorem arrival (udn ipAddress : String) (offered : DeviceServices) (w : World) :
    Arrival udn ipAddress offered w := by
  cases hfind : w.upnp.find udn with
  | none => exact .unknown hfind (by simp only [prvServerAvailableCb, hfind])
  | some found =>
      obtain ⟨d, uc⟩ := found
      cases hdev : w.devices d with
      | none =>
          exact .dangling hfind hdev (by
            simp only [prvServerAvailableCb, hfind, World.withDevice, hdev])
      | some dev =>
          have heq : prvServerAvailableCb udn ipAddress offered w =
              if (dev.contexts.any fun context => context.ipAddress = ipAddress) = true then w
              else rsuDeviceAppendNewContext d ipAddress offered w := by
            simp only [prvServerAvailableCb, hfind, World.withDevice, hdev]
          split at heq
          next hpresent => exact .present hfind hdev hpresent heq
          next hnew => exact .extended hfind hdev hnew heq

def World.newContext (w : World) (ipAddress : String) (offered : DeviceServices) : ContextCore :=
  ⟨w.gupnp.nextContext, ipAddress, gupnpDeviceInfoGetServices w.gupnp.nextContext offered⟩

structure Gains (d : Nat) (c : DeviceCore) (x : ContextCore) (w w' : World) : Prop
    extends Offstage w w' where
  proxies : w'.gupnp.proxies = w.gupnp.proxies ++ x.serviceProxies.toList
  actions : w'.gupnp.actions = w.gupnp.actions
  nextContext : w'.gupnp.nextContext = w.gupnp.nextContext + 1
  core : ∀ e, w'.core e =
    if e = d then some ⟨c.path, c.contexts ++ [x]⟩ else w.core e

section Gains

variable {w w' w'' : World} {d : Nat} {c : DeviceCore} {x : ContextCore}

theorem Gains.trans_cosmetic (h : Gains d c x w w') (h' : Cosmetic w' w'') :
    Gains d c x w w'' where
  toOffstage := h.toOffstage.trans h'.toOffstage
  proxies := h'.proxies.trans h.proxies
  actions := h'.actions.trans h.actions
  nextContext := h'.nextContext.trans h.nextContext
  core e := (h'.core e).trans (h.core e)

theorem gains_prvDeviceAppendNewContext (ipAddress : String) (offered : DeviceServices)
    (hd : w.core d = some c) :
    Gains d c (w.newContext ipAddress offered) w
      (prvDeviceAppendNewContext d ipAddress offered w) := by
  obtain ⟨dev, hdev, rfl⟩ := Option.map_eq_some_iff.mp hd
  have hdev' : (prvContextNew ipAddress offered w).2.devices d = some dev := hdev
  have heq : prvDeviceAppendNewContext d ipAddress offered w =
      (prvContextNew ipAddress offered w).2.setDevice d (some { dev with
        contexts := dev.contexts ++ [(prvContextNew ipAddress offered w).1] }) := by
    simp only [prvDeviceAppendNewContext, World.withDevice, hdev']
  rw [heq]
  refine ⟨⟨rfl, rfl, rfl, rfl, rfl, rfl, rfl, rfl, rfl, rfl, Nat.le_refl _, rfl,
    fun _ h => h⟩, rfl, rfl, rfl, fun e => ?_⟩
  rw [core_setDevice]
  split
  · simp [Device.core, DeviceContext.core, World.newContext, prvContextNew]
  · rfl

theorem gains_rsuDeviceAppendNewContext (ipAddress : String) (offered : DeviceServices)
    (hd : w.core d = some c) :
    Gains d c (w.newContext ipAddress offered) w
      (rsuDeviceAppendNewContext d ipAddress offered w) :=
  (gains_prvDeviceAppendNewContext ipAddress offered hd).trans_cosmetic
    (cosmetic_prvDeviceSubscribeContext d)

end Gains

/-! ## The invariant -/

/-- The contexts of all devices are distinct, and their proxies are their own
and live. -/
structure DevicesOk (w : World) : Prop where
  live : ∀ d c x p, w.core d = some c → x ∈ c.contexts → p ∈ x.serviceProxies.toList →
    p ∈ w.gupnp.proxies
  own : ∀ d c x p, w.core d = some c → x ∈ c.contexts → p ∈ x.serviceProxies.toList →
    p.context = x.id
  bound : ∀ d c x, w.core d = some c → x ∈ c.contexts → x.id < w.gupnp.nextContext
  distinct : ∀ d d' c c' x x', w.core d = some c → w.core d' = some c' → x ∈ c.contexts →
    x' ∈ c'.contexts → x.id = x'.id → d = d'
  nodup : ∀ d c, w.core d = some c → (c.contexts.map ContextCore.id).Nodup
  path : ∀ d c, w.core d = some c → c.path = rsuServerPath ++ "/" ++ toString d

section DevicesOk

variable {w w' : World} {d : Nat} {c : DeviceCore} {x : ContextCore}

theorem DevicesOk.congr (h : DevicesOk w) (hproxies : w'.gupnp.proxies = w.gupnp.proxies)
    (hnext : w'.gupnp.nextContext = w.gupnp.nextContext) (hcore : ∀ e, w'.core e = w.core e) :
    DevicesOk w' := by
  refine ⟨?_, ?_, ?_, ?_, ?_, ?_⟩
  · intro d c x p hd
    rw [hproxies]
    exact h.live d c x p (hcore d ▸ hd)
  · intro d c x p hd
    exact h.own d c x p (hcore d ▸ hd)
  · intro d c x hd
    rw [hnext]
    exact h.bound d c x (hcore d ▸ hd)
  · intro d d' c c' x x' hd hd'
    exact h.distinct d d' c c' x x' (hcore d ▸ hd) (hcore d' ▸ hd')
  · intro d c hd
    exact h.nodup d c (hcore d ▸ hd)
  · intro d c hd
    exact h.path d c (hcore d ▸ hd)

theorem DevicesOk.beside (h : DevicesOk w) (hb : Beside w w') : DevicesOk w' :=
  h.congr hb.proxies hb.nextContext hb.core

theorem DevicesOk.cosmetic (h : DevicesOk w) (hc : Cosmetic w w') : DevicesOk w' :=
  h.congr hc.proxies hc.nextContext hc.core

theorem DevicesOk.frees {gone : List ServiceProxy} (h : DevicesOk w) (hf : Frees gone w w')
    (hcore : ∀ e c', w'.core e = some c' →
      ∃ c, w.core e = some c ∧ c'.path = c.path ∧ c'.contexts.Sublist c.contexts)
    (hgone : ∀ e c' x p, w'.core e = some c' → x ∈ c'.contexts →
      p ∈ x.serviceProxies.toList → p ∉ gone) : DevicesOk w' := by
  refine ⟨?_, ?_, ?_, ?_, ?_, ?_⟩
  · intro d c' x p hd hx hp
    obtain ⟨c, hc, -, hsub⟩ := hcore d c' hd
    exact hf.mem_proxies.mpr ⟨h.live d c x p hc (hsub.subset hx) hp, hgone d c' x p hd hx hp⟩
  · intro d c' x p hd hx
    obtain ⟨c, hc, -, hsub⟩ := hcore d c' hd
    exact h.own d c x p hc (hsub.subset hx)
  · intro d c' x hd hx
    obtain ⟨c, hc, -, hsub⟩ := hcore d c' hd
    rw [hf.nextContext]
    exact h.bound d c x hc (hsub.subset hx)
  · intro d₁ d₂ c₁' c₂' x₁ x₂ h₁ h₂ hx₁ hx₂
    obtain ⟨c₁, hc₁, -, hsub₁⟩ := hcore d₁ c₁' h₁
    obtain ⟨c₂, hc₂, -, hsub₂⟩ := hcore d₂ c₂' h₂
    exact h.distinct d₁ d₂ c₁ c₂ x₁ x₂ hc₁ hc₂ (hsub₁.subset hx₁) (hsub₂.subset hx₂)
  · intro d c' hd
    obtain ⟨c, hc, -, hsub⟩ := hcore d c' hd
    exact (h.nodup d c hc).sublist (hsub.map _)
  · intro d c' hd
    obtain ⟨c, hc, hpath, -⟩ := hcore d c' hd
    rw [hpath]
    exact h.path d c hc

theorem DevicesOk.not_mem (h : DevicesOk w) {d' : Nat} {c' : DeviceCore} {x' : ContextCore}
    {p : ServiceProxy} (hd : w.core d = some c) (hd' : w.core d' = some c') (hx : x ∈ c.contexts)
    (hx' : x' ∈ c'.contexts) (hp : p ∈ x.serviceProxies.toList) (hne : x.id ≠ x'.id) :
    p ∉ x'.serviceProxies.toList := fun hp' =>
  hne ((h.own d c x p hd hx hp).symm.trans (h.own d' c' x' p hd' hx' hp'))

theorem DevicesOk.delete (h : DevicesOk w) (hd : w.core d = some c) :
    DevicesOk (rsuDeviceDelete d w) := by
  obtain ⟨hfree, hcore⟩ := frees_rsuDeviceDelete hd
  have hold : ∀ e c', (rsuDeviceDelete d w).core e = some c' → e ≠ d ∧ w.core e = some c' := by
    intro e c' he
    rw [hcore] at he
    split at he
    · simp at he
    next hne => exact ⟨hne, he⟩
  refine h.frees hfree (fun e c' he => ⟨c', (hold e c' he).2, rfl, .refl _⟩) ?_
  intro e c' x p he hx hp hgone
  obtain ⟨hne, he'⟩ := hold e c' he
  obtain ⟨x', hx', hp'⟩ := List.mem_flatMap.mp hgone
  refine h.not_mem he' hd hx hx' hp (fun hid => hne ?_) hp'
  exact h.distinct e d c' c x x' he' hd hx hx' hid

theorem DevicesOk.removeContext (h : DevicesOk w) {dev : Device} {context : DeviceContext}
    (hdev : w.devices d = some dev) {pred : DeviceContext → Bool}
    (hfind : dev.contexts.find? pred = some context) :
    DevicesOk (prvRsuContextDelete d context
      (w.setDevice d (some { dev with contexts := dev.contexts.eraseP pred }))) := by
  obtain ⟨hfree, hcore⟩ := frees_removeContext (w := w) d dev context
    (dev.contexts.eraseP pred)
  have hd : w.core d = some dev.core := core_of_device hdev
  have hmem : context.core ∈ dev.core.contexts :=
    List.mem_map_of_mem (List.mem_of_find?_eq_some hfind)
  have hpred : pred context = true := List.find?_some hfind
  refine h.frees hfree ?_ ?_
  · intro e c' he
    rw [hcore] at he
    split at he
    next hed =>
      obtain rfl := Option.some.inj he
      exact ⟨dev.core, hed ▸ hd, rfl, (List.eraseP_sublist).map _⟩
    · exact ⟨c', he, rfl, .refl _⟩
  · intro e c' x p he hx hp
    rw [hcore] at he
    split at he
    next hed =>
      obtain rfl := Option.some.inj he
      obtain ⟨context', hcontext', rfl⟩ := List.mem_map.mp hx
      have hx' : context'.core ∈ dev.core.contexts :=
        List.mem_map_of_mem ((List.eraseP_sublist).subset hcontext')
      refine h.not_mem hd hd hx' hmem hp fun hid => ?_
      -- the list splits at the context that `eraseP` drops
      obtain ⟨context'', l₁, l₂, hl₁, hp'', hsplit, herase⟩ :=
        List.exists_of_eraseP (List.mem_of_find?_eq_some hfind) hpred
      have hsame : context'' = context := by
        rw [hsplit, List.find?_append, List.find?_eq_none.mpr (by simpa using hl₁)] at hfind
        simpa [hp''] using hfind
      have hnodup := h.nodup d _ hd
      rw [Device.core, hsplit, hsame] at hnodup
      rw [herase] at hcontext'
      simp only [List.map_append, List.map_cons, List.map_map, List.nodup_append,
        List.nodup_cons] at hnodup
      rcases List.mem_append.mp hcontext' with hmem' | hmem'
      · exact hnodup.2.2 _ (List.mem_map_of_mem hmem') _ List.mem_cons_self hid
      · refine hnodup.2.1.1 ?_
        have hin : context'.core.id ∈ l₂.map (ContextCore.id ∘ DeviceContext.core) :=
          List.mem_map_of_mem (f := ContextCore.id ∘ DeviceContext.core) hmem'
        rwa [hid] at hin
    next hed =>
      refine h.not_mem he hd hx hmem hp fun hid => hed ?_
      exact h.distinct e d c' dev.core x context.core he hd hx hmem hid

theorem mem_getServices {context : Nat} {offered : DeviceServices} {p : ServiceProxy}
    (h : p ∈ (gupnpDeviceInfoGetServices context offered).toList) : p.context = context := by
  simp only [gupnpDeviceInfoGetServices, ServiceProxies.toList, List.mem_append,
    Option.mem_toList] at h
  rcases h with (h | h) | h <;> split at h <;> simp at h <;> rw [← h]

theorem DevicesOk.gains (h : DevicesOk w) {ipAddress : String} {offered : DeviceServices}
    (hg : Gains d c (w.newContext ipAddress offered) w w')
    (hc : w.core d = some c ∨ c.contexts = [])
    (hpath : c.path = rsuServerPath ++ "/" ++ toString d) : DevicesOk w' := by
  have hcase : ∀ e c' x, w'.core e = some c' → x ∈ c'.contexts →
      (∃ c₀, w.core e = some c₀ ∧ x ∈ c₀.contexts) ∨
        e = d ∧ x = w.newContext ipAddress offered := by
    intro e c' x he hx
    rw [hg.core] at he
    split at he
    next hed =>
      obtain rfl := Option.some.inj he
      rcases List.mem_append.mp hx with hx | hx
      · rcases hc with hc | hc
        · exact .inl ⟨c, hed ▸ hc, hx⟩
        · rw [hc] at hx
          simp at hx
      · exact .inr ⟨hed, List.mem_singleton.mp hx⟩
    · exact .inl ⟨c', he, hx⟩
  refine ⟨?_, ?_, ?_, ?_, ?_, ?_⟩
  · intro e c' x p he hx hp
    rw [hg.proxies]
    rcases hcase e c' x he hx with ⟨c₀, hc₀, hx₀⟩ | ⟨-, rfl⟩
    · exact List.mem_append_left _ (h.live e c₀ x p hc₀ hx₀ hp)
    · exact List.mem_append_right _ hp
  · intro e c' x p he hx hp
    rcases hcase e c' x he hx with ⟨c₀, hc₀, hx₀⟩ | ⟨-, rfl⟩
    · exact h.own e c₀ x p hc₀ hx₀ hp
    · exact mem_getServices hp
  · intro e c' x he hx
    rw [hg.nextContext]
    rcases hcase e c' x he hx with ⟨c₀, hc₀, hx₀⟩ | ⟨-, rfl⟩
    · exact Nat.lt_succ_of_lt (h.bound e c₀ x hc₀ hx₀)
    · exact Nat.lt_succ_self _
  · intro e e' c₁ c₂ x x' he he' hx hx' hid
    rcases hcase e c₁ x he hx with ⟨c₀, hc₀, hx₀⟩ | ⟨rfl, rfl⟩
    · rcases hcase e' c₂ x' he' hx' with ⟨c₀', hc₀', hx₀'⟩ | ⟨rfl, rfl⟩
      · exact h.distinct e e' c₀ c₀' x x' hc₀ hc₀' hx₀ hx₀' hid
      · exact absurd hid (Nat.ne_of_lt (h.bound e c₀ x hc₀ hx₀))
    · rcases hcase e' c₂ x' he' hx' with ⟨c₀', hc₀', hx₀'⟩ | ⟨rfl, -⟩
      · exact absurd hid.symm (Nat.ne_of_lt (h.bound e' c₀' x' hc₀' hx₀'))
      · rfl
  · intro e c' he
    rw [hg.core] at he
    split at he
    · obtain rfl := Option.some.inj he
      rw [List.map_append, List.nodup_append]
      refine ⟨?_, List.nodup_singleton _, ?_⟩
      · rcases hc with hc | hc
        · exact h.nodup d c hc
        · rw [hc]
          exact List.nodup_nil
      · intro i hi j hj hij
        obtain ⟨x, hx, rfl⟩ := List.mem_map.mp hi
        have hj' : j = w.gupnp.nextContext := by simpa [World.newContext] using hj
        rcases hc with hc | hc
        · exact Nat.ne_of_lt (h.bound d c x hc hx) (hij.trans hj')
        · rw [hc] at hx
          simp at hx
    · exact h.nodup e c' he
  · intro e c' he
    rw [hg.core] at he
    split at he
    next hed =>
      obtain rfl := Option.some.inj he
      rw [hed]
      exact hpath
    · exact h.path e c' he

end DevicesOk

/-! ## The preferred context -/

theorem withContext_cases (w : World) (d : Nat) :
    (∃ f : Fault, (∀ k, f ≠ .deadQueueKey k) ∧ ∀ g, w.withContext d g = w.crash f) ∨
      ∃ dev context, w.devices d = some dev ∧ rsuDeviceGetContext dev = some context := by
  cases hdev : w.devices d with
  | none =>
      refine .inl ⟨.deadDevice d, by simp, fun g => ?_⟩
      simp only [World.withContext, World.withDevice, hdev]
  | some dev =>
      cases hcontext : rsuDeviceGetContext dev with
      | none =>
          refine .inl ⟨.noContext d, by simp, fun g => ?_⟩
          simp only [World.withContext, World.withDevice, hdev, hcontext]
      | some context => exact .inr ⟨dev, context, rfl, hcontext⟩

theorem rsuDeviceGetContext_mem {dev : Device} {context : DeviceContext}
    (h : rsuDeviceGetContext dev = some context) :
    context ∈ dev.contexts := by
  unfold rsuDeviceGetContext at h
  split at h
  next c hfind =>
    obtain rfl := Option.some.inj h
    exact List.mem_of_find?_eq_some hfind
  · exact List.mem_of_mem_head? h

theorem ServiceProxies.mem_of_get {s : ServiceProxies} {kind : ServiceKind} {p : ServiceProxy}
    (h : s.get kind = some p) : p ∈ s.toList := by
  cases kind <;> simp_all [ServiceProxies.get, ServiceProxies.toList]

end RendererService
