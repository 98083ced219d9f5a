import RendererService.Service.Calm

/-!
# What a step does to services

A change first lets contexts come or go.  Then it subscribes one context, or it
unsubscribes the contexts of a device, runs the handlers of a lost subscription
or lets one retry timer fire.
-/

namespace RendererService

open Transition

variable {w w' w'' : World} {d e c : Nat} {x : DeviceContext} {kind : ServiceKind}

/-! ## Losing and giving up -/

theorem lostHandlers_prvSubscriptionLostCb (h : ProxyHandler) (w : World) :
    (prvSubscriptionLostCb h w).gupnp.lostHandlers = w.gupnp.lostHandlers := by
  unfold prvSubscriptionLostCb World.withDevice
  split
  · dsimp only
    split
    · rfl
    · split <;> rw [gupnp_modifyContext] <;> rfl
  · rfl

theorem service_foldl_lost (e c : Nat) (kind : ServiceKind) (l : List ProxyHandler) :
    ∀ w : World, (∀ h ∈ l, (w.context? h.device h.context).isSome) →
      (∀ h ∈ l, h.context = c → h.device = e) →
      (l.foldl (fun w h => prvSubscriptionLostCb h w) w).service e c kind =
        ServiceState.lost^[l.countP fun h => h.context = c ∧ h.kind = kind]
          (w.service e c kind) := by
  induction l with
  | nil => exact fun w _ _ => rfl
  | cons h l ih =>
      intro w hlive howner
      obtain ⟨hhead, htail⟩ := List.forall_mem_cons.mp hlive
      obtain ⟨x, hx⟩ := Option.isSome_iff_exists.mp hhead
      have hspec := prvSubscriptionLostCb_spec hx
      have hlive' :
          ∀ h' ∈ l, ((prvSubscriptionLostCb h w).context? h'.device h'.context).isSome := by
        intro h' hmem
        rw [(cosmetic_prvSubscriptionLostCb h).context?_isSome]
        exact htail h' hmem
      rw [List.foldl_cons, ih _ hlive' fun h' hmem => howner h' (List.mem_cons_of_mem h hmem),
        List.countP_cons]
      by_cases hc : h.context = c
      · have he : h.device = e := howner h List.mem_cons_self hc
        have hown := hspec.own kind
        rw [he, hc] at hown
        rw [hown]
        by_cases hkind : kind = h.kind
        · rw [if_pos (by simp [hc, hkind]), hkind, ServiceState.only_self,
            Function.iterate_succ_apply]
        · rw [if_neg (by simp [hc, Ne.symm hkind]), ServiceState.only_of_ne hkind, Nat.add_zero]
      · rw [hspec.others e c kind fun heq => hc heq.symm, if_neg (by simp [hc]), Nat.add_zero]

/-- How many handlers for a service of a context run when a proxy loses its
subscription. -/
def World.losses (w : World) (proxy : ServiceProxy) (c : Nat) (kind : ServiceKind) : Nat :=
  (w.wired c).countP fun h => h.proxy = proxy ∧ h.kind = kind

theorem service_subscriptionLost (hok : ContextsOk w) (hsome : (w.context? e c).isSome)
    (proxy : ServiceProxy) (kind : ServiceKind) :
    (exec w (.subscriptionLost proxy)).service e c kind =
      ServiceState.lost^[w.losses proxy c kind]
        (if proxy = ⟨c, kind⟩ then (w.service e c kind).drop else w.service e c kind) := by
  let w₁ := gupnpServiceProxySetSubscribed proxy false w
  let l := w.gupnp.lostHandlers.filter fun h => h.proxy = proxy
  have hcontext : ∀ e c, w₁.context? e c = w.context? e c := fun e c => rfl
  have hlive : ∀ h ∈ l, (w.context? h.device h.context).isSome ∧ h.proxy.context = h.context :=
    fun h hmem => hok.live_attached (hok.attached.lostHandlers h (List.mem_filter.mp hmem).1)
  have howner : ∀ h ∈ l, h.context = c → h.device = e := by
    rintro h hmem rfl
    exact hok.owner hsome (hlive h hmem).1
  have hfold := service_foldl_lost e c kind l w₁ (fun h hmem => (hlive h hmem).1) howner
  have hdrop : w₁.service e c kind =
      if proxy = ⟨c, kind⟩ then (w.service e c kind).drop else w.service e c kind := by
    have halters := alters_setSubscribed w e proxy.context proxy.kind false
    split
    next heq =>
      subst heq
      exact (halters.own kind).trans (ServiceState.only_self _ _ _)
    next hne =>
      by_cases hc : proxy.context = c
      · have hkind : kind ≠ proxy.kind := fun hkind => hne (by rw [← hc, hkind])
        have hown := halters.own kind
        rw [ServiceState.only_of_ne hkind, hc] at hown
        have hname : w₁ = gupnpServiceProxySetSubscribed ⟨c, proxy.kind⟩ false w := by rw [← hc]
        rw [hname]
        exact hown
      · exact halters.others e c kind fun heq => hc heq.symm
  have hcount : (l.countP fun h => h.context = c ∧ h.kind = kind) = w.losses proxy c kind := by
    rw [World.losses, World.wired, List.countP_filter, List.countP_filter]
    refine List.countP_congr fun h _ => ?_
    simp only [Bool.decide_and, Bool.and_eq_true, decide_eq_true_eq]
    tauto
  show (l.foldl (fun w h => prvSubscriptionLostCb h w) w₁).service e c kind = _
  rw [hfold, hdrop, hcount]

theorem lostHandlers_subscriptionLost (w : World) (proxy : ServiceProxy) :
    (exec w (.subscriptionLost proxy)).gupnp.lostHandlers = w.gupnp.lostHandlers := by
  have hfold : ∀ (l : List ProxyHandler) (w : World),
      (l.foldl (fun w h => prvSubscriptionLostCb h w) w).gupnp.lostHandlers =
        w.gupnp.lostHandlers := by
    intro l
    induction l with
    | nil => exact fun w => rfl
    | cons h l ih => exact fun w => (ih _).trans (lostHandlers_prvSubscriptionLostCb h w)
  exact hfold _ _

theorem lostHandlers_retryTimer (w : World) (r : ProxyHandler) :
    (exec w (.retryTimer r)).gupnp.lostHandlers = w.gupnp.lostHandlers := by
  show (prvReEnableSubscription r _).gupnp.lostHandlers = _
  unfold prvReEnableSubscription World.withDevice
  split
  · dsimp only
    split
    · rfl
    · rw [gupnp_modifyContext]
      rfl
  · rfl

theorem ContextsOk.retry_eq (hok : ContextsOk w) {r : ProxyHandler} (hr : r ∈ w.loop.retryTimers)
    (hsome : (w.context? e c).isSome) (hc : r.context = c) : r = serviceHandler e c r.kind := by
  obtain ⟨hproxy, dev, x, hdev, hmem, hid, -⟩ := hok.attached.retry r hr
  have hcontext := hok.context? hdev hmem
  rw [hid, hc] at hcontext
  have he : r.device = e := hok.owner hsome (Option.isSome_of_eq_some hcontext)
  rw [serviceHandler, ← hc, ← hproxy, ← he]

theorem service_retryTimer (hok : ContextsOk w) {r : ProxyHandler} (hr : r ∈ w.loop.retryTimers)
    (hsome : (w.context? e c).isSome) (kind : ServiceKind) :
    (exec w (.retryTimer r)).service e c kind =
      if r.context = c ∧ r.kind = kind then (w.service e c kind).expire
      else w.service e c kind := by
  have hremembered := hok.attached.retry r hr
  have hspec := retryTimer_spec hremembered hok
  by_cases hc : r.context = c
  · have he : r.device = e := congrArg ProxyHandler.device (hok.retry_eq hr hsome hc)
    have hown := hspec.own kind
    rw [he, hc] at hown
    rw [hown]
    by_cases hkind : r.kind = kind
    · rw [if_pos ⟨hc, hkind⟩, hkind, ServiceState.only_self]
    · rw [if_neg fun hboth => hkind hboth.2, ServiceState.only_of_ne (Ne.symm hkind)]
  · rw [if_neg fun hboth => hc hboth.1, hspec.others e c kind fun heq => hc heq.symm]

/-! ## Unsubscribing a device -/

theorem service_foldl_unsubscribe (d : Nat) (kind : ServiceKind) (l : List DeviceContext) :
    ∀ w : World, (l.map DeviceContext.id).Nodup → (∀ x ∈ l, w.Shows d x) →
      (∀ c ∉ l.map DeviceContext.id, ∀ e,
        (l.foldl (fun w x => prvRsuContextUnsubscribe d x w) w).service e c kind =
          w.service e c kind) ∧
      ∀ c ∈ l.map DeviceContext.id,
        (l.foldl (fun w x => prvRsuContextUnsubscribe d x w) w).service d c kind =
          (w.service d c kind).unsubscribe := by
  induction l with
  | nil => exact fun w _ _ => ⟨fun _ _ _ => rfl, fun c hc => absurd hc List.not_mem_nil⟩
  | cons x l ih =>
      intro w hnodup hshows
      rw [List.map_cons, List.nodup_cons] at hnodup
      obtain ⟨hx, hl⟩ := List.forall_mem_cons.mp hshows
      have hspec := alters_prvRsuContextUnsubscribe hx
      have hl' : ∀ y ∈ l, (prvRsuContextUnsubscribe d x w).Shows d y := by
        intro y hy
        have hne : y.id ≠ x.id := fun heq => hnodup.1 (heq ▸ List.mem_map_of_mem hy)
        constructor
        · rw [(cosmetic_prvRsuContextUnsubscribe d x).context?_isSome]
          exact (hl y hy).isSome
        · intro kind'
          rw [hspec.others d y.id kind' hne]
          exact (hl y hy).flags kind'
      obtain ⟨hothers, hown⟩ := ih (prvRsuContextUnsubscribe d x w) hnodup.2 hl'
      constructor
      · intro c hc e
        rw [List.map_cons, List.mem_cons, not_or] at hc
        exact (hothers c hc.2 e).trans (hspec.others e c kind hc.1)
      · intro c hc
        rw [List.map_cons, List.mem_cons] at hc
        by_cases heq : c = x.id
        · rw [List.foldl_cons, hothers c (heq ▸ hnodup.1) d, heq, hspec.own]
        · rw [List.foldl_cons, hown c (hc.resolve_left heq), hspec.others d c kind heq]

theorem service_rsuDeviceUnsubscribe (hok : ContextsOk w) (hsome : (w.context? e c).isSome)
    (d : Nat) (kind : ServiceKind) :
    (rsuDeviceUnsubscribe d w).service e c kind =
      if e = d then (w.service e c kind).unsubscribe else w.service e c kind := by
  unfold rsuDeviceUnsubscribe World.withDevice
  obtain ⟨x, hx⟩ := Option.isSome_iff_exists.mp hsome
  obtain ⟨dev', hdev', hmem', hid'⟩ := context?_some hx
  split
  next dev hdev =>
    obtain ⟨hothers, hown⟩ := service_foldl_unsubscribe d kind dev.contexts w (hok.nodup hdev)
      fun x hx => .of_context (hok.context? hdev hx)
    split
    next he =>
      subst he
      obtain rfl : dev = dev' := Option.some.inj (hdev.symm.trans hdev')
      exact hown c (List.mem_map.mpr ⟨x, hmem', hid'⟩)
    next he =>
      refine hothers c (fun hmem => he ?_) e
      obtain ⟨y, hy, rfl⟩ := List.mem_map.mp hmem
      exact hok.owner (Option.isSome_of_eq_some (hok.context? hdev hy)) hsome
  next hnone =>
    split
    next he =>
      subst he
      rw [hdev'] at hnone
      simp at hnone
    · rfl

theorem lostHandlers_rsuDeviceUnsubscribe (d : Nat) (w : World) :
    (rsuDeviceUnsubscribe d w).gupnp.lostHandlers = w.gupnp.lostHandlers := by
  have hfold : ∀ (l : List DeviceContext) (w : World),
      (l.foldl (fun w x => prvRsuContextUnsubscribe d x w) w).gupnp.lostHandlers =
        w.gupnp.lostHandlers := by
    intro l
    induction l with
    | nil => exact fun w => rfl
    | cons x l ih => exact fun w => (ih _).trans (lostHandlers_prvRsuContextUnsubscribe w d x)
  unfold rsuDeviceUnsubscribe World.withDevice
  split
  · exact hfold _ _
  · rfl

/-! ## The preferred context -/

/-- The preferred context, found from the order and the addresses alone. -/
def DeviceCore.preferred (core : DeviceCore) : Option ContextCore :=
  let isLocal (context : ContextCore) : Bool :=
    DeviceContext.isLocal ⟨context.id, context.ipAddress, context.serviceProxies,
      false, false, false, false, false, false⟩
  (core.contexts.find? isLocal).or core.contexts.head?

theorem rsuDeviceGetContext_core (dev : Device) :
    (rsuDeviceGetContext dev).map DeviceContext.core = dev.core.preferred := by
  unfold rsuDeviceGetContext DeviceCore.preferred Device.core
  dsimp only
  rw [List.find?_map, List.head?_map]
  have hlocal : ((fun context : ContextCore => DeviceContext.isLocal ⟨context.id,
      context.ipAddress, context.serviceProxies, false, false, false, false, false, false⟩) ∘
        DeviceContext.core) = DeviceContext.isLocal := rfl
  rw [hlocal]
  cases dev.contexts.find? DeviceContext.isLocal <;> rfl

def World.preferred? (w : World) (d : Nat) : Option Nat :=
  ((w.core d).bind DeviceCore.preferred).map ContextCore.id

theorem preferred?_eq {dev : Device} (hdev : w.devices d = some dev) :
    w.preferred? d = (rsuDeviceGetContext dev).map DeviceContext.id := by
  rw [World.preferred?, World.core, hdev, Option.map_some, Option.bind_some,
    ← rsuDeviceGetContext_core, Option.map_map]
  rfl

theorem Cosmetic.preferred? (h : Cosmetic w w') (d : Nat) : w'.preferred? d = w.preferred? d := by
  rw [World.preferred?, World.preferred?, h.core]

/-- A change of what does not matter keeps the preferred context, with its proxies. -/
theorem Cosmetic.getContext {dev : Device} (h : Cosmetic w w') (hdev : w.devices d = some dev)
    (hx : rsuDeviceGetContext dev = some x) :
    ∃ dev' x', w'.devices d = some dev' ∧ rsuDeviceGetContext dev' = some x' ∧
      x'.core = x.core := by
  have hcore : w.core d = some dev.core := core_of_device hdev
  obtain ⟨dev', hdev', hsame⟩ := Option.map_eq_some_iff.mp ((h.core d).trans hcore)
  have hmap := rsuDeviceGetContext_core dev'
  rw [hsame, ← rsuDeviceGetContext_core, hx, Option.map_some] at hmap
  obtain ⟨x', hx', hxx⟩ := Option.map_eq_some_iff.mp hmap
  exact ⟨dev', x', hdev', hx', hxx⟩

/-! ## Attempts -/

/-- The services that a context offers are subscribed, and nothing else is. -/
structure Attempts (d : Nat) (x : DeviceContext) (w w' : World) : Prop where
  own : ∀ kind, w'.service d x.id kind =
    if x.present kind then (w.service d x.id kind).subscribe else w.service d x.id kind
  others : ∀ e c kind, (w.context? e c).isSome → c ≠ x.id →
    w'.service e c kind = w.service e c kind ∨
      w'.service e c kind = (w.service e c kind).unsubscribe
  lostHandlers : w'.gupnp.lostHandlers = w.gupnp.lostHandlers ++ x.wiring d

theorem attempts_fire {id : Nat} {dev : Device} (hok : ContextsOk w)
    (hdev : w.devices d = some dev) (hpreferred : rsuDeviceGetContext dev = some x) :
    Attempts d x w (exec w (.subscribeTimer id d)) ∧
      ∀ e c kind, c ≠ x.id →
        (exec w (.subscribeTimer id d)).service e c kind = w.service e c kind := by
  let w₁ := w.setSubscribeTimers (w.loop.subscribeTimers.erase (id, d))
  let dev' : Device := { dev with timeoutId := 0 }
  let w₂ := w₁.setDevice d (some dev')
  have hcontext : ∀ e c, w₂.context? e c = w.context? e c :=
    context?_setDevice_same (w := w₁) dev' hdev rfl
  have hsame : ∀ e c kind, w₂.service e c kind = w.service e c kind :=
    fun e c kind => ServiceState.ext (congrArg (Option.any _) (hcontext e c))
      (congrArg (Option.any _) (hcontext e c)) rfl rfl rfl
  have hdev₂ : w₂.devices d = some dev' := if_pos rfl
  have hx := hok.context? hdev (rsuDeviceGetContext_mem hpreferred)
  have hsome₂ : (w₂.context? d x.id).isSome := by rw [hcontext, hx, Option.isSome_some]
  obtain ⟨hservice, hlost⟩ := rsuDeviceSubscribeToServiceChanges_spec hdev₂
    (show rsuDeviceGetContext dev' = some x from hpreferred) hsome₂
  have heq : exec w (.subscribeTimer id d) = rsuDeviceSubscribeToServiceChanges d w₂ := by
    show prvSubscribeToServiceChanges d w₁ = _
    have hdev₁ : w₁.devices d = some dev := hdev
    simp only [prvSubscribeToServiceChanges, World.withDevice, hdev₁]
    rfl
  have hothers : ∀ e c kind, c ≠ x.id →
      (exec w (.subscribeTimer id d)).service e c kind = w.service e c kind := by
    intro e c kind hc
    rw [heq, hservice.others e c kind hc, hsame]
  refine ⟨⟨fun kind => ?_, fun e c kind _ hc => .inl (hothers e c kind hc), ?_⟩, hothers⟩
  · rw [heq, hservice.own, hsame]
  · rw [heq, hlost]
    rfl

/-- The timer of a device without contexts finds nothing to subscribe. -/
theorem fire_eq_crash {id : Nat} {dev : Device} (hdev : w.devices d = some dev)
    (hnone : rsuDeviceGetContext dev = none) :
    exec w (.subscribeTimer id d) =
      ((w.setSubscribeTimers (w.loop.subscribeTimers.erase (id, d))).setDevice d
        (some { dev with timeoutId := 0 })).crash (.noContext d) := by
  let w₁ := w.setSubscribeTimers (w.loop.subscribeTimers.erase (id, d))
  let dev' : Device := { dev with timeoutId := 0 }
  let w₂ := w₁.setDevice d (some dev')
  have hdev₁ : w₁.devices d = some dev := hdev
  have hdev₂ : w₂.devices d = some dev' := if_pos rfl
  have hnone₂ : rsuDeviceGetContext dev' = none := hnone
  show prvSubscribeToServiceChanges d w₁ = _
  simp only [prvSubscribeToServiceChanges, World.withDevice, hdev₁]
  show rsuDeviceSubscribeToServiceChanges d w₂ = _
  simp only [rsuDeviceSubscribeToServiceChanges, World.withContext, World.withDevice, hdev₂,
    hnone₂]
  rfl

theorem fire_none {id : Nat} {dev : Device} (hdev : w.devices d = some dev)
    (hnone : rsuDeviceGetContext dev = none) :
    ServicesStay w (exec w (.subscribeTimer id d)) := by
  let w₁ := w.setSubscribeTimers (w.loop.subscribeTimers.erase (id, d))
  let dev' : Device := { dev with timeoutId := 0 }
  have hcontext : ∀ e c, (w₁.setDevice d (some dev')).context? e c = w.context? e c :=
    context?_setDevice_same (w := w₁) dev' hdev rfl
  rw [fire_eq_crash hdev hnone]
  exact .of_same hcontext rfl rfl rfl rfl

theorem prvDeviceGetSubscribedContext_none {dev : Device}
    (h : prvDeviceGetSubscribedContext dev = none) (hx : x ∈ dev.contexts) :
    x.subscribed kind = false := by
  have hnone := List.find?_eq_none.mp h x hx
  cases kind <;> simp_all [DeviceContext.subscribed]

theorem prvDeviceGetSubscribedContext_some {dev : Device}
    (h : prvDeviceGetSubscribedContext dev = some x) :
    x ∈ dev.contexts ∧ ∃ kind, x.subscribed kind = true := by
  refine ⟨List.mem_of_find?_eq_some h, ?_⟩
  have hsome := List.find?_some h
  rw [Bool.or_eq_true, Bool.or_eq_true] at hsome
  obtain (hav | hcm) | hrc := hsome
  · exact ⟨.av, hav⟩
  · exact ⟨.cm, hcm⟩
  · exact ⟨.rc, hrc⟩

/-- A device that has no context to subscribe, or that subscribes its preferred one
already, is left alone. -/
theorem prvDeviceSubscribeContext_none (h : w.attempt d = none) :
    ServicesStay w (prvDeviceSubscribeContext d w) := by
  have hcrash : ∀ f, ServicesStay w (w.crash f) :=
    fun f => .of_same (fun _ _ => rfl) rfl rfl rfl rfl
  have hnone : (w.devices d).bind Device.attempt = none := by simpa [World.attempt] using h
  unfold prvDeviceSubscribeContext World.withContext World.withDevice
  cases hdev : w.devices d with
  | none => exact hcrash _
  | some dev =>
      rw [hdev, Option.bind_some] at hnone
      dsimp only
      cases hpreferred : rsuDeviceGetContext dev with
      | none => exact hcrash _
      | some preferred =>
          rw [Device.attempt, hpreferred] at hnone
          dsimp only
          split
          next hsubscribed => simp [hsubscribed] at hnone
          next subscribed hsubscribed =>
            rw [hsubscribed] at hnone
            dsimp only at hnone
            split at hnone
            next hsame =>
              rw [if_pos hsame]
              exact .of_same (fun _ _ => rfl) rfl rfl rfl rfl
            · simp at hnone

theorem attempt_some {e : Nat} (h : w.attempt d = some (e, x)) :
    e = d ∧ ∃ dev, w.devices d = some dev ∧ rsuDeviceGetContext dev = some x ∧
      ∀ y, prvDeviceGetSubscribedContext dev = some y → y.id ≠ x.id := by
  obtain ⟨y, hy, heq⟩ := Option.map_eq_some_iff.mp h
  obtain ⟨rfl, rfl⟩ := Prod.mk.inj heq
  obtain ⟨dev, hdev, hattempt⟩ := Option.bind_eq_some_iff.mp hy
  refine ⟨rfl, dev, hdev, ?_⟩
  unfold Device.attempt at hattempt
  split at hattempt
  next preferred subscribed hpreferred hsubscribed =>
    split at hattempt
    · simp at hattempt
    next hne =>
      obtain rfl := Option.some.inj hattempt
      refine ⟨hpreferred, fun z hz => ?_⟩
      obtain rfl := Option.some.inj (hsubscribed.symm.trans hz)
      exact hne
  next hnone =>
    refine ⟨hattempt, fun z hz => ?_⟩
    exact absurd hz (hnone _ _ hattempt)

/-- The preferred context of a device is subscribed, in the place of another one. -/
theorem attempts_prvDeviceSubscribeContext (hok : ContextsOk w) {dev : Device}
    (hdev : w.devices d = some dev) (hpreferred : rsuDeviceGetContext dev = some x)
    (hother : ∀ y, prvDeviceGetSubscribedContext dev = some y → y.id ≠ x.id) :
    Attempts d x w (prvDeviceSubscribeContext d w) ∧
      ∀ c kind, (w.context? d c).isSome → c ≠ x.id →
        ((prvDeviceSubscribeContext d w).service d c kind).subscribed = true →
          ∃ c' kind', c' ≠ c ∧ (w.service d c' kind').subscribed = true := by
  have hx := hok.context? hdev (rsuDeviceGetContext_mem hpreferred)
  cases hsubscribed : prvDeviceGetSubscribedContext dev with
  | none =>
      have heq : prvDeviceSubscribeContext d w = rsuDeviceSubscribeToServiceChanges d w := by
        simp only [prvDeviceSubscribeContext, World.withContext, World.withDevice, hdev,
          hpreferred, hsubscribed]
      obtain ⟨hservice, hlost⟩ := rsuDeviceSubscribeToServiceChanges_spec hdev hpreferred
        (Option.isSome_of_eq_some hx)
      rw [heq]
      refine ⟨⟨hservice.own, fun e c kind _ hc => .inl (hservice.others e c kind hc), hlost⟩, ?_⟩
      intro c kind hsome hc htrue
      obtain ⟨y, hy⟩ := Option.isSome_iff_exists.mp hsome
      obtain ⟨dev', hdev', hmem, -⟩ := context?_some hy
      obtain rfl : dev = dev' := Option.some.inj (hdev.symm.trans hdev')
      rw [hservice.others d c kind hc, (service_of_context hy kind).1,
        prvDeviceGetSubscribedContext_none hsubscribed hmem] at htrue
      simp at htrue
  | some y =>
      have hne := hother y hsubscribed
      obtain ⟨hmem, kind₀, hkind₀⟩ := prvDeviceGetSubscribedContext_some hsubscribed
      have hy := hok.context? hdev hmem
      let w₁ := prvRsuContextUnsubscribe d y w
      have hstop := alters_prvRsuContextUnsubscribe (.of_context hy)
      have hcosmetic : Cosmetic w w₁ := cosmetic_prvRsuContextUnsubscribe d y
      have heq : prvDeviceSubscribeContext d w = rsuDeviceSubscribeToServiceChanges d w₁ := by
        simp only [prvDeviceSubscribeContext, World.withContext, World.withDevice, hdev,
          hpreferred, hsubscribed, if_neg hne]
        rfl
      obtain ⟨dev₁, x₁, hdev₁, hpreferred₁, hcore⟩ := hcosmetic.getContext hdev hpreferred
      have hid : x₁.id = x.id := congrArg ContextCore.id hcore
      have hproxies : x₁.serviceProxies = x.serviceProxies :=
        congrArg ContextCore.serviceProxies hcore
      have hsome₁ : (w₁.context? d x₁.id).isSome := by
        rw [hcosmetic.context?_isSome, hid]
        exact Option.isSome_of_eq_some hx
      obtain ⟨hservice, hlost⟩ := rsuDeviceSubscribeToServiceChanges_spec hdev₁ hpreferred₁ hsome₁
      have hwiring : x₁.wiring d = x.wiring d := by
        unfold DeviceContext.wiring DeviceContext.present
        rw [hproxies, hid]
      have hpresent : x₁.present = x.present := by
        funext kind
        rw [DeviceContext.present, DeviceContext.present, hproxies]
      rw [hid, hpresent] at hservice
      rw [hwiring] at hlost
      rw [heq]
      refine ⟨⟨fun kind => ?_, fun e c kind hsome hc => ?_, ?_⟩, ?_⟩
      · rw [hservice.own, hstop.others d x.id kind (Ne.symm hne)]
      · rw [hservice.others e c kind hc]
        by_cases hcy : c = y.id
        · subst hcy
          obtain rfl : e = d := hok.owner (Option.isSome_of_eq_some hy) hsome
          exact .inr (hstop.own kind)
        · exact .inl (hstop.others e c kind hcy)
      · rw [hlost, lostHandlers_prvRsuContextUnsubscribe]
      · intro c kind hsome hc htrue
        refine ⟨y.id, kind₀, ?_, ?_⟩
        · rintro rfl
          rw [hservice.others d y.id kind hc, hstop.own,
            ServiceState.unsubscribe_subscribed] at htrue
          simp at htrue
        · rw [(service_of_context hy kind₀).1, hkind₀]

/-! ## Every change -/

/-- The state of a service after its subscription was given up or lost, or its retry
timer fired. -/
inductive ServiceState.Gives (s : ServiceState) : ServiceState → Prop
  | same : Gives s s
  | unsubscribe : Gives s s.unsubscribe
  | expire : 0 < s.timers → Gives s s.expire
  | lost (n : Nat) : Gives s (ServiceState.lost^[n] s)
  | drop (n : Nat) : Gives s (ServiceState.lost^[n] s.drop)

/-- Subscriptions are given up, and nothing else happens to contexts. -/
structure GivesUp (w w' : World) : Prop where
  core : ∀ d, w'.core d = w.core d
  lostHandlers : w'.gupnp.lostHandlers = w.gupnp.lostHandlers
  service : ∀ e c kind, (w.context? e c).isSome →
    (w.service e c kind).Gives (w'.service e c kind)

/-- What the second half of a change does, after contexts have come or gone. -/
inductive ServiceMoves (w₀ : World) (act : ConnectAct) (w : World) : World → Prop
  | stay : ServiceMoves w₀ act w w
  | giveUp {w' : World} : GivesUp w w' → ServiceMoves w₀ act w w'
  | attempt {w' : World} {d : Nat} {x : DeviceContext} : act.attempt? w₀ = some (d, x) →
      w.gupnp.lostHandlers = w₀.gupnp.lostHandlers → w.context? d x.id = some x →
      (∀ d, w'.core d = w.core d) → Attempts d x w w' → ServiceMoves w₀ act w w'

theorem ServiceMoves.settle (w₀ : World) (act : ConnectAct) (hok : ContextsOk w)
    (hattempt : act.attempt? w₀ = w.attempt d)
    (hlost : w.gupnp.lostHandlers = w₀.gupnp.lostHandlers) :
    ∃ w₁, ContextsOk w₁ ∧ ServicesStay w w₁ ∧ (∀ d, w₁.core d = w.core d) ∧
      ServiceMoves w₀ act w₁ (prvDeviceSubscribeContext d w) := by
  have hcosmetic : Cosmetic w (prvDeviceSubscribeContext d w) :=
    cosmetic_prvDeviceSubscribeContext d
  cases hfound : w.attempt d with
  | none =>
      exact ⟨_, hok.connects (.settle d), prvDeviceSubscribeContext_none hfound,
        hcosmetic.core, .stay⟩
  | some found =>
      obtain ⟨e, x⟩ := found
      obtain ⟨rfl, dev, hdev, hpreferred, hother⟩ := attempt_some hfound
      exact ⟨w, hok, .of_same (fun _ _ => rfl) rfl rfl rfl rfl, fun _ => rfl,
        .attempt (hattempt.trans hfound) hlost
          (hok.context? hdev (rsuDeviceGetContext_mem hpreferred)) hcosmetic.core
          (attempts_prvDeviceSubscribeContext hok hdev hpreferred hother).1⟩

/-- First contexts come or go, then one is subscribed or subscriptions are given up. -/
theorem Connects.moves {act : ConnectAct} (hok : ContextsOk w) (hstep : Connects w act w') :
    ∃ w₁, ContextsOk w₁ ∧ ServicesStay w w₁ ∧ ContextsFrom w w₁ ∧ ServiceMoves w act w₁ w' := by
  have hok' := hok.connects hstep
  have hstep' := hstep
  have hhere : ServicesStay w w ∧ ContextsFrom w w :=
    ⟨.of_same (fun _ _ => rfl) rfl rfl rfl rfl, .of_core fun _ => rfl⟩
  cases hstep with
  | @extend d dev ipAddress offered hdev =>
      have hstay := servicesStay_append hdev ipAddress offered
      have hfrom := contextsFrom_append hdev ipAddress offered
      have hlost : (prvDeviceAppendNewContext d ipAddress offered w).gupnp.lostHandlers =
          w.gupnp.lostHandlers := by
        simp only [prvDeviceAppendNewContext, prvContextNew, World.withDevice, hdev]
        rfl
      obtain ⟨w₁, hok₁, hstay₁, hcore, hmoves⟩ := ServiceMoves.settle w
        (.extend d ipAddress offered) (d := d) (hok.append hdev ipAddress offered) rfl hlost
      refine ⟨w₁, hok₁, hstay.trans hstay₁ fun e c hsome => ?_, fun e k hk => ?_, hmoves⟩
      · rwa [context?_isSome, hcore, ← context?_isSome] at hsome
      · exact hfrom e k (hcore e ▸ hk)
  | settle d =>
      obtain ⟨w₁, hok₁, hstay, hcore, hmoves⟩ :=
        ServiceMoves.settle w (.settle d) (d := d) hok rfl rfl
      exact ⟨w₁, hok₁, hstay, .of_core hcore, hmoves⟩
  | @fire id d hmem =>
      obtain ⟨dev, hdev, -⟩ := Option.map_eq_some_iff.mp (hok.attached.subscribe _ hmem).2
      have htimer : Cosmetic w (w.setSubscribeTimers (w.loop.subscribeTimers.erase (id, d))) :=
        cosmetic_setSubscribeTimers _
      have hcosmetic : Cosmetic w (exec w (.subscribeTimer id d)) :=
        htimer.trans (cosmetic_prvSubscribeToServiceChanges d)
      cases hpreferred : rsuDeviceGetContext dev with
      | none => exact ⟨_, hok', fire_none hdev hpreferred, .of_core hcosmetic.core, .stay⟩
      | some x =>
          have hattempt : (ConnectAct.fire id d).attempt? w = some (d, x) := by
            simp only [ConnectAct.attempt?, hdev, Option.bind_some, hpreferred, Option.map_some]
          exact ⟨w, hok, hhere.1, hhere.2, .attempt hattempt rfl
            (hok.context? hdev (rsuDeviceGetContext_mem hpreferred)) hcosmetic.core
            (attempts_fire hok hdev hpreferred).1⟩
  | lose proxy =>
      have hcosmetic : Cosmetic w (exec w (.subscriptionLost proxy)) :=
        cosmetic_subscriptionLost proxy w
      refine ⟨w, hok, hhere.1, hhere.2, .giveUp ⟨hcosmetic.core,
        lostHandlers_subscriptionLost w proxy,
        fun e c kind hsome => ?_⟩⟩
      rw [service_subscriptionLost hok hsome]
      split
      · exact .drop _
      · exact .lost _
  | @expire r hmem =>
      have htimer : Cosmetic w (w.setRetryTimers (w.loop.retryTimers.erase r)) :=
        cosmetic_setRetryTimers _
      have hcosmetic : Cosmetic w (exec w (.retryTimer r)) :=
        htimer.trans (cosmetic_prvReEnableSubscription r)
      refine ⟨w, hok, hhere.1, hhere.2, .giveUp ⟨hcosmetic.core, lostHandlers_retryTimer w r,
        fun e c kind hsome => ?_⟩⟩
      rw [service_retryTimer hok hmem hsome]
      split
      next hown =>
        refine .expire (List.count_pos_iff.mpr ?_)
        rwa [← hown.2, ← hok.retry_eq hmem hsome hown.1]
      · exact .same
  | unsubscribe d =>
      refine ⟨w, hok, hhere.1, hhere.2, .giveUp ⟨(cosmetic_rsuDeviceUnsubscribe d).core,
        lostHandlers_rsuDeviceUnsubscribe d w, fun e c kind hsome => ?_⟩⟩
      rw [service_rsuDeviceUnsubscribe hok hsome]
      split
      · exact .unsubscribe
      · exact .same
  | _ => exact ⟨_, hok', hstep'.servicesStay hok rfl, hstep'.contextsFrom rfl, .stay⟩

end RendererService
