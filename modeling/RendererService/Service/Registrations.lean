import RendererService.Service.Preferred

/-!
# Registrations

A notify callback belongs to one service, and counts once for its flag, as long as
no context is subscribed while it is subscribed already, or a second time.  The
handlers of "subscription-lost" are never disconnected: a context that is
subscribed again, or that offers both av and rc, has two of them on one proxy.
-/

namespace RendererService

open Transition

variable {w w' w'' : World} {d e c : Nat} {x : DeviceContext} {kind : ServiceKind} {i : Input}

/-! ## Notify callbacks are named after their service -/

/-- The callback is registered on the proxy of the service it is for. -/
def ProxyHandler.Named (n : ProxyHandler) : Prop := n = serviceHandler n.device n.context n.kind

/-- The callbacks that are new are named after their service, and the timers of the
devices stay. -/
structure Rewires (w w' : World) : Prop where
  notifies : ∀ n ∈ w'.gupnp.notifies, n ∈ w.gupnp.notifies ∨ n.Named
  timeoutId : ∀ e, w'.timeoutId e = w.timeoutId e

namespace Rewires

theorem refl : Rewires w w := ⟨fun _ hn => .inl hn, fun _ => rfl⟩

theorem trans (h : Rewires w w') (h' : Rewires w' w'') : Rewires w w'' := by
  refine ⟨fun n hn => ?_, fun e => (h'.timeoutId e).trans (h.timeoutId e)⟩
  rcases h'.notifies n hn with hold | hnamed
  · exact h.notifies n hold
  · exact .inr hnamed

theorem of_eq (hnotifies : w'.gupnp.notifies = w.gupnp.notifies)
    (hdevices : w'.devices = w.devices) : Rewires w w' := by
  refine ⟨fun n hn => ?_, fun e => by rw [World.timeoutId, World.timeoutId, hdevices]⟩
  rw [hnotifies] at hn
  exact .inl hn

theorem foldl {α : Type} {f : World → α → World} (hf : ∀ w a, Rewires w (f w a))
    (l : List α) : ∀ w, Rewires w (l.foldl f w) := by
  induction l with
  | nil => exact fun _ => .refl
  | cons a l ih => exact fun w => (hf w a).trans (ih (f w a))

theorem of_drops {touched : List Nat} {stops : List ProxyHandler} {gone : List ServiceProxy}
    (h : Drops d touched stops gone w w') : Rewires w w' :=
  ⟨fun n hn => .inl (h.notifies n hn).1, h.timeoutId⟩

end Rewires

theorem rewires_modifyContext (w : World) (d c : Nat) (f : DeviceContext → DeviceContext) :
    Rewires w (w.modifyContext d c f) := by
  refine ⟨fun n hn => ?_, fun e => timeoutId_modifyContext w d c e f⟩
  rw [gupnp_modifyContext] at hn
  exact .inl hn

theorem rewires_withDevice {f : Device → World}
    (hf : ∀ dev, w.devices d = some dev → Rewires w (f dev)) : Rewires w (w.withDevice d f) := by
  unfold World.withDevice
  split
  next dev hdev => exact hf dev hdev
  · exact .of_eq rfl rfl

theorem rewires_withContext {f : DeviceContext → World} (hf : ∀ x, Rewires w (f x)) :
    Rewires w (w.withContext d f) := by
  refine rewires_withDevice fun dev _ => ?_
  split
  · exact hf _
  · exact .of_eq rfl rfl

theorem rewires_prvSubscribeService (d : Nat) (x : DeviceContext) (kind signal : ServiceKind)
    (w : World) : Rewires w (prvSubscribeService d x kind signal w) := by
  unfold prvSubscribeService
  split
  · let w₁ := (gupnpServiceProxySetSubscribed (x.notify d kind).proxy true w).setNotifies
      (w.gupnp.notifies ++ [x.notify d kind])
    have hadd : Rewires w w₁ := by
      refine ⟨fun n hn => ?_, fun _ => rfl⟩
      rcases List.mem_append.mp hn with hold | hnew
      · exact .inl hold
      · obtain rfl := List.mem_singleton.mp hnew
        exact .inr rfl
    have hset := hadd.trans (rewires_modifyContext w₁ d x.id fun context =>
      context.setSubscribed true kind)
    dsimp only
    split
    · exact hset.trans (.of_eq rfl rfl)
    · exact hset
  · exact .refl

theorem rewires_rsuDeviceSubscribeToServiceChanges (d : Nat) (w : World) :
    Rewires w (rsuDeviceSubscribeToServiceChanges d w) :=
  rewires_withContext fun x => ((rewires_prvSubscribeService d x .cm .cm w).trans
    (rewires_prvSubscribeService d x .av .av _)).trans (rewires_prvSubscribeService d x .rc .av _)

theorem rewires_prvDeviceSubscribeContext (d : Nat) (w : World) :
    Rewires w (prvDeviceSubscribeContext d w) := by
  refine rewires_withDevice fun dev _ => rewires_withContext fun preferred => ?_
  split
  · exact rewires_rsuDeviceSubscribeToServiceChanges d w
  next subscribed _ =>
    split
    · exact .refl
    · exact (Rewires.of_drops (drops_prvRsuContextUnsubscribe d subscribed w)).trans
        (rewires_rsuDeviceSubscribeToServiceChanges d _)

theorem rewires_setDevice {dev dev' : Device} (hdev : w.devices d = some dev)
    (htimeoutId : dev'.timeoutId = dev.timeoutId) : Rewires w (w.setDevice d (some dev')) := by
  refine ⟨fun _ hn => .inl hn, fun e => ?_⟩
  unfold World.timeoutId World.setDevice
  dsimp only
  split
  next he => rw [he, hdev, Option.map_some, Option.map_some, htimeoutId]
  · rfl

theorem rewires_prvDeviceAppendNewContext (d : Nat) (ipAddress : String)
    (offered : DeviceServices) (w : World) :
    Rewires w (prvDeviceAppendNewContext d ipAddress offered w) := by
  refine (Rewires.of_eq rfl rfl : Rewires w (prvContextNew ipAddress offered w).2).trans ?_
  exact rewires_withDevice fun dev hdev => rewires_setDevice hdev rfl

theorem rewires_prvSubscriptionLostCb (h : ProxyHandler) (w : World) :
    Rewires w (prvSubscriptionLostCb h w) := by
  refine rewires_withDevice fun dev _ => ?_
  split
  · exact .of_eq rfl rfl
  next context _ =>
    let retry := context.notify h.device h.kind
    dsimp only
    split
    · let w₁ := gupnpServiceProxyRemoveNotify retry
        (w.setRetryTimers (w.loop.retryTimers.erase retry))
      have hremove : Rewires w w₁ :=
        ⟨fun n hn => .inl (List.mem_of_mem_erase hn), fun _ => rfl⟩
      exact hremove.trans (rewires_modifyContext w₁ h.device h.context _)
    · let w₁ := (gupnpServiceProxySetSubscribed retry.proxy true w).setRetryTimers
        (w.loop.retryTimers ++ [retry])
      have hadd : Rewires w w₁ := .of_eq rfl rfl
      exact hadd.trans (rewires_modifyContext w₁ h.device h.context _)

def ConnectAct.times (d : Nat) : ConnectAct → Prop
  | .construct e _ _ | .fire _ e | .later e | .delete e => e = d
  | _ => False

/-- What a change does to the notify callbacks, and to the timers it does not concern. -/
theorem Connects.rewires {act : ConnectAct} (hstep : Connects w act w') :
    (∀ n ∈ w'.gupnp.notifies, n ∈ w.gupnp.notifies ∨ n.Named) ∧
      ∀ e, ¬act.times e → w'.timeoutId e = w.timeoutId e := by
  have hall : Rewires w w' → (∀ n ∈ w'.gupnp.notifies, n ∈ w.gupnp.notifies ∨ n.Named) ∧
      ∀ e, ¬act.times e → w'.timeoutId e = w.timeoutId e :=
    fun h => ⟨h.notifies, fun e _ => h.timeoutId e⟩
  have hset : ∀ {w : World} {d e : Nat} (dev : Option Device), e ≠ d →
      (w.setDevice d dev).timeoutId e = w.timeoutId e := by
    intro w d e dev he
    exact congrArg (Option.map Device.timeoutId) (if_neg he)
  cases hstep with
  | stay hstay => exact hall (.of_eq hstay.notifies hstay.devices)
  | @construct d ipAddress offered _ _ =>
      have happend := rewires_prvDeviceAppendNewContext d ipAddress offered (w.blankDevice d)
      exact ⟨happend.notifies, fun e he =>
        (happend.timeoutId e).trans (hset _ fun heq => he heq.symm)⟩
  | @extend d dev ipAddress offered hdev =>
      exact hall ((rewires_prvDeviceAppendNewContext d ipAddress offered w).trans
        (rewires_prvDeviceSubscribeContext d _))
  | settle d => exact hall (rewires_prvDeviceSubscribeContext d w)
  | @fire id d hmem =>
      let w₁ := w.setSubscribeTimers (w.loop.subscribeTimers.erase (id, d))
      show (∀ n ∈ (prvSubscribeToServiceChanges d w₁).gupnp.notifies, _) ∧
        ∀ e, _ → (prvSubscribeToServiceChanges d w₁).timeoutId e = w.timeoutId e
      unfold prvSubscribeToServiceChanges World.withDevice
      split
      next dev hdev =>
        let w₂ := w₁.setDevice d (some { dev with timeoutId := 0 })
        have hsubscribe := rewires_rsuDeviceSubscribeToServiceChanges d w₂
        exact ⟨hsubscribe.notifies, fun e he =>
          (hsubscribe.timeoutId e).trans (hset (w := w₁) _ fun heq => he heq.symm)⟩
      · exact ⟨fun _ hn => .inl hn, fun _ _ => rfl⟩
  | @remove d dev context ipAddress hdev _ =>
      let w₁ := w.setDevice d (some { dev with
        contexts := dev.contexts.eraseP fun context => context.ipAddress = ipAddress })
      have hfewer : Rewires w w₁ := rewires_setDevice hdev rfl
      exact hall (hfewer.trans (.of_drops (drops_prvRsuContextDelete d context w₁)))
  | @later d dev hdev _ _ =>
      simp only [subscribeLater, World.withDevice, hdev]
      exact ⟨fun _ hn => .inl hn, fun e he => hset _ fun heq => he heq.symm⟩
  | lose proxy =>
      have hended : Rewires w (gupnpServiceProxySetSubscribed proxy false w) := .of_eq rfl rfl
      exact hall (hended.trans (.foldl (fun w h => rewires_prvSubscriptionLostCb h w) _ _))
  | @expire r hmem =>
      have htimer : Rewires w (w.setRetryTimers (w.loop.retryTimers.erase r)) := .of_eq rfl rfl
      refine hall (htimer.trans (rewires_withDevice fun dev _ => ?_))
      split
      · exact .of_eq rfl rfl
      · exact rewires_modifyContext _ _ _ _
  | unsubscribe d =>
      refine hall (rewires_withDevice fun dev _ => .foldl (fun w context => ?_) dev.contexts w)
      exact .of_drops (drops_prvRsuContextUnsubscribe d context w)
  | @delete d dev hdev =>
      obtain ⟨hdevices, hgupnp, -⟩ := stopTimer_same w dev.timeoutId
      let w₁ := w.stopTimer dev.timeoutId
      have hstop : Rewires w w₁ := .of_eq (congrArg Gupnp.notifies hgupnp) hdevices
      have hdelete := hstop.trans (.of_drops (drops_foldl d dev.contexts w₁))
      rw [rsuDeviceDelete_eq hdev]
      exact ⟨hdelete.notifies, fun e he =>
        (hset none fun heq => he heq.symm).trans (hdelete.timeoutId e)⟩
  | declare ids hdev => exact hall (rewires_setDevice hdev rfl)

theorem service_named {neverQuit : Bool} {is : List Input} (hr : (service neverQuit).Reaches is w) :
    ∀ n ∈ w.gupnp.notifies, n.Named := by
  refine service_contexts (I := fun w => ∀ n ∈ w.gupnp.notifies, n.Named) hr (by simp [start])
    fun w act w' _ h hstep n hn => ?_
  rcases hstep.rewires.1 n hn with hold | hnamed
  · exact h n hold
  · exact hnamed

/-! ## Services that are registered once -/

/-- The notify callback is registered if and only if the service is subscribed. -/
def ServiceState.Registered (s : ServiceState) : Prop := s.notifies = s.subscribed.toNat

namespace ServiceState

variable {s : ServiceState}

theorem Registered.unsubscribe (h : s.Registered) : s.unsubscribe.Registered := by
  have hretry : s.stopRetry.Registered := by
    unfold stopRetry
    split <;> exact h
  unfold ServiceState.unsubscribe stopNotify
  split
  next hsubscribed =>
    have hone : s.stopRetry.notifies = 1 := by rw [hretry, hsubscribed]; rfl
    exact congrArg (· - 1) hone
  · exact hretry

theorem Registered.lost (h : s.Registered) : s.lost.Registered := by
  unfold ServiceState.lost
  split
  · have hle : s.notifies ≤ 1 := h ▸ Bool.toNat_le s.subscribed
    exact Nat.sub_eq_zero_of_le hle
  · exact h

theorem Registered.lost_iterate (n : Nat) (h : s.Registered) :
    (ServiceState.lost^[n] s).Registered := by
  induction n generalizing s with
  | zero => exact h
  | succ n ih =>
      rw [Function.iterate_succ_apply]
      exact ih h.lost

theorem Registered.subscribe (h : s.Registered) (hfree : s.subscribed = false) :
    s.subscribe.Registered := by
  have hzero : s.notifies = 0 := by rw [h, hfree]; rfl
  exact congrArg (· + 1) hzero

end ServiceState

/-- Each subscription is registered once, and at most one handler of
"subscription-lost" is connected to a proxy. -/
structure RegisteredOnce (w : World) : Prop where
  notifies : ∀ d c kind, (w.service d c kind).Registered
  lost : ∀ c proxy, ((w.wired c).countP fun h => h.proxy = proxy) ≤ 1

/-- No service that the context offers is subscribed, no handler is connected to its
proxies, and it does not offer both av and rc. -/
def World.FirstAttempt (w : World) (x : DeviceContext) : Prop :=
  (∀ kind, x.present kind = true → x.subscribed kind = false) ∧
    (∀ h ∈ w.gupnp.lostHandlers, h.proxy ∉ x.serviceProxies.toList) ∧
    ¬(x.present .av = true ∧ x.present .rc = true)

theorem ContextsOk.registered_of_none (hok : ContextsOk w) (hnone : w.context? d c = none)
    (kind : ServiceKind) : (w.service d c kind).Registered := by
  obtain ⟨hsubscribed, -, hnotifies, -⟩ := hok.service_of_none hnone kind
  rw [ServiceState.Registered, hsubscribed, hnotifies]
  rfl

theorem RegisteredOnce.of_live (hok : ContextsOk w)
    (hnotifies : ∀ d c kind, (w.context? d c).isSome → (w.service d c kind).Registered)
    (hlost : ∀ d c proxy, (w.context? d c).isSome →
      ((w.wired c).countP fun h => h.proxy = proxy) ≤ 1) : RegisteredOnce w := by
  constructor
  · intro d c kind
    cases hx : w.context? d c with
    | none => exact hok.registered_of_none hx kind
    | some x => exact hnotifies d c kind (Option.isSome_of_eq_some hx)
  · intro c proxy
    by_cases hlive : ∃ d, (w.context? d c).isSome
    · obtain ⟨d, hsome⟩ := hlive
      exact hlost d c proxy hsome
    · rw [hok.wired_of_dead fun d => by simpa using not_exists.mp hlive d]
      exact Nat.zero_le 1

theorem RegisteredOnce.same (h : RegisteredOnce w) (hok' : ContextsOk w')
    (hstay : ServicesStay w w') :
    RegisteredOnce w' := by
  refine .of_live hok' (fun d c kind hsome => ?_) fun d c proxy hsome => ?_
  · rw [hstay.service d c kind hsome]
    exact h.notifies d c kind
  · rw [hstay.wired d c hsome]
    exact h.lost c proxy

/-! ## Attempts -/

/-- A context that has no handler of its own on its proxies has none at all. -/
theorem wired_eq_nil (hok : ContextsOk w) (hx : w.context? d x.id = some x)
    (hfree : ∀ h ∈ w.gupnp.lostHandlers, h.proxy ∉ x.serviceProxies.toList) :
    w.wired x.id = [] := by
  refine List.filter_eq_nil_iff.mpr fun h hmem hc => hfree h hmem ?_
  have hid : h.context = x.id := by simpa using hc
  obtain ⟨core, y, hcore, hy, hyid, hproxy⟩ := hok.attached.lostHandlers h hmem
  have hlive := (hok.live_attached (hok.attached.lostHandlers h hmem)).1
  rw [hid] at hlive hyid
  have hd : h.device = d := hok.owner (Option.isSome_of_eq_some hx) hlive
  obtain ⟨dev, hdev, hmem', -⟩ := context?_some hx
  rw [hd, World.core, hdev, Option.map_some] at hcore
  obtain rfl := Option.some.inj hcore
  have hsame : y = x.core :=
    List.inj_on_of_nodup_map (hok.devices.nodup d _ (core_of_device hdev)) hy
      (List.mem_map_of_mem hmem') hyid
  rw [hsame] at hproxy
  exact hproxy

theorem ContextsOk.proxy_eq (hok : ContextsOk w) (hx : w.context? d x.id = some x)
    (kind : ServiceKind) :
    x.serviceProxies.get kind = if x.present kind then some ⟨x.id, kind⟩ else none := by
  obtain ⟨dev, hdev, hmem, -⟩ := context?_some hx
  unfold DeviceContext.present
  cases hget : x.serviceProxies.get kind with
  | none => rfl
  | some p =>
      have hcore : w.core d = some dev.core := core_of_device hdev
      rw [hok.attached.named d dev.core x.core kind p hcore (List.mem_map_of_mem hmem) hget]
      rfl

/-- The handlers that an attempt connects, by the services that the context offers. -/
theorem wiring_eq (hok : ContextsOk w) (hx : w.context? d x.id = some x) :
    x.wiring d = (if x.present .cm then [⟨⟨x.id, .cm⟩, .cm, d, x.id⟩] else []) ++
      (if x.present .av then [⟨⟨x.id, .av⟩, .av, d, x.id⟩] else []) ++
      (if x.present .rc ∧ x.present .av then [⟨⟨x.id, .av⟩, .rc, d, x.id⟩] else []) := by
  simp only [DeviceContext.wiring, List.flatMap_cons, List.flatMap_nil, hok.proxy_eq hx]
  cases x.present .cm <;> cases x.present .av <;> cases x.present .rc <;> rfl

theorem context_wiring (hok : ContextsOk w) (hx : w.context? d x.id = some x) :
    ∀ h ∈ x.wiring d, h.context = x.id := by
  intro h hmem
  rw [wiring_eq hok hx] at hmem
  rcases List.mem_append.mp hmem with hmem | hmem
  · rcases List.mem_append.mp hmem with hmem | hmem
    all_goals
      split at hmem
      · rw [List.mem_singleton.mp hmem]
      · simp at hmem
  · split at hmem
    · rw [List.mem_singleton.mp hmem]
    · simp at hmem

/-- The handlers are connected to different proxies, unless the context offers both av
and rc. -/
theorem countP_wiring (hok : ContextsOk w) (hx : w.context? d x.id = some x)
    (hboth : ¬(x.present .av = true ∧ x.present .rc = true)) (proxy : ServiceProxy) :
    ((x.wiring d).countP fun h => h.proxy = proxy) ≤ 1 := by
  have hswap : ¬(x.present .rc = true ∧ x.present .av = true) := fun h => hboth h.symm
  rw [wiring_eq hok hx, if_neg hswap, List.append_nil, List.countP_append]
  have hcm : ((if x.present .cm then [(⟨⟨x.id, .cm⟩, .cm, d, x.id⟩ : ProxyHandler)] else []).countP
      fun h => h.proxy = proxy) ≤ if proxy.kind = .cm then 1 else 0 := by
    split
    · by_cases hp : (⟨x.id, .cm⟩ : ServiceProxy) = proxy
      · simp [← hp]
      · simp [hp]
    · exact Nat.zero_le _
  have hav : ((if x.present .av then [(⟨⟨x.id, .av⟩, .av, d, x.id⟩ : ProxyHandler)] else []).countP
      fun h => h.proxy = proxy) ≤ if proxy.kind = .cm then 0 else 1 := by
    split
    · by_cases hp : (⟨x.id, .av⟩ : ServiceProxy) = proxy
      · simp [← hp]
      · simp [hp]
    · exact Nat.zero_le _
  by_cases hkind : proxy.kind = .cm
  · rw [if_pos hkind] at hcm hav
    omega
  · rw [if_neg hkind] at hcm hav
    omega

theorem RegisteredOnce.attempts (h : RegisteredOnce w) (hok : ContextsOk w)
    (hok' : ContextsOk w') (hlive : ∀ e c, (w'.context? e c).isSome → (w.context? e c).isSome)
    (hx : w.context? d x.id = some x) (hspec : Attempts d x w w') (hfirst : w.FirstAttempt x) :
    RegisteredOnce w' := by
  obtain ⟨hflags, hfree, hboth⟩ := hfirst
  have hwired : ∀ c, w'.wired c = w.wired c ++ (x.wiring d).filter fun h => h.context = c := by
    intro c
    rw [World.wired, hspec.lostHandlers, List.filter_append]
    rfl
  have hcontext := context_wiring hok hx
  refine .of_live hok' (fun e c kind hsome => ?_) fun e c proxy hsome => ?_
  · by_cases hc : c = x.id
    · subst hc
      obtain rfl : e = d := hok.owner (Option.isSome_of_eq_some hx) (hlive e x.id hsome)
      rw [hspec.own]
      split
      next hpresent =>
        exact (h.notifies e x.id kind).subscribe
          ((service_of_context hx kind).1.trans (hflags kind hpresent))
      · exact h.notifies e x.id kind
    · rcases hspec.others e c kind (hlive e c hsome) hc with hsame | hstop
      · rw [hsame]
        exact h.notifies e c kind
      · rw [hstop]
        exact (h.notifies e c kind).unsubscribe
  · rw [hwired]
    by_cases hc : c = x.id
    · subst hc
      rw [wired_eq_nil hok hx hfree, List.nil_append,
        List.filter_eq_self.mpr (by simpa using hcontext)]
      exact countP_wiring hok hx hboth proxy
    · have hnone : ((x.wiring d).filter fun h => h.context = c) = [] :=
        List.filter_eq_nil_iff.mpr fun h hmem hid =>
          hc ((of_decide_eq_true hid).symm.trans (hcontext h hmem))
      rw [hnone, List.append_nil]
      exact h.lost c proxy

theorem ServiceState.Registered.gives {s s' : ServiceState} (h : s.Registered) (hs : s.Gives s') :
    s'.Registered := by
  cases hs with
  | same => exact h
  | unsubscribe => exact h.unsubscribe
  | expire _ => exact h
  | lost n => exact h.lost_iterate n
  | drop n => exact Registered.lost_iterate n h

/-- A change keeps registrations single if what it subscribes is subscribed for the
first time. -/
theorem RegisteredOnce.connects {act : ConnectAct} (h : RegisteredOnce w) (hok : ContextsOk w)
    (hstep : Connects w act w')
    (hfirst : ∀ d x, act.attempt? w = some (d, x) → w.FirstAttempt x) : RegisteredOnce w' := by
  have hok' := hok.connects hstep
  obtain ⟨w₁, hok₁, hstay, -, hmoves⟩ := hstep.moves hok
  have h₁ := h.same hok₁ hstay
  have hlive : (∀ d, w'.core d = w₁.core d) → ∀ e c, (w'.context? e c).isSome →
      (w₁.context? e c).isSome := by
    intro hcore e c hsome
    rwa [context?_isSome, hcore, ← context?_isSome] at hsome
  cases hmoves with
  | stay => exact h₁
  | giveUp hgive =>
      refine .of_live hok' (fun e c kind hsome => ?_) fun e c proxy _ => ?_
      · exact (h₁.notifies e c kind).gives (hgive.service e c kind (hlive hgive.core e c hsome))
      · rw [World.wired, hgive.lostHandlers]
        exact h₁.lost c proxy
  | attempt hattempt hlost hx hcore hspec =>
      obtain ⟨hflags, hfree, hboth⟩ := hfirst _ _ hattempt
      exact h₁.attempts hok₁ hok' (hlive hcore) hx hspec
        ⟨hflags, fun r hmem => hfree r (hlost ▸ hmem), hboth⟩

/-! ## Runs -/

section Runs

variable {neverQuit : Bool} {is : List Input}

/-- What the step subscribes, it subscribes for the first time. -/
def Input.SubscribesFirst (w : World) (i : Input) : Prop :=
  ∀ d x, i.attempt? w = some (d, x) → w.FirstAttempt x

instance (w : World) (x : DeviceContext) : Decidable (w.FirstAttempt x) :=
  decidable_of_iff ((∀ kind ∈ [ServiceKind.cm, .av, .rc],
      x.present kind = true → x.subscribed kind = false) ∧
    (∀ h ∈ w.gupnp.lostHandlers, h.proxy ∉ x.serviceProxies.toList) ∧
    ¬(x.present .av = true ∧ x.present .rc = true))
    (and_congr_left' ⟨fun h kind => h kind (by cases kind <;> simp), fun h kind _ => h kind⟩)

instance (w : World) (i : Input) : Decidable (i.SubscribesFirst w) :=
  match hattempt : i.attempt? w with
  | none => isTrue fun d x heq => absurd (hattempt.symm.trans heq) (by simp)
  | some (d, x) =>
      decidable_of_iff (w.FirstAttempt x) ⟨fun h e y heq => by
        obtain ⟨-, rfl⟩ := Prod.mk.inj (Option.some.inj (hattempt.symm.trans heq))
        exact h, fun h => h d x hattempt⟩

theorem service_registeredOnce
    (hr : ((service neverQuit).restrict Input.SubscribesFirst).Reaches is w) :
    RegisteredOnce w := by
  refine hr.trace_invariant (P := fun _ w => RegisteredOnce w) (fun w hw => ?_)
    fun is w i w' hr h hst => ?_
  · obtain rfl : w = start neverQuit := hw
    exact ⟨fun d c kind => rfl, fun c proxy => Nat.zero_le 1⟩
  · obtain ⟨henabled, -, rfl⟩ := stepFn_eq hst.2
    obtain ⟨hok, hconnected⟩ := service_connected hr.of_restrict henabled
    refine hconnected.keeps hok h fun w₁ act w₂ hok₁ h₁ hdue hstep => ?_
    refine h₁.connects hok₁ hstep fun d x hattempt => ?_
    rcases hdue.1 with hnone | ⟨hsame, hstay⟩
    · rw [hnone] at hattempt
      simp at hattempt
    · obtain ⟨hflags, hfree, hboth⟩ := hst.1 d x (hsame.symm.trans hattempt)
      exact ⟨hflags, fun r hmem => hfree r (hstay.lostHandlers ▸ hmem), hboth⟩

/-- In a run whose steps subscribe every context at most once, and none that offers
both av and rc, one notify callback is registered on the proxy of a subscribed service,
none on the proxy of another one, and at most one handler is connected to it. -/
theorem service_registrations {dev : Device} {proxy : ServiceProxy}
    (hr : ((service neverQuit).restrict Input.SubscribesFirst).Reaches is w)
    (hdev : w.devices d = some dev) (hx : x ∈ dev.contexts)
    (hproxy : x.serviceProxies.get kind = some proxy) :
    (w.gupnp.notifies.countP fun n => n.proxy = proxy) = (if x.subscribed kind then 1 else 0) ∧
      (w.gupnp.lostHandlers.countP fun h => h.proxy = proxy) ≤ 1 := by
  have hok := service_contextsOk hr.of_restrict
  have hnamed := service_named hr.of_restrict
  obtain ⟨hnotifies, hlost⟩ := service_registeredOnce hr
  have hcontext := hok.context? hdev hx
  have hcore : w.core d = some dev.core := core_of_device hdev
  have hname : proxy = ⟨x.id, kind⟩ :=
    hok.attached.named d dev.core x.core kind proxy hcore (List.mem_map_of_mem hx) hproxy
  constructor
  · -- A callback on the proxy is the callback of the service.
    have hcount : (w.gupnp.notifies.countP fun n => n.proxy = proxy) =
        w.gupnp.notifies.count (serviceHandler d x.id kind) := by
      refine List.countP_congr fun n hmem => ?_
      rw [decide_eq_true_eq, beq_iff_eq, hname]
      have hn := hnamed n hmem
      constructor
      · intro heq
        have hproxy' : n.proxy = ⟨n.context, n.kind⟩ := congrArg ProxyHandler.proxy hn
        obtain ⟨hid, hkind⟩ := ServiceProxy.mk.inj (hproxy'.symm.trans heq)
        have hlive := (hok.live_attached (hok.attached.notifies n hmem)).1
        rw [hid] at hlive
        have howner : n.device = d := hok.owner (Option.isSome_of_eq_some hcontext) hlive
        rw [hn, howner, hid, hkind]
      · rintro rfl
        rfl
    rw [hcount]
    have hregistered := hnotifies d x.id kind
    rw [ServiceState.Registered, (service_of_context hcontext kind).1] at hregistered
    refine hregistered.trans ?_
    cases x.subscribed kind <;> rfl
  · have hsame : (w.gupnp.lostHandlers.countP fun h => h.proxy = proxy) =
        (w.wired x.id).countP fun h => h.proxy = proxy := by
      rw [World.wired, List.countP_filter]
      refine List.countP_congr fun h hmem => ?_
      rw [Bool.and_eq_true, decide_eq_true_eq, decide_eq_true_eq]
      refine ⟨fun heq => ⟨heq, ?_⟩, fun hboth => hboth.1⟩
      rw [← (hok.live_attached (hok.attached.lostHandlers h hmem)).2, heq, hname]
    rw [hsame]
    exact hlost x.id proxy

end Runs

/-- A renderer with cm and av is subscribed once. -/
theorem service_registrations_twoServices :
    ∃ is w dev x, ((service true).restrict Input.SubscribesFirst).Reaches is w ∧
      w.devices 0 = some dev ∧ x ∈ dev.contexts ∧ x.serviceProxies.get .av = some ⟨0, .av⟩ ∧
      x.subscribed .av = true ∧
      (w.gupnp.notifies.countP fun n => n.proxy = ⟨0, .av⟩) =
        (if x.subscribed .av then 1 else 0) ∧
      (w.gupnp.lostHandlers.countP fun h => h.proxy = ⟨0, .av⟩) ≤ 1 := by
  obtain ⟨is, w, hreaches, hget⟩ := service_reaches_of_guarded true (C := Input.SubscribesFirst)
    (.input (.available "uuid:r" "192.168.1.2" ⟨true, true, false⟩) :: oneRenderer.tail)
    (p := fun w => ((w.devices 0).map fun dev =>
      dev.contexts.map fun x => (x.serviceProxies.get .av, x.subscribed .av)) =
        some [(some ⟨0, .av⟩, true)]) (by decide +kernel)
  obtain ⟨dev, hdev, hmap⟩ := Option.map_eq_some_iff.mp hget
  obtain ⟨x, hx, hboth⟩ := List.mem_map.mp (hmap ▸ List.mem_singleton_self (some _, true))
  obtain ⟨hproxy, hsubscribed⟩ := Prod.mk.inj hboth
  obtain ⟨hnotifies, hlost⟩ := service_registrations hreaches hdev hx hproxy
  exact ⟨is, w, dev, x, hreaches, hdev, hx, hproxy, hsubscribed, hnotifies, hlost⟩

/-- The av proxy of a renderer with all three services has two handlers. -/
theorem service_registrations_twoHandlers :
    ∃ is w dev x, (service true).Reaches is w ∧ w.devices 0 = some dev ∧ x ∈ dev.contexts ∧
      x.serviceProxies.get .av = some ⟨0, .av⟩ ∧
      ¬(w.gupnp.lostHandlers.countP fun h => h.proxy = ⟨0, .av⟩) ≤ 1 := by
  obtain ⟨is, w, hreaches, hcount, hget⟩ := service_reaches_of_schedule true oneRenderer
    (p := fun w => (w.gupnp.lostHandlers.countP fun h => h.proxy = ⟨0, .av⟩) = 2 ∧
      ((w.devices 0).map fun dev => dev.contexts.map fun x => x.serviceProxies.get .av) =
        some [some ⟨0, .av⟩]) (by decide +kernel)
  obtain ⟨dev, hdev, hmap⟩ := Option.map_eq_some_iff.mp hget
  obtain ⟨x, hx, hproxy⟩ := List.mem_map.mp (hmap ▸ List.mem_singleton_self _)
  refine ⟨is, w, dev, x, hreaches, hdev, hx, hproxy, ?_⟩
  rw [hcount]
  decide

end RendererService
