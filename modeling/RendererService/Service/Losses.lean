import RendererService.Service.Wiring

/-!
# Losing subscriptions, service by service

A service of a context is lost twice within ten seconds before it is given up.  The
three services do not interfere as long as each proxy has one handler, its own.  The
handler of rc is connected to the proxy of av: a renderer with rc gives rc up when it
loses av, and never notices that it loses rc.
-/

namespace RendererService

open Transition

/-! ## Events of one context -/

inductive ServiceEvent
  | lost (kind : ServiceKind)
  | expired (kind : ServiceKind)
deriving DecidableEq, Repr

namespace ServiceEvent

def kind : ServiceEvent → ServiceKind
  | .lost kind | .expired kind => kind

def input (d c : Nat) : ServiceEvent → Input
  | .lost kind => .subscriptionLost ⟨c, kind⟩
  | .expired kind => .retryTimer (serviceHandler d c kind)

end ServiceEvent

/-- The first loss subscribes the service again and starts its timer, a second one
before the timer fires gives it up. -/
def ServiceState.handle (s : ServiceState) : ServiceEvent → ServiceState
  | .lost _ =>
      if s.timeoutId then
        { subscribed := false, timeoutId := false, notifies := s.notifies - 1,
          timers := s.timers - 1, live := false }
      else { s with timeoutId := true, timers := s.timers + 1, live := true }
  | .expired _ => { s with timeoutId := false, timers := s.timers - 1 }

theorem ServiceState.handle_lost (s : ServiceState) (kind : ServiceKind) :
    s.handle (.lost kind) = s.drop.lost := by
  cases htimeout : s.timeoutId <;> simp [handle, ServiceState.lost, drop, htimeout]

def ServiceState.handleOwn (s : ServiceState) (kind : ServiceKind) (events : List ServiceEvent) :
    ServiceState :=
  (events.filter fun e => e.kind = kind).foldl ServiceState.handle s

/-! ## Handlers that run -/

variable {w w' : World} {d c : Nat} {x : DeviceContext}

theorem countP_flatten_replicate {α : Type} (p : α → Bool) (n : Nat) (l : List α) :
    (List.replicate n l).flatten.countP p = n * l.countP p := by
  induction n with
  | zero => rw [Nat.zero_mul]; rfl
  | succ n ih =>
      rw [List.replicate_succ, List.flatten_cons, List.countP_append, ih, Nat.succ_mul,
        Nat.add_comm]

/-- Every proxy of a service that the context offers has the handlers of that service
alone, one of them. -/
def World.Apart (w : World) (x : DeviceContext) : Prop :=
  ∀ k kind, x.present kind = true →
    w.losses ⟨x.id, k⟩ x.id kind = if k = kind then 1 else 0

theorem WiredTimes.countP {n : Nat} (h : WiredTimes w d x.core n) (p : ProxyHandler → Bool) :
    (w.wired x.id).countP p = n * (x.wiring d).countP p := by
  rw [← wiring_core, ← countP_flatten_replicate, ← h.wired]
  rfl

theorem countP_lostHandlers (hok : ContextsOk w) (c : Nat) (kind : ServiceKind) :
    (w.gupnp.lostHandlers.countP fun h => h.proxy = ⟨c, kind⟩) =
      (w.wired c).countP fun h => h.proxy = ⟨c, kind⟩ := by
  rw [World.wired, List.countP_filter]
  refine List.countP_congr fun h hmem => ?_
  rw [Bool.and_eq_true, decide_eq_true_eq, decide_eq_true_eq]
  refine ⟨fun heq => ⟨heq, ?_⟩, fun hboth => hboth.1⟩
  rw [← (hok.live_attached (hok.attached.lostHandlers h hmem)).2, heq]

/-- The handlers that one attempt connects to a proxy for a service. -/
theorem countP_wiring_kind (hok : ContextsOk w) (hx : w.context? d x.id = some x)
    (k kind : ServiceKind) :
    ((x.wiring d).countP fun h => h.proxy = ⟨x.id, k⟩ ∧ h.kind = kind) =
      match k, kind with
      | .cm, .cm => (x.present .cm).toNat
      | .av, .av => (x.present .av).toNat
      | .av, .rc => (x.present .rc && x.present .av).toNat
      | _, _ => 0 := by
  rw [wiring_eq hok hx]
  cases x.present .cm <;> cases x.present .av <;> cases x.present .rc <;> cases k <;>
    cases kind <;> simp

theorem countP_wiring_proxy (hok : ContextsOk w) (hx : w.context? d x.id = some x)
    (k : ServiceKind) :
    ((x.wiring d).countP fun h => h.proxy = ⟨x.id, k⟩) =
      match k with
      | .cm => (x.present .cm).toNat
      | .av => (x.present .av).toNat + (x.present .rc && x.present .av).toNat
      | .rc => 0 := by
  rw [wiring_eq hok hx]
  cases x.present .cm <;> cases x.present .av <;> cases x.present .rc <;> cases k <;> simp

/-! ## One event -/

theorem fault_modifyContext (hsome : (w.context? d c).isSome) (e : Nat)
    (f : DeviceContext → DeviceContext) : (w.modifyContext d e f).fault = w.fault := by
  obtain ⟨x, hx⟩ := Option.isSome_iff_exists.mp hsome
  obtain ⟨dev, hdev, -⟩ := context?_some hx
  simp only [World.modifyContext, World.withDevice, hdev]
  rfl

theorem fault_prvSubscriptionLostCb {h : ProxyHandler}
    (hsome : (w.context? h.device h.context).isSome) :
    (prvSubscriptionLostCb h w).fault = w.fault := by
  obtain ⟨x, hx⟩ := Option.isSome_iff_exists.mp hsome
  obtain ⟨dev, hdev, hfind⟩ := Option.bind_eq_some_iff.mp hx
  have hchange : ∀ w₁ : World, w₁.devices = w.devices → w₁.fault = w.fault → ∀ f,
      (w₁.modifyContext h.device h.context f).fault = w.fault := by
    intro w₁ hdevices hfault f
    rw [← hfault]
    exact fault_modifyContext (by rwa [context?_congr hdevices]) h.context f
  simp only [prvSubscriptionLostCb, World.withDevice, hdev, hfind]
  split <;> refine hchange _ ?_ ?_ _ <;> rfl

theorem fault_subscriptionLost (hok : ContextsOk w) (proxy : ServiceProxy) :
    (exec w (.subscriptionLost proxy)).fault = w.fault := by
  have hfold : ∀ (l : List ProxyHandler) (w : World),
      (∀ h ∈ l, (w.context? h.device h.context).isSome) →
        (l.foldl (fun w h => prvSubscriptionLostCb h w) w).fault = w.fault := by
    intro l
    induction l with
    | nil => exact fun w _ => rfl
    | cons h l ih =>
        intro w hlive
        obtain ⟨hhead, htail⟩ := List.forall_mem_cons.mp hlive
        rw [List.foldl_cons, ih _ fun h' hmem => ?_]
        · exact fault_prvSubscriptionLostCb hhead
        · rw [(cosmetic_prvSubscriptionLostCb h).context?_isSome]
          exact htail h' hmem
  exact hfold _ (gupnpServiceProxySetSubscribed proxy false w) fun h hmem =>
    (hok.live_attached (hok.attached.lostHandlers h (List.mem_filter.mp hmem).1)).1

theorem fault_retryTimer (hok : ContextsOk w) {r : ProxyHandler} (hr : r ∈ w.loop.retryTimers) :
    (exec w (.retryTimer r)).fault = w.fault := by
  obtain ⟨-, dev, x, hdev, hmem, hid, -⟩ := hok.attached.retry r hr
  have hx : w.context? r.device r.context = some x := hid ▸ hok.context? hdev hmem
  obtain ⟨dev', hdev', hfind⟩ := Option.bind_eq_some_iff.mp hx
  let w₁ := w.setRetryTimers (w.loop.retryTimers.erase r)
  have hdev₁ : w₁.devices r.device = some dev' := hdev'
  show (prvReEnableSubscription r w₁).fault = w.fault
  simp only [prvReEnableSubscription, World.withDevice, hdev₁, hfind]
  exact fault_modifyContext (w := w₁) (Option.isSome_of_eq_some hx) r.context _

/-- An event of a context whose handlers are apart concerns one service. -/
theorem handle_event (hok : ContextsOk w) (hsome : (w.context? d x.id).isSome) (hapart : w.Apart x)
    {e : ServiceEvent} (henabled : (e.input d x.id).enabled w = true) {kind : ServiceKind}
    (hpresent : x.present kind = true) :
    (exec w (e.input d x.id)).service d x.id kind =
      if e.kind = kind then (w.service d x.id kind).handle e else w.service d x.id kind := by
  cases e with
  | lost k =>
      show (exec w (.subscriptionLost ⟨x.id, k⟩)).service d x.id kind = if k = kind then _ else _
      rw [service_subscriptionLost hok hsome, hapart k kind hpresent]
      by_cases hkind : k = kind
      · rw [if_pos hkind, if_pos hkind, if_pos (by rw [hkind]), ServiceState.handle_lost]
        rfl
      · have hne : (⟨x.id, k⟩ : ServiceProxy) ≠ ⟨x.id, kind⟩ :=
          fun heq => hkind (ServiceProxy.mk.inj heq).2
        rw [if_neg hkind, if_neg hkind, if_neg hne]
        rfl
  | expired k =>
      have hmem : serviceHandler d x.id k ∈ w.loop.retryTimers := by
        simp_all [ServiceEvent.input, Input.enabled]
      show (exec w (.retryTimer (serviceHandler d x.id k))).service d x.id kind =
        if k = kind then _ else _
      rw [service_retryTimer hok hmem hsome]
      by_cases hkind : k = kind
      · rw [if_pos hkind, if_pos ⟨rfl, hkind⟩]
        rfl
      · rw [if_neg hkind, if_neg fun hboth => hkind hboth.2]

theorem event_keeps (e : ServiceEvent) :
    (exec w (e.input d c)).gupnp.lostHandlers = w.gupnp.lostHandlers ∧
      Cosmetic w (exec w (e.input d c)) := by
  cases e with
  | lost k => exact ⟨lostHandlers_subscriptionLost w _, cosmetic_subscriptionLost _ w⟩
  | expired k =>
      have htimer : Cosmetic w
          (w.setRetryTimers (w.loop.retryTimers.erase (serviceHandler d c k))) :=
        cosmetic_setRetryTimers _
      exact ⟨lostHandlers_retryTimer w _,
        htimer.trans (cosmetic_prvReEnableSubscription (serviceHandler d c k))⟩

/-- A service whose handler runs twice for one loss is given up. -/
theorem lost_iterate_two {s : ServiceState} {n : Nat} (hn : 2 ≤ n)
    (htimeout : s.timeoutId = false) :
    (ServiceState.lost^[n] s).subscribed = false := by
  obtain ⟨m, rfl⟩ := Nat.exists_eq_add_of_le' hn
  rw [Function.iterate_add_apply]
  have htwice : (ServiceState.lost^[2] s).subscribed = false := by
    show s.lost.lost.subscribed = false
    simp [ServiceState.lost, htimeout]
  by_contra hsubscribed
  have hstill := lost_iterate_subscribed m (ServiceState.lost^[2] s) (by simpa using hsubscribed)
  rw [htwice] at hstill
  simp at hstill

theorem stepFn_event (hok : ContextsOk w) (hfault : w.fault = none)
    {e : ServiceEvent} (henabled : (e.input d c).enabled w = true) :
    stepFn w (e.input d c) = some (exec w (e.input d c)) := by
  have hsame : (exec w (e.input d c)).fault = none := by
    rw [← hfault]
    cases e with
    | lost k => exact fault_subscriptionLost hok _
    | expired k =>
        refine fault_retryTimer hok ?_
        simp_all [ServiceEvent.input, Input.enabled]
  rw [stepFn, if_pos ⟨henabled, hsame⟩]

theorem lost_enabled (hfree : w.context.freed = false) (hok : ContextsOk w)
    (hx : w.context? d x.id = some x) {k : ServiceKind} (hpresent : x.present k = true) :
    (ServiceEvent.input d x.id (.lost k)).enabled w = true := by
  obtain ⟨dev, hdev, hmem, -⟩ := context?_some hx
  have hcore : w.core d = some dev.core := core_of_device hdev
  have hget : x.serviceProxies.get k = some ⟨x.id, k⟩ := by
    rw [hok.proxy_eq hx, if_pos hpresent]
  have hlive := hok.devices.live d _ x.core ⟨x.id, k⟩ hcore (List.mem_map_of_mem hmem)
    (ServiceProxies.mem_of_get hget)
  simp [ServiceEvent.input, Input.enabled, hfree, hlive]

/-! ## Sequences of events -/

/-- The services of a context do not interfere, whatever happens to it next. -/
def World.NoInterference (w : World) (d : Nat) (x : DeviceContext) : Prop :=
  ∀ events w', runFrom stepFn (events.map (ServiceEvent.input d x.id)) w = some w' →
    ∀ kind, x.present kind = true →
      w'.service d x.id kind = (w.service d x.id kind).handleOwn kind events

theorem World.NoInterference.rc {n : Nat} (h : w.NoInterference d x) (hok : ContextsOk w)
    (hfree : w.context.freed = false) (hfault : w.fault = none)
    (hx : w.context? d x.id = some x) (hwired : WiredTimes w d x.core n) :
    x.present .rc = false := by
  by_contra hne
  have hpresent : x.present .rc = true := by simpa using hne
  have hstep := stepFn_event hok hfault (lost_enabled hfree hok hx hpresent)
  have hrun : runFrom stepFn ([ServiceEvent.lost .rc].map (ServiceEvent.input d x.id)) w =
      some (exec w (.subscriptionLost ⟨x.id, .rc⟩)) := by
    rw [List.map_cons, List.map_nil, runFrom, hstep]
    rfl
  have hlosses : w.losses ⟨x.id, .rc⟩ x.id .rc = 0 := by
    rw [World.losses, hwired.countP, countP_wiring_kind hok hx]
    rfl
  have hcode := service_subscriptionLost hok (Option.isSome_of_eq_some hx) ⟨x.id, .rc⟩ .rc
  rw [hlosses, if_pos rfl] at hcode
  have hspec := congrArg ServiceState.timeoutId (h [.lost .rc] _ hrun .rc hpresent)
  rw [hcode] at hspec
  cases htimeout : (w.service d x.id .rc).timeoutId <;>
    simp [ServiceState.handleOwn, ServiceEvent.kind, ServiceState.handle, ServiceState.drop,
      htimeout] at hspec

/-- A service whose proxy has two handlers is given up by one loss. -/
theorem lost_twice (hok : ContextsOk w) (hsome : (w.context? d x.id).isSome) {k : ServiceKind}
    (htimeout : (w.service d x.id k).timeoutId = false)
    (hlosses : 2 ≤ w.losses ⟨x.id, k⟩ x.id k) :
    ((exec w (.subscriptionLost ⟨x.id, k⟩)).service d x.id k).subscribed = false := by
  rw [service_subscriptionLost hok hsome, if_pos rfl]
  exact lost_iterate_two hlosses htimeout

theorem ServiceProxies.get_of_mem {s : ServiceProxies} {p : ServiceProxy} (h : p ∈ s.toList) :
    ∃ kind, s.get kind = some p := by
  unfold ServiceProxies.toList at h
  rw [List.mem_append, List.mem_append, Option.mem_toList, Option.mem_toList,
    Option.mem_toList] at h
  obtain (hcm | hav) | hrc := h
  · exact ⟨.cm, hcm⟩
  · exact ⟨.av, hav⟩
  · exact ⟨.rc, hrc⟩

/-- A loss while no timer runs leaves a subscription, so one handler at most hears it. -/
theorem World.NoInterference.losses_idle {k : ServiceKind} (h : w.NoInterference d x)
    (hok : ContextsOk w) (hfault : w.fault = none) (hsome : (w.context? d x.id).isSome)
    (hpresent : x.present k = true)
    (hlost : (ServiceEvent.input d x.id (.lost k)).enabled w = true)
    (hflag : (w.service d x.id k).subscribed = true)
    (htimeout : (w.service d x.id k).timeoutId = false) : w.losses ⟨x.id, k⟩ x.id k ≤ 1 := by
  by_contra hmore
  have hrun : runFrom stepFn ([ServiceEvent.lost k].map (ServiceEvent.input d x.id)) w =
      some (exec w (.subscriptionLost ⟨x.id, k⟩)) := by
    rw [List.map_cons, List.map_nil, runFrom, stepFn_event hok hfault hlost]
    rfl
  have hspec := congrArg ServiceState.subscribed (h [.lost k] _ hrun k hpresent)
  rw [lost_twice hok hsome htimeout (by omega)] at hspec
  simp [ServiceState.handleOwn, ServiceEvent.kind, ServiceState.handle, htimeout, hflag] at hspec

/-- Where a timer runs it is let fire first, so that the loss is the first one again. -/
theorem World.NoInterference.losses_expired {k : ServiceKind} (h : w.NoInterference d x)
    (hok : ContextsOk w) (hfree : w.context.freed = false) (hfault : w.fault = none)
    (hsome : (w.context? d x.id).isSome) (hpresent : x.present k = true)
    (hlost : (ServiceEvent.input d x.id (.lost k)).enabled w = true)
    (hflag : (w.service d x.id k).subscribed = true)
    (hpending : serviceHandler d x.id k ∈ w.loop.retryTimers) :
    w.losses ⟨x.id, k⟩ x.id k ≤ 1 := by
  by_contra hmore
  let w₁ := exec w (.retryTimer (serviceHandler d x.id k))
  have hexpired : (ServiceEvent.input d x.id (.expired k)).enabled w = true := by
    simp [ServiceEvent.input, Input.enabled, hfree, hpending]
  have hkeeps : w₁.gupnp.lostHandlers = w.gupnp.lostHandlers ∧ Cosmetic w w₁ :=
    event_keeps (.expired k)
  obtain ⟨hlostHandlers, hcosmetic⟩ := hkeeps
  have hok₁ : ContextsOk w₁ := hok.connects (.expire hpending)
  have hfault₁ : w₁.fault = none := (fault_retryTimer hok hpending).trans hfault
  have hlost₁ : (ServiceEvent.input d x.id (.lost k)).enabled w₁ = true := by
    simp only [ServiceEvent.input, Input.enabled] at hlost ⊢
    rw [hcosmetic.context, hcosmetic.proxies]
    exact hlost
  have hsome₁ : (w₁.context? d x.id).isSome := by rwa [hcosmetic.context?_isSome]
  have hservice : w₁.service d x.id k = (w.service d x.id k).expire := by
    rw [service_retryTimer hok hpending hsome, if_pos ⟨rfl, rfl⟩]
  have hlosses₁ : w₁.losses ⟨x.id, k⟩ x.id k = w.losses ⟨x.id, k⟩ x.id k := by
    rw [World.losses, World.wired, hlostHandlers]
    rfl
  have hstep₁ : stepFn w (ServiceEvent.input d x.id (.expired k)) = some w₁ :=
    stepFn_event hok hfault hexpired
  have hrun : runFrom stepFn
      ([ServiceEvent.expired k, .lost k].map (ServiceEvent.input d x.id)) w =
        some (exec w₁ (.subscriptionLost ⟨x.id, k⟩)) := by
    rw [List.map_cons, List.map_cons, List.map_nil, runFrom, hstep₁, Option.bind_some, runFrom,
      stepFn_event hok₁ hfault₁ hlost₁]
    rfl
  have hspec := congrArg ServiceState.subscribed (h [.expired k, .lost k] _ hrun k hpresent)
  rw [lost_twice hok₁ hsome₁ (by rw [hservice]; rfl) (by omega)] at hspec
  simp [ServiceState.handleOwn, ServiceEvent.kind, ServiceState.handle, hflag] at hspec

theorem World.NoInterference.once {n : Nat} {k : ServiceKind} (h : w.NoInterference d x)
    (hok : ContextsOk w) (htimers : TimersOk w) (hfree : w.context.freed = false)
    (hfault : w.fault = none) (hx : w.context? d x.id = some x)
    (hwired : WiredTimes w d x.core n) (hsubscribed : x.subscribed k = true) (hk : k ≠ .rc) :
    n = 1 := by
  have hsome := Option.isSome_of_eq_some hx
  have hflag : (w.service d x.id k).subscribed = true :=
    (service_of_context hx k).1.trans hsubscribed
  obtain ⟨hpresent, hpos⟩ := hwired.subscribed k hflag
  have hpresent : x.present k = true := hpresent
  have hlosses : w.losses ⟨x.id, k⟩ x.id k = n := by
    rw [World.losses, hwired.countP, countP_wiring_kind hok hx]
    cases k with
    | cm => simp [hpresent]
    | av => simp [hpresent]
    | rc => exact absurd rfl hk
  have hlost := lost_enabled (d := d) hfree hok hx hpresent
  have hle : w.losses ⟨x.id, k⟩ x.id k ≤ 1 := by
    cases htimeout : (w.service d x.id k).timeoutId with
    | false => exact h.losses_idle hok hfault hsome hpresent hlost hflag htimeout
    | true =>
        have htimer : 0 < (w.service d x.id k).timers := by
          rw [htimers d x.id k, htimeout]
          decide
        exact h.losses_expired hok hfree hfault hsome hpresent hlost hflag
          (List.count_pos_iff.mp htimer)
  omega

/-- One handler of its own on each proxy keeps the services apart. -/
theorem apart_of_single {n : Nat} (hok : ContextsOk w) (hx : w.context? d x.id = some x)
    (hwired : WiredTimes w d x.core n) (hn : n = 1) (hrc : x.present .rc = false) : w.Apart x := by
  intro k kind hpresent
  rw [World.losses, hwired.countP, countP_wiring_kind hok hx, hn, Nat.one_mul]
  cases k <;> cases kind <;> simp_all

section Runs

variable {neverQuit : Bool} {is : List Input}

/-- A context whose handlers are apart has services that do not interfere. -/
theorem handle_events (events : List ServiceEvent) :
    ∀ {is : List Input} {w : World}, (service neverQuit).Reaches is w →
      (w.context? d x.id).isSome → w.Apart x → ∀ {w'},
        runFrom stepFn (events.map (ServiceEvent.input d x.id)) w = some w' →
          ∀ kind, x.present kind = true →
            w'.service d x.id kind = (w.service d x.id kind).handleOwn kind events := by
  induction events with
  | nil =>
      intro is w _ _ _ w' hrun kind _
      obtain rfl := Option.some.inj hrun
      rfl
  | cons e events ih =>
      intro is w hr hsome hapart w' hrun kind hpresent
      obtain ⟨w₁, hstep, hrest⟩ := Option.bind_eq_some_iff.mp hrun
      obtain ⟨henabled, -, rfl⟩ := stepFn_eq hstep
      obtain ⟨hlost, hcosmetic⟩ := event_keeps (w := w) (d := d) (c := x.id) e
      have hsome₁ : ((exec w (e.input d x.id)).context? d x.id).isSome := by
        rwa [hcosmetic.context?_isSome]
      have hapart₁ : (exec w (e.input d x.id)).Apart x := by
        intro k kind hpresent
        rw [World.losses, World.wired, hlost]
        exact hapart k kind hpresent
      rw [ih (hr.step hstep) hsome₁ hapart₁ hrest kind hpresent,
        handle_event (service_contextsOk hr) hsome hapart henabled hpresent]
      unfold ServiceState.handleOwn
      rw [List.filter_cons]
      by_cases hkind : e.kind = kind
      · rw [if_pos hkind, if_pos (decide_eq_true hkind), List.foldl_cons]
      · rw [if_neg hkind, if_neg (by simpa using hkind)]

/-- The services of a subscribed context do not interfere if and only if it offers no rc
and one handler is connected to each of its proxies. -/
theorem service_noInterference {dev : Device} (hr : (service neverQuit).Reaches is w)
    (hfree : w.context.freed = false) (hdev : w.devices d = some dev) (hx : x ∈ dev.contexts)
    (hsubscribed : (x.subscribedCm || x.subscribedAv || x.subscribedRc) = true) :
    w.NoInterference d x ↔ x.serviceProxies.rcProxy = none ∧
      ∀ proxy ∈ x.serviceProxies.toList,
        (w.gupnp.lostHandlers.countP fun h => h.proxy = proxy) = 1 := by
  have hok := service_contextsOk hr
  have hcontext := hok.context? hdev hx
  have hcore : w.core d = some dev.core := core_of_device hdev
  obtain ⟨n, hwired⟩ := service_wiringOk hr d dev.core hcore x.core (List.mem_map_of_mem hx)
  obtain ⟨k, hk⟩ : ∃ k, x.subscribed k = true := by
    rw [Bool.or_eq_true, Bool.or_eq_true] at hsubscribed
    obtain (hcm | hav) | hrc := hsubscribed
    · exact ⟨.cm, hcm⟩
    · exact ⟨.av, hav⟩
    · exact ⟨.rc, hrc⟩
  obtain ⟨hpresent, hpos⟩ := hwired.subscribed k ((service_of_context hcontext k).1.trans hk)
  have hpresent : x.present k = true := hpresent
  have hcount : ∀ kind, (w.gupnp.lostHandlers.countP fun h => h.proxy = ⟨x.id, kind⟩) =
      n * (x.wiring d).countP fun h => h.proxy = ⟨x.id, kind⟩ := fun kind => by
    rw [countP_lostHandlers hok, hwired.countP]
  have hnone : x.serviceProxies.rcProxy = none ↔ x.present .rc = false := by
    show _ ↔ x.serviceProxies.rcProxy.isSome = false
    rw [Option.isSome_eq_false_iff, Option.isNone_iff_eq_none]
  rw [hnone]
  constructor
  · intro h
    have hrc := h.rc hok hfree (service_fault hr) hcontext hwired
    have hkrc : k ≠ .rc := by
      rintro rfl
      rw [hrc] at hpresent
      simp at hpresent
    have hone := h.once hok (service_timersOk hr) hfree (service_fault hr) hcontext hwired hk hkrc
    refine ⟨hrc, fun proxy hmem => ?_⟩
    obtain ⟨kind, hget⟩ := ServiceProxies.get_of_mem hmem
    rw [hok.proxy_eq hcontext] at hget
    split at hget
    next hkind =>
      obtain rfl := Option.some.inj hget
      rw [hcount, countP_wiring_proxy hok hcontext, hone, Nat.one_mul]
      cases kind <;> simp_all
    · simp at hget
  · rintro ⟨hrc, hall⟩
    have hone : n = 1 := by
      have hget : x.serviceProxies.get k = some ⟨x.id, k⟩ := by
        rw [hok.proxy_eq hcontext, if_pos hpresent]
      have hproxy := hall _ (ServiceProxies.mem_of_get hget)
      rw [hcount, countP_wiring_proxy hok hcontext] at hproxy
      cases k <;> simp_all
    intro events w' hrun
    exact handle_events events hr (Option.isSome_of_eq_some hcontext)
      (apart_of_single hok hcontext hwired hone hrc) hrun

end Runs

theorem reaches_oneContext (cs : List Choice) (p : World → DeviceContext → Prop)
    [∀ w x, Decidable (p w x)]
    (h : ((runSchedule stepFn cs (start true)).any fun w =>
      (w.context.freed = false ∧ (w.devices 0).any fun dev =>
        dev.contexts.any fun x => x.id = 0 ∧ p w x : Bool)) = true) :
    ∃ is w dev x, (service true).Reaches is w ∧ w.context.freed = false ∧
      w.devices 0 = some dev ∧ x ∈ dev.contexts ∧ x.id = 0 ∧ p w x := by
  obtain ⟨is, w, hreaches, hw⟩ := service_reaches_of_schedule true cs
    (p := fun w => w.context.freed = false ∧ ((w.devices 0).any fun dev =>
      dev.contexts.any fun x => decide (x.id = 0 ∧ p w x)) = true) (by simpa using h)
  obtain ⟨hfree, hany⟩ := hw
  obtain ⟨dev, hdev, hany⟩ := (Option.any_eq_true _ _).mp hany
  obtain ⟨x, hx, hp⟩ := List.any_eq_true.mp hany
  obtain ⟨hid, hp⟩ := of_decide_eq_true hp
  exact ⟨is, w, dev, x, hreaches, hfree, hdev, hx, hid, hp⟩

/-- The services of a renderer with cm and av do not interfere. -/
theorem service_noInterference_twoServices :
    ∃ is w dev, ∃ x : DeviceContext, (service true).Reaches is w ∧ w.devices 0 = some dev ∧
      x ∈ dev.contexts ∧ x.subscribedAv = true ∧
      (w.NoInterference 0 x ↔ x.serviceProxies.rcProxy = none ∧
        ∀ proxy ∈ x.serviceProxies.toList,
          (w.gupnp.lostHandlers.countP fun h => h.proxy = proxy) = 1) ∧
      x.serviceProxies.rcProxy = none ∧ ∀ proxy ∈ x.serviceProxies.toList,
        (w.gupnp.lostHandlers.countP fun h => h.proxy = proxy) = 1 := by
  obtain ⟨is, w, dev, x, hreaches, hfree, hdev, hx, -, hav, hrc, hall⟩ := reaches_oneContext
    (.input (.available "uuid:r" "192.168.1.2" ⟨true, true, false⟩) :: oneRenderer.tail)
    (fun w x => x.subscribedAv = true ∧ x.serviceProxies.rcProxy = none ∧
      ∀ proxy ∈ x.serviceProxies.toList,
        (w.gupnp.lostHandlers.countP fun h => h.proxy = proxy) = 1) (by decide +kernel)
  exact ⟨is, w, dev, x, hreaches, hdev, hx, hav,
    service_noInterference hreaches hfree hdev hx (by simp [hav]), hrc, hall⟩

/-- A renderer with all three services loses av, and the timer of rc is started. -/
theorem service_noInterference_threeServices :
    ∃ is w dev, ∃ x : DeviceContext, (service true).Reaches is w ∧ w.context.freed = false ∧
      w.devices 0 = some dev ∧ x ∈ dev.contexts ∧ x.subscribedAv = true ∧
      ¬w.NoInterference 0 x := by
  obtain ⟨is, w, dev, x, hreaches, hfree, hdev, hx, hid, hav, hrc, htimeout, hlost⟩ :=
    reaches_oneContext oneRenderer (fun w x => x.subscribedAv = true ∧ x.present .rc = true ∧
      (w.service 0 0 .rc).timeoutId = false ∧
      ((runFrom stepFn [.subscriptionLost ⟨0, .av⟩] w).map fun w' =>
        (w'.service 0 0 .rc).timeoutId) = some true) (by decide +kernel)
  refine ⟨is, w, dev, x, hreaches, hfree, hdev, hx, hav, fun h => ?_⟩
  obtain ⟨w', hrun, htrue⟩ := Option.map_eq_some_iff.mp hlost
  have hspec := h [.lost .av] w' (by rw [hid]; exact hrun) .rc hrc
  rw [hid] at hspec
  have hflag : (w'.service 0 0 .rc).timeoutId = (w.service 0 0 .rc).timeoutId :=
    congrArg ServiceState.timeoutId hspec
  rw [htrue, htimeout] at hflag
  simp at hflag

end RendererService
