import RendererService.Service.Subscriptions

/-!
# Services that are left alone

Most changes of contexts leave the services of the contexts that remain alone,
with the handlers of "subscription-lost" that carry these contexts.
-/

namespace RendererService

open Transition

variable {w w' w'' : World} {d e c : Nat} {x : DeviceContext} {kind : ServiceKind}

/-! ## Handlers -/

def World.wired (w : World) (c : Nat) : List ProxyHandler :=
  w.gupnp.lostHandlers.filter fun h => h.context = c

theorem ContextsOk.live_attached {n : ProxyHandler} (hok : ContextsOk w) (hn : w.Attached n) :
    (w.context? n.device n.context).isSome ∧ n.proxy.context = n.context := by
  obtain ⟨core, x, hcore, hx, hid, hproxy⟩ := hn
  refine ⟨?_, (hok.devices.own _ _ _ _ hcore hx hproxy).trans hid⟩
  rw [context?_isSome, hcore, Option.any_some]
  exact List.any_eq_true.mpr ⟨x, hx, decide_eq_true hid⟩

theorem ContextsOk.owner (hok : ContextsOk w) (hd : (w.context? d c).isSome)
    (he : (w.context? e c).isSome) : e = d := by
  obtain ⟨x, hx⟩ := Option.isSome_iff_exists.mp hd
  obtain ⟨y, hy⟩ := Option.isSome_iff_exists.mp he
  obtain ⟨dev, hdev, hmem, hid⟩ := context?_some hx
  obtain ⟨dev', hdev', hmem', hid'⟩ := context?_some hy
  have hcore : w.core d = some dev.core := core_of_device hdev
  have hcore' : w.core e = some dev'.core := core_of_device hdev'
  exact (hok.devices.distinct d e _ _ x.core y.core hcore hcore' (List.mem_map_of_mem hmem)
    (List.mem_map_of_mem hmem') (hid.trans hid'.symm)).symm

theorem ContextsOk.service_of_none (hok : ContextsOk w) (hnone : w.context? d c = none)
    (kind : ServiceKind) :
    (w.service d c kind).subscribed = false ∧ (w.service d c kind).timeoutId = false ∧
      (w.service d c kind).notifies = 0 ∧ (w.service d c kind).timers = 0 := by
  have hdead : ¬(w.context? d c).isSome := by simp [hnone]
  refine ⟨by simp [World.service, hnone], by simp [World.service, hnone], ?_, ?_⟩
  · refine List.count_eq_zero.mpr fun hmem => hdead ?_
    exact (hok.live_attached (hok.attached.notifies _ hmem)).1
  · refine List.count_eq_zero.mpr fun hmem => hdead ?_
    obtain ⟨-, dev, x, hdev, hx, hid, -⟩ := hok.attached.retry _ hmem
    have hcontext := hok.context? hdev hx
    rw [hid] at hcontext
    exact Option.isSome_of_eq_some hcontext

theorem ContextsOk.wired_of_dead (hok : ContextsOk w) (hdead : ∀ d, w.context? d c = none) :
    w.wired c = [] := by
  refine List.filter_eq_nil_iff.mpr fun h hmem hc => ?_
  have hlive := (hok.live_attached (hok.attached.lostHandlers h hmem)).1
  rw [show h.context = c by simpa using hc, hdead] at hlive
  simp at hlive

/-! ## Changes that keep services -/

/-- The services of the contexts that are left are as before. -/
structure ServicesStay (w w' : World) : Prop where
  service : ∀ e c kind, (w'.context? e c).isSome → w'.service e c kind = w.service e c kind
  wired : ∀ e c, (w'.context? e c).isSome → w'.wired c = w.wired c

theorem ServicesStay.trans (h : ServicesStay w w') (h' : ServicesStay w' w'')
    (hlive : ∀ e c, (w''.context? e c).isSome → (w'.context? e c).isSome) :
    ServicesStay w w'' where
  service e c kind hsome :=
    (h'.service e c kind hsome).trans (h.service e c kind (hlive e c hsome))
  wired e c hsome := (h'.wired e c hsome).trans (h.wired e c (hlive e c hsome))

theorem ServicesStay.of_same (hcontext : ∀ e c, w'.context? e c = w.context? e c)
    (hnotifies : w'.gupnp.notifies = w.gupnp.notifies)
    (hlost : w'.gupnp.lostHandlers = w.gupnp.lostHandlers)
    (hsubscriptions : w'.gupnp.subscriptions = w.gupnp.subscriptions)
    (hretry : w'.loop.retryTimers = w.loop.retryTimers) : ServicesStay w w' where
  service e c kind _ := by
    simp only [World.service, hcontext, hnotifies, hsubscriptions, hretry]
  wired e c _ := by rw [World.wired, World.wired, hlost]

theorem context?_setDevice (w : World) (d : Nat) (dev : Option Device) (e c : Nat) :
    (w.setDevice d dev).context? e c =
      if e = d then dev.bind fun dev => dev.contexts.find? fun context => context.id = c
      else w.context? e c := by
  unfold World.context? World.setDevice
  dsimp only
  split <;> rfl

theorem context?_setDevice_same {dev : Device} (dev' : Device) (hdev : w.devices d = some dev)
    (hsame : dev'.contexts = dev.contexts) (e c : Nat) :
    (w.setDevice d (some dev')).context? e c = w.context? e c := by
  rw [context?_setDevice]
  split
  next he => rw [he, World.context?, hdev, Option.bind_some, Option.bind_some, hsame]
  · rfl

theorem context?_blankDevice (hd : w.devices d = none) (e c : Nat) :
    (w.blankDevice d).context? e c = w.context? e c := by
  rw [World.blankDevice, context?_setDevice]
  split
  next he =>
    rw [he, World.context?, hd]
    rfl
  · rfl

theorem service_prvDeviceAppendNewContext {dev : Device} (hdev : w.devices d = some dev)
    (ipAddress : String) (offered : DeviceServices) (e c : Nat) (kind : ServiceKind) :
    (prvDeviceAppendNewContext d ipAddress offered w).service e c kind = w.service e c kind := by
  let y : DeviceContext := (prvContextNew ipAddress offered w).1
  let w₁ : World := (prvContextNew ipAddress offered w).2
  have hdev₁ : w₁.devices d = some dev := hdev
  have heq : prvDeviceAppendNewContext d ipAddress offered w =
      w₁.setDevice d (some { dev with contexts := dev.contexts ++ [y] }) := by
    show w₁.withDevice d _ = _
    simp only [World.withDevice, hdev₁]
    rfl
  have hflags : ∀ p : DeviceContext → Bool, p y = false →
      ((prvDeviceAppendNewContext d ipAddress offered w).context? e c).any p =
        (w.context? e c).any p := by
    intro p hp
    rw [heq, context?_setDevice]
    split
    next he =>
      rw [he, World.context?, hdev, Option.bind_some, Option.bind_some, List.find?_append]
      cases dev.contexts.find? fun context => context.id = c with
      | some x => rfl
      | none =>
          rw [Option.none_or, List.find?_singleton]
          split
          · exact hp
          · rfl
    · rfl
  refine ServiceState.ext (hflags _ ?_) (hflags _ ?_) ?_ ?_ ?_
  · cases kind <;> rfl
  · cases kind <;> rfl
  all_goals rw [heq]; rfl

theorem ContextsOk.append {dev : Device} (hok : ContextsOk w) (hdev : w.devices d = some dev)
    (ipAddress : String) (offered : DeviceServices) :
    ContextsOk (prvDeviceAppendNewContext d ipAddress offered w) := by
  have hd : w.core d = some dev.core := core_of_device hdev
  exact ⟨hok.devices.gains (gains_prvDeviceAppendNewContext ipAddress offered hd) (.inl hd)
    (hok.devices.path d _ hd), hok.attached.appendContext hdev ipAddress offered⟩

theorem servicesStay_append {dev : Device} (hdev : w.devices d = some dev)
    (ipAddress : String) (offered : DeviceServices) :
    ServicesStay w (prvDeviceAppendNewContext d ipAddress offered w) := by
  refine ⟨fun e c kind _ => service_prvDeviceAppendNewContext hdev ipAddress offered e c kind,
    fun e c _ => ?_⟩
  simp only [prvDeviceAppendNewContext, prvContextNew, World.withDevice, hdev]
  rfl

/-! ### Contexts that leave -/

theorem service_modifyContext_of_ne {c' : Nat} (hc : c' ≠ c) {f : DeviceContext → DeviceContext}
    (hf : ∀ context, (f context).id = context.id) (e : Nat) (kind : ServiceKind) :
    (w.modifyContext d c f).service e c' kind = w.service e c' kind :=
  service_congr (context?_modifyContext_of_ne hc hf) (gupnp_modifyContext w d c f)
    (loop_modifyContext w d c f) kind

/-- Unsubscribing a context leaves other contexts alone, also if the device does not
have it any more. -/
theorem service_unsubscribe_of_ne (w : World) (d : Nat) {x : DeviceContext} (hc : c ≠ x.id)
    (e : Nat) (kind : ServiceKind) :
    (prvRsuContextUnsubscribe d x w).service e c kind = w.service e c kind := by
  have hretry : ∀ kind' w, (x.stopRetry d kind' w).service e c kind = w.service e c kind := by
    intro kind' w
    unfold DeviceContext.stopRetry
    split
    · exact (service_modifyContext_of_ne hc (setTimeoutId_id false kind') e kind).trans
        ((alters_eraseTimer w d x.id kind').others e c kind hc)
    · rfl
  have hnotify : ∀ kind' w, (x.stopNotify d kind' w).service e c kind = w.service e c kind := by
    intro kind' w
    unfold DeviceContext.stopNotify
    split
    · exact (service_modifyContext_of_ne hc (setSubscribed_id false kind') e kind).trans
        (((alters_setSubscribed _ d x.id kind' false).others e c kind hc).trans
          ((alters_removeNotify w d x.id kind').others e c kind hc))
    · rfl
  simp only [prvRsuContextUnsubscribe, hnotify, hretry]

theorem service_prvServiceProxiesFree (w : World) {gone : ServiceProxies}
    (hgone : ∀ p ∈ gone.toList, p.context ≠ c) (e : Nat) (kind : ServiceKind) :
    (prvServiceProxiesFree gone w).service e c kind = w.service e c kind := by
  have hstays : (⟨c, kind⟩ : ServiceProxy) ∉ gone.toList := fun hmem => hgone _ hmem rfl
  refine ServiceState.ext rfl rfl ?_ rfl ?_
  · exact List.count_filter (decide_eq_true hstays)
  · simp [World.service, prvServiceProxiesFree, hstays]

theorem wired_prvServiceProxiesFree (hown : ∀ h ∈ w.gupnp.lostHandlers, h.proxy.context = h.context)
    {gone : ServiceProxies} (hgone : ∀ p ∈ gone.toList, p.context ≠ c) :
    (prvServiceProxiesFree gone w).wired c = w.wired c := by
  show (w.gupnp.lostHandlers.filter fun h => h.proxy ∉ gone.toList).filter _ = _
  rw [List.filter_filter]
  refine List.filter_congr fun h hmem => ?_
  by_cases hc : h.context = c
  · have hstays : h.proxy ∉ gone.toList :=
      fun hin => hgone _ hin ((hown h hmem).trans hc)
    simp [hc, hstays]
  · simp [hc]

/-- A context that is deleted takes nothing of another context along. -/
theorem servicesKeep_prvRsuContextDelete (d : Nat) {x : DeviceContext}
    (hown : ∀ h ∈ w.gupnp.lostHandlers, h.proxy.context = h.context)
    (hproxies : ∀ p ∈ x.serviceProxies.toList, p.context = x.id) (hc : c ≠ x.id) :
    (∀ e kind, (prvRsuContextDelete d x w).service e c kind = w.service e c kind) ∧
      (prvRsuContextDelete d x w).wired c = w.wired c := by
  have hgone : ∀ p ∈ x.serviceProxies.toList, p.context ≠ c :=
    fun p hp heq => hc (heq.symm.trans (hproxies p hp))
  have hlost := lostHandlers_prvRsuContextUnsubscribe w d x
  constructor
  · intro e kind
    rw [prvRsuContextDelete, service_prvServiceProxiesFree _ hgone,
      service_unsubscribe_of_ne w d hc]
  · rw [prvRsuContextDelete, wired_prvServiceProxiesFree (by rwa [hlost]) hgone, World.wired, hlost]
    rfl

theorem ContextsOk.lostHandlers_own (hok : ContextsOk w) :
    ∀ h ∈ w.gupnp.lostHandlers, h.proxy.context = h.context :=
  fun h hmem => (hok.live_attached (hok.attached.lostHandlers h hmem)).2

theorem ContextsOk.proxies_own {dev : Device} (hok : ContextsOk w)
    (hdev : w.devices d = some dev) (hx : x ∈ dev.contexts) :
    ∀ p ∈ x.serviceProxies.toList, p.context = x.id := by
  intro p hp
  have hcore : w.core d = some dev.core := core_of_device hdev
  exact hok.devices.own d _ x.core p hcore (List.mem_map_of_mem hx) hp

/-- The first of a list that satisfies a test is what `eraseP` removes. -/
theorem eraseP_of_find? {α : Type} {p : α → Bool} {l : List α} {a : α} (h : l.find? p = some a) :
    ∃ l₁ l₂, l = l₁ ++ a :: l₂ ∧ l.eraseP p = l₁ ++ l₂ := by
  obtain ⟨hp, l₁, l₂, rfl, hl₁⟩ := List.find?_eq_some_iff_append.mp h
  refine ⟨l₁, l₂, rfl, ?_⟩
  rw [List.eraseP_append_right _ (by simpa using hl₁), List.eraseP_cons_of_pos hp]

theorem context?_eraseContext {dev : Device} {ipAddress : String} (hdev : w.devices d = some dev)
    (hfind : (dev.contexts.find? fun context => context.ipAddress = ipAddress) = some x)
    (hc : c ≠ x.id) (e : Nat) :
    (w.setDevice d (some { dev with
      contexts := dev.contexts.eraseP fun context => context.ipAddress = ipAddress })).context? e c
        = w.context? e c := by
  obtain ⟨l₁, l₂, hl, herase⟩ := eraseP_of_find? hfind
  rw [context?_setDevice]
  split
  next he =>
    rw [he, World.context?, hdev, Option.bind_some, Option.bind_some, herase, hl,
      List.find?_append, List.find?_append, List.find?_cons_of_neg (by simpa using hc.symm)]
  · rfl

theorem removeContext_ne {dev : Device} {ipAddress : String} (hok : ContextsOk w)
    (hdev : w.devices d = some dev)
    (hfind : (dev.contexts.find? fun context => context.ipAddress = ipAddress) = some x)
    (hlive : ((w.removeContext d dev x ipAddress).context? e c).isSome) : c ≠ x.id := by
  rintro rfl
  let w₁ := w.setDevice d (some { dev with
    contexts := dev.contexts.eraseP fun context => context.ipAddress = ipAddress })
  have hlive₁ : (w₁.context? e x.id).isSome := by
    rw [← (cosmetic_prvRsuContextUnsubscribe d x).context?_isSome]
    exact hlive
  have hmem := List.mem_of_find?_eq_some hfind
  rw [context?_setDevice] at hlive₁
  split at hlive₁
  · obtain ⟨l₁, l₂, hl, herase⟩ := eraseP_of_find? hfind
    have hnodup := hok.nodup hdev
    rw [hl, List.map_append, List.map_cons] at hnodup
    rw [Option.bind_some, herase, List.find?_isSome] at hlive₁
    obtain ⟨y, hy, hid⟩ := hlive₁
    have hnew : x.id ∉ (l₁ ++ l₂).map DeviceContext.id := by
      rw [List.map_append]
      exact (List.nodup_cons.mp (List.nodup_middle.mp hnodup)).1
    exact hnew (List.mem_map.mpr ⟨y, hy, by simpa using hid⟩)
  next he =>
    exact he (hok.owner (Option.isSome_of_eq_some (hok.context? hdev hmem)) hlive₁)

theorem servicesStay_removeContext {dev : Device} {ipAddress : String} (hok : ContextsOk w)
    (hdev : w.devices d = some dev)
    (hfind : (dev.contexts.find? fun context => context.ipAddress = ipAddress) = some x) :
    ServicesStay w (w.removeContext d dev x ipAddress) := by
  let w₁ := w.setDevice d (some { dev with
    contexts := dev.contexts.eraseP fun context => context.ipAddress = ipAddress })
  have hkeep : ∀ e c, ((w.removeContext d dev x ipAddress).context? e c).isSome →
      (∀ e kind, (w.removeContext d dev x ipAddress).service e c kind = w₁.service e c kind) ∧
        (w.removeContext d dev x ipAddress).wired c = w₁.wired c := fun e c hlive =>
    servicesKeep_prvRsuContextDelete (w := w₁) d hok.lostHandlers_own
      (hok.proxies_own hdev (List.mem_of_find?_eq_some hfind))
      (removeContext_ne hok hdev hfind hlive)
  refine ⟨fun e c kind hlive => ?_, fun e c hlive => (hkeep e c hlive).2⟩
  rw [(hkeep e c hlive).1]
  exact service_congr (context?_eraseContext hdev hfind (removeContext_ne hok hdev hfind hlive) e)
    rfl rfl kind

theorem servicesKeep_deleteContexts (d : Nat) {contexts : List DeviceContext}
    (hproxies : ∀ x ∈ contexts, c ≠ x.id ∧ ∀ p ∈ x.serviceProxies.toList, p.context = x.id) :
    ∀ w : World, (∀ h ∈ w.gupnp.lostHandlers, h.proxy.context = h.context) →
      (∀ e kind, (contexts.foldl (fun w context => prvRsuContextDelete d context w) w).service e c
          kind = w.service e c kind) ∧
        (contexts.foldl (fun w context => prvRsuContextDelete d context w) w).wired c
          = w.wired c := by
  induction contexts with
  | nil => exact fun w _ => ⟨fun _ _ => rfl, rfl⟩
  | cons x contexts ih =>
      intro w hown
      obtain ⟨hx, hrest⟩ := List.forall_mem_cons.mp hproxies
      obtain ⟨hservice, hwired⟩ := servicesKeep_prvRsuContextDelete (w := w) d hown hx.2 hx.1
      have hlost := lostHandlers_prvRsuContextUnsubscribe w d x
      have hown' : ∀ h ∈ (prvRsuContextDelete d x w).gupnp.lostHandlers,
          h.proxy.context = h.context := by
        intro h hmem
        have hold : h ∈ (prvRsuContextUnsubscribe d x w).gupnp.lostHandlers :=
          (List.mem_filter.mp hmem).1
        rw [hlost] at hold
        exact hown h hold
      obtain ⟨hservice', hwired'⟩ := ih hrest _ hown'
      exact ⟨fun e kind => (hservice' e kind).trans (hservice e kind), hwired'.trans hwired⟩

theorem servicesStay_rsuDeviceDelete {dev : Device} (hok : ContextsOk w)
    (hdev : w.devices d = some dev) : ServicesStay w (rsuDeviceDelete d w) := by
  obtain ⟨hdevices, hgupnp, hretry, -⟩ := stopTimer_same w dev.timeoutId
  have hcore : w.core d = some dev.core := core_of_device hdev
  have hlive : ∀ e c, ((rsuDeviceDelete d w).context? e c).isSome →
      e ≠ d ∧ ∀ x ∈ dev.contexts, c ≠ x.id := by
    intro e c hsome
    rw [context?_isSome, (frees_rsuDeviceDelete hcore).2] at hsome
    split at hsome
    · simp at hsome
    next he =>
      refine ⟨he, ?_⟩
      rintro x hx rfl
      rw [← context?_isSome] at hsome
      exact he (hok.owner (Option.isSome_of_eq_some (hok.context? hdev hx)) hsome)
  have hkeep : ∀ e c, ((rsuDeviceDelete d w).context? e c).isSome → _ := fun e c hsome =>
    servicesKeep_deleteContexts (c := c) d
      (fun x hx => ⟨(hlive e c hsome).2 x hx, hok.proxies_own hdev hx⟩)
      (w.stopTimer dev.timeoutId) (by
        rw [hgupnp]
        exact hok.lostHandlers_own)
  constructor
  · intro e c kind hsome
    have hstop : (w.stopTimer dev.timeoutId).service e c kind = w.service e c kind := by
      simp only [World.service, context?_congr hdevices, hgupnp, hretry]
    have hset : ∀ w : World, (w.setDevice d none).context? e c = w.context? e c := by
      intro w
      rw [context?_setDevice, if_neg (hlive e c hsome).1]
    rw [← hstop, ← (hkeep e c hsome).1, rsuDeviceDelete_eq hdev]
    exact service_congr (hset _) rfl rfl kind
  · intro e c hsome
    have hstop : (w.stopTimer dev.timeoutId).wired c = w.wired c := by
      rw [World.wired, World.wired, hgupnp]
    rw [← hstop, ← (hkeep e c hsome).2, rsuDeviceDelete_eq hdev]
    rfl

/-! ### Calm changes -/

def ConnectAct.isCalm : ConnectAct → Bool
  | .stay | .construct _ _ _ | .remove _ _ | .later _ | .delete _ | .declare _ => true
  | .extend _ _ _ | .settle _ | .fire _ _ | .lose _ | .expire _ | .unsubscribe _ => false

theorem Connects.servicesStay {act : ConnectAct} (hok : ContextsOk w) (hstep : Connects w act w')
    (hcalm : act.isCalm = true) : ServicesStay w w' := by
  cases hstep with
  | stay hstay =>
      exact .of_same (fun e c => context?_congr hstay.devices e c) hstay.notifies
        hstay.lostHandlers hstay.subscriptions hstay.retryTimers
  | @construct d ipAddress offered hd _ =>
      have hblank : ∀ e c, (w.blankDevice d).context? e c = w.context? e c :=
        context?_blankDevice hd
      have hdev :
          (w.blankDevice d).devices d = some { path := rsuServerPath ++ "/" ++ toString d } :=
        if_pos rfl
      have happend := servicesStay_append hdev ipAddress offered
      constructor
      · intro e c kind hsome
        rw [happend.service e c kind hsome]
        exact service_congr (hblank e c) rfl rfl kind
      · intro e c hsome
        rw [happend.wired e c hsome]
        rfl
  | remove hdev hcontext => exact servicesStay_removeContext hok hdev hcontext
  | @later d dev hdev _ _ =>
      let w₁ : World := { w with
        loop := { w.loop with
          nextSource := w.loop.nextSource + 1
          subscribeTimers := w.loop.subscribeTimers ++ [(w.loop.nextSource, d)] } }
      let dev' : Device := { dev with timeoutId := w.loop.nextSource }
      have heq : subscribeLater d w = w₁.setDevice d (some dev') := by
        simp only [subscribeLater, World.withDevice, hdev]
        rfl
      have hcontext : ∀ e c, (w₁.setDevice d (some dev')).context? e c = w.context? e c :=
        context?_setDevice_same (w := w₁) dev' hdev rfl
      rw [heq]
      exact .of_same hcontext rfl rfl rfl rfl
  | delete hdev => exact servicesStay_rsuDeviceDelete hok hdev
  | @declare d dev ids hdev =>
      have hcontext := context?_setDevice_same { dev with ids := ids } hdev rfl
      exact .of_same hcontext rfl rfl rfl rfl
  | _ => simp [ConnectAct.isCalm] at hcalm

/-! ## Contexts that remain -/

/-- A context of a device was there before, or its number is new. -/
def ContextsFrom (w w' : World) : Prop :=
  ∀ d k, w'.core d = some k → ∀ y ∈ k.contexts,
    (∃ k₀, w.core d = some k₀ ∧ y ∈ k₀.contexts) ∨ y.id = w.gupnp.nextContext

theorem ContextsFrom.of_core (h : ∀ d, w'.core d = w.core d) : ContextsFrom w w' :=
  fun d k hk _ hy => .inl ⟨k, h d ▸ hk, hy⟩

theorem contextsFrom_append {dev : Device} (hdev : w.devices d = some dev) (ipAddress : String)
    (offered : DeviceServices) :
    ContextsFrom w (prvDeviceAppendNewContext d ipAddress offered w) := by
  have hd : w.core d = some dev.core := core_of_device hdev
  have hcore := (gains_prvDeviceAppendNewContext ipAddress offered hd).core
  intro e k hk y hy
  rw [hcore] at hk
  split at hk
  next he =>
    subst he
    obtain rfl := Option.some.inj hk
    rcases List.mem_append.mp hy with hold | hnew
    · exact .inl ⟨_, hd, hold⟩
    · obtain rfl := List.mem_singleton.mp hnew
      exact .inr rfl
  · exact .inl ⟨k, hk, hy⟩

theorem Connects.contextsFrom {act : ConnectAct} (hstep : Connects w act w')
    (hcalm : act.isCalm = true) : ContextsFrom w w' := by
  cases hstep with
  | stay hstay => exact .of_core fun d => by rw [World.core, World.core, hstay.devices]
  | @construct d ipAddress offered hd _ =>
      intro e k hk y hy
      rw [(gains_blankDevice w d ipAddress offered).core] at hk
      split at hk
      · obtain rfl := Option.some.inj hk
        rcases List.mem_append.mp hy with hold | hnew
        · simp at hold
        · obtain rfl := List.mem_singleton.mp hnew
          exact .inr rfl
      next he =>
        rw [World.blankDevice, core_setDevice, if_neg he] at hk
        exact .inl ⟨k, hk, hy⟩
  | @remove d dev context ipAddress hdev _ =>
      intro e k hk y hy
      rw [World.removeContext, (frees_removeContext d dev context _).2] at hk
      split at hk
      next he =>
        obtain rfl := Option.some.inj hk
        refine .inl ⟨dev.core, by simp [World.core, he, hdev], ?_⟩
        exact ((List.eraseP_sublist).map _).subset hy
      · exact .inl ⟨k, hk, hy⟩
  | later hdev _ _ => exact .of_core (cosmetic_subscribeLater _).core
  | @delete d dev hdev =>
      have hd : w.core d = some dev.core := core_of_device hdev
      intro e k hk _ hy
      rw [(frees_rsuDeviceDelete hd).2] at hk
      split at hk
      · simp at hk
      · exact .inl ⟨k, hk, hy⟩
  | @declare d dev ids hdev =>
      have hsame : Cosmetic w (w.setDevice d (some { dev with ids := ids })) :=
        cosmetic_setDevice hdev rfl
      exact .of_core hsame.core
  | _ => simp [ConnectAct.isCalm] at hcalm

end RendererService
