import RendererService.Service.Connections

/-!
# Subscriptions

The subscription of a service is kept in several places: two flags of its
context, the notify callbacks on its proxy, its retry timer and GUPnP.  Together
they are the state of a small machine, and what each function of device.c does
to it is said once, service by service.
-/

namespace RendererService

open Transition

variable {w w' w'' : World} {d c : Nat} {x y : DeviceContext} {kind : ServiceKind}

/-! ## Looking at one context -/

def World.context? (w : World) (d c : Nat) : Option DeviceContext :=
  (w.devices d).bind fun dev => dev.contexts.find? fun context => context.id = c

theorem context?_congr (h : w'.devices = w.devices) (d c : Nat) :
    w'.context? d c = w.context? d c := by
  unfold World.context?
  rw [h]

theorem context?_some (h : w.context? d c = some x) :
    ∃ dev, w.devices d = some dev ∧ x ∈ dev.contexts ∧ x.id = c := by
  obtain ⟨dev, hdev, hfind⟩ := Option.bind_eq_some_iff.mp h
  exact ⟨dev, hdev, List.mem_of_find?_eq_some hfind, by simpa using List.find?_some hfind⟩

theorem ContextsOk.nodup {dev : Device} (h : ContextsOk w) (hdev : w.devices d = some dev) :
    (dev.contexts.map DeviceContext.id).Nodup := by
  have hd : w.core d = some dev.core := core_of_device hdev
  simpa [Device.core, DeviceContext.core, Function.comp_def] using h.devices.nodup d _ hd

theorem ContextsOk.context? {dev : Device} (h : ContextsOk w) (hdev : w.devices d = some dev)
    (hx : x ∈ dev.contexts) : w.context? d x.id = some x := by
  have hsome : (dev.contexts.find? fun context => context.id = x.id).isSome :=
    List.find?_isSome.mpr ⟨x, hx, decide_eq_true rfl⟩
  obtain ⟨y, hy⟩ := Option.isSome_iff_exists.mp hsome
  have hid : y.id = x.id := by simpa using List.find?_some hy
  have hsame : y = x :=
    List.inj_on_of_nodup_map (h.nodup hdev) (List.mem_of_find?_eq_some hy) hx hid
  rw [World.context?, hdev, Option.bind_some, hy, hsame]

theorem context?_isSome (w : World) (d c : Nat) :
    (w.context? d c).isSome =
      (w.core d).any fun core => core.contexts.any fun context => context.id = c := by
  unfold World.context? World.core
  cases w.devices d with
  | none => rfl
  | some dev =>
      simp only [Option.bind_some, Option.map_some, Option.any_some, Device.core, List.any_map]
      rw [List.isSome_find?]
      rfl

theorem Cosmetic.context?_isSome (h : Cosmetic w w') (d c : Nat) :
    (w'.context? d c).isSome = (w.context? d c).isSome := by
  rw [RendererService.context?_isSome, RendererService.context?_isSome, h.core]

theorem context?_modifyContext (w : World) (d c e c' : Nat) {f : DeviceContext → DeviceContext}
    (hf : ∀ context, (f context).id = context.id) :
    (w.modifyContext d c f).context? e c' =
      if e = d ∧ c' = c then (w.context? d c).map f else w.context? e c' := by
  unfold World.context?
  rw [devices_modifyContext]
  by_cases he : e = d
  · subst he
    rw [if_pos rfl]
    cases hdev : w.devices e with
    | none => simp
    | some dev =>
        let g := fun context : DeviceContext => if context.id = c then f context else context
        have hg : ∀ context, (g context).id = context.id := by
          intro context
          show (if context.id = c then f context else context).id = _
          split
          · exact hf context
          · rfl
        have hfind : ((dev.contexts.map g).find? fun context => context.id = c') =
            (dev.contexts.find? fun context => context.id = c').map g := by
          rw [List.find?_map]
          congr 2
          funext context
          simp [hg]
        rw [Option.map_some, Option.bind_some, Option.bind_some]
        refine hfind.trans ?_
        cases hx : dev.contexts.find? fun context => context.id = c' with
        | none =>
            rw [Option.map_none]
            split
            next hboth =>
              obtain ⟨-, rfl⟩ := hboth
              rw [hx, Option.map_none]
            · exact hx.symm
        | some x =>
            have hid : x.id = c' := by simpa using List.find?_some hx
            by_cases hc : c' = c
            · have hx' : (dev.contexts.find? fun context => context.id = c) = some x := hc ▸ hx
              rw [if_pos ⟨rfl, hc⟩, hx', Option.map_some, Option.map_some]
              exact congrArg some (if_pos (hid.trans hc))
            · rw [if_neg fun hboth => hc hboth.2, Option.bind_some, hx, Option.map_some]
              exact congrArg some (if_neg fun hsame => hc (hid.symm.trans hsame))
  · rw [if_neg he, if_neg fun hboth => he hboth.1]

theorem setSubscribed_id (b : Bool) (kind : ServiceKind) (context : DeviceContext) :
    (context.setSubscribed b kind).id = context.id :=
  congrArg ContextCore.id (setSubscribed_core b kind context)

theorem setTimeoutId_id (b : Bool) (kind : ServiceKind) (context : DeviceContext) :
    (context.setTimeoutId b kind).id = context.id :=
  congrArg ContextCore.id (setTimeoutId_core b kind context)

theorem setSubscribed_subscribed (b : Bool) (kind kind' : ServiceKind) (context : DeviceContext) :
    (context.setSubscribed b kind).subscribed kind' =
      if kind' = kind then b else context.subscribed kind' := by
  cases kind <;> cases kind' <;> rfl

theorem setTimeoutId_subscribed (b : Bool) (kind kind' : ServiceKind) (context : DeviceContext) :
    (context.setTimeoutId b kind).subscribed kind' = context.subscribed kind' := by
  cases kind <;> cases kind' <;> rfl

/-! ## The state of a service -/

/-- What the process keeps for one service of a context: its flags, how often its
notify callback is registered and its retry timer is pending, and whether GUPnP
holds a subscription. -/
@[ext]
structure ServiceState where
  subscribed : Bool
  timeoutId : Bool
  notifies : Nat
  timers : Nat
  live : Bool
deriving DecidableEq, Repr

namespace ServiceState

def subscribe (s : ServiceState) : ServiceState :=
  { s with subscribed := true, notifies := s.notifies + 1, live := true }

def stopRetry (s : ServiceState) : ServiceState :=
  if s.timeoutId then { s with timeoutId := false, timers := s.timers - 1 } else s

def stopNotify (s : ServiceState) : ServiceState :=
  if s.subscribed then { s with subscribed := false, notifies := s.notifies - 1, live := false }
  else s

def unsubscribe (s : ServiceState) : ServiceState := s.stopRetry.stopNotify

def drop (s : ServiceState) : ServiceState := { s with live := false }

def lost (s : ServiceState) : ServiceState :=
  if s.timeoutId then
    { s with
      subscribed := false
      timeoutId := false
      notifies := s.notifies - 1
      timers := s.timers - 1 }
  else { s with timeoutId := true, timers := s.timers + 1, live := true }

def expire (s : ServiceState) : ServiceState :=
  { s with timeoutId := false, timers := s.timers - 1 }

def only (kind : ServiceKind) (f : ServiceState → ServiceState) (kind' : ServiceKind)
    (s : ServiceState) : ServiceState :=
  if kind' = kind then f s else s

theorem only_self (kind : ServiceKind) (f : ServiceState → ServiceState) (s : ServiceState) :
    only kind f kind s = f s :=
  if_pos rfl

theorem stopRetry_subscribed (s : ServiceState) : s.stopRetry.subscribed = s.subscribed := by
  unfold stopRetry
  split <;> rfl

theorem unsubscribe_subscribed (s : ServiceState) : s.unsubscribe.subscribed = false := by
  unfold unsubscribe stopNotify
  split
  · rfl
  next h => simpa using h

theorem only_of_ne {kind kind' : ServiceKind} (h : kind' ≠ kind) (f : ServiceState → ServiceState)
    (s : ServiceState) : only kind f kind' s = s :=
  if_neg h

end ServiceState

/-- The callback of a service: its notify callback and its retry timer. -/
def serviceHandler (d c : Nat) (kind : ServiceKind) : ProxyHandler := ⟨⟨c, kind⟩, kind, d, c⟩

def World.service (w : World) (d c : Nat) (kind : ServiceKind) : ServiceState where
  subscribed := (w.context? d c).any fun context => context.subscribed kind
  timeoutId := (w.context? d c).any fun context => context.timeoutId kind
  notifies := w.gupnp.notifies.count (serviceHandler d c kind)
  timers := w.loop.retryTimers.count (serviceHandler d c kind)
  live := w.gupnp.subscriptions.contains ⟨c, kind⟩

/-- The services of one context change, those of other contexts do not. -/
structure Alters (d c : Nat) (f : ServiceKind → ServiceState → ServiceState) (w w' : World) :
    Prop where
  own : ∀ kind, w'.service d c kind = f kind (w.service d c kind)
  others : ∀ e c' kind, c' ≠ c → w'.service e c' kind = w.service e c' kind

namespace Alters

variable {f g : ServiceKind → ServiceState → ServiceState}

theorem trans (h : Alters d c f w w') (h' : Alters d c g w' w'') :
    Alters d c (fun kind s => g kind (f kind s)) w w'' where
  own kind := by rw [h'.own, h.own]
  others e c' kind hc := (h'.others e c' kind hc).trans (h.others e c' kind hc)

theorem congr (h : Alters d c f w w')
    (hfg : ∀ kind, f kind (w.service d c kind) = g kind (w.service d c kind)) :
    Alters d c g w w' where
  own kind := (h.own kind).trans (hfg kind)
  others := h.others

theorem refl : Alters d c (fun _ s => s) w w := ⟨fun _ => rfl, fun _ _ _ _ => rfl⟩

end Alters

/-! ## Elementary changes -/

/-- A change of one service is known from that service and from all others. -/
theorem Alters.of_service {f : ServiceState → ServiceState} (kind : ServiceKind)
    (hself : w'.service d c kind = f (w.service d c kind))
    (hothers : ∀ e c' kind', ¬(c' = c ∧ kind' = kind) →
      w'.service e c' kind' = w.service e c' kind') :
    Alters d c (ServiceState.only kind f) w w' := by
  refine ⟨fun kind' => ?_, fun e c' kind' hc => hothers e c' kind' fun hboth => hc hboth.1⟩
  by_cases hkind : kind' = kind
  · subst hkind
    rw [ServiceState.only_self, hself]
  · rw [ServiceState.only_of_ne hkind]
    exact hothers d c kind' fun hboth => hkind hboth.2

theorem context?_modifyContext_self (hx : w.context? d c = some x)
    {f : DeviceContext → DeviceContext} (hf : ∀ context, (f context).id = context.id) :
    (w.modifyContext d c f).context? d c = some (f x) := by
  rw [context?_modifyContext w d c d c hf, if_pos ⟨rfl, rfl⟩, hx, Option.map_some]

theorem context?_modifyContext_of_ne {e c' : Nat} (hc : c' ≠ c)
    {f : DeviceContext → DeviceContext} (hf : ∀ context, (f context).id = context.id) :
    (w.modifyContext d c f).context? e c' = w.context? e c' := by
  rw [context?_modifyContext w d c e c' hf, if_neg fun hboth => hc hboth.2]

theorem service_of_context (hx : w.context? d c = some x) (kind : ServiceKind) :
    (w.service d c kind).subscribed = x.subscribed kind ∧
      (w.service d c kind).timeoutId = x.timeoutId kind := by
  simp only [World.service, hx, Option.any_some, and_self]

theorem service_congr {w' : World} {e c' : Nat} (hcontext : w'.context? e c' = w.context? e c')
    (hgupnp : w'.gupnp = w.gupnp) (hloop : w'.loop = w.loop) (kind : ServiceKind) :
    w'.service e c' kind = w.service e c' kind := by
  simp only [World.service, hcontext, hgupnp, hloop]

/-- The flags of one service are changed, those of the other two stay. -/
theorem alters_modifyContext (kind : ServiceKind) (subscribed timeoutId : Bool)
    (hx : w.context? d c = some x) {f : DeviceContext → DeviceContext}
    (hf : ∀ context, (f context).id = context.id)
    (hsubscribed : ∀ kind', (f x).subscribed kind' =
      if kind' = kind then subscribed else x.subscribed kind')
    (htimeoutId : ∀ kind', (f x).timeoutId kind' =
      if kind' = kind then timeoutId else x.timeoutId kind') :
    Alters d c (ServiceState.only kind fun s =>
      { s with subscribed := subscribed, timeoutId := timeoutId }) w (w.modifyContext d c f) := by
  have hx' := context?_modifyContext_self hx hf
  refine ⟨fun kind' => ?_, fun e c' kind' hc => service_congr
    (context?_modifyContext_of_ne hc hf) (gupnp_modifyContext w d c _)
    (loop_modifyContext w d c _) kind'⟩
  by_cases hkind : kind' = kind
  · subst hkind
    rw [ServiceState.only_self]
    simp only [World.service, hx', Option.any_some, hsubscribed, htimeoutId,
      gupnp_modifyContext, loop_modifyContext, if_true]
  · rw [ServiceState.only_of_ne hkind]
    simp only [World.service, hx, hx', Option.any_some, hsubscribed, htimeoutId,
      gupnp_modifyContext, loop_modifyContext, if_neg hkind]

theorem alters_setSubscribedFlag (hsome : (w.context? d c).isSome) (b : Bool)
    (kind : ServiceKind) :
    Alters d c (ServiceState.only kind fun s => { s with subscribed := b }) w
      (w.modifyContext d c fun context => context.setSubscribed b kind) := by
  obtain ⟨x, hx⟩ := Option.isSome_iff_exists.mp hsome
  have hflags := alters_modifyContext kind b (x.timeoutId kind) hx (setSubscribed_id b kind)
    (fun kind' => setSubscribed_subscribed b kind kind' x) fun kind' => by
      rw [setSubscribed_timeoutId]
      split
      next hkind => rw [hkind]
      · rfl
  refine hflags.congr fun kind' => ?_
  by_cases hkind : kind' = kind
  · subst hkind
    rw [ServiceState.only_self, ServiceState.only_self, ← (service_of_context hx kind').2]
  · rw [ServiceState.only_of_ne hkind, ServiceState.only_of_ne hkind]

theorem alters_setTimeoutIdFlag (hsome : (w.context? d c).isSome) (b : Bool)
    (kind : ServiceKind) :
    Alters d c (ServiceState.only kind fun s => { s with timeoutId := b }) w
      (w.modifyContext d c fun context => context.setTimeoutId b kind) := by
  obtain ⟨x, hx⟩ := Option.isSome_iff_exists.mp hsome
  have hflags := alters_modifyContext kind (x.subscribed kind) b hx
    (setTimeoutId_id b kind) (fun kind' => by
      rw [setTimeoutId_subscribed]
      split
      next hkind => rw [hkind]
      · rfl) fun kind' => setTimeoutId_timeoutId b kind kind' x
  refine hflags.congr fun kind' => ?_
  by_cases hkind : kind' = kind
  · subst hkind
    rw [ServiceState.only_self, ServiceState.only_self, ← (service_of_context hx kind').1]
  · rw [ServiceState.only_of_ne hkind, ServiceState.only_of_ne hkind]

theorem serviceHandler_inj {d c e c' : Nat} {kind kind' : ServiceKind}
    (h : serviceHandler d c kind = serviceHandler e c' kind') : c = c' ∧ kind = kind' :=
  ⟨congrArg ProxyHandler.context h, congrArg ProxyHandler.kind h⟩

theorem count_serviceHandler_of_ne {d c e c' : Nat} {kind kind' : ServiceKind}
    (l : List ProxyHandler) (h : ¬(c' = c ∧ kind' = kind)) :
    (l ++ [serviceHandler d c kind]).count (serviceHandler e c' kind') =
        l.count (serviceHandler e c' kind') ∧
      (l.erase (serviceHandler d c kind)).count (serviceHandler e c' kind') =
        l.count (serviceHandler e c' kind') := by
  have hne : serviceHandler e c' kind' ≠ serviceHandler d c kind :=
    fun heq => h (serviceHandler_inj heq)
  constructor
  · rw [List.count_append, List.count_singleton, if_neg (by simpa using hne.symm), Nat.add_zero]
  · exact List.count_erase_of_ne hne

theorem alters_addNotify (w : World) (d c : Nat) (kind : ServiceKind) :
    Alters d c (ServiceState.only kind fun s => { s with notifies := s.notifies + 1 }) w
      (w.setNotifies (w.gupnp.notifies ++ [serviceHandler d c kind])) := by
  apply Alters.of_service
  · refine ServiceState.ext rfl rfl ?_ rfl rfl
    show (w.gupnp.notifies ++ [serviceHandler d c kind]).count _ = _
    rw [List.count_append, List.count_singleton_self]
    rfl
  · intro e c' kind' hne
    exact ServiceState.ext rfl rfl (count_serviceHandler_of_ne _ hne).1 rfl rfl

theorem alters_removeNotify (w : World) (d c : Nat) (kind : ServiceKind) :
    Alters d c (ServiceState.only kind fun s => { s with notifies := s.notifies - 1 }) w
      (gupnpServiceProxyRemoveNotify (serviceHandler d c kind) w) := by
  apply Alters.of_service
  · exact ServiceState.ext rfl rfl List.count_erase_self rfl rfl
  · intro e c' kind' hne
    exact ServiceState.ext rfl rfl (count_serviceHandler_of_ne _ hne).2 rfl rfl

theorem alters_addTimer (w : World) (d c : Nat) (kind : ServiceKind) :
    Alters d c (ServiceState.only kind fun s => { s with timers := s.timers + 1 }) w
      (w.setRetryTimers (w.loop.retryTimers ++ [serviceHandler d c kind])) := by
  apply Alters.of_service
  · refine ServiceState.ext rfl rfl rfl ?_ rfl
    show (w.loop.retryTimers ++ [serviceHandler d c kind]).count _ = _
    rw [List.count_append, List.count_singleton_self]
    rfl
  · intro e c' kind' hne
    exact ServiceState.ext rfl rfl rfl (count_serviceHandler_of_ne _ hne).1 rfl

theorem alters_eraseTimer (w : World) (d c : Nat) (kind : ServiceKind) :
    Alters d c (ServiceState.only kind fun s => { s with timers := s.timers - 1 }) w
      (w.setRetryTimers (w.loop.retryTimers.erase (serviceHandler d c kind))) := by
  apply Alters.of_service
  · exact ServiceState.ext rfl rfl rfl List.count_erase_self rfl
  · intro e c' kind' hne
    exact ServiceState.ext rfl rfl rfl (count_serviceHandler_of_ne _ hne).2 rfl

theorem alters_setSubscribed (w : World) (d c : Nat) (kind : ServiceKind) (b : Bool) :
    Alters d c (ServiceState.only kind fun s => { s with live := b }) w
      (gupnpServiceProxySetSubscribed ⟨c, kind⟩ b w) := by
  apply Alters.of_service
  · refine ServiceState.ext rfl rfl rfl rfl ?_
    simp only [World.service, gupnpServiceProxySetSubscribed, World.setSubscriptions]
    cases b <;> simp
  · intro e c' kind' hne
    refine ServiceState.ext rfl rfl rfl rfl ?_
    simp only [World.service, gupnpServiceProxySetSubscribed, World.setSubscriptions]
    cases b <;> simp [hne]

/-! ## Unsubscribing -/

theorem alters_stopRetry (kind : ServiceKind) (hsome : (w.context? d x.id).isSome)
    (hflag : (w.service d x.id kind).timeoutId = x.timeoutId kind) :
    Alters d x.id (ServiceState.only kind ServiceState.stopRetry) w (x.stopRetry d kind w) := by
  unfold DeviceContext.stopRetry
  split
  next htimeout =>
    have herase := alters_eraseTimer w d x.id kind
    have hclear := alters_setTimeoutIdFlag
      (w := w.setRetryTimers (w.loop.retryTimers.erase (x.notify d kind))) hsome false kind
    refine (herase.trans hclear).congr fun kind' => ?_
    by_cases hkind : kind' = kind
    · subst hkind
      simp only [ServiceState.only_self, ServiceState.stopRetry, hflag, htimeout, if_true]
    · simp only [ServiceState.only_of_ne hkind]
  next htimeout =>
    refine Alters.refl.congr fun kind' => ?_
    by_cases hkind : kind' = kind
    · subst hkind
      rw [ServiceState.only_self, ServiceState.stopRetry, hflag, if_neg htimeout]
    · rw [ServiceState.only_of_ne hkind]

theorem alters_stopNotify (kind : ServiceKind) (hsome : (w.context? d x.id).isSome)
    (hflag : (w.service d x.id kind).subscribed = x.subscribed kind) :
    Alters d x.id (ServiceState.only kind ServiceState.stopNotify) w (x.stopNotify d kind w) := by
  unfold DeviceContext.stopNotify
  split
  next hsubscribed =>
    let w₁ := gupnpServiceProxyRemoveNotify (x.notify d kind) w
    have hremove := alters_removeNotify w d x.id kind
    have hend := alters_setSubscribed w₁ d x.id kind false
    have hclear := alters_setSubscribedFlag
      (w := gupnpServiceProxySetSubscribed ⟨x.id, kind⟩ false w₁) hsome false kind
    refine ((hremove.trans hend).trans hclear).congr fun kind' => ?_
    by_cases hkind : kind' = kind
    · subst hkind
      simp only [ServiceState.only_self, ServiceState.stopNotify, hflag, hsubscribed, if_true]
    · simp only [ServiceState.only_of_ne hkind]
  next hsubscribed =>
    refine Alters.refl.congr fun kind' => ?_
    by_cases hkind : kind' = kind
    · subst hkind
      rw [ServiceState.only_self, ServiceState.stopNotify, hflag, if_neg hsubscribed]
    · rw [ServiceState.only_of_ne hkind]

structure World.Shows (w : World) (d : Nat) (x : DeviceContext) : Prop where
  isSome : (w.context? d x.id).isSome
  flags : ∀ kind, (w.service d x.id kind).subscribed = x.subscribed kind ∧
    (w.service d x.id kind).timeoutId = x.timeoutId kind

theorem World.Shows.of_context (hx : w.context? d x.id = some x) : w.Shows d x :=
  ⟨Option.isSome_of_eq_some hx, service_of_context hx⟩

/-- The retry timers and then the notify callbacks of the three services go. -/
theorem alters_prvRsuContextUnsubscribe (h : w.Shows d x) :
    Alters d x.id (fun _ => ServiceState.unsubscribe) w (prvRsuContextUnsubscribe d x w) := by
  obtain ⟨hsome, hflags⟩ := h
  let w₁ := x.stopRetry d .cm w
  let w₂ := x.stopRetry d .av w₁
  let w₃ := x.stopRetry d .rc w₂
  let w₄ := x.stopNotify d .cm w₃
  let w₅ := x.stopNotify d .av w₄
  have hsome₁ : (w₁.context? d x.id).isSome := by
    rwa [(cosmetic_stopRetry d x .cm).context?_isSome]
  have hsome₂ : (w₂.context? d x.id).isSome := by
    rwa [(cosmetic_stopRetry d x .av).context?_isSome]
  have hsome₃ : (w₃.context? d x.id).isSome := by
    rwa [(cosmetic_stopRetry d x .rc).context?_isSome]
  have hsome₄ : (w₄.context? d x.id).isSome := by
    rwa [(cosmetic_stopNotify d x .cm).context?_isSome]
  have hsome₅ : (w₅.context? d x.id).isSome := by
    rwa [(cosmetic_stopNotify d x .av).context?_isSome]
  have h₁ : Alters d x.id _ w w₁ := alters_stopRetry .cm hsome (hflags .cm).2
  have h₂ := h₁.trans (alters_stopRetry .av hsome₁ (by
    rw [h₁.own]
    exact (hflags .av).2))
  have h₃ := h₂.trans (alters_stopRetry .rc hsome₂ (by
    rw [h₂.own]
    exact (hflags .rc).2))
  have hnotify : ∀ kind, (w₃.service d x.id kind).subscribed = x.subscribed kind := by
    intro kind
    rw [h₃.own, ← (hflags kind).1]
    cases kind <;> exact ServiceState.stopRetry_subscribed _
  have h₄ := alters_stopNotify .cm hsome₃ (hnotify .cm)
  have h₅ := h₄.trans (alters_stopNotify .av hsome₄ (by
    rw [h₄.own]
    exact hnotify .av))
  have h₆ := h₅.trans (alters_stopNotify .rc hsome₅ (by
    rw [h₅.own]
    exact hnotify .rc))
  refine (h₃.trans h₆).congr fun kind => ?_
  cases kind <;> rfl

theorem lostHandlers_prvRsuContextUnsubscribe (w : World) (d : Nat) (x : DeviceContext) :
    (prvRsuContextUnsubscribe d x w).gupnp.lostHandlers = w.gupnp.lostHandlers := by
  have hretry : ∀ kind w, (x.stopRetry d kind w).gupnp.lostHandlers = w.gupnp.lostHandlers := by
    intro kind w
    unfold DeviceContext.stopRetry
    split
    · exact congrArg Gupnp.lostHandlers (gupnp_modifyContext _ d x.id _)
    · rfl
  have hnotify : ∀ kind w, (x.stopNotify d kind w).gupnp.lostHandlers = w.gupnp.lostHandlers := by
    intro kind w
    unfold DeviceContext.stopNotify
    split
    · dsimp only
      rw [gupnp_modifyContext]
      rfl
    · rfl
  simp only [prvRsuContextUnsubscribe, hnotify, hretry]

/-! ## Subscribing -/

def DeviceContext.present (context : DeviceContext) (kind : ServiceKind) : Bool :=
  (context.serviceProxies.get kind).isSome

theorem alters_prvSubscribeService (hsome : (w.context? d x.id).isSome)
    (kind signal : ServiceKind) :
    Alters d x.id (ServiceState.only kind fun s => if x.present kind then s.subscribe else s) w
      (prvSubscribeService d x kind signal w) := by
  cases hpresent : x.present kind with
  | true =>
      let w₁ := gupnpServiceProxySetSubscribed ⟨x.id, kind⟩ true w
      let w₂ := w₁.setNotifies (w₁.gupnp.notifies ++ [serviceHandler d x.id kind])
      have hlive := alters_setSubscribed w d x.id kind true
      have hadd := alters_addNotify w₁ d x.id kind
      have hset := alters_setSubscribedFlag (w := w₂) hsome true kind
      have hall := ((hlive.trans hadd).trans hset).congr
        (g := ServiceState.only kind ServiceState.subscribe) (by
          intro kind'
          by_cases hkind : kind' = kind
          · subst hkind
            simp only [ServiceState.only_self]
            rfl
          · simp only [ServiceState.only_of_ne hkind])
      simp only [prvSubscribeService, show (x.serviceProxies.get kind).isSome = true from hpresent,
        if_true]
      split <;> exact ⟨hall.own, hall.others⟩
  | false =>
      simp only [prvSubscribeService, show (x.serviceProxies.get kind).isSome = false from hpresent,
        Bool.false_eq_true, if_false]
      refine Alters.refl.congr fun kind' => ?_
      by_cases hkind : kind' = kind
      · rw [hkind, ServiceState.only_self]
      · rw [ServiceState.only_of_ne hkind]

/-- The handlers of "subscription-lost" that subscribing a context connects. -/
def DeviceContext.wiring (context : DeviceContext) (d : Nat) : List ProxyHandler :=
  [(ServiceKind.cm, ServiceKind.cm), (.av, .av), (.rc, .av)].flatMap fun e =>
    if context.present e.1 then
      (context.serviceProxies.get e.2).toList.map fun proxy => ⟨proxy, e.1, d, context.id⟩
    else []

theorem lostHandlers_prvSubscribeService (w : World) (d : Nat) (x : DeviceContext)
    (kind signal : ServiceKind) :
    (prvSubscribeService d x kind signal w).gupnp.lostHandlers = w.gupnp.lostHandlers ++
      if x.present kind then
        (x.serviceProxies.get signal).toList.map fun proxy => ⟨proxy, kind, d, x.id⟩
      else [] := by
  unfold prvSubscribeService DeviceContext.present
  split
  · dsimp only
    split
    next hsignal =>
      rw [hsignal]
      simp only [World.setLostHandlers, gupnp_modifyContext]
      rfl
    next hsignal =>
      rw [hsignal, gupnp_modifyContext]
      exact (List.append_nil _).symm
  · exact (List.append_nil _).symm

/-- The preferred context of a device is subscribed: its three services, as far as
it offers them. -/
theorem rsuDeviceSubscribeToServiceChanges_spec {dev : Device} (hdev : w.devices d = some dev)
    (hpreferred : rsuDeviceGetContext dev = some x) (hsome : (w.context? d x.id).isSome) :
    Alters d x.id (fun kind s => if x.present kind then s.subscribe else s) w
        (rsuDeviceSubscribeToServiceChanges d w) ∧
      (rsuDeviceSubscribeToServiceChanges d w).gupnp.lostHandlers =
        w.gupnp.lostHandlers ++ x.wiring d := by
  simp only [rsuDeviceSubscribeToServiceChanges, World.withContext, World.withDevice, hdev,
    hpreferred]
  let w₁ := prvSubscribeService d x .cm .cm w
  let w₂ := prvSubscribeService d x .av .av w₁
  have hsome₁ : (w₁.context? d x.id).isSome := by
    rwa [(cosmetic_prvSubscribeService d x .cm .cm).context?_isSome]
  have hsome₂ : (w₂.context? d x.id).isSome := by
    rwa [(cosmetic_prvSubscribeService d x .av .av).context?_isSome]
  have hcm := alters_prvSubscribeService hsome .cm .cm
  have hav := alters_prvSubscribeService hsome₁ .av .av
  have hrc := alters_prvSubscribeService hsome₂ .rc .av
  constructor
  · refine ((hcm.trans hav).trans hrc).congr fun kind => ?_
    cases kind <;> rfl
  · rw [lostHandlers_prvSubscribeService, lostHandlers_prvSubscribeService,
      lostHandlers_prvSubscribeService]
    simp only [DeviceContext.wiring, List.flatMap_cons, List.flatMap_nil, List.append_nil,
      List.append_assoc]

/-! ## Losing a subscription -/

theorem prvSubscriptionLostCb_spec {h : ProxyHandler}
    (hx : w.context? h.device h.context = some x) :
    Alters h.device h.context (ServiceState.only h.kind ServiceState.lost) w
      (prvSubscriptionLostCb h w) := by
  obtain ⟨dev, hdev, hfind⟩ := Option.bind_eq_some_iff.mp hx
  have hid : x.id = h.context := by simpa using List.find?_some hfind
  have hflag : (w.service h.device h.context h.kind).timeoutId = x.timeoutId h.kind :=
    (service_of_context hx h.kind).2
  have hretry : x.notify h.device h.kind = serviceHandler h.device h.context h.kind := by
    rw [← hid]
    rfl
  have hproxy : (serviceHandler h.device h.context h.kind).proxy = ⟨h.context, h.kind⟩ := rfl
  simp only [prvSubscriptionLostCb, World.withDevice, hdev, hfind, hretry, hproxy]
  cases htimeout : x.timeoutId h.kind with
  | true =>
      let w₁ := w.setRetryTimers (w.loop.retryTimers.erase
        (serviceHandler h.device h.context h.kind))
      let w₂ := gupnpServiceProxyRemoveNotify (serviceHandler h.device h.context h.kind) w₁
      have herase := alters_eraseTimer w h.device h.context h.kind
      have hremove := alters_removeNotify w₁ h.device h.context h.kind
      have hclear := alters_modifyContext (w := w₂) h.kind false false hx
        (f := fun context => (context.setTimeoutId false h.kind).setSubscribed false h.kind)
        (fun context => (setSubscribed_id _ _ _).trans (setTimeoutId_id _ _ _))
        (fun kind' => by rw [setSubscribed_subscribed, setTimeoutId_subscribed])
        (fun kind' => by rw [setSubscribed_timeoutId, setTimeoutId_timeoutId])
      refine ((herase.trans hremove).trans hclear).congr fun kind' => ?_
      by_cases hkind : kind' = h.kind
      · simp only [hkind, ServiceState.only_self, ServiceState.lost, hflag, htimeout, if_true]
      · simp only [ServiceState.only_of_ne hkind]
  | false =>
      let w₁ := gupnpServiceProxySetSubscribed ⟨h.context, h.kind⟩ true w
      let w₂ := w₁.setRetryTimers (w₁.loop.retryTimers ++
        [serviceHandler h.device h.context h.kind])
      have hagain := alters_setSubscribed w h.device h.context h.kind true
      have hadd := alters_addTimer w₁ h.device h.context h.kind
      have hset := alters_setTimeoutIdFlag (w := w₂) (Option.isSome_of_eq_some hx) true h.kind
      refine ((hagain.trans hadd).trans hset).congr fun kind' => ?_
      by_cases hkind : kind' = h.kind
      · simp only [hkind, ServiceState.only_self, ServiceState.lost, hflag, htimeout,
          Bool.false_eq_true, if_false]
      · simp only [ServiceState.only_of_ne hkind]

theorem retryTimer_spec {h : ProxyHandler} (hr : w.Remembered h) (hok : ContextsOk w) :
    Alters h.device h.context (ServiceState.only h.kind ServiceState.expire) w
      (exec w (.retryTimer h)) := by
  obtain ⟨hproxy, dev, x, hdev, hmem, hid, -⟩ := hr
  have hname : h = serviceHandler h.device h.context h.kind := by
    rw [serviceHandler, ← hproxy]
  have hx : w.context? h.device h.context = some x := hid ▸ hok.context? hdev hmem
  obtain ⟨dev', hdev', hfind⟩ := Option.bind_eq_some_iff.mp hx
  obtain rfl : dev = dev' := Option.some.inj (hdev.symm.trans hdev')
  let w₁ := w.setRetryTimers (w.loop.retryTimers.erase h)
  have herase : Alters h.device h.context
      (ServiceState.only h.kind fun s => { s with timers := s.timers - 1 }) w w₁ := by
    have hsame : w₁ = w.setRetryTimers
        (w.loop.retryTimers.erase (serviceHandler h.device h.context h.kind)) :=
      congrArg (fun r => w.setRetryTimers (w.loop.retryTimers.erase r)) hname
    rw [hsame]
    exact alters_eraseTimer w h.device h.context h.kind
  have hset := alters_setTimeoutIdFlag (w := w₁) (Option.isSome_of_eq_some hx) false h.kind
  show Alters _ _ _ w (prvReEnableSubscription h w₁)
  have hdev₁ : w₁.devices h.device = some dev := hdev
  simp only [prvReEnableSubscription, World.withDevice, hdev₁, hfind]
  refine (herase.trans hset).congr fun kind' => ?_
  by_cases hkind : kind' = h.kind
  · simp only [hkind, ServiceState.only_self, ServiceState.expire]
  · simp only [ServiceState.only_of_ne hkind]

end RendererService
