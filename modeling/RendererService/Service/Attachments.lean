import RendererService.Service.Devices

/-!
# What is attached to a device

The main loop and GUPnP reach a device through the callbacks on its proxies,
through the retry timers of its contexts and through a timer of its own.  Each
of them belongs to a context that the device still has, or is the timer that the
device remembers, so none is left when the device is deleted.
-/

namespace RendererService

variable {w w' w'' : World} {d : Nat}

/-- The callback carries a context that its device has, on a service of it. -/
def World.Attached (w : World) (n : ProxyHandler) : Prop :=
  ∃ c x, w.core n.device = some c ∧ x ∈ c.contexts ∧ x.id = n.context ∧
    n.proxy ∈ x.serviceProxies.toList

def World.Remembered (w : World) (h : ProxyHandler) : Prop :=
  h.proxy = ⟨h.context, h.kind⟩ ∧ ∃ dev context, w.devices h.device = some dev ∧
    context ∈ dev.contexts ∧ context.id = h.context ∧ context.timeoutId h.kind = true

def World.timeoutId (w : World) (d : Nat) : Option Nat := (w.devices d).map Device.timeoutId

structure AttachedOk (w : World) : Prop where
  named : ∀ d c x kind p, w.core d = some c → x ∈ c.contexts →
    x.serviceProxies.get kind = some p → p = ⟨x.id, kind⟩
  notifies : ∀ n ∈ w.gupnp.notifies, w.Attached n
  lostHandlers : ∀ n ∈ w.gupnp.lostHandlers, w.Attached n
  retry : ∀ h ∈ w.loop.retryTimers, w.Remembered h
  retryNodup : w.loop.retryTimers.Nodup
  subscribe : ∀ s ∈ w.loop.subscribeTimers, s.1 ≠ 0 ∧ w.timeoutId s.2 = some s.1
  subscribeNodup : w.loop.subscribeTimers.Nodup

/-! ## Contexts that change -/

theorem devices_modifyContext (w : World) (d c e : Nat) (f : DeviceContext → DeviceContext) :
    (w.modifyContext d c f).devices e =
      if e = d then (w.devices d).map fun dev => { dev with
        contexts := dev.contexts.map fun context => if context.id = c then f context else context }
      else w.devices e := by
  unfold World.modifyContext World.withDevice
  cases hdev : w.devices d with
  | none =>
      by_cases he : e = d
      · simp [World.crash, he, hdev]
      · simp [World.crash, he]
  | some dev => rfl

theorem timeoutId_modifyContext (w : World) (d c e : Nat) (f : DeviceContext → DeviceContext) :
    (w.modifyContext d c f).timeoutId e = w.timeoutId e := by
  unfold World.timeoutId
  rw [devices_modifyContext]
  split
  next he =>
    subst he
    cases w.devices e <;> rfl
  · rfl

theorem loop_modifyContext (w : World) (d c : Nat) (f : DeviceContext → DeviceContext) :
    (w.modifyContext d c f).loop = w.loop := by
  unfold World.modifyContext World.withDevice
  split <;> rfl

theorem gupnp_modifyContext (w : World) (d c : Nat) (f : DeviceContext → DeviceContext) :
    (w.modifyContext d c f).gupnp = w.gupnp := by
  unfold World.modifyContext World.withDevice
  split <;> rfl

/-- A context goes on remembering a timer, unless the change forgets it. -/
theorem World.Remembered.modifyContext {h : ProxyHandler} (hr : w.Remembered h) (d c : Nat)
    {f : DeviceContext → DeviceContext} (hf : ∀ context, (f context).core = context.core)
    (hkeep : h.device = d → h.context = c →
      ∀ context, context.timeoutId h.kind = true → (f context).timeoutId h.kind = true) :
    (w.modifyContext d c f).Remembered h := by
  obtain ⟨hproxy, dev, context, hdev, hmem, hid, hflag⟩ := hr
  refine ⟨hproxy, ?_⟩
  by_cases hd : h.device = d
  · let g := fun context : DeviceContext => if context.id = c then f context else context
    have hdev' : (w.modifyContext d c f).devices h.device =
        some { dev with contexts := dev.contexts.map g } := by
      rw [devices_modifyContext, if_pos hd, ← hd, hdev]
      rfl
    refine ⟨_, g context, hdev', List.mem_map_of_mem hmem, ?_, ?_⟩
    · have hcore : (g context).core = context.core := by
        show (if context.id = c then f context else context).core = _
        split
        · exact hf context
        · rfl
      exact (congrArg ContextCore.id hcore).trans hid
    · show (if context.id = c then f context else context).timeoutId h.kind = true
      split
      next hc => exact hkeep hd (hid.symm.trans hc) context hflag
      · exact hflag
  · refine ⟨dev, context, ?_, hmem, hid, hflag⟩
    rw [devices_modifyContext, if_neg hd]
    exact hdev

theorem setSubscribed_timeoutId (b : Bool) (kind kind' : ServiceKind) (context : DeviceContext) :
    (context.setSubscribed b kind).timeoutId kind' = context.timeoutId kind' := by
  cases kind <;> cases kind' <;> rfl

theorem setTimeoutId_timeoutId (b : Bool) (kind kind' : ServiceKind) (context : DeviceContext) :
    (context.setTimeoutId b kind).timeoutId kind' =
      if kind' = kind then b else context.timeoutId kind' := by
  cases kind <;> cases kind' <;> rfl

/-! ## Changes of the subscriptions -/

theorem World.Attached.congr {n : ProxyHandler} (h : w.Attached n)
    (hcore : ∀ d, w'.core d = w.core d) : w'.Attached n := by
  obtain ⟨c, x, hc, hx⟩ := h
  exact ⟨c, x, (hcore _).trans hc, hx⟩

namespace AttachedOk

/-- The contexts of all devices stay as they are, but for their flags. -/
theorem cosmetic (h : AttachedOk w) (hcore : ∀ d, w'.core d = w.core d)
    (hnotifies : ∀ n ∈ w'.gupnp.notifies, w.Attached n)
    (hlost : ∀ n ∈ w'.gupnp.lostHandlers, w.Attached n)
    (hretry : ∀ r ∈ w'.loop.retryTimers, w'.Remembered r) (hnodup : w'.loop.retryTimers.Nodup)
    (htimers : w'.loop.subscribeTimers = w.loop.subscribeTimers)
    (htimeout : ∀ d, w'.timeoutId d = w.timeoutId d) : AttachedOk w' where
  named d c x kind p hd := h.named d c x kind p (hcore d ▸ hd)
  notifies n hn := (hnotifies n hn).congr hcore
  lostHandlers n hn := (hlost n hn).congr hcore
  retry := hretry
  retryNodup := hnodup
  subscribe s hs := by
    rw [htimeout]
    exact h.subscribe s (htimers ▸ hs)
  subscribeNodup := by
    rw [htimers]
    exact h.subscribeNodup

/-- Nothing that is attached changes, nor what it is attached to. -/
theorem congr (h : AttachedOk w) (hdevices : w'.devices = w.devices)
    (hnotifies : w'.gupnp.notifies = w.gupnp.notifies)
    (hlost : w'.gupnp.lostHandlers = w.gupnp.lostHandlers)
    (hretry : w'.loop.retryTimers = w.loop.retryTimers)
    (htimers : w'.loop.subscribeTimers = w.loop.subscribeTimers) : AttachedOk w' := by
  refine h.cosmetic (fun d => by rw [World.core, hdevices]; rfl) ?_ ?_ ?_ ?_ htimers
    fun d => by rw [World.timeoutId, hdevices]; rfl
  · rw [hnotifies]
    exact h.notifies
  · rw [hlost]
    exact h.lostHandlers
  · rw [hretry]
    unfold World.Remembered
    rw [hdevices]
    exact h.retry
  · rw [hretry]
    exact h.retryNodup

theorem setNotifies (h : AttachedOk w) {l : List ProxyHandler} (hl : ∀ n ∈ l, w.Attached n) :
    AttachedOk (w.setNotifies l) :=
  h.cosmetic (fun _ => rfl) hl h.lostHandlers h.retry h.retryNodup rfl fun _ => rfl

theorem setSubscribed (h : AttachedOk w) (proxy : ServiceProxy) (b : Bool) :
    AttachedOk (gupnpServiceProxySetSubscribed proxy b w) :=
  h.congr rfl rfl rfl rfl rfl

theorem setLostHandlers (h : AttachedOk w) {l : List ProxyHandler} (hl : ∀ n ∈ l, w.Attached n) :
    AttachedOk (w.setLostHandlers l) :=
  h.cosmetic (fun _ => rfl) h.notifies hl h.retry h.retryNodup rfl fun _ => rfl

theorem setRetryTimers (h : AttachedOk w) {l : List ProxyHandler}
    (hl : l.Sublist w.loop.retryTimers) : AttachedOk (w.setRetryTimers l) :=
  h.cosmetic (fun _ => rfl) h.notifies h.lostHandlers (fun r hr => h.retry r (hl.subset hr))
    (h.retryNodup.sublist hl) rfl fun _ => rfl

theorem modifyContext (h : AttachedOk w) (d c : Nat) {f : DeviceContext → DeviceContext}
    (hf : ∀ context, (f context).core = context.core)
    (hkeep : ∀ r ∈ w.loop.retryTimers, r.device = d → r.context = c →
      ∀ context, context.timeoutId r.kind = true → (f context).timeoutId r.kind = true) :
    AttachedOk (w.modifyContext d c f) := by
  refine h.cosmetic (cosmetic_modifyContext d c hf).core ?_ ?_ ?_ ?_ ?_
    (fun e => timeoutId_modifyContext w d c e f)
  · rw [gupnp_modifyContext]
    exact h.notifies
  · rw [gupnp_modifyContext]
    exact h.lostHandlers
  · rw [loop_modifyContext]
    exact fun r hr => (h.retry r hr).modifyContext d c hf (hkeep r hr)
  · rw [loop_modifyContext]
    exact h.retryNodup
  · rw [loop_modifyContext]

theorem forget (h : AttachedOk w) (d c : Nat) (kind : ServiceKind)
    (hgone : ⟨⟨c, kind⟩, kind, d, c⟩ ∉ w.loop.retryTimers)
    {f : DeviceContext → DeviceContext} (hf : ∀ context, (f context).core = context.core)
    (hkeep : ∀ context kind', kind' ≠ kind → (f context).timeoutId kind' =
      context.timeoutId kind') : AttachedOk (w.modifyContext d c f) := by
  refine h.modifyContext d c hf fun r hr hd hc context hflag => ?_
  rw [hkeep context r.kind, hflag]
  intro hkind
  refine hgone ?_
  obtain ⟨hproxy, -⟩ := h.retry r hr
  obtain ⟨proxy, kind', device, context'⟩ := r
  simp only at hproxy hd hc hkind
  subst hproxy hd hc hkind
  exact hr

theorem eraseRetry (h : AttachedOk w) (r : ProxyHandler) :
    AttachedOk (w.setRetryTimers (w.loop.retryTimers.erase r)) ∧
      r ∉ (w.setRetryTimers (w.loop.retryTimers.erase r)).loop.retryTimers :=
  ⟨h.setRetryTimers List.erase_sublist, fun hmem => (h.retryNodup.mem_erase_iff.mp hmem).1 rfl⟩

theorem stopRetry (h : AttachedOk w) (d : Nat) (context : DeviceContext) (kind : ServiceKind) :
    AttachedOk (context.stopRetry d kind w) := by
  unfold DeviceContext.stopRetry
  split
  · obtain ⟨herase, hgone⟩ := h.eraseRetry (context.notify d kind)
    refine herase.forget d context.id kind hgone (setTimeoutId_core false kind) ?_
    intro context kind' hne
    rw [setTimeoutId_timeoutId, if_neg hne]
  · exact h

theorem stopNotify (h : AttachedOk w) (d : Nat) (context : DeviceContext) (kind : ServiceKind) :
    AttachedOk (context.stopNotify d kind w) := by
  unfold DeviceContext.stopNotify
  split
  · have hnotify : AttachedOk (gupnpServiceProxyRemoveNotify (context.notify d kind) w) :=
      h.setNotifies fun n hn => h.notifies n (List.mem_of_mem_erase hn)
    refine (hnotify.setSubscribed _ false).modifyContext _ _
      (setSubscribed_core false kind) fun r _ _ _ context hflag => ?_
    rw [setSubscribed_timeoutId, hflag]
  · exact h

theorem unsubscribe (h : AttachedOk w) (d : Nat) (context : DeviceContext) :
    AttachedOk (prvRsuContextUnsubscribe d context w) := by
  have hretry := ((h.stopRetry d context .cm).stopRetry d context .av).stopRetry d context .rc
  exact ((hretry.stopNotify d context .cm).stopNotify d context .av).stopNotify d context .rc

theorem subscribeService (h : AttachedOk w) {c : DeviceCore} {context : DeviceContext}
    (hd : w.core d = some c) (hx : context.core ∈ c.contexts) (kind signal : ServiceKind) :
    AttachedOk (prvSubscribeService d context kind signal w) := by
  have hattached : ∀ kind p, context.serviceProxies.get kind = some p →
      ∀ kind', w.Attached ⟨p, kind', d, context.id⟩ := fun kind p hp _ =>
    ⟨c, context.core, hd, hx, rfl, ServiceProxies.mem_of_get hp⟩
  unfold prvSubscribeService
  split
  next hproxy =>
    obtain ⟨p, hp⟩ := Option.isSome_iff_exists.mp hproxy
    have hname : p = ⟨context.id, kind⟩ := h.named d c context.core kind p hd hx hp
    let w₁ := gupnpServiceProxySetSubscribed (context.notify d kind).proxy true w
    have hnotify : AttachedOk (w₁.setNotifies (w₁.gupnp.notifies ++ [context.notify d kind])) := by
      refine (h.setSubscribed _ true).setNotifies fun n hn => ?_
      rcases List.mem_append.mp hn with hn | hn
      · exact h.notifies n hn
      · have hnew := hattached kind p hp kind
        rw [hname] at hnew
        rw [List.mem_singleton.mp hn]
        exact hnew
    have hflag := hnotify.modifyContext d context.id (setSubscribed_core true kind)
      fun r _ _ _ context hflag => by rw [setSubscribed_timeoutId, hflag]
    dsimp only
    split
    next proxy hsignal =>
      refine hflag.setLostHandlers fun n hn => ?_
      rw [gupnp_modifyContext] at hn
      refine World.Attached.congr (w := w) ?_ ((cosmetic_setSubscribed _ true).trans
        ((cosmetic_setNotifies _).trans
          (cosmetic_modifyContext d context.id (setSubscribed_core true kind)))).core
      rcases List.mem_append.mp hn with hn | hn
      · exact h.lostHandlers n hn
      · rw [List.mem_singleton.mp hn]
        exact hattached signal proxy hsignal kind
    · exact hflag
  · exact h

theorem subscribe_changes (h : AttachedOk w) (d : Nat) :
    AttachedOk (rsuDeviceSubscribeToServiceChanges d w) := by
  unfold rsuDeviceSubscribeToServiceChanges
  rcases withContext_cases w d with ⟨f, -, hcrash⟩ | ⟨dev, context, hdev, hcontext⟩
  · rw [hcrash]
    exact h.congr rfl rfl rfl rfl rfl
  · simp only [World.withContext, World.withDevice, hdev, hcontext]
    have hd : w.core d = some dev.core := core_of_device hdev
    have hx : context.core ∈ dev.core.contexts :=
      List.mem_map_of_mem (rsuDeviceGetContext_mem hcontext)
    have hcm := h.subscribeService hd hx .cm .cm
    have hd₁ := ((cosmetic_prvSubscribeService (w := w) d context .cm .cm).core d).trans hd
    have hav := hcm.subscribeService hd₁ hx .av .av
    have hd₂ := ((cosmetic_prvSubscribeService d context .av .av).core d).trans hd₁
    exact hav.subscribeService hd₂ hx .rc .av

theorem subscribe_context (h : AttachedOk w) (d : Nat) :
    AttachedOk (prvDeviceSubscribeContext d w) := by
  have hcrash : ∀ f, AttachedOk (w.crash f) := fun f => h.congr rfl rfl rfl rfl rfl
  cases hdev : w.devices d with
  | none =>
      simp only [prvDeviceSubscribeContext, World.withDevice, hdev]
      exact hcrash _
  | some dev =>
      rcases withContext_cases w d with ⟨f, -, hnone⟩ | ⟨_, context, hdev', hcontext⟩
      · simp only [prvDeviceSubscribeContext, World.withDevice, hdev, hnone]
        exact hcrash f
      · obtain rfl := Option.some.inj (hdev.symm.trans hdev')
        simp only [prvDeviceSubscribeContext, World.withContext, World.withDevice, hdev, hcontext]
        split
        · exact h.subscribe_changes d
        · split
          · exact h
          · exact (h.unsubscribe d _).subscribe_changes d

/-- A device is replaced by one with the same contexts and the same timer. -/
theorem setDevice (h : AttachedOk w) {dev dev' : Device} (hdev : w.devices d = some dev)
    (hpath : dev'.path = dev.path) (hcontexts : dev'.contexts = dev.contexts)
    (htimeout : dev'.timeoutId = dev.timeoutId) : AttachedOk (w.setDevice d (some dev')) := by
  have hcore : dev'.core = dev.core := by rw [Device.core, hpath, hcontexts]; rfl
  refine h.cosmetic (cosmetic_setDevice hdev hcore).core h.notifies h.lostHandlers ?_ h.retryNodup
    rfl fun e => ?_
  · intro r hr
    obtain ⟨hproxy, dev₀, context, hdev₀, hmem, hrest⟩ := h.retry r hr
    refine ⟨hproxy, ?_⟩
    by_cases hd : r.device = d
    · obtain rfl : dev = dev₀ := Option.some.inj (hdev.symm.trans (hd ▸ hdev₀))
      exact ⟨dev', context, if_pos hd, hcontexts ▸ hmem, hrest⟩
    · exact ⟨dev₀, context, (if_neg hd).trans hdev₀, hmem, hrest⟩
  · by_cases he : e = d
    · simp [World.timeoutId, World.setDevice, he, hdev, htimeout]
    · simp [World.timeoutId, World.setDevice, he]

theorem declare (h : AttachedOk w) (env : Environment) (t : ServiceTask) :
    AttachedOk (prvDeclare env t w).2.2 := by
  unfold prvDeclare World.withDevice
  dsimp only
  split
  next dev hdev => exact h.setDevice hdev rfl rfl rfl
  · exact h.congr rfl rfl rfl rfl rfl

/-! ## Timers -/

theorem startRetry (h : AttachedOk w) (hdevices : DevicesOk w) {dev : Device}
    {context : DeviceContext} (hdev : w.devices d = some dev) (hmem : context ∈ dev.contexts)
    {kind : ServiceKind} (hflag : context.timeoutId kind = false) :
    AttachedOk ((w.setRetryTimers (w.loop.retryTimers ++ [context.notify d kind])).modifyContext d
      context.id fun context => context.setTimeoutId true kind) := by
  have hcosmetic : Cosmetic w _ := (cosmetic_setRetryTimers (w := w) (w.loop.retryTimers ++
    [context.notify d kind])).trans
      (cosmetic_modifyContext d context.id (setTimeoutId_core true kind))
  refine h.cosmetic hcosmetic.core ?_ ?_ ?_ ?_ ?_ (fun e => timeoutId_modifyContext _ d _ e _)
  · rw [gupnp_modifyContext]
    exact h.notifies
  · rw [gupnp_modifyContext]
    exact h.lostHandlers
  · rw [loop_modifyContext]
    intro r hr
    rcases List.mem_append.mp hr with hr | hr
    · have hold : (w.setRetryTimers (w.loop.retryTimers ++
          [context.notify d kind])).Remembered r := h.retry r hr
      refine hold.modifyContext d _ (setTimeoutId_core true kind) fun _ _ context hset => ?_
      rw [setTimeoutId_timeoutId, hset]
      exact ite_self _
    · obtain rfl := List.mem_singleton.mp hr
      let f := fun context : DeviceContext => context.setTimeoutId true kind
      let g := fun x : DeviceContext => if x.id = context.id then f x else x
      refine ⟨rfl, { dev with contexts := dev.contexts.map g }, g context, ?_,
        List.mem_map_of_mem hmem, ?_, ?_⟩
      · show (World.modifyContext _ d context.id f).devices d = _
        rw [devices_modifyContext, if_pos rfl]
        show (w.devices d).map _ = _
        rw [hdev]
        rfl
      · show (if context.id = context.id then f context else context).id = context.id
        rw [if_pos rfl]
        exact congrArg ContextCore.id (setTimeoutId_core true kind context)
      · show (if context.id = context.id then f context else context).timeoutId kind = true
        rw [if_pos rfl, setTimeoutId_timeoutId, if_pos rfl]
  · rw [loop_modifyContext]
    refine List.nodup_append.mpr ⟨h.retryNodup, List.nodup_singleton _, ?_⟩
    rintro r hr r' hr' rfl
    obtain rfl := List.mem_singleton.mp hr'
    obtain ⟨-, dev', context', hdev', hmem', hid, hset⟩ := h.retry _ hr
    obtain rfl : dev = dev' := Option.some.inj (hdev.symm.trans hdev')
    have hd : w.core d = some dev.core := core_of_device hdev
    have hnodup : (dev.contexts.map DeviceContext.id).Nodup := by
      simpa [Device.core, DeviceContext.core, Function.comp_def] using hdevices.nodup d _ hd
    obtain rfl : context' = context := List.inj_on_of_nodup_map hnodup hmem' hmem hid
    exact absurd (hflag.symm.trans hset) (by simp)
  · rw [loop_modifyContext]
    rfl

/-- "subscription-lost" starts the retry timer, or gives up the subscription. -/
theorem lost (h : AttachedOk w) (hdevices : DevicesOk w) (r : ProxyHandler) :
    AttachedOk (prvSubscriptionLostCb r w) := by
  have hcrash : ∀ f, AttachedOk (w.crash f) := fun f => h.congr rfl rfl rfl rfl rfl
  cases hdev : w.devices r.device with
  | none =>
      simp only [prvSubscriptionLostCb, World.withDevice, hdev]
      exact hcrash _
  | some dev =>
      simp only [prvSubscriptionLostCb, World.withDevice, hdev]
      split
      · exact hcrash _
      next context hfind =>
        have hid : context.id = r.context := by simpa using List.find?_some hfind
        rw [← hid]
        split
        next hflag =>
          obtain ⟨herase, hgone⟩ := h.eraseRetry (context.notify r.device r.kind)
          have hstop : AttachedOk (gupnpServiceProxyRemoveNotify (context.notify r.device r.kind)
              (w.setRetryTimers (w.loop.retryTimers.erase (context.notify r.device r.kind)))) :=
            herase.setNotifies fun n hn => h.notifies n (List.mem_of_mem_erase hn)
          refine hstop.forget r.device context.id r.kind hgone ?_ ?_
          · exact fun context => by rw [setSubscribed_core, setTimeoutId_core]
          · exact fun context kind' hne => by
              rw [setSubscribed_timeoutId, setTimeoutId_timeoutId, if_neg hne]
        next hflag =>
          have hagain := h.setSubscribed (context.notify r.device r.kind).proxy true
          exact hagain.startRetry (hdevices.cosmetic (cosmetic_setSubscribed _ true)) hdev
            (List.mem_of_find?_eq_some hfind) (by simpa using hflag)

theorem reEnable (h : AttachedOk w) {r : ProxyHandler} (hr : r ∈ w.loop.retryTimers) :
    AttachedOk (prvReEnableSubscription r
      (w.setLoop { w.loop with retryTimers := w.loop.retryTimers.erase r })) := by
  obtain ⟨hproxy, dev, context, hdev, hmem, hid, -⟩ := h.retry r hr
  obtain ⟨herase, hgone⟩ := h.eraseRetry r
  have hname : r = ⟨⟨r.context, r.kind⟩, r.kind, r.device, r.context⟩ := by rw [← hproxy]
  have hdev' : (w.setRetryTimers (w.loop.retryTimers.erase r)).devices r.device = some dev := hdev
  show AttachedOk (prvReEnableSubscription r (w.setRetryTimers (w.loop.retryTimers.erase r)))
  simp only [prvReEnableSubscription, World.withDevice, hdev']
  split
  · exact herase.congr rfl rfl rfl rfl rfl
  · refine herase.forget r.device r.context r.kind (hname ▸ hgone)
      (setTimeoutId_core false r.kind) ?_
    intro context kind' hne
    rw [setTimeoutId_timeoutId, if_neg hne]

end AttachedOk

end RendererService
