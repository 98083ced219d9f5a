import RendererService.Service.Aside
import RendererService.Service.Deletion

/-!
# The holders of a device

Timers, notify callbacks, handlers, closures of constructions and tasks carry a
device.  Each of them goes away before the device does, or carries it for
nothing: no step reads a device that was deleted.
-/

namespace RendererService

open Transition

variable {w w' w'' : World} {a : TaskAtom} {d : Nat} {handled : Option Nat}

/-! ## Reading devices that are there -/

/-- No device goes away, and none is read that had. -/
structure Sound (w w' : World) : Prop where
  alive : ∀ d, w.Alive d → w'.Alive d
  dangling : w'.Dangling → w.Dangling

theorem Sound.refl : Sound w w := ⟨fun _ hd => hd, id⟩

theorem Sound.trans (h : Sound w w') (h' : Sound w' w'') : Sound w w'' :=
  ⟨fun d hd => h'.alive d (h.alive d hd), fun hd => h.dangling (h'.dangling hd)⟩

theorem DevicesStay.path (h : DevicesStay w w') : w'.path = w.path := by
  unfold World.path
  rw [h.devices]

theorem DevicesStay.sound (h : DevicesStay w w') : Sound w w' :=
  ⟨fun d hd => by rwa [World.Alive, h.path], h.dangling⟩

theorem dangling_of_fault (h : w'.fault = w.fault) : w'.Dangling → w.Dangling := by
  rintro ⟨f, hf, hdangling⟩
  exact ⟨f, h ▸ hf, hdangling⟩

theorem Cosmetic.sound (h : Cosmetic w w') (hdangling : w'.Dangling → w.Dangling) : Sound w w' :=
  ⟨fun d hd => by rwa [World.Alive, path_of_core (funext h.core)], hdangling⟩

theorem Alive.device (hd : w.Alive d) : ∃ dev, w.devices d = some dev := by
  obtain ⟨p, hp⟩ := Option.isSome_iff_exists.mp hd
  obtain ⟨dev, hdev, -⟩ := Option.map_eq_some_iff.mp hp
  exact ⟨dev, hdev⟩

theorem alive_of_device {dev : Device} (hdev : w.devices d = some dev) : w.Alive d := by
  simp [World.Alive, World.path, hdev]

theorem sound_withDevice {f : Device → World} (hd : w.Alive d)
    (hf : ∀ dev, w.devices d = some dev → Sound w (f dev)) : Sound w (w.withDevice d f) := by
  obtain ⟨dev, hdev⟩ := Alive.device hd
  simp only [World.withDevice, hdev]
  exact hf dev hdev

theorem sound_withContext {f : DeviceContext → World} (hd : w.Alive d)
    (hf : ∀ context, Sound w (f context)) : Sound w (w.withContext d f) := by
  refine sound_withDevice hd fun dev _ => ?_
  split
  · exact hf _
  · exact (still_crash w rfl).sound

theorem sound_setDevice {dev dev' : Device} (hdev : w.devices d = some dev)
    (hcore : dev'.core = dev.core) : Sound w (w.setDevice d (some dev')) :=
  (cosmetic_setDevice hdev hcore).sound (dangling_of_fault rfl)

theorem sound_modifyContext (hd : w.Alive d) (c : Nat) {f : DeviceContext → DeviceContext}
    (hf : ∀ context, (f context).core = context.core) : Sound w (w.modifyContext d c f) := by
  refine (cosmetic_modifyContext d c hf).sound (dangling_of_fault ?_)
  obtain ⟨dev, hdev⟩ := Alive.device hd
  simp only [World.modifyContext, World.withDevice, hdev]
  rfl

theorem sound_setNotifies (l : List ProxyHandler) : Sound w (w.setNotifies l) :=
  (cosmetic_setNotifies l).sound (dangling_of_fault rfl)

theorem sound_setSubscribed (proxy : ServiceProxy) (b : Bool) :
    Sound w (gupnpServiceProxySetSubscribed proxy b w) :=
  (cosmetic_setSubscribed proxy b).sound (dangling_of_fault rfl)

theorem sound_setLostHandlers (l : List ProxyHandler) : Sound w (w.setLostHandlers l) :=
  (cosmetic_setLostHandlers l).sound (dangling_of_fault rfl)

theorem sound_setRetryTimers (l : List ProxyHandler) : Sound w (w.setRetryTimers l) :=
  (cosmetic_setRetryTimers l).sound (dangling_of_fault rfl)

theorem sound_prvRsuContextUnsubscribe (hd : w.Alive d) (context : DeviceContext) :
    Sound w (prvRsuContextUnsubscribe d context w) := by
  obtain ⟨dev, hdev⟩ := Alive.device hd
  refine (cosmetic_prvRsuContextUnsubscribe d context).sound (dangling_of_fault ?_)
  exact ((drops_prvRsuContextUnsubscribe d context w).fault (by simp [hdev])).2

theorem sound_prvSubscribeService (hd : w.Alive d) (context : DeviceContext)
    (kind signal : ServiceKind) : Sound w (prvSubscribeService d context kind signal w) := by
  unfold prvSubscribeService
  split
  · let w₁ := gupnpServiceProxySetSubscribed (context.notify d kind).proxy true w
    have hnotify : Sound w (w₁.setNotifies (w₁.gupnp.notifies ++ [context.notify d kind])) :=
      (sound_setSubscribed _ true).trans (sound_setNotifies _)
    have hflag := sound_modifyContext (hnotify.alive d hd) context.id (setSubscribed_core true kind)
    dsimp only
    split
    · exact hnotify.trans (hflag.trans (sound_setLostHandlers _))
    · exact hnotify.trans hflag
  · exact .refl

theorem sound_rsuDeviceSubscribeToServiceChanges (hd : w.Alive d) :
    Sound w (rsuDeviceSubscribeToServiceChanges d w) := by
  refine sound_withContext hd fun context => ?_
  have hcm := sound_prvSubscribeService hd context .cm .cm
  have hav := sound_prvSubscribeService (hcm.alive d hd) context .av .av
  exact hcm.trans (hav.trans
    (sound_prvSubscribeService (hav.alive d (hcm.alive d hd)) context .rc .av))

theorem sound_prvDeviceSubscribeContext (hd : w.Alive d) :
    Sound w (prvDeviceSubscribeContext d w) := by
  refine sound_withDevice hd fun dev _ => sound_withContext hd fun preferred => ?_
  split
  · exact sound_rsuDeviceSubscribeToServiceChanges hd
  next subscribed _ =>
    split
    · exact .refl
    · have hunsubscribed := sound_prvRsuContextUnsubscribe hd subscribed
      exact hunsubscribed.trans
        (sound_rsuDeviceSubscribeToServiceChanges (hunsubscribed.alive d hd))

theorem sound_prvDeclare (env : Environment) {t : ServiceTask} (hd : w.Alive t.device) :
    Sound w (prvDeclare env t w).2.2 :=
  sound_withDevice hd fun _ hdev => sound_setDevice hdev rfl

theorem sound_prvSubscribeToServiceChanges (hd : w.Alive d) :
    Sound w (prvSubscribeToServiceChanges d w) := by
  refine sound_withDevice hd fun dev hdev => ?_
  have hreset : Sound w (w.setDevice d (some { dev with timeoutId := 0 })) :=
    sound_setDevice hdev rfl
  exact hreset.trans (sound_rsuDeviceSubscribeToServiceChanges (hreset.alive d hd))

theorem sound_subscribeLater (hd : w.Alive d) : Sound w (subscribeLater d w) := by
  refine (cosmetic_subscribeLater d).sound (dangling_of_fault ?_)
  obtain ⟨dev, hdev⟩ := Alive.device hd
  simp only [subscribeLater, World.withDevice, hdev]
  rfl

theorem Sound.foldl {α : Type} {f : World → α → World} {l : List α}
    (hf : ∀ w', Sound w w' → ∀ x ∈ l, Sound w' (f w' x)) : Sound w (l.foldl f w) := by
  have hall : ∀ w', Sound w w' → Sound w (l.foldl f w') := by
    induction l with
    | nil => exact fun w' h => h
    | cons x l ih =>
        intro w' h
        exact ih (fun w' h y hy => hf w' h y (List.mem_cons_of_mem x hy)) _
          (h.trans (hf w' h x List.mem_cons_self))
  exact hall w .refl

theorem sound_rsuDeviceUnsubscribe (hd : w.Alive d) : Sound w (rsuDeviceUnsubscribe d w) :=
  sound_withDevice hd fun _ _ => .foldl fun _ h context _ =>
    sound_prvRsuContextUnsubscribe (h.alive d hd) context

theorem sound_prvDeviceAppendNewContext (hd : w.Alive d) (ipAddress : String)
    (offered : DeviceServices) : Sound w (prvDeviceAppendNewContext d ipAddress offered w) := by
  obtain ⟨dev, hdev⟩ := Alive.device hd
  refine ⟨fun e he => ?_, dangling_of_fault ?_⟩
  · have hcore : w.core d = some dev.core := core_of_device hdev
    rw [World.Alive, path_eq_core, (gains_prvDeviceAppendNewContext ipAddress offered hcore).core]
    split
    · rfl
    · rw [← path_eq_core]
      exact he
  · have hdev' : (prvContextNew ipAddress offered w).2.devices d = some dev := hdev
    simp only [prvDeviceAppendNewContext, World.withDevice, hdev']
    rfl

/-- The context that an attached handler carries is one of its device. -/
theorem World.Attached.context {n : ProxyHandler} (h : w.Attached n) :
    ∃ dev context, w.devices n.device = some dev ∧
      dev.contexts.find? (fun context => context.id = n.context) = some context := by
  obtain ⟨c, x, hc, hx, hid, -⟩ := h
  obtain ⟨dev, hdev, rfl⟩ := Option.map_eq_some_iff.mp hc
  obtain ⟨context, hcontext, rfl⟩ := List.mem_map.mp hx
  refine ⟨dev, ?_⟩
  have hfound : (dev.contexts.find? fun context => context.id = n.context).isSome :=
    List.find?_isSome.mpr ⟨context, hcontext, decide_eq_true hid⟩
  obtain ⟨found, hfound⟩ := Option.isSome_iff_exists.mp hfound
  exact ⟨found, hdev, hfound⟩

theorem sound_prvSubscriptionLostCb {h : ProxyHandler} (hh : w.Attached h) :
    Sound w (prvSubscriptionLostCb h w) := by
  obtain ⟨dev, context, hdev, hcontext⟩ := hh.context
  have hd := alive_of_device hdev
  simp only [prvSubscriptionLostCb, World.withDevice, hdev, hcontext]
  split
  · let w₁ := w.setRetryTimers (w.loop.retryTimers.erase (context.notify h.device h.kind))
    have hretry : Sound w w₁ := sound_setRetryTimers _
    have hstopped := hretry.trans (sound_setNotifies
      (w₁.gupnp.notifies.erase (context.notify h.device h.kind)))
    refine hstopped.trans (sound_modifyContext (hstopped.alive _ hd) _ fun context => ?_)
    rw [setSubscribed_core, setTimeoutId_core]
  · let w₁ := gupnpServiceProxySetSubscribed (context.notify h.device h.kind).proxy true w
    have hstarted : Sound w (w₁.setRetryTimers (w₁.loop.retryTimers ++
        [context.notify h.device h.kind])) :=
      (sound_setSubscribed _ true).trans (sound_setRetryTimers _)
    exact hstarted.trans
      (sound_modifyContext (hstarted.alive _ hd) _ (setTimeoutId_core true h.kind))

theorem sound_prvReEnableSubscription {h : ProxyHandler} {dev : Device} {context : DeviceContext}
    (hdev : w.devices h.device = some dev) (hmem : context ∈ dev.contexts)
    (hid : context.id = h.context) : Sound w (prvReEnableSubscription h w) := by
  have hfound : (dev.contexts.find? fun context => context.id = h.context).isSome :=
    List.find?_isSome.mpr ⟨context, hmem, decide_eq_true hid⟩
  obtain ⟨found, hfound⟩ := Option.isSome_iff_exists.mp hfound
  simp only [prvReEnableSubscription, World.withDevice, hdev, hfound]
  exact sound_modifyContext (alive_of_device hdev) _ (setTimeoutId_core false h.kind)

/-! ## The invariant -/

def World.Serves (w : World) (d : Nat) (path : String) : Prop :=
  (∃ udn, w.upnp.serverUdnMap.lookup udn = some d) ∧ w.path d = some path

/-- What holds of client tasks: one that was begun for a device either was given
up or has a device that is known. -/
structure ClientsOk (w : World) : Prop where
  begun : ∀ a t, w.tasks a = some (.client t) → t.cancellable ≠ none →
    t.synchronous = false ∧ w.Settled a t
  unbegun : ∀ a t, w.tasks a = some (.client t) → t.cancellable = none → t.Unbegun
  serves : ∀ a t d, w.tasks a = some (.client t) → t.device = some d →
    t.GivenUp ∨ w.Serves d t.path
  deferred : ∀ k q, w.queue? k = some q → q.deferRemove = true → w.Finishing q

/-- What holds of everything that carries a device. -/
structure HoldersOk (w : World) : Prop where
  attached : AttachedOk w
  clients : ClientsOk w

/-- Client tasks go on, and the devices that they wait for stay known. -/
theorem ClientsOk.goOn (h : ClientsOk w) (hg : ClientsGoOn w w')
    (hserves : ∀ a t t' d, w.tasks a = some (.client t) → w'.tasks a = some (.client t') →
      t.Becomes t' → t.device = some d → w.Serves d t.path → t'.GivenUp ∨ w'.Serves d t.path) :
    ClientsOk w' where
  begun a t' ht' hbegun := by
    rcases hg.records a t' ht' with ⟨t, ht, hbecomes, hsettled⟩ | hfresh
    · obtain ⟨hasync, hpending⟩ := h.begun a t ht fun hnone => hbegun (hbecomes.begun.mpr hnone)
      exact ⟨hbecomes.synchronous.trans hasync, hsettled hpending⟩
    · exact absurd hfresh.1 hbegun
  unbegun a t' ht' hnone := by
    rcases hg.records a t' ht' with ⟨t, ht, hbecomes, -⟩ | hfresh
    · have hold := hbecomes.begun.mp hnone
      obtain ⟨-, hdevice, herror⟩ := h.unbegun a t ht hold
      exact ⟨hnone, hbecomes.device.trans hdevice, (hbecomes.error hold).trans herror⟩
    · exact hfresh
  serves a t' d ht' hd := by
    rcases hg.records a t' ht' with ⟨t, ht, hbecomes, -⟩ | hfresh
    · have hdevice : t.device = some d := hbecomes.device ▸ hd
      rw [hbecomes.path]
      rcases h.serves a t d ht hdevice with hgiven | hknown
      · exact .inl (hbecomes.givenUp hgiven)
      · exact hserves a t t' d ht ht' hbecomes hdevice hknown
    · rw [hfresh.2.1] at hd
      simp at hd
  deferred k q' hq' hdefer := by
    rcases hg.queues k q' hq' hdefer with ⟨q, hq, hlingers⟩ | hfinishing
    · exact hg.finishing (h.deferred k q hq hlingers.deferRemove) hlingers
    · exact hfinishing

theorem DevicesStay.serves (h : DevicesStay w w') {p : String} (hd : w.Serves d p) :
    w'.Serves d p := by
  have hmap := congrArg Upnp.serverUdnMap h.upnp
  obtain ⟨⟨udn, hudn⟩, hp⟩ := hd
  refine ⟨⟨udn, ?_⟩, by rwa [h.path]⟩
  rw [← hudn]
  exact congrArg (fun t => t.lookup udn) hmap

theorem AttachedOk.stay (h : AttachedOk w) (hs : DevicesStay w w') : AttachedOk w' :=
  h.congr hs.devices hs.notifies hs.lostHandlers hs.retryTimers hs.subscribeTimers

theorem HoldersOk.apart (h : HoldersOk w) (ha : Apart w w') : HoldersOk w' :=
  ⟨h.attached.stay ha.toDevicesStay, h.clients.goOn ha.toClientsGoOn
    fun _ _ _ _ _ _ _ _ hknown => .inr (ha.toDevicesStay.serves hknown)⟩

theorem ClientsGoOn.of_offstage (h : Offstage w w') : ClientsGoOn w w' :=
  .of_same h.tasks (fun a ha => by rwa [h.completeIdles]) fun k => by
    unfold World.queue?
    rw [h.processor]

theorem ClientsOk.offstage (h : ClientsOk w) (ho : Offstage w w') (hpath : w'.path = w.path) :
    ClientsOk w' :=
  h.goOn (.of_offstage ho) fun _ _ _ _ _ _ _ _ ⟨⟨udn, hudn⟩, hp⟩ =>
    .inr ⟨⟨udn, by rwa [ho.upnp]⟩, by rwa [hpath]⟩

theorem ClientsOk.cosmetic (h : ClientsOk w) (hc : Cosmetic w w') : ClientsOk w' :=
  h.offstage hc.toOffstage (path_of_core (funext hc.core))

theorem ClientsOk.alive (h : ClientsOk w) {t : ClientTask} (ht : w.tasks a = some (.client t))
    (harmed : t.Armed) (hd : t.device = some d) : w.Alive d := by
  rcases h.serves a t d ht hd with ⟨c, hc, hcancelled⟩ | ⟨-, hp⟩
  · obtain rfl := Option.some.inj (hc.symm.trans harmed)
    simp at hcancelled
  · simp [World.Alive, hp]

end RendererService
