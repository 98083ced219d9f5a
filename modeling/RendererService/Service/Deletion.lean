import RendererService.Service.Attachments

/-!
# Devices that come and go

A context that is deleted takes its timers and the callbacks on its proxies with
it, and so does a device; what is attached to other devices stays.
-/

namespace RendererService

variable {w w' w'' : World} {d : Nat}

/-! ## What goes away -/

/-- Some contexts of a device are touched, some retry timers are removed, and
the callbacks on some proxies. -/
structure Drops (d : Nat) (touched : List Nat) (stops : List ProxyHandler)
    (gone : List ServiceProxy) (w w' : World) : Prop where
  others : ∀ e, e ≠ d → w'.devices e = w.devices e
  timeoutId : ∀ e, w'.timeoutId e = w.timeoutId e
  notifies : ∀ n ∈ w'.gupnp.notifies, n ∈ w.gupnp.notifies ∧ n.proxy ∉ gone
  lostHandlers : ∀ n ∈ w'.gupnp.lostHandlers, n ∈ w.gupnp.lostHandlers ∧ n.proxy ∉ gone
  retry : w'.loop.retryTimers.Sublist w.loop.retryTimers
  stopped : w.loop.retryTimers.Nodup → ∀ r ∈ w'.loop.retryTimers, r ∉ stops
  remembers : ∀ r, (r.device = d → r.context ∉ touched) → w.Remembered r → w'.Remembered r
  subscribe : w'.loop.subscribeTimers = w.loop.subscribeTimers
  fault : (w.devices d).isSome → (w'.devices d).isSome ∧ w'.fault = w.fault

namespace Drops

variable {touched touched' : List Nat} {stops stops' : List ProxyHandler}
  {gone gone' : List ServiceProxy}

theorem refl : Drops d touched [] [] w w :=
  ⟨fun _ _ => rfl, fun _ => rfl, fun _ hn => ⟨hn, List.not_mem_nil⟩,
    fun _ hn => ⟨hn, List.not_mem_nil⟩, .refl _, fun _ _ _ => List.not_mem_nil, fun _ _ hr => hr,
    rfl, fun hd => ⟨hd, rfl⟩⟩

theorem trans (h : Drops d touched stops gone w w') (h' : Drops d touched' stops' gone' w' w'') :
    Drops d (touched ++ touched') (stops ++ stops') (gone ++ gone') w w'' where
  others e he := (h'.others e he).trans (h.others e he)
  timeoutId e := (h'.timeoutId e).trans (h.timeoutId e)
  notifies n hn := by
    obtain ⟨hn', hgone'⟩ := h'.notifies n hn
    obtain ⟨hn₀, hgone⟩ := h.notifies n hn'
    exact ⟨hn₀, fun hmem => (List.mem_append.mp hmem).elim hgone hgone'⟩
  lostHandlers n hn := by
    obtain ⟨hn', hgone'⟩ := h'.lostHandlers n hn
    obtain ⟨hn₀, hgone⟩ := h.lostHandlers n hn'
    exact ⟨hn₀, fun hmem => (List.mem_append.mp hmem).elim hgone hgone'⟩
  retry := h'.retry.trans h.retry
  stopped hnodup r hr hmem := by
    rcases List.mem_append.mp hmem with hmem | hmem
    · exact h.stopped hnodup r (h'.retry.subset hr) hmem
    · exact h'.stopped (hnodup.sublist h.retry) r hr hmem
  remembers r hne hr := by
    have hfirst := h.remembers r (fun hd hmem => hne hd (List.mem_append_left _ hmem)) hr
    exact h'.remembers r (fun hd hmem => hne hd (List.mem_append_right _ hmem)) hfirst
  subscribe := h'.subscribe.trans h.subscribe
  fault hd := by
    obtain ⟨hd', hfault⟩ := h.fault hd
    obtain ⟨hd'', hfault'⟩ := h'.fault hd'
    exact ⟨hd'', hfault'.trans hfault⟩

theorem mono (h : Drops d touched stops gone w w') (htouched : touched ⊆ touched')
    (hstops : stops' ⊆ stops) (hgone : gone' ⊆ gone) : Drops d touched' stops' gone' w w' where
  others := h.others
  timeoutId := h.timeoutId
  notifies n hn := ⟨(h.notifies n hn).1, fun hmem => (h.notifies n hn).2 (hgone hmem)⟩
  lostHandlers n hn := ⟨(h.lostHandlers n hn).1, fun hmem => (h.lostHandlers n hn).2 (hgone hmem)⟩
  retry := h.retry
  stopped hnodup r hr hmem := h.stopped hnodup r hr (hstops hmem)
  remembers r hne := h.remembers r fun hd hmem => hne hd (htouched hmem)
  subscribe := h.subscribe
  fault := h.fault

end Drops

/-! ## Contexts -/

theorem drops_modifyContext (d c : Nat) {stops : List ProxyHandler}
    {f : DeviceContext → DeviceContext}
    (hf : ∀ context, (f context).core = context.core) {w₁ : World}
    (h : Drops d [c] stops [] w w₁) : Drops d [c] stops [] w (w₁.modifyContext d c f) := by
  have hmodify : Drops d [c] [] [] w₁ (w₁.modifyContext d c f) := by
    refine ⟨fun e he => ?_, fun e => timeoutId_modifyContext w₁ d c e f, ?_, ?_, ?_,
      fun _ _ _ => List.not_mem_nil, fun r hne hr => ?_, ?_, fun hd => ?_⟩
    · rw [devices_modifyContext, if_neg he]
    · rw [gupnp_modifyContext]
      exact fun n hn => ⟨hn, List.not_mem_nil⟩
    · rw [gupnp_modifyContext]
      exact fun n hn => ⟨hn, List.not_mem_nil⟩
    · rw [loop_modifyContext]
    · refine hr.modifyContext d c hf fun hd hc => ?_
      exact absurd (List.mem_singleton.mpr hc) (hne hd)
    · rw [loop_modifyContext]
    · obtain ⟨dev, hdev⟩ := Option.isSome_iff_exists.mp hd
      refine ⟨?_, ?_⟩
      · rw [devices_modifyContext, if_pos rfl, Option.isSome_map]
        exact hd
      · simp only [World.modifyContext, World.withDevice, hdev]
        rfl
  exact (h.trans hmodify).mono (by simp) (by simp) (by simp)

theorem drops_stopRetry (d : Nat) (context : DeviceContext) (kind : ServiceKind) :
    Drops d [context.id] (if context.timeoutId kind then [context.notify d kind] else []) [] w
      (context.stopRetry d kind w) := by
  unfold DeviceContext.stopRetry
  split
  · refine drops_modifyContext d context.id (setTimeoutId_core false kind) ?_
    refine ⟨fun _ _ => rfl, fun _ => rfl, fun _ hn => ⟨hn, List.not_mem_nil⟩,
      fun _ hn => ⟨hn, List.not_mem_nil⟩, List.erase_sublist, fun hnodup r hr hmem => ?_,
      fun _ _ hr => hr, rfl, fun hd => ⟨hd, rfl⟩⟩
    exact (hnodup.mem_erase_iff.mp hr).1 (List.mem_singleton.mp hmem)
  · exact .refl

theorem drops_stopNotify (d : Nat) (context : DeviceContext) (kind : ServiceKind) :
    Drops d [context.id] [] [] w (context.stopNotify d kind w) := by
  unfold DeviceContext.stopNotify
  split
  · refine drops_modifyContext d context.id (setSubscribed_core false kind) ?_
    exact ⟨fun _ _ => rfl, fun _ => rfl, fun _ hn => ⟨List.mem_of_mem_erase hn, List.not_mem_nil⟩,
      fun _ hn => ⟨hn, List.not_mem_nil⟩, .refl _, fun _ _ _ => List.not_mem_nil, fun _ _ hr => hr,
      rfl, fun hd => ⟨hd, rfl⟩⟩
  · exact .refl

def DeviceContext.retries (context : DeviceContext) (d : Nat) : List ProxyHandler :=
  ([.cm, .av, .rc] : List ServiceKind).flatMap fun kind =>
    if context.timeoutId kind then [context.notify d kind] else []

theorem DeviceContext.mem_retries {context : DeviceContext} {kind : ServiceKind}
    (h : context.timeoutId kind = true) (d : Nat) : context.notify d kind ∈ context.retries d := by
  refine List.mem_flatMap.mpr ⟨kind, by cases kind <;> simp, ?_⟩
  rw [if_pos h]
  exact List.mem_singleton_self _

theorem ProxyHandler.mem_retries {r : ProxyHandler} {context : DeviceContext}
    (hproxy : r.proxy = ⟨r.context, r.kind⟩) (hid : context.id = r.context)
    (hflag : context.timeoutId r.kind = true) : r ∈ context.retries r.device := by
  have hname : r = context.notify r.device r.kind := by
    obtain ⟨proxy, kind, device, c⟩ := r
    simp only at hproxy hid
    subst hproxy hid
    rfl
  rw [hname]
  exact DeviceContext.mem_retries hflag r.device

theorem drops_prvRsuContextUnsubscribe (d : Nat) (context : DeviceContext) (w : World) :
    Drops d [context.id] (context.retries d) [] w (prvRsuContextUnsubscribe d context w) := by
  have hretry := (drops_stopRetry (w := w) d context .cm).trans
    ((drops_stopRetry d context .av).trans (drops_stopRetry d context .rc))
  have hall := hretry.trans ((drops_stopNotify d context .cm).trans
    ((drops_stopNotify d context .av).trans (drops_stopNotify d context .rc)))
  refine hall.mono (by simp) ?_ (by simp)
  simp only [DeviceContext.retries, List.flatMap_cons, List.flatMap_nil, List.append_nil]
  exact List.Subset.refl _

theorem drops_prvRsuContextDelete (d : Nat) (context : DeviceContext) (w : World) :
    Drops d [context.id] (context.retries d) context.serviceProxies.toList w
      (prvRsuContextDelete d context w) := by
  have hfree : Drops d [] [] context.serviceProxies.toList (prvRsuContextUnsubscribe d context w)
      (prvRsuContextDelete d context w) :=
    ⟨fun _ _ => rfl, fun _ => rfl, fun _ hn => by simpa using List.mem_filter.mp hn,
      fun _ hn => by simpa using List.mem_filter.mp hn, .refl _, fun _ _ _ => List.not_mem_nil,
      fun _ _ hr => hr, rfl, fun hd => ⟨hd, rfl⟩⟩
  exact ((drops_prvRsuContextUnsubscribe d context w).trans hfree).mono (by simp) (by simp)
    (by simp)

theorem fault_prvRsuContextDelete {dev : Device} (hdev : w.devices d = some dev)
    (context : DeviceContext) : (prvRsuContextDelete d context w).fault = w.fault :=
  ((drops_prvRsuContextDelete d context w).fault (by simp [hdev])).2

theorem timeoutId_removeContext (w : World) (d : Nat) (dev : Device) (context : DeviceContext)
    (ipAddress : String) :
    (w.removeContext d dev context ipAddress).timeoutId d = some dev.timeoutId := by
  refine ((drops_prvRsuContextDelete d context _).timeoutId d).trans ?_
  simp [World.timeoutId, World.setDevice]

theorem drops_foldl (d : Nat) (contexts : List DeviceContext) :
    ∀ w : World, Drops d (contexts.map DeviceContext.id)
      (contexts.flatMap fun context => context.retries d)
      (contexts.flatMap fun context => context.serviceProxies.toList) w
      (contexts.foldl (fun w context => prvRsuContextDelete d context w) w) := by
  induction contexts with
  | nil => exact fun w => .refl
  | cons context contexts ih =>
      intro w
      exact (drops_prvRsuContextDelete d context w).trans (ih _)

/-! ## Devices -/

structure Detached (d : Nat) (w : World) : Prop where
  device : w.devices d = none
  notifies : ∀ n ∈ w.gupnp.notifies, n.device ≠ d
  lostHandlers : ∀ n ∈ w.gupnp.lostHandlers, n.device ≠ d
  retry : ∀ r ∈ w.loop.retryTimers, r.device ≠ d
  subscribe : ∀ s ∈ w.loop.subscribeTimers, s.2 ≠ d

theorem AttachedOk.detached (h : AttachedOk w) (hd : w.devices d = none) : Detached d w := by
  have hcore : ∀ n, w.Attached n → n.device ≠ d := by
    rintro n ⟨c, x, hc, -⟩ rfl
    simp [World.core, hd] at hc
  refine ⟨hd, fun n hn => hcore n (h.notifies n hn), fun n hn => hcore n (h.lostHandlers n hn),
    fun r hr => ?_, fun s hs => ?_⟩
  · obtain ⟨-, dev, context, hdev, -⟩ := h.retry r hr
    rintro rfl
    simp [hd] at hdev
  · have htimeout := (h.subscribe s hs).2
    rintro rfl
    simp [World.timeoutId, hd] at htimeout

def World.stopTimer (w : World) (timeoutId : Nat) : World :=
  if timeoutId ≠ 0 then
    w.setSubscribeTimers (w.loop.subscribeTimers.filter fun s => s.1 ≠ timeoutId)
  else w

theorem mem_stopTimer {timeoutId : Nat} {s : Nat × Nat}
    (hs : s ∈ (w.stopTimer timeoutId).loop.subscribeTimers) :
    s ∈ w.loop.subscribeTimers ∧ (timeoutId ≠ 0 → s.1 ≠ timeoutId) := by
  unfold World.stopTimer at hs
  split at hs
  · obtain ⟨hmem, hne⟩ := List.mem_filter.mp hs
    exact ⟨hmem, fun _ => by simpa using hne⟩
  next hzero => exact ⟨hs, fun hne => absurd hne hzero⟩

theorem stopTimer_sublist (w : World) (timeoutId : Nat) :
    (w.stopTimer timeoutId).loop.subscribeTimers.Sublist w.loop.subscribeTimers := by
  unfold World.stopTimer
  split
  · exact List.filter_sublist
  · exact .refl _

theorem stopTimer_same (w : World) (timeoutId : Nat) :
    (w.stopTimer timeoutId).devices = w.devices ∧ (w.stopTimer timeoutId).gupnp = w.gupnp ∧
      (w.stopTimer timeoutId).loop.retryTimers = w.loop.retryTimers ∧
        (w.stopTimer timeoutId).fault = w.fault := by
  unfold World.stopTimer
  split <;> exact ⟨rfl, rfl, rfl, rfl⟩

theorem rsuDeviceDelete_eq {dev : Device} (hdev : w.devices d = some dev) :
    rsuDeviceDelete d w = (dev.contexts.foldl (fun w context => prvRsuContextDelete d context w)
      (w.stopTimer dev.timeoutId)).setDevice d none := by
  simp only [rsuDeviceDelete, World.withDevice, hdev]
  rfl

theorem AttachedOk.delete (h : AttachedOk w) {dev : Device} (hdev : w.devices d = some dev) :
    AttachedOk (rsuDeviceDelete d w) := by
  obtain ⟨hdevices, hgupnp, hretry, -⟩ := stopTimer_same w dev.timeoutId
  have hdrops := drops_foldl d dev.contexts (w.stopTimer dev.timeoutId)
  rw [rsuDeviceDelete_eq hdev]
  revert hdrops
  generalize dev.contexts.foldl (fun w context => prvRsuContextDelete d context w)
    (w.stopTimer dev.timeoutId) = w'
  intro hdrops
  have hother : ∀ e, e ≠ d → (w'.setDevice d none).devices e = w.devices e := fun e he =>
    ((if_neg he).trans (hdrops.others e he)).trans (congrFun hdevices e)
  have hself : (w'.setDevice d none).devices d = none := if_pos rfl
  have hcore : ∀ e c, (w'.setDevice d none).core e = some c → e ≠ d ∧ w.core e = some c := by
    intro e c he
    by_cases hed : e = d
    · rw [World.core, hed, hself] at he
      simp at he
    · rw [World.core, hother e hed] at he
      exact ⟨hed, he⟩
  have hattached : ∀ n, w.Attached n →
      n.proxy ∉ (dev.contexts.flatMap fun context => context.serviceProxies.toList) →
        (w'.setDevice d none).Attached n := by
    rintro n ⟨c, x, hc, hx, hid, hproxy⟩ hgone
    by_cases hnd : n.device = d
    · rw [hnd, World.core, hdev] at hc
      obtain rfl := Option.some.inj hc
      obtain ⟨context, hcontext, rfl⟩ := List.mem_map.mp hx
      exact absurd (List.mem_flatMap.mpr ⟨context, hcontext, hproxy⟩) hgone
    · refine ⟨c, x, ?_, hx, hid, hproxy⟩
      rw [World.core, hother _ hnd]
      exact hc
  have hnodup : (w.stopTimer dev.timeoutId).loop.retryTimers.Nodup := by
    rw [hretry]
    exact h.retryNodup
  refine ⟨fun e c x kind p he => h.named e c x kind p (hcore e c he).2, ?_, ?_, ?_,
    hnodup.sublist hdrops.retry, ?_, ?_⟩
  · intro n hn
    obtain ⟨hn', hgone⟩ := hdrops.notifies n hn
    rw [hgupnp] at hn'
    exact hattached n (h.notifies n hn') hgone
  · intro n hn
    obtain ⟨hn', hgone⟩ := hdrops.lostHandlers n hn
    rw [hgupnp] at hn'
    exact hattached n (h.lostHandlers n hn') hgone
  · intro r hr
    have hr' := hdrops.retry.subset hr
    rw [hretry] at hr'
    obtain ⟨hproxy, dev', context, hdev', hmem, hid, hflag⟩ := h.retry r hr'
    by_cases hrd : r.device = d
    · obtain rfl : dev = dev' := Option.some.inj (hdev.symm.trans (hrd ▸ hdev'))
      refine absurd ?_ (hdrops.stopped hnodup r hr)
      exact List.mem_flatMap.mpr ⟨context, hmem, hrd ▸ ProxyHandler.mem_retries hproxy hid hflag⟩
    · exact ⟨hproxy, dev', context, (hother _ hrd).trans hdev', hmem, hid, hflag⟩
  · intro s hs
    have hs' : s ∈ (w.stopTimer dev.timeoutId).loop.subscribeTimers := hdrops.subscribe ▸ hs
    obtain ⟨hmem, hne⟩ := mem_stopTimer hs'
    obtain ⟨hzero, htimeout⟩ := h.subscribe s hmem
    have hsd : s.2 ≠ d := by
      rintro rfl
      have hid : dev.timeoutId = s.1 := by simpa [World.timeoutId, hdev] using htimeout
      rw [hid] at hne
      exact hne hzero rfl
    refine ⟨hzero, ?_⟩
    rw [World.timeoutId, hother _ hsd]
    exact htimeout
  · have hsame : (w'.setDevice d none).loop.subscribeTimers =
        (w.stopTimer dev.timeoutId).loop.subscribeTimers := hdrops.subscribe
    rw [hsame]
    exact h.subscribeNodup.sublist (stopTimer_sublist w _)

theorem fault_rsuDeviceDelete (hd : (w.devices d).isSome) :
    (rsuDeviceDelete d w).fault = w.fault := by
  obtain ⟨dev, hdev⟩ := Option.isSome_iff_exists.mp hd
  obtain ⟨hdevices, -, -, hfault⟩ := stopTimer_same w dev.timeoutId
  rw [rsuDeviceDelete_eq hdev]
  have hdrops := drops_foldl d dev.contexts (w.stopTimer dev.timeoutId)
  exact (hdrops.fault (by rw [hdevices, hdev]; rfl)).2.trans hfault

theorem mem_eraseP_of_ne {α : Type} {pred : α → Bool} {a b : α} {l : List α}
    (hfind : l.find? pred = some a) (hb : b ∈ l) (hne : b ≠ a) : b ∈ l.eraseP pred := by
  induction l with
  | nil => simp at hb
  | cons x l ih =>
      by_cases hx : pred x = true
      · obtain rfl : x = a := by simpa [List.find?_cons, hx] using hfind
        rw [List.eraseP_cons_of_pos hx]
        exact (List.mem_cons.mp hb).resolve_left hne
      · rw [List.eraseP_cons_of_neg hx]
        rw [List.find?_cons_of_neg hx] at hfind
        rcases List.mem_cons.mp hb with rfl | hb
        · exact List.mem_cons_self
        · exact List.mem_cons_of_mem _ (ih hfind hb)

theorem AttachedOk.removeContext (h : AttachedOk w) (hdevices : DevicesOk w) {dev : Device}
    {context : DeviceContext} (hdev : w.devices d = some dev) {pred : DeviceContext → Bool}
    (hfind : dev.contexts.find? pred = some context) :
    AttachedOk (prvRsuContextDelete d context
      (w.setDevice d (some { dev with contexts := dev.contexts.eraseP pred }))) := by
  have hd : w.core d = some dev.core := core_of_device hdev
  have hids : (dev.contexts.map DeviceContext.id).Nodup := by
    simpa [Device.core, DeviceContext.core, Function.comp_def] using hdevices.nodup d _ hd
  have hmem := List.mem_of_find?_eq_some hfind
  obtain ⟨-, hcore⟩ := frees_removeContext (w := w) d dev context (dev.contexts.eraseP pred)
  have hdrops := drops_prvRsuContextDelete d context
    (w.setDevice d (some { dev with contexts := dev.contexts.eraseP pred }))
  revert hcore hdrops
  generalize prvRsuContextDelete d context
    (w.setDevice d (some { dev with contexts := dev.contexts.eraseP pred })) = w'
  intro hcore hdrops
  have hattached : ∀ n, w.Attached n → n.proxy ∉ context.serviceProxies.toList →
      w'.Attached n := by
    rintro n ⟨c, x, hc, hx, hid, hproxy⟩ hgone
    by_cases hnd : n.device = d
    · rw [hnd, hd] at hc
      obtain rfl := Option.some.inj hc
      obtain ⟨context', hcontext', rfl⟩ := List.mem_map.mp hx
      have hne : context' ≠ context := fun heq => hgone (heq ▸ hproxy)
      have hkept : context'.core ∈ (dev.contexts.eraseP pred).map DeviceContext.core :=
        List.mem_map_of_mem (mem_eraseP_of_ne hfind hcontext' hne)
      exact ⟨_, _, (hcore _).trans (if_pos hnd), hkept, hid, hproxy⟩
    · refine ⟨c, x, ?_, hx, hid, hproxy⟩
      rw [hcore, if_neg hnd]
      exact hc
  refine ⟨?_, ?_, ?_, ?_, h.retryNodup.sublist hdrops.retry, ?_, ?_⟩
  · intro e c x kind p he hx
    rw [hcore] at he
    split at he
    · obtain rfl := Option.some.inj he
      exact h.named d _ x kind p hd (((List.eraseP_sublist).map _).subset hx)
    · exact h.named e c x kind p he hx
  · intro n hn
    obtain ⟨hn', hgone⟩ := hdrops.notifies n hn
    exact hattached n (h.notifies n hn') hgone
  · intro n hn
    obtain ⟨hn', hgone⟩ := hdrops.lostHandlers n hn
    exact hattached n (h.lostHandlers n hn') hgone
  · intro r hr
    obtain ⟨hproxy, dev', context', hdev', hmem', hid, hflag⟩ := h.retry r (hdrops.retry.subset hr)
    by_cases hrd : r.device = d
    · obtain rfl : dev = dev' := Option.some.inj (hdev.symm.trans (hrd ▸ hdev'))
      have hne : context' ≠ context := by
        rintro rfl
        refine hdrops.stopped h.retryNodup r hr ?_
        exact hrd ▸ ProxyHandler.mem_retries hproxy hid hflag
      refine hdrops.remembers r (fun _ hc => ?_) ⟨hproxy,
        { dev with contexts := dev.contexts.eraseP pred }, context', if_pos hrd,
        mem_eraseP_of_ne hfind hmem' hne, hid, hflag⟩
      have hsame : context'.id = context.id := hid.trans (List.mem_singleton.mp hc)
      exact hne (List.inj_on_of_nodup_map hids hmem' hmem hsame)
    · refine hdrops.remembers r (fun hd' => absurd hd' hrd)
        ⟨hproxy, dev', context', ?_, hmem', hid, hflag⟩
      exact (if_neg hrd).trans hdev'
  · intro s hs
    rw [hdrops.subscribe] at hs
    obtain ⟨hzero, htimeout⟩ := h.subscribe s hs
    refine ⟨hzero, ?_⟩
    rw [hdrops.timeoutId]
    by_cases hsd : s.2 = d
    · simpa [World.timeoutId, World.setDevice, hsd, hdev] using htimeout
    · simpa [World.timeoutId, World.setDevice, hsd] using htimeout
  · rw [hdrops.subscribe]
    exact h.subscribeNodup

/-! ## What is new -/

theorem AttachedOk.blank (h : AttachedOk w) (hd : w.devices d = none) (path : String) :
    AttachedOk (w.setDevice d (some { path := path })) := by
  have hgone := h.detached hd
  have hother : ∀ e, e ≠ d →
      (w.setDevice d (some { path := path })).devices e = w.devices e := fun e he => if_neg he
  have hattached : ∀ n, n.device ≠ d → w.Attached n →
      (w.setDevice d (some { path := path })).Attached n := by
    rintro n hne ⟨c, x, hc, hx⟩
    refine ⟨c, x, ?_, hx⟩
    rw [World.core, hother _ hne]
    exact hc
  refine ⟨?_, fun n hn => hattached n (hgone.notifies n hn) (h.notifies n hn),
    fun n hn => hattached n (hgone.lostHandlers n hn) (h.lostHandlers n hn), ?_, h.retryNodup, ?_,
    h.subscribeNodup⟩
  · intro e c x kind p he hx
    by_cases hed : e = d
    · have hblank : c = ⟨path, []⟩ := by
        rw [core_setDevice, if_pos hed] at he
        exact (Option.some.inj he).symm
      rw [hblank] at hx
      simp at hx
    · rw [core_setDevice, if_neg hed] at he
      exact h.named e c x kind p he hx
  · intro r hr
    obtain ⟨hproxy, dev, context, hdev, hrest⟩ := h.retry r hr
    exact ⟨hproxy, dev, context, (hother _ (hgone.retry r hr)).trans hdev, hrest⟩
  · intro s hs
    obtain ⟨hzero, htimeout⟩ := h.subscribe s hs
    refine ⟨hzero, ?_⟩
    rw [World.timeoutId, hother _ (hgone.subscribe s hs)]
    exact htimeout

theorem AttachedOk.appendContext (h : AttachedOk w) {dev : Device} (hdev : w.devices d = some dev)
    (ipAddress : String) (offered : DeviceServices) :
    AttachedOk (prvDeviceAppendNewContext d ipAddress offered w) := by
  have hd : w.core d = some dev.core := core_of_device hdev
  have hcore := (gains_prvDeviceAppendNewContext ipAddress offered hd).core
  have hdev' : (prvContextNew ipAddress offered w).2.devices d = some dev := hdev
  have heq : prvDeviceAppendNewContext d ipAddress offered w =
      (prvContextNew ipAddress offered w).2.setDevice d (some { dev with
        contexts := dev.contexts ++ [(prvContextNew ipAddress offered w).1] }) := by
    simp only [prvDeviceAppendNewContext, World.withDevice, hdev']
  have hattached : ∀ n, w.Attached n →
      (prvDeviceAppendNewContext d ipAddress offered w).Attached n := by
    rintro n ⟨c, x, hc, hx, hrest⟩
    by_cases hnd : n.device = d
    · rw [hnd, hd] at hc
      obtain rfl := Option.some.inj hc
      exact ⟨_, x, (hcore _).trans (if_pos hnd), List.mem_append_left _ hx, hrest⟩
    · exact ⟨c, x, ((hcore _).trans (if_neg hnd)).trans hc, hx, hrest⟩
  rw [heq] at hcore hattached ⊢
  refine ⟨?_, fun n hn => hattached n (h.notifies n hn),
    fun n hn => hattached n (h.lostHandlers n hn), ?_, h.retryNodup, ?_, h.subscribeNodup⟩
  · intro e c x kind p he hx hp
    rw [hcore] at he
    split at he
    · obtain rfl := Option.some.inj he
      rcases List.mem_append.mp hx with hx | hx
      · exact h.named d _ x kind p hd hx hp
      · rw [List.mem_singleton.mp hx] at hp ⊢
        cases kind <;>
          simp only [World.newContext, gupnpDeviceInfoGetServices, ServiceProxies.get] at hp <;>
          split at hp <;> simp_all [World.newContext]
    · exact h.named e c x kind p he hx hp
  · intro r hr
    obtain ⟨hproxy, dev₀, context, hdev₀, hmem, hrest⟩ := h.retry r hr
    refine ⟨hproxy, ?_⟩
    by_cases hrd : r.device = d
    · obtain rfl : dev = dev₀ := Option.some.inj (hdev.symm.trans (hrd ▸ hdev₀))
      exact ⟨_, context, if_pos hrd, List.mem_append_left _ hmem, hrest⟩
    · exact ⟨dev₀, context, (if_neg hrd).trans hdev₀, hmem, hrest⟩
  · intro s hs
    obtain ⟨hzero, htimeout⟩ := h.subscribe s hs
    refine ⟨hzero, ?_⟩
    by_cases hsd : s.2 = d
    · simpa [World.timeoutId, World.setDevice, hsd, hdev] using htimeout
    · simpa [World.timeoutId, World.setDevice, hsd, prvContextNew] using htimeout

/-! ## The timer of a device -/

theorem AttachedOk.subscribeLater (h : AttachedOk w) {dev : Device} (hdev : w.devices d = some dev)
    (hzero : dev.timeoutId = 0) (hsource : 0 < w.loop.nextSource) :
    AttachedOk (subscribeLater d w) := by
  have hnone : ∀ s ∈ w.loop.subscribeTimers, s.2 ≠ d := by
    rintro s hs rfl
    obtain ⟨hne, htimeout⟩ := h.subscribe s hs
    have hid : dev.timeoutId = s.1 := by simpa [World.timeoutId, hdev] using htimeout
    exact hne (hid.symm.trans hzero)
  have hcore : ∀ e, (RendererService.subscribeLater d w).core e = w.core e :=
    (cosmetic_subscribeLater d).core
  simp only [RendererService.subscribeLater, World.withDevice, hdev] at hcore ⊢
  refine ⟨fun e c x kind p he => h.named e c x kind p (hcore e ▸ he),
    fun n hn => (h.notifies n hn).congr hcore, fun n hn => (h.lostHandlers n hn).congr hcore, ?_,
    h.retryNodup, ?_, ?_⟩
  · intro r hr
    obtain ⟨hproxy, dev₀, context, hdev₀, hrest⟩ := h.retry r hr
    refine ⟨hproxy, ?_⟩
    by_cases hrd : r.device = d
    · obtain rfl : dev = dev₀ := Option.some.inj (hdev.symm.trans (hrd ▸ hdev₀))
      exact ⟨_, context, if_pos hrd, hrest⟩
    · exact ⟨dev₀, context, (if_neg hrd).trans hdev₀, hrest⟩
  · intro s hs
    rcases List.mem_append.mp hs with hs | hs
    · refine ⟨(h.subscribe s hs).1, ?_⟩
      have hsd := hnone s hs
      simpa [World.timeoutId, World.setDevice, hsd] using (h.subscribe s hs).2
    · obtain rfl := List.mem_singleton.mp hs
      exact ⟨Nat.ne_of_gt hsource, by simp [World.timeoutId, World.setDevice]⟩
  · refine List.nodup_append.mpr ⟨h.subscribeNodup, List.nodup_singleton _, ?_⟩
    rintro s hs s' hs' rfl
    exact hnone s hs (by rw [List.mem_singleton.mp hs'])

theorem AttachedOk.subscribeTimer (h : AttachedOk w) {id : Nat}
    (hmem : (id, d) ∈ w.loop.subscribeTimers) :
    AttachedOk (prvSubscribeToServiceChanges d
      (w.setLoop { w.loop with subscribeTimers := w.loop.subscribeTimers.erase (id, d) })) := by
  obtain ⟨hzero, htimeout⟩ := h.subscribe _ hmem
  obtain ⟨dev, hdev, hid⟩ := Option.map_eq_some_iff.mp htimeout
  let w₁ := w.setLoop { w.loop with subscribeTimers := w.loop.subscribeTimers.erase (id, d) }
  have hdev₁ : w₁.devices d = some dev := hdev
  show AttachedOk (prvSubscribeToServiceChanges d w₁)
  simp only [prvSubscribeToServiceChanges, World.withDevice, hdev₁]
  refine AttachedOk.subscribe_changes ?_ d
  have hcosmetic : Cosmetic w₁ (w₁.setDevice d (some { dev with timeoutId := 0 })) :=
    cosmetic_setDevice hdev₁ rfl
  have hcore : ∀ e, (w₁.setDevice d (some { dev with timeoutId := 0 })).core e = w.core e :=
    hcosmetic.core
  refine ⟨fun e c x kind p he => h.named e c x kind p (hcore e ▸ he),
    fun n hn => (h.notifies n hn).congr hcore, fun n hn => (h.lostHandlers n hn).congr hcore, ?_,
    h.retryNodup, ?_, h.subscribeNodup.sublist List.erase_sublist⟩
  · intro r hr
    obtain ⟨hproxy, dev₀, context, hdev₀, hrest⟩ := h.retry r hr
    refine ⟨hproxy, ?_⟩
    by_cases hrd : r.device = d
    · obtain rfl : dev = dev₀ := Option.some.inj (hdev.symm.trans (hrd ▸ hdev₀))
      exact ⟨_, context, if_pos hrd, hrest⟩
    · exact ⟨dev₀, context, (if_neg hrd).trans hdev₀, hrest⟩
  · intro s hs
    obtain ⟨hne, hs'⟩ := h.subscribeNodup.mem_erase_iff.mp hs
    obtain ⟨hpos, hsame⟩ := h.subscribe s hs'
    have hsd : s.2 ≠ d := by
      rintro rfl
      refine hne (Prod.ext ?_ rfl)
      exact Option.some.inj (hsame.symm.trans htimeout)
    exact ⟨hpos, by simpa [World.timeoutId, World.setDevice, hsd, w₁, World.setLoop] using hsame⟩

end RendererService
