import RendererService.Service.Processing

/-!
# Discovery under the invariant of the service

Renderers come, are constructed and go.  Most of what upnp.c does is out of
sight of the rest: the devices change, or the two maps do.
-/

namespace RendererService

variable {w w' : World} {handled : Option Nat}

/-! ## Out of sight -/

def Event.isMute : Event → Bool
  | .chainEnd _ _ | .foundServer _ | .lostServer _ => true
  | _ => false

structure Outside (w w' : World) : Prop where
  processor : w'.processor = w.processor
  processIdles : w'.loop.processIdles = w.loop.processIdles
  completeIdles : w'.loop.completeIdles = w.loop.completeIdles
  nextSource : w.loop.nextSource ≤ w'.loop.nextSource
  tasks : w'.tasks = w.tasks
  nextTask : w'.nextTask = w.nextTask
  nextAction : w'.gupnp.nextAction = w.gupnp.nextAction
  nextInvocation : w'.context.nextInvocation = w.context.nextInvocation
  serviceCpt : w.serviceCpt ≤ w'.serviceCpt
  watchers : ∀ name ∈ w'.context.watchers, name ∈ w.context.watchers ∨ BusSource name
  fault : ∀ k, w'.fault = some (.deadQueueKey k) → w.fault = some (.deadQueueKey k)
  log : ∃ es, w'.log = w.log ++ es ∧ ∀ e ∈ es, e.isMute = true

/-- Nothing that the invariant of the service speaks of changes, but for the
set of watched clients and the counter of constructions. -/
structure Backstage (w w' : World) : Prop extends Outside w w' where
  proxies : w'.gupnp.proxies = w.gupnp.proxies
  actions : w'.gupnp.actions = w.gupnp.actions
  nextContext : w'.gupnp.nextContext = w.gupnp.nextContext
  core : ∀ d, w'.core d = w.core d

theorem Offstage.outside (h : Offstage w w') : Outside w w' :=
  ⟨h.processor, h.processIdles, h.completeIdles, h.nextSource, h.tasks, h.nextTask, h.nextAction,
    by rw [h.context], Nat.le_of_eq h.serviceCpt.symm, fun _ hname => .inl (h.context ▸ hname),
    h.fault, [], by simp [h.log]⟩

theorem Cosmetic.backstage (h : Cosmetic w w') : Backstage w w' :=
  ⟨h.toOffstage.outside, h.proxies, h.actions, h.nextContext, h.core⟩

theorem Outside.queue? (h : Outside w w') (k : TaskQueueKey) : w'.queue? k = w.queue? k := by
  show w'.processor.taskQueues.lookup k = _
  rw [h.processor]

theorem Outside.current (h : Outside w w') (a : TaskAtom) : w'.Current a ↔ w.Current a := by
  unfold World.Current
  rw [h.queue?]

theorem answeredIn_mute {es : List Event} (h : ∀ e ∈ es, e.isMute = true) : answeredIn es = [] := by
  rw [List.eq_nil_iff_forall_not_mem]
  intro n hn
  obtain ⟨reply, he⟩ := mem_answeredIn.mp hn
  simpa [Event.isMute] using h _ he

/-- Devices and proxies may change, and the actions on proxies that go away. -/
theorem ServiceOk.outside (h : ServiceOk handled w) (ho : Outside w w') (hdevices : DevicesOk w')
    (hsub : w'.gupnp.actions.Sublist w.gupnp.actions)
    (hlive : ∀ act ∈ w'.gupnp.actions, act.proxy ∈ w.gupnp.proxies →
      act.proxy ∈ w'.gupnp.proxies) : ServiceOk handled w' := by
  obtain ⟨es, hlog, hes⟩ := ho.log
  have hmute : ∀ e ∈ es, e.isProcessor = false ∧ e.isCompletion = false := fun e he => by
    have := hes e he
    cases e <;> simp_all [Event.isMute, Event.isProcessor, Event.isCompletion]
  refine h.elsewhere ?_ ⟨hdevices, ?_, ?_, ?_, ?_, ?_, h.outer.requests.congr ho.tasks,
    fun k hk => h.outer.liveKeys k (ho.fault k hk)⟩
  · refine ⟨ho.processor, ho.processIdles, ho.nextSource, ho.nextTask, fun _ _ _ _ _ => by
      rw [ho.tasks], fun _ _ _ _ _ hlive => by rwa [ho.tasks], es, hlog, ?_⟩
    exact fun e he => (hmute e he).1
  · refine h.outer.actions.mono hsub ho.nextAction ?_ fun act hact => ?_
    · unfold World.Names
      rw [ho.tasks]
      exact fun _ _ => id
    · rw [ho.tasks]
      exact ⟨(ho.current _).mpr, id, hlive act hact⟩
  · refine h.outer.completions.keep hlog (fun e he => (hmute e he).2) ho.completeIdles
      (Nat.le_of_eq ho.nextTask.symm) ?_ ?_
    · rintro a - ha hrecord
      rw [ho.tasks]
      exact ⟨(ho.current a).mpr ha, hrecord⟩
    · intro a t ht hopen
      exact .inl ⟨t, ho.tasks ▸ ht, hopen⟩
  · exact h.outer.keys.congr ho.processor ho.serviceCpt ho.watchers
  · refine h.outer.invocations.congr hlog (answeredIn_mute hes) ?_ ho.tasks ho.nextInvocation
    exact fun n a hmem => absurd (hes _ hmem) (by simp [Event.isMute])
  · exact h.outer.held.of_elsewhere ho.processor fun a r hr => ⟨r, ho.tasks ▸ hr⟩

theorem ServiceOk.backstage (h : ServiceOk handled w) (hb : Backstage w w') :
    ServiceOk handled w' := by
  refine h.outside hb.toOutside (h.outer.devices.congr hb.proxies hb.nextContext hb.core)
    (by rw [hb.actions]) fun act _ => ?_
  rw [hb.proxies]
  exact id

theorem ServiceOk.cosmetic (h : ServiceOk handled w) (hc : Cosmetic w w') : ServiceOk handled w' :=
  h.backstage hc.backstage

theorem backstage_setUpnp (u : Upnp) : Backstage w { w with upnp := u } :=
  ⟨⟨rfl, rfl, rfl, Nat.le_refl _, rfl, rfl, rfl, rfl, Nat.le_refl _,
    fun _ hname => .inl hname, fun _ hk => hk, [], by simp⟩, rfl, rfl, rfl, fun _ => rfl⟩

theorem backstage_emit {e : Event} (he : e.isMute = true) : Backstage w (w.emit e) :=
  ⟨⟨rfl, rfl, rfl, Nat.le_refl _, rfl, rfl, rfl, rfl, Nat.le_refl _,
    fun _ hname => .inl hname, fun _ hk => hk, [e], rfl, by simpa using he⟩, rfl, rfl, rfl,
    fun _ => rfl⟩

theorem ServiceOk.crash {f : Fault} (h : ServiceOk handled w) (hf : ∀ k, f ≠ .deadQueueKey k) :
    ServiceOk handled (w.crash f) :=
  h.cosmetic (cosmetic_crash hf)

/-! ## Devices -/

theorem ServiceOk.frees {gone : List ServiceProxy} (h : ServiceOk handled w) (hf : Frees gone w w')
    (hdevices : DevicesOk w') : ServiceOk handled w' := by
  refine h.outside hf.toOffstage.outside hdevices ?_ fun act hact hlive => ?_
  · rw [hf.actions]
    exact List.filter_sublist
  · exact hf.mem_proxies.mpr ⟨hlive, (hf.mem_actions.mp hact).2⟩

theorem ServiceOk.gains {d : Nat} {c : DeviceCore} {x : ContextCore} (h : ServiceOk handled w)
    (hg : Gains d c x w w') (hdevices : DevicesOk w') : ServiceOk handled w' := by
  refine h.outside hg.toOffstage.outside hdevices (by rw [hg.actions]) fun act _ hlive => ?_
  rw [hg.proxies]
  exact List.mem_append_left _ hlive

theorem ServiceOk.withDevice {d : Nat} {f : Device → World} (h : ServiceOk handled w)
    (hf : ∀ dev, w.devices d = some dev → ServiceOk handled (f dev)) :
    ServiceOk handled (w.withDevice d f) := by
  unfold World.withDevice
  split
  · exact hf _ ‹_›
  · exact h.crash (by simp)

theorem rsuDeviceDelete_serviceOk (d : Nat) (h : ServiceOk handled w) :
    ServiceOk handled (rsuDeviceDelete d w) := by
  cases hd : w.core d with
  | none =>
      have hnone : w.devices d = none := by simpa [World.core] using hd
      have hcrash : rsuDeviceDelete d w = w.crash (.deadDevice d) := by
        simp only [rsuDeviceDelete, World.withDevice, hnone]
      rw [hcrash]
      exact h.crash (by simp)
  | some c => exact h.frees (frees_rsuDeviceDelete hd).1 (h.outer.devices.delete hd)

theorem DevicesOk.blank (h : DevicesOk w) (d : Nat) :
    DevicesOk (w.setDevice d (some { path := rsuServerPath ++ "/" ++ toString d })) := by
  have hcore : ∀ e c, (w.setDevice d (some
      { path := rsuServerPath ++ "/" ++ toString d })).core e = some c →
        w.core e = some c ∨ c = ⟨rsuServerPath ++ "/" ++ toString d, []⟩ ∧ e = d := by
    intro e c he
    rw [core_setDevice] at he
    split at he
    next hed => exact .inr ⟨(Option.some.inj he).symm, hed⟩
    · exact .inl he
  refine ⟨?_, ?_, ?_, ?_, ?_, ?_⟩
  · intro e c x p he hx hp
    rcases hcore e c he with he | ⟨rfl, -⟩
    · exact h.live e c x p he hx hp
    · simp at hx
  · intro e c x p he hx hp
    rcases hcore e c he with he | ⟨rfl, -⟩
    · exact h.own e c x p he hx hp
    · simp at hx
  · intro e c x he hx
    rcases hcore e c he with he | ⟨rfl, -⟩
    · exact h.bound e c x he hx
    · simp at hx
  · intro e e' c c' x x' he he' hx hx' hid
    rcases hcore e c he with he | ⟨rfl, -⟩
    · rcases hcore e' c' he' with he' | ⟨rfl, -⟩
      · exact h.distinct e e' c c' x x' he he' hx hx' hid
      · simp at hx'
    · simp at hx
  · intro e c he
    rcases hcore e c he with he | ⟨rfl, -⟩
    · exact h.nodup e c he
    · exact List.nodup_nil
  · intro e c he
    rcases hcore e c he with he | ⟨rfl, rfl⟩
    · exact h.path e c he
    · rfl

/-! ## Construction -/

def World.newKey (w : World) : TaskQueueKey :=
  ⟨w.processor.nextKey, "source-" ++ toString w.serviceCpt, rsuSink⟩

/-- What `prv_server_available_cb` keeps of the construction it starts. -/
def World.newCt (w : World) (udn : String) : DeviceNewCt := ⟨udn, w.upnp.counter, w.newKey⟩

/-- The queue of a construction and its device, which has no context yet. -/
def World.blankConstruction (w : World) (udn : String) : World :=
  let w' := ({ w with serviceCpt := w.serviceCpt + 1 } : World).addQueue
    w.newKey.source rsuSink autoRemove .service
  let w' := w'.modifyQueue w.newKey fun q => { q with finallyCb := true }
  let w' := w'.modifyQueue w.newKey fun q => { q with userData := some (w.newCt udn) }
  w'.setDevice w.upnp.counter
    (some { path := rsuServerPath ++ "/" ++ toString w.upnp.counter })

def World.openConstruction (w : World) (udn ipAddress : String) (offered : DeviceServices) :
    World :=
  prvDeviceAppendNewContext w.upnp.counter ipAddress offered (w.blankConstruction udn)

def constructionTask (d : Nat) (proxy : Option ServiceProxy) (action : ServiceTaskAction)
    (callback : Option ServiceTaskCallback) : Task :=
  .service { callback := callback, tAction := action, device := d, proxy := proxy }

/-- The three steps of a construction are queued, and its queue is started. -/
def World.queueConstruction (w : World) (k : TaskQueueKey) (d : Nat)
    (proxy : Option ServiceProxy) : World :=
  let w := w.pushTask k
    (constructionTask d proxy .prvGetProtocolInfo (some .prvGetProtocolInfoCb))
  let w := w.pushTask k (constructionTask d proxy .prvSubscribe none)
  let w := w.pushTask k (constructionTask d proxy .prvDeclare none)
  w.idleAddProcess k

section Construction

variable {k : TaskQueueKey} {q : TaskQueue}

theorem rsuServiceTaskAdd_eq (hq : w.queue? k = some q) (hstart : q.flags.autoStart = false)
    (action : ServiceTaskAction) (d : Nat) (proxy : Option ServiceProxy)
    (callback : Option ServiceTaskCallback) :
    rsuServiceTaskAdd k action d proxy callback w =
      w.pushTask k (constructionTask d proxy action callback) := by
  simp only [rsuServiceTaskAdd, rsuTaskQueueAddTask, hq, hstart, Bool.false_eq_true, false_and,
    if_false, ite_self]
  rfl

theorem rsuTaskQueueStart_eq (hq : w.queue? k = some q) (hdefer : q.deferRemove = false)
    (hcurrent : q.currentTask = none) (hidle : q.idleId = 0) :
    rsuTaskQueueStart k w = w.idleAddProcess k := by
  simp [rsuTaskQueueStart, hq, hdefer, hcurrent, hidle]

theorem queue?_pushTask_self (hq : w.queue? k = some q) (task : Task) :
    (w.pushTask k task).queue? k = some { q with tasks := q.tasks ++ [w.newAtom k] } := by
  rw [queue?_pushTask, if_pos rfl, hq]
  rfl

def constructionQueue (ct : DeviceNewCt) : TaskQueue where
  callbacks := .service
  finallyCb := true
  flags := autoRemove
  userData := some ct

theorem core_blankConstruction (w : World) (udn : String) :
    (w.blankConstruction udn).core w.upnp.counter =
      some ⟨rsuServerPath ++ "/" ++ toString w.upnp.counter, []⟩ := by
  rw [World.blankConstruction, core_setDevice, if_pos rfl]
  rfl

theorem gains_openConstruction (udn ipAddress : String) (offered : DeviceServices) :
    Gains w.upnp.counter ⟨rsuServerPath ++ "/" ++ toString w.upnp.counter, []⟩
      (w.newContext ipAddress offered) (w.blankConstruction udn)
      (w.openConstruction udn ipAddress offered) :=
  gains_prvDeviceAppendNewContext ipAddress offered (core_blankConstruction w udn)

theorem queue?_openConstruction (w : World) (udn ipAddress : String) (offered : DeviceServices)
    (k : TaskQueueKey) :
    (w.openConstruction udn ipAddress offered).queue? k =
      if k = w.newKey then some (constructionQueue (w.newCt udn)) else w.queue? k := by
  let w₁ := ({ w with serviceCpt := w.serviceCpt + 1 } : World).addQueue
    w.newKey.source rsuSink autoRemove .service
  have hadd : ∀ k, w₁.queue? k =
      if k = w.newKey then some { callbacks := .service, flags := autoRemove } else w.queue? k :=
    fun k => Assoc.lookup_insert_eq _ _ _ _
  let w₂ := w₁.modifyQueue w.newKey fun q => { q with finallyCb := true }
  let w₃ := w₂.modifyQueue w.newKey fun q => { q with userData := some (w.newCt udn) }
  have hdevice : (w.openConstruction udn ipAddress offered).queue? k = w₃.queue? k := by
    show (w.openConstruction udn ipAddress offered).processor.taskQueues.lookup k = _
    rw [(gains_openConstruction udn ipAddress offered).processor]
    rfl
  rw [hdevice, queue?_modifyQueue, queue?_modifyQueue, queue?_modifyQueue, hadd, hadd]
  by_cases hk : k = w.newKey
  · simp [hk, constructionQueue]
  · simp [hk]

def World.firstContext (w : World) (ipAddress : String) (offered : DeviceServices) :
    DeviceContext where
  id := w.gupnp.nextContext
  ipAddress := ipAddress
  serviceProxies := gupnpDeviceInfoGetServices w.gupnp.nextContext offered

theorem devices_openConstruction (w : World) (udn ipAddress : String) (offered : DeviceServices) :
    (w.openConstruction udn ipAddress offered).devices w.upnp.counter = some {
      path := rsuServerPath ++ "/" ++ toString w.upnp.counter
      contexts := [w.firstContext ipAddress offered] } := by
  have hset : ∀ (w' : World) (dev : Device), (w'.setDevice w.upnp.counter (some dev)).devices
      w.upnp.counter = some dev := fun _ _ => if_pos rfl
  have hblank : (w.blankConstruction udn).devices w.upnp.counter =
      some { path := rsuServerPath ++ "/" ++ toString w.upnp.counter } := hset _ _
  simp only [World.openConstruction, prvDeviceAppendNewContext, prvContextNew, World.withDevice,
    hblank, hset]
  rfl

theorem rsuDeviceGetContext_singleton (path : String) (context : DeviceContext) :
    rsuDeviceGetContext { path := path, contexts := [context] } = some context := by
  cases hlocal : context.isLocal <;> simp [rsuDeviceGetContext, hlocal]

/-- The steps of a construction are queued one after the other. -/
theorem queueConstruction_eq {ct : DeviceNewCt} (hq : w.queue? k = some (constructionQueue ct))
    (d : Nat) (proxy : Option ServiceProxy) :
    rsuTaskQueueStart k (rsuServiceTaskAdd k .prvDeclare d proxy none
      (rsuServiceTaskAdd k .prvSubscribe d proxy none
        (rsuServiceTaskAdd k .prvGetProtocolInfo d proxy (some .prvGetProtocolInfoCb) w))) =
      w.queueConstruction k d proxy := by
  have hq₁ := queue?_pushTask_self hq
    (constructionTask d proxy .prvGetProtocolInfo (some .prvGetProtocolInfoCb))
  have hq₂ := queue?_pushTask_self hq₁ (constructionTask d proxy .prvSubscribe none)
  have hq₃ := queue?_pushTask_self hq₂ (constructionTask d proxy .prvDeclare none)
  rw [rsuServiceTaskAdd_eq hq rfl, rsuServiceTaskAdd_eq hq₁ rfl, rsuServiceTaskAdd_eq hq₂ rfl,
    rsuTaskQueueStart_eq hq₃ rfl rfl rfl]
  rfl

theorem prvServerConstruct_eq (udn ipAddress : String) (offered : DeviceServices)
    (hnew : rsuTaskProcessorLookupQueue w w.newKey.source rsuSink = none) :
    prvServerConstruct udn ipAddress offered w =
      (({ (w.openConstruction udn ipAddress offered).queueConstruction w.newKey w.upnp.counter
          (gupnpDeviceInfoGetServices w.gupnp.nextContext offered).cmProxy with
        upnp := { w.upnp with counter := w.upnp.counter + 1 } } : World).setUcMap
          (w.upnp.serverUcMap.insert udn (w.newCt udn))) := by
  let w₀ : World := { w with serviceCpt := w.serviceCpt + 1 }
  have hnew₀ : rsuTaskProcessorLookupQueue w₀ w.newKey.source rsuSink = none := hnew
  have hadd : rsuTaskProcessorAddQueue taskDeleteCb w.newKey.source rsuSink autoRemove .service w₀ =
      (w.newKey, w₀.addQueue w.newKey.source rsuSink autoRemove .service) :=
    rsuTaskProcessorAddQueue_eq autoRemove .service hnew₀
  let w₁ := w₀.addQueue w.newKey.source rsuSink autoRemove .service
  have hq₁ : w₁.queue? w.newKey = some { callbacks := .service, flags := autoRemove } := by
    have hlookup : w₁.queue? w.newKey = if w.newKey = w.newKey then
        some { callbacks := .service, flags := autoRemove } else w₀.queue? w.newKey :=
      Assoc.lookup_insert_eq _ _ _ _
    rw [hlookup, if_pos rfl]
  have hfinally : rsuTaskQueueSetFinally w.newKey w₁ =
      w₁.modifyQueue w.newKey fun q => { q with finallyCb := true } := by
    simp only [rsuTaskQueueSetFinally, hq₁]
  let w₂ := w₁.modifyQueue w.newKey fun q => { q with finallyCb := true }
  have hq₂ : w₂.queue? w.newKey =
      some { callbacks := .service, flags := autoRemove, finallyCb := true } := by
    rw [queue?_modifyQueue, if_pos rfl, hq₁]
    rfl
  have hdata : rsuTaskQueueSetUserData w.newKey (w.newCt udn) w₂ =
      w₂.modifyQueue w.newKey fun q => { q with userData := some (w.newCt udn) } := by
    simp only [rsuTaskQueueSetUserData, hq₂]
  have hq₃ : (w.openConstruction udn ipAddress offered).queue? w.newKey =
      some (constructionQueue (w.newCt udn)) := by
    rw [queue?_openConstruction, if_pos rfl]
  have hnewDevice : rsuDeviceNew ipAddress offered w.upnp.counter w.newKey
      (w₂.modifyQueue w.newKey fun q => { q with userData := some (w.newCt udn) }) =
      (w.openConstruction udn ipAddress offered).queueConstruction w.newKey w.upnp.counter
        (gupnpDeviceInfoGetServices w.gupnp.nextContext offered).cmProxy := by
    rw [← queueConstruction_eq hq₃]
    change (w.openConstruction udn ipAddress offered).withContext w.upnp.counter _ = _
    simp only [World.withContext, World.withDevice, devices_openConstruction,
      rsuDeviceGetContext_singleton]
    rfl
  have hupnp : ((w.openConstruction udn ipAddress offered).queueConstruction w.newKey
      w.upnp.counter (gupnpDeviceInfoGetServices w.gupnp.nextContext offered).cmProxy).upnp =
        w.upnp := (gains_openConstruction udn ipAddress offered).upnp
  have hunfold : prvServerConstruct udn ipAddress offered w =
      (fun p : TaskQueueKey × World =>
        let ct : DeviceNewCt := ⟨udn, p.2.upnp.counter, p.1⟩
        let w := rsuTaskQueueSetUserData p.1 ct (rsuTaskQueueSetFinally p.1 p.2)
        let w := rsuDeviceNew ipAddress offered w.upnp.counter p.1 w
        let w := { w with upnp := { w.upnp with counter := w.upnp.counter + 1 } }
        w.setUcMap (w.upnp.serverUcMap.insert udn ct))
        (rsuTaskProcessorAddQueue taskDeleteCb w.newKey.source rsuSink autoRemove .service w₀) :=
    rfl
  rw [hunfold, hadd]
  change (fun w' : World =>
    (({ rsuDeviceNew ipAddress offered w'.upnp.counter w.newKey w' with
      upnp := { (rsuDeviceNew ipAddress offered w'.upnp.counter w.newKey w').upnp with
        counter := (rsuDeviceNew ipAddress offered w'.upnp.counter w.newKey w').upnp.counter +
          1 } } : World).setUcMap
      ((rsuDeviceNew ipAddress offered w'.upnp.counter w.newKey w').upnp.serverUcMap.insert udn
        (w.newCt udn))))
      (rsuTaskQueueSetUserData w.newKey (w.newCt udn) (rsuTaskQueueSetFinally w.newKey w₁)) = _
  rw [hfinally, hdata]
  have hcounter : (w₂.modifyQueue w.newKey fun q =>
      { q with userData := some (w.newCt udn) }).upnp.counter = w.upnp.counter := rfl
  dsimp only
  rw [hcounter, hnewDevice, hupnp]

end Construction

/-! ## Looking queues up -/

theorem lookupQueue_some {k : TaskQueueKey} {source sink : String}
    (h : rsuTaskProcessorLookupQueue w source sink = some k) :
    (∃ q, w.queue? k = some q) ∧ k.source = source ∧ k.sink = sink := by
  have hmem := List.mem_of_find?_eq_some h
  have hpred := List.find?_some h
  exact ⟨Assoc.mem_keys_iff.mp hmem, by simpa using hpred⟩

theorem lookupQueue_none {source sink : String}
    (h : ∀ k q, w.queue? k = some q → k.source = source → k.sink ≠ sink) :
    rsuTaskProcessorLookupQueue w source sink = none := by
  refine List.find?_eq_none.mpr fun k hk hpred => ?_
  obtain ⟨q, hq⟩ := Assoc.mem_keys_iff.mp hk
  obtain ⟨hsource, hsink⟩ : k.source = source ∧ k.sink = sink := by simpa using hpred
  exact h k q hq hsource hsink

theorem toString_injective {m n : Nat} (h : toString m = toString n) : m = n := by
  have hdigits : Nat.toDigits 10 m = Nat.toDigits 10 n := by
    simpa [Nat.toList_repr] using congrArg String.toList h
  rw [← Nat.ofDigitChars_ten_toDigits (n := m), hdigits, Nat.ofDigitChars_ten_toDigits]

theorem KeysOk.newKey (h : KeysOk w) :
    rsuTaskProcessorLookupQueue w w.newKey.source rsuSink = none := by
  refine lookupQueue_none fun k q hq hsource hsink => ?_
  have hfits := h.fits k q hq
  have hnew : ServiceSource (w.serviceCpt + 1) w.newKey.source :=
    ⟨w.serviceCpt, Nat.lt_succ_self _, rfl⟩
  cases hcs : q.callbacks with
  | client =>
      rw [hcs] at hfits
      exact (hsource ▸ hnew).not_bus hfits
  | service =>
      rw [hcs] at hfits
      obtain ⟨-, n, hn, heq⟩ := hfits
      have hsame : "source-" ++ toString n = "source-" ++ toString w.serviceCpt :=
        heq.symm.trans hsource
      have hn' : n = w.serviceCpt := toString_injective (by simpa using hsame)
      omega

/-! ## The events of discovery -/

theorem openConstruction_serviceOk (udn ipAddress : String) (offered : DeviceServices)
    (h : ServiceOk handled w) :
    ServiceOk handled (w.openConstruction udn ipAddress offered) := by
  let w₀ : World := { w with serviceCpt := w.serviceCpt + 1 }
  have h₀ : ServiceOk handled w₀ := h.backstage
    ⟨⟨rfl, rfl, rfl, Nat.le_refl _, rfl, rfl, rfl, rfl, Nat.le_succ _, fun _ hname => .inl hname,
      fun _ hk => hk, [], by simp [w₀]⟩, rfl, rfl, rfl, fun _ => rfl⟩
  let w₁ := w₀.addQueue w.newKey.source rsuSink autoRemove .service
  have h₁ : ServiceOk handled w₁ :=
    h₀.step (.addQueue autoRemove .service h.outer.keys.newKey) (by simp)
      ⟨rfl, w.serviceCpt, Nat.lt_succ_self _, rfl⟩
  have hq₁ : w₁.queue? w.newKey = some { callbacks := .service, flags := autoRemove } := by
    have hlookup : w₁.queue? w.newKey = if w.newKey = w.newKey then
        some { callbacks := .service, flags := autoRemove } else w₀.queue? w.newKey :=
      Assoc.lookup_insert_eq _ _ _ _
    rw [hlookup, if_pos rfl]
  let w₂ := w₁.modifyQueue w.newKey fun q => { q with finallyCb := true }
  have h₂ : ServiceOk handled w₂ :=
    h₁.step (.configure hq₁ ⟨rfl, rfl, rfl, rfl, rfl, rfl⟩) (by simp) trivial
  have hq₂ : w₂.queue? w.newKey =
      some { callbacks := .service, flags := autoRemove, finallyCb := true } := by
    rw [queue?_modifyQueue, if_pos rfl, hq₁]
    rfl
  let w₃ := w₂.modifyQueue w.newKey fun q => { q with userData := some (w.newCt udn) }
  have hok : ServiceOk handled w₃ :=
    h₂.step (.configure hq₂ ⟨rfl, rfl, rfl, rfl, rfl, rfl⟩) (by simp) trivial
  have hblank : ServiceOk handled (w.blankConstruction udn) :=
    hok.outside (offstage_setDevice _ _).outside (hok.outer.devices.blank _) (.refl _) fun _ _ => id
  have hgains := gains_openConstruction (w := w) udn ipAddress offered
  exact hblank.gains hgains
    (hblank.outer.devices.gains hgains (.inl (core_blankConstruction w udn)) rfl)

theorem queueConstruction_serviceOk {k : TaskQueueKey} {ct : DeviceNewCt} (d : Nat)
    (proxy : Option ServiceProxy) (h : ServiceOk handled w)
    (hq : w.queue? k = some (constructionQueue ct)) :
    ServiceOk handled (w.queueConstruction k d proxy) := by
  have hpush : ∀ {w : World} {q : TaskQueue} (action : ServiceTaskAction)
      (callback : Option ServiceTaskCallback), ServiceOk handled w → w.queue? k = some q →
      q.callbacks = .service →
      ServiceOk handled (w.pushTask k (constructionTask d proxy action callback)) := by
    intro w q action callback h hq hcs
    refine h.step (.addTask hq ?_) (by simp)
      ⟨rfl, fun n hn => absurd hn (by simp [owed, constructionTask])⟩
    rw [hcs]
    rfl
  have hq₁ := queue?_pushTask_self hq
    (constructionTask d proxy .prvGetProtocolInfo (some .prvGetProtocolInfoCb))
  have hq₂ := queue?_pushTask_self hq₁ (constructionTask d proxy .prvSubscribe none)
  have hq₃ := queue?_pushTask_self hq₂ (constructionTask d proxy .prvDeclare none)
  have h₁ := hpush .prvGetProtocolInfo (some .prvGetProtocolInfoCb) h hq rfl
  have h₃ := hpush .prvDeclare none (hpush .prvSubscribe none h₁ hq₁ rfl) hq₂ rfl
  exact h₃.step (.arm hq₃ rfl rfl (by simp)) (by simp) trivial

theorem prvServerConstruct_serviceOk (udn ipAddress : String) (offered : DeviceServices)
    (h : ServiceOk handled w) : ServiceOk handled (prvServerConstruct udn ipAddress offered w) := by
  rw [prvServerConstruct_eq udn ipAddress offered h.outer.keys.newKey]
  have hopen := openConstruction_serviceOk udn ipAddress offered h
  have hq : (w.openConstruction udn ipAddress offered).queue? w.newKey =
      some (constructionQueue (w.newCt udn)) := by
    rw [queue?_openConstruction, if_pos rfl]
  exact (queueConstruction_serviceOk w.upnp.counter
    (gupnpDeviceInfoGetServices w.gupnp.nextContext offered).cmProxy hopen hq).backstage
      (backstage_setUpnp _)

theorem prvServerAvailableCb_serviceOk (udn ipAddress : String) (offered : DeviceServices)
    (h : ServiceOk handled w) :
    ServiceOk handled (prvServerAvailableCb udn ipAddress offered w) := by
  cases arrival udn ipAddress offered w with
  | unknown _ heq =>
      rw [heq]
      exact prvServerConstruct_serviceOk udn ipAddress offered h
  | dangling _ _ heq =>
      rw [heq]
      exact h.crash (by simp)
  | present _ _ _ heq => rwa [heq]
  | @extended d _ dev _ hdev _ heq =>
      rw [heq]
      have hd : w.core d = some dev.core := core_of_device hdev
      have hgains := gains_rsuDeviceAppendNewContext (w := w) ipAddress offered hd
      exact h.gains hgains
        (h.outer.devices.gains hgains (.inl hd) (h.outer.devices.path d _ hd))

theorem prvLostMediaServer_serviceOk (path : String) (h : ServiceOk handled w) :
    ServiceOk handled (prvLostMediaServer path w) := by
  have hemit : ServiceOk handled (w.emit (.lostServer path)) := h.backstage (backstage_emit rfl)
  exact (rsuTaskProcessorRemoveQueuesForSink_run (D := serviceSteps (fun _ => True) handled)
    serviceSteps_cancels path hemit fun _ _ _ => trivial).inv hemit

/-- The last context of a device is lost after the queue of its construction
has gone, while `prv_device_chain_end` is still to run. -/
def LostTooLate (w : World) (udn ipAddress : String) : Prop :=
  ∃ d ct dev context, w.upnp.find udn = some (d, some ct) ∧ w.devices d = some dev ∧
    dev.contexts.find? (fun context => context.ipAddress = ipAddress) = some context ∧
    dev.contexts.eraseP (fun context => context.ipAddress = ipAddress) = [] ∧
    w.queue? ct.queueId = none

theorem ServiceOk.departing {udn ipAddress : String} {d : Nat} {uc : Option DeviceNewCt}
    {dev : Device} {context : DeviceContext} (h : ServiceOk handled w)
    (hdeparting : w.Departing udn ipAddress d uc dev context) :
    ServiceOk handled (w.removeContext d dev context ipAddress) :=
  h.frees (frees_departing w d dev context ipAddress)
    (h.outer.devices.removeContext hdeparting.device hdeparting.context)

theorem prvServerUnavailableCb_serviceOk (udn ipAddress : String) (h : ServiceOk handled w)
    (hlate : ¬LostTooLate w udn ipAddress) :
    ServiceOk handled (prvServerUnavailableCb udn ipAddress w) := by
  cases departure udn ipAddress w with
  | ignored _ heq => rwa [heq]
  | dangling _ _ heq =>
      rw [heq]
      exact h.crash (by simp)
  | @last d uc dev context hdeparting hlast heq =>
      rw [heq]
      have hremoved := h.departing hdeparting
      cases uc with
      | none =>
          have hlost := prvLostMediaServer_serviceOk dev.path hremoved
          exact rsuDeviceDelete_serviceOk d (hlost.backstage (backstage_setUpnp _))
      | some ct =>
          have hlive : w.queue? ct.queueId ≠ none := fun hnone => hlate
            ⟨d, ct, dev, context, hdeparting.find, hdeparting.device, hdeparting.context, hlast,
              hnone⟩
          obtain ⟨q, hq⟩ := Option.ne_none_iff_exists'.mp hlive
          refine (rsuTaskProcessorCancelQueue_run (D := serviceSteps (fun _ => True) handled)
            serviceSteps_cancels (q := q) hremoved trivial ?_).inv hremoved
          unfold World.queue?
          rw [(frees_departing w d dev context ipAddress).processor]
          exact hq
  | @later d _ _ _ hdeparting _ _ heq =>
      rw [heq]
      exact (h.departing hdeparting).cosmetic (cosmetic_subscribeLater d)
  | other hdeparting _ _ heq =>
      rw [heq]
      exact h.departing hdeparting

theorem serverUdnMapInsert_serviceOk (udn : String) (d : Nat) (h : ServiceOk handled w) :
    ServiceOk handled (serverUdnMapInsert udn d w) := by
  unfold serverUdnMapInsert
  split
  · exact rsuDeviceDelete_serviceOk _ (h.backstage (backstage_setUpnp _))
  · exact h.backstage (backstage_setUpnp _)

theorem prvDeviceChainEnd_serviceOk (cancelled : Bool) (ct : DeviceNewCt)
    (h : ServiceOk handled w) : ServiceOk handled (prvDeviceChainEnd cancelled ct w) := by
  have hemit : ServiceOk handled (w.emit (.chainEnd cancelled ct.udn)) :=
    h.backstage (backstage_emit rfl)
  unfold prvDeviceChainEnd
  dsimp only
  split
  · exact rsuDeviceDelete_serviceOk _ (hemit.backstage (backstage_setUpnp _))
  · refine hemit.withDevice fun dev _ => ?_
    have hinsert := serverUdnMapInsert_serviceOk ct.udn ct.device hemit
    exact (hinsert.backstage (backstage_emit (e := .foundServer dev.path) rfl)).backstage
      (backstage_setUpnp _)

theorem prvTaskQueueFinallyCb_serviceOk (q : TaskQueue) (h : ServiceOk handled w) :
    ServiceOk handled (prvTaskQueueFinallyCb q w) := by
  unfold prvTaskQueueFinallyCb
  split
  · exact prvDeviceChainEnd_serviceOk _ _ h
  · exact h.crash (by simp)

end RendererService
