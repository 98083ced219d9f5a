import RendererService.Service.Readers
import RendererService.Service.Cancellations

/-!
# No use of a deleted device

The timers, the notify callbacks and the discovery read devices that are there,
and a device goes away without holders.  So no run of the service reads a device
after `rsu_device_delete`.
-/

namespace RendererService

open Transition

variable {w w' : World} {a : TaskAtom} {d : Nat} {k : TaskQueueKey} {handled : Option Nat}

/-! ## Timers and callbacks -/

theorem offstage_setLoop {l : MainLoop} (hprocess : l.processIdles = w.loop.processIdles)
    (hfinally : l.finallyIdles = w.loop.finallyIdles)
    (hcomplete : l.completeIdles = w.loop.completeIdles)
    (hsource : l.nextSource = w.loop.nextSource) : Offstage w (w.setLoop l) :=
  ⟨rfl, rfl, rfl, rfl, rfl, rfl, rfl, hprocess, hfinally, hcomplete, Nat.le_of_eq hsource.symm, rfl,
    fun _ hk => hk⟩

theorem sound_setLoop (l : MainLoop) : Sound w (w.setLoop l) :=
  ⟨fun _ hd => hd, dangling_of_fault rfl⟩

theorem subscribeTimer_holdersOk {id : Nat} (hh : HoldersOk w)
    (hmem : (id, d) ∈ w.loop.subscribeTimers) :
    Sound w (exec w (.subscribeTimer id d)) ∧ HoldersOk (exec w (.subscribeTimer id d)) := by
  obtain ⟨-, htimeout⟩ := hh.attached.subscribe _ hmem
  obtain ⟨dev, hdev, -⟩ := Option.map_eq_some_iff.mp htimeout
  let w₁ := w.setLoop { w.loop with subscribeTimers := w.loop.subscribeTimers.erase (id, d) }
  have hoff : Offstage w w₁ := offstage_setLoop rfl rfl rfl rfl
  have hclients : ClientsOk w₁ := hh.clients.offstage hoff rfl
  have halive : w₁.Alive d := alive_of_device hdev
  exact ⟨(sound_setLoop _).trans (sound_prvSubscribeToServiceChanges halive),
    hh.attached.subscribeTimer hmem, hclients.cosmetic (cosmetic_prvSubscribeToServiceChanges d)⟩

theorem notify_eq (hh : HoldersOk w) (proxy : ServiceProxy) : exec w (.notify proxy) = w := by
  have hall : ∀ l : List ProxyHandler, (∀ n ∈ l, w.Attached n) →
      l.foldl (fun w n => prvChangeCb n w) w = w := by
    intro l hl
    induction l with
    | nil => rfl
    | cons n l ih =>
        obtain ⟨dev, -, hdev, -⟩ := (hl n List.mem_cons_self).context
        have hfirst : prvChangeCb n w = w := by
          simp only [prvChangeCb, World.withDevice, hdev]
        rw [List.foldl_cons, hfirst]
        exact ih fun n' hn' => hl n' (List.mem_cons_of_mem n hn')
  exact hall _ fun n hn => hh.attached.notifies n (List.mem_filter.mp hn).1

/-- The handlers of "subscription-lost" of a proxy run one after the other. -/
theorem AttachedOk.subscriptionLost (h : AttachedOk w) (hdevices : DevicesOk w)
    (proxy : ServiceProxy) :
    Sound w (exec w (.subscriptionLost proxy)) ∧ AttachedOk (exec w (.subscriptionLost proxy)) := by
  have hall : ∀ (l : List ProxyHandler) (w' : World), (∀ r ∈ l, w.Attached r) → Cosmetic w w' →
      Sound w w' → AttachedOk w' → Sound w (l.foldl (fun w r => prvSubscriptionLostCb r w) w') ∧
        AttachedOk (l.foldl (fun w r => prvSubscriptionLostCb r w) w') := by
    intro l
    induction l with
    | nil => exact fun w' _ _ hsound hattached => ⟨hsound, hattached⟩
    | cons r l ih =>
        intro w' hl hcosmetic hsound hattached
        have hr : w'.Attached r := (hl r List.mem_cons_self).congr hcosmetic.core
        exact ih _ (fun r' hr' => hl r' (List.mem_cons_of_mem r hr'))
          (hcosmetic.trans (cosmetic_prvSubscriptionLostCb r))
          (hsound.trans (sound_prvSubscriptionLostCb hr))
          (hattached.lost (hdevices.cosmetic hcosmetic) r)
  have hmem : ∀ r ∈ w.gupnp.lostHandlers.filter fun r => r.proxy = proxy, w.Attached r :=
    fun r hr => h.lostHandlers r (List.mem_filter.mp hr).1
  exact hall _ _ hmem (cosmetic_setSubscribed proxy false)
    (sound_setSubscribed proxy false) (h.setSubscribed proxy false)

theorem subscriptionLost_holdersOk (h : ServiceOk handled w) (hh : HoldersOk w)
    (proxy : ServiceProxy) :
    Sound w (exec w (.subscriptionLost proxy)) ∧ HoldersOk (exec w (.subscriptionLost proxy)) := by
  obtain ⟨hsound, hattached⟩ := hh.attached.subscriptionLost h.outer.devices proxy
  exact ⟨hsound, hattached, hh.clients.cosmetic (cosmetic_subscriptionLost proxy w)⟩

theorem retryTimer_holdersOk {r : ProxyHandler} (hh : HoldersOk w)
    (hmem : r ∈ w.loop.retryTimers) :
    Sound w (exec w (.retryTimer r)) ∧ HoldersOk (exec w (.retryTimer r)) := by
  obtain ⟨-, dev, context, hdev, hcontext, hid, -⟩ := hh.attached.retry r hmem
  let w₁ := w.setLoop { w.loop with retryTimers := w.loop.retryTimers.erase r }
  have hoff : Offstage w w₁ := offstage_setLoop rfl rfl rfl rfl
  have hclients : ClientsOk w₁ := hh.clients.offstage hoff rfl
  have hdev₁ : w₁.devices r.device = some dev := hdev
  exact ⟨(sound_setLoop _).trans (sound_prvReEnableSubscription hdev₁ hcontext hid),
    hh.attached.reEnable hmem, hclients.cosmetic (cosmetic_prvReEnableSubscription r)⟩

theorem AttachedOk.unsubscribe_all (h : AttachedOk w) (d : Nat) (contexts : List DeviceContext) :
    AttachedOk (contexts.foldl (fun w context => prvRsuContextUnsubscribe d context w) w) := by
  induction contexts generalizing w with
  | nil => exact h
  | cons context contexts ih => exact ih (h.unsubscribe d context)

/-- The devices that are known are unsubscribed before the process ends. -/
theorem quitIdle_holdersOk (hr : RegistryOk w) (hh : HoldersOk w) :
    Sound w (exec w .quitIdle) ∧ HoldersOk (exec w .quitIdle) := by
  let w₁ := w.setLoop { w.loop with quitIdles := w.loop.quitIdles - 1 }
  let w₂ : World := { w₁ with context := { w₁.context with ownerId := false } }
  have hidle : Still w w₁ := still_setLoop w rfl rfl fun _ ha => ha
  have hstart : Still w w₂ := hidle.trans (still_setContext w₁ _)
  have hunsubscribe : ∀ (l : List (Sigma fun _ : String => Nat)) (w' : World),
      (∀ e ∈ l, w₂.Alive e.2) → Sound w₂ w' → HoldersOk w' →
        Sound w₂ (l.foldl (fun w e => rsuDeviceUnsubscribe e.2 w) w') ∧
          HoldersOk (l.foldl (fun w e => rsuDeviceUnsubscribe e.2 w) w') := by
    intro l
    induction l with
    | nil => exact fun w' _ hsound hholders => ⟨hsound, hholders⟩
    | cons e l ih =>
        intro w' hl hsound hholders
        have halive : w'.Alive e.2 := hsound.alive _ (hl e List.mem_cons_self)
        obtain ⟨dev, hdev⟩ := Alive.device halive
        have hattached : AttachedOk (rsuDeviceUnsubscribe e.2 w') := by
          simp only [rsuDeviceUnsubscribe, World.withDevice, hdev]
          exact hholders.attached.unsubscribe_all e.2 dev.contexts
        exact ih _ (fun e' he' => hl e' (List.mem_cons_of_mem e he'))
          (hsound.trans (sound_rsuDeviceUnsubscribe halive))
          ⟨hattached, hholders.clients.cosmetic (cosmetic_rsuDeviceUnsubscribe e.2)⟩
  have hknown : ∀ e ∈ w₂.upnp.serverUdnMap.entries, w₂.Alive e.2 := fun e he =>
    hr.maps.udn e.1 e.2 (Assoc.lookup_of_mem_entries he)
  obtain ⟨hsound, hholders⟩ := hunsubscribe _ w₂ hknown .refl (hh.apart hstart.toApart)
  have htimer : Still (rsuUpnpUnsubscribe w₂) (exec w .quitIdle) :=
    still_setLoop _ rfl rfl fun _ ha => ha
  exact ⟨hstart.sound.trans (hsound.trans htimer.sound), hholders.apart htimer.toApart⟩

theorem rehash_holdersOk {queues : Assoc.Table TaskQueueKey TaskQueue}
    {devices : Assoc.Table String Nat} (hh : HoldersOk w)
    (hqueues : queues.entries.Perm w.processor.taskQueues.entries)
    (hdevices : devices.entries.Perm w.upnp.serverUdnMap.entries) :
    Sound w (exec w (.rehash queues devices)) ∧ HoldersOk (exec w (.rehash queues devices)) := by
  have hlookup : ∀ u, devices.lookup u = w.upnp.serverUdnMap.lookup u :=
    fun u => AList.perm_lookup hdevices
  have hqueue : ∀ k, (exec w (.rehash queues devices)).queue? k = w.queue? k :=
    fun k => AList.perm_lookup hqueues
  refine ⟨⟨fun _ hd => hd, dangling_of_fault rfl⟩, hh.attached.congr rfl rfl rfl rfl rfl, ?_⟩
  refine hh.clients.goOn (.of_same rfl (fun _ ha => ha) hqueue) fun a t t' d _ _ _ _ hserves => ?_
  obtain ⟨⟨udn, hudn⟩, hp⟩ := hserves
  exact .inr ⟨⟨udn, (hlookup udn).trans hudn⟩, hp⟩

/-! ## Constructions -/

theorem still_pushService (k : TaskQueueKey) (t : ServiceTask) (w : World) :
    Still w (rsuTaskQueueAddTask k (.service t) w) :=
  still_rsuTaskQueueAddTask k _ w (by simp)

def World.openedQueue (w : World) (udn : String) : World :=
  let w' := ({ w with serviceCpt := w.serviceCpt + 1 } : World).addQueue
    w.newKey.source rsuSink autoRemove .service
  let w' := w'.modifyQueue w.newKey fun q => { q with finallyCb := true }
  w'.modifyQueue w.newKey fun q => { q with userData := some (w.newCt udn) }

theorem still_openedQueue (w : World) (udn : String) : Still w (w.openedQueue udn) := by
  let w₀ : World := { w with serviceCpt := w.serviceCpt + 1 }
  let w₁ := w₀.addQueue w.newKey.source rsuSink autoRemove .service
  let w₂ := w₁.modifyQueue w.newKey fun q => { q with finallyCb := true }
  have hcpt : Still w w₀ :=
    ⟨⟨⟨rfl, rfl, rfl, rfl, rfl, rfl, rfl, rfl, rfl, id⟩,
      .of_same rfl (fun _ ha => ha) fun _ => rfl⟩, rfl⟩
  have hinsert : Still w₀ w₁ := (still_insertQueue w₀ w.newKey
    (q := { callbacks := .service, flags := autoRemove }) rfl).trans (still_setProcessor _ rfl)
  have hfinally : Still w₁ w₂ :=
    still_modifyQueue w₁ _ fun q _ hdefer => ⟨hdefer, id, fun _ ha => ha⟩
  exact hcpt.trans (hinsert.trans (hfinally.trans
    (still_modifyQueue w₂ _ fun q _ hdefer => ⟨hdefer, id, fun _ ha => ha⟩)))

theorem still_queueConstruction (udn ipAddress : String) (offered : DeviceServices)
    (proxy : Option ServiceProxy) : Still (w.openConstruction udn ipAddress offered)
      ((w.openConstruction udn ipAddress offered).queueConstruction w.newKey w.upnp.counter
        proxy) := by
  have hq : (w.openConstruction udn ipAddress offered).queue? w.newKey =
      some (constructionQueue (w.newCt udn)) := by
    rw [queue?_openConstruction, if_pos rfl]
  rw [← queueConstruction_eq hq]
  exact (still_pushService _ _ _).trans ((still_pushService _ _ _).trans
    ((still_pushService _ _ _).trans (still_rsuTaskQueueStart _ _)))

theorem prvServerConstruct_holdersOk {udn : String} (ipAddress : String)
    (offered : DeviceServices) (h : ServiceOk handled w) (hr : RegistryOk w) (hh : HoldersOk w) :
    Sound w (prvServerConstruct udn ipAddress offered w) ∧
      HoldersOk (prvServerConstruct udn ipAddress offered w) := by
  let d := w.upnp.counter
  let w₃ := w.openedQueue udn
  have hopened : Still w w₃ := still_openedQueue w udn
  have hnone : w₃.devices d = none := by
    by_contra hne
    obtain ⟨dev, hdev⟩ := Option.ne_none_iff_exists'.mp hne
    exact Nat.lt_irrefl _ (hr.maps.bound d (alive_of_device (w := w) hdev))
  have hattached₃ : AttachedOk w₃ := hh.attached.stay hopened.toDevicesStay
  let w₄ := w₃.setDevice d (some { path := rsuServerPath ++ "/" ++ toString d })
  let w₅ := prvDeviceAppendNewContext d ipAddress offered w₄
  have hblank : Sound w₃ w₄ := by
    refine ⟨fun e he => ?_, dangling_of_fault rfl⟩
    by_cases hed : e = d
    · simp [World.Alive, World.path, w₄, World.setDevice, hed]
    · have hother : w₄.devices e = w₃.devices e := if_neg hed
      rwa [World.Alive, World.path, hother]
  have hdev₄ : w₄.devices d = some { path := rsuServerPath ++ "/" ++ toString d } := if_pos rfl
  have hcontext : Sound w₄ w₅ := sound_prvDeviceAppendNewContext (alive_of_device hdev₄) _ _
  have hattached₅ : AttachedOk w₅ :=
    (hattached₃.blank hnone _).appendContext hdev₄ ipAddress offered
  have hgains := gains_openConstruction (w := w) udn ipAddress offered
  have hgained : ClientsGoOn w₃ w₅ :=
    (ClientsGoOn.of_offstage (offstage_setDevice d _)).trans (.of_offstage hgains.toOffstage)
  let proxy := (gupnpDeviceInfoGetServices w.gupnp.nextContext offered).cmProxy
  have hqueued : Still w₅ (w₅.queueConstruction w.newKey d proxy) :=
    still_queueConstruction udn ipAddress offered proxy
  rw [prvServerConstruct_eq udn ipAddress offered h.outer.keys.newKey]
  have hsound := hopened.sound.trans (hblank.trans (hcontext.trans hqueued.sound))
  have hgoOn := hopened.toClientsGoOn.trans (hgained.trans hqueued.toClientsGoOn)
  refine ⟨⟨hsound.alive, hsound.dangling⟩, (hattached₅.stay hqueued.toDevicesStay).congr rfl rfl
    rfl rfl rfl, hh.clients.goOn ⟨hgoOn.records, hgoOn.queues⟩ fun a t t' e _ _ _ _ hserves => ?_⟩
  obtain ⟨⟨u, hu⟩, hp⟩ := hserves
  refine .inr ⟨⟨u, hu⟩, ?_⟩
  have hne : e ≠ w.upnp.counter := Nat.ne_of_lt (hr.maps.bound e (hr.maps.udn u e hu))
  show (w.openConstruction udn ipAddress offered).path e = some t.path
  rw [path_openConstruction, if_neg hne, hp]

theorem prvServerAvailableCb_holdersOk (udn ipAddress : String) (offered : DeviceServices)
    (h : ServiceOk handled w) (hr : RegistryOk w) (hh : HoldersOk w) :
    Sound w (prvServerAvailableCb udn ipAddress offered w) ∧
      HoldersOk (prvServerAvailableCb udn ipAddress offered w) := by
  cases arrival udn ipAddress offered w with
  | unknown hfind heq =>
      rw [heq]
      exact prvServerConstruct_holdersOk ipAddress offered h hr hh
  | dangling hfind hdev _ =>
      obtain ⟨dev, hdev'⟩ := hr.maps.find_device hfind
      exact absurd (hdev.symm.trans hdev') (by simp)
  | present _ _ _ heq =>
      rw [heq]
      exact ⟨.refl, hh⟩
  | @extended d _ dev _ hdev _ heq =>
      rw [heq]
      have halive : w.Alive d := by simp [World.Alive, World.path, hdev]
      have hgains := gains_rsuDeviceAppendNewContext ipAddress offered (core_of_device hdev)
      have hcontext := sound_prvDeviceAppendNewContext halive ipAddress offered
      exact ⟨hcontext.trans (sound_prvDeviceSubscribeContext (hcontext.alive d halive)),
        (hh.attached.appendContext hdev ipAddress offered).subscribe_context d,
        hh.clients.offstage hgains.toOffstage (unseen_appendContext hdev ipAddress offered).path⟩

/-! ## Lost devices -/

theorem queue?_removeQueue_self (k : TaskQueueKey) (w : World) :
    (removeQueue taskDeleteCb k w).queue? k = none := by
  unfold removeQueue
  split
  next q _ =>
    have hfold : ∀ (l : List TaskAtom) (w : World),
        (l.foldl (fun w a => prvTaskFreeCb taskDeleteCb q a w) w).processor = w.processor := by
      intro l
      induction l with
      | nil => exact fun _ => rfl
      | cons a l ih =>
          intro w
          rw [List.foldl_cons, ih]
          exact processor_taskDeleteCb _ _ _
    have hsame : (prvTaskQueueFreeCb taskDeleteCb q (w.eraseQueue k)).processor =
        (w.eraseQueue k).processor := by
      unfold prvTaskQueueFreeCb
      dsimp only
      split
      · exact hfold _ _
      · exact hfold _ _
    rw [World.queue?, hsame]
    exact (queue?_eraseQueue w k k).trans (if_pos rfl)
  next hnone => exact hnone

/-- A queue of requests for a lost device stays only to end its current task. -/
theorem prvFreeQueueFor_marks (hok : ProcessorOk w) {hit : TaskQueueKey → Bool} {q q' : TaskQueue}
    (hhit : hit k = true) (hq : w.queue? k = some q) (hcs : q.callbacks = .client)
    (hq' : (prvFreeQueueFor taskDeleteCb taskCancelCb hit k w).queue? k = some q') :
    q'.deferRemove = true := by
  by_cases hdefer : q.deferRemove = true
  · have hskip : prvFreeQueueFor taskDeleteCb taskCancelCb hit k w = w := freeVisit_idle
      fun q₀ hq₀ hboth => by
        obtain rfl := Option.some.inj (hq.symm.trans hq₀)
        simp [hdefer] at hboth
    rw [hskip] at hq'
    rwa [← Option.some.inj (hq.symm.trans hq')]
  · rw [prvFreeQueueFor_eq hok hq hhit (by simpa using hdefer)] at hq'
    split at hq'
    next hsome =>
      obtain ⟨a, ha⟩ := Option.isSome_iff_exists.mp hsome
      have hmarked : ((w.clearQueue k q).deferQueue k true).queue? k =
          some { q.emptied with deferRemove := true } := by
        rw [World.deferQueue, queue?_modifyQueue, if_pos rfl, queue?_clearQueue_self hq]
        rfl
      have hcancel : afterClear k { q.emptied with deferRemove := true }
          ((w.clearQueue k q).deferQueue k true) =
            rsuTaskCancel a (((w.clearQueue k q).deferQueue k true).emit (.cancelled a)) := by
        have hcurrent : q.emptied.currentTask = some a := ha
        simp only [afterClear, hcurrent]
        show taskCancelCb q.callbacks a _ = _
        rw [hcs]
        rfl
      rw [hcancel] at hq'
      have htouch : Touches a (((w.clearQueue k q).deferQueue k true).emit (.cancelled a)) _ :=
        touches_rsuTaskCancel
      obtain rfl := Option.some.inj (hmarked.symm.trans ((htouch.queue? k).symm.trans hq'))
      rfl
    · rw [queue?_removeQueue_self] at hq'
      simp at hq'

/-- After a device or a client was lost, the queues of its requests are marked. -/
theorem freeQueues_marks (hok : ProcessorOk w) (hit : TaskQueueKey → Bool)
    (hclient : ∀ k q, w.queue? k = some q → hit k = true → q.callbacks = .client) {q' : TaskQueue}
    (hhit : hit k = true)
    (hq' : (w.processor.taskQueues.keys.foldl
      (fun w k => prvFreeQueueFor taskDeleteCb taskCancelCb hit k w) w).queue? k = some q') :
    q'.deferRemove = true := by
  let visit : World → TaskQueueKey → World :=
    fun w k => prvFreeQueueFor taskDeleteCb taskCancelCb hit k w
  have hnodup : w.processor.taskQueues.keys.Nodup := w.processor.taskQueues.nodupKeys
  have hrun : (localSteps (· ∈ w.processor.taskQueues.keys)).Run w
      (w.processor.taskQueues.keys.foldl visit w) :=
    visits_run (fun w k hk hok => freeVisit_run _ w k hk hok) hok
  by_cases hmem : k ∈ w.processor.taskQueues.keys
  · obtain ⟨q, hq⟩ := Assoc.mem_keys_iff.mp hmem
    obtain ⟨w₁, -, -, hok₁, hbefore, -, hafter, -⟩ :=
      visits_split visit (fun w k => freeVisit_run _ w k) hnodup hmem hok
    exact prvFreeQueueFor_marks hok₁ hhit (hbefore.queue.trans hq) (hclient k q hq hhit)
      (hafter.queue.symm.trans hq')
  · have hsame := (localSteps_untouched hrun hok hmem).queue
    exact absurd (Assoc.mem_keys_iff.mpr ⟨q', hsame.symm.trans hq'⟩) hmem

theorem prvLostMediaServer_givenUp {p : String} (h : ServiceOk handled w) (hh : HoldersOk w)
    (hp : w.path d = some p) {t : ClientTask}
    (ht : (prvLostMediaServer p w).tasks a = some (.client t)) (hpath : t.path = p)
    (hbegun : t.cancellable ≠ none) : t.GivenUp := by
  have hemit : ServiceOk handled (w.emit (.lostServer p)) := h.backstage (backstage_emit rfl)
  have hstill : Still w (prvLostMediaServer p w) :=
    (still_emit w _).trans (still_rsuTaskProcessorRemoveQueuesForSink p hemit.processor)
  have hok : ServiceOk handled (prvLostMediaServer p w) :=
    (rsuTaskProcessorRemoveQueuesForSink_run (D := serviceSteps (fun _ => True) handled)
      serviceSteps_cancels p hemit fun _ _ _ => trivial).inv hemit
  have hholders := hh.apart hstill.toApart
  obtain ⟨hasync, -⟩ := hholders.clients.begun a t ht hbegun
  have hsink : a.queueId.sink = p := by
    obtain ⟨hsync, hsuits⟩ := hok.outer.requests a t ht
    have htype : t.type.isAsync = true := by simpa [hasync] using hsync
    rw [← hsuits htype, hpath]
  obtain ⟨q, hq, hmem | hcurrent⟩ := hok.outer.held a _ ht
  · have hfresh := (hok.processor.queues _ q hq).fresh a hmem
    rw [ht] at hfresh
    exact absurd (FreshRecord.client ⟨_, hfresh⟩) hbegun
  · have hclient : ∀ k q, (w.emit (.lostServer p)).queue? k = some q →
        decide (k.sink = p) = true → q.callbacks = .client := by
      intro k q hq hhit
      have hk : k.sink = p := by simpa using hhit
      have hfits := h.outer.keys.fits k q hq
      cases hcs : q.callbacks with
      | client => rfl
      | service =>
          rw [hcs] at hfits
          rw [h.outer.devices.path_eq hp] at hk
          exact absurd (hk.symm.trans hfits.1) (serverPath_ne_rsuSink d)
    have hmarked := freeQueues_marks hemit.processor _ hclient (by simpa using hsink) hq
    exact (hholders.clients.deferred _ q hq hmarked).2 a t hcurrent ht hbegun hasync

theorem HoldersOk.delete (hh : HoldersOk w) (hd : w.Alive d)
    (hunknown : ∀ udn, w.upnp.serverUdnMap.lookup udn ≠ some d) :
    ((rsuDeviceDelete d w).Dangling → w.Dangling) ∧ HoldersOk (rsuDeviceDelete d w) := by
  obtain ⟨dev, hdev⟩ := Alive.device hd
  have hoff := offstage_rsuDeviceDelete d w
  refine ⟨dangling_of_fault (fault_rsuDeviceDelete (by simp [hdev])), hh.attached.delete hdev,
    hh.clients.goOn (.of_offstage hoff) fun a t t' e _ _ _ _ hserves => ?_⟩
  obtain ⟨⟨udn, hudn⟩, hp⟩ := hserves
  have hne : e ≠ d := fun heq => hunknown udn (heq ▸ hudn)
  refine .inr ⟨⟨udn, by rw [hoff.upnp, hudn]⟩, ?_⟩
  rw [path_rsuDeviceDelete hd, if_neg hne, hp]

theorem prvServerLost_holdersOk (udn p : String) (uc : Option DeviceNewCt)
    (h : ServiceOk handled w) (hr : RegistryOk w) (hh : HoldersOk w)
    (hfind : w.upnp.find udn = some (d, uc)) (hp : w.path d = some p) :
    ((prvServerLost udn d p uc w).Dangling → w.Dangling) ∧
      HoldersOk (prvServerLost udn d p uc w) := by
  cases uc with
  | some ct =>
      have hstill := still_rsuTaskProcessorCancelQueue ct.queueId w
      exact ⟨hstill.dangling, hh.apart hstill.toApart⟩
  | none =>
      have hudn : w.upnp.serverUdnMap.lookup udn = some d := by
        rcases find_some hfind with ⟨hd, -⟩ | ⟨ct, -, -, hct⟩
        · exact hd
        · simp at hct
      let w₁ := prvLostMediaServer p w
      let w₂ := w₁.setUdnMap (w₁.upnp.serverUdnMap.erase udn)
      have hemit : ServiceOk handled (w.emit (.lostServer p)) := h.backstage (backstage_emit rfl)
      have hstill : Still w w₁ :=
        (still_emit w _).trans (still_rsuTaskProcessorRemoveQueuesForSink p hemit.processor)
      have hmap : w₁.upnp.serverUdnMap = w.upnp.serverUdnMap := by
        have hfield := congrArg Upnp.serverUdnMap hstill.upnp
        exact hfield
      have hpath : w₁.path = w.path := hstill.toDevicesStay.path
      have hlookup : ∀ u, w₂.upnp.serverUdnMap.lookup u =
          if u = udn then none else w.upnp.serverUdnMap.lookup u := by
        intro u
        show (w₁.upnp.serverUdnMap.erase udn).lookup u = _
        rw [hmap, Assoc.lookup_erase_eq]
      have hh₁ := hh.apart hstill.toApart
      have hclients₂ : ClientsOk w₂ := by
        refine hh₁.clients.goOn (.of_same rfl (fun _ ha => ha) fun _ => rfl)
          fun a t t' e ht ht' _ hdevice hserves => ?_
        obtain ⟨⟨u, hu⟩, hpe⟩ := hserves
        rw [hmap] at hu
        by_cases he : u = udn
        · subst he
          obtain rfl := Option.some.inj (hudn.symm.trans hu)
          obtain rfl : t = t' := by simpa using ht.symm.trans ht'
          rw [hpath, hp] at hpe
          refine .inl (prvLostMediaServer_givenUp h hh hp ht (Option.some.inj hpe).symm ?_)
          intro hnone
          rw [(hh₁.clients.unbegun a t ht hnone).2.1] at hdevice
          simp at hdevice
        · exact .inr ⟨⟨u, by rw [hlookup, if_neg he, hu]⟩, hpe⟩
      have hh₂ : HoldersOk w₂ := ⟨hh₁.attached.congr rfl rfl rfl rfl rfl, hclients₂⟩
      have halive : w₂.Alive d := by
        show (w₁.path d).isSome = true
        rw [hpath, hp]
        rfl
      obtain ⟨hdangling, hholders⟩ := hh₂.delete halive fun u hu => by
        rw [hlookup] at hu
        split at hu
        · simp at hu
        next hne => exact hne (hr.maps.udnSingle _ _ _ hu hudn)
      exact ⟨fun hd => hstill.dangling (hdangling hd), hholders⟩

theorem departing_holdersOk {udn ipAddress : String} {d : Nat} {uc : Option DeviceNewCt}
    {dev : Device} {context : DeviceContext} (h : ServiceOk handled w) (hh : HoldersOk w)
    (hdeparting : w.Departing udn ipAddress d uc dev context) :
    ((w.removeContext d dev context ipAddress).Dangling → w.Dangling) ∧
      HoldersOk (w.removeContext d dev context ipAddress) := by
  have hdev : (w.setDevice d (some { dev with contexts := dev.contexts.eraseP fun context =>
      context.ipAddress = ipAddress })).devices d = some { dev with
        contexts := dev.contexts.eraseP fun context => context.ipAddress = ipAddress } := if_pos rfl
  refine ⟨dangling_of_fault (fault_prvRsuContextDelete hdev context),
    hh.attached.removeContext h.outer.devices hdeparting.device hdeparting.context, ?_⟩
  exact hh.clients.offstage (frees_departing w d dev context ipAddress).toOffstage
    (unseen_departing hdeparting).path

theorem prvServerUnavailableCb_holdersOk (udn ipAddress : String) (h : ServiceOk handled w)
    (hr : RegistryOk w) (hh : HoldersOk w) :
    ((prvServerUnavailableCb udn ipAddress w).Dangling → w.Dangling) ∧
      HoldersOk (prvServerUnavailableCb udn ipAddress w) := by
  cases departure udn ipAddress w with
  | ignored _ heq =>
      rw [heq]
      exact ⟨id, hh⟩
  | dangling hfind hdev _ =>
      obtain ⟨dev, hdev'⟩ := hr.maps.find_device hfind
      exact absurd (hdev.symm.trans hdev') (by simp)
  | @last d uc dev context hdeparting _ heq =>
      rw [heq]
      have hunseen := unseen_departing hdeparting
      obtain ⟨hdangling, hh₁⟩ := departing_holdersOk h hh hdeparting
      have hlost := prvServerLost_holdersOk udn dev.path uc (h.departing hdeparting)
        (hr.unseen hunseen) hh₁
        (by rw [(frees_departing w d dev context ipAddress).upnp, hdeparting.find])
        (by rw [hunseen.path, World.path, hdeparting.device]; rfl)
      exact ⟨fun hd => hdangling (hlost.1 hd), hlost.2⟩
  | @later d _ dev context hdeparting _ htimer heq =>
      rw [heq]
      obtain ⟨hdangling, hh₁⟩ := departing_holdersOk h hh hdeparting
      obtain ⟨dev₁, hdev₁, hid⟩ :=
        Option.map_eq_some_iff.mp (timeoutId_removeContext w d dev context ipAddress)
      have halive₁ : (w.removeContext d dev context ipAddress).Alive d := by
        simp [World.Alive, World.path, hdev₁]
      exact ⟨fun hd => hdangling ((sound_subscribeLater halive₁).dangling hd),
        hh₁.attached.subscribeLater hdev₁ (hid.trans htimer.2)
          (h.departing hdeparting).processor.source,
        hh₁.clients.cosmetic (cosmetic_subscribeLater d)⟩
  | other hdeparting _ _ heq =>
      rw [heq]
      exact departing_holdersOk h hh hdeparting

/-- The end of a construction declares its device, or deletes it. -/
theorem finallyIdle_holdersOk {q : TaskQueue} (hr : RegistryOk w) (hh : HoldersOk w)
    (hmem : q ∈ w.loop.finallyIdles) :
    ((exec w (.finallyIdle q)).Dangling → w.Dangling) ∧ HoldersOk (exec w (.finallyIdle q)) := by
  obtain ⟨ct, hdata, hct, -, -⟩ := hr.constructions.idles q hmem
  have halive : w.Alive ct.device := (hr.maps.uc _ _ hct).2
  let w₀ := w.setLoop { w.loop with finallyIdles := w.loop.finallyIdles.erase q }
  let w₁ := w₀.emit (.chainEnd q.cancelled ct.udn)
  have hexec : exec w (.finallyIdle q) =
      if q.cancelled then rsuDeviceDelete ct.device (w₁.setUcMap (w₁.upnp.serverUcMap.erase ct.udn))
      else w₁.withDevice ct.device fun dev =>
        let w := prvFoundMediaServer dev.path (serverUdnMapInsert ct.udn ct.device w₁)
        w.setUcMap (w.upnp.serverUcMap.erase ct.udn) := by
    show prvTaskQueueFinallyCb q _ = _
    simp only [prvTaskQueueFinallyCb, hdata]
    rfl
  have hidle : Still w w₀ := still_setLoop w rfl rfl fun _ ha => ha
  have hstill : Still w w₁ := hidle.trans (still_emit w₀ _)
  have hh₁ := hh.apart hstill.toApart
  rw [hexec]
  split
  · let w₂ := w₁.setUcMap (w₁.upnp.serverUcMap.erase ct.udn)
    have hh₂ : HoldersOk w₂ := by
      refine ⟨hh₁.attached.congr rfl rfl rfl rfl rfl, hh₁.clients.goOn
        (.of_same rfl (fun _ ha => ha) fun _ => rfl) fun a t t' e _ _ _ _ hserves => ?_⟩
      exact .inr hserves
    have halive₂ : w₂.Alive ct.device := halive
    exact hh₂.delete halive₂ fun udn hudn => (hr.maps.apart _ _ _ _ hudn hct).2 rfl
  · obtain ⟨dev, hdev⟩ := Alive.device halive
    have hdev₁ : w₁.devices ct.device = some dev := hdev
    have hlookup : w₁.upnp.serverUdnMap.lookup ct.udn = none := by
      by_contra hne
      obtain ⟨d, hd⟩ := Option.ne_none_iff_exists'.mp hne
      exact (hr.maps.apart _ _ _ _ hd hct).1 rfl
    have hinsert : serverUdnMapInsert ct.udn ct.device w₁ =
        w₁.setUdnMap (w₁.upnp.serverUdnMap.insert ct.udn ct.device) := by
      simp only [serverUdnMapInsert, hlookup]
    simp only [World.withDevice, hdev₁, hinsert]
    refine ⟨hstill.dangling, hh₁.attached.congr rfl rfl rfl rfl rfl, hh₁.clients.goOn
      (.of_same rfl (fun _ ha => ha) fun _ => rfl) fun a t t' e _ _ _ _ hserves => .inr ?_⟩
    obtain ⟨⟨udn, hudn⟩, hp⟩ := hserves
    refine ⟨⟨udn, ?_⟩, hp⟩
    show (w₁.upnp.serverUdnMap.insert ct.udn ct.device).lookup udn = some e
    have hne : udn ≠ ct.udn := by
      rintro rfl
      rw [hlookup] at hudn
      simp at hudn
    rw [Assoc.lookup_insert_eq, if_neg hne, hudn]

/-! ## Every input -/

theorem fault_deleteAll (l : List (Sigma fun _ : String => Nat)) (w : World)
    (halive : ∀ e ∈ l, w.Alive e.2) (hnodup : (l.map Sigma.snd).Nodup) :
    (l.foldl (fun w e => rsuDeviceDelete e.2 w) w).fault = w.fault := by
  induction l generalizing w with
  | nil => rfl
  | cons e l ih =>
      obtain ⟨hnew, hrest⟩ := List.nodup_cons.mp hnodup
      have hfirst := halive e List.mem_cons_self
      obtain ⟨dev, hdev⟩ := Alive.device hfirst
      rw [List.foldl_cons, ih (rsuDeviceDelete e.2 w) (fun e' he' => ?_) hrest]
      · exact fault_rsuDeviceDelete (by simp [hdev])
      · have hne : e'.2 ≠ e.2 := fun heq => hnew (heq ▸ List.mem_map_of_mem he')
        have hold := halive e' (List.mem_cons_of_mem e he')
        rwa [World.Alive, path_rsuDeviceDelete hfirst, if_neg hne]

/-- The teardown deletes the known devices, and reads no other. -/
theorem contextFree_dangling (hr : RegistryOk w) : (exec w .contextFree).Dangling → w.Dangling := by
  let w₁ := (w.setHostService (rsuHostServiceDelete w.upnp.hostService)).setUdnMap ∅
  let w₂ := w.upnp.serverUdnMap.entries.foldl (fun w e => rsuDeviceDelete e.2 w) w₁
  let w₃ : World := { w₂.setUcMap ∅ with context := { w₂.context with watchers := [] } }
  have hknown : ∀ e ∈ w.upnp.serverUdnMap.entries, w₁.Alive e.2 := fun e he =>
    hr.maps.udn e.1 e.2 (Assoc.lookup_of_mem_entries he)
  have hnodup : (w.upnp.serverUdnMap.entries.map Sigma.snd).Nodup := by
    have hentries : w.upnp.serverUdnMap.entries.Nodup :=
      List.Nodup.of_map _ w.upnp.serverUdnMap.nodupKeys
    refine List.Nodup.map_on (fun e he e' he' hsame => ?_) hentries
    have hudn := hr.maps.udnSingle e.1 e'.1 e.2 (Assoc.lookup_of_mem_entries he)
      (hsame ▸ Assoc.lookup_of_mem_entries he')
    exact Sigma.ext hudn (heq_of_eq hsame)
  have hfault : w₃.fault = w.fault := fault_deleteAll _ w₁ hknown hnodup
  have hempty : Still w₃ (w₃.setQueues ∅) := still_setQueues w₃ fun k q hq => by
    have hnone : (∅ : Assoc.Table TaskQueueKey TaskQueue).lookup k = none := AList.lookup_empty k
    rw [hnone] at hq
    simp at hq
  have hqueues : ∀ l : List (Sigma fun _ : TaskQueueKey => TaskQueue), Still (w₃.setQueues ∅)
      (l.foldl (fun w e => prvTaskQueueFreeCb taskDeleteCb e.2 w) (w₃.setQueues ∅)) :=
    still_foldl fun w e => still_prvTaskQueueFreeCb e.2 w
  have hfree : Still w₃ (rsuTaskProcessorFree taskDeleteCb w₃) := hempty.trans (hqueues _)
  exact fun hd => dangling_of_fault hfault (hfree.dangling hd)

/-- Every input but the last reads devices that are there, and leaves no holder
behind of one that goes away. -/
theorem exec_holdersOk {i : Input} (h : ServiceOk none w) (hr : RegistryOk w) (hh : HoldersOk w)
    (henabled : i.enabled w = true) (hfree : i ≠ .contextFree) :
    ((exec w i).Dangling → w.Dangling) ∧ ((exec w i).fault = none → HoldersOk (exec w i)) := by
  have hsound : ∀ {w'}, Sound w w' ∧ HoldersOk w' →
      (w'.Dangling → w.Dangling) ∧ (w'.fault = none → HoldersOk w') := fun hw' =>
    ⟨hw'.1.dangling, fun _ => hw'.2⟩
  by_cases hi : i.isOutside = true
  · have hapart := exec_apart h.processor hi
    exact ⟨hapart.dangling, fun _ => hh.apart hapart⟩
  · cases i with
    | reply action env =>
        have hmem : action ∈ w.gupnp.actions := by simp_all [Input.enabled]
        have hstill : Still w (exec w (.reply action env)) :=
          still_actionReply h hr hh.clients hmem env
        exact ⟨hstill.dangling, fun _ => hh.apart hstill.toApart⟩
    | processIdle id k env =>
        have hmem : (id, k) ∈ w.loop.processIdles := by simp_all [Input.enabled]
        obtain ⟨hs, hholders⟩ := processIdle_holdersOk env h hr hh hmem
        exact ⟨hs.dangling, hholders⟩
    | completeIdle a =>
        have hmem : a ∈ w.loop.completeIdles := by simp_all [Input.enabled]
        obtain ⟨hstay, hgoOn⟩ := completeIdle_goOn h hmem
        exact ⟨hstay.dangling, fun _ => ⟨hh.attached.stay hstay, hh.clients.goOn hgoOn
          fun _ _ _ _ _ _ _ _ hserves => .inr (hstay.serves hserves)⟩⟩
    | available udn ipAddress offered =>
        exact hsound (prvServerAvailableCb_holdersOk udn ipAddress offered h hr hh)
    | unavailable udn ipAddress =>
        obtain ⟨hdangling, hholders⟩ := prvServerUnavailableCb_holdersOk udn ipAddress h hr hh
        exact ⟨hdangling, fun _ => hholders⟩
    | finallyIdle q =>
        have hmem : q ∈ w.loop.finallyIdles := by simp_all [Input.enabled]
        obtain ⟨hdangling, hholders⟩ := finallyIdle_holdersOk hr hh hmem
        exact ⟨hdangling, fun _ => hholders⟩
    | subscribeTimer id d =>
        have hmem : (id, d) ∈ w.loop.subscribeTimers := by simp_all [Input.enabled]
        exact hsound (subscribeTimer_holdersOk hh hmem)
    | notify proxy =>
        rw [notify_eq hh proxy]
        exact ⟨id, fun _ => hh⟩
    | subscriptionLost proxy => exact hsound (subscriptionLost_holdersOk h hh proxy)
    | retryTimer r =>
        have hmem : r ∈ w.loop.retryTimers := by simp_all [Input.enabled]
        exact hsound (retryTimer_holdersOk hh hmem)
    | quitIdle => exact hsound (quitIdle_holdersOk hr hh)
    | rehash queues devices =>
        simp only [Input.enabled, Bool.and_eq_true, List.isPerm_iff] at henabled
        exact hsound (rehash_holdersOk hh henabled.2.1 henabled.2.2)
    | contextFree => exact absurd rfl hfree
    | _ => exact absurd rfl hi

/-! ## Runs -/

variable {neverQuit : Bool} {is : List Input}

theorem start_holdersOk (neverQuit : Bool) : HoldersOk (start neverQuit) := by
  have hqueue : ∀ k, (start neverQuit).queue? k = none := fun k => AList.lookup_empty k
  have htask : ∀ a t, (start neverQuit).tasks a ≠ some (.client t) := by simp [start]
  refine ⟨?_, fun a t ht => absurd ht (htask a t), fun a t ht => absurd ht (htask a t),
    fun a t d ht => absurd ht (htask a t), fun k q hq => ?_⟩
  · refine ⟨fun d c x kind p hc => ?_, ?_, ?_, ?_, List.nodup_nil, ?_, List.nodup_nil⟩
    · simp [World.core, start] at hc
    all_goals simp [start]
  · rw [hqueue] at hq
    simp at hq

theorem service_holdersOk (h : (service neverQuit).Reaches is w)
    (hfree : w.context.freed = false) : HoldersOk w := by
  refine service_invariant (P := fun _ => HoldersOk) h hfree (start_holdersOk neverQuit)
    fun is w i hr hdoes ih => ?_
  have hservice := service_ok hr hdoes.freed
  have hregistry := service_registryOk hr hdoes.freed
  exact (exec_holdersOk hservice hregistry ih hdoes.enabled hdoes.last).2 hdoes.fault

/-- Nothing that runs later carries the device: no timer, callback, map or
construction does, and a request for it was cancelled and only ends. -/
structure Released (d : Nat) (w : World) : Prop extends Detached d w where
  udnMap : ∀ udn, w.upnp.serverUdnMap.lookup udn ≠ some d
  ucMap : ∀ udn ct, w.upnp.serverUcMap.lookup udn = some ct → ct.device ≠ d
  queues : ∀ k q ct, w.queue? k = some q → q.finallyCb = true → q.userData = some ct →
    ct.device ≠ d
  finallyIdles : ∀ q ∈ w.loop.finallyIdles, ∀ ct, q.userData = some ct → ct.device ≠ d
  constructions : ∀ a t, w.tasks a = some (.service t) → t.device ≠ d
  requests : ∀ a t, w.tasks a = some (.client t) → t.device = some d →
    t.GivenUp ∧ a ∈ w.loop.completeIdles ∧ w.NoAction a

theorem HoldersOk.released (hh : HoldersOk w) (h : ServiceOk handled w) (hr : RegistryOk w)
    (hd : w.devices d = none) : Released d w := by
  have hne : ∀ {e}, w.Alive e → e ≠ d := by
    rintro e he rfl
    obtain ⟨dev, hdev⟩ := Alive.device he
    simp [hd] at hdev
  have hct : ∀ {ct}, w.Constructs ct → ct.device ≠ d := fun hct => hne (hr.maps.uc _ _ hct).2
  refine ⟨hh.attached.detached hd, fun udn hudn => hne (hr.maps.udn udn d hudn) rfl,
    fun udn ct huc => hne (hr.maps.uc udn ct huc).2, fun k q ct hq hfinally hdata => ?_,
    fun q hq ct hdata => ?_, fun a t ht => hne (hr.alive_service ht), fun a t ht hdevice => ?_⟩
  · cases hcs : q.callbacks with
    | client => simp [hr.constructions.clients k q hq hcs] at hfinally
    | service =>
        obtain ⟨-, ct', hdata', -, hconstructs⟩ := hr.constructions.queues k q hq hcs
        obtain rfl := Option.some.inj (hdata.symm.trans hdata')
        exact hct hconstructs
  · obtain ⟨ct', hdata', hconstructs, -⟩ := hr.constructions.idles q hq
    obtain rfl := Option.some.inj (hdata.symm.trans hdata')
    exact hct hconstructs
  · have hunarmed : ¬t.Armed := fun harmed => hne (hh.clients.alive ht harmed hdevice) rfl
    have hbegun : t.cancellable ≠ none := fun hnone => by
      simp [(hh.clients.unbegun a t ht hnone).2.1] at hdevice
    refine ⟨?_, (hh.clients.begun a t ht hbegun).2.resolve_left hunarmed,
      h.outer.actions.noAction_client ht hunarmed⟩
    rcases hh.clients.serves a t d ht hdevice with hgiven | ⟨-, hp⟩
    · exact hgiven
    · exact absurd hp (by simp [World.path, hd])

/-- Nothing uses a deleted device: no step of a run reads a device, or a context
of one, that is not there; and nothing that is left behind by one that went away
carries it, but requests that were cancelled and wait for their end. -/
theorem service_noDangling (h : (service neverQuit).Reaches is w) :
    (∀ i : Input, i.enabled w = true → ¬(exec w i).Dangling) ∧
      (w.context.freed = false → ∀ d, w.devices d = none → Released d w) := by
  have hclean : ¬w.Dangling := by
    rintro ⟨f, hf, -⟩
    simp [service_fault h] at hf
  refine ⟨fun i henabled => ?_, fun hfree d hd =>
    (service_holdersOk h hfree).released (service_ok h hfree) (service_registryOk h hfree) hd⟩
  have hfreed := enabled_freed henabled
  have hregistry := service_registryOk h hfreed
  by_cases hlast : i = .contextFree
  · subst hlast
    exact fun hd => hclean (contextFree_dangling hregistry hd)
  · exact fun hd => hclean ((exec_holdersOk (service_ok h hfreed) hregistry
      (service_holdersOk h hfreed) henabled hlast).1 hd)

def lostDuringPlay : List Choice :=
  oneRenderer ++ [.input (.playerCall oneClient onePath .play), .processIdle,
    .input (.unavailable "uuid:r" "192.168.1.2")]

theorem service_noDangling_lostDuringPlay :
    ∃ is w t, (service true).Reaches is w ∧ w.tasks ⟨3, requestKey⟩ = some (.client t) ∧
      t.device = some 0 ∧ Released 0 w ∧
      ¬(exec w (.completeIdle ⟨3, requestKey⟩)).Dangling := by
  obtain ⟨is, w, hreaches, hfree, hgone, htask⟩ := service_reaches_of_schedule true lostDuringPlay
    (p := fun w => w.context.freed = false ∧ (w.devices 0).isNone = true ∧
      (((w.tasks ⟨3, requestKey⟩).bind Task.client?).any fun t => t.device = some 0) = true)
    (by decide +kernel)
  obtain ⟨t, htask, hdevice⟩ := (Option.any_eq_true _ _).mp htask
  obtain ⟨hsafe, hreleased⟩ := service_noDangling hreaches
  have htask : w.tasks ⟨3, requestKey⟩ = some (.client t) := client?_eq_some.mp htask
  have hdevice : t.device = some 0 := of_decide_eq_true hdevice
  have hnone : w.devices 0 = none := Option.isNone_iff_eq_none.mp hgone
  have hrelease := hreleased hfree 0 hnone
  obtain ⟨-, hmem, -⟩ := hrelease.requests _ t htask hdevice
  exact ⟨is, w, t, hreaches, htask, hdevice, hrelease,
    hsafe _ (by simp [Input.enabled, hfree, hmem])⟩

end RendererService
