import RendererService.Service.Servers

/-!
# Work on tasks

Adding, cancelling and completing tasks reads no device, and changes none.
Meanwhile a client task keeps the device that it was begun on, and stays given
up once it is.
-/

namespace RendererService

open Transition

variable {w w' w'' : World} {a : TaskAtom} {k : TaskQueueKey}

def Fault.isDangling : Fault → Bool
  | .deadDevice _ | .deadContext _ => true
  | _ => false

def World.Dangling (w : World) : Prop := ∃ f, w.fault = some f ∧ f.isDangling = true

theorem dangling_crash {f : Fault} (hf : f.isDangling = false) :
    (w.crash f).Dangling → w.Dangling := by
  rintro ⟨f', hf', hdangling⟩
  cases hw : w.fault with
  | some f₀ =>
      have hsame : (w.crash f).fault = some f₀ := by simp [World.crash, hw]
      exact ⟨f₀, hw, by rwa [← Option.some.inj (hf'.symm.trans hsame)]⟩
  | none =>
      have hsame : (w.crash f).fault = some f := by simp [World.crash, hw]
      obtain rfl := Option.some.inj (hf'.symm.trans hsame)
      simp [hf] at hdangling

/-! ## Devices stay -/

/-- The devices stay as they are, with what is attached to them, and so do the
two maps. -/
structure DevicesStay (w w' : World) : Prop where
  devices : w'.devices = w.devices
  proxies : w'.gupnp.proxies = w.gupnp.proxies
  nextContext : w'.gupnp.nextContext = w.gupnp.nextContext
  notifies : w'.gupnp.notifies = w.gupnp.notifies
  lostHandlers : w'.gupnp.lostHandlers = w.gupnp.lostHandlers
  subscriptions : w'.gupnp.subscriptions = w.gupnp.subscriptions
  retryTimers : w'.loop.retryTimers = w.loop.retryTimers
  subscribeTimers : w'.loop.subscribeTimers = w.loop.subscribeTimers
  upnp : w'.upnp.unhosted = w.upnp.unhosted
  dangling : w'.Dangling → w.Dangling

theorem DevicesStay.refl : DevicesStay w w := ⟨rfl, rfl, rfl, rfl, rfl, rfl, rfl, rfl, rfl, id⟩

theorem DevicesStay.trans (h : DevicesStay w w') (h' : DevicesStay w' w'') : DevicesStay w w'' where
  devices := h'.devices.trans h.devices
  proxies := h'.proxies.trans h.proxies
  nextContext := h'.nextContext.trans h.nextContext
  notifies := h'.notifies.trans h.notifies
  lostHandlers := h'.lostHandlers.trans h.lostHandlers
  subscriptions := h'.subscriptions.trans h.subscriptions
  retryTimers := h'.retryTimers.trans h.retryTimers
  subscribeTimers := h'.subscribeTimers.trans h.subscribeTimers
  upnp := h'.upnp.trans h.upnp
  dangling hd := h.dangling (h'.dangling hd)

/-! ## Client tasks go on -/

def ClientTask.GivenUp (t : ClientTask) : Prop :=
  ∃ c, t.cancellable = some c ∧ c.cancelled = true

/-- The task waits for its action, or its completion is scheduled. -/
def World.Settled (w : World) (a : TaskAtom) (t : ClientTask) : Prop :=
  t.Armed ∨ a ∈ w.loop.completeIdles

/-- A task that was not begun yet: it has no device and no error. -/
def ClientTask.Unbegun (t : ClientTask) : Prop :=
  t.cancellable = none ∧ t.device = none ∧ t.error = none

structure ClientTask.Becomes (t t' : ClientTask) : Prop where
  path : t'.path = t.path
  device : t'.device = t.device
  synchronous : t'.synchronous = t.synchronous
  begun : t'.cancellable = none ↔ t.cancellable = none
  givenUp : t.GivenUp → t'.GivenUp
  error : t.cancellable = none → t'.error = t.error

theorem ClientTask.Becomes.refl (t : ClientTask) : t.Becomes t :=
  ⟨rfl, rfl, rfl, Iff.rfl, id, fun _ => rfl⟩

theorem ClientTask.Becomes.trans {t t' t'' : ClientTask} (h : t.Becomes t') (h' : t'.Becomes t'') :
    t.Becomes t'' where
  path := h'.path.trans h.path
  device := h'.device.trans h.device
  synchronous := h'.synchronous.trans h.synchronous
  begun := h'.begun.trans h.begun
  givenUp hgiven := h'.givenUp (h.givenUp hgiven)
  error hnone := (h'.error (h.begun.mpr hnone)).trans (h.error hnone)

/-- A queue marked for removal arms no idle and takes no new task. -/
structure TaskQueue.Lingers (q q' : TaskQueue) : Prop where
  deferRemove : q.deferRemove = true
  idleId : q.idleId = 0 → q'.idleId = 0
  currentTask : ∀ a, q'.currentTask = some a → q.currentTask = some a

/-- Nothing is left of the queue but a current task that was given up. -/
def World.Finishing (w : World) (q : TaskQueue) : Prop :=
  q.idleId = 0 ∧ ∀ a t, q.currentTask = some a → w.tasks a = some (.client t) →
    t.cancellable ≠ none → t.synchronous = false → t.GivenUp

structure ClientsGoOn (w w' : World) : Prop where
  records : ∀ a t', w'.tasks a = some (.client t') →
    (∃ t, w.tasks a = some (.client t) ∧ t.Becomes t' ∧ (w.Settled a t → w'.Settled a t')) ∨
      t'.Unbegun
  queues : ∀ k q', w'.queue? k = some q' → q'.deferRemove = true →
    (∃ q, w.queue? k = some q ∧ q.Lingers q') ∨ w'.Finishing q'

theorem TaskQueue.Lingers.of_deferRemove {q : TaskQueue} (h : q.deferRemove = true) : q.Lingers q :=
  ⟨h, id, fun _ ha => ha⟩

namespace ClientsGoOn

theorem refl : ClientsGoOn w w :=
  ⟨fun _ t ht => .inl ⟨t, ht, .refl t, id⟩,
    fun _ q hq hdefer => .inl ⟨q, hq, .of_deferRemove hdefer⟩⟩

theorem finishing (h : ClientsGoOn w w') {q q' : TaskQueue} (hq : w.Finishing q)
    (hlingers : q.Lingers q') : w'.Finishing q' := by
  refine ⟨hlingers.idleId hq.1, fun a t' ha ht' hbegun hasync => ?_⟩
  rcases h.records a t' ht' with ⟨t, ht, hbecomes, -⟩ | hfresh
  · have hcurrent := hlingers.currentTask a ha
    exact hbecomes.givenUp (hq.2 a t hcurrent ht (fun hnone => hbegun (hbecomes.begun.mpr hnone))
      (hbecomes.synchronous ▸ hasync))
  · exact absurd hfresh.1 hbegun

theorem trans (h : ClientsGoOn w w') (h' : ClientsGoOn w' w'') : ClientsGoOn w w'' where
  records a t'' ht'' := by
    rcases h'.records a t'' ht'' with ⟨t', ht', hbecomes', hsettled'⟩ | hfresh
    · rcases h.records a t' ht' with ⟨t, ht, hbecomes, hsettled⟩ | hfresh
      · exact .inl ⟨t, ht, hbecomes.trans hbecomes', hsettled' ∘ hsettled⟩
      · exact .inr ⟨hbecomes'.begun.mpr hfresh.1, hbecomes'.device.trans hfresh.2.1,
          (hbecomes'.error hfresh.1).trans hfresh.2.2⟩
    · exact .inr hfresh
  queues k q'' hq'' hdefer := by
    rcases h'.queues k q'' hq'' hdefer with ⟨q', hq', hlingers'⟩ | hfinishing
    · rcases h.queues k q' hq' hlingers'.deferRemove with ⟨q, hq, hlingers⟩ | hfinishing
      · exact .inl ⟨q, hq, hlingers.deferRemove, hlingers'.idleId ∘ hlingers.idleId,
          fun a ha => hlingers.currentTask a (hlingers'.currentTask a ha)⟩
      · exact .inr (h'.finishing hfinishing hlingers')
    · exact .inr hfinishing

theorem of_records (htasks : ∀ a t, w'.tasks a = some (.client t) → w.tasks a = some (.client t))
    (hidles : ∀ a ∈ w.loop.completeIdles, a ∈ w'.loop.completeIdles)
    (hqueues : ∀ k q', w'.queue? k = some q' → q'.deferRemove = true →
      ∃ q, w.queue? k = some q ∧ q.Lingers q') : ClientsGoOn w w' :=
  ⟨fun a t ht => .inl ⟨t, htasks a t ht, .refl t, Or.imp_right (hidles a)⟩,
    fun k q hq hdefer => .inl (hqueues k q hq hdefer)⟩

/-- The queues stay, and the record of one client task changes. -/
theorem of_record {t t' : ClientTask} (hqueues : ∀ k, w'.queue? k = w.queue? k)
    (hothers : ∀ b, b ≠ a → w'.tasks b = w.tasks b)
    (hidles : ∀ b ∈ w.loop.completeIdles, b ∈ w'.loop.completeIdles)
    (ht : w.tasks a = some (.client t)) (ht' : w'.tasks a = some (.client t'))
    (hbecomes : t.Becomes t') (hsettled : t.Armed → w'.Settled a t') : ClientsGoOn w w' := by
  refine ⟨fun b t₁ ht₁ => .inl ?_,
    fun k q hq hdefer => .inl ⟨q, hqueues k ▸ hq, .of_deferRemove hdefer⟩⟩
  by_cases hb : b = a
  · subst hb
    obtain rfl : t' = t₁ := by simpa using ht'.symm.trans ht₁
    exact ⟨t, ht, hbecomes, fun h => h.elim hsettled fun hmem => .inr (hidles b hmem)⟩
  · rw [hothers b hb] at ht₁
    exact ⟨t₁, ht₁, .refl t₁, Or.imp_right (hidles b)⟩

end ClientsGoOn

/-! ## Neither is affected -/

/-- Work on tasks. -/
structure Apart (w w' : World) : Prop extends DevicesStay w w', ClientsGoOn w w'

/-- Work on tasks that serves no file. -/
structure Still (w w' : World) : Prop extends Apart w w' where
  hostService : w'.upnp.hostService = w.upnp.hostService

theorem Apart.refl : Apart w w := ⟨.refl, .refl⟩

theorem Apart.trans (h : Apart w w') (h' : Apart w' w'') : Apart w w'' :=
  ⟨h.toDevicesStay.trans h'.toDevicesStay, h.toClientsGoOn.trans h'.toClientsGoOn⟩

theorem Still.refl : Still w w := ⟨.refl, rfl⟩

theorem Still.trans (h : Still w w') (h' : Still w' w'') : Still w w'' :=
  ⟨h.toApart.trans h'.toApart, h'.hostService.trans h.hostService⟩

theorem Still.foldl {α : Type} {I : World → Prop} {f : World → α → World} {l : List α}
    (hf : ∀ w, ∀ x ∈ l, I w → I (f w x) ∧ Still w (f w x)) (hI : I w) : Still w (l.foldl f w) := by
  induction l generalizing w with
  | nil => exact .refl
  | cons x l ih =>
      obtain ⟨hkept, hstill⟩ := hf w x List.mem_cons_self hI
      exact hstill.trans (ih (fun w y hy => hf w y (List.mem_cons_of_mem x hy)) hkept)

/-! ## Elementary changes -/

theorem ClientsGoOn.of_same (htasks : w'.tasks = w.tasks)
    (hidles : ∀ a ∈ w.loop.completeIdles, a ∈ w'.loop.completeIdles)
    (hqueues : ∀ k, w'.queue? k = w.queue? k) : ClientsGoOn w w' :=
  .of_records (fun a t ht => by rwa [htasks] at ht) hidles
    fun k q hq hdefer => ⟨q, hqueues k ▸ hq, .of_deferRemove hdefer⟩

theorem still_emit (w : World) (e : Event) : Still w (w.emit e) :=
  ⟨⟨⟨rfl, rfl, rfl, rfl, rfl, rfl, rfl, rfl, rfl, id⟩,
    .of_same rfl (fun _ ha => ha) fun _ => rfl⟩, rfl⟩

theorem still_crash (w : World) {f : Fault} (hf : f.isDangling = false) : Still w (w.crash f) :=
  ⟨⟨⟨rfl, rfl, rfl, rfl, rfl, rfl, rfl, rfl, rfl, dangling_crash hf⟩,
    .of_same rfl (fun _ ha => ha) fun _ => rfl⟩, rfl⟩

theorem still_setProcessor (w : World) {p : TaskProcessor}
    (hp : p.taskQueues = w.processor.taskQueues) : Still w { w with processor := p } :=
  ⟨⟨⟨rfl, rfl, rfl, rfl, rfl, rfl, rfl, rfl, rfl, id⟩, .of_same rfl (fun _ ha => ha) fun k => by
    show p.taskQueues.lookup k = _
    rw [hp]⟩, rfl⟩

theorem still_setLoop (w : World) {l : MainLoop} (hretry : l.retryTimers = w.loop.retryTimers)
    (hsubscribe : l.subscribeTimers = w.loop.subscribeTimers)
    (hidles : ∀ a ∈ w.loop.completeIdles, a ∈ l.completeIdles) : Still w (w.setLoop l) :=
  ⟨⟨⟨rfl, rfl, rfl, rfl, rfl, rfl, hretry, hsubscribe, rfl, id⟩,
    .of_same rfl hidles fun _ => rfl⟩, rfl⟩

theorem still_sourceRemoveProcess (w : World) (id : Nat) : Still w (w.sourceRemoveProcess id) :=
  still_setLoop w rfl rfl fun _ ha => ha

theorem still_setContext (w : World) (context : Context) : Still w { w with context := context } :=
  ⟨⟨⟨rfl, rfl, rfl, rfl, rfl, rfl, rfl, rfl, rfl, id⟩,
    .of_same rfl (fun _ ha => ha) fun _ => rfl⟩, rfl⟩

theorem still_cancelAction (action : Option Nat) (w : World) :
    Still w (gupnpServiceProxyCancelAction action w) :=
  ⟨⟨⟨rfl, rfl, rfl, rfl, rfl, rfl, rfl, rfl, rfl, id⟩,
    .of_same rfl (fun _ ha => ha) fun _ => rfl⟩, rfl⟩

theorem still_cancelPending (w : World) (proxy : Option ServiceProxy) (action : Option Nat) :
    Still w (w.cancelPending proxy action) := by
  unfold World.cancelPending
  split
  · exact still_cancelAction action w
  · exact .refl

theorem still_dropReply (w : World) (action : ProxyAction) : Still w (w.dropReply action) :=
  ⟨⟨⟨rfl, rfl, rfl, rfl, rfl, rfl, rfl, rfl, rfl, id⟩,
    .of_same rfl (fun _ ha => ha) fun _ => rfl⟩, rfl⟩

theorem still_idleAddComplete (w : World) (a : TaskAtom) : Still w (w.idleAddComplete a) :=
  ⟨⟨⟨rfl, rfl, rfl, rfl, rfl, rfl, rfl, rfl, rfl, id⟩,
    .of_same rfl (fun _ ha => List.mem_append_left _ ha) fun _ => rfl⟩, rfl⟩

theorem still_idleAddQuit (w : World) : Still w w.idleAddQuit :=
  ⟨⟨⟨rfl, rfl, rfl, rfl, rfl, rfl, rfl, rfl, rfl, id⟩,
    .of_same rfl (fun _ ha => ha) fun _ => rfl⟩, rfl⟩

/-- The record of a task goes away, or is that of a service task. -/
theorem still_setTask (w : World) (a : TaskAtom) {r : Option Task}
    (hr : ∀ t, r ≠ some (.client t)) : Still w (w.setTask a r) := by
  refine ⟨⟨⟨rfl, rfl, rfl, rfl, rfl, rfl, rfl, rfl, rfl, id⟩, .of_records (fun b t ht => ?_)
    (fun _ ha => ha) fun k q hq hdefer => ⟨q, hq, .of_deferRemove hdefer⟩⟩, rfl⟩
  unfold World.setTask at ht
  dsimp only at ht
  split at ht
  · exact absurd ht (hr t)
  · exact ht

theorem still_setQueues (w : World) {t : Assoc.Table TaskQueueKey TaskQueue}
    (ht : ∀ k q', t.lookup k = some q' → q'.deferRemove = true →
      ∃ q, w.queue? k = some q ∧ q.Lingers q') : Still w (w.setQueues t) :=
  ⟨⟨⟨rfl, rfl, rfl, rfl, rfl, rfl, rfl, rfl, rfl, id⟩,
    .of_records (fun _ _ ht => ht) (fun _ ha => ha) ht⟩, rfl⟩

theorem still_modifyQueue (w : World) (k : TaskQueueKey) {f : TaskQueue → TaskQueue}
    (hf : ∀ q, w.queue? k = some q → (f q).deferRemove = true → q.Lingers (f q)) :
    Still w (w.modifyQueue k f) := by
  refine still_setQueues w fun k' q' hq' hdefer => ?_
  rw [Assoc.lookup_modify] at hq'
  split at hq'
  next heq =>
    obtain ⟨q, hq, rfl⟩ := Option.map_eq_some_iff.mp hq'
    exact ⟨q, heq ▸ hq, hf q hq hdefer⟩
  · exact ⟨q', hq', .of_deferRemove hdefer⟩

theorem still_eraseQueue (w : World) (k : TaskQueueKey) : Still w (w.eraseQueue k) := by
  refine still_setQueues w fun k' q' hq' hdefer => ?_
  rw [Assoc.lookup_erase_eq] at hq'
  split at hq'
  · simp at hq'
  · exact ⟨q', hq', .of_deferRemove hdefer⟩

theorem still_insertQueue (w : World) (k : TaskQueueKey) {q : TaskQueue}
    (hq : q.deferRemove = false) : Still w (w.setQueue k q) := by
  refine still_setQueues w fun k' q' hq' hdefer => ?_
  rw [Assoc.lookup_insert_eq] at hq'
  split at hq'
  · obtain rfl := Option.some.inj hq'
    simp [hq] at hdefer
  · exact ⟨q', hq', .of_deferRemove hdefer⟩

theorem still_idleAddProcess (w : World) (k : TaskQueueKey)
    (hk : ∀ q, w.queue? k = some q → q.deferRemove = false) : Still w (w.idleAddProcess k) := by
  have hloop := still_setLoop w (l := { w.loop with
    nextSource := w.loop.nextSource + 1
    processIdles := w.loop.processIdles ++ [(w.loop.nextSource, k)] }) rfl rfl fun _ ha => ha
  refine hloop.trans (still_modifyQueue _ k fun q hq hdefer => ?_)
  have hnot := hk q hq
  simp [hnot] at hdefer

theorem still_withService (w : World) (a : TaskAtom) {f : ServiceTask → World}
    (hf : ∀ t, w.tasks a = some (.service t) → Still w (f t)) : Still w (w.withService a f) := by
  unfold World.withService
  split
  next t ht => exact hf t ht
  · exact still_crash w rfl

theorem still_withClient (w : World) (a : TaskAtom) {f : ClientTask → World}
    (hf : ∀ t, w.tasks a = some (.client t) → Still w (f t)) : Still w (w.withClient a f) := by
  unfold World.withClient
  split
  next t ht => exact hf t ht
  · exact still_crash w rfl

theorem still_setClient (w : World) {t : ClientTask} (t' : ClientTask)
    (ht : w.tasks a = some (.client t))
    (hbecomes : t.Becomes t') (harmed : t.Armed → w.Settled a t') :
    Still w (w.setTask a (some (.client t'))) :=
  ⟨⟨⟨rfl, rfl, rfl, rfl, rfl, rfl, rfl, rfl, rfl, id⟩, .of_record (fun _ => rfl)
    (fun _ hb => if_neg hb) (fun _ ha => ha) ht (tasks_setTask _ _ _) hbecomes harmed⟩, rfl⟩

/-! ## The callbacks of client tasks -/

theorem still_answerTask (a : TaskAtom) (reply : ClientTask → Reply) (w : World) :
    Still w (answerTask a reply w) := by
  refine still_withClient w a fun t ht => ?_
  split
  next invocation _ =>
    exact (still_emit w _).trans (still_setClient (w.emit (.answered invocation (reply t)))
      { t with invocation := none } ht ⟨rfl, rfl, rfl, Iff.rfl, id, fun _ => rfl⟩ .inl)
  · exact .refl

theorem ClientTask.becomes_cancelled (t : ClientTask) {c : Cancellable}
    (hc : t.cancellable = some c) :
    t.Becomes { t with cancellable := some { c with cancelled := true } } :=
  ⟨rfl, rfl, rfl, by simp [hc], fun _ => ⟨_, rfl, rfl⟩, fun _ => rfl⟩

/-- The task is given up, and its completion is scheduled if it was `Armed`. -/
theorem still_rsuAsyncTaskCancel_armed {t : ClientTask} (ht : w.tasks a = some (.client t))
    (harmed : t.Armed) : Still w (rsuAsyncTaskCancel a w) := by
  have hpending := still_cancelPending w t.proxy t.action
  have hbecomes : t.Becomes t.cancelled :=
    ⟨rfl, rfl, rfl, by simp [ClientTask.cancelled, show t.cancellable = _ from harmed],
      fun _ => ⟨_, rfl, rfl⟩, fun hnone => by simp [show t.cancellable = _ from harmed] at hnone⟩
  rw [rsuAsyncTaskCancel_armed ht harmed]
  have hrecorded : DevicesStay w (w.cancelPending t.proxy t.action) := hpending.toDevicesStay
  refine ⟨⟨hrecorded.trans ⟨rfl, rfl, rfl, rfl, rfl, rfl, rfl, rfl, rfl, id⟩, ?_⟩,
    hpending.hostService⟩
  have htouch : Touches a w (w.cancelPending t.proxy t.action) := touches_cancelPending _ _
  have hidles : (w.cancelPending t.proxy t.action).loop.completeIdles = w.loop.completeIdles := by
    unfold World.cancelPending
    split <;> rfl
  refine .of_record htouch.toBeside.queue? (fun b hb => ?_) (fun b hb => ?_) ht
    (tasks_setTask _ _ _) hbecomes fun _ => .inr (List.mem_append_right _ List.mem_cons_self)
  · exact (if_neg hb).trans (htouch.others b hb)
  · refine List.mem_append_left [a] ?_
    show b ∈ (w.cancelPending t.proxy t.action).loop.completeIdles
    rwa [hidles]

theorem still_rsuAsyncTaskCancel (a : TaskAtom) (w : World) : Still w (rsuAsyncTaskCancel a w) := by
  by_cases hclient : ∃ t, w.tasks a = some (.client t) ∧ t.Armed
  · obtain ⟨t, ht, harmed⟩ := hclient
    exact still_rsuAsyncTaskCancel_armed ht harmed
  · unfold rsuAsyncTaskCancel
    refine still_withClient w a fun t ht => ?_
    split
    next c hc =>
      unfold gCancellableCancel
      split
      · exact .refl
      next hcancelled =>
        have hunarmed : ¬t.Armed := fun harmed => hclient ⟨t, ht, harmed⟩
        have hconnected : ¬c.connected = true := by
          intro hconnected
          refine hunarmed (hc.trans ?_)
          cases c
          simp_all
        dsimp only
        rw [if_neg hconnected, modifyClient_eq ht]
        exact still_setClient w _ ht (t.becomes_cancelled hc) fun harmed => absurd harmed hunarmed
    · exact .refl

theorem still_rsuTaskCancel (a : TaskAtom) (w : World) : Still w (rsuTaskCancel a w) := by
  refine still_withClient w a fun t _ => ?_
  have hanswered := still_answerTask a (fun _ => .error operationCancelled) w
  dsimp only
  split
  · exact hanswered
  · exact hanswered.trans (still_rsuAsyncTaskCancel a _)

theorem rsuAsyncTaskCancel_givenUp {t t' : ClientTask} (ht : w.tasks a = some (.client t))
    (ht' : (rsuAsyncTaskCancel a w).tasks a = some (.client t')) (hbegun : t'.cancellable ≠ none) :
    t'.GivenUp := by
  by_cases harmed : t.Armed
  · rw [rsuAsyncTaskCancel_armed ht harmed] at ht'
    obtain rfl : t.cancelled = t' := by
      simpa using (tasks_setTask (w.cancelPending t.proxy t.action) a _).symm.trans ht'
    exact ⟨_, rfl, rfl⟩
  · simp only [rsuAsyncTaskCancel, World.withClient, ht] at ht'
    split at ht'
    next c hc =>
      unfold gCancellableCancel at ht'
      split at ht'
      next hcancelled =>
        obtain rfl : t = t' := by simpa using ht.symm.trans ht'
        exact ⟨c, hc, hcancelled⟩
      · have hconnected : ¬c.connected = true := by
          intro hconnected
          refine harmed (hc.trans ?_)
          cases c
          simp_all
        dsimp only at ht'
        rw [if_neg hconnected, modifyClient_eq ht, tasks_setTask] at ht'
        obtain rfl := Task.client.inj (Option.some.inj ht')
        exact ⟨_, rfl, rfl⟩
    next hnone =>
      obtain rfl : t = t' := by simpa using ht.symm.trans ht'
      exact absurd hnone hbegun

theorem rsuTaskCancel_givenUp {t t' : ClientTask} (ht : w.tasks a = some (.client t))
    (ht' : (rsuTaskCancel a w).tasks a = some (.client t')) (hbegun : t'.cancellable ≠ none)
    (hasync : t'.synchronous = false) : t'.GivenUp := by
  have hanswered : (answerTask a (fun _ => .error operationCancelled) w).tasks a =
      some (.client { t with invocation := none }) := by
    rw [answerTask_eq ht, tasks_setTask]
  simp only [rsuTaskCancel, World.withClient, ht] at ht'
  split at ht'
  next hsync =>
    obtain rfl : { t with invocation := none } = t' := by simpa using hanswered.symm.trans ht'
    simp [hsync] at hasync
  · exact rsuAsyncTaskCancel_givenUp hanswered ht' hbegun

theorem still_rsuTaskDelete (a : TaskAtom) (w : World) : Still w (rsuTaskDelete a w) := by
  refine still_withClient w a fun t _ => ?_
  dsimp only
  split
  · exact (still_emit w _).trans (still_setTask _ a (by simp))
  · exact still_setTask w a (by simp)

/-! ## Queues -/

theorem still_rsuServiceTaskDeleteCb (a : TaskAtom) (w : World) :
    Still w (rsuServiceTaskDeleteCb a w) :=
  still_withService w a fun _ _ => still_setTask w a (by simp)

theorem still_taskDeleteCb (cs : TaskCallbacks) (a : TaskAtom) (w : World) :
    Still w (taskDeleteCb cs a w) := by
  cases cs with
  | client => exact still_rsuTaskDelete a w
  | service => exact still_rsuServiceTaskDeleteCb a w

theorem processor_taskDeleteCb (cs : TaskCallbacks) (a : TaskAtom) (w : World) :
    (taskDeleteCb cs a w).processor = w.processor := by
  cases cs with
  | client =>
      simp only [taskDeleteCb, rsuTaskDelete, World.withClient]
      split
      · split <;> rfl
      · rfl
  | service =>
      simp only [taskDeleteCb, rsuServiceTaskDeleteCb, World.withService]
      split <;> rfl

theorem still_foldl {α : Type} {f : World → α → World} (hf : ∀ w x, Still w (f w x)) (l : List α) :
    Still w (l.foldl f w) :=
  Still.foldl (I := fun _ => True) (fun w x _ _ => ⟨trivial, hf w x⟩) trivial

theorem still_prvTaskFreeCb (q : TaskQueue) (a : TaskAtom) (w : World) :
    Still w (prvTaskFreeCb taskDeleteCb q a w) :=
  (still_emit w _).trans (still_taskDeleteCb _ _ _)

theorem still_prvTaskQueueFreeCb (q : TaskQueue) (w : World) :
    Still w (prvTaskQueueFreeCb taskDeleteCb q w) := by
  have hfreed : Still w (q.tasks.foldl (fun w a => prvTaskFreeCb taskDeleteCb q a w) w) :=
    still_foldl (fun w a => still_prvTaskFreeCb q a w) q.tasks
  unfold prvTaskQueueFreeCb
  dsimp only
  split
  · exact hfreed.trans (still_setLoop _ rfl rfl fun _ ha => ha)
  · exact hfreed

theorem still_removeQueue (k : TaskQueueKey) (w : World) :
    Still w (removeQueue taskDeleteCb k w) := by
  unfold removeQueue
  split
  · exact (still_eraseQueue w k).trans (still_prvTaskQueueFreeCb _ _)
  · exact .refl

def World.endCurrent (w : World) (k : TaskQueueKey) (q : TaskQueue) : World :=
  match q.currentTask with
  | some a =>
      (taskDeleteCb q.callbacks a (w.emit (.deleted a))).modifyQueue k fun q =>
        { q with currentTask := none }
  | none => w

theorem still_endCurrent (w : World) (k : TaskQueueKey) (q : TaskQueue) :
    Still w (w.endCurrent k q) := by
  unfold World.endCurrent
  split
  next a _ =>
    exact (still_emit w _).trans ((still_taskDeleteCb _ _ _).trans
      (still_modifyQueue _ k fun q _ hdefer => ⟨hdefer, id, by simp⟩))
  · exact .refl

theorem deferRemove_endCurrent {q q' : TaskQueue} (hq : w.queue? k = some q)
    (hq' : (w.endCurrent k q).queue? k = some q') : q'.deferRemove = q.deferRemove := by
  unfold World.endCurrent at hq'
  split at hq'
  · rw [queue?_modifyQueue, if_pos rfl, World.queue?, processor_taskDeleteCb] at hq'
    obtain ⟨q₀, hq₀, rfl⟩ := Option.map_eq_some_iff.mp hq'
    rw [Option.some.inj (hq.symm.trans hq₀)]
  · rw [Option.some.inj (hq.symm.trans hq')]

theorem still_rsuTaskQueueTaskCompleted (k : TaskQueueKey) (w : World) :
    Still w (rsuTaskQueueTaskCompleted taskDeleteCb k w) := by
  cases hq : w.queue? k with
  | none =>
      simp only [rsuTaskQueueTaskCompleted, hq]
      exact still_crash w rfl
  | some q =>
      have hend := (still_emit w (.completed k)).trans
        (still_endCurrent (w.emit (.completed k)) k q)
      let w₂ : World := ((w.emit (.completed k)).endCurrent k q).setRunning
        (guintPred ((w.emit (.completed k)).endCurrent k q).processor.runningTasks)
      have hrunning : Still w w₂ := hend.trans (still_setProcessor _ rfl)
      have hcompleted : rsuTaskQueueTaskCompleted taskDeleteCb k w =
          if w₂.processor.quitting ∧ w₂.processor.runningTasks = 0 then w₂.idleAddQuit
          else if q.deferRemove then removeQueue taskDeleteCb k w₂
          else if 0 < q.tasks.length then w₂.idleAddProcess k
          else if q.flags.autoRemove then removeQueue taskDeleteCb k w₂
          else w₂ := by
        simp only [rsuTaskQueueTaskCompleted, hq]
        rfl
      rw [hcompleted]
      split
      · exact hrunning.trans (still_idleAddQuit w₂)
      · split
        · exact hrunning.trans (still_removeQueue k w₂)
        next hdefer =>
          split
          · refine hrunning.trans (still_idleAddProcess w₂ k fun q' hq' => ?_)
            have hsame := deferRemove_endCurrent (w := w.emit (.completed k)) hq hq'
            simpa [hsame] using hdefer
          · split
            · exact hrunning.trans (still_removeQueue k w₂)
            · exact hrunning

/-! ## Adding tasks -/

theorem still_rsuTaskQueueStart (k : TaskQueueKey) (w : World) :
    Still w (rsuTaskQueueStart k w) := by
  unfold rsuTaskQueueStart
  split
  · exact still_crash w rfl
  next q hq =>
    split
    · exact .refl
    next hdefer =>
      split
      · refine still_idleAddProcess w k fun q' hq' => ?_
        rw [← Option.some.inj (hq.symm.trans hq')]
        simpa using hdefer
      · exact .refl

theorem still_rsuTaskQueueAddTask (k : TaskQueueKey) (task : Task) (w : World)
    (htask : ∀ t, task = .client t → t.Unbegun) : Still w (rsuTaskQueueAddTask k task w) := by
  cases hq : w.queue? k with
  | none =>
      simp only [rsuTaskQueueAddTask, hq]
      exact still_crash w rfl
  | some q =>
      have hpush : Still w (w.pushTask k task) := by
        have hstay : DevicesStay w (w.pushTask k task) :=
          ⟨rfl, rfl, rfl, rfl, rfl, rfl, rfl, rfl, rfl, id⟩
        refine ⟨⟨hstay, fun b t hb => ?_, fun k' q' hq' hdefer => ?_⟩, rfl⟩
        · have hrecord : (w.pushTask k task).tasks b =
              if b = w.newAtom k then some task else w.tasks b := rfl
          rw [hrecord] at hb
          split at hb
          · exact .inr (htask t (Option.some.inj hb))
          · exact .inl ⟨t, hb, .refl t, id⟩
        · rw [queue?_pushTask] at hq'
          split at hq'
          next heq =>
            obtain ⟨q₀, hq₀, rfl⟩ := Option.map_eq_some_iff.mp hq'
            exact .inl ⟨q₀, heq ▸ hq₀, hdefer, id, fun _ ha => ha⟩
          · exact .inl ⟨q', hq', .of_deferRemove hdefer⟩
      have hadded : rsuTaskQueueAddTask k task w =
          if q.deferRemove then w.pushTask k task
          else if q.flags.autoStart ∧ q.currentTask = none ∧ q.idleId = 0 then
            (w.pushTask k task).idleAddProcess k
          else w.pushTask k task := by
        simp only [rsuTaskQueueAddTask, hq]
        rfl
      rw [hadded]
      split
      · exact hpush
      next hdefer =>
        split
        · refine hpush.trans (still_idleAddProcess _ k fun q' hq' => ?_)
          rw [queue?_pushTask, if_pos rfl, hq] at hq'
          obtain rfl := Option.some.inj hq'
          simpa using hdefer
        · exact hpush

theorem still_rsuTaskProcessorAddQueue (source sink : String) (flags : TaskQueueFlags)
    (callbacks : TaskCallbacks) (w : World) :
    Still w (rsuTaskProcessorAddQueue taskDeleteCb source sink flags callbacks w).2 := by
  have hkey : Still w { w with
      processor := { w.processor with nextKey := w.processor.nextKey + 1 } } :=
    still_setProcessor w rfl
  unfold rsuTaskProcessorAddQueue
  dsimp only
  split
  · exact hkey.trans (still_insertQueue _ _ rfl)
  · split
    · exact hkey.trans ((still_insertQueue _ _ rfl).trans (still_prvTaskQueueFreeCb _ _))
    · exact hkey

/-! ## Cancelling -/

theorem still_rsuServiceTaskCancelCb (a : TaskAtom) (w : World) :
    Still w (rsuServiceTaskCancelCb a w) := by
  refine still_withService w a fun t _ => ?_
  split
  · have hpending := still_cancelPending w t.proxy t.pAction
    exact hpending.trans ((still_setTask _ a (by simp)).trans
      (still_rsuTaskQueueTaskCompleted a.queueId _))
  · exact .refl

theorem still_taskCancelCb (cs : TaskCallbacks) (a : TaskAtom) (w : World) :
    Still w (taskCancelCb cs a w) := by
  cases cs with
  | client => exact still_rsuTaskCancel a w
  | service => exact still_rsuServiceTaskCancelCb a w

theorem still_prvTaskCancelAndFreeCb (q : TaskQueue) (a : TaskAtom) (w : World) :
    Still w (prvTaskCancelAndFreeCb taskDeleteCb taskCancelCb q a w) :=
  (still_emit w _).trans ((still_taskCancelCb _ _ _).trans
    ((still_emit _ _).trans (still_taskDeleteCb _ _ _)))

def World.emptyQueue (w : World) (k : TaskQueueKey) (q : TaskQueue) : World :=
  let w := w.modifyQueue k fun q => { q with cancelled := true }
  let w := q.tasks.foldl (fun w a => prvTaskCancelAndFreeCb taskDeleteCb taskCancelCb q a w) w
  let w := w.modifyQueue k fun q => { q with tasks := [] }
  if q.idleId ≠ 0 then
    (w.sourceRemoveProcess q.idleId).modifyQueue k fun q => { q with idleId := 0 }
  else w

theorem prvTaskQueueCancel_eq_emptyQueue (k : TaskQueueKey) (q : TaskQueue) (w : World) :
    prvTaskQueueCancel taskDeleteCb taskCancelCb k q w =
      match q.currentTask with
      | some a => taskCancelCb q.callbacks a ((w.emptyQueue k q).emit (.cancelled a))
      | none =>
          if q.flags.autoRemove then removeQueue taskDeleteCb k (w.emptyQueue k q)
          else w.emptyQueue k q := rfl

theorem still_emptyQueue (k : TaskQueueKey) (q : TaskQueue) (w : World) :
    Still w (w.emptyQueue k q) := by
  have hmodify : ∀ {w : World} {f : TaskQueue → TaskQueue},
      (∀ q, (f q).deferRemove = q.deferRemove ∧ (q.idleId = 0 → (f q).idleId = 0) ∧
        (f q).currentTask = q.currentTask) → Still w (w.modifyQueue k f) := fun hf =>
    still_modifyQueue _ k fun q _ hdefer => by
      obtain ⟨hsame, hidle, hcurrent⟩ := hf q
      exact ⟨hsame ▸ hdefer, hidle, fun a ha => hcurrent ▸ ha⟩
  have hemptied := (hmodify (w := w) (f := fun q => { q with cancelled := true })
    fun _ => ⟨rfl, id, rfl⟩).trans ((still_foldl
      (fun w a => still_prvTaskCancelAndFreeCb q a w) q.tasks).trans
        (hmodify (f := fun q => { q with tasks := [] }) fun _ => ⟨rfl, id, rfl⟩))
  unfold World.emptyQueue
  dsimp only
  split
  · exact hemptied.trans ((still_sourceRemoveProcess _ _).trans
      (hmodify (f := fun q => { q with idleId := 0 }) fun _ => ⟨rfl, fun _ => rfl, rfl⟩))
  · exact hemptied

theorem still_prvTaskQueueCancel (k : TaskQueueKey) (q : TaskQueue) (w : World) :
    Still w (prvTaskQueueCancel taskDeleteCb taskCancelCb k q w) := by
  have hempty := still_emptyQueue k q w
  rw [prvTaskQueueCancel_eq_emptyQueue]
  split
  · exact hempty.trans ((still_emit _ _).trans (still_taskCancelCb _ _ _))
  · split
    · exact hempty.trans (still_removeQueue k _)
    · exact hempty

theorem still_rsuTaskProcessorCancelQueue (k : TaskQueueKey) (w : World) :
    Still w (rsuTaskProcessorCancelQueue taskDeleteCb taskCancelCb k w) := by
  unfold rsuTaskProcessorCancelQueue
  split
  · exact still_crash w rfl
  · exact still_prvTaskQueueCancel k _ w

theorem still_prvCancelAllQueues (w : World) :
    Still w (prvCancelAllQueues taskDeleteCb taskCancelCb w) := by
  refine Assoc.visitWhile_keeps (I := Still w) (fun w' k _ hstill => hstill.trans ?_) .refl
  unfold prvTaskQueueCancelCb
  split
  · exact .refl
  · exact still_prvTaskQueueCancel k _ w'

theorem still_rsuTaskProcessorSetQuitting (w : World) :
    Still w (rsuTaskProcessorSetQuitting taskDeleteCb taskCancelCb w) := by
  have hquitting : Still w w.setQuitting :=
    (still_setProcessor w (p := { w.processor with quitting := true }) rfl).trans (still_emit _ _)
  unfold rsuTaskProcessorSetQuitting
  dsimp only
  split
  · exact hquitting.trans (still_prvCancelAllQueues _)
  · exact hquitting.trans (still_idleAddQuit _)

/-! ## Queues marked for removal -/

theorem idleId_emptyQueue {q q' : TaskQueue} (hq : w.queue? k = some q)
    (hq' : (w.emptyQueue k q).queue? k = some q') (hdefer : q'.deferRemove = true) :
    q'.idleId = 0 := by
  by_cases hidle : q.idleId = 0
  · rcases (still_emptyQueue k q w).queues k q' hq' hdefer with ⟨q₀, hq₀, hlingers⟩ | hfinishing
    · obtain rfl := Option.some.inj (hq.symm.trans hq₀)
      exact hlingers.idleId hidle
    · exact hfinishing.1
  · unfold World.emptyQueue at hq'
    dsimp only at hq'
    rw [if_pos hidle, queue?_modifyQueue, if_pos rfl] at hq'
    obtain ⟨q₀, -, rfl⟩ := Option.map_eq_some_iff.mp hq'
    rfl

/-- The current task of a queue that is marked is given up at once. -/
theorem still_markQueue (hok : ProcessorOk w) {q : TaskQueue} (hq : w.queue? k = some q)
    (ha : q.currentTask = some a) :
    Still w (prvTaskQueueCancel taskDeleteCb taskCancelCb k { q with deferRemove := true }
      (w.modifyQueue k fun q => { q with deferRemove := true })) := by
  let w₁ := w.modifyQueue k fun q => { q with deferRemove := true }
  let q₁ : TaskQueue := { q with deferRemove := true }
  let w₂ := prvTaskQueueCancel taskDeleteCb taskCancelCb k q₁ w₁
  have hq₁ : w₁.queue? k = some q₁ := by
    rw [queue?_modifyQueue, if_pos rfl, hq]
    rfl
  have hall : Still w₁ w₂ := still_prvTaskQueueCancel k q₁ w₁
  have hcancelled : w₂ = taskCancelCb q.callbacks a ((w₁.emptyQueue k q₁).emit (.cancelled a)) := by
    show prvTaskQueueCancel taskDeleteCb taskCancelCb k q₁ w₁ = _
    rw [prvTaskQueueCancel_eq_emptyQueue, show q₁.currentTask = some a from ha]
  have hlast : Still ((w₁.emptyQueue k q₁).emit (.cancelled a)) w₂ :=
    hcancelled ▸ still_taskCancelCb _ _ _
  obtain ⟨-, -, -, hlive⟩ := (hok.queues k q hq).current a ha
  have hmarked : DevicesStay w w₁ := ⟨rfl, rfl, rfl, rfl, rfl, rfl, rfl, rfl, rfl, id⟩
  refine ⟨⟨hmarked.trans hall.toDevicesStay, hall.records, fun k' q' hq' hdefer => ?_⟩,
    hall.hostService⟩
  rcases hall.queues k' q' hq' hdefer with ⟨q₀, hq₀, hlingers⟩ | hfinishing
  · by_cases hk : k' = k
    · subst hk
      obtain rfl := Option.some.inj (hq₁.symm.trans hq₀)
      refine .inr ⟨?_, fun b t' hb ht' hbegun hasync => ?_⟩
      · rcases hlast.queues k' q' hq' hdefer with ⟨q₂, hq₂, hlingers₂⟩ | hfinishing
        · exact hlingers₂.idleId (idleId_emptyQueue hq₁ hq₂ hlingers₂.deferRemove)
        · exact hfinishing.1
      · obtain rfl : a = b := Option.some.inj (ha.symm.trans (hlingers.currentTask b hb))
        cases hcs : q.callbacks with
        | client =>
            rcases hlast.records a t' ht' with ⟨t, ht, -⟩ | hfresh
            · have hrecord : (taskCancelCb q.callbacks a
                  ((w₁.emptyQueue k' q₁).emit (.cancelled a))).tasks a = some (.client t') := by
                rw [← hcancelled]
                exact ht'
              rw [hcs] at hrecord
              exact rsuTaskCancel_givenUp ht hrecord hbegun hasync
            · exact absurd hfresh.1 hbegun
        | service =>
            rw [hcs] at hlive
            obtain ⟨t₀, ht₀⟩ := TaskCallbacks.live_service hlive
            rcases hall.records a t' ht' with ⟨t, ht, -⟩ | hfresh
            · exact absurd (ht₀.symm.trans ht) (by simp)
            · exact absurd hfresh.1 hbegun
    · rw [queue?_modifyQueue, if_neg hk] at hq₀
      exact .inl ⟨q₀, hq₀, hlingers⟩
  · exact .inr hfinishing

theorem still_prvFreeQueueFor (hok : ProcessorOk w) (hit : TaskQueueKey → Bool) (k : TaskQueueKey) :
    Still w (prvFreeQueueFor taskDeleteCb taskCancelCb hit k w) := by
  unfold prvFreeQueueFor
  split
  · exact .refl
  next q hq =>
    split
    · by_cases hsome : q.currentTask.isSome = true
      · obtain ⟨a, ha⟩ := Option.isSome_iff_exists.mp hsome
        simp only [hsome, if_true]
        exact still_markQueue hok hq ha
      · simp only [Bool.not_eq_true] at hsome
        have hunmarked : Still w (w.modifyQueue k fun q => { q with deferRemove := false }) :=
          still_modifyQueue w k fun q _ hdefer => absurd hdefer (by simp)
        simp only [hsome, Bool.false_eq_true, if_false]
        exact hunmarked.trans ((still_prvTaskQueueCancel k _ _).trans (still_removeQueue k _))
    · exact .refl

theorem prvFreeQueueFor_processorOk (hok : ProcessorOk w) (hit : TaskQueueKey → Bool)
    (k : TaskQueueKey) : ProcessorOk (prvFreeQueueFor taskDeleteCb taskCancelCb hit k w) :=
  (prvFreeQueueFor_run (D := localSteps fun _ => True) localSteps_local.cancels hit hok
    fun _ => trivial).inv hok

theorem still_rsuTaskProcessorRemoveQueuesForSource (source : String) (hok : ProcessorOk w) :
    Still w (rsuTaskProcessorRemoveQueuesForSource taskDeleteCb taskCancelCb source w) :=
  Still.foldl (I := ProcessorOk) (fun _ k _ hok =>
    ⟨prvFreeQueueFor_processorOk hok _ k, still_prvFreeQueueFor hok _ k⟩) hok

theorem still_rsuTaskProcessorRemoveQueuesForSink (sink : String) (hok : ProcessorOk w) :
    Still w (rsuTaskProcessorRemoveQueuesForSink taskDeleteCb taskCancelCb sink w) :=
  Still.foldl (I := ProcessorOk) (fun _ k _ hok =>
    ⟨prvFreeQueueFor_processorOk hok _ k, still_prvFreeQueueFor hok _ k⟩) hok

end RendererService
