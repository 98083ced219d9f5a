import RendererService.Service.Departures

/-!
# Connections

What a step of the process does to the contexts of devices, to their
subscriptions and to their timers.  Each step is a sequence of a few changes,
and subscribes the services of at most one context.
-/

namespace RendererService

open Transition

variable {w w' w'' : World} {d : Nat} {i : Input} {handled : Option Nat}

/-! ## Contexts that stay -/

/-- No context changes, and nothing that is connected to one. -/
structure ContextsStay (w w' : World) : Prop where
  devices : w'.devices = w.devices
  proxies : w'.gupnp.proxies = w.gupnp.proxies
  nextContext : w'.gupnp.nextContext = w.gupnp.nextContext
  notifies : w'.gupnp.notifies = w.gupnp.notifies
  lostHandlers : w'.gupnp.lostHandlers = w.gupnp.lostHandlers
  subscriptions : w'.gupnp.subscriptions = w.gupnp.subscriptions
  retryTimers : w'.loop.retryTimers = w.loop.retryTimers
  subscribeTimers : w'.loop.subscribeTimers = w.loop.subscribeTimers
  counter : w.upnp.counter ≤ w'.upnp.counter

namespace ContextsStay

theorem refl : ContextsStay w w := ⟨rfl, rfl, rfl, rfl, rfl, rfl, rfl, rfl, Nat.le_refl _⟩

theorem trans (h : ContextsStay w w') (h' : ContextsStay w' w'') : ContextsStay w w'' where
  devices := h'.devices.trans h.devices
  proxies := h'.proxies.trans h.proxies
  nextContext := h'.nextContext.trans h.nextContext
  notifies := h'.notifies.trans h.notifies
  lostHandlers := h'.lostHandlers.trans h.lostHandlers
  subscriptions := h'.subscriptions.trans h.subscriptions
  retryTimers := h'.retryTimers.trans h.retryTimers
  subscribeTimers := h'.subscribeTimers.trans h.subscribeTimers
  counter := Nat.le_trans h.counter h'.counter

end ContextsStay

theorem DevicesStay.contexts (h : DevicesStay w w') : ContextsStay w w' :=
  ⟨h.devices, h.proxies, h.nextContext, h.notifies, h.lostHandlers, h.subscriptions,
    h.retryTimers, h.subscribeTimers, Nat.le_of_eq (congrArg Upnp.counter h.upnp).symm⟩

theorem contextsStay_crash (w : World) (f : Fault) : ContextsStay w (w.crash f) :=
  ⟨rfl, rfl, rfl, rfl, rfl, rfl, rfl, rfl, Nat.le_refl _⟩

theorem contextsStay_setUdnMap (w : World) (t : Assoc.Table String Nat) :
    ContextsStay w (w.setUdnMap t) :=
  ⟨rfl, rfl, rfl, rfl, rfl, rfl, rfl, rfl, Nat.le_refl _⟩

theorem contextsStay_setUcMap (w : World) (t : Assoc.Table String DeviceNewCt) :
    ContextsStay w (w.setUcMap t) :=
  ⟨rfl, rfl, rfl, rfl, rfl, rfl, rfl, rfl, Nat.le_refl _⟩

/-! ## Changes -/

/-- The context whose services `prv_device_subscribe_context` subscribes. -/
def Device.attempt (dev : Device) : Option DeviceContext :=
  match rsuDeviceGetContext dev, prvDeviceGetSubscribedContext dev with
  | some preferred, some subscribed =>
      if subscribed.id = preferred.id then none else some preferred
  | preferred, _ => preferred

def World.attempt (w : World) (d : Nat) : Option (Nat × DeviceContext) :=
  ((w.devices d).bind Device.attempt).map fun context => (d, context)

inductive ConnectAct
  | stay
  /-- a device is made, with its first context -/
  | construct (d : Nat) (ipAddress : String) (offered : DeviceServices)
  /-- a device gets another context -/
  | extend (d : Nat) (ipAddress : String) (offered : DeviceServices)
  /-- the last step but one of a construction -/
  | settle (d : Nat)
  /-- the one-second timer of a device -/
  | fire (id d : Nat)
  | remove (d : Nat) (context : DeviceContext)
  | later (d : Nat)
  | lose (proxy : ServiceProxy)
  | expire (r : ProxyHandler)
  | unsubscribe (d : Nat)
  | delete (d : Nat)
  | declare (d : Nat)

/-- The context whose services the change subscribes, with its device. -/
def ConnectAct.attempt? (w : World) : ConnectAct → Option (Nat × DeviceContext)
  | .extend d ipAddress offered => (prvDeviceAppendNewContext d ipAddress offered w).attempt d
  | .settle d => w.attempt d
  | .fire _ d => ((w.devices d).bind rsuDeviceGetContext).map fun context => (d, context)
  | _ => none

def World.blankDevice (w : World) (d : Nat) : World :=
  w.setDevice d (some { path := rsuServerPath ++ "/" ++ toString d })

inductive Connects (w : World) : ConnectAct → World → Prop
  | stay {w' : World} : ContextsStay w w' → Connects w .stay w'
  | construct {d : Nat} (ipAddress : String) (offered : DeviceServices) :
      w.devices d = none → w.upnp.counter ≤ d →
      Connects w (.construct d ipAddress offered)
        (prvDeviceAppendNewContext d ipAddress offered (w.blankDevice d))
  | extend {d : Nat} {dev : Device} (ipAddress : String) (offered : DeviceServices) :
      w.devices d = some dev →
      Connects w (.extend d ipAddress offered) (rsuDeviceAppendNewContext d ipAddress offered w)
  | settle (d : Nat) : Connects w (.settle d) (prvDeviceSubscribeContext d w)
  | fire {id d : Nat} : (id, d) ∈ w.loop.subscribeTimers →
      Connects w (.fire id d) (exec w (.subscribeTimer id d))
  | remove {d : Nat} {dev : Device} {context : DeviceContext} {ipAddress : String} :
      w.devices d = some dev →
      (dev.contexts.find? fun context => context.ipAddress = ipAddress) = some context →
      Connects w (.remove d context) (w.removeContext d dev context ipAddress)
  | later {d : Nat} {dev : Device} : w.devices d = some dev → dev.timeoutId = 0 →
      0 < w.loop.nextSource → Connects w (.later d) (subscribeLater d w)
  | lose (proxy : ServiceProxy) : Connects w (.lose proxy) (exec w (.subscriptionLost proxy))
  | expire {r : ProxyHandler} : r ∈ w.loop.retryTimers →
      Connects w (.expire r) (exec w (.retryTimer r))
  | unsubscribe (d : Nat) : Connects w (.unsubscribe d) (rsuDeviceUnsubscribe d w)
  | delete {d : Nat} {dev : Device} : w.devices d = some dev →
      Connects w (.delete d) (rsuDeviceDelete d w)
  | declare {d : Nat} {dev : Device} (ids : List Nat) : w.devices d = some dev →
      Connects w (.declare d) (w.setDevice d (some { dev with ids := ids }))

def connections (w₀ : World) : System World ConnectAct where
  init w := w = w₀
  step := Connects

/-! ## Steps -/

def World.nextService (w : World) (k : TaskQueueKey) : Option ServiceTask :=
  (w.queue? k).bind fun q => q.tasks.head?.bind fun a =>
    match w.tasks a with
    | some (.service t) => some t
    | _ => none

/-- The context whose services the input subscribes, with its device. -/
def Input.attempt? (w : World) : Input → Option (Nat × DeviceContext)
  | .available udn ipAddress offered =>
      (w.upnp.find udn).bind fun found =>
        (w.devices found.1).bind fun dev =>
          if dev.contexts.any fun context => context.ipAddress = ipAddress then none
          else (prvDeviceAppendNewContext found.1 ipAddress offered w).attempt found.1
  | .processIdle _ k _ =>
      (w.nextService k).bind fun t =>
        if t.tAction = .prvSubscribe then w.attempt t.device else none
  | .subscribeTimer _ d =>
      ((w.devices d).bind rsuDeviceGetContext).map fun context => (d, context)
  | _ => none

/-- The change belongs to the step of the input from `w₀`: it subscribes nothing
but what the input subscribes, before anything else changed, and a timer only
fires if the input says so. -/
def Input.Due (i : Input) (w₀ w : World) (act : ConnectAct) : Prop :=
  (act.attempt? w = none ∨ act.attempt? w = i.attempt? w₀ ∧ ContextsStay w₀ w) ∧
    ∀ id d, act = .fire id d → i = .subscribeTimer id d

def Input.Connected (i : Input) (w w' : World) : Prop :=
  ∃ acts, ((connections w).restrict (i.Due w)).Reaches acts w'

namespace Input.Connected

theorem refl : i.Connected w w := ⟨[], .init rfl⟩

theorem step {act : ConnectAct} (h : i.Connected w w') (hdue : i.Due w w' act)
    (hstep : Connects w' act w'') : i.Connected w w'' := by
  obtain ⟨acts, hacts⟩ := h
  exact ⟨_, hacts.step ⟨hdue, hstep⟩⟩

theorem quietly {act : ConnectAct} (h : i.Connected w w') (hattempt : act.attempt? w' = none)
    (hfire : ∀ id d, act ≠ .fire id d) (hstep : Connects w' act w'') : i.Connected w w'' :=
  h.step ⟨.inl hattempt, fun id d heq => absurd heq (hfire id d)⟩ hstep

theorem stay (h : i.Connected w w') (hstay : ContextsStay w' w'') : i.Connected w w'' :=
  h.quietly rfl (fun _ _ => by simp) (.stay hstay)

theorem of_stay (hstay : ContextsStay w w') : i.Connected w w' := refl.stay hstay

theorem of_still (h : Still w w') : i.Connected w w' := of_stay h.toDevicesStay.contexts

end Input.Connected

/-! ### Discovery -/

theorem connected_rsuDeviceDelete {w₀ : World} (h : i.Connected w₀ w) (d : Nat) :
    i.Connected w₀ (rsuDeviceDelete d w) := by
  cases hdev : w.devices d with
  | some dev => exact h.quietly rfl (fun _ _ => by simp) (.delete hdev)
  | none =>
      have hcrash : rsuDeviceDelete d w = w.crash (.deadDevice d) := by
        simp only [rsuDeviceDelete, World.withDevice, hdev]
      rw [hcrash]
      exact h.stay (contextsStay_crash w _)

/-- A construction makes a device with one context, and queues its tasks. -/
theorem connected_prvServerConstruct (udn ipAddress : String) (offered : DeviceServices)
    (h : ServiceOk handled w) (hr : RegistryOk w) :
    i.Connected w (prvServerConstruct udn ipAddress offered w) := by
  have hopened := still_openedQueue w udn
  have hnone : (w.openedQueue udn).devices w.upnp.counter = none := by
    by_contra hne
    obtain ⟨dev, hdev⟩ := Option.ne_none_iff_exists'.mp hne
    exact Nat.lt_irrefl _ (hr.maps.bound _ (alive_of_device (w := w) hdev))
  have hconstruct : i.Connected w (w.openConstruction udn ipAddress offered) :=
    (Input.Connected.of_still hopened).quietly rfl (fun _ _ => by simp)
      (.construct ipAddress offered hnone (Nat.le_refl _))
  have hqueued := hconstruct.stay (still_queueConstruction udn ipAddress offered
    (gupnpDeviceInfoGetServices w.gupnp.nextContext offered).cmProxy).toDevicesStay.contexts
  rw [prvServerConstruct_eq udn ipAddress offered h.outer.keys.newKey]
  have hcounter : (w.openConstruction udn ipAddress offered).upnp.counter = w.upnp.counter :=
    congrArg Upnp.counter (gains_openConstruction udn ipAddress offered).upnp
  refine hqueued.stay ⟨rfl, rfl, rfl, rfl, rfl, rfl, rfl, rfl, ?_⟩
  show (w.openConstruction udn ipAddress offered).upnp.counter ≤ w.upnp.counter + 1
  omega

theorem connected_prvServerAvailableCb (udn ipAddress : String) (offered : DeviceServices)
    (h : ServiceOk handled w) (hr : RegistryOk w) :
    (Input.available udn ipAddress offered).Connected w
      (prvServerAvailableCb udn ipAddress offered w) := by
  cases arrival udn ipAddress offered w with
  | unknown _ heq =>
      rw [heq]
      exact connected_prvServerConstruct udn ipAddress offered h hr
  | dangling _ _ heq =>
      rw [heq]
      exact .of_stay (contextsStay_crash w _)
  | present _ _ _ heq =>
      rw [heq]
      exact .refl
  | extended hfind hdev hnew heq =>
      rw [heq]
      refine Input.Connected.refl.step ⟨.inr ⟨?_, .refl⟩, fun _ _ => by simp⟩ (.extend _ _ hdev)
      simp only [Input.attempt?, hfind, Option.bind_some, hdev, if_neg hnew]
      rfl

theorem connected_prvServerLost (udn p : String) (uc : Option DeviceNewCt) {w₀ : World}
    (hconnected : i.Connected w₀ w) (h : ServiceOk handled w) :
    i.Connected w₀ (prvServerLost udn d p uc w) := by
  cases uc with
  | some ct =>
      exact hconnected.stay (still_rsuTaskProcessorCancelQueue ct.queueId w).toDevicesStay.contexts
  | none =>
      let w₁ := prvLostMediaServer p w
      let w₂ := w₁.setUdnMap (w₁.upnp.serverUdnMap.erase udn)
      have hemit : ServiceOk handled (w.emit (.lostServer p)) := h.backstage (backstage_emit rfl)
      have hlost : Still w w₁ :=
        (still_emit w _).trans (still_rsuTaskProcessorRemoveQueuesForSink p hemit.processor)
      have hmap : i.Connected w₀ w₂ :=
        (hconnected.stay hlost.toDevicesStay.contexts).stay (contextsStay_setUdnMap w₁ _)
      exact connected_rsuDeviceDelete hmap d

theorem connected_prvServerUnavailableCb (udn ipAddress : String) (h : ServiceOk handled w) :
    (Input.unavailable udn ipAddress).Connected w (prvServerUnavailableCb udn ipAddress w) := by
  have hremoved : ∀ {d uc dev context}, w.Departing udn ipAddress d uc dev context →
      (Input.unavailable udn ipAddress).Connected w (w.removeContext d dev context ipAddress) :=
    fun hdeparting => Input.Connected.refl.quietly rfl (fun _ _ => by simp)
      (.remove hdeparting.device hdeparting.context)
  cases departure udn ipAddress w with
  | ignored _ heq =>
      rw [heq]
      exact .refl
  | dangling _ _ heq =>
      rw [heq]
      exact .of_stay (contextsStay_crash w _)
  | @last d uc dev context hdeparting _ heq =>
      rw [heq]
      exact connected_prvServerLost udn dev.path uc (hremoved hdeparting) (h.departing hdeparting)
  | @later d _ dev context hdeparting _ htimer heq =>
      rw [heq]
      obtain ⟨dev₁, hdev₁, hid⟩ :=
        Option.map_eq_some_iff.mp (timeoutId_removeContext w d dev context ipAddress)
      exact (hremoved hdeparting).quietly rfl (fun _ _ => by simp)
        (.later hdev₁ (hid.trans htimer.2) (h.departing hdeparting).processor.source)
  | other hdeparting _ _ heq =>
      rw [heq]
      exact hremoved hdeparting

theorem connected_prvTaskQueueFinallyCb {w₀ : World} (q : TaskQueue) (h : i.Connected w₀ w) :
    i.Connected w₀ (prvTaskQueueFinallyCb q w) := by
  unfold prvTaskQueueFinallyCb
  split
  next ct _ =>
    let w₁ := w.emit (.chainEnd q.cancelled ct.udn)
    have hend : i.Connected w₀ w₁ := h.stay (still_emit w _).toDevicesStay.contexts
    unfold prvDeviceChainEnd
    dsimp only
    split
    · exact connected_rsuDeviceDelete (hend.stay (contextsStay_setUcMap w₁ _)) ct.device
    · have hinsert : i.Connected w₀ (serverUdnMapInsert ct.udn ct.device w₁) := by
        have hmap := hend.stay (contextsStay_setUdnMap w₁
          (w₁.upnp.serverUdnMap.insert ct.udn ct.device))
        unfold serverUdnMapInsert
        split
        · exact connected_rsuDeviceDelete hmap _
        · exact hmap
      unfold World.withDevice
      split
      · exact (hinsert.stay (still_emit _ _).toDevicesStay.contexts).stay
          (contextsStay_setUcMap _ _)
      · exact hend.stay (contextsStay_crash w₁ _)
  · exact h.stay (contextsStay_crash w _)

/-! ### Leaving -/

theorem connected_rsuUpnpUnsubscribe {w₀ : World} (h : i.Connected w₀ w) :
    i.Connected w₀ (rsuUpnpUnsubscribe w) := by
  unfold rsuUpnpUnsubscribe
  generalize w.upnp.serverUdnMap.entries = l
  induction l generalizing w with
  | nil => exact h
  | cons e l ih => exact ih (h.quietly rfl (fun _ _ => by simp) (.unsubscribe e.2))

theorem connected_deleteUpnp (w : World) : i.Connected w w.deleteUpnp := by
  have hdelete : ∀ (l : List (Sigma fun _ : String => Nat)) (w' : World), i.Connected w w' →
      i.Connected w (l.foldl (fun w e => rsuDeviceDelete e.2 w) w') := by
    intro l
    induction l with
    | nil => exact fun w' h => h
    | cons e l ih => exact fun w' h => ih _ (connected_rsuDeviceDelete h e.2)
  have hmap : i.Connected w
      ((w.setHostService (rsuHostServiceDelete w.upnp.hostService)).setUdnMap ∅) :=
    .of_stay ⟨rfl, rfl, rfl, rfl, rfl, rfl, rfl, rfl, Nat.le_refl _⟩
  exact (hdelete w.upnp.serverUdnMap.entries _ hmap).stay
    ⟨rfl, rfl, rfl, rfl, rfl, rfl, rfl, rfl, Nat.le_refl _⟩

theorem connected_contextFree (w : World) : i.Connected w (exec w .contextFree) := by
  let w₁ := w.deleteUpnp
  have hempty : Still w₁ (w₁.setQueues ∅) := still_setQueues w₁ fun k q hq => by
    have hnone : (∅ : Assoc.Table TaskQueueKey TaskQueue).lookup k = none := AList.lookup_empty k
    rw [hnone] at hq
    simp at hq
  have hqueues : ∀ l : List (Sigma fun _ : TaskQueueKey => TaskQueue), Still (w₁.setQueues ∅)
      (l.foldl (fun w e => prvTaskQueueFreeCb taskDeleteCb e.2 w) (w₁.setQueues ∅)) :=
    still_foldl fun w e => still_prvTaskQueueFreeCb e.2 w
  have hfree : Still w₁ (rsuTaskProcessorFree taskDeleteCb w₁) := hempty.trans (hqueues _)
  have hdone := (connected_deleteUpnp (i := i) w).stay hfree.toDevicesStay.contexts
  exact hdone.stay ⟨rfl, rfl, rfl, rfl, rfl, rfl, rfl, rfl, Nat.le_refl _⟩

/-! ### Tasks -/

theorem contextsStay_modifyClient (a : TaskAtom) (f : ClientTask → ClientTask) (w : World) :
    ContextsStay w (w.modifyClient a f) := by
  unfold World.modifyClient World.withClient
  split
  · exact ⟨rfl, rfl, rfl, rfl, rfl, rfl, rfl, rfl, Nat.le_refl _⟩
  · exact contextsStay_crash w _

theorem contextsStay_beginAction (proxy : Option ServiceProxy) (name : String)
    (callback : ActionCallback) (a : TaskAtom) (w : World) :
    ContextsStay w (gupnpServiceProxyBeginAction proxy name callback a w).2 := by
  unfold gupnpServiceProxyBeginAction
  split
  · exact .refl
  · exact ⟨rfl, rfl, rfl, rfl, rfl, rfl, rfl, rfl, Nat.le_refl _⟩

theorem Command.contextsStay {path : String} {a : TaskAtom} (h : Command path a w w') :
    ContextsStay w w' := by
  cases h with
  | complete hs hf =>
      have hset : ContextsStay w (w.setHostService hs) :=
        ⟨rfl, rfl, rfl, rfl, rfl, rfl, rfl, rfl, Nat.le_refl _⟩
      exact (hset.trans (contextsStay_modifyClient a _ _)).trans
        ⟨rfl, rfl, rfl, rfl, rfl, rfl, rfl, rfl, Nat.le_refl _⟩
  | @begin d kind name callback localCb hd hcallback =>
      unfold beginCommand
      rcases withContext_cases w d with ⟨f, -, hcrash⟩ | ⟨dev, context, hdev, hcontext⟩
      · rw [hcrash]
        exact contextsStay_crash w f
      · simp only [World.withContext, World.withDevice, hdev, hcontext]
        exact (contextsStay_modifyClient a _ w).trans
          ((contextsStay_beginAction _ name callback a _).trans (contextsStay_modifyClient a _ _))
  | crash hd hall hf => exact contextsStay_crash w _

theorem ContextsStay.attempt (h : ContextsStay w w') (d : Nat) : w'.attempt d = w.attempt d := by
  unfold World.attempt
  rw [h.devices]

/-- A step of a construction subscribes the device, declares it, or neither. -/
theorem connected_rsuServiceTaskProcessCb {w₀ : World} {a : TaskAtom} {t : ServiceTask}
    (env : Environment) (hstay : ContextsStay w₀ w) (ht : w.tasks a = some (.service t))
    (hattempt : t.tAction = .prvSubscribe → i.attempt? w₀ = w₀.attempt t.device) :
    i.Connected w₀ (rsuServiceTaskProcessCb (serviceTaskAction env) a w) := by
  have haction : i.Connected w₀ (serviceTaskAction env t.tAction t a w).2.2 := by
    cases htAction : t.tAction with
    | prvGetProtocolInfo =>
        exact .of_stay (hstay.trans (contextsStay_beginAction _ _ _ a w))
    | prvSubscribe =>
        refine (Input.Connected.of_stay hstay).step ⟨.inr ⟨?_, hstay⟩, fun _ _ => by simp⟩
          (.settle t.device)
        rw [hattempt htAction]
        exact hstay.attempt t.device
    | prvDeclare =>
        have hsame : i.Connected w₀ w := .of_stay hstay
        simp only [serviceTaskAction, prvDeclare]
        unfold World.withDevice
        split
        next dev hdev => exact hsame.quietly rfl (fun _ _ => by simp) (.declare _ hdev)
        · exact hsame.stay (contextsStay_crash w _)
  unfold rsuServiceTaskProcessCb World.withService
  rw [ht]
  have hset := still_setTask (serviceTaskAction env t.tAction t a w).2.2 a
    (r := some (.service { t with pAction := (serviceTaskAction env t.tAction t a w).1 })) (by simp)
  have hdone := haction.stay hset.toDevicesStay.contexts
  dsimp only
  split
  · exact hdone.stay (still_rsuTaskProcessorCancelQueue _ _).toDevicesStay.contexts
  · split
    · exact hdone.stay (still_rsuTaskQueueTaskCompleted _ _).toDevicesStay.contexts
    · exact hdone

theorem connected_processIdle {id : Nat} {k : TaskQueueKey} (env : Environment)
    (h : ServiceOk handled w) (hh : HoldersOk w) (hidle : (id, k) ∈ w.loop.processIdles) :
    (Input.processIdle id k env).Connected w (exec w (.processIdle id k env)) := by
  obtain ⟨q, a, rest, hq, rfl, hne, hcons, rfl, heq⟩ :=
    prvTaskQueueProcessTask_dispatch env h.processor hidle
  let w₁ := (w.sourceRemoveProcess q.idleId).dispatchTask a.queueId a rest
  have hunmarked : q.deferRemove = false := by
    by_contra hdefer
    exact hne (hh.clients.deferred _ q hq (by simpa using hdefer)).1
  have hstill : Still w w₁ := (still_sourceRemoveProcess w q.idleId).trans
    (still_dispatchTask (w := w.sourceRemoveProcess q.idleId) hq hunmarked a rest)
  have hexec : exec w (.processIdle q.idleId a.queueId env) = taskProcessCb env q.callbacks a w₁ :=
    heq
  have hfresh := (h.processor.queues _ q hq).fresh a (hcons ▸ List.mem_cons_self)
  rw [hexec]
  cases hcs : q.callbacks with
  | service =>
      rw [hcs] at hfresh
      obtain ⟨t, ht⟩ := TaskCallbacks.live_service hfresh.live
      refine connected_rsuServiceTaskProcessCb env hstill.toDevicesStay.contexts ht
        fun haction => ?_
      have hnext : w.nextService a.queueId = some t := by
        simp only [World.nextService, hq, Option.bind_some, hcons, List.head?_cons, ht]
      simp only [Input.attempt?, hnext, Option.bind_some, if_pos haction]
  | client =>
      rw [hcs] at hfresh
      obtain ⟨t, ht⟩ := TaskCallbacks.live_client hfresh.live
      have ht₁ : w₁.tasks a = some (.client t) := ht
      have hsame : Input.Connected (.processIdle q.idleId a.queueId env) w w₁ := .of_still hstill
      show Input.Connected _ w (prvProcessTask env a w₁)
      simp only [prvProcessTask, World.withClient, ht₁]
      split
      · exact hsame.stay (still_prvProcessSyncTask a w₁).toDevicesStay.contexts
      next hsync =>
        have htype : t.type.isAsync = true := by
          have hsuits := (h.outer.requests a t ht).1
          simpa [show t.synchronous = false by simpa using hsync] using hsuits
        exact (hsame.stay (contextsStay_modifyClient a _ w₁)).stay
          (prvProcessAsyncTask_command env ht₁ htype).contextsStay

/-! ### Inputs -/

/-- Every step is a sequence of changes that the input accounts for. -/
theorem exec_connected (h : ServiceOk none w) (hr : RegistryOk w) (hh : HoldersOk w)
    (henabled : i.enabled w = true) : i.Connected w (exec w i) := by
  by_cases hi : i.isOutside = true
  · exact .of_stay (exec_apart h.processor hi).toDevicesStay.contexts
  · cases i with
    | reply action env =>
        have hmem : action ∈ w.gupnp.actions := by simp_all [Input.enabled]
        exact .of_still (still_actionReply h hr hh.clients hmem env)
    | processIdle id k env =>
        have hmem : (id, k) ∈ w.loop.processIdles := by simp_all [Input.enabled]
        exact connected_processIdle env h hh hmem
    | completeIdle a =>
        have hmem : a ∈ w.loop.completeIdles := by simp_all [Input.enabled]
        exact .of_stay (completeIdle_goOn h hmem).1.contexts
    | available udn ipAddress offered =>
        exact connected_prvServerAvailableCb udn ipAddress offered h hr
    | unavailable udn ipAddress => exact connected_prvServerUnavailableCb udn ipAddress h
    | finallyIdle q =>
        exact connected_prvTaskQueueFinallyCb q (.of_stay
          ⟨rfl, rfl, rfl, rfl, rfl, rfl, rfl, rfl, Nat.le_refl _⟩)
    | subscribeTimer id d =>
        have hmem : (id, d) ∈ w.loop.subscribeTimers := by simp_all [Input.enabled]
        refine Input.Connected.refl.step ⟨.inr ⟨rfl, .refl⟩, fun id' d' heq => ?_⟩ (.fire hmem)
        obtain ⟨rfl, rfl⟩ := ConnectAct.fire.inj heq
        rfl
    | notify proxy =>
        rw [notify_eq hh proxy]
        exact .refl
    | subscriptionLost proxy =>
        exact Input.Connected.refl.quietly rfl (fun _ _ => by simp) (.lose proxy)
    | retryTimer r =>
        have hmem : r ∈ w.loop.retryTimers := by simp_all [Input.enabled]
        exact Input.Connected.refl.quietly rfl (fun _ _ => by simp) (.expire hmem)
    | quitIdle =>
        have hstart : Input.Connected .quitIdle w
            { w.setLoop { w.loop with quitIdles := w.loop.quitIdles - 1 } with
              context := { w.context with ownerId := false } } :=
          .of_stay ⟨rfl, rfl, rfl, rfl, rfl, rfl, rfl, rfl, Nat.le_refl _⟩
        exact (connected_rsuUpnpUnsubscribe hstart).stay
          ⟨rfl, rfl, rfl, rfl, rfl, rfl, rfl, rfl, Nat.le_refl _⟩
    | rehash queues devices =>
        exact .of_stay ⟨rfl, rfl, rfl, rfl, rfl, rfl, rfl, rfl, Nat.le_refl _⟩
    | contextFree => exact connected_contextFree w
    | _ => exact absurd rfl hi

/-! ## What a change keeps -/

/-- What holds of contexts and of what is connected to them. -/
structure ContextsOk (w : World) : Prop where
  devices : DevicesOk w
  attached : AttachedOk w

theorem gains_blankDevice (w : World) (d : Nat) (ipAddress : String) (offered : DeviceServices) :
    Gains d ⟨rsuServerPath ++ "/" ++ toString d, []⟩ (w.newContext ipAddress offered)
      (w.blankDevice d) (prvDeviceAppendNewContext d ipAddress offered (w.blankDevice d)) :=
  gains_prvDeviceAppendNewContext ipAddress offered
    ((core_setDevice w d _ d).trans (if_pos rfl))

theorem ContextsOk.connects {act : ConnectAct} (h : ContextsOk w) (hstep : Connects w act w') :
    ContextsOk w' := by
  cases hstep with
  | stay hstay =>
      have hcore : ∀ e, w'.core e = w.core e := fun e => by rw [World.core, hstay.devices]; rfl
      exact ⟨h.devices.congr hstay.proxies hstay.nextContext hcore, h.attached.congr hstay.devices
        hstay.notifies hstay.lostHandlers hstay.retryTimers hstay.subscribeTimers⟩
  | @construct d ipAddress offered hd _ =>
      have hdev :
          (w.blankDevice d).devices d = some { path := rsuServerPath ++ "/" ++ toString d } :=
        if_pos rfl
      exact ⟨(h.devices.blank d).gains (gains_blankDevice w d ipAddress offered) (.inr rfl) rfl,
        (h.attached.blank hd _).appendContext hdev ipAddress offered⟩
  | @extend d dev ipAddress offered hdev =>
      have hd : w.core d = some dev.core := core_of_device hdev
      exact ⟨h.devices.gains (gains_rsuDeviceAppendNewContext ipAddress offered hd) (.inl hd)
        (h.devices.path d _ hd),
        (h.attached.appendContext hdev ipAddress offered).subscribe_context d⟩
  | settle d =>
      exact ⟨h.devices.cosmetic (cosmetic_prvDeviceSubscribeContext d),
        h.attached.subscribe_context d⟩
  | @fire id d hmem =>
      have htimer : Cosmetic w (w.setSubscribeTimers (w.loop.subscribeTimers.erase (id, d))) :=
        cosmetic_setSubscribeTimers _
      exact ⟨h.devices.cosmetic (htimer.trans (cosmetic_prvSubscribeToServiceChanges d)),
        h.attached.subscribeTimer hmem⟩
  | remove hdev hcontext =>
      exact ⟨h.devices.removeContext hdev hcontext,
        h.attached.removeContext h.devices hdev hcontext⟩
  | later hdev hzero hsource =>
      exact ⟨h.devices.cosmetic (cosmetic_subscribeLater _),
        h.attached.subscribeLater hdev hzero hsource⟩
  | lose proxy =>
      exact ⟨h.devices.cosmetic (cosmetic_subscriptionLost proxy w),
        (h.attached.subscriptionLost h.devices proxy).2⟩
  | @expire r hmem =>
      have htimer : Cosmetic w (w.setRetryTimers (w.loop.retryTimers.erase r)) :=
        cosmetic_setRetryTimers _
      exact ⟨h.devices.cosmetic (htimer.trans (cosmetic_prvReEnableSubscription r)),
        h.attached.reEnable hmem⟩
  | unsubscribe d =>
      refine ⟨h.devices.cosmetic (cosmetic_rsuDeviceUnsubscribe d), ?_⟩
      unfold rsuDeviceUnsubscribe World.withDevice
      split
      next dev _ => exact h.attached.unsubscribe_all d dev.contexts
      · exact h.attached.congr rfl rfl rfl rfl rfl
  | @delete d dev hdev =>
      have hd : w.core d = some dev.core := core_of_device hdev
      exact ⟨h.devices.delete hd, h.attached.delete hdev⟩
  | declare ids hdev =>
      exact ⟨h.devices.cosmetic (cosmetic_setDevice hdev rfl),
        h.attached.setDevice hdev rfl rfl rfl⟩

/-- What every change keeps, relative to what is known of contexts, the step keeps. -/
theorem Input.Connected.keeps {I : World → Prop} (hconnected : i.Connected w w')
    (hok : ContextsOk w) (hI : I w)
    (hstep : ∀ w₁ act w₂, ContextsOk w₁ → I w₁ → i.Due w w₁ act → Connects w₁ act w₂ → I w₂) :
    I w' := by
  obtain ⟨acts, hacts⟩ := hconnected
  have hboth : ContextsOk w' ∧ I w' := by
    refine hacts.invariant (I := fun w => ContextsOk w ∧ I w) (fun w₁ hw => ?_)
      fun w₁ act w₂ h hst => ⟨h.1.connects hst.2, hstep w₁ act w₂ h.1 h.2 hst.1 hst.2⟩
    obtain rfl : w₁ = w := hw
    exact ⟨hok, hI⟩
  exact hboth.2

/-! ## Runs -/

variable {neverQuit : Bool} {is : List Input}

theorem service_connected (hr : (service neverQuit).Reaches is w)
    (henabled : i.enabled w = true) : ContextsOk w ∧ i.Connected w (exec w i) := by
  have hfreed := enabled_freed henabled
  have hok := service_ok hr hfreed
  have hh := service_holdersOk hr hfreed
  exact ⟨⟨hok.outer.devices, hh.attached⟩,
    exec_connected hok (service_registryOk hr hfreed) hh henabled⟩

theorem service_contexts {I : World → Prop} (hr : (service neverQuit).Reaches is w)
    (hinit : I (start neverQuit))
    (hstep : ∀ w act w', ContextsOk w → I w → Connects w act w' → I w') : I w := by
  refine hr.trace_invariant (P := fun _ w => I w) (fun w hw => ?_) fun is w i w' hr hI hst => ?_
  · obtain rfl : w = start neverQuit := hw
    exact hinit
  · obtain ⟨henabled, -, rfl⟩ := stepFn_eq hst
    obtain ⟨hok, hconnected⟩ := service_connected hr henabled
    exact hconnected.keeps hok hI fun w₁ act w₂ hok₁ hI₁ _ => hstep w₁ act w₂ hok₁ hI₁

end RendererService
