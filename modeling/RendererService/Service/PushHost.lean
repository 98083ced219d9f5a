import RendererService.Service.Safety
import RendererService.Host.Urls

/-!
# Push

HostFile and RemoveFile are requests for a device, but what they change is the
host service, which knows the interface of the preferred context and no device.
Every step of the process is a step of the host service, or leaves it alone.
-/

namespace RendererService

open Transition

variable {w w' : World} {a : TaskAtom} {d : Nat} {handled : Option Nat}

/-! ## What a step asks of the host service -/

namespace World

def preferredIf (w : World) (d : Nat) : Option String :=
  (w.devices d).bind fun dev => (rsuDeviceGetContext dev).map fun context => context.ipAddress

def nextRequest (w : World) (k : TaskQueueKey) : Option ClientTask :=
  (w.queue? k).bind fun q => q.tasks.head?.bind fun a =>
    match w.tasks a with
    | some (.client t) => some t
    | _ => none

def device? (w : World) (t : ClientTask) : Option Nat :=
  rsuDeviceFromPath t.path w.upnp.serverUdnMap w

def hostRequest? (w : World) (env : Environment) (t : ClientTask) : Option HostInput :=
  ((w.device? t).bind w.preferredIf).bind fun deviceIf =>
    match t.type with
    | .hostUri uri client => some (.add env.host deviceIf client uri)
    | .removeUri uri client => some (.remove deviceIf client uri)
    | _ => none

end World

def Input.hostInput? (w : World) : Input → Option HostInput
  | .processIdle _ k env => (w.nextRequest k).bind (w.hostRequest? env)
  | .lostClient name => some (.lostClient name)
  | .managerCall sender .release => some (.lostClient sender.name)
  | .soupRequest mapped deviceIf msg => some (.request mapped deviceIf msg)
  | .soupFinished t => some (.finished t)
  | _ => none

def HostsBy (h : HostService) (j : Option HostInput) (h' : HostService) : Prop :=
  match j with
  | none => h' = h
  | some j => hosting.step h j h'

/-! ## Requests that host nothing -/

theorem upnp_modifyClient (a : TaskAtom) (f : ClientTask → ClientTask) (w : World) :
    (w.modifyClient a f).upnp = w.upnp := by
  unfold World.modifyClient World.withClient
  split <;> rfl

theorem upnp_completeWith (a : TaskAtom) (f : ClientTask → ClientTask) (w : World) :
    (completeWith a f w).upnp = w.upnp :=
  upnp_modifyClient a f w

theorem upnp_withContext {f : DeviceContext → World} (hf : ∀ context, (f context).upnp = w.upnp) :
    (w.withContext d f).upnp = w.upnp := by
  rcases withContext_cases w d with ⟨g, -, hcrash⟩ | ⟨dev, context, hdev, hcontext⟩
  · rw [hcrash]
    rfl
  · simp only [World.withContext, World.withDevice, hdev, hcontext]
    exact hf context

theorem upnp_beginCommand (d : Nat) (kind : ServiceKind) (name : String)
    (callback : ActionCallback) (localCb : Option DeviceLocalCb) (a : TaskAtom) (w : World) :
    (beginCommand d kind name callback localCb a w).upnp = w.upnp := by
  refine upnp_withContext fun context => ?_
  dsimp only
  rw [upnp_modifyClient]
  unfold gupnpServiceProxyBeginAction
  split
  · exact upnp_modifyClient a _ w
  · exact upnp_modifyClient a _ w

theorem upnp_withServer {command : Nat → TaskAtom → World → World}
    (hcommand : ∀ d, (command d a w).upnp = w.upnp) : (withServer command a w).upnp = w.upnp := by
  unfold withServer World.withClient
  split
  · dsimp only
    split
    · exact hcommand _
    · exact upnp_completeWith a _ w
  · rfl

theorem upnp_rsuDeviceSetProp (env : Environment) (interfaceName propName : String) (d : Nat)
    (a : TaskAtom) (w : World) :
    (rsuDeviceSetProp env interfaceName propName d a w).upnp = w.upnp := by
  unfold rsuDeviceSetProp
  split
  · exact upnp_completeWith a _ w
  · split
    · exact upnp_completeWith a _ w
    · split
      · exact upnp_completeWith a _ w
      · exact upnp_beginCommand d _ _ _ _ a w

theorem upnp_rsuDeviceGetProp (env : Environment) (interfaceName propName : String) (d : Nat)
    (a : TaskAtom) (w : World) :
    (rsuDeviceGetProp env interfaceName propName d a w).upnp = w.upnp := by
  unfold rsuDeviceGetProp
  split
  · exact upnp_beginCommand d _ _ _ _ a w
  · exact upnp_completeWith a _ w

theorem upnp_rsuDeviceGetAllProps (interfaceName : String) (d : Nat) (a : TaskAtom) (w : World) :
    (rsuDeviceGetAllProps interfaceName d a w).upnp = w.upnp := by
  unfold rsuDeviceGetAllProps
  split
  · exact upnp_beginCommand d _ _ _ _ a w
  · exact upnp_completeWith a _ w

theorem upnp_rsuDevicePlayPause (env : Environment) (d : Nat) (a : TaskAtom) (w : World) :
    (rsuDevicePlayPause env d a w).upnp = w.upnp := by
  unfold rsuDevicePlayPause
  split <;> exact upnp_beginCommand d _ _ _ _ a w

/-! ## HostFile and RemoveFile -/

theorem withServer_none {command : Nat → TaskAtom → World → World} {t : ClientTask}
    (ht : w.tasks a = some (.client t)) (hd : w.device? t = none) :
    (withServer command a w).upnp = w.upnp := by
  have hd' : rsuDeviceFromPath t.path w.upnp.serverUdnMap w = none := hd
  simp only [withServer, World.withClient, ht, hd']
  exact upnp_completeWith a _ w

theorem withServer_some {command : Nat → TaskAtom → World → World} {t : ClientTask}
    (ht : w.tasks a = some (.client t)) (hd : w.device? t = some d) :
    withServer command a w = command d a w := by
  have hd' : rsuDeviceFromPath t.path w.upnp.serverUdnMap w = some d := hd
  simp only [withServer, World.withClient, ht, hd']

theorem withContext_none {f : DeviceContext → World} (hd : w.preferredIf d = none) :
    (w.withContext d f).upnp = w.upnp := by
  rcases withContext_cases w d with ⟨g, -, hcrash⟩ | ⟨dev, context, hdev, hcontext⟩
  · rw [hcrash]
    rfl
  · simp [World.preferredIf, hdev, hcontext] at hd

theorem withContext_preferredIf {deviceIf : String} (hd : w.preferredIf d = some deviceIf) :
    ∃ context, context.ipAddress = deviceIf ∧ ∀ f, w.withContext d f = f context := by
  obtain ⟨dev, hdev, hmap⟩ := Option.bind_eq_some_iff.mp hd
  obtain ⟨context, hcontext, rfl⟩ := Option.map_eq_some_iff.mp hmap
  exact ⟨context, rfl, fun f => by simp only [World.withContext, World.withDevice, hdev, hcontext]⟩

theorem rsuDeviceHostUri_eq {deviceIf : String} (env : Environment) (uri client : String)
    (hd : w.preferredIf d = some deviceIf) :
    rsuDeviceHostUri env uri client d a w =
      completeWith a
        (fun t => t.hosted d (rsuHostServiceAdd env.host deviceIf client uri w.upnp.hostService).1)
        (w.setHostService
          (rsuHostServiceAdd env.host deviceIf client uri w.upnp.hostService).2) := by
  obtain ⟨context, rfl, hcontext⟩ := withContext_preferredIf hd
  exact hcontext _

theorem rsuDeviceRemoveUri_eq {deviceIf : String} (uri client : String)
    (hd : w.preferredIf d = some deviceIf) :
    rsuDeviceRemoveUri uri client d a w =
      completeWith a
        (fun t => t.unhosted d (rsuHostServiceRemove deviceIf client uri w.upnp.hostService).1)
        (w.setHostService (rsuHostServiceRemove deviceIf client uri w.upnp.hostService).2) := by
  obtain ⟨context, rfl, hcontext⟩ := withContext_preferredIf hd
  exact hcontext _

theorem rsuUpnpHostUri_hosts {t : ClientTask} (env : Environment) (uri client : String)
    (ht : w.tasks a = some (.client t)) :
    HostsBy w.upnp.hostService
      (((w.device? t).bind w.preferredIf).bind fun i => some (.add env.host i client uri))
      (rsuUpnpHostUri env uri client a w).upnp.hostService := by
  unfold rsuUpnpHostUri
  cases hd : w.device? t with
  | none => exact congrArg Upnp.hostService (withServer_none ht hd)
  | some d =>
      rw [withServer_some ht hd, Option.bind_some]
      cases hi : w.preferredIf d with
      | none => exact congrArg Upnp.hostService (withContext_none hi)
      | some deviceIf =>
          rw [rsuDeviceHostUri_eq env uri client hi, upnp_completeWith]
          rfl

theorem rsuUpnpRemoveUri_hosts {t : ClientTask} (uri client : String)
    (ht : w.tasks a = some (.client t)) :
    HostsBy w.upnp.hostService
      (((w.device? t).bind w.preferredIf).bind fun i => some (.remove i client uri))
      (rsuUpnpRemoveUri uri client a w).upnp.hostService := by
  unfold rsuUpnpRemoveUri
  cases hd : w.device? t with
  | none => exact congrArg Upnp.hostService (withServer_none ht hd)
  | some d =>
      rw [withServer_some ht hd, Option.bind_some]
      cases hi : w.preferredIf d with
      | none => exact congrArg Upnp.hostService (withContext_none hi)
      | some deviceIf =>
          rw [rsuDeviceRemoveUri_eq uri client hi, upnp_completeWith]
          rfl

/-- The request of a task asks of the host service what it says, and nothing else. -/
theorem prvProcessAsyncTask_hosts {t : ClientTask} (env : Environment)
    (ht : w.tasks a = some (.client t)) :
    HostsBy w.upnp.hostService (w.hostRequest? env t)
      (prvProcessAsyncTask env a w).upnp.hostService := by
  let t₁ : ClientTask := { t with cancellable := some {} }
  let w₁ := w.setTask a (some (.client t₁))
  have hmark : (w.modifyClient a fun t => { t with cancellable := some {} }) = w₁ :=
    modifyClient_eq ht _
  have ht₁ : w₁.tasks a = some (.client t₁) := tasks_setTask _ _ _
  have hquiet : ∀ {command : Nat → TaskAtom → World → World},
      (∀ uri client, t.type ≠ .hostUri uri client ∧ t.type ≠ .removeUri uri client) →
      (∀ d, (command d a w₁).upnp = w₁.upnp) →
      HostsBy w.upnp.hostService (w.hostRequest? env t)
        (withServer command a w₁).upnp.hostService := by
    intro command htype hcommand
    have hnone : w.hostRequest? env t = none := by
      unfold World.hostRequest?
      refine Option.bind_eq_none_iff.mpr fun deviceIf _ => ?_
      split
      next uri client hhost => exact absurd hhost (htype uri client).1
      next uri client hremove => exact absurd hremove (htype uri client).2
      · rfl
    rw [hnone]
    show (withServer command a w₁).upnp.hostService = w.upnp.hostService
    rw [upnp_withServer hcommand]
    rfl
  simp only [prvProcessAsyncTask, World.withClient, ht, hmark]
  cases htype : t.type with
  | getVersion | getServers | raise | quit =>
      simp only [World.hostRequest?, htype]
      cases (w.device? t).bind w.preferredIf <;> rfl
  | getProp i p => exact hquiet (by simp [htype]) fun d => upnp_rsuDeviceGetProp env i p d a w₁
  | getAllProps i => exact hquiet (by simp [htype]) fun d => upnp_rsuDeviceGetAllProps i d a w₁
  | setProp i p => exact hquiet (by simp [htype]) fun d => upnp_rsuDeviceSetProp env i p d a w₁
  | playPause => exact hquiet (by simp [htype]) fun d => upnp_rsuDevicePlayPause env d a w₁
  | play | pause | stop | next | previous | openUri _ | seek _ | setPosition _ | gotoTrack _ =>
      exact hquiet (by simp [htype]) fun d => upnp_beginCommand d _ _ _ _ a w₁
  | hostUri uri client =>
      simp only [World.hostRequest?, htype]
      exact rsuUpnpHostUri_hosts env uri client ht₁
  | removeUri uri client =>
      simp only [World.hostRequest?, htype]
      exact rsuUpnpRemoveUri_hosts uri client ht₁

/-! ## Every step -/

theorem hostService_rsuServiceTaskProcessCb (env : Environment) (a : TaskAtom) (w : World) :
    (rsuServiceTaskProcessCb (serviceTaskAction env) a w).upnp.hostService =
      w.upnp.hostService := by
  have haction : ∀ t : ServiceTask,
      (serviceTaskAction env t.tAction t a w).2.2.upnp = w.upnp := by
    intro t
    cases t.tAction with
    | prvGetProtocolInfo =>
        simp only [serviceTaskAction, prvGetProtocolInfo, gupnpServiceProxyBeginAction]
        split <;> rfl
    | prvSubscribe => exact (cosmetic_prvDeviceSubscribeContext t.device).toOffstage.upnp
    | prvDeclare => exact (cosmetic_prvDeclare env t).toOffstage.upnp
  unfold rsuServiceTaskProcessCb World.withService
  split
  next t ht =>
    let w₁ := (serviceTaskAction env t.tAction t a w).2.2.setTask a
      (some (.service { t with pAction := (serviceTaskAction env t.tAction t a w).1 }))
    have hset : w₁.upnp.hostService = w.upnp.hostService := congrArg Upnp.hostService (haction t)
    dsimp only
    split
    · exact (still_rsuTaskProcessorCancelQueue a.queueId w₁).hostService.trans hset
    · split
      · exact (still_rsuTaskQueueTaskCompleted a.queueId w₁).hostService.trans hset
      · exact hset
  · rfl

theorem hostService_dropClient (name : String) (hok : ProcessorOk w) :
    (w.dropClient name).upnp.hostService = rsuHostServiceLostClient name w.upnp.hostService := by
  let w₁ := rsuTaskProcessorRemoveQueuesForSource taskDeleteCb taskCancelCb name w
  have hqueues : Still w w₁ := still_rsuTaskProcessorRemoveQueuesForSource name hok
  show rsuHostServiceLostClient name w₁.upnp.hostService = _
  rw [hqueues.hostService]

theorem hostService_prvRemoveClient (name : String) (hok : ProcessorOk w) :
    (prvRemoveClient name w).upnp.hostService =
      rsuHostServiceLostClient name w.upnp.hostService := by
  have hlost := hostService_dropClient name hok
  rw [prvRemoveClient_eq]
  split
  · exact (still_rsuTaskProcessorSetQuitting _).hostService.trans hlost
  · exact hlost

theorem hostService_prvServerAvailableCb (udn ipAddress : String) (offered : DeviceServices)
    (h : ServiceOk handled w) :
    (prvServerAvailableCb udn ipAddress offered w).upnp.hostService = w.upnp.hostService := by
  cases arrival udn ipAddress offered w with
  | unknown _ heq =>
      rw [heq, prvServerConstruct_eq udn ipAddress offered h.outer.keys.newKey]
      rfl
  | dangling _ _ heq =>
      rw [heq]
      rfl
  | present _ _ _ heq => rw [heq]
  | extended _ hdev _ heq =>
      rw [heq]
      exact congrArg Upnp.hostService
        (gains_rsuDeviceAppendNewContext ipAddress offered (core_of_device hdev)).toOffstage.upnp

theorem hostService_prvServerLost (udn : String) (d : Nat) (p : String) (uc : Option DeviceNewCt)
    (hok : ProcessorOk w) :
    (prvServerLost udn d p uc w).upnp.hostService = w.upnp.hostService := by
  cases uc with
  | none =>
      let w₁ := prvLostMediaServer p w
      have hemit : ProcessorOk (w.emit (.lostServer p)) := hok.congr rfl rfl rfl rfl rfl rfl rfl
      have hqueues : Still (w.emit (.lostServer p)) w₁ :=
        still_rsuTaskProcessorRemoveQueuesForSink p hemit
      have hdelete := (offstage_rsuDeviceDelete d
        (w₁.setUdnMap (w₁.upnp.serverUdnMap.erase udn))).upnp
      exact (congrArg Upnp.hostService hdelete).trans hqueues.hostService
  | some ct => exact (still_rsuTaskProcessorCancelQueue ct.queueId w).hostService

theorem hostService_prvServerUnavailableCb (udn ipAddress : String) (h : ServiceOk handled w) :
    (prvServerUnavailableCb udn ipAddress w).upnp.hostService = w.upnp.hostService := by
  have hremoved : ∀ d dev (context : DeviceContext),
      (w.removeContext d dev context ipAddress).upnp.hostService = w.upnp.hostService :=
    fun d dev context =>
      congrArg Upnp.hostService (frees_departing w d dev context ipAddress).upnp
  cases departure udn ipAddress w with
  | ignored _ heq => rw [heq]
  | dangling _ _ heq =>
      rw [heq]
      rfl
  | @last d uc dev context hdeparting _ heq =>
      rw [heq]
      have hok := (h.departing hdeparting).processor
      exact (hostService_prvServerLost udn d dev.path uc hok).trans (hremoved d dev context)
  | @later d _ dev context _ _ _ heq =>
      rw [heq]
      have htimer := (cosmetic_subscribeLater (w := w.removeContext d dev context ipAddress) d).upnp
      exact (congrArg Upnp.hostService htimer).trans (hremoved d dev context)
  | other _ _ _ heq =>
      rw [heq]
      exact hremoved _ _ _

theorem hostService_prvTaskQueueFinallyCb (q : TaskQueue) (w : World) :
    (prvTaskQueueFinallyCb q w).upnp.hostService = w.upnp.hostService := by
  unfold prvTaskQueueFinallyCb
  split
  next ct _ =>
    let w₁ := w.emit (.chainEnd q.cancelled ct.udn)
    unfold prvDeviceChainEnd
    dsimp only
    split
    · have hdelete := (offstage_rsuDeviceDelete ct.device
        (w₁.setUcMap (w₁.upnp.serverUcMap.erase ct.udn))).upnp
      exact (congrArg Upnp.hostService hdelete).trans rfl
    · have hinsert : (serverUdnMapInsert ct.udn ct.device w₁).upnp.hostService =
          w.upnp.hostService := by
        unfold serverUdnMapInsert
        split
        next old _ =>
          have hdelete := (offstage_rsuDeviceDelete old
            (w₁.setUdnMap (w₁.upnp.serverUdnMap.insert ct.udn ct.device))).upnp
          exact (congrArg Upnp.hostService hdelete).trans rfl
        · rfl
      unfold World.withDevice
      split
      · exact hinsert
      · rfl
  · rfl

/-- The task that a queue hands over is that of its next request. -/
theorem processIdle_hosts {id : Nat} {k : TaskQueueKey} (env : Environment)
    (h : ServiceOk handled w) (hidle : (id, k) ∈ w.loop.processIdles) :
    HostsBy w.upnp.hostService (Input.hostInput? w (.processIdle id k env))
      (exec w (.processIdle id k env)).upnp.hostService := by
  obtain ⟨q, a, rest, hq, rfl, hne, hcons, rfl, heq⟩ :=
    prvTaskQueueProcessTask_dispatch env h.processor hidle
  let w₁ := (w.sourceRemoveProcess q.idleId).dispatchTask a.queueId a rest
  have hexec : exec w (.processIdle q.idleId a.queueId env) = taskProcessCb env q.callbacks a w₁ :=
    heq
  have hfresh := (h.processor.queues _ q hq).fresh a (hcons ▸ List.mem_cons_self)
  rw [hexec]
  cases hcs : q.callbacks with
  | service =>
      rw [hcs] at hfresh
      obtain ⟨t, ht⟩ := TaskCallbacks.live_service hfresh.live
      have hnext : w.nextRequest a.queueId = none := by
        simp only [World.nextRequest, hq, Option.bind_some, hcons, List.head?_cons, ht]
      have hinput : Input.hostInput? w (.processIdle q.idleId a.queueId env) = none := by
        simp only [Input.hostInput?, hnext, Option.bind_none]
      rw [hinput]
      exact hostService_rsuServiceTaskProcessCb env a w₁
  | client =>
      rw [hcs] at hfresh
      obtain ⟨t, ht⟩ := TaskCallbacks.live_client hfresh.live
      have ht₁ : w₁.tasks a = some (.client t) := ht
      have hnext : w.nextRequest a.queueId = some t := by
        simp only [World.nextRequest, hq, Option.bind_some, hcons, List.head?_cons, ht]
      have hinput : Input.hostInput? w (.processIdle q.idleId a.queueId env) =
          w₁.hostRequest? env t := by
        simp only [Input.hostInput?, hnext, Option.bind_some]
        rfl
      rw [hinput]
      show HostsBy w₁.upnp.hostService _ (prvProcessTask env a w₁).upnp.hostService
      simp only [prvProcessTask, World.withClient, ht₁]
      split
      next hsync =>
        have htype : t.type.isAsync = false := by
          have hsuits := (h.outer.requests a t ht).1
          simpa [hsync] using hsuits
        have hnone : w₁.hostRequest? env t = none := by
          unfold World.hostRequest?
          refine Option.bind_eq_none_iff.mpr fun deviceIf _ => ?_
          split <;> simp_all [TaskType.isAsync]
        rw [hnone]
        exact (still_prvProcessSyncTask a w₁).hostService
      · exact prvProcessAsyncTask_hosts env ht₁

/-- Every step of the process is a step of the host service, or leaves it alone. -/
theorem exec_hosts {i : Input} (h : ServiceOk none w) (henabled : i.enabled w = true)
    (hr : RegistryOk w) (hh : HoldersOk w) (hfree : i ≠ .contextFree)
    (hfault : (exec w i).fault = none) :
    HostsBy w.upnp.hostService (i.hostInput? w) (exec w i).upnp.hostService := by
  by_cases hrequest : i.isRequest = true
  · have hstill : Still w (exec w i) := exec_still hrequest
    have hnone : i.hostInput? w = none := by
      cases i with
      | managerCall sender method => cases method <;> simp_all [Input.isRequest, Input.hostInput?]
      | _ => simp_all [Input.isRequest, Input.hostInput?]
    rw [hnone]
    exact hstill.hostService
  · cases i with
    | managerCall sender method =>
        cases method with
        | release =>
            have hok : ProcessorOk w.newInvocation.2 :=
              h.processor.congr rfl rfl rfl rfl rfl rfl rfl
            have hlost := hostService_prvRemoveClient sender.name hok
            exact congrArg some hlost.symm
        | _ => exact absurd rfl hrequest
    | lostClient name =>
        exact congrArg some (hostService_prvRemoveClient name h.processor).symm
    | soupRequest mapped deviceIf msg =>
        have hserver : (w.upnp.hostService.servers.lookup deviceIf).isSome = true := by
          simp_all [Input.enabled]
        show hostStepFn w.upnp.hostService (.request mapped deviceIf msg) = some _
        simp only [hostStepFn, if_pos hserver]
        rfl
    | soupFinished t =>
        have hmem : t ∈ w.upnp.hostService.transfers := by simp_all [Input.enabled]
        show hostStepFn w.upnp.hostService (.finished t) = some _
        simp only [hostStepFn, if_pos hmem]
        have hexec : exec w (.soupFinished t) = soupFinished t w := rfl
        rw [hexec] at hfault ⊢
        unfold soupFinished at hfault ⊢
        cases hfinish : prvSoupMessageFinishedCb t (w.upnp.hostService.dropTransfer t) with
        | some host => rfl
        | none =>
            rw [hfinish] at hfault
            unfold World.crash at hfault
            simp at hfault
    | reply action env =>
        have hmem : action ∈ w.gupnp.actions := by simp_all [Input.enabled]
        exact (still_actionReply h hr hh.clients hmem env).hostService
    | processIdle id k env =>
        have hmem : (id, k) ∈ w.loop.processIdles := by simp_all [Input.enabled]
        exact processIdle_hosts env h hmem
    | completeIdle a =>
        exact (still_rsuAsyncTaskComplete a _).hostService
    | available udn ipAddress offered =>
        exact hostService_prvServerAvailableCb udn ipAddress offered h
    | unavailable udn ipAddress => exact hostService_prvServerUnavailableCb udn ipAddress h
    | finallyIdle q => exact hostService_prvTaskQueueFinallyCb q _
    | subscribeTimer id d =>
        exact congrArg Upnp.hostService (cosmetic_prvSubscribeToServiceChanges d).toOffstage.upnp
    | notify proxy => exact congrArg Upnp.hostService (cosmetic_foldl_notify _ w).toOffstage.upnp
    | subscriptionLost proxy =>
        exact congrArg Upnp.hostService (cosmetic_subscriptionLost proxy w).toOffstage.upnp
    | retryTimer r =>
        exact congrArg Upnp.hostService (cosmetic_prvReEnableSubscription r).toOffstage.upnp
    | quitIdle => exact congrArg Upnp.hostService (cosmetic_rsuUpnpUnsubscribe _).toOffstage.upnp
    | rehash queues devices => rfl
    | contextFree => exact absurd rfl hfree
    | _ => exact absurd rfl hrequest

end RendererService
