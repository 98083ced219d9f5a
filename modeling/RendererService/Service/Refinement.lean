import RendererService.Service.Runs

/-!
# The service drives the processor

Whatever the service does, the task processor only sees legal operations.  The
runs of the service are therefore runs of the processor, and what holds of every
run of the processor holds of every run of the service.
-/

namespace RendererService

open Transition

variable {w w' : World} {handled : Option Nat} {is : List Input} {neverQuit : Bool}

/-! ## Operations -/

theorem Op.operates (op : Op) (h : op.Legal w) (husual : op.Usual w) :
    Operates w (op.perform w) :=
  System.Steps.single (i := op) ⟨husual, h, rfl⟩

theorem Op.Legal.operates {op : Op} (h : op.Legal w) (husual : op.Usual w) :
    Operates w (op.perform w) :=
  op.operates h husual

theorem Elsewhere.operates (h : Elsewhere w w') : Operates w w' :=
  Op.operates (.other w') h trivial

theorem elsewhere_of_tasks (hprocessor : w'.processor = w.processor)
    (hidles : w'.loop.processIdles = w.loop.processIdles)
    (hsource : w.loop.nextSource ≤ w'.loop.nextSource) (htasks : w'.tasks = w.tasks)
    (htask : w'.nextTask = w.nextTask)
    (hlog : ∃ es, w'.log = w.log ++ es ∧ ∀ e ∈ es, e.isProcessor = false) : Elsewhere w w' where
  processor := hprocessor
  processIdles := hidles
  nextSource := hsource
  nextTask := htask
  queued _ _ _ _ _ := by rw [htasks]
  current _ _ _ _ _ hlive := by rwa [htasks]
  log := hlog

theorem Outside.elsewhere (h : Outside w w') : Elsewhere w w' := by
  refine elsewhere_of_tasks h.processor h.processIdles h.nextSource h.tasks h.nextTask ?_
  obtain ⟨es, hlog, hes⟩ := h.log
  refine ⟨es, hlog, fun e he => ?_⟩
  have hmute := hes e he
  cases e <;> simp_all [Event.isMute, Event.isProcessor]

theorem Outside.operates (h : Outside w w') : Operates w w' := h.elsewhere.operates

theorem Cosmetic.operates (h : Cosmetic w w') : Operates w w' := h.backstage.toOutside.operates

theorem operates_emit {e : Event} (he : e.isProcessor = false) : Operates w (w.emit e) := by
  have helse : Elsewhere w (w.emit e) :=
    elsewhere_of_tasks rfl rfl (Nat.le_refl _) rfl rfl ⟨[e], rfl, by simpa using he⟩
  exact helse.operates

theorem operates_setContext (context : Context) :
    Operates w { w with context := context } := by
  have helse : Elsewhere w { w with context := context } :=
    elsewhere_of_tasks rfl rfl (Nat.le_refl _) rfl rfl ⟨[], by simp, by simp⟩
  exact helse.operates

theorem operates_setUpnp (u : Upnp) : Operates w { w with upnp := u } :=
  (backstage_setUpnp u).toOutside.operates

theorem operates_setLoop {l : MainLoop} (hidles : l.processIdles = w.loop.processIdles)
    (hsource : w.loop.nextSource ≤ l.nextSource) : Operates w (w.setLoop l) := by
  have helse : Elsewhere w (w.setLoop l) :=
    elsewhere_of_tasks rfl hidles hsource rfl rfl ⟨[], by simp [World.setLoop], by simp⟩
  exact helse.operates

theorem Touches.complete_operates {a : TaskAtom} (h : Touches a w w') (hok : ProcessorOk w)
    (ha : w.Current a) :
    Operates w (rsuTaskQueueTaskCompleted taskDeleteCb a.queueId w') := by
  obtain ⟨q, hq, hcurrent⟩ := ha
  have hfirst : Operates w w' := (h.elsewhere hok ⟨q, hq, hcurrent⟩).operates
  have hlegal : (Op.taskCompleted a.queueId).Legal w' := ⟨q, a, (h.queue? _).trans hq, hcurrent⟩
  exact hfirst.trans (hlegal.operates trivial)

/-! ## Requests -/

theorem prvAddTask_operates {n : Nat} {clientName sink : String} {t : ClientTask}
    (h : ServiceOk handled w) (hname : BusSource clientName) (ht : t.Wraps n sink) :
    Operates w (prvAddTask clientName n t sink w) := by
  have hwatch : Operates w (w.watch clientName) := by
    unfold World.watch
    split
    · exact .refl
    · exact operates_setContext _
  have hwatched := watch_serviceOk h hname
  obtain ⟨-, -, -, q, hq, hcs⟩ := lookupOrAddQueue_serves sink hwatched hname
  have hqueue : Operates (w.watch clientName)
      (lookupOrAddQueue clientName sink (w.watch clientName)).2 := by
    unfold lookupOrAddQueue
    split
    · exact .refl
    next hnone => exact Op.operates (.addQueue clientName sink autoStart .client) hnone rfl
  have hlegal : (Op.addTask (lookupOrAddQueue clientName sink (w.watch clientName)).1
      (.client t)).Legal (lookupOrAddQueue clientName sink (w.watch clientName)).2 := by
    refine ⟨q, hq, ?_⟩
    rw [hcs]
    exact ht.fresh
  have husual : t.invocation.isSome = true := by rw [ht.invocation]; rfl
  rw [prvAddTask_eq]
  exact hwatch.trans (hqueue.trans ((hlegal.operates husual).trans (operates_emit rfl)))

theorem withDeviceId_operates {object : String} {f : Nat → String → World → World}
    (h : ServiceOk none w)
    (hf : ∀ w', ServiceOk (some w.context.nextInvocation) w' →
      Operates w' (f w.context.nextInvocation object w')) :
    Operates w (withDeviceId object f w) := by
  have harrive : Operates w w.newInvocation.2 := operates_setContext _
  rcases withDeviceId_cases object f w with heq | ⟨error, heq⟩
  · rw [heq]
    exact harrive.trans (hf _ (newInvocation_serviceOk h))
  · rw [heq]
    exact harrive.trans (operates_emit rfl)

theorem withDeviceId_addTask_operates {object : String} (sender : BusName) {f : Nat → ClientTask}
    (h : ServiceOk none w) (hf : ∀ n, (f n).Wraps n object) :
    Operates w (withDeviceId object
      (fun invocation => prvAddTask sender.name invocation (f invocation)) w) :=
  withDeviceId_operates h fun _ h' => prvAddTask_operates h' sender.unique (hf _)

theorem prvRendererDeviceMethodCall_operates (sender : BusName) (object : String)
    (h : ServiceOk none w) :
    Operates w (prvRendererDeviceMethodCall sender.name object w) := by
  refine withDeviceId_operates h fun w' _ => ?_
  cases hk : rsuTaskProcessorLookupQueue w' sender.name object with
  | some k =>
      have hcancel : Operates w' (rsuTaskProcessorCancelQueue taskDeleteCb taskCancelCb k w') :=
        Op.operates (.cancelQueue k) (lookupQueue_some hk).1 trivial
      dsimp only
      exact hcancel.trans (operates_emit rfl)
  | none =>
      dsimp only
      exact operates_emit rfl

theorem setQuitting_operates (w : World) :
    Operates w (rsuTaskProcessorSetQuitting taskDeleteCb taskCancelCb w) :=
  Op.operates .setQuitting trivial trivial

/-- The queues of a client, and of a device, are queues of client tasks. -/
theorem KeysOk.client_of_bus (h : KeysOk w) {k : TaskQueueKey} {q : TaskQueue}
    (hq : w.queue? k = some q) (hbus : BusSource k.source) : q.callbacks = .client := by
  have hfits := h.fits k q hq
  cases hcs : q.callbacks with
  | client => rfl
  | service =>
      rw [hcs] at hfits
      exact absurd hbus hfits.2.not_bus

theorem prvRemoveClient_operates {name : String} (h : ServiceOk handled w)
    (hname : BusSource name) :
    Operates w (prvRemoveClient name w) := by
  have hlegal : (Op.removeQueuesForSource name).Legal w := fun k q hq hsource =>
    h.outer.keys.client_of_bus hq (hsource ▸ hname)
  let w₁ := rsuTaskProcessorRemoveQueuesForSource taskDeleteCb taskCancelCb name w
  let w₂ := rsuUpnpLostClient name w₁
  let w₃ : World :=
    { w₂ with context := { w₂.context with watchers := w₂.context.watchers.erase name } }
  have hremoved : Operates w w₁ := hlegal.operates trivial
  have hlost : Operates w₁ w₂ := operates_setUpnp _
  have herased : Operates w₂ w₃ := operates_setContext _
  have hquit : Operates w₃ (prvRemoveClient name w) := by
    show Operates w₃ (if w₃.context.watchers = [] ∧ ¬w₃.context.neverQuit then
      rsuTaskProcessorSetQuitting taskDeleteCb taskCancelCb w₃ else w₃)
    split
    · exact setQuitting_operates _
    · exact .refl
  exact hremoved.trans (hlost.trans (herased.trans hquit))

/-! ## Discovery -/

theorem Offstage.operates (h : Offstage w w') : Operates w w' := h.outside.operates

theorem openConstruction_operates (udn ipAddress : String) (offered : DeviceServices)
    (h : KeysOk w) : Operates w (w.openConstruction udn ipAddress offered) := by
  let w₀ : World := { w with serviceCpt := w.serviceCpt + 1 }
  have hsource : Operates w w₀ := by
    have helse : Elsewhere w w₀ :=
      elsewhere_of_tasks rfl rfl (Nat.le_refl _) rfl rfl ⟨[], by simp [w₀], by simp⟩
    exact helse.operates
  have hnew : rsuTaskProcessorLookupQueue w₀ w.newKey.source rsuSink = none := h.newKey
  let w₁ := w₀.addQueue w.newKey.source rsuSink autoRemove .service
  have hadd : Operates w₀ w₁ := by
    have hlegal : (Op.addQueue w.newKey.source rsuSink autoRemove .service).Legal w₀ := hnew
    have hrun := hlegal.operates rfl
    rw [Op.perform, rsuTaskProcessorAddQueue_eq autoRemove .service hnew] at hrun
    exact hrun
  have hq₁ : w₁.queue? w.newKey = some { callbacks := .service, flags := autoRemove } := by
    have hlookup : w₁.queue? w.newKey = if w.newKey = w.newKey then
        some { callbacks := .service, flags := autoRemove } else w₀.queue? w.newKey :=
      Assoc.lookup_insert_eq _ _ _ _
    rw [hlookup, if_pos rfl]
  let w₂ := w₁.modifyQueue w.newKey fun q => { q with finallyCb := true }
  have hfinally : Operates w₁ w₂ := by
    have hlegal : (Op.setFinally w.newKey).Legal w₁ := ⟨_, hq₁⟩
    have hrun := hlegal.operates trivial
    simp only [Op.perform, rsuTaskQueueSetFinally, hq₁] at hrun
    exact hrun
  have hq₂ : w₂.queue? w.newKey =
      some { callbacks := .service, flags := autoRemove, finallyCb := true } := by
    rw [queue?_modifyQueue, if_pos rfl, hq₁]
    rfl
  have hdata : Operates w₂ (w₂.modifyQueue w.newKey
      fun q => { q with userData := some (w.newCt udn) }) := by
    have hlegal : (Op.setUserData w.newKey (w.newCt udn)).Legal w₂ := ⟨_, hq₂⟩
    have hrun := hlegal.operates trivial
    simp only [Op.perform, rsuTaskQueueSetUserData, hq₂] at hrun
    exact hrun
  have hblank : Operates (w₂.modifyQueue w.newKey
      fun q => { q with userData := some (w.newCt udn) }) (w.blankConstruction udn) :=
    (offstage_setDevice _ _).operates
  have hgains := gains_openConstruction (w := w) udn ipAddress offered
  exact hsource.trans (hadd.trans (hfinally.trans (hdata.trans
    (hblank.trans hgains.toOffstage.operates))))

theorem queueConstruction_operates {k : TaskQueueKey} {ct : DeviceNewCt} (d : Nat)
    (proxy : Option ServiceProxy) (hq : w.queue? k = some (constructionQueue ct)) :
    Operates w (w.queueConstruction k d proxy) := by
  have hpush : ∀ {w : World} {q : TaskQueue} (action : ServiceTaskAction)
      (callback : Option ServiceTaskCallback), w.queue? k = some q → q.callbacks = .service →
      q.flags.autoStart = false →
      Operates w (w.pushTask k (constructionTask d proxy action callback)) := by
    intro w q action callback hq hcs hstart
    have hlegal : (Op.addTask k (constructionTask d proxy action callback)).Legal w := by
      refine ⟨q, hq, ?_⟩
      rw [hcs]
      rfl
    have hrun := hlegal.operates trivial
    have heq := rsuServiceTaskAdd_eq hq hstart action d proxy callback
    rw [← heq]
    exact hrun
  have hq₁ := queue?_pushTask_self hq
    (constructionTask d proxy .prvGetProtocolInfo (some .prvGetProtocolInfoCb))
  have hq₂ := queue?_pushTask_self hq₁ (constructionTask d proxy .prvSubscribe none)
  have hq₃ := queue?_pushTask_self hq₂ (constructionTask d proxy .prvDeclare none)
  have hstart := Op.operates (.start k) ⟨_, hq₃, by simp⟩ trivial
  rw [Op.perform, rsuTaskQueueStart_eq hq₃ rfl rfl rfl] at hstart
  have hinfo := hpush .prvGetProtocolInfo (some .prvGetProtocolInfoCb) hq rfl rfl
  have hsubscribe := hpush .prvSubscribe none hq₁ rfl rfl
  have hdeclare := hpush .prvDeclare none hq₂ rfl rfl
  exact hinfo.trans (hsubscribe.trans (hdeclare.trans hstart))

theorem withDevice_operates {d : Nat} {f : Device → World}
    (hf : ∀ dev, w.devices d = some dev → Operates w (f dev)) :
    Operates w (w.withDevice d f) := by
  unfold World.withDevice
  split
  · exact hf _ ‹_›
  · exact (cosmetic_crash (by simp)).operates

theorem prvServerConstruct_operates (udn ipAddress : String) (offered : DeviceServices)
    (h : ServiceOk handled w) : Operates w (prvServerConstruct udn ipAddress offered w) := by
  rw [prvServerConstruct_eq udn ipAddress offered h.outer.keys.newKey]
  have hq : (w.openConstruction udn ipAddress offered).queue? w.newKey =
      some (constructionQueue (w.newCt udn)) := by
    rw [queue?_openConstruction, if_pos rfl]
  have hopen := openConstruction_operates udn ipAddress offered h.outer.keys
  have hqueue := queueConstruction_operates w.upnp.counter
    (gupnpDeviceInfoGetServices w.gupnp.nextContext offered).cmProxy hq
  exact hopen.trans (hqueue.trans (operates_setUpnp _))

theorem prvServerAvailableCb_operates (udn ipAddress : String) (offered : DeviceServices)
    (h : ServiceOk handled w) :
    Operates w (prvServerAvailableCb udn ipAddress offered w) := by
  cases arrival udn ipAddress offered w with
  | unknown _ heq =>
      rw [heq]
      exact prvServerConstruct_operates udn ipAddress offered h
  | dangling _ _ heq =>
      rw [heq]
      exact (cosmetic_crash (by simp)).operates
  | present _ _ _ heq => rw [heq]
  | extended _ hdev _ heq =>
      rw [heq]
      exact (gains_rsuDeviceAppendNewContext ipAddress offered
        (core_of_device hdev)).toOffstage.operates

/-- A construction has its tasks in a queue whose sink is no path of a device. -/
theorem serverPath_ne_rsuSink (d : Nat) : rsuServerPath ++ "/" ++ toString d ≠ rsuSink := by
  intro heq
  have hfirst := congrArg (fun s : String => s.toList.head?) heq
  simp [rsuServerPath, rsuSink] at hfirst

theorem prvLostMediaServer_operates {path : String} (h : KeysOk w) (hpath : path ≠ rsuSink) :
    Operates w (prvLostMediaServer path w) := by
  have hlegal : (Op.removeQueuesForSink path).Legal (w.emit (.lostServer path)) := by
    intro k q hq hsink
    have hfits := h.fits k q hq
    cases hcs : q.callbacks with
    | client => rfl
    | service =>
        rw [hcs] at hfits
        exact absurd (hsink.symm.trans hfits.1) hpath
  exact (operates_emit rfl).trans (hlegal.operates trivial)

theorem rsuDeviceDelete_operates (d : Nat) (w : World) : Operates w (rsuDeviceDelete d w) :=
  (offstage_rsuDeviceDelete d w).operates

theorem prvServerUnavailableCb_operates (udn ipAddress : String) (h : ServiceOk handled w)
    (hlate : ¬LostTooLate w udn ipAddress) :
    Operates w (prvServerUnavailableCb udn ipAddress w) := by
  have hremoved : ∀ d dev context, Operates w (w.removeContext d dev context ipAddress) :=
    fun d dev context => (frees_departing w d dev context ipAddress).toOffstage.operates
  cases departure udn ipAddress w with
  | ignored _ heq => rw [heq]
  | dangling _ _ heq =>
      rw [heq]
      exact (cosmetic_crash (by simp)).operates
  | @last d uc dev context hdeparting hlast heq =>
      rw [heq]
      refine (hremoved d dev context).trans ?_
      cases uc with
      | none =>
          have hpath : dev.path ≠ rsuSink := by
            have hcore : w.core d = some dev.core := core_of_device hdeparting.device
            rw [show dev.path = _ from h.outer.devices.path d _ hcore]
            exact serverPath_ne_rsuSink d
          have hlost := prvLostMediaServer_operates (h.departing hdeparting).outer.keys hpath
          exact hlost.trans ((operates_setUpnp _).trans (rsuDeviceDelete_operates d _))
      | some ct =>
          have hlive : w.queue? ct.queueId ≠ none := fun hnone => hlate
            ⟨d, ct, dev, context, hdeparting.find, hdeparting.device, hdeparting.context, hlast,
              hnone⟩
          obtain ⟨q, hq⟩ := Option.ne_none_iff_exists'.mp hlive
          refine Op.operates (.cancelQueue ct.queueId) ⟨q, ?_⟩ trivial
          show World.queue? _ _ = _
          unfold World.queue?
          rw [(frees_departing w d dev context ipAddress).processor]
          exact hq
  | @later d _ dev context _ _ _ heq =>
      rw [heq]
      exact (hremoved d dev context).trans (cosmetic_subscribeLater d).operates
  | other _ _ _ heq =>
      rw [heq]
      exact hremoved _ _ _

theorem serverUdnMapInsert_operates (udn : String) (d : Nat) (w : World) :
    Operates w (serverUdnMapInsert udn d w) := by
  have hinsert : Operates w (w.setUdnMap (w.upnp.serverUdnMap.insert udn d)) := operates_setUpnp _
  unfold serverUdnMapInsert
  split
  · exact hinsert.trans (rsuDeviceDelete_operates _ _)
  · exact hinsert

theorem prvDeviceChainEnd_operates (cancelled : Bool) (ct : DeviceNewCt) (w : World) :
    Operates w (prvDeviceChainEnd cancelled ct w) := by
  have hemit : Operates w (w.emit (.chainEnd cancelled ct.udn)) := operates_emit rfl
  unfold prvDeviceChainEnd
  refine hemit.trans ?_
  split
  · exact (operates_setUpnp _).trans (rsuDeviceDelete_operates _ _)
  · refine withDevice_operates fun dev _ => ?_
    have hinsert := serverUdnMapInsert_operates ct.udn ct.device
      (w.emit (.chainEnd cancelled ct.udn))
    have hfound := operates_emit (w := serverUdnMapInsert ct.udn ct.device
      (w.emit (.chainEnd cancelled ct.udn))) (e := .foundServer dev.path) rfl
    exact hinsert.trans (hfound.trans (operates_setUpnp _))

theorem prvTaskQueueFinallyCb_operates (q : TaskQueue) (w : World) :
    Operates w (prvTaskQueueFinallyCb q w) := by
  unfold prvTaskQueueFinallyCb
  split
  · exact prvDeviceChainEnd_operates _ _ _
  · exact (cosmetic_crash (by simp)).operates

/-! ## Replies and completions -/

theorem completeWith_operates {action : ProxyAction} (hok : ProcessorOk w)
    (ha : w.Current action.task) {f : ClientTask → ClientTask}
    (hf : ∀ t : ClientTask, t.Disconnects (f t)) :
    Operates w (completeWith action.task f (w.dropReply action)) := by
  have htouch : Touches action.task w (completeWith action.task f (w.dropReply action)) :=
    (touches_actions _ _).trans (touches_completeWith fun t => (hf t).1)
  exact (htouch.elsewhere hok ha).operates

theorem rsuServiceTaskBeginActionCb_operates {action : ProxyAction} (env : Environment)
    (hok : ProcessorOk w) (ha : w.Current action.task) :
    Operates w
      (rsuServiceTaskBeginActionCb (serviceTaskCallback env) action.task (w.dropReply action)) := by
  have hdrop : Touches action.task w (w.dropReply action) := touches_actions _ _
  rcases hr : (w.dropReply action).tasks action.task with _ | t | t
  · simp only [rsuServiceTaskBeginActionCb, World.withService, hr]
    exact ((hdrop.trans (touches_crash (by simp))).elsewhere hok ha).operates
  · simp only [rsuServiceTaskBeginActionCb, World.withService, hr]
    exact ((hdrop.trans (touches_crash (by simp))).elsewhere hok ha).operates
  · have htouch := hdrop.trans (touches_setService none hr)
    simp only [rsuServiceTaskBeginActionCb, World.withService, hr]
    split
    · exact ((htouch.trans (touches_crash (by simp))).elsewhere hok ha).operates
    next cb _ =>
      cases cb with
      | prvGetProtocolInfoCb =>
          rw [serviceTaskCallback]
          rcases prvGetProtocolInfoCb_cases env t ((w.dropReply action).setTask action.task
            (some (.service { t with pAction := none }))) with heq | heq
          · rw [heq]
            exact htouch.complete_operates hok ha
          · rw [heq]
            exact (htouch.trans (touches_crash (by simp))).complete_operates hok ha

theorem actionReply_operates {action : ProxyAction} (env : Environment) (hok : ProcessorOk w)
    (ha : w.Current action.task) : Operates w (actionReply action env w) := by
  unfold actionReply
  cases action.callback with
  | rsuServiceTaskBeginActionCb => exact rsuServiceTaskBeginActionCb_operates env hok ha
  | prvSimpleCallCb =>
      exact completeWith_operates hok ha fun t =>
        gCancellableDisconnect_disconnects (endAction_reports env _ t)
  | prvGetPositionInfoCb =>
      have hdrop : Touches action.task w (w.dropReply action) := touches_actions _ _
      have hcrash : ∀ f : Fault, (∀ k, f ≠ .deadQueueKey k) →
          Operates w ((w.dropReply action).crash f) := fun f hf =>
        ((hdrop.trans (touches_crash hf)).elsewhere hok ha).operates
      simp only [prvGetPositionInfoCb, World.withClient]
      split
      next t _ =>
        split
        · exact hcrash _ (by simp)
        next cb _ =>
          rcases withTaskDevice_cases (w.dropReply action) action.task t (completeWith action.task
            (fun t => deviceLocalCb env cb (endAction env "GetPositionInfo operation failed: " t))
            (w.dropReply action)) with heq | ⟨f, hf, heq⟩
          · rw [heq]
            exact completeWith_operates hok ha fun t =>
              deviceLocalCb_disconnects env _ (endAction_reports env _ t)
          · rw [heq]
            exact hcrash f hf
      · exact hcrash _ (by simp)

theorem rsuAsyncTaskComplete_operates {a : TaskAtom} {l : List TaskAtom} (hok : ProcessorOk w)
    (ha : w.Current a) :
    Operates w (rsuAsyncTaskComplete a (w.setLoop { w.loop with completeIdles := l })) := by
  have hran : Touches a w ((w.setLoop { w.loop with completeIdles := l }).emit (.completeRan a)) :=
    touches_completion rfl _
  have hend : ∀ error, Operates w (prvAsyncTaskComplete a error
      ((w.setLoop { w.loop with completeIdles := l }).emit (.completeRan a))) := by
    intro error
    unfold prvAsyncTaskComplete
    cases error with
    | some error => exact (hran.trans (touches_answerTask _)).complete_operates hok ha
    | none => exact (hran.trans (touches_answerTask _)).complete_operates hok ha
  unfold rsuAsyncTaskComplete World.withClient
  split
  next t _ => exact hend t.error
  next hnone =>
    exact (operates_setLoop (l := { w.loop with completeIdles := l }) rfl (Nat.le_refl _)).trans
      (cosmetic_crash (f := .deadTask a) (by simp)).operates

/-! ## The main loop -/

theorem prvContextQuitCb_operates (w : World) : Operates w (prvContextQuitCb w) := by
  have hflag : Operates w { w with context := { w.context with ownerId := false } } :=
    operates_setContext _
  exact hflag.trans ((cosmetic_rsuUpnpUnsubscribe _).operates.trans
    (operates_setLoop (l := { (rsuUpnpUnsubscribe { w with
      context := { w.context with ownerId := false } }).loop with quitTimers := _ })
      rfl (Nat.le_refl _)))

theorem soupFinished_operates (t : Transfer) (w : World) : Operates w (soupFinished t w) := by
  unfold soupFinished
  split
  · exact operates_setUpnp _
  · exact (cosmetic_crash (by simp)).operates

theorem prvRsuMethodCall_operates (sender : BusName) (method : ManagerMethod)
    (h : ServiceOk none w) : Operates w (prvRsuMethodCall sender.name method w) := by
  have harrive : Operates w w.newInvocation.2 := operates_setContext _
  have harrived := newInvocation_serviceOk h
  cases method with
  | release =>
      exact harrive.trans ((prvRemoveClient_operates harrived sender.unique).trans
        (operates_emit rfl))
  | getVersion =>
      exact harrive.trans (prvAddTask_operates harrived sender.unique
        ⟨rfl, rfl, rfl, rfl, fun hasync => absurd hasync Bool.false_ne_true⟩)
  | getServers =>
      exact harrive.trans (prvAddTask_operates harrived sender.unique
        ⟨rfl, rfl, rfl, rfl, fun hasync => absurd hasync Bool.false_ne_true⟩)

/-- What the service does with an input is done by legal operations. -/
theorem exec_operates {i : Input} (h : ServiceOk none w) (henabled : i.enabled w = true)
    (hfree : i ≠ .contextFree)
    (hlate : ∀ udn ipAddress, i = .unavailable udn ipAddress → ¬LostTooLate w udn ipAddress) :
    Operates w (exec w i) := by
  have hloop : ∀ l : MainLoop, l.processIdles = w.loop.processIdles →
      l.nextSource = w.loop.nextSource → Operates w (w.setLoop l) := fun l hidles hsource =>
    operates_setLoop hidles (Nat.le_of_eq hsource.symm)
  cases i with
  | managerCall sender method => exact prvRsuMethodCall_operates sender method h
  | propsCall sender object method =>
      exact withDeviceId_addTask_operates sender (f := fun n => method.new object n) h
        fun n => method.wraps object n
  | rsuDeviceCall sender object method =>
      exact withDeviceId_addTask_operates sender (f := fun n => method.new n) h
        fun n => method.wraps object n
  | playerCall sender object method =>
      exact withDeviceId_addTask_operates sender (f := fun n => method.new object n) h
        fun n => method.wraps object n
  | pushHostCall sender object method =>
      exact withDeviceId_addTask_operates sender (f := fun n => method.new sender.name object n) h
        fun n => method.wraps sender.name object n
  | cancelCall sender object => exact prvRendererDeviceMethodCall_operates sender object h
  | lostClient name =>
      have hmem : name ∈ w.context.watchers := by simp_all [Input.enabled]
      exact prvRemoveClient_operates h (h.outer.keys.watchers name hmem)
  | available udn ipAddress offered => exact prvServerAvailableCb_operates _ _ _ h
  | unavailable udn ipAddress =>
      exact prvServerUnavailableCb_operates _ _ h (hlate udn ipAddress rfl)
  | reply action env =>
      have hmem : action ∈ w.gupnp.actions := by simp_all [Input.enabled]
      exact actionReply_operates env h.processor (h.outer.actions.awaited action hmem).1
  | processIdle id k env =>
      have hmem : (id, k) ∈ w.loop.processIdles := by simp_all [Input.enabled]
      exact Op.operates (.processIdle id k env) hmem trivial
  | finallyIdle q =>
      have hidle := hloop { w.loop with finallyIdles := w.loop.finallyIdles.erase q } rfl rfl
      exact hidle.trans (prvTaskQueueFinallyCb_operates q _)
  | completeIdle a =>
      have hmem : a ∈ w.loop.completeIdles := by simp_all [Input.enabled]
      exact rsuAsyncTaskComplete_operates h.processor (h.outer.completions.pending a hmem).1
  | subscribeTimer id d =>
      have htimer := hloop
        { w.loop with subscribeTimers := w.loop.subscribeTimers.erase (id, d) } rfl rfl
      exact htimer.trans (cosmetic_prvSubscribeToServiceChanges d).operates
  | notify proxy => exact (cosmetic_foldl_notify _ w).operates
  | subscriptionLost proxy => exact (cosmetic_subscriptionLost proxy w).operates
  | retryTimer r =>
      have htimer := hloop { w.loop with retryTimers := w.loop.retryTimers.erase r } rfl rfl
      exact htimer.trans (cosmetic_prvReEnableSubscription r).operates
  | soupRequest mapped deviceIf msg => exact operates_setUpnp _
  | soupFinished t => exact soupFinished_operates t w
  | quitIdle =>
      have hidle := hloop { w.loop with quitIdles := w.loop.quitIdles - 1 } rfl rfl
      exact hidle.trans (prvContextQuitCb_operates _)
  | quitTimer =>
      have htimer := hloop { w.loop with quitTimers := w.loop.quitTimers - 1 } rfl rfl
      exact htimer.trans (operates_setContext _)
  | signal => exact (setQuitting_operates w).trans (operates_setContext _)
  | nameLost => exact setQuitting_operates w
  | rehash queues devices =>
      have hperm : queues.entries.Perm w.processor.taskQueues.entries := by
        simp only [Input.enabled, Bool.and_eq_true, List.isPerm_iff] at henabled
        exact henabled.2.1
      exact (Op.operates (.rehash queues) hperm trivial).trans (operates_setUpnp _)
  | contextFree => exact absurd rfl hfree

/-- Until the context is freed, a run of the service is a run of the processor. -/
theorem service_operates (h : (service neverQuit).Reaches is w)
    (hfree : w.context.freed = false) :
    ∃ ops, (processor.restrict Op.Usual).Reaches ops w := by
  refine service_invariant (P := fun _ w => ∃ ops, (processor.restrict Op.Usual).Reaches ops w)
    h hfree ⟨[], .init (start_newProcessor neverQuit)⟩ fun is w i hr hdoes ih => ?_
  obtain ⟨ops, hops⟩ := ih
  have hoperates := exec_operates (service_ok hr hdoes.freed) hdoes.enabled hdoes.last
    fun udn ipAddress hi hlate => by
      subst hi
      obtain ⟨k, hk⟩ := exec_late hlate (service_fault hr)
      rw [hdoes.fault] at hk
      simp at hk
  obtain ⟨js, hjs⟩ := hops.steps hoperates
  exact ⟨ops ++ js, hjs⟩

end RendererService
