import RendererService.Service.Holders

/-!
# The readers of a device

Every input is handled without reading a device that was deleted, and leaves
none with a holder: first those that only work on tasks, then the replies and
the timers, and last the discovery.
-/

namespace RendererService

open Transition

variable {w w' : World} {a : TaskAtom} {d : Nat} {handled : Option Nat}

/-! ## D-Bus and signals -/

theorem still_lookupOrAddQueue (clientName sink : String) (w : World) :
    Still w (lookupOrAddQueue clientName sink w).2 := by
  unfold lookupOrAddQueue
  split
  · exact .refl
  · exact still_rsuTaskProcessorAddQueue _ _ _ _ w

theorem still_prvAddTask (clientName : String) (n : Nat) {t : ClientTask} (sink : String)
    (w : World) (ht : t.Unbegun) : Still w (prvAddTask clientName n t sink w) := by
  have hwatch : Still w (w.watch clientName) := by
    unfold World.watch
    split
    · exact .refl
    · exact still_setContext w _
  rw [prvAddTask_eq]
  have hadded := still_rsuTaskQueueAddTask (lookupOrAddQueue clientName sink (w.watch clientName)).1
    (.client t) (lookupOrAddQueue clientName sink (w.watch clientName)).2
    fun t' heq => Task.client.inj heq ▸ ht
  exact hwatch.trans ((still_lookupOrAddQueue clientName sink _).trans
    (hadded.trans (still_emit _ _)))

theorem still_withDeviceId {object : String} {f : Nat → String → World → World} {w : World}
    (hf : ∀ n w, Still w (f n object w)) : Still w (withDeviceId object f w) := by
  have harrive : Still w w.newInvocation.2 := still_setContext w _
  rcases withDeviceId_cases object f w with heq | ⟨error, heq⟩
  · rw [heq]
    exact harrive.trans (hf _ _)
  · rw [heq]
    exact harrive.trans (still_emit _ _)

theorem still_withDeviceId_addTask {object : String} (sender : BusName) {f : Nat → ClientTask}
    (hf : ∀ n, (f n).Unbegun) : Still w (withDeviceId object
      (fun invocation => prvAddTask sender.name invocation (f invocation)) w) :=
  still_withDeviceId fun n w => still_prvAddTask sender.name n object w (hf n)

theorem still_prvRendererDeviceMethodCall (sender object : String) (w : World) :
    Still w (prvRendererDeviceMethodCall sender object w) := by
  refine still_withDeviceId fun n w => ?_
  dsimp only
  split
  · exact (still_rsuTaskProcessorCancelQueue _ w).trans (still_emit _ _)
  · exact still_emit w _

theorem apart_setHostService (h : HostService) (w : World) : Apart w (w.setHostService h) :=
  ⟨⟨rfl, rfl, rfl, rfl, rfl, rfl, rfl, rfl, rfl, id⟩, .of_same rfl (fun _ ha => ha) fun _ => rfl⟩

theorem apart_prvRemoveClient (name : String) (hok : ProcessorOk w) :
    Apart w (prvRemoveClient name w) := by
  let w₁ := rsuTaskProcessorRemoveQueuesForSource taskDeleteCb taskCancelCb name w
  let w₂ := rsuUpnpLostClient name w₁
  let w₃ : World :=
    { w₂ with context := { w₂.context with watchers := w₂.context.watchers.erase name } }
  have hqueues : Apart w w₁ := (still_rsuTaskProcessorRemoveQueuesForSource name hok).toApart
  have hfiles : Apart w₁ w₂ := apart_setHostService _ w₁
  have hwatchers : Apart w w₃ :=
    hqueues.trans (hfiles.trans (still_setContext w₂ _).toApart)
  unfold prvRemoveClient
  dsimp only
  split
  · exact hwatchers.trans (still_rsuTaskProcessorSetQuitting _).toApart
  · exact hwatchers

/-- The input is a request of a client, or makes the process quit. -/
def Input.isRequest : Input → Bool
  | .managerCall _ .release => false
  | .managerCall _ _ | .propsCall _ _ _ | .rsuDeviceCall _ _ _ | .playerCall _ _ _
  | .pushHostCall _ _ _ | .cancelCall _ _ | .quitTimer | .signal | .nameLost => true
  | _ => false

theorem exec_still {i : Input} (hi : i.isRequest = true) : Still w (exec w i) := by
  cases i with
  | managerCall sender method =>
      have harrive : Still w w.newInvocation.2 := still_setContext w _
      cases method with
      | release => simp [Input.isRequest] at hi
      | getVersion => exact harrive.trans (still_prvAddTask sender.name _ rsuSink _ ⟨rfl, rfl, rfl⟩)
      | getServers => exact harrive.trans (still_prvAddTask sender.name _ rsuSink _ ⟨rfl, rfl, rfl⟩)
  | propsCall sender object method =>
      exact still_withDeviceId_addTask sender (f := fun n => method.new object n)
        fun n => by cases method <;> exact ⟨rfl, rfl, rfl⟩
  | rsuDeviceCall sender object method =>
      exact still_withDeviceId_addTask sender (f := fun n => method.new n)
        fun n => by cases method <;> exact ⟨rfl, rfl, rfl⟩
  | playerCall sender object method =>
      exact still_withDeviceId_addTask sender (f := fun n => method.new object n)
        fun n => by cases method <;> exact ⟨rfl, rfl, rfl⟩
  | pushHostCall sender object method =>
      exact still_withDeviceId_addTask sender (f := fun n => method.new sender.name object n)
        fun n => by cases method <;> exact ⟨rfl, rfl, rfl⟩
  | cancelCall sender object => exact still_prvRendererDeviceMethodCall sender.name object w
  | quitTimer =>
      have htimer : Still w (w.setLoop { w.loop with quitTimers := w.loop.quitTimers - 1 }) :=
        still_setLoop w rfl rfl fun _ ha => ha
      exact htimer.trans (still_setContext _ _)
  | signal => exact (still_rsuTaskProcessorSetQuitting w).trans (still_setContext _ _)
  | nameLost => exact still_rsuTaskProcessorSetQuitting w
  | _ => simp [Input.isRequest] at hi

/-- The input is a request of a client, the end of one, or a transfer. -/
def Input.isOutside : Input → Bool
  | .managerCall _ _ | .propsCall _ _ _ | .rsuDeviceCall _ _ _ | .playerCall _ _ _
  | .pushHostCall _ _ _ | .cancelCall _ _ | .lostClient _ | .soupRequest _ _ _ | .soupFinished _
  | .quitTimer | .signal | .nameLost => true
  | _ => false

theorem exec_apart {i : Input} (hok : ProcessorOk w) (hi : i.isOutside = true) :
    Apart w (exec w i) := by
  by_cases hrequest : i.isRequest = true
  · exact (exec_still hrequest).toApart
  · cases i with
    | managerCall sender method =>
        cases method with
        | release =>
            have harrive : Still w w.newInvocation.2 := still_setContext w _
            exact harrive.toApart.trans ((apart_prvRemoveClient sender.name (w := w.newInvocation.2)
              (hok.congr rfl rfl rfl rfl rfl rfl rfl)).trans (still_emit _ _).toApart)
        | _ => exact absurd rfl hrequest
    | lostClient name => exact apart_prvRemoveClient name hok
    | soupRequest mapped deviceIf msg => exact apart_setHostService _ w
    | soupFinished t =>
        show Apart w (soupFinished t w)
        unfold soupFinished
        split
        · exact apart_setHostService _ w
        · exact (still_crash w rfl).toApart
    | _ => simp_all [Input.isOutside, Input.isRequest]

/-! ## Replies -/

/-- The completion of the task is scheduled, after a change that keeps its device. -/
theorem still_completeWith {f : ClientTask → ClientTask}
    (hf : ∀ t, w.tasks a = some (.client t) → t.Becomes (f t)) : Still w (completeWith a f w) := by
  by_cases hclient : ∃ t, w.tasks a = some (.client t)
  · obtain ⟨t, ht⟩ := hclient
    unfold completeWith
    rw [modifyClient_eq ht]
    exact ⟨⟨⟨rfl, rfl, rfl, rfl, rfl, rfl, rfl, rfl, rfl, id⟩, .of_record (fun _ => rfl)
      (fun _ hb => if_neg hb) (fun _ hb => List.mem_append_left _ hb) ht
      (tasks_setTask _ _ _) (hf t ht)
      fun _ => .inr (List.mem_append_right _ List.mem_cons_self)⟩, rfl⟩
  · have hcrash : w.modifyClient a f = w.crash (.deadTask a) := by
      unfold World.modifyClient World.withClient
      split
      next t ht => exact absurd ⟨t, ht⟩ hclient
      · rfl
    unfold completeWith
    rw [hcrash]
    exact (still_crash w rfl).trans (still_idleAddComplete _ a)

theorem ClientTask.Reports.becomes {t t' : ClientTask} (h : t.Reports t')
    (hbegun : t.cancellable ≠ none) (hd : t'.device = t.device) :
    t.Becomes (gCancellableDisconnect t') := by
  obtain ⟨⟨-, hpath, hsync, -⟩, hcancellable, -, -⟩ := h
  refine ⟨hpath, hd, hsync, by simp [gCancellableDisconnect, hcancellable], ?_,
    fun hnone => absurd hnone hbegun⟩
  rintro ⟨c, hc, hcancelled⟩
  exact ⟨{ c with connected := false },
    by simp [gCancellableDisconnect, hcancellable, hc], hcancelled⟩

theorem endAction_device (env : Environment) (what : String) (t : ClientTask) :
    (endAction env what t).device = t.device := by
  unfold endAction
  split <;> rfl

theorem deviceLocalCb_becomes (env : Environment) (cb : DeviceLocalCb) (what : String)
    {t : ClientTask} (hbegun : t.cancellable ≠ none) :
    t.Becomes (deviceLocalCb env cb (endAction env what t)) := by
  have hended := endAction_reports env what t
  have hdevice := endAction_device env what t
  cases cb with
  | prvCompleteGetProp =>
      simp only [deviceLocalCb, prvCompleteGetProp]
      split
      next interfaceName _ _ =>
        refine (hended.trans (prvGetProp_reports env _ interfaceName)).becomes hbegun ?_
        rw [← hdevice]
        unfold prvGetProp
        split
        · split <;> rfl
        · rfl
      · exact hended.becomes hbegun hdevice
  | prvCompleteGetProps =>
      simp only [deviceLocalCb, prvCompleteGetProps]
      split
      next interfaceName _ =>
        refine (hended.trans (prvGetProps_reports _ interfaceName)).becomes hbegun ?_
        rw [← hdevice]
        unfold prvGetProps
        split <;> rfl
      · exact hended.becomes hbegun hdevice

theorem RegistryOk.alive_service (hr : RegistryOk w) {t : ServiceTask}
    (ht : w.tasks a = some (.service t)) : w.Alive t.device := by
  obtain ⟨q, ct, hq, hcs, hdata, hdevice⟩ := hr.constructions.tasks a t ht
  obtain ⟨-, ct', hdata', -, hct⟩ := hr.constructions.queues a.queueId q hq hcs
  obtain rfl := Option.some.inj (hdata.symm.trans hdata')
  rw [hdevice]
  exact (hr.maps.uc _ _ hct).2

theorem ClientTask.Armed.begun {t : ClientTask} (h : t.Armed) : t.cancellable ≠ none := by
  rw [show t.cancellable = _ from h]
  simp

theorem still_actionReply {action : ProxyAction} (h : ServiceOk handled w) (hr : RegistryOk w)
    (hc : ClientsOk w) (hmem : action ∈ w.gupnp.actions) (env : Environment) :
    Still w (actionReply action env w) := by
  obtain ⟨-, hexpects⟩ := h.outer.actions.awaited action hmem
  have hdropped := still_dropReply w action
  have hbegun : ∀ t, (w.dropReply action).tasks action.task = some (.client t) → t.Armed := by
    intro t ht
    have ht' : w.tasks action.task = some (.client t) := ht
    rw [ht'] at hexpects
    exact hexpects.2.2.1
  unfold actionReply
  cases hcb : action.callback with
  | rsuServiceTaskBeginActionCb =>
      refine hdropped.trans (still_withService _ _ fun t ht => ?_)
      have hset := still_setTask (w.dropReply action) action.task
        (r := some (.service { t with pAction := none })) (by simp)
      dsimp only
      split
      · exact hset.trans (still_crash _ rfl)
      next cb _ =>
        have halive : w.Alive t.device := hr.alive_service ht
        obtain ⟨dev, hdev⟩ := Alive.device halive
        have hstored : serviceTaskCallback env cb t
            ((w.dropReply action).setTask action.task
              (some (.service { t with pAction := none }))) =
            (w.dropReply action).setTask action.task
              (some (.service { t with pAction := none })) := by
          cases cb
          simp only [serviceTaskCallback, prvGetProtocolInfoCb]
          split
          · rfl
          · have hdev' : ((w.dropReply action).setTask action.task
                (some (.service { t with pAction := none }))).devices t.device = some dev := hdev
            simp only [World.withDevice, hdev']
        rw [hstored]
        exact hset.trans (still_rsuTaskQueueTaskCompleted _ _)
  | prvGetPositionInfoCb =>
      refine hdropped.trans (still_withClient _ _ fun t ht => ?_)
      have harmed : t.Armed := hbegun t ht
      split
      · exact still_crash _ rfl
      next cb _ =>
        unfold World.withTaskDevice
        split
        next d hd =>
          obtain ⟨dev, hdev⟩ := Alive.device (hc.alive ht harmed hd)
          have hdev' : (w.dropReply action).devices d = some dev := hdev
          simp only [World.withDevice, hdev']
          exact still_completeWith fun t ht => deviceLocalCb_becomes env cb _ (hbegun t ht).begun
        · exact still_crash _ rfl
  | prvSimpleCallCb =>
      exact hdropped.trans (still_completeWith fun t ht =>
        (endAction_reports env _ t).becomes (hbegun t ht).begun (endAction_device env _ t))

/-! ## Completions -/

theorem afterCompletion_record {k : TaskQueueKey} {q : TaskQueue} {t : ClientTask}
    (hgone : w.tasks a = none) (ht : (afterCompletion k q w).tasks a = some (.client t)) :
    t.Unbegun := by
  have hnever : w.tasks a = some (.client t) → t.Unbegun := fun h =>
    absurd (hgone.symm.trans h) (by simp)
  have hremove : (removeQueue taskDeleteCb k w).tasks a = some (.client t) → t.Unbegun := by
    intro hrecord
    rcases (still_removeQueue k w).records a t hrecord with ⟨t₀, ht₀, -⟩ | hfresh
    · exact absurd (hgone.symm.trans ht₀) (by simp)
    · exact hfresh
  unfold afterCompletion at ht
  split at ht
  · exact hnever ht
  · split at ht
    · exact hremove ht
    · split at ht
      · exact hnever ht
      · split at ht
        · exact hremove ht
        · exact hnever ht

/-- The record of the current task goes away when it is completed. -/
theorem rsuTaskQueueTaskCompleted_record {q : TaskQueue} {t : ClientTask}
    (hq : w.queue? a.queueId = some q) (ha : q.currentTask = some a)
    (hlive : q.callbacks.Live (w.tasks a))
    (ht : (rsuTaskQueueTaskCompleted taskDeleteCb a.queueId w).tasks a = some (.client t)) :
    t.Unbegun := by
  rw [rsuTaskQueueTaskCompleted_eq hq ha hlive] at ht
  refine afterCompletion_record ?_ ht
  show (if a ∈ [a] then none else w.tasks a) = none
  exact if_pos List.mem_cons_self

theorem still_rsuAsyncTaskComplete (a : TaskAtom) (w : World) :
    Still w (rsuAsyncTaskComplete a w) := by
  refine still_withClient w a fun t _ => ?_
  unfold prvAsyncTaskComplete
  dsimp only
  split
  · exact (still_emit w _).trans ((still_answerTask a _ _).trans
      (still_rsuTaskQueueTaskCompleted _ _))
  · exact (still_emit w _).trans ((still_answerTask a _ _).trans
      (still_rsuTaskQueueTaskCompleted _ _))

theorem completeIdle_goOn (h : ServiceOk handled w) (hmem : a ∈ w.loop.completeIdles) :
    DevicesStay w (exec w (.completeIdle a)) ∧ ClientsGoOn w (exec w (.completeIdle a)) := by
  obtain ⟨⟨q, hq, ha⟩, t, ht, -⟩ := h.outer.completions.pending a hmem
  let w₀ := w.setLoop { w.loop with completeIdles := w.loop.completeIdles.erase a }
  have hall : Still w₀ (exec w (.completeIdle a)) := still_rsuAsyncTaskComplete a w₀
  have hstart : DevicesStay w w₀ := ⟨rfl, rfl, rfl, rfl, rfl, rfl, rfl, rfl, rfl, id⟩
  refine ⟨hstart.trans hall.toDevicesStay, fun b t' ht' => ?_, fun k q' hq' hdefer => ?_⟩
  · by_cases hb : b = a
    · subst hb
      refine .inr ?_
      obtain ⟨-, -, -, hlive⟩ := (h.processor.queues _ q hq).current b ha
      let w₁ := w₀.emit (.completeRan b)
      have hanswered : ∀ reply : ClientTask → Reply,
          (rsuTaskQueueTaskCompleted taskDeleteCb b.queueId (answerTask b reply w₁)).tasks b =
            some (.client t') → t'.Unbegun := by
        intro reply hrecord
        have ht₁ : w₁.tasks b = some (.client t) := ht
        have htouch : Touches b w₁ (answerTask b reply w₁) := touches_answerTask reply
        refine rsuTaskQueueTaskCompleted_record ((htouch.queue? _).trans hq) ha ?_ hrecord
        exact htouch.request.live hlive
      have hexec : exec w (.completeIdle b) = prvAsyncTaskComplete b t.error w₁ := by
        have ht₀ : w₀.tasks b = some (.client t) := ht
        show rsuAsyncTaskComplete b w₀ = _
        simp only [rsuAsyncTaskComplete, World.withClient, ht₀]
        rfl
      rw [hexec] at ht'
      unfold prvAsyncTaskComplete at ht'
      dsimp only at ht'
      split at ht'
      · exact hanswered _ ht'
      · exact hanswered _ ht'
    · rcases hall.records b t' ht' with ⟨t₀, ht₀, hbecomes, hsettled⟩ | hfresh
      · exact .inl ⟨t₀, ht₀, hbecomes, fun hs => hsettled (hs.imp id fun hidle =>
          (List.mem_erase_of_ne hb).mpr hidle)⟩
      · exact .inr hfresh
  · exact hall.queues k q' hq' hdefer

/-! ## Commands -/

/-- The task `a` is carried out for the device `d`, or for none. -/
def World.Aims (w : World) (d : Nat) (a : TaskAtom) (w' : World) : Prop :=
  ∀ t t', w.tasks a = some (.client t) → w'.tasks a = some (.client t') →
    t'.device = t.device ∨ t'.device = some d

section Aims

theorem completeWith_record {t : ClientTask} (ht : w.tasks a = some (.client t))
    (f : ClientTask → ClientTask) : (completeWith a f w).tasks a = some (.client (f t)) := by
  rw [completeWith, modifyClient_eq ht]
  exact tasks_setTask w a _

theorem aims_completeWith {f : ClientTask → ClientTask} (h : HostService)
    (hf : ∀ t : ClientTask, (f t).device = t.device ∨ (f t).device = some d) :
    w.Aims d a (completeWith a f (w.setHostService h)) := by
  intro t t' ht ht'
  have hrecord := completeWith_record (w := w.setHostService h) ht f
  obtain rfl : f t = t' := by simpa using hrecord.symm.trans ht'
  exact hf t

theorem aims_complete {f : ClientTask → ClientTask}
    (hf : ∀ t : ClientTask, (f t).device = t.device ∨ (f t).device = some d) :
    w.Aims d a (completeWith a f w) := aims_completeWith w.upnp.hostService hf

theorem aims_withContext {f : DeviceContext → World} (hf : ∀ context, w.Aims d a (f context)) :
    w.Aims d a (w.withContext d f) := by
  intro t t' ht ht'
  rcases withContext_cases w d with ⟨g, -, hcrash⟩ | ⟨dev, context, hdev, hcontext⟩
  · rw [hcrash] at ht'
    obtain rfl : t = t' := by simpa using ht.symm.trans ht'
    exact .inl rfl
  · simp only [World.withContext, World.withDevice, hdev, hcontext] at ht'
    exact hf context t t' ht ht'

theorem aims_beginCommand (kind : ServiceKind) (name : String) (callback : ActionCallback)
    (localCb : Option DeviceLocalCb) :
    w.Aims d a (beginCommand d kind name callback localCb a w) := by
  intro t t' ht ht'
  rcases withContext_cases w d with ⟨g, -, hcrash⟩ | ⟨dev, context, hdev, hcontext⟩
  · rw [beginCommand, hcrash] at ht'
    obtain rfl : t = t' := by simpa using ht.symm.trans ht'
    exact .inl rfl
  · cases hproxy : context.serviceProxies.get kind with
    | none =>
        rw [beginCommand_none ht hdev hcontext hproxy, tasks_setTask] at ht'
        obtain rfl := Task.client.inj (Option.some.inj ht')
        exact .inr rfl
    | some p =>
        rw [beginCommand_some ht hdev hcontext hproxy, tasks_setTask] at ht'
        obtain rfl := Task.client.inj (Option.some.inj ht')
        exact .inr rfl

theorem aims_rsuDeviceSetProp (env : Environment) (interfaceName propName : String) :
    w.Aims d a (rsuDeviceSetProp env interfaceName propName d a w) := by
  unfold rsuDeviceSetProp
  split
  · exact aims_complete fun _ => .inr rfl
  · split
    · exact aims_complete fun _ => .inr rfl
    · split
      · exact aims_complete fun _ => .inr rfl
      · exact aims_beginCommand _ _ _ _

theorem prvGetProp_device (env : Environment) (t : ClientTask) (interfaceName : String) :
    (prvGetProp env t interfaceName).device = t.device := by
  unfold prvGetProp
  split
  · split <;> rfl
  · rfl

theorem prvGetProps_device (t : ClientTask) (interfaceName : String) :
    (prvGetProps t interfaceName).device = t.device := by
  unfold prvGetProps
  split <;> rfl

theorem aims_rsuDeviceGetProp (env : Environment) (interfaceName propName : String) :
    w.Aims d a (rsuDeviceGetProp env interfaceName propName d a w) := by
  unfold rsuDeviceGetProp
  split
  · exact aims_beginCommand _ _ _ _
  · exact aims_complete fun t => .inr (prvGetProp_device env { t with device := some d } _)

theorem aims_rsuDeviceGetAllProps (interfaceName : String) :
    w.Aims d a (rsuDeviceGetAllProps interfaceName d a w) := by
  unfold rsuDeviceGetAllProps
  split
  · exact aims_beginCommand _ _ _ _
  · exact aims_complete fun t => .inr (prvGetProps_device { t with device := some d } _)

theorem aims_rsuDevicePlayPause (env : Environment) :
    w.Aims d a (rsuDevicePlayPause env d a w) := by
  unfold rsuDevicePlayPause
  split <;> exact aims_beginCommand _ _ _ _

theorem aims_rsuDeviceHostUri (env : Environment) (uri client : String) :
    w.Aims d a (rsuDeviceHostUri env uri client d a w) := by
  refine aims_withContext fun context => ?_
  dsimp only
  refine aims_completeWith _ fun t => .inr ?_
  unfold ClientTask.hosted
  split <;> rfl

theorem aims_rsuDeviceRemoveUri (uri client : String) :
    w.Aims d a (rsuDeviceRemoveUri uri client d a w) := by
  refine aims_withContext fun context => ?_
  dsimp only
  refine aims_completeWith _ fun t => .inr ?_
  unfold ClientTask.unhosted
  split <;> rfl

/-- A request is carried out for the device of its path, or for none. -/
theorem prvProcessAsyncTask_device {t t' : ClientTask} (env : Environment)
    (ht : w.tasks a = some (.client t))
    (ht' : (prvProcessAsyncTask env a w).tasks a = some (.client t')) :
    t'.device = t.device ∨ ∃ d, t'.device = some d ∧
      rsuDeviceFromPath t.path w.upnp.serverUdnMap w = some d := by
  let t₁ : ClientTask := { t with cancellable := some {} }
  let w₁ := w.setTask a (some (.client t₁))
  have hmark : (w.modifyClient a fun t => { t with cancellable := some {} }) = w₁ :=
    modifyClient_eq ht _
  have ht₁ : w₁.tasks a = some (.client t₁) := tasks_setTask _ _ _
  have hserver : ∀ command : Nat → TaskAtom → World → World,
      (∀ d, w₁.Aims d a (command d a w₁)) →
      (withServer command a w₁).tasks a = some (.client t') →
      t'.device = t.device ∨ ∃ d, t'.device = some d ∧
        rsuDeviceFromPath t.path w.upnp.serverUdnMap w = some d := by
    intro command haims hrecord
    simp only [withServer, World.withClient, ht₁] at hrecord
    split at hrecord
    next d hd => exact (haims d t₁ t' ht₁ hrecord).imp id fun hdevice => ⟨d, hdevice, hd⟩
    · rw [completeWith_record ht₁] at hrecord
      obtain rfl := Task.client.inj (Option.some.inj hrecord)
      exact .inl rfl
  simp only [prvProcessAsyncTask, World.withClient, ht, hmark] at ht'
  cases htype : t.type with
  | getVersion | getServers | raise | quit =>
      simp only [htype, ht₁] at ht'
      obtain rfl := Task.client.inj (Option.some.inj ht')
      exact .inl rfl
  | getProp i p =>
      rw [htype] at ht'
      exact hserver _ (fun d => aims_rsuDeviceGetProp env i p) ht'
  | getAllProps i =>
      rw [htype] at ht'
      exact hserver _ (fun d => aims_rsuDeviceGetAllProps i) ht'
  | setProp i p =>
      rw [htype] at ht'
      exact hserver _ (fun d => aims_rsuDeviceSetProp env i p) ht'
  | playPause =>
      rw [htype] at ht'
      exact hserver _ (fun d => aims_rsuDevicePlayPause env) ht'
  | hostUri uri client =>
      rw [htype] at ht'
      exact hserver _ (fun d => aims_rsuDeviceHostUri env uri client) ht'
  | removeUri uri client =>
      rw [htype] at ht'
      exact hserver _ (fun d => aims_rsuDeviceRemoveUri uri client) ht'
  | play | pause | stop | next | previous | openUri _ | seek _ | setPosition _ | gotoTrack _ =>
      rw [htype] at ht'
      exact hserver _ (fun d => aims_beginCommand _ _ _ _) ht'

end Aims

/-! ## Processing -/

theorem rsuDeviceFromPath_serves {path : String}
    (h : rsuDeviceFromPath path w.upnp.serverUdnMap w = some d) : w.Serves d path := by
  obtain ⟨e, he, rfl⟩ := Option.map_eq_some_iff.mp h
  have hfound := List.find?_some he
  obtain ⟨dev, hdev, hpath⟩ := (Option.any_eq_true _ _).mp hfound
  refine ⟨⟨e.1, Assoc.lookup_of_mem_entries (List.mem_of_find?_eq_some he)⟩, ?_⟩
  have hdev' : w.devices e.2 = some dev := hdev
  simpa [World.path, hdev'] using hpath

theorem HoldersOk.begin (h : HoldersOk w) (hstay : DevicesStay w w')
    (hqueues : ∀ k, w'.queue? k = w.queue? k) (hothers : ∀ b, b ≠ a → w'.tasks b = w.tasks b)
    (hidles : ∀ b ∈ w.loop.completeIdles, b ∈ w'.loop.completeIdles)
    (hunmarked : ∀ k q, w.queue? k = some q → q.currentTask = some a → q.deferRemove = false)
    {t : ClientTask} (ht : w'.tasks a = some (.client t)) (hasync : t.synchronous = false)
    (hbegun : t.cancellable ≠ none) (hsettled : w'.Settled a t)
    (hdevice : ∀ d, t.device = some d → w.Serves d t.path) : HoldersOk w' := by
  have hcase : ∀ b t', w'.tasks b = some (.client t') →
      (b = a ∧ t' = t) ∨ (b ≠ a ∧ w.tasks b = some (.client t')) := by
    intro b t' ht'
    by_cases hb : b = a
    · subst hb
      exact .inl ⟨rfl, by simpa using ht'.symm.trans ht⟩
    · exact .inr ⟨hb, hothers b hb ▸ ht'⟩
  refine ⟨h.attached.stay hstay, ⟨?_, ?_, ?_, ?_⟩⟩
  · intro b t' ht' hbegun'
    rcases hcase b t' ht' with ⟨rfl, rfl⟩ | ⟨-, hold⟩
    · exact ⟨hasync, hsettled⟩
    · exact (h.clients.begun b t' hold hbegun').imp id fun hs => hs.imp id (hidles b)
  · intro b t' ht' hnone
    rcases hcase b t' ht' with ⟨rfl, rfl⟩ | ⟨-, hold⟩
    · exact absurd hnone hbegun
    · exact h.clients.unbegun b t' hold hnone
  · intro b t' d ht' hd
    rcases hcase b t' ht' with ⟨rfl, rfl⟩ | ⟨-, hold⟩
    · exact .inr (hstay.serves (hdevice d hd))
    · exact (h.clients.serves b t' d hold hd).imp id fun hs => hstay.serves hs
  · intro k q hq hdefer
    rw [hqueues] at hq
    obtain ⟨hidle, hgiven⟩ := h.clients.deferred k q hq hdefer
    refine ⟨hidle, fun b t' hb ht' => ?_⟩
    rcases hcase b t' ht' with ⟨rfl, rfl⟩ | ⟨-, hold⟩
    · have hnot := hunmarked k q hq hb
      simp [hdefer] at hnot
    · exact hgiven b t' hb hold

section Commands

variable {t : ClientTask} {path : String}

/-- A device without contexts ends the program. -/
theorem crash_holdersOk {f : Fault}
    (hd : rsuDeviceFromPath path (w.setTask a (some (.client t))).upnp.serverUdnMap
      (w.setTask a (some (.client t))) = some d)
    (hall : ∀ w', (w.setTask a (some (.client t))).withContext d w' =
      (w.setTask a (some (.client t))).crash f) :
    Sound w ((w.setTask a (some (.client t))).crash f) ∧
      (((w.setTask a (some (.client t))).crash f).fault = none →
        HoldersOk ((w.setTask a (some (.client t))).crash f)) := by
  have halive : (w.setTask a (some (.client t))).Alive d := by
    have hp := (rsuDeviceFromPath_serves hd).2
    simp [World.Alive, hp]
  have hsound := sound_withContext (w := w.setTask a (some (.client t)))
    (f := fun _ => w.setTask a (some (.client t))) halive fun _ => .refl
  rw [hall] at hsound
  refine ⟨⟨hsound.alive, hsound.dangling⟩, fun hfault => ?_⟩
  unfold World.crash at hfault
  simp at hfault

theorem completeWith_holdersOk {f : ClientTask → ClientTask} {hs : HostService} (h : HoldersOk w)
    (hunmarked : ∀ k q, w.queue? k = some q → q.currentTask = some a → q.deferRemove = false)
    (hasync : t.synchronous = false) (hbegun : t.cancellable ≠ none) (hf : t.Reports (f t))
    (hserves : ∀ t', (completeWith a f
      ((w.setTask a (some (.client t))).setHostService hs)).tasks a = some (.client t') →
        ∀ d, t'.device = some d → w.Serves d t.path) :
    let w' := completeWith a f ((w.setTask a (some (.client t))).setHostService hs)
    Sound w w' ∧ (w'.fault = none → HoldersOk w') := by
  have heq : completeWith a f ((w.setTask a (some (.client t))).setHostService hs) =
      ((w.setTask a (some (.client (f t)))).setHostService hs).idleAddComplete a := by
    rw [completeWith, setHostService_setTask, modifyClient_eq (tasks_setTask _ _ _),
      setTask_setTask, setHostService_setTask]
  dsimp only
  rw [heq] at hserves ⊢
  obtain ⟨⟨-, hpath, hsync, -⟩, hcancellable, -, -⟩ := hf
  have hstay : DevicesStay w
      (((w.setTask a (some (.client (f t)))).setHostService hs).idleAddComplete a) :=
    ⟨rfl, rfl, rfl, rfl, rfl, rfl, rfl, rfl, rfl, id⟩
  refine ⟨hstay.sound, fun _ => h.begin hstay (fun _ => rfl) (fun b hb => if_neg hb)
    (fun _ hb => List.mem_append_left _ hb) hunmarked (tasks_setTask _ _ _)
    (hsync.trans hasync) (hcancellable ▸ hbegun)
    (.inr (List.mem_append_right _ List.mem_cons_self)) ?_⟩
  rw [hpath]
  exact hserves _ (tasks_setTask _ _ _)

theorem beginCommand_holdersOk {kind : ServiceKind} {name : String} {callback : ActionCallback}
    {localCb : Option DeviceLocalCb} (h : HoldersOk w)
    (hunmarked : ∀ k q, w.queue? k = some q → q.currentTask = some a → q.deferRemove = false)
    (hasync : t.synchronous = false) (hbegun : t.cancellable = some {})
    (hd : rsuDeviceFromPath path (w.setTask a (some (.client t))).upnp.serverUdnMap
      (w.setTask a (some (.client t))) = some d)
    (hserves : ∀ t', (beginCommand d kind name callback localCb a
      (w.setTask a (some (.client t)))).tasks a = some (.client t') →
        ∀ d, t'.device = some d → w.Serves d t.path) :
    let w' := beginCommand d kind name callback localCb a (w.setTask a (some (.client t)))
    Sound w w' ∧ (w'.fault = none → HoldersOk w') := by
  dsimp only
  rcases withContext_cases (w.setTask a (some (.client t))) d with
    ⟨f, hf, hcrash⟩ | ⟨dev, context, hdev, hcontext⟩
  · rw [beginCommand, hcrash]
    exact crash_holdersOk hd hcrash
  · have hwrites : ∀ proxy action, ∀ w' : World,
        w'.tasks a = some (.client (t.begun d localCb proxy action)) → DevicesStay w w' →
        (∀ k, w'.queue? k = w.queue? k) → (∀ b, b ≠ a → w'.tasks b = w.tasks b) →
        (∀ b ∈ w.loop.completeIdles, b ∈ w'.loop.completeIdles) →
        (∀ t', w'.tasks a = some (.client t') → ∀ d, t'.device = some d → w.Serves d t.path) →
        Sound w w' ∧ (w'.fault = none → HoldersOk w') := by
      intro proxy action w' ht' hstay hqueues hothers hidles hserves
      exact ⟨hstay.sound, fun _ => h.begin hstay hqueues hothers hidles hunmarked ht' hasync
        (by simp [ClientTask.begun, hbegun])
        (.inl (by simp [ClientTask.Armed, ClientTask.begun, hbegun])) (hserves _ ht')⟩
    cases hproxy : context.serviceProxies.get kind with
    | none =>
        rw [beginCommand_none (tasks_setTask _ _ _) hdev hcontext hproxy, setTask_setTask]
          at hserves ⊢
        exact hwrites none none _ (tasks_setTask _ _ _)
          ⟨rfl, rfl, rfl, rfl, rfl, rfl, rfl, rfl, rfl, id⟩ (fun _ => rfl)
          (fun b hb => if_neg hb) (fun _ hb => hb) hserves
    | some p =>
        rw [beginCommand_some (tasks_setTask _ _ _) hdev hcontext hproxy,
          beginAction_setTask, setTask_setTask] at hserves ⊢
        exact hwrites (some p) (some w.gupnp.nextAction) _ (tasks_setTask _ _ _)
          ⟨rfl, rfl, rfl, rfl, rfl, rfl, rfl, rfl, rfl, id⟩ (fun _ => rfl)
          (fun b hb => if_neg hb) (fun _ hb => hb) hserves

/-- The request of a task that was just handed over is carried out. -/
theorem Command.holdersOk (h : HoldersOk w) (ht : w.tasks a = some (.client t))
    (hasync : t.synchronous = false)
    (hunmarked : ∀ k q, w.queue? k = some q → q.currentTask = some a → q.deferRemove = false)
    (hcommand : Command t.path a (w.markCancellable a) w')
    (hdevice : ∀ t', w'.tasks a = some (.client t') → t'.device = t.device ∨
      ∃ d, t'.device = some d ∧ rsuDeviceFromPath t.path w.upnp.serverUdnMap w = some d)
    (hnone : t.device = none) : Sound w w' ∧ (w'.fault = none → HoldersOk w') := by
  have hmark : w.markCancellable a =
      w.setTask a (some (.client { t with cancellable := some {} })) := modifyClient_eq ht _
  have hserves : ∀ t', w'.tasks a = some (.client t') → ∀ d, t'.device = some d →
      w.Serves d t.path := by
    intro t' ht' d hd
    rcases hdevice t' ht' with hsame | ⟨d', hd', hfound⟩
    · rw [hsame, hnone] at hd
      simp at hd
    · obtain rfl := Option.some.inj (hd.symm.trans hd')
      exact rsuDeviceFromPath_serves hfound
  rw [hmark] at hcommand
  cases hcommand with
  | complete hs hf =>
      exact completeWith_holdersOk h hunmarked hasync (Option.some_ne_none _) (hf _) hserves
  | begin kind name localCb hd _ =>
      exact beginCommand_holdersOk h hunmarked hasync rfl hd hserves
  | crash hd hall _ => exact crash_holdersOk hd hall

end Commands

theorem still_prvProcessSyncTask (a : TaskAtom) (w : World) : Still w (prvProcessSyncTask a w) := by
  refine still_withClient w a fun t ht => ?_
  have hanswered : ∀ (w : World) (reply : ClientTask → Reply), Still w
      (rsuTaskQueueTaskCompleted taskDeleteCb a.queueId (answerTask a reply w)) := fun w reply =>
    (still_answerTask a reply w).trans (still_rsuTaskQueueTaskCompleted a.queueId _)
  split
  · exact hanswered w _
  · have hset : Still w (w.modifyClient a fun t =>
        { t with result := some (.servers (rsuUpnpGetServerIds w)) }) := by
      rw [modifyClient_eq ht]
      exact still_setClient w _ ht ⟨rfl, rfl, rfl, Iff.rfl, id, fun _ => rfl⟩ .inl
    exact hset.trans (hanswered _ _)
  · exact hanswered w _
  · exact hanswered w _
  · exact .refl

theorem serviceTaskAction_holdersOk {t : ServiceTask} (env : Environment) (hh : HoldersOk w)
    (hd : w.Alive t.device) (action : ServiceTaskAction) :
    Sound w (serviceTaskAction env action t a w).2.2 ∧
      HoldersOk (serviceTaskAction env action t a w).2.2 := by
  cases action with
  | prvGetProtocolInfo =>
      have hstill : Still w (serviceTaskAction env .prvGetProtocolInfo t a w).2.2 := by
        simp only [serviceTaskAction, prvGetProtocolInfo, gupnpServiceProxyBeginAction]
        split
        · exact .refl
        · exact ⟨⟨⟨rfl, rfl, rfl, rfl, rfl, rfl, rfl, rfl, rfl, id⟩,
            .of_same rfl (fun _ ha => ha) fun _ => rfl⟩, rfl⟩
      exact ⟨hstill.sound, hh.apart hstill.toApart⟩
  | prvSubscribe =>
      exact ⟨sound_prvDeviceSubscribeContext hd, hh.attached.subscribe_context t.device,
        hh.clients.cosmetic (cosmetic_prvDeviceSubscribeContext t.device)⟩
  | prvDeclare =>
      exact ⟨sound_prvDeclare env hd, hh.attached.declare env t,
        hh.clients.cosmetic (cosmetic_prvDeclare env t)⟩

theorem rsuServiceTaskProcessCb_holdersOk (env : Environment) (hr : RegistryOk w)
    (hh : HoldersOk w) : Sound w (rsuServiceTaskProcessCb (serviceTaskAction env) a w) ∧
      HoldersOk (rsuServiceTaskProcessCb (serviceTaskAction env) a w) := by
  have hfinish : ∀ {w₁ w' : World}, Sound w w₁ ∧ HoldersOk w₁ → Still w₁ w' →
      Sound w w' ∧ HoldersOk w' := fun h hstill =>
    ⟨h.1.trans hstill.sound, h.2.apart hstill.toApart⟩
  unfold rsuServiceTaskProcessCb World.withService
  split
  next t ht =>
    have haction := serviceTaskAction_holdersOk (a := a) env hh (hr.alive_service ht) t.tAction
    have hset := still_setTask (serviceTaskAction env t.tAction t a w).2.2 a
      (r := some (.service { t with pAction := (serviceTaskAction env t.tAction t a w).1 }))
      (by simp)
    dsimp only
    split
    · exact hfinish haction (hset.trans (still_rsuTaskProcessorCancelQueue _ _))
    · split
      · exact hfinish haction (hset.trans (still_rsuTaskQueueTaskCompleted _ _))
      · exact hfinish haction hset
  · exact hfinish ⟨.refl, hh⟩ (still_crash w rfl)

theorem still_dispatchTask {k : TaskQueueKey} {q : TaskQueue} (hq : w.queue? k = some q)
    (hunmarked : q.deferRemove = false) (a : TaskAtom) (rest : List TaskAtom) :
    Still w (w.dispatchTask k a rest) := by
  let w₁ := w.modifyQueue k fun q =>
    { q with cancelled := false, idleId := 0, currentTask := some a, tasks := rest }
  have hmodify : Still w w₁ := by
    refine still_modifyQueue w k fun q' hq' hdefer => ?_
    rw [Option.some.inj (hq'.symm.trans hq)] at hdefer
    simp [hunmarked] at hdefer
  have hrunning : Still w₁ (w₁.setRunning (w.processor.runningTasks + 1)) :=
    still_setProcessor w₁ rfl
  exact hmodify.trans (hrunning.trans (still_emit _ _))

theorem processIdle_holdersOk {id : Nat} {k : TaskQueueKey} (env : Environment)
    (h : ServiceOk handled w) (hr : RegistryOk w) (hh : HoldersOk w)
    (hidle : (id, k) ∈ w.loop.processIdles) :
    Sound w (exec w (.processIdle id k env)) ∧
      ((exec w (.processIdle id k env)).fault = none →
        HoldersOk (exec w (.processIdle id k env))) := by
  obtain ⟨q, a, rest, hq, rfl, hne, hcons, rfl, heq⟩ :=
    prvTaskQueueProcessTask_dispatch env h.processor hidle
  let w₁ := (w.sourceRemoveProcess q.idleId).dispatchTask a.queueId a rest
  change Sound w (prvTaskQueueProcessTask _ _ _) ∧
    (World.fault (prvTaskQueueProcessTask _ _ _) = none →
      HoldersOk (prvTaskQueueProcessTask _ _ _))
  rw [heq]
  have hunmarked : q.deferRemove = false := by
    by_contra hdefer
    exact hne (hh.clients.deferred _ q hq (by simpa using hdefer)).1
  have hstill : Still w w₁ := (still_sourceRemoveProcess w q.idleId).trans
    (still_dispatchTask (w := w.sourceRemoveProcess q.idleId) hq hunmarked a rest)
  have hrun : (serviceSteps (fun _ => True) handled).Run w w₁ :=
    .one (.dispatch hq hne hcons) ⟨trivial, trivial⟩
  have hh₁ := hh.apart hstill.toApart
  have hr₁ := hr.unseen (unseen_of_run hrun h)
  have hfresh := (h.processor.queues _ q hq).fresh a (hcons ▸ List.mem_cons_self)
  have hfinish : ∀ w', Sound w₁ w' ∧ (w'.fault = none → HoldersOk w') →
      Sound w w' ∧ (w'.fault = none → HoldersOk w') := fun w' hw' =>
    ⟨hstill.sound.trans hw'.1, hw'.2⟩
  refine hfinish _ ?_
  cases hcs : q.callbacks with
  | service =>
      obtain ⟨hsound, hholders⟩ := rsuServiceTaskProcessCb_holdersOk (a := a) env hr₁ hh₁
      exact ⟨hsound, fun _ => hholders⟩
  | client =>
      rw [hcs] at hfresh
      obtain ⟨t, ht⟩ := TaskCallbacks.live_client hfresh.live
      have hnone : t.cancellable = none := by simpa [TaskCallbacks.Fresh, ht] using hfresh
      have ht₁ : w₁.tasks a = some (.client t) := ht
      show Sound w₁ (prvProcessTask env a w₁) ∧ ((prvProcessTask env a w₁).fault = none →
        HoldersOk (prvProcessTask env a w₁))
      simp only [prvProcessTask, World.withClient, ht₁]
      split
      · have hsync := still_prvProcessSyncTask a w₁
        exact ⟨hsync.sound, fun _ => hh₁.apart hsync.toApart⟩
      next hsync =>
        have hasync : t.synchronous = false := by simpa using hsync
        have htype : t.type.isAsync = true := by
          have hsuits := (h.outer.requests a t ht).1
          simpa [hasync] using hsuits
        refine Command.holdersOk hh₁ ht₁ hasync (fun k' q' hq' hcurrent => ?_)
          (prvProcessAsyncTask_command env ht₁ htype)
          (fun t' ht' => prvProcessAsyncTask_device env ht₁ ht')
          (hh₁.clients.unbegun a t ht₁ hnone).2.1
        obtain rfl : a.queueId = k' :=
          (((hrun.inv h).processor.queues k' q' hq').current a hcurrent).1
        have hq₁ : w₁.queue? a.queueId = _ := queue?_dispatchTask _ _ _ a rest
        rw [if_pos rfl] at hq₁
        have hq₂ : (w.sourceRemoveProcess q.idleId).queue? a.queueId = some q := hq
        rw [hq₂] at hq₁
        obtain rfl := Option.some.inj (hq'.symm.trans hq₁)
        exact hunmarked

end RendererService
