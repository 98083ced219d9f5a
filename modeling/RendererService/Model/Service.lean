import RendererService.Model.Upnp
import RendererService.Lib.Transition

/-!
# renderer-service-upnp.c

The D-Bus methods, the processing of client tasks, and the process as a
transition system: what the main loop, D-Bus and GUPnP may deliver next, and
what the code does with it.  The runs start when the bus has been acquired.
-/

namespace RendererService

/-! ## Processing client tasks -/

def prvProcessSyncTask (a : TaskAtom) (w : World) : World :=
  w.withClient a fun t =>
    match t.type with
    | .getVersion =>
        rsuTaskQueueTaskCompleted taskDeleteCb a.queueId (rsuTaskComplete a w)
    | .getServers =>
        let w := w.modifyClient a fun t =>
          { t with result := some (.servers (rsuUpnpGetServerIds w)) }
        rsuTaskQueueTaskCompleted taskDeleteCb a.queueId (rsuTaskComplete a w)
    | .raise | .quit =>
        rsuTaskQueueTaskCompleted taskDeleteCb a.queueId
          (rsuTaskFail a ⟨.notSupported, "Command not supported."⟩ w)
    | _ => w

def prvAsyncTaskComplete (a : TaskAtom) (error : Option GError) (w : World) : World :=
  let w :=
    match error with
    | some error => rsuTaskFail a error w
    | none => rsuTaskComplete a w
  rsuTaskQueueTaskCompleted taskDeleteCb a.queueId w

/-- `rsu_async_task_complete` of async.c; its callback is always
`prv_async_task_complete`. -/
def rsuAsyncTaskComplete (a : TaskAtom) (w : World) : World :=
  w.withClient a fun t => prvAsyncTaskComplete a t.error (w.emit (.completeRan a))

def prvProcessAsyncTask (env : Environment) (a : TaskAtom) (w : World) : World :=
  w.withClient a fun t =>
    let w := w.modifyClient a fun t => { t with cancellable := some {} }
    match t.type with
    | .getProp interfaceName propName => rsuUpnpGetProp env interfaceName propName a w
    | .getAllProps interfaceName => rsuUpnpGetAllProps interfaceName a w
    | .setProp interfaceName propName => rsuUpnpSetProp env interfaceName propName a w
    | .play => rsuUpnpPlay a w
    | .pause => rsuUpnpPause a w
    | .playPause => rsuUpnpPlayPause env a w
    | .stop => rsuUpnpStop a w
    | .next => rsuUpnpNext a w
    | .previous => rsuUpnpPrevious a w
    | .openUri _ => rsuUpnpOpenUri a w
    | .seek _ => rsuUpnpSeek a w
    | .setPosition _ => rsuUpnpSetPosition a w
    | .gotoTrack _ => rsuUpnpGotoTrack a w
    | .hostUri uri client => rsuUpnpHostUri env uri client a w
    | .removeUri uri client => rsuUpnpRemoveUri uri client a w
    | .getVersion | .getServers | .raise | .quit => w

def prvProcessTask (env : Environment) (a : TaskAtom) (w : World) : World :=
  w.withClient a fun t =>
    if t.synchronous then prvProcessSyncTask a w else prvProcessAsyncTask env a w

/-- `task_process_cb` of the two kinds of queues. -/
def taskProcessCb (env : Environment) : TaskCallback
  | .client => prvProcessTask env
  | .service => rsuServiceTaskProcessCb (serviceTaskAction env)

/-! ## Clients -/

def prvRemoveClient (name : String) (w : World) : World :=
  let w := rsuTaskProcessorRemoveQueuesForSource taskDeleteCb taskCancelCb name w
  let w := rsuUpnpLostClient name w
  let w := { w with context := { w.context with watchers := w.context.watchers.erase name } }
  if w.context.watchers = [] ∧ ¬w.context.neverQuit then
    rsuTaskProcessorSetQuitting taskDeleteCb taskCancelCb w
  else w

def autoStart : TaskQueueFlags := { autoStart := true }

/-- The queue of a client and a sink, added if there is none. -/
def lookupOrAddQueue (clientName sink : String) (w : World) : TaskQueueKey × World :=
  match rsuTaskProcessorLookupQueue w clientName sink with
  | some k => (k, w)
  | none => rsuTaskProcessorAddQueue taskDeleteCb clientName sink autoStart .client w

def prvAddTask (clientName : String) (invocation : Nat) (task : ClientTask) (sink : String)
    (w : World) : World :=
  let w :=
    if clientName ∈ w.context.watchers then w
    else
      { w with context := { w.context with watchers := w.context.watchers ++ [clientName] } }
  let (k, w) := lookupOrAddQueue clientName sink w
  let a := w.newAtom k
  (rsuTaskQueueAddTask k (.client task) w).emit (.wrapped invocation a)

/-! ## D-Bus methods -/

/-- The number of the next `GDBusMethodInvocation`. -/
def World.newInvocation (w : World) : Nat × World :=
  (w.context.nextInvocation,
    { w with context := { w.context with nextInvocation := w.context.nextInvocation + 1 } })

inductive ManagerMethod
  | getVersion
  | getServers
  | release
deriving DecidableEq, Repr

def prvRsuMethodCall (sender : String) (method : ManagerMethod) (w : World) : World :=
  let (invocation, w) := w.newInvocation
  match method with
  | .release => (prvRemoveClient sender w).emit (.answered invocation (.value none))
  | .getVersion =>
      prvAddTask sender invocation (rsuTaskGetVersionNew invocation) rsuSink w
  | .getServers =>
      prvAddTask sender invocation (rsuTaskGetServersNew invocation) rsuSink w

/-- The path of the device at an object path; the error names no device. -/
def prvGetDeviceId (object : String) (w : World) : Except GError String :=
  match (rsuDeviceFromPath object w.upnp.serverUdnMap w).bind w.devices with
  | some dev => .ok dev.path
  | none =>
      .error ⟨.objectNotFound,
        "Cannot locate device corresponding to the specified path"⟩

/-- What the method handlers of a device share. -/
def withDeviceId (object : String) (f : Nat → String → World → World) (w : World) :
    World :=
  let (invocation, w) := w.newInvocation
  match prvGetDeviceId object w with
  | .ok deviceId => f invocation deviceId w
  | .error error => w.emit (.answered invocation (.error error))

inductive PropsMethod
  | getAll (interfaceName : String)
  | get (interfaceName propName : String)
  | set (interfaceName propName : String)
deriving DecidableEq, Repr

def PropsMethod.new (object : String) (invocation : Nat) : PropsMethod → ClientTask
  | .getAll i => rsuTaskGetPropsNew invocation object i
  | .get i p => rsuTaskGetPropNew invocation object i p
  | .set i p => rsuTaskSetPropNew invocation object i p

def prvPropsMethodCall (sender object : String) (method : PropsMethod) : World → World :=
  withDeviceId object fun invocation =>
    prvAddTask sender invocation (method.new object invocation)

inductive RsuDeviceMethod
  | raise
  | quit
deriving DecidableEq, Repr

def RsuDeviceMethod.new (invocation : Nat) : RsuDeviceMethod → ClientTask
  | .raise => rsuTaskRaiseNew invocation
  | .quit => rsuTaskQuitNew invocation

def prvRsuDeviceMethodCall (sender object : String) (method : RsuDeviceMethod) :
    World → World :=
  withDeviceId object fun invocation =>
    prvAddTask sender invocation (method.new invocation)

inductive PlayerMethod
  | play
  | pause
  | playPause
  | stop
  | next
  | previous
  | openUri (uri : String)
  | seek (position : Int)
  | setPosition (position : Int)
  | gotoTrack (trackNumber : Nat)
deriving DecidableEq, Repr

def PlayerMethod.new (object : String) (invocation : Nat) : PlayerMethod → ClientTask
  | .play => rsuTaskPlayNew invocation object
  | .pause => rsuTaskPauseNew invocation object
  | .playPause => rsuTaskPlayPauseNew invocation object
  | .stop => rsuTaskStopNew invocation object
  | .next => rsuTaskNextNew invocation object
  | .previous => rsuTaskPreviousNew invocation object
  | .openUri uri => rsuTaskOpenUriNew invocation object uri
  | .seek position => rsuTaskSeekNew invocation object position
  | .setPosition position => rsuTaskSetPositionNew invocation object position
  | .gotoTrack trackNumber => rsuTaskGotoTrackNew invocation object trackNumber

def prvRsuPlayerMethodCall (sender object : String) (method : PlayerMethod) :
    World → World :=
  withDeviceId object fun invocation =>
    prvAddTask sender invocation (method.new object invocation)

inductive PushHostMethod
  | hostFile (uri : String)
  | removeFile (uri : String)
deriving DecidableEq, Repr

def PushHostMethod.new (sender object : String) (invocation : Nat) :
    PushHostMethod → ClientTask
  | .hostFile uri => rsuTaskHostUriNew invocation object uri sender
  | .removeFile uri => rsuTaskRemoveUriNew invocation object uri sender

def prvRsuPushHostMethodCall (sender object : String) (method : PushHostMethod) :
    World → World :=
  withDeviceId object fun invocation =>
    prvAddTask sender invocation (method.new sender object invocation)

/-- Cancel, the only method of the interface. -/
def prvRendererDeviceMethodCall (sender object : String) : World → World :=
  withDeviceId object fun invocation deviceId w =>
    let w :=
      match rsuTaskProcessorLookupQueue w sender deviceId with
      | some k => rsuTaskProcessorCancelQueue taskDeleteCb taskCancelCb k w
      | none => w
    w.emit (.answered invocation (.value none))

/-! ## Quitting -/

def prvContextQuitCb (w : World) : World :=
  let w := rsuUpnpUnsubscribe { w with context := { w.context with ownerId := false } }
  { w with loop := { w.loop with quitTimers := w.loop.quitTimers + 1 } }

def prvContextMainloopQuitCb (w : World) : World :=
  { w with context := { w.context with mainLoopRuns := false } }

def prvNameLost (w : World) : World :=
  rsuTaskProcessorSetQuitting taskDeleteCb taskCancelCb w

def prvQuitHandler (w : World) : World :=
  let w := rsuTaskProcessorSetQuitting taskDeleteCb taskCancelCb w
  { w with context := { w.context with sigId := false } }

def prvRsuContextFree (w : World) : World :=
  let w := rsuUpnpDelete w
  let w := { w with context := { w.context with watchers := [] } }
  let w := rsuTaskProcessorFree taskDeleteCb w
  { w with context := { w.context with freed := true } }

/-! ## The process as a transition system -/

structure BusName where
  name : String
  unique : name.toList.head? = some ':'
deriving DecidableEq

/-- What may happen next. -/
inductive Input
  | managerCall (sender : BusName) (method : ManagerMethod)
  | propsCall (sender : BusName) (object : String) (method : PropsMethod)
  | rsuDeviceCall (sender : BusName) (object : String) (method : RsuDeviceMethod)
  | playerCall (sender : BusName) (object : String) (method : PlayerMethod)
  | pushHostCall (sender : BusName) (object : String) (method : PushHostMethod)
  | cancelCall (sender : BusName) (object : String)
  | lostClient (name : String)
  | available (udn ipAddress : String) (offered : DeviceServices)
  | unavailable (udn ipAddress : String)
  | reply (action : ProxyAction) (env : Environment)
  | processIdle (id : Nat) (k : TaskQueueKey) (env : Environment)
  | finallyIdle (q : TaskQueue)
  | completeIdle (a : TaskAtom)
  | subscribeTimer (id d : Nat)
  | notify (proxy : ServiceProxy)
  | subscriptionLost (proxy : ServiceProxy)
  | retryTimer (h : ProxyHandler)
  | soupRequest (mapped : Bool) (deviceIf : String) (msg : SoupMessage)
  | soupFinished (t : Transfer)
  | quitIdle
  | quitTimer
  | signal
  | nameLost
  /-- the iteration order of the hash tables, which GLib leaves open, changes -/
  | rehash (queues : Assoc.Table TaskQueueKey TaskQueue) (devices : Assoc.Table String Nat)
  /-- the main loop has ended -/
  | contextFree

/-- Whether the environment can deliver the input. -/
def Input.enabled (w : World) (i : Input) : Bool :=
  !w.context.freed &&
    match i with
    | .managerCall _ _ | .propsCall _ _ _ | .rsuDeviceCall _ _ _ | .playerCall _ _ _
    | .pushHostCall _ _ _ | .cancelCall _ _ | .available _ _ _ | .unavailable _ _ => true
    | .lostClient name => name ∈ w.context.watchers
    | .reply action _ => action ∈ w.gupnp.actions
    | .processIdle id k _ => (id, k) ∈ w.loop.processIdles
    | .finallyIdle q => q ∈ w.loop.finallyIdles
    | .completeIdle a => a ∈ w.loop.completeIdles
    | .subscribeTimer id d => (id, d) ∈ w.loop.subscribeTimers
    | .notify proxy => proxy ∈ w.gupnp.proxies
    | .subscriptionLost proxy => proxy ∈ w.gupnp.proxies
    | .retryTimer h => h ∈ w.loop.retryTimers
    | .soupRequest _ deviceIf _ => (w.upnp.hostService.servers.lookup deviceIf).isSome
    | .soupFinished t => t ∈ w.upnp.hostService.transfers
    | .quitIdle => 0 < w.loop.quitIdles
    | .quitTimer => 0 < w.loop.quitTimers
    | .signal => w.context.sigId
    | .nameLost => w.context.ownerId
    | .rehash queues devices =>
        queues.entries.isPerm w.processor.taskQueues.entries &&
          devices.entries.isPerm w.upnp.serverUdnMap.entries
    | .contextFree => !w.context.mainLoopRuns

namespace World

def dropReply (w : World) (action : ProxyAction) : World :=
  { w with gupnp := { w.gupnp with actions := w.gupnp.actions.erase action } }

def setLoop (w : World) (loop : MainLoop) : World := { w with loop := loop }

end World

/-- A GUPnP reply, dispatched to the callback of the action. -/
def actionReply (action : ProxyAction) (env : Environment) (w : World) : World :=
  let w := w.dropReply action
  match action.callback with
  | .rsuServiceTaskBeginActionCb =>
      rsuServiceTaskBeginActionCb (serviceTaskCallback env) action.task w
  | .prvGetPositionInfoCb => prvGetPositionInfoCb env action.task w
  | .prvSimpleCallCb => prvSimpleCallCb env action.task w

/-- The end of a response, dispatched to the handler of "finished". -/
def soupFinished (t : Transfer) (w : World) : World :=
  match prvSoupMessageFinishedCb t (w.upnp.hostService.dropTransfer t) with
  | some h => w.setHostService h
  | none => w.crash (.deadHostFile t.address)

/-- What the code does with an input.  GUPnP ends a subscription before it says
that it is lost. -/
def exec (w : World) : Input → World
  | .managerCall sender method => prvRsuMethodCall sender.name method w
  | .propsCall sender object method => prvPropsMethodCall sender.name object method w
  | .rsuDeviceCall sender object method => prvRsuDeviceMethodCall sender.name object method w
  | .playerCall sender object method => prvRsuPlayerMethodCall sender.name object method w
  | .pushHostCall sender object method => prvRsuPushHostMethodCall sender.name object method w
  | .cancelCall sender object => prvRendererDeviceMethodCall sender.name object w
  | .lostClient name => prvRemoveClient name w
  | .available udn ipAddress offered => prvServerAvailableCb udn ipAddress offered w
  | .unavailable udn ipAddress => prvServerUnavailableCb udn ipAddress w
  | .reply action env => actionReply action env w
  | .processIdle id k env =>
      prvTaskQueueProcessTask (taskProcessCb env) k (w.sourceRemoveProcess id)
  | .finallyIdle q =>
      prvTaskQueueFinallyCb q
        (w.setLoop { w.loop with finallyIdles := w.loop.finallyIdles.erase q })
  | .completeIdle a =>
      rsuAsyncTaskComplete a
        (w.setLoop { w.loop with completeIdles := w.loop.completeIdles.erase a })
  | .subscribeTimer id d =>
      prvSubscribeToServiceChanges d
        (w.setLoop { w.loop with subscribeTimers := w.loop.subscribeTimers.erase (id, d) })
  | .notify proxy =>
      (w.gupnp.notifies.filter fun n => n.proxy = proxy).foldl (fun w n => prvChangeCb n w) w
  | .subscriptionLost proxy =>
      (w.gupnp.lostHandlers.filter fun h => h.proxy = proxy).foldl
        (fun w h => prvSubscriptionLostCb h w) (gupnpServiceProxySetSubscribed proxy false w)
  | .retryTimer h =>
      prvReEnableSubscription h
        (w.setLoop { w.loop with retryTimers := w.loop.retryTimers.erase h })
  | .soupRequest mapped deviceIf msg =>
      w.setHostService (prvSoupServerCb mapped deviceIf msg w.upnp.hostService).2
  | .soupFinished t => soupFinished t w
  | .quitIdle => prvContextQuitCb (w.setLoop { w.loop with quitIdles := w.loop.quitIdles - 1 })
  | .quitTimer =>
      prvContextMainloopQuitCb (w.setLoop { w.loop with quitTimers := w.loop.quitTimers - 1 })
  | .signal => prvQuitHandler w
  | .nameLost => prvNameLost w
  | .rehash queues devices => (w.setQueues queues).setUdnMap devices
  | .contextFree => prvRsuContextFree w

/-- A step that runs into undefined behaviour has no successor. -/
def stepFn (w : World) (i : Input) : Option World :=
  if i.enabled w ∧ (exec w i).fault = none then some (exec w i) else none

/-- The process when the bus has been acquired. -/
def start (neverQuit : Bool) : World := { context := { neverQuit := neverQuit } }

def service (neverQuit : Bool) : Transition.System World Input :=
  Transition.System.ofFun (start neverQuit) stepFn

end RendererService
