import RendererService.Model.HostService
import RendererService.Model.ServiceTask

/-!
# device.c

The contexts of a device, its subscriptions, its construction and the commands
it carries out.  The property tables are those of `Props`: where a command reads
them, the `Environment` says here what it finds.
-/

namespace RendererService

/-! ## Contexts -/

/-- An address that starts with `ip4_local_prefix` or is an IPv6 loopback. -/
def DeviceContext.isLocal (context : DeviceContext) : Bool :=
  "127.0.0.".toList.isPrefixOf context.ipAddress.toList ∨
    context.ipAddress = "::1" ∨ context.ipAddress = "0:0:0:0:0:0:0:1"

/-- A local context, else the first one. -/
def rsuDeviceGetContext (dev : Device) : Option DeviceContext :=
  match dev.contexts.find? DeviceContext.isLocal with
  | some context => some context
  | none => dev.contexts.head?

namespace World

/-- The preferred context of a device; a device without contexts has none to
point to. -/
def withContext (w : World) (d : Nat) (f : DeviceContext → World) : World :=
  w.withDevice d fun dev =>
    match rsuDeviceGetContext dev with
    | some context => f context
    | none => w.crash (.noContext d)

def modifyContext (w : World) (d c : Nat) (f : DeviceContext → DeviceContext) : World :=
  w.withDevice d fun dev =>
    w.setDevice d (some { dev with
      contexts := dev.contexts.map fun context =>
        if context.id = c then f context else context })

def setNotifies (w : World) (l : List ProxyHandler) : World :=
  { w with gupnp := { w.gupnp with notifies := l } }

def setSubscriptions (w : World) (l : List ServiceProxy) : World :=
  { w with gupnp := { w.gupnp with subscriptions := l } }

def setLostHandlers (w : World) (l : List ProxyHandler) : World :=
  { w with gupnp := { w.gupnp with lostHandlers := l } }

def setRetryTimers (w : World) (l : List ProxyHandler) : World :=
  { w with loop := { w.loop with retryTimers := l } }

def setSubscribeTimers (w : World) (l : List (Nat × Nat)) : World :=
  { w with loop := { w.loop with subscribeTimers := l } }

end World

def DeviceContext.setSubscribed (context : DeviceContext) (subscribed : Bool) :
    ServiceKind → DeviceContext
  | .cm => { context with subscribedCm := subscribed }
  | .av => { context with subscribedAv := subscribed }
  | .rc => { context with subscribedRc := subscribed }

def DeviceContext.setTimeoutId (context : DeviceContext) (timeoutId : Bool) :
    ServiceKind → DeviceContext
  | .cm => { context with timeoutIdCm := timeoutId }
  | .av => { context with timeoutIdAv := timeoutId }
  | .rc => { context with timeoutIdRc := timeoutId }

def DeviceContext.timeoutId (context : DeviceContext) : ServiceKind → Bool
  | .cm => context.timeoutIdCm
  | .av => context.timeoutIdAv
  | .rc => context.timeoutIdRc

def DeviceContext.subscribed (context : DeviceContext) : ServiceKind → Bool
  | .cm => context.subscribedCm
  | .av => context.subscribedAv
  | .rc => context.subscribedRc

def prvContextNew (ipAddress : String) (offered : DeviceServices) (w : World) :
    DeviceContext × World :=
  let id := w.gupnp.nextContext
  let proxies := gupnpDeviceInfoGetServices id offered
  ({ id := id, ipAddress := ipAddress, serviceProxies := proxies },
    { w with
      gupnp := { w.gupnp with
        proxies := w.gupnp.proxies ++ proxies.toList
        nextContext := id + 1 } })

def gupnpServiceProxySetSubscribed (proxy : ServiceProxy) (subscribed : Bool) (w : World) :
    World :=
  let others := w.gupnp.subscriptions.filter fun p => p ≠ proxy
  w.setSubscriptions (if subscribed then others ++ [proxy] else others)

/-- `gupnp_service_proxy_remove_notify`: one registration is removed. -/
def gupnpServiceProxyRemoveNotify (n : ProxyHandler) (w : World) : World :=
  w.setNotifies (w.gupnp.notifies.erase n)

def DeviceContext.notify (context : DeviceContext) (d : Nat) (kind : ServiceKind) :
    ProxyHandler :=
  ⟨⟨context.id, kind⟩, kind, d, context.id⟩

def DeviceContext.stopRetry (context : DeviceContext) (d : Nat) (kind : ServiceKind)
    (w : World) : World :=
  if context.timeoutId kind then
    let w := w.setRetryTimers (w.loop.retryTimers.erase (context.notify d kind))
    w.modifyContext d context.id fun context => context.setTimeoutId false kind
  else w

def DeviceContext.stopNotify (context : DeviceContext) (d : Nat) (kind : ServiceKind)
    (w : World) : World :=
  if context.subscribed kind then
    let w := gupnpServiceProxyRemoveNotify (context.notify d kind) w
    let w := gupnpServiceProxySetSubscribed (context.notify d kind).proxy false w
    w.modifyContext d context.id fun context => context.setSubscribed false kind
  else w

def prvRsuContextUnsubscribe (d : Nat) (context : DeviceContext) (w : World) : World :=
  let w := context.stopRetry d .cm w
  let w := context.stopRetry d .av w
  let w := context.stopRetry d .rc w
  let w := context.stopNotify d .cm w
  let w := context.stopNotify d .av w
  context.stopNotify d .rc w

/-- The proxies are destroyed; what is pending on or connected to a proxy goes
with it, without a callback. -/
def prvServiceProxiesFree (serviceProxies : ServiceProxies) (w : World) : World :=
  let gone := serviceProxies.toList
  { w with
    gupnp := { w.gupnp with
      proxies := w.gupnp.proxies.filter fun p => p ∉ gone
      subscriptions := w.gupnp.subscriptions.filter fun p => p ∉ gone
      actions := w.gupnp.actions.filter fun act => act.proxy ∉ gone
      notifies := w.gupnp.notifies.filter fun n => n.proxy ∉ gone
      lostHandlers := w.gupnp.lostHandlers.filter fun n => n.proxy ∉ gone } }

def prvRsuContextDelete (d : Nat) (context : DeviceContext) (w : World) : World :=
  prvServiceProxiesFree context.serviceProxies (prvRsuContextUnsubscribe d context w)

def prvDeviceAppendNewContext (d : Nat) (ipAddress : String) (offered : DeviceServices)
    (w : World) : World :=
  let (context, w) := prvContextNew ipAddress offered w
  w.withDevice d fun dev =>
    w.setDevice d (some { dev with contexts := dev.contexts ++ [context] })

/-! ## Subscriptions -/

def prvDeviceGetSubscribedContext (dev : Device) : Option DeviceContext :=
  dev.contexts.find? fun context =>
    context.subscribedAv || context.subscribedCm || context.subscribedRc

/-- One block of `rsu_device_subscribe_to_service_changes`; the handler of
"subscription-lost" is connected to the proxy of `signal`. -/
def prvSubscribeService (d : Nat) (context : DeviceContext) (kind signal : ServiceKind)
    (w : World) : World :=
  if (context.serviceProxies.get kind).isSome then
    let w := gupnpServiceProxySetSubscribed (context.notify d kind).proxy true w
    let w := w.setNotifies (w.gupnp.notifies ++ [context.notify d kind])
    let w := w.modifyContext d context.id fun context => context.setSubscribed true kind
    match context.serviceProxies.get signal with
    | some proxy =>
        w.setLostHandlers (w.gupnp.lostHandlers ++ [⟨proxy, kind, d, context.id⟩])
    | none => w
  else w

/-- The handler of the rc service is connected to the av proxy. -/
def rsuDeviceSubscribeToServiceChanges (d : Nat) (w : World) : World :=
  w.withContext d fun context =>
    let w := prvSubscribeService d context .cm .cm w
    let w := prvSubscribeService d context .av .av w
    prvSubscribeService d context .rc .av w

def prvDeviceSubscribeContext (d : Nat) (w : World) : World :=
  w.withDevice d fun dev =>
    w.withContext d fun preferred =>
      match prvDeviceGetSubscribedContext dev with
      | none => rsuDeviceSubscribeToServiceChanges d w
      | some subscribed =>
          if subscribed.id = preferred.id then w
          else
            rsuDeviceSubscribeToServiceChanges d
              (prvRsuContextUnsubscribe d subscribed w)

/-- What the three "subscription-lost" callbacks share. -/
def prvSubscriptionLostCb (h : ProxyHandler) (w : World) : World :=
  w.withDevice h.device fun dev =>
    match dev.contexts.find? fun context => context.id = h.context with
    | none => w.crash (.deadContext h.context)
    | some context =>
        let retry := context.notify h.device h.kind
        if context.timeoutId h.kind then
          let w := w.setRetryTimers (w.loop.retryTimers.erase retry)
          let w := gupnpServiceProxyRemoveNotify retry w
          w.modifyContext h.device h.context fun context =>
            (context.setTimeoutId false h.kind).setSubscribed false h.kind
        else
          let w := gupnpServiceProxySetSubscribed retry.proxy true w
          let w := w.setRetryTimers (w.loop.retryTimers ++ [retry])
          w.modifyContext h.device h.context fun context =>
            context.setTimeoutId true h.kind

def prvCmSubscriptionLostCb (proxy : ServiceProxy) (d context : Nat) : World → World :=
  prvSubscriptionLostCb ⟨proxy, .cm, d, context⟩

def prvAvSubscriptionLostCb (proxy : ServiceProxy) (d context : Nat) : World → World :=
  prvSubscriptionLostCb ⟨proxy, .av, d, context⟩

def prvRcSubscriptionLostCb (proxy : ServiceProxy) (d context : Nat) : World → World :=
  prvSubscriptionLostCb ⟨proxy, .rc, d, context⟩

/-- What the three retry callbacks share; the timer has fired. -/
def prvReEnableSubscription (h : ProxyHandler) (w : World) : World :=
  w.withDevice h.device fun dev =>
    match dev.contexts.find? fun context => context.id = h.context with
    | none => w.crash (.deadContext h.context)
    | some _ =>
        w.modifyContext h.device h.context fun context =>
          context.setTimeoutId false h.kind

def prvReEnableCmSubscription (proxy : ServiceProxy) (d context : Nat) : World → World :=
  prvReEnableSubscription ⟨proxy, .cm, d, context⟩

def prvReEnableAvSubscription (proxy : ServiceProxy) (d context : Nat) : World → World :=
  prvReEnableSubscription ⟨proxy, .av, d, context⟩

def prvReEnableRcSubscription (proxy : ServiceProxy) (d context : Nat) : World → World :=
  prvReEnableSubscription ⟨proxy, .rc, d, context⟩

/-- What the three notify callbacks share at this level: they read the device.  What
they do to its property tables is in `Props`. -/
def prvChangeCb (n : ProxyHandler) (w : World) : World := w.withDevice n.device fun _ => w

def prvSinkChangeCb (proxy : ServiceProxy) (d context : Nat) : World → World :=
  prvChangeCb ⟨proxy, .cm, d, context⟩

def prvLastChangeCb (proxy : ServiceProxy) (d context : Nat) : World → World :=
  prvChangeCb ⟨proxy, .av, d, context⟩

def prvRcLastChangeCb (proxy : ServiceProxy) (d context : Nat) : World → World :=
  prvChangeCb ⟨proxy, .rc, d, context⟩

def rsuDeviceAppendNewContext (d : Nat) (ipAddress : String) (offered : DeviceServices)
    (w : World) : World :=
  prvDeviceSubscribeContext d (prvDeviceAppendNewContext d ipAddress offered w)

def rsuDeviceDelete (d : Nat) (w : World) : World :=
  w.withDevice d fun dev =>
    let w :=
      if dev.timeoutId ≠ 0 then
        w.setSubscribeTimers (w.loop.subscribeTimers.filter fun s => s.1 ≠ dev.timeoutId)
      else w
    let w := dev.contexts.foldl (fun w context => prvRsuContextDelete d context w) w
    w.setDevice d none

def rsuDeviceUnsubscribe (d : Nat) (w : World) : World :=
  w.withDevice d fun dev =>
    dev.contexts.foldl (fun w context => prvRsuContextUnsubscribe d context w) w

/-! ## Construction -/

/-- The entries of `rsu_interface_info_t`, up to `RSU_INTERFACE_INFO_MAX`. -/
def rsuInterfaceInfoMax : Nat := 5

def prvGetProtocolInfo (t : ServiceTask) (a : TaskAtom) (w : World) :
    Option Nat × Bool × World :=
  let (action, w) := gupnpServiceProxyBeginAction (w.gupnp.weak t.proxy)
    "GetProtocolInfo" .rsuServiceTaskBeginActionCb a w
  (action, false, w)

def prvSubscribe (t : ServiceTask) (w : World) : Option Nat × Bool × World :=
  (none, false, prvDeviceSubscribeContext t.device w)

/-- The loop stops at the first interface that cannot be registered. -/
def prvDeclare (env : Environment) (t : ServiceTask) (w : World) :
    Option Nat × Bool × World :=
  let ids := (List.range rsuInterfaceInfoMax).map env.registered
  let declared := ids.takeWhile fun id => id ≠ 0
  (none, declared.length < rsuInterfaceInfoMax,
    w.withDevice t.device fun dev =>
      w.setDevice t.device (some { dev with ids := declared }))

def serviceTaskAction (env : Environment) (action : ServiceTaskAction) (t : ServiceTask)
    (a : TaskAtom) (w : World) : Option Nat × Bool × World :=
  match action with
  | .prvGetProtocolInfo => prvGetProtocolInfo t a w
  | .prvSubscribe => prvSubscribe t w
  | .prvDeclare => prvDeclare env t w

/-- A reply is stored in the property tables of the device, which are those of
`Props`. -/
def prvGetProtocolInfoCb (env : Environment) (t : ServiceTask) (w : World) : World :=
  match env.actionError with
  | some _ => w
  | none => w.withDevice t.device fun _ => w

def serviceTaskCallback (env : Environment) : ServiceTaskCallback → ServiceTask → World → World
  | .prvGetProtocolInfoCb => prvGetProtocolInfoCb env

def rsuServerPath : String := "/com/intel/RendererServiceUPnP/server"

/-- The new device is named by `counter`. -/
def rsuDeviceNew (ipAddress : String) (offered : DeviceServices) (counter : Nat)
    (k : TaskQueueKey) (w : World) : World :=
  let path := rsuServerPath ++ "/" ++ toString counter
  let w := w.setDevice counter (some { path := path })
  let w := prvDeviceAppendNewContext counter ipAddress offered w
  w.withContext counter fun context =>
    let proxy := context.serviceProxies.cmProxy
    let w := rsuServiceTaskAdd k .prvGetProtocolInfo counter proxy
      (some .prvGetProtocolInfoCb) w
    let w := rsuServiceTaskAdd k .prvSubscribe counter proxy none w
    let w := rsuServiceTaskAdd k .prvDeclare counter proxy none w
    rsuTaskQueueStart k w

def rsuDeviceFromPath (path : String) (deviceList : Assoc.Table String Nat) (w : World) :
    Option Nat :=
  (deviceList.entries.find? fun e =>
    (w.devices e.2).any fun dev => dev.path = path).map fun e => e.2

/-! ## Replies -/

def interfaceRendererDevice : String := "com.intel.UPnP.RendererDevice"
def interfaceServer : String := "org.mpris.MediaPlayer2"
def interfacePlayer : String := "org.mpris.MediaPlayer2.Player"

/-- The interface names that the property tables answer for. -/
def interfaceNames : List String :=
  [interfaceRendererDevice, interfaceServer, interfacePlayer, ""]

def prvGetProp (env : Environment) (t : ClientTask) (interfaceName : String) :
    ClientTask :=
  if interfaceName ∈ interfaceNames then
    if env.defined then { t with result := some .value }
    else
      { t with
        error := t.error <|>
          some ⟨.unknownProperty, "Property not defined for object"⟩ }
  else { t with error := some ⟨.unknownInterface, "Unknown Interface"⟩ }

def prvGetProps (t : ClientTask) (interfaceName : String) : ClientTask :=
  if interfaceName ∈ interfaceNames then { t with result := some .value }
  else { t with error := some ⟨.unknownInterface, "Unknown Interface"⟩ }

/-- `(void) g_idle_add(rsu_async_task_complete, cb_data)` after a change of the
task. -/
def completeWith (a : TaskAtom) (f : ClientTask → ClientTask) (w : World) : World :=
  (w.modifyClient a f).idleAddComplete a

def gCancellableDisconnect (t : ClientTask) : ClientTask :=
  { t with cancellable := t.cancellable.map fun c => { c with connected := false } }

def prvCompleteGetProp (env : Environment) (t : ClientTask) : ClientTask :=
  match t.type with
  | .getProp interfaceName _ => gCancellableDisconnect (prvGetProp env t interfaceName)
  | _ => gCancellableDisconnect t

def prvCompleteGetProps (t : ClientTask) : ClientTask :=
  match t.type with
  | .getAllProps interfaceName => gCancellableDisconnect (prvGetProps t interfaceName)
  | _ => gCancellableDisconnect t

def deviceLocalCb (env : Environment) : DeviceLocalCb → ClientTask → ClientTask
  | .prvCompleteGetProp => prvCompleteGetProp env
  | .prvCompleteGetProps => prvCompleteGetProps

/-- The error that a failed `gupnp_service_proxy_end_action` leaves. -/
def endAction (env : Environment) (what : String) (t : ClientTask) : ClientTask :=
  match env.actionError with
  | some message => { t with error := some ⟨.operationFailed, what ++ message⟩ }
  | none => t

/-- Follow `cb_data->device`. -/
def World.withTaskDevice (w : World) (a : TaskAtom) (t : ClientTask) (f : World) : World :=
  match t.device with
  | some d => w.withDevice d fun _ => f
  | none => w.crash (.nullDevice a)

/-- The position, and then the other properties, are read from the device. -/
def prvGetPositionInfoCb (env : Environment) (a : TaskAtom) (w : World) : World :=
  w.withClient a fun t =>
    match t.localCb with
    | none => w.crash (.nullCallback a)
    | some cb =>
        w.withTaskDevice a t (completeWith a (fun t =>
          deviceLocalCb env cb (endAction env "GetPositionInfo operation failed: " t)) w)

def prvSimpleCallCb (env : Environment) (a : TaskAtom) (w : World) : World :=
  completeWith a (fun t => gCancellableDisconnect (endAction env "Operation failed: " t)) w

/-! ## Commands -/

/-- What the commands that begin an action share: connect the cancel handler,
remember a proxy of the preferred context weakly, and begin the action on it. -/
def beginCommand (d : Nat) (kind : ServiceKind) (name : String) (callback : ActionCallback)
    (localCb : Option DeviceLocalCb) (a : TaskAtom) (w : World) : World :=
  w.withContext d fun context =>
    let proxy := context.serviceProxies.get kind
    let w := w.modifyClient a fun t =>
      { t with
        device := some d
        localCb := localCb
        cancellable := t.cancellable.map fun c => { c with connected := true }
        proxy := proxy }
    let (action, w) := gupnpServiceProxyBeginAction proxy name callback a w
    w.modifyClient a fun t => { t with action := action }

def prvGetPositionInfo (d : Nat) (localCb : DeviceLocalCb) (a : TaskAtom) (w : World) :
    World :=
  beginCommand d .av "GetPositionInfo" .prvGetPositionInfoCb (some localCb) a w

def rsuDevicePlay (d : Nat) (a : TaskAtom) (w : World) : World :=
  beginCommand d .av "Play" .prvSimpleCallCb none a w

def prvSimpleCommand (commandName : String) (d : Nat) (a : TaskAtom) (w : World) : World :=
  beginCommand d .av commandName .prvSimpleCallCb none a w

def rsuDevicePause (d : Nat) (a : TaskAtom) (w : World) : World :=
  prvSimpleCommand "Pause" d a w

def rsuDeviceStop (d : Nat) (a : TaskAtom) (w : World) : World :=
  prvSimpleCommand "Stop" d a w

def rsuDeviceNext (d : Nat) (a : TaskAtom) (w : World) : World :=
  prvSimpleCommand "Next" d a w

def rsuDevicePrevious (d : Nat) (a : TaskAtom) (w : World) : World :=
  prvSimpleCommand "Previous" d a w

def rsuDevicePlayPause (env : Environment) (d : Nat) (a : TaskAtom) (w : World) : World :=
  if env.playing then rsuDevicePause d a w else rsuDevicePlay d a w

def rsuDeviceOpenUri (d : Nat) (a : TaskAtom) (w : World) : World :=
  beginCommand d .av "SetAVTransportURI" .prvSimpleCallCb none a w

def prvDeviceSetPosition (d : Nat) (a : TaskAtom) (w : World) : World :=
  beginCommand d .av "Seek" .prvSimpleCallCb none a w

def rsuDeviceSeek (d : Nat) (a : TaskAtom) (w : World) : World :=
  prvDeviceSetPosition d a w

def rsuDeviceSetPosition (d : Nat) (a : TaskAtom) (w : World) : World :=
  prvDeviceSetPosition d a w

def rsuDeviceGotoTrack (d : Nat) (a : TaskAtom) (w : World) : World :=
  prvDeviceSetPosition d a w

def rsuDeviceSetProp (env : Environment) (interfaceName propName : String) (d : Nat)
    (a : TaskAtom) (w : World) : World :=
  if interfaceName ≠ interfacePlayer ∧ interfaceName ≠ "" then
    completeWith a (fun t => { t with
      device := some d
      error := some ⟨.unknownInterface,
        "Interface " ++ interfaceName ++ " not managed for property setting"⟩ }) w
  else if propName = "Rate" then
    completeWith a (fun t => { t with device := some d, error := env.outcome }) w
  else if propName ≠ "Volume" then
    completeWith a (fun t => { t with
      device := some d
      error := some ⟨.unknownProperty,
        "Property " ++ propName ++ " not managed for setting"⟩ }) w
  else beginCommand d .rc "SetVolume" .prvSimpleCallCb none a w

def rsuDeviceGetProp (env : Environment) (interfaceName propName : String) (d : Nat)
    (a : TaskAtom) (w : World) : World :=
  if (interfaceName = interfacePlayer ∨ interfaceName = "") ∧ propName = "Position" then
    prvGetPositionInfo d .prvCompleteGetProp a w
  else
    completeWith a (fun t => prvGetProp env { t with device := some d } interfaceName) w

def rsuDeviceGetAllProps (interfaceName : String) (d : Nat) (a : TaskAtom) (w : World) :
    World :=
  if interfaceName = interfacePlayer ∨ interfaceName = "" then
    prvGetPositionInfo d .prvCompleteGetProps a w
  else completeWith a (fun t => prvGetProps { t with device := some d } interfaceName) w

def World.setHostService (w : World) (h : HostService) : World :=
  { w with upnp := { w.upnp with hostService := h } }

def ClientTask.hosted (t : ClientTask) (d : Nat) : Except GError String → ClientTask
  | .ok url => { t with device := some d, result := some (.url url) }
  | .error error => { t with device := some d, error := some error }

def ClientTask.unhosted (t : ClientTask) (d : Nat) (removed : Bool) : ClientTask :=
  if removed then { t with device := some d }
  else { t with
    device := some d
    error := some ⟨.objectNotFound, "File not hosted for specified  device"⟩ }

def rsuDeviceHostUri (env : Environment) (uri client : String) (d : Nat) (a : TaskAtom)
    (w : World) : World :=
  w.withContext d fun context =>
    let (url, h) :=
      rsuHostServiceAdd env.host context.ipAddress client uri w.upnp.hostService
    completeWith a (fun t => t.hosted d url) (w.setHostService h)

def rsuDeviceRemoveUri (uri client : String) (d : Nat) (a : TaskAtom) (w : World) : World :=
  w.withContext d fun context =>
    let (removed, h) :=
      rsuHostServiceRemove context.ipAddress client uri w.upnp.hostService
    completeWith a (fun t => t.unhosted d removed) (w.setHostService h)

end RendererService
