import RendererService.Model.Device

/-!
# upnp.c

Discovery: the devices known by UDN, those under construction, and the events
that move a device between the two maps.  The `rsu_upnp_*` requests look the
device up by the path of the task.
-/

namespace RendererService

/-! ## The callbacks of renderer-service-upnp.c -/

def prvFoundMediaServer (path : String) (w : World) : World :=
  w.emit (.foundServer path)

def prvLostMediaServer (path : String) (w : World) : World :=
  rsuTaskProcessorRemoveQueuesForSink taskDeleteCb taskCancelCb path
    (w.emit (.lostServer path))

/-! ## Discovery -/

def rsuSink : String := "renderer-service-upnp"

namespace World

def setUdnMap (w : World) (t : Assoc.Table String Nat) : World :=
  { w with upnp := { w.upnp with serverUdnMap := t } }

def setUcMap (w : World) (t : Assoc.Table String DeviceNewCt) : World :=
  { w with upnp := { w.upnp with serverUcMap := t } }

end World

/-- `g_hash_table_insert` deletes the device that it replaces. -/
def serverUdnMapInsert (udn : String) (d : Nat) (w : World) : World :=
  let w' := w.setUdnMap (w.upnp.serverUdnMap.insert udn d)
  match w.upnp.serverUdnMap.lookup udn with
  | some old => rsuDeviceDelete old w'
  | none => w'

def prvDeviceChainEnd (cancelled : Bool) (ct : DeviceNewCt) (w : World) : World :=
  let w := w.emit (.chainEnd cancelled ct.udn)
  if cancelled then
    rsuDeviceDelete ct.device (w.setUcMap (w.upnp.serverUcMap.erase ct.udn))
  else
    w.withDevice ct.device fun dev =>
      let w := prvFoundMediaServer dev.path (serverUdnMapInsert ct.udn ct.device w)
      w.setUcMap (w.upnp.serverUcMap.erase ct.udn)

/-- `prv_task_queue_finally_cb` of a queue whose user data is `priv_t`. -/
def prvTaskQueueFinallyCb (q : TaskQueue) (w : World) : World :=
  match q.userData with
  | some ct => prvDeviceChainEnd q.cancelled ct w
  | none => w.crash .nullUserData

/-- The device of a UDN, and its construction data if it is not yet declared. -/
def Upnp.find (u : Upnp) (udn : String) : Option (Nat × Option DeviceNewCt) :=
  match u.serverUdnMap.lookup udn with
  | some d => some (d, none)
  | none => (u.serverUcMap.lookup udn).map fun ct => (ct.device, some ct)

def autoRemove : TaskQueueFlags := { autoRemove := true }

/-- The branch of `prv_server_available_cb` that starts a construction.  The
queue holds a pointer to `priv_t`, whose fields are set last. -/
def prvServerConstruct (udn ipAddress : String) (offered : DeviceServices) (w : World) :
    World :=
  let (source, w) := rsuServiceTaskCreateSource w
  let (k, w) :=
    rsuTaskProcessorAddQueue taskDeleteCb source rsuSink autoRemove .service w
  let ct : DeviceNewCt := ⟨udn, w.upnp.counter, k⟩
  let w := rsuTaskQueueSetUserData k ct (rsuTaskQueueSetFinally k w)
  let w := rsuDeviceNew ipAddress offered w.upnp.counter k w
  let w := { w with upnp := { w.upnp with counter := w.upnp.counter + 1 } }
  w.setUcMap (w.upnp.serverUcMap.insert udn ct)

def prvServerAvailableCb (udn ipAddress : String) (offered : DeviceServices) (w : World) :
    World :=
  match w.upnp.find udn with
  | none => prvServerConstruct udn ipAddress offered w
  | some (d, _) =>
      w.withDevice d fun dev =>
        if dev.contexts.any fun context => context.ipAddress = ipAddress then w
        else rsuDeviceAppendNewContext d ipAddress offered w

def prvSubscribeToServiceChanges (d : Nat) (w : World) : World :=
  w.withDevice d fun dev =>
    rsuDeviceSubscribeToServiceChanges d
      (w.setDevice d (some { dev with timeoutId := 0 }))

/-- `device->timeout_id = g_timeout_add_seconds(1, ...)`. -/
def subscribeLater (d : Nat) (w : World) : World :=
  w.withDevice d fun dev =>
    let id := w.loop.nextSource
    { w with
      loop := { w.loop with
        nextSource := id + 1
        subscribeTimers := w.loop.subscribeTimers ++ [(id, d)] } }.setDevice d
          (some { dev with timeoutId := id })

/-- What `prv_server_unavailable_cb` does when no context is left. -/
def prvServerLost (udn : String) (d : Nat) (path : String) (uc : Option DeviceNewCt)
    (w : World) : World :=
  match uc with
  | none =>
      let w := prvLostMediaServer path w
      rsuDeviceDelete d (w.setUdnMap (w.upnp.serverUdnMap.erase udn))
  | some ct => rsuTaskProcessorCancelQueue taskDeleteCb taskCancelCb ct.queueId w

def prvServerUnavailableCb (udn ipAddress : String) (w : World) : World :=
  match w.upnp.find udn with
  | none => w
  | some (d, uc) =>
      w.withDevice d fun dev =>
        match dev.contexts.find? fun context => context.ipAddress = ipAddress with
        | none => w
        | some context =>
            let subscribed := context.subscribedAv || context.subscribedCm
            let contexts := dev.contexts.eraseP fun context =>
              context.ipAddress = ipAddress
            let w := prvRsuContextDelete d context
              (w.setDevice d (some { dev with contexts := contexts }))
            if contexts = [] then prvServerLost udn d dev.path uc w
            else if subscribed ∧ dev.timeoutId = 0 then subscribeLater d w
            else w

/-! ## Requests -/

def rsuUpnpGetServerIds (w : World) : List String :=
  w.upnp.serverUdnMap.entries.filterMap fun e => (w.devices e.2).map fun dev => dev.path

/-- What the `rsu_upnp_*` requests share. -/
def withServer (command : Nat → TaskAtom → World → World) (a : TaskAtom) (w : World) :
    World :=
  w.withClient a fun t =>
    match rsuDeviceFromPath t.path w.upnp.serverUdnMap w with
    | some d => command d a w
    | none =>
        completeWith a (fun t => { t with
          error := some ⟨.objectNotFound,
            "Cannot locate a device for the specified object"⟩ }) w

def rsuUpnpSetProp (env : Environment) (interfaceName propName : String) :
    TaskAtom → World → World :=
  withServer (rsuDeviceSetProp env interfaceName propName)

def rsuUpnpGetProp (env : Environment) (interfaceName propName : String) :
    TaskAtom → World → World :=
  withServer (rsuDeviceGetProp env interfaceName propName)

def rsuUpnpGetAllProps (interfaceName : String) : TaskAtom → World → World :=
  withServer (rsuDeviceGetAllProps interfaceName)

def rsuUpnpPlay : TaskAtom → World → World := withServer rsuDevicePlay

def rsuUpnpPause : TaskAtom → World → World := withServer rsuDevicePause

def rsuUpnpPlayPause (env : Environment) : TaskAtom → World → World :=
  withServer (rsuDevicePlayPause env)

def rsuUpnpStop : TaskAtom → World → World := withServer rsuDeviceStop

def rsuUpnpNext : TaskAtom → World → World := withServer rsuDeviceNext

def rsuUpnpPrevious : TaskAtom → World → World := withServer rsuDevicePrevious

def rsuUpnpOpenUri : TaskAtom → World → World := withServer rsuDeviceOpenUri

def rsuUpnpSeek : TaskAtom → World → World := withServer rsuDeviceSeek

def rsuUpnpSetPosition : TaskAtom → World → World := withServer rsuDeviceSetPosition

def rsuUpnpGotoTrack : TaskAtom → World → World := withServer rsuDeviceGotoTrack

def rsuUpnpHostUri (env : Environment) (uri client : String) : TaskAtom → World → World :=
  withServer (rsuDeviceHostUri env uri client)

def rsuUpnpRemoveUri (uri client : String) : TaskAtom → World → World :=
  withServer (rsuDeviceRemoveUri uri client)

def rsuUpnpLostClient (clientName : String) (w : World) : World :=
  w.setHostService (rsuHostServiceLostClient clientName w.upnp.hostService)

/-! ## Leaving -/

def rsuUpnpUnsubscribe (w : World) : World :=
  w.upnp.serverUdnMap.entries.foldl (fun w e => rsuDeviceUnsubscribe e.2 w) w

/-- The devices under construction are not deleted. -/
def rsuUpnpDelete (w : World) : World :=
  let w := w.setHostService (rsuHostServiceDelete w.upnp.hostService)
  let w' := w.setUdnMap ∅
  let w' := w.upnp.serverUdnMap.entries.foldl (fun w e => rsuDeviceDelete e.2 w) w'
  w'.setUcMap ∅

end RendererService
