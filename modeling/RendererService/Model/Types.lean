import Mathlib.Algebra.Group.Int.Defs
import Mathlib.Algebra.Group.Nat.Defs
import RendererService.Lib.Table

/-!
# The records of the service

The structures of the C headers, under their own words.  Pointers are modelled
by names: a task by its `TaskAtom`, a device by the counter it was created
with, a context and its service proxies by the number of the allocation.  A
`World` is the whole process between two callbacks of the main loop, together
with a log of what it did.  The log is written but never read by the code.
-/

namespace RendererService

/-! ## task-atom.h and task-processor.c -/

/-- `rsu_task_queue_key_t`.  `id` stands for the address of the allocation: a
key that was freed differs from a later key with the same two strings. -/
structure TaskQueueKey where
  id : Nat
  source : String
  sink : String
deriving DecidableEq, Repr

/-- A task in the hands of the processor: a pointer to it and the `queue_id`
that `rsu_task_queue_add_task` stored in its `rsu_task_atom_t`. -/
structure TaskAtom where
  id : Nat
  queueId : TaskQueueKey
deriving DecidableEq, Repr

/-- The process, cancel and delete callbacks of a queue: those of
renderer-service-upnp.c for clients, those of service-task.c for devices under
construction. -/
inductive TaskCallbacks
  | client
  | service
deriving DecidableEq, Repr

structure TaskQueueFlags where
  autoStart : Bool := false
  autoRemove : Bool := false
deriving DecidableEq, Repr

/-- `prv_device_new_ct_t` of upnp.c, the user data of a construction queue. -/
structure DeviceNewCt where
  udn : String
  device : Nat
  queueId : TaskQueueKey
deriving DecidableEq, Repr

/-- `rsu_task_queue_t`.  `finallyCb` says whether `task_queue_finally_cb` is
set; the only value it takes is `prv_device_chain_end`. -/
structure TaskQueue where
  tasks : List TaskAtom := []
  callbacks : TaskCallbacks
  finallyCb : Bool := false
  currentTask : Option TaskAtom := none
  idleId : Nat := 0
  deferRemove : Bool := false
  flags : TaskQueueFlags
  userData : Option DeviceNewCt := none
  cancelled : Bool := false
deriving DecidableEq, Repr

/-- `rsu_task_processor_t`; `nextKey` numbers the keys it allocates. -/
structure TaskProcessor where
  taskQueues : Assoc.Table TaskQueueKey TaskQueue := ∅
  runningTasks : Nat := 0
  quitting : Bool := false
  nextKey : Nat := 0

/-! ## error.h -/

inductive RsuError
  | badPath
  | objectNotFound
  | badQuery
  | operationFailed
  | badResult
  | unknownInterface
  | unknownProperty
  | deviceNotFound
  | died
  | cancelled
  | notSupported
  | lostObject
  | badMime
  | hostFailed
deriving DecidableEq, Repr

structure GError where
  code : RsuError
  message : String
deriving DecidableEq, Repr

/-! ## host-service.c -/

/-- `rsu_host_file_t`.  `address` stands for the address of the allocation, and
a `GMappedFile` is named by the number of its mapping. -/
structure HostFile where
  address : Nat
  id : Nat
  clients : List String := []
  mimeType : String
  mappedFile : Option Nat := none
  mappedCount : Nat := 0
  path : String
  dlnaHeader : String
deriving DecidableEq, Repr

/-- `rsu_host_server_t`; `port` is the port of its `soup_server`. -/
structure HostServer where
  files : Assoc.Table String HostFile := ∅
  port : Nat
  counter : Nat := 0

/-- A GET response that is not finished: the file its "finished" handler carries,
by the keys it was entered under and its address, and the mapping of its body. -/
structure Transfer where
  deviceIf : String
  file : String
  address : Nat
  mapping : Nat
deriving DecidableEq, Repr

/-- `rsu_host_service_t`, with what GLib and libsoup hold for it: the number of
references to each mapped file, and the unfinished responses. -/
structure HostService where
  servers : Assoc.Table String HostServer := ∅
  nextFile : Nat := 0
  mappings : Nat → Nat := fun _ => 0
  nextMapping : Nat := 0
  transfers : List Transfer := []

/-- What the system decides while a file is added to the host service. -/
structure HostEnvironment where
  /-- whether `soup_address_resolve_sync` returns `SOUP_STATUS_OK` -/
  resolved : Bool := true
  /-- what `soup_server_get_port` returns for a new server -/
  port : Nat := 49152
  /-- what `g_file_test` returns, which asked for `G_FILE_TEST_IS_REGULAR` or
  `G_FILE_TEST_EXISTS` is TRUE of every path that exists -/
  regular : Bool := true
  contentType : Option String := some "audio/mpeg"
  mimeType : Option String := some "audio/mpeg"
  /-- what `prv_compute_dlna_header` makes of the profile of the file -/
  dlnaHeader : String := ""

/-! ## task.h and async.h -/

/-- `rsu_task_type_t` with the fields of the union `ut` that belong to it. -/
inductive TaskType
  | getVersion
  | getServers
  | raise
  | quit
  | setProp (interfaceName propName : String)
  | getAllProps (interfaceName : String)
  | getProp (interfaceName propName : String)
  | pause
  | play
  | playPause
  | stop
  | next
  | previous
  | openUri (uri : String)
  | seek (position : Int)
  | setPosition (position : Int)
  | gotoTrack (trackNumber : Nat)
  | hostUri (uri client : String)
  | removeUri (uri client : String)
deriving DecidableEq, Repr

/-- What `task->result` holds.  The values of properties are those of `Props`. -/
inductive TaskResult
  | version
  | servers (paths : List String)
  | value
  | url (url : String)
deriving DecidableEq, Repr

/-- A `GCancellable`: whether it was cancelled, and whether
`rsu_async_task_cancelled` is connected to it. -/
structure Cancellable where
  cancelled : Bool := false
  connected : Bool := false
deriving DecidableEq, Repr

/-- `rsu_device_local_cb_t`, what follows a reply to GetPositionInfo. -/
inductive DeviceLocalCb
  | prvCompleteGetProp
  | prvCompleteGetProps
deriving DecidableEq, Repr

inductive ServiceKind
  | cm
  | av
  | rc
deriving DecidableEq, Repr

/-- A `GUPnPServiceProxy`, named by the context it was created for. -/
structure ServiceProxy where
  context : Nat
  kind : ServiceKind
deriving DecidableEq, Repr

/-- `rsu_task_t` and, unless it is synchronous, the `rsu_async_task_t` around
it.  `proxy` is a weak pointer: it reads as NULL once the proxy is gone. -/
structure ClientTask where
  type : TaskType
  path : String := ""
  resultFormat : Option String := none
  result : Option TaskResult := none
  invocation : Option Nat
  synchronous : Bool := false
  error : Option GError := none
  action : Option Nat := none
  proxy : Option ServiceProxy := none
  cancellable : Option Cancellable := none
  localCb : Option DeviceLocalCb := none
  device : Option Nat := none
deriving DecidableEq, Repr

/-! ## service-task.c -/

inductive ServiceTaskAction
  | prvGetProtocolInfo
  | prvSubscribe
  | prvDeclare
deriving DecidableEq, Repr

inductive ServiceTaskCallback
  | prvGetProtocolInfoCb
deriving DecidableEq, Repr

/-- `rsu_service_task_t`; `proxy` is a weak pointer. -/
structure ServiceTask where
  callback : Option ServiceTaskCallback
  pAction : Option Nat := none
  tAction : ServiceTaskAction
  device : Nat
  proxy : Option ServiceProxy
deriving DecidableEq, Repr

inductive Task
  | client (task : ClientTask)
  | service (task : ServiceTask)
deriving DecidableEq, Repr

/-! ## device.h -/

structure ServiceProxies where
  cmProxy : Option ServiceProxy
  avProxy : Option ServiceProxy
  rcProxy : Option ServiceProxy
deriving DecidableEq, Repr

/-- `rsu_device_context_t`; `id` stands for its address.  A timeout id is kept
as the fact that it is not 0. -/
structure DeviceContext where
  id : Nat
  ipAddress : String
  serviceProxies : ServiceProxies
  subscribedCm : Bool := false
  subscribedAv : Bool := false
  subscribedRc : Bool := false
  timeoutIdCm : Bool := false
  timeoutIdAv : Bool := false
  timeoutIdRc : Bool := false
deriving DecidableEq, Repr

/-- `rsu_device_t`, without its property tables. -/
structure Device where
  path : String
  contexts : List DeviceContext := []
  timeoutId : Nat := 0
  ids : List Nat := []
deriving DecidableEq, Repr

structure DeviceServices where
  cm : Bool
  av : Bool
  rc : Bool
deriving DecidableEq, Repr

/-! ## GLib and GUPnP -/

inductive ActionCallback
  | rsuServiceTaskBeginActionCb
  | prvGetPositionInfoCb
  | prvSimpleCallCb
deriving DecidableEq, Repr

/-- A pending `GUPnPServiceProxyAction`; `task` is its user data. -/
structure ProxyAction where
  id : Nat
  proxy : ServiceProxy
  name : String
  callback : ActionCallback
  task : TaskAtom
deriving DecidableEq, Repr

/-- A callback on a proxy that carries a device: a notify callback, or a handler
of "subscription-lost", which carries a context of the device as well. -/
structure ProxyHandler where
  proxy : ServiceProxy
  kind : ServiceKind
  device : Nat
  context : Nat
deriving DecidableEq, Repr

/-- The live service proxies, those that are subscribed, the actions pending on
them and the callbacks connected to them. -/
structure Gupnp where
  proxies : List ServiceProxy := []
  subscriptions : List ServiceProxy := []
  actions : List ProxyAction := []
  notifies : List ProxyHandler := []
  lostHandlers : List ProxyHandler := []
  nextContext : Nat := 0
  nextAction : Nat := 0

/-- The sources pending on the main loop, by the callback they run.  Only the
ids that the program keeps are recorded; they start at 1, as 0 means none. -/
structure MainLoop where
  nextSource : Nat := 1
  /-- `prv_task_queue_process_task` -/
  processIdles : List (Nat × TaskQueueKey) := []
  /-- `prv_task_queue_finally_cb` -/
  finallyIdles : List TaskQueue := []
  /-- `rsu_async_task_complete` -/
  completeIdles : List TaskAtom := []
  /-- `prv_context_quit_cb`, the `on_quit_cb` of the processor -/
  quitIdles : Nat := 0
  /-- `prv_context_mainloop_quit_cb` -/
  quitTimers : Nat := 0
  /-- `prv_subscribe_to_service_changes` -/
  subscribeTimers : List (Nat × Nat) := []
  /-- `prv_re_enable_cm_subscription` and its two siblings -/
  retryTimers : List ProxyHandler := []

/-- What code outside the repository decides during one step. -/
structure Environment where
  /-- the error message if `gupnp_service_proxy_end_action` fails -/
  actionError : Option String := none
  /-- what `g_dbus_connection_register_object` returns for the `i`-th interface -/
  registered : Nat → Nat := fun i => i + 1
  /-- whether the property tables hold the property asked for -/
  defined : Bool := true
  /-- the error, if any, of setting the rate -/
  outcome : Option GError := none
  /-- whether the stored PlaybackStatus of the device is "Playing" -/
  playing : Bool := false
  host : HostEnvironment := {}

/-! ## upnp.c and renderer-service-upnp.c -/

/-- `rsu_upnp_t`.  The counter is a `guint`; the model is exact below 2^32
constructions. -/
structure Upnp where
  serverUdnMap : Assoc.Table String Nat := ∅
  serverUcMap : Assoc.Table String DeviceNewCt := ∅
  counter : Nat := 0
  hostService : HostService := {}

/-- `rsu_context_t`: the watched clients, the never-quit setting, whether the
signal source and the bus name are still held, and whether the main loop runs;
`freed` is set by `prv_rsu_context_free`. -/
structure Context where
  watchers : List String := []
  neverQuit : Bool := false
  sigId : Bool := true
  ownerId : Bool := true
  mainLoopRuns : Bool := true
  freed : Bool := false
  nextInvocation : Nat := 0

inductive Reply
  | value (result : Option TaskResult)
  | error (error : GError)
deriving DecidableEq, Repr

inductive Event
  /-- `rsu_task_queue_add_task` accepted the task -/
  | added (a : TaskAtom)
  /-- the task was handed to `task_process_cb` -/
  | processed (a : TaskAtom)
  /-- the task was handed to `task_cancel_cb` -/
  | cancelled (a : TaskAtom)
  /-- the task was handed to `task_delete_cb` -/
  | deleted (a : TaskAtom)
  /-- `rsu_task_queue_task_completed` was called -/
  | completed (queueId : TaskQueueKey)
  /-- `rsu_task_processor_set_quitting` was called -/
  | quitting
  /-- `on_quit_cb` was scheduled -/
  | quitScheduled
  /-- `rsu_async_task_complete` was scheduled for the task -/
  | completeScheduled (a : TaskAtom)
  /-- `rsu_async_task_complete` ran for the task -/
  | completeRan (a : TaskAtom)
  /-- `prv_add_task` wrapped the invocation in the task -/
  | wrapped (invocation : Nat) (a : TaskAtom)
  | answered (invocation : Nat) (reply : Reply)
  /-- `prv_device_chain_end` ran -/
  | chainEnd (cancelled : Bool) (udn : String)
  | foundServer (path : String)
  | lostServer (path : String)
deriving DecidableEq, Repr

/-- Undefined behaviour: what the code reads without a check. -/
inductive Fault
  | deadQueueKey (queueId : TaskQueueKey)
  | emptyQueue (queueId : TaskQueueKey)
  | deadTask (a : TaskAtom)
  | deadDevice (device : Nat)
  | deadContext (context : Nat)
  | noContext (device : Nat)
  | nullCallback (a : TaskAtom)
  | nullDevice (a : TaskAtom)
  | nullUserData
  | deadHostFile (address : Nat)
deriving DecidableEq, Repr

/-- The process.  `serviceCpt` is the static counter of
`rsu_service_task_create_source`, exact below 2^31 constructions. -/
structure World where
  processor : TaskProcessor := {}
  loop : MainLoop := {}
  tasks : TaskAtom → Option Task := fun _ => none
  nextTask : Nat := 0
  gupnp : Gupnp := {}
  devices : Nat → Option Device := fun _ => none
  upnp : Upnp := {}
  serviceCpt : Nat := 1
  context : Context := {}
  log : List Event := []
  fault : Option Fault := none

end RendererService
