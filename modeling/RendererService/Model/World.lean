import RendererService.Model.Types

/-!
# Reading and writing the process

Elementary operations that the modelled functions are written with: following
pointers, changing one record, and the parts of GLib and GUPnP they call.
Following a pointer to a record that was freed is recorded as a fault.
-/

namespace RendererService

namespace World

/-- Undefined behaviour; only the first fault is kept. -/
def crash (w : World) (f : Fault) : World :=
  { w with fault := w.fault <|> some f }

def emit (w : World) (e : Event) : World :=
  { w with log := w.log ++ [e] }

/-! ## Task queues -/

abbrev queue? (w : World) (k : TaskQueueKey) : Option TaskQueue :=
  w.processor.taskQueues.lookup k

def setQueues (w : World) (t : Assoc.Table TaskQueueKey TaskQueue) : World :=
  { w with processor := { w.processor with taskQueues := t } }

def setQueue (w : World) (k : TaskQueueKey) (q : TaskQueue) : World :=
  w.setQueues (w.processor.taskQueues.insert k q)

def modifyQueue (w : World) (k : TaskQueueKey) (f : TaskQueue → TaskQueue) : World :=
  w.setQueues (Assoc.modify w.processor.taskQueues k f)

def eraseQueue (w : World) (k : TaskQueueKey) : World :=
  w.setQueues (w.processor.taskQueues.erase k)

/-! ## Tasks -/

def setTask (w : World) (a : TaskAtom) (t : Option Task) : World :=
  { w with tasks := fun b => if b = a then t else w.tasks b }

def withClient (w : World) (a : TaskAtom) (f : ClientTask → World) : World :=
  match w.tasks a with
  | some (.client t) => f t
  | _ => w.crash (.deadTask a)

def withService (w : World) (a : TaskAtom) (f : ServiceTask → World) : World :=
  match w.tasks a with
  | some (.service t) => f t
  | _ => w.crash (.deadTask a)

def modifyClient (w : World) (a : TaskAtom) (f : ClientTask → ClientTask) : World :=
  w.withClient a fun t => w.setTask a (some (.client (f t)))

/-! ## Devices -/

def setDevice (w : World) (d : Nat) (dev : Option Device) : World :=
  { w with devices := fun e => if e = d then dev else w.devices e }

def withDevice (w : World) (d : Nat) (f : Device → World) : World :=
  match w.devices d with
  | some dev => f dev
  | none => w.crash (.deadDevice d)

/-! ## The main loop -/

/-- `queue->idle_id = g_idle_add(prv_task_queue_process_task, queue_id)`. -/
def idleAddProcess (w : World) (k : TaskQueueKey) : World :=
  let id := w.loop.nextSource
  let w := { w with
    loop := { w.loop with
      nextSource := id + 1
      processIdles := w.loop.processIdles ++ [(id, k)] } }
  w.modifyQueue k fun q => { q with idleId := id }

/-- `g_source_remove` of a `prv_task_queue_process_task` source. -/
def sourceRemoveProcess (w : World) (id : Nat) : World :=
  { w with
    loop := { w.loop with
      processIdles := w.loop.processIdles.filter fun s => s.1 ≠ id } }

/-- `g_idle_add(prv_task_queue_finally_cb, queue)`. -/
def idleAddFinally (w : World) (q : TaskQueue) : World :=
  { w with loop := { w.loop with finallyIdles := w.loop.finallyIdles ++ [q] } }

/-- `g_idle_add(rsu_async_task_complete, task)`. -/
def idleAddComplete (w : World) (a : TaskAtom) : World :=
  { w with
    loop := { w.loop with completeIdles := w.loop.completeIdles ++ [a] }
    log := w.log ++ [.completeScheduled a] }

/-- `g_idle_add(processor->on_quit_cb, NULL)`. -/
def idleAddQuit (w : World) : World :=
  { w with
    loop := { w.loop with quitIdles := w.loop.quitIdles + 1 }
    log := w.log ++ [.quitScheduled] }

end World

/-! ## Service proxies -/

/-- Read a weak pointer to a proxy. -/
def Gupnp.weak (g : Gupnp) (p : Option ServiceProxy) : Option ServiceProxy :=
  p.filter fun p => p ∈ g.proxies

/-- Nothing is begun on a NULL proxy. -/
def gupnpServiceProxyBeginAction (proxy : Option ServiceProxy) (name : String)
    (callback : ActionCallback) (a : TaskAtom) (w : World) : Option Nat × World :=
  match proxy with
  | none => (none, w)
  | some p =>
      let id := w.gupnp.nextAction
      let action : ProxyAction := ⟨id, p, name, callback, a⟩
      (some id, { w with
        gupnp := { w.gupnp with
          actions := w.gupnp.actions ++ [action]
          nextAction := id + 1 } })

def gupnpServiceProxyCancelAction (action : Option Nat) (w : World) : World :=
  { w with
    gupnp := { w.gupnp with
      actions := w.gupnp.actions.filter fun act => some act.id ≠ action } }

/-- `gupnp_device_info_get_service` for the three services of a new context. -/
def gupnpDeviceInfoGetServices (context : Nat) (offered : DeviceServices) :
    ServiceProxies where
  cmProxy := if offered.cm then some ⟨context, .cm⟩ else none
  avProxy := if offered.av then some ⟨context, .av⟩ else none
  rcProxy := if offered.rc then some ⟨context, .rc⟩ else none

def ServiceProxies.get (s : ServiceProxies) : ServiceKind → Option ServiceProxy
  | .cm => s.cmProxy
  | .av => s.avProxy
  | .rc => s.rcProxy

def ServiceProxies.toList (s : ServiceProxies) : List ServiceProxy :=
  s.cmProxy.toList ++ s.avProxy.toList ++ s.rcProxy.toList

end RendererService
