import RendererService.Model.Task
import RendererService.Model.TaskProcessor

/-!
# service-task.c

The tasks of a construction queue.  The action of a task is a function pointer
into device.c, so `rsuServiceTaskProcessCb` takes the actions as a parameter.
-/

namespace RendererService

/-- The counter is an `unsigned int` printed by `%d`; the model is exact below
2^31 constructions. -/
def rsuServiceTaskCreateSource (w : World) : String × World :=
  ("source-" ++ toString w.serviceCpt, { w with serviceCpt := w.serviceCpt + 1 })

def rsuServiceTaskAdd (k : TaskQueueKey) (action : ServiceTaskAction) (device : Nat)
    (proxy : Option ServiceProxy) (actionCb : Option ServiceTaskCallback) (w : World) :
    World :=
  rsuTaskQueueAddTask k
    (.service { callback := actionCb, tAction := action, device := device, proxy := proxy })
    w

def rsuServiceTaskDeleteCb (a : TaskAtom) (w : World) : World :=
  w.withService a fun _ => w.setTask a none

/-- `task_delete_cb` of the two kinds of queues. -/
def taskDeleteCb : TaskCallback
  | .client => rsuTaskDelete
  | .service => rsuServiceTaskDeleteCb

def rsuServiceTaskCancelCb (a : TaskAtom) (w : World) : World :=
  w.withService a fun t =>
    if t.pAction.isSome then
      let w :=
        if (w.gupnp.weak t.proxy).isSome then gupnpServiceProxyCancelAction t.pAction w
        else w
      let w := w.setTask a (some (.service { t with pAction := none }))
      rsuTaskQueueTaskCompleted taskDeleteCb a.queueId w
    else w

/-- `task_cancel_cb` of the two kinds of queues. -/
def taskCancelCb : TaskCallback
  | .client => rsuTaskCancel
  | .service => rsuServiceTaskCancelCb

/-- The action may end at once, which is failure or success, or begin a GUPnP
action. -/
def rsuServiceTaskProcessCb
    (tAction : ServiceTaskAction → ServiceTask → TaskAtom → World →
      Option Nat × Bool × World)
    (a : TaskAtom) (w : World) : World :=
  w.withService a fun t =>
    let (pAction, failed, w) := tAction t.tAction t a w
    let w := w.setTask a (some (.service { t with pAction := pAction }))
    if failed then rsuTaskProcessorCancelQueue taskDeleteCb taskCancelCb a.queueId w
    else if pAction.isNone then rsuTaskQueueTaskCompleted taskDeleteCb a.queueId w
    else w

def rsuServiceTaskBeginActionCb (callback : ServiceTaskCallback → ServiceTask → World → World)
    (a : TaskAtom) (w : World) : World :=
  w.withService a fun t =>
    let w := w.setTask a (some (.service { t with pAction := none }))
    match t.callback with
    | none => w.crash (.nullCallback a)
    | some cb => rsuTaskQueueTaskCompleted taskDeleteCb a.queueId (callback cb t w)

end RendererService
