import RendererService.Model.Service

/-!
# What a request comes to

Each of the fifteen asynchronous requests ends in one of two ways: it schedules
its completion at once, or it begins one action on a service of the preferred
context of its device.
-/

namespace RendererService

/-- The fields of a client task that never change, and its invocation. -/
def ClientTask.Keeps (t t' : ClientTask) : Prop :=
  t'.type = t.type ∧ t'.path = t.path ∧ t'.synchronous = t.synchronous ∧
    t'.invocation = t.invocation

/-- A change of the result, the error or the device of a client task. -/
def ClientTask.Reports (t t' : ClientTask) : Prop :=
  t.Keeps t' ∧ t'.cancellable = t.cancellable ∧ t'.action = t.action ∧ t'.proxy = t.proxy

inductive Command (path : String) (a : TaskAtom) (w : World) : World → Prop
  | complete {f : ClientTask → ClientTask} (h : HostService) :
      (∀ t : ClientTask, t.Reports (f t)) → Command path a w (completeWith a f (w.setHostService h))
  | begin {d : Nat} (kind : ServiceKind) (name : String) {callback : ActionCallback}
      (localCb : Option DeviceLocalCb) :
      rsuDeviceFromPath path w.upnp.serverUdnMap w = some d →
      callback ≠ .rsuServiceTaskBeginActionCb →
      Command path a w (beginCommand d kind name callback localCb a w)
  | crash {d : Nat} {f : Fault} :
      rsuDeviceFromPath path w.upnp.serverUdnMap w = some d →
      (∀ w', w.withContext d w' = w.crash f) → (∀ k, f ≠ .deadQueueKey k) →
      Command path a w (w.crash f)

section Requests

variable {path : String} {a : TaskAtom} {w : World} {d : Nat}

theorem Command.done {f : ClientTask → ClientTask} (hf : ∀ t : ClientTask, t.Reports (f t)) :
    Command path a w (completeWith a f w) :=
  .complete w.upnp.hostService hf

theorem prvGetProp_reports (env : Environment) (t : ClientTask) (interfaceName : String) :
    t.Reports (prvGetProp env t interfaceName) := by
  unfold prvGetProp
  split
  · split <;> exact ⟨⟨rfl, rfl, rfl, rfl⟩, rfl, rfl, rfl⟩
  · exact ⟨⟨rfl, rfl, rfl, rfl⟩, rfl, rfl, rfl⟩

theorem prvGetProps_reports (t : ClientTask) (interfaceName : String) :
    t.Reports (prvGetProps t interfaceName) := by
  unfold prvGetProps
  split <;> exact ⟨⟨rfl, rfl, rfl, rfl⟩, rfl, rfl, rfl⟩

theorem hosted_reports (t : ClientTask) (d : Nat) (url : Except GError String) :
    t.Reports (t.hosted d url) := by
  cases url <;> exact ⟨⟨rfl, rfl, rfl, rfl⟩, rfl, rfl, rfl⟩

theorem unhosted_reports (t : ClientTask) (d : Nat) (removed : Bool) :
    t.Reports (t.unhosted d removed) := by
  cases removed <;> exact ⟨⟨rfl, rfl, rfl, rfl⟩, rfl, rfl, rfl⟩

theorem withServer_command {command : Nat → TaskAtom → World → World} {t : ClientTask}
    (ht : w.tasks a = some (.client t))
    (hcommand : ∀ d, rsuDeviceFromPath t.path w.upnp.serverUdnMap w = some d →
      Command t.path a w (command d a w)) : Command t.path a w (withServer command a w) := by
  simp only [withServer, World.withClient, ht]
  split
  · exact hcommand _ ‹_›
  · exact .done fun _ => ⟨⟨rfl, rfl, rfl, rfl⟩, rfl, rfl, rfl⟩

variable (hd : rsuDeviceFromPath path w.upnp.serverUdnMap w = some d)
include hd

theorem rsuDeviceSetProp_command (env : Environment) (interfaceName propName : String) :
    Command path a w (rsuDeviceSetProp env interfaceName propName d a w) := by
  unfold rsuDeviceSetProp
  split
  · exact .done fun _ => ⟨⟨rfl, rfl, rfl, rfl⟩, rfl, rfl, rfl⟩
  · split
    · exact .done fun _ => ⟨⟨rfl, rfl, rfl, rfl⟩, rfl, rfl, rfl⟩
    · split
      · exact .done fun _ => ⟨⟨rfl, rfl, rfl, rfl⟩, rfl, rfl, rfl⟩
      · exact .begin _ _ _ hd (by simp)

theorem rsuDeviceGetProp_command (env : Environment) (interfaceName propName : String) :
    Command path a w (rsuDeviceGetProp env interfaceName propName d a w) := by
  unfold rsuDeviceGetProp
  split
  · exact .begin _ _ _ hd (by simp)
  · exact .done fun t => prvGetProp_reports env { t with device := some d } _

theorem rsuDeviceGetAllProps_command (interfaceName : String) :
    Command path a w (rsuDeviceGetAllProps interfaceName d a w) := by
  unfold rsuDeviceGetAllProps
  split
  · exact .begin _ _ _ hd (by simp)
  · exact .done fun t => prvGetProps_reports { t with device := some d } _

theorem rsuDevicePlayPause_command (env : Environment) :
    Command path a w (rsuDevicePlayPause env d a w) := by
  unfold rsuDevicePlayPause
  split <;> exact .begin _ _ _ hd (by simp)

/-- Hosting a file asks for the preferred context, for its address. -/
theorem hostCommand {f : DeviceContext → ClientTask → ClientTask} {h : DeviceContext → HostService}
    (hf : ∀ (context : DeviceContext) (t : ClientTask), t.Reports (f context t)) :
    Command path a w (w.withContext d fun context =>
      completeWith a (f context) (w.setHostService (h context))) := by
  cases hdev : w.devices d with
  | none =>
      have hall : ∀ w', w.withContext d w' = w.crash (.deadDevice d) := fun _ => by
        simp only [World.withContext, World.withDevice, hdev]
      rw [hall]
      exact .crash hd hall (by simp)
  | some dev =>
      cases hcontext : rsuDeviceGetContext dev with
      | none =>
          have hall : ∀ w', w.withContext d w' = w.crash (.noContext d) := fun _ => by
            simp only [World.withContext, World.withDevice, hdev, hcontext]
          rw [hall]
          exact .crash hd hall (by simp)
      | some context =>
          have hgo : (w.withContext d fun context =>
              completeWith a (f context) (w.setHostService (h context))) =
                completeWith a (f context) (w.setHostService (h context)) := by
            simp only [World.withContext, World.withDevice, hdev, hcontext]
          rw [hgo]
          exact .complete _ (hf context)

theorem rsuDeviceHostUri_command (env : Environment) (uri client : String) :
    Command path a w (rsuDeviceHostUri env uri client d a w) := by
  exact hostCommand hd fun context t => hosted_reports t d _

theorem rsuDeviceRemoveUri_command (uri client : String) :
    Command path a w (rsuDeviceRemoveUri uri client d a w) := by
  exact hostCommand hd fun context t => unhosted_reports t d _

end Requests

def TaskType.isAsync : TaskType → Bool
  | .getVersion | .getServers | .raise | .quit => false
  | _ => true

/-- The task is marked as cancellable, and its request carried out. -/
def World.markCancellable (w : World) (a : TaskAtom) : World :=
  w.modifyClient a fun t => { t with cancellable := some {} }

theorem prvProcessAsyncTask_command {a : TaskAtom} {w : World} {t : ClientTask}
    (env : Environment) (ht : w.tasks a = some (.client t)) (hasync : t.type.isAsync = true) :
    Command t.path a (w.markCancellable a) (prvProcessAsyncTask env a w) := by
  have hmark : (w.markCancellable a).tasks a =
      some (.client { t with cancellable := some {} }) := by
    simp [World.markCancellable, World.modifyClient, World.withClient, ht, World.setTask]
  have hserver : ∀ command : Nat → TaskAtom → World → World,
      (∀ d, rsuDeviceFromPath t.path (w.markCancellable a).upnp.serverUdnMap
        (w.markCancellable a) = some d →
        Command t.path a (w.markCancellable a) (command d a (w.markCancellable a))) →
      Command t.path a (w.markCancellable a) (withServer command a (w.markCancellable a)) :=
    fun command hcommand =>
      withServer_command (t := { t with cancellable := some {} }) hmark hcommand
  have hbegin : ∀ {d : Nat} (kind : ServiceKind) (name : String) (callback : ActionCallback)
      (localCb : Option DeviceLocalCb), callback ≠ .rsuServiceTaskBeginActionCb →
      rsuDeviceFromPath t.path (w.markCancellable a).upnp.serverUdnMap
        (w.markCancellable a) = some d →
      Command t.path a (w.markCancellable a)
        (beginCommand d kind name callback localCb a (w.markCancellable a)) :=
    fun kind name callback localCb hcb hd => .begin kind name localCb hd hcb
  simp only [prvProcessAsyncTask, World.withClient, ht]
  cases htype : t.type with
  | getVersion | getServers | raise | quit => simp [TaskType.isAsync, htype] at hasync
  | getProp i p => exact hserver _ fun d hd => rsuDeviceGetProp_command hd env i p
  | getAllProps i => exact hserver _ fun d hd => rsuDeviceGetAllProps_command hd i
  | setProp i p => exact hserver _ fun d hd => rsuDeviceSetProp_command hd env i p
  | playPause => exact hserver _ fun d hd => rsuDevicePlayPause_command hd env
  | hostUri uri client => exact hserver _ fun d hd => rsuDeviceHostUri_command hd env uri client
  | removeUri uri client => exact hserver _ fun d hd => rsuDeviceRemoveUri_command hd uri client
  | play | pause | stop | next | previous | openUri _ | seek _ | setPosition _ | gotoTrack _ =>
      exact hserver _ fun d hd => hbegin _ _ _ _ (by simp) hd

theorem prvProcessAsyncTask_sync {a : TaskAtom} {w : World} {t : ClientTask}
    (env : Environment) (ht : w.tasks a = some (.client t)) (hsync : t.type.isAsync = false) :
    prvProcessAsyncTask env a w = w.markCancellable a := by
  simp only [prvProcessAsyncTask, World.withClient, ht]
  cases htype : t.type <;> simp_all [TaskType.isAsync, World.markCancellable]

end RendererService
