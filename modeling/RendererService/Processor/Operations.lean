import RendererService.Processor.Frames
import RendererService.Processor.Runs

/-!
# Runs of the task processor

The operations of the processor as the program uses them, in any order, with
anything the rest of the process may do between two of them.  A run of
operations is a run of steps, and `Op.May` says which steps an operation can
take.
-/

namespace RendererService

open Transition

/-! ## Operations -/

/-- An operation on the processor; `other` is a step of the rest of the process
and `rehash` a change of the order in which GLib visits the queues. -/
inductive Op
  | addQueue (source sink : String) (flags : TaskQueueFlags) (callbacks : TaskCallbacks)
  | setFinally (k : TaskQueueKey)
  | setUserData (k : TaskQueueKey) (data : DeviceNewCt)
  | addTask (k : TaskQueueKey) (task : Task)
  | start (k : TaskQueueKey)
  | processIdle (id : Nat) (k : TaskQueueKey) (env : Environment)
  | taskCompleted (k : TaskQueueKey)
  | cancelQueue (k : TaskQueueKey)
  | removeQueuesForSource (source : String)
  | removeQueuesForSink (sink : String)
  | setQuitting
  | rehash (t : Assoc.Table TaskQueueKey TaskQueue)
  | other (w' : World)

namespace Op

def perform (w : World) : Op → World
  | addQueue source sink flags callbacks =>
      (rsuTaskProcessorAddQueue taskDeleteCb source sink flags callbacks w).2
  | setFinally k => rsuTaskQueueSetFinally k w
  | setUserData k data => rsuTaskQueueSetUserData k data w
  | addTask k task => rsuTaskQueueAddTask k task w
  | start k => rsuTaskQueueStart k w
  | processIdle id k env =>
      prvTaskQueueProcessTask (taskProcessCb env) k (w.sourceRemoveProcess id)
  | taskCompleted k => rsuTaskQueueTaskCompleted taskDeleteCb k w
  | cancelQueue k => rsuTaskProcessorCancelQueue taskDeleteCb taskCancelCb k w
  | removeQueuesForSource source =>
      rsuTaskProcessorRemoveQueuesForSource taskDeleteCb taskCancelCb source w
  | removeQueuesForSink sink =>
      rsuTaskProcessorRemoveQueuesForSink taskDeleteCb taskCancelCb sink w
  | setQuitting => rsuTaskProcessorSetQuitting taskDeleteCb taskCancelCb w
  | rehash t => w.setQueues t
  | other w' => w'

def Legal (w : World) : Op → Prop
  | addQueue source sink _ _ => rsuTaskProcessorLookupQueue w source sink = none
  | setFinally k | setUserData k _ | cancelQueue k => ∃ q, w.queue? k = some q
  | addTask k task => ∃ q, w.queue? k = some q ∧ q.callbacks.Fresh (some task)
  | start k => ∃ q, w.queue? k = some q ∧ q.tasks ≠ []
  | processIdle id k _ => (id, k) ∈ w.loop.processIdles
  | taskCompleted k => ∃ q a, w.queue? k = some q ∧ q.currentTask = some a
  | removeQueuesForSource source =>
      ∀ k q, w.queue? k = some q → k.source = source → q.callbacks = .client
  | removeQueuesForSink sink =>
      ∀ k q, w.queue? k = some q → k.sink = sink → q.callbacks = .client
  | setQuitting => True
  | rehash t => t.entries.Perm w.processor.taskQueues.entries
  | other w' => Elsewhere w w'

/-- The queues and the requests of the program: what kind of queue is added, and
that a request comes with its invocation. -/
def Usual (_ : World) : Op → Prop
  | addQueue _ _ flags .client => flags = autoStart
  | addQueue _ _ flags .service => flags = autoRemove
  | addTask _ (.client t) => t.invocation.isSome
  | _ => True

/-- The operation lets a queue go on: it arms the idle of the queue without
handing over a task itself. -/
def Schedules (w : World) : Op → Prop
  | addTask k _ => ∃ q, w.queue? k = some q ∧ q.deferRemove = false ∧ q.flags.autoStart ∧
      q.currentTask = none ∧ q.idleId = 0
  | start k => ∃ q, w.queue? k = some q ∧ q.deferRemove = false ∧ q.currentTask = none ∧
      q.idleId = 0
  | taskCompleted k => ∃ q, w.queue? k = some q ∧ q.tasks ≠ [] ∧ q.deferRemove = false ∧
      ¬(w.processor.quitting ∧ w.processor.runningTasks = 1)
  | _ => False

/-- The steps that the operation may take. -/
def May (w : World) (op : Op) : Act → Prop
  | .addQueue source sink callbacks => ∃ flags, op = .addQueue source sink flags callbacks
  | .addTask k deferRemove task =>
      ∃ q, op = .addTask k task ∧ w.queue? k = some q ∧ q.deferRemove = deferRemove
  | .arm _ => op.Schedules w ∨ ∃ id k env, op = .processIdle id k env
  | .dispatch k => ∃ id env, op = .processIdle id k env
  | .quitting => op = .setQuitting ∧ 0 < w.processor.runningTasks
  | .quitNow => op = .setQuitting ∧ w.processor.runningTasks = 0
  | .rehash => ∃ t, op = .rehash t
  | _ => True

end Op

structure World.NewProcessor (w : World) : Prop where
  taskQueues : w.processor.taskQueues = ∅
  runningTasks : w.processor.runningTasks = 0
  quitting : w.processor.quitting = false
  processIdles : w.loop.processIdles = []
  nextSource : 0 < w.loop.nextSource
  log : w.log = []

def processor : System World Op where
  init := World.NewProcessor
  step w op w' := op.Legal w ∧ w' = op.perform w

/-- Legal operations of the program lead from `w` to `w'`. -/
abbrev Operates (w w' : World) : Prop := (processor.restrict Op.Usual).Steps w w'

/-! ## Operations as runs of steps -/

def Act.teardown : Act → Bool
  | .defer _ | .clear _ | .cancelling _ | .complete _ | .remove _ | .elsewhere => true
  | _ => false

/-- A discipline under which the callbacks of its own queues may do what they do. -/
structure Discipline.Local (D : Discipline) : Prop where
  touches : ∀ {w w' a}, D.Inv w → D.Mine a.queueId → w.Current a → Touches a w w' → D.E w w'
  elsewhere : ∀ w, D.Allowed w .elsewhere
  complete : ∀ w a, D.Mine a.queueId → D.Allowed w (.complete a)

structure Discipline.Open (D : Discipline) : Prop where
  mine : ∀ k, D.Mine k
  touches : ∀ {w w' a}, D.Inv w → w.Current a → Touches a w w' → D.E w w'
  elsewhere : ∀ w, D.Allowed w .elsewhere
  complete : ∀ w a, D.Allowed w (.complete a)

theorem Discipline.Open.toLocal {D : Discipline} (hD : D.Open) : D.Local where
  touches hok _ := hD.touches hok
  elsewhere := hD.elsewhere
  complete w a _ := hD.complete w a

section Callbacks

variable {D : Discipline} {w w' : World}

theorem Touches.run {a : TaskAtom} (h : Touches a w w') (hD : D.Local) (hok : D.Inv w)
    (hmine : D.Mine a.queueId) (ha : w.Current a) : D.Run w w' :=
  .one (.elsewhere (hD.touches hok hmine ha h)) (hD.elsewhere w)

/-- A change of the record of the current task, and then its completion. -/
theorem Touches.complete_run {a : TaskAtom} {q : TaskQueue} (h : Touches a w w') (hD : D.Local)
    (hok : D.Inv w) (hmine : D.Mine a.queueId) (hq : w.queue? a.queueId = some q)
    (ha : q.currentTask = some a)
    (harm : q.tasks ≠ [] → D.Allowed (w'.completeTask a.queueId a) (.arm a.queueId)) :
    D.Run w (rsuTaskQueueTaskCompleted taskDeleteCb a.queueId w') := by
  have hfirst : D.Run w w' := h.run hD hok hmine ⟨q, hq, ha⟩
  have hq' : w'.queue? a.queueId = some q := (h.queue? _).trans hq
  exact hfirst.trans (rsuTaskQueueTaskCompleted_run (hfirst.inv hok) hmine hq' ha
    (hD.complete _ _ hmine) fun htasks _ _ => harm htasks)

/-- A client task is cancelled in place; a service task that waits for a reply
completes at once. -/
theorem Discipline.Local.cancels (hD : D.Local) : D.Cancels := by
  intro w q a hok hmine hq ha htasks
  cases hcs : q.callbacks with
  | client => exact touches_rsuTaskCancel.run hD hok hmine ⟨q, hq, ha⟩
  | service =>
      obtain ⟨-, -, -, hlive⟩ := ((D.processor hok).queues _ q hq).current a ha
      rw [hcs] at hlive
      obtain ⟨t, ht⟩ := TaskCallbacks.live_service hlive
      simp only [taskCancelCb, rsuServiceTaskCancelCb_eq ht]
      split
      · exact (touches_giveUpStep ht).complete_run hD hok hmine hq ha fun hne => absurd htasks hne
      · exact .refl

theorem Discipline.Open.cancels (hD : D.Open) : D.Cancels := hD.toLocal.cancels

theorem prvProcessSyncTask_run {a : TaskAtom} {q : TaskQueue} (hD : D.Open) (hok : D.Inv w)
    (hq : w.queue? a.queueId = some q) (ha : q.currentTask = some a)
    (harm : ∀ w, D.Allowed w (.arm a.queueId)) {t : ClientTask}
    (ht : w.tasks a = some (.client t)) :
    D.Run w (prvProcessSyncTask a w) := by
  simp only [prvProcessSyncTask, World.withClient, ht]
  split
  · exact (touches_answerTask _).complete_run hD.toLocal hok (hD.mine _) hq ha fun _ => harm _
  · have hresult : Touches a w (w.modifyClient a fun t =>
        { t with result := some (.servers (rsuUpnpGetServerIds w)) }) :=
      touches_modifyClient fun _ => ⟨rfl, rfl, rfl, rfl⟩
    exact (hresult.trans (touches_answerTask _)).complete_run hD.toLocal hok (hD.mine _) hq ha
      fun _ => harm _
  · exact (touches_answerTask _).complete_run hD.toLocal hok (hD.mine _) hq ha fun _ => harm _
  · exact (touches_answerTask _).complete_run hD.toLocal hok (hD.mine _) hq ha fun _ => harm _
  · exact .refl

theorem rsuServiceTaskProcessCb_run {a : TaskAtom} {q : TaskQueue} (env : Environment)
    (hD : D.Open) (hok : D.Inv w) (hq : w.queue? a.queueId = some q)
    (ha : q.currentTask = some a) (harm : ∀ w, D.Allowed w (.arm a.queueId)) {t : ServiceTask}
    (ht : w.tasks a = some (.service t)) :
    D.Run w (rsuServiceTaskProcessCb (serviceTaskAction env) a w) := by
  simp only [rsuServiceTaskProcessCb, World.withService, ht]
  have haction := touches_serviceTaskAction (a := a) (w := w) env t.tAction t
  have htouch : Touches a w ((serviceTaskAction env t.tAction t a w).2.2.setTask a
      (some (.service { t with pAction := (serviceTaskAction env t.tAction t a w).1 }))) := by
    refine haction.trans (touches_setService _ ?_)
    rw [tasks_serviceTaskAction, ht]
  split
  · have hfirst : D.Run w _ := htouch.run hD.toLocal hok (hD.mine _) ⟨q, hq, ha⟩
    exact hfirst.trans (rsuTaskProcessorCancelQueue_run hD.cancels (hfirst.inv hok)
      (hD.mine _) ((htouch.queue? _).trans hq))
  · split
    · exact htouch.complete_run hD.toLocal hok (hD.mine _) hq ha fun _ => harm _
    · exact htouch.run hD.toLocal hok (hD.mine _) ⟨q, hq, ha⟩

/-- The process callbacks, on the task that has just become current. -/
theorem taskProcessCb_run {a : TaskAtom} {q : TaskQueue} (env : Environment) (hD : D.Open)
    (hok : D.Inv w) (hq : w.queue? a.queueId = some q) (ha : q.currentTask = some a)
    (harm : ∀ w, D.Allowed w (.arm a.queueId)) : D.Run w (taskProcessCb env q.callbacks a w) := by
  obtain ⟨-, -, -, hlive⟩ := ((D.processor hok).queues _ q hq).current a ha
  cases hcs : q.callbacks with
  | client =>
      rw [hcs] at hlive
      obtain ⟨t, ht⟩ := TaskCallbacks.live_client hlive
      simp only [taskProcessCb, prvProcessTask, World.withClient, ht]
      split
      · exact prvProcessSyncTask_run hD hok hq ha harm ht
      · exact (touches_prvProcessAsyncTask env).run hD.toLocal hok (hD.mine _) ⟨q, hq, ha⟩
  | service =>
      rw [hcs] at hlive
      obtain ⟨t, ht⟩ := TaskCallbacks.live_service hlive
      exact rsuServiceTaskProcessCb_run env hD hok hq ha harm ht

end Callbacks

/-- Steps whose labels satisfy `P`, under the invariant of the processor. -/
def processorSteps (P : Act → Prop) (hP : ∀ act, act.teardown = true → P act) :
    Discipline where
  E := Elsewhere
  Allowed _ := P
  Inv := ProcessorOk
  Mine _ := True
  processor h := h
  preserved h _ hstep := hstep.ok (fun _ _ _ he => he) h
  defer _ _ _ := hP _ rfl
  clear _ _ _ := hP _ rfl
  cancelling _ _ _ := hP _ rfl
  remove _ _ _ := hP _ rfl

theorem processorSteps_open {P : Act → Prop} {hP : ∀ act, act.teardown = true → P act} :
    (processorSteps P hP).Open where
  mine _ := trivial
  touches hok ha h := h.elsewhere hok ha
  elsewhere _ := hP _ rfl
  complete _ _ := hP _ rfl

theorem queue?_dispatchTask (w : World) (k k' : TaskQueueKey) (a : TaskAtom)
    (rest : List TaskAtom) :
    (w.dispatchTask k a rest).queue? k' =
      if k' = k then (w.queue? k).map fun q =>
        { q with cancelled := false, idleId := 0, currentTask := some a, tasks := rest }
      else w.queue? k' :=
  queue?_modifyQueue w k k' _

/-- The idle callback: the first queued task becomes current, and what follows
is its process callback. -/
theorem prvTaskQueueProcessTask_dispatch {w : World} {id : Nat} {k : TaskQueueKey}
    (env : Environment) (hok : ProcessorOk w) (hidle : (id, k) ∈ w.loop.processIdles) :
    ∃ q a rest, w.queue? k = some q ∧ q.idleId = id ∧ id ≠ 0 ∧ q.tasks = a :: rest ∧
      a.queueId = k ∧
      prvTaskQueueProcessTask (taskProcessCb env) k (w.sourceRemoveProcess id) =
        taskProcessCb env q.callbacks a ((w.sourceRemoveProcess id).dispatchTask k a rest) := by
  obtain ⟨q, hq, hid⟩ := hok.idles _ hidle
  dsimp only at hq hid
  subst hid
  have hold := hok.queues k q hq
  have hne : q.idleId ≠ 0 := Nat.ne_of_gt (hok.positive _ hidle).1
  obtain ⟨-, htasks, -⟩ := hold.idle hne
  obtain ⟨a, rest, hcons⟩ := List.exists_cons_of_ne_nil htasks
  refine ⟨q, a, rest, hq, rfl, hne, hcons, (hold.owned a (hcons ▸ List.mem_cons_self)).1, ?_⟩
  have hq₀ : (w.sourceRemoveProcess q.idleId).queue? k = some q := hq
  simp only [prvTaskQueueProcessTask, hq₀, hcons]
  rfl

theorem prvTaskQueueProcessTask_run {D : Discipline} {w : World} {id : Nat} {k : TaskQueueKey}
    (env : Environment) (hD : D.Open) (hok : D.Inv w) (hidle : (id, k) ∈ w.loop.processIdles)
    (hdispatch : D.Allowed w (.dispatch k)) (harm : ∀ w, D.Allowed w (.arm k)) :
    D.Run w (prvTaskQueueProcessTask (taskProcessCb env) k (w.sourceRemoveProcess id)) := by
  obtain ⟨q, a, rest, hq, rfl, hne, hcons, rfl, heq⟩ :=
    prvTaskQueueProcessTask_dispatch env (D.processor hok) hidle
  have hfirst : D.Run w ((w.sourceRemoveProcess q.idleId).dispatchTask a.queueId a rest) :=
    .one (.dispatch hq hne hcons) hdispatch
  have hq' : ((w.sourceRemoveProcess q.idleId).dispatchTask a.queueId a rest).queue? a.queueId =
      some { q with cancelled := false, idleId := 0, currentTask := some a, tasks := rest } := by
    rw [queue?_dispatchTask, if_pos rfl]
    exact congrArg _ hq
  rw [heq]
  exact hfirst.trans (taskProcessCb_run
    (q := { q with cancelled := false, idleId := 0, currentTask := some a, tasks := rest }) env
    hD (hfirst.inv hok) hq' rfl harm)

theorem Op.may_teardown (w : World) (op : Op) : ∀ act, act.teardown = true → op.May w act := by
  intro act hact
  cases act <;> trivial

theorem Op.run {w : World} {op : Op} (hok : ProcessorOk w) (hlegal : op.Legal w) :
    (processorSteps (op.May w) (op.may_teardown w)).Run w (op.perform w) := by
  cases op with
  | addQueue source sink flags callbacks =>
      rw [Op.perform, rsuTaskProcessorAddQueue_eq flags callbacks hlegal]
      exact .one (.addQueue flags callbacks hlegal) ⟨flags, rfl⟩
  | setFinally k =>
      obtain ⟨q, hq⟩ := hlegal
      simp only [Op.perform, rsuTaskQueueSetFinally, hq]
      exact .one (.configure hq ⟨rfl, rfl, rfl, rfl, rfl, rfl⟩) trivial
  | setUserData k data =>
      obtain ⟨q, hq⟩ := hlegal
      simp only [Op.perform, rsuTaskQueueSetUserData, hq]
      exact .one (.configure hq ⟨rfl, rfl, rfl, rfl, rfl, rfl⟩) trivial
  | addTask k task =>
      obtain ⟨q, hq, hfresh⟩ := hlegal
      exact rsuTaskQueueAddTask_run hq hfresh ⟨q, rfl, hq, rfl⟩
        fun hdefer hauto hcurrent hidle => .inl ⟨q, hq, hdefer, hauto, hcurrent, hidle⟩
  | start k =>
      obtain ⟨q, hq, htasks⟩ := hlegal
      exact rsuTaskQueueStart_run hq htasks
        fun hdefer hcurrent hidle => .inl ⟨q, hq, hdefer, hcurrent, hidle⟩
  | processIdle id k env =>
      exact prvTaskQueueProcessTask_run env processorSteps_open hok hlegal ⟨id, env, rfl⟩
        fun _ => .inr ⟨id, k, env, rfl⟩
  | taskCompleted k =>
      obtain ⟨q, a, hq, ha⟩ := hlegal
      obtain rfl : a.queueId = k := ((hok.queues k q hq).current a ha).1
      exact rsuTaskQueueTaskCompleted_run hok trivial hq ha trivial
        fun htasks hdefer hquit => .inl ⟨q, hq, htasks, hdefer, hquit⟩
  | cancelQueue k =>
      obtain ⟨q, hq⟩ := hlegal
      exact rsuTaskProcessorCancelQueue_run processorSteps_open.cancels hok trivial hq
  | removeQueuesForSource source =>
      exact rsuTaskProcessorRemoveQueuesForSource_run processorSteps_open.cancels source hok
        fun _ _ _ => trivial
  | removeQueuesForSink sink =>
      exact rsuTaskProcessorRemoveQueuesForSink_run processorSteps_open.cancels sink hok
        fun _ _ _ => trivial
  | setQuitting =>
      exact rsuTaskProcessorSetQuitting_run processorSteps_open.cancels (fun _ _ => trivial) hok
        (fun hpos => ⟨rfl, hpos⟩) fun hzero => ⟨rfl, hzero⟩
  | rehash t => exact .one (.rehash hlegal) ⟨t, rfl⟩
  | other w' => exact .one (.elsewhere hlegal) trivial

/-! ## Reachable processors -/

theorem World.NewProcessor.ok {w : World} (h : w.NewProcessor) : ProcessorOk w := by
  have hnone : ∀ k, w.queue? k = none := fun k => by
    show w.processor.taskQueues.lookup k = none
    rw [h.taskQueues]
    exact AList.lookup_empty k
  refine ⟨?_, ?_, ?_, ?_, ?_, ?_, h.nextSource⟩
  · intro k q hq
    exact absurd ((hnone k).symm.trans hq) (by simp)
  · intro k k' q q' hq
    exact absurd ((hnone k).symm.trans hq) (by simp)
  · rw [h.runningTasks, World.runningQueues, h.taskQueues]
    rfl
  · simp [h.processIdles]
  · simp [h.processIdles]
  · simp [h.processIdles]

/-- The operations of a list are legal and meet `C`, one after the other. -/
def Op.AllLegal (C : World → Op → Prop) : World → List Op → Prop
  | _, [] => True
  | w, op :: ops => (C w op ∧ op.Legal w) ∧ Op.AllLegal C (op.perform w) ops

theorem processor_reaches_foldl {C : World → Op → Prop} (ops : List Op) :
    ∀ {done : List Op} {w : World}, (processor.restrict C).Reaches done w →
      Op.AllLegal C w ops →
      (processor.restrict C).Reaches (done ++ ops) (ops.foldl Op.perform w) := by
  induction ops with
  | nil =>
      intro done w h _
      simpa using h
  | cons op ops ih =>
      intro done w h hlegal
      have hstep : (processor.restrict C).Reaches (done ++ [op]) (op.perform w) :=
        h.step ⟨hlegal.1.1, hlegal.1.2, rfl⟩
      simpa [List.append_assoc] using ih hstep hlegal.2

theorem processor_ok {ops : List Op} {w : World} (h : processor.Reaches ops w) :
    ProcessorOk w := by
  refine h.invariant (fun _ hnew => hnew.ok) ?_
  rintro w op _ hok ⟨hlegal, rfl⟩
  exact (Op.run hok hlegal).inv hok

/-- What holds of a new processor, and what every legal operation keeps, holds in
every run. -/
theorem processor_invariant {I : World → Prop} {ops : List Op} {w : World}
    (h : processor.Reaches ops w) (hnew : ∀ w, w.NewProcessor → I w)
    (hop : ∀ w (op : Op), ProcessorOk w → op.Legal w → I w → I (op.perform w)) : I w := by
  refine h.invariant_of (fun _ _ hr => processor_ok hr) hnew ?_
  rintro w op _ hok hI ⟨hlegal, rfl⟩
  exact hop w op hok hlegal hI

end RendererService
