import RendererService.Processor.Effects

/-!
# The steps of the processor

Every function of task-processor.c is a sequence of the few steps below, each
an update of one queue.  An invariant is proved once for each step; that the
functions are made of these steps is proved once for each function.  What the
callbacks and the rest of the process do in between is a relation `E`.
-/

namespace RendererService

/-! ## Invariant -/

def Event.isProcessor : Event → Bool
  | .added _ | .processed _ | .cancelled _ | .deleted _ | .completed _ => true
  | .quitting | .quitScheduled => true
  | _ => false

namespace World

def runningQueues (w : World) : Nat :=
  Assoc.count (fun q => q.currentTask.isSome) w.processor.taskQueues

def Current (w : World) (a : TaskAtom) : Prop :=
  ∃ q, w.queue? a.queueId = some q ∧ q.currentTask = some a

end World

structure QueueOk (w : World) (k : TaskQueueKey) (q : TaskQueue) : Prop where
  key : k.id < w.processor.nextKey
  owned : ∀ a ∈ q.tasks, a.queueId = k ∧ a.id < w.nextTask
  nodup : q.tasks.Nodup
  fresh : ∀ a ∈ q.tasks, q.callbacks.Fresh (w.tasks a)
  current : ∀ a, q.currentTask = some a →
    a.queueId = k ∧ a.id < w.nextTask ∧ a ∉ q.tasks ∧ q.callbacks.Live (w.tasks a)
  idle : q.idleId ≠ 0 →
    q.currentTask = none ∧ q.tasks ≠ [] ∧ (q.idleId, k) ∈ w.loop.processIdles

/-- What holds of the processor between two steps. -/
structure ProcessorOk (w : World) : Prop where
  queues : ∀ k q, w.queue? k = some q → QueueOk w k q
  unique : ∀ k k' q q', w.queue? k = some q → w.queue? k' = some q' →
    k.source = k'.source → k.sink = k'.sink → k = k'
  running : w.processor.runningTasks = w.runningQueues
  idles : ∀ s ∈ w.loop.processIdles, ∃ q, w.queue? s.2 = some q ∧ q.idleId = s.1
  positive : ∀ s ∈ w.loop.processIdles, 0 < s.1 ∧ s.1 < w.loop.nextSource
  idlesNodup : (w.loop.processIdles.map Prod.fst).Nodup
  source : 0 < w.loop.nextSource

/-! ## Steps -/

/-- What the rest of the process may do: it neither touches the processor and
its idles nor the records of tasks that wait in a queue, and it leaves the
record of a current task in place. -/
structure Elsewhere (w w' : World) : Prop where
  processor : w'.processor = w.processor
  processIdles : w'.loop.processIdles = w.loop.processIdles
  nextSource : w.loop.nextSource ≤ w'.loop.nextSource
  nextTask : w'.nextTask = w.nextTask
  queued : ∀ k q a, w.queue? k = some q → a ∈ q.tasks → w'.tasks a = w.tasks a
  current : ∀ k q a, w.queue? k = some q → q.currentTask = some a →
    q.callbacks.Live (w.tasks a) → q.callbacks.Live (w'.tasks a)
  log : ∃ es, w'.log = w.log ++ es ∧ ∀ e ∈ es, e.isProcessor = false

/-- The name of a step, with what a side condition may ask about it. -/
inductive Act
  | addQueue (source sink : String) (callbacks : TaskCallbacks)
  | addTask (k : TaskQueueKey) (deferRemove : Bool) (task : Task)
  | arm (k : TaskQueueKey)
  | dispatch (k : TaskQueueKey)
  | configure (k : TaskQueueKey)
  | defer (k : TaskQueueKey)
  | clear (k : TaskQueueKey)
  | cancelling (a : TaskAtom)
  | complete (a : TaskAtom)
  | remove (k : TaskQueueKey)
  | quitting
  | quitNow
  | rehash
  | elsewhere
deriving DecidableEq, Repr

namespace World

def addQueue (w : World) (source sink : String) (flags : TaskQueueFlags)
    (callbacks : TaskCallbacks) : World :=
  let key : TaskQueueKey := ⟨w.processor.nextKey, source, sink⟩
  let w' := w.setQueue key { callbacks := callbacks, flags := flags }
  { w' with processor := { w'.processor with nextKey := w.processor.nextKey + 1 } }

def deferQueue (w : World) (k : TaskQueueKey) (deferRemove : Bool) : World :=
  w.modifyQueue k fun q => { q with deferRemove := deferRemove }

def setQuitting (w : World) : World :=
  ({ w with processor := { w.processor with quitting := true } } : World).emit .quitting

/-- `finishTask`, and the quit that the last completion schedules. -/
def completeTask (w : World) (k : TaskQueueKey) (a : TaskAtom) : World :=
  let w' := w.finishTask k a
  if w'.processor.quitting ∧ w'.processor.runningTasks = 0 then w'.idleAddQuit else w'

end World

/-- A change of the finally callback and the user data of a queue. -/
def Steers (q q' : TaskQueue) : Prop :=
  q'.tasks = q.tasks ∧ q'.callbacks = q.callbacks ∧ q'.currentTask = q.currentTask ∧
    q'.idleId = q.idleId ∧ q'.flags = q.flags ∧ q'.deferRemove = q.deferRemove

inductive Step (E : World → World → Prop) : World → Act → World → Prop
  | addQueue {w : World} {source sink : String} (flags : TaskQueueFlags)
      (callbacks : TaskCallbacks) :
      rsuTaskProcessorLookupQueue w source sink = none →
      Step E w (.addQueue source sink callbacks) (w.addQueue source sink flags callbacks)
  | addTask {w : World} {k : TaskQueueKey} {q : TaskQueue} {task : Task} :
      w.queue? k = some q → q.callbacks.Fresh (some task) →
      Step E w (.addTask k q.deferRemove task) (w.pushTask k task)
  | arm {w : World} {k : TaskQueueKey} {q : TaskQueue} :
      w.queue? k = some q → q.currentTask = none → q.idleId = 0 → q.tasks ≠ [] →
      Step E w (.arm k) (w.idleAddProcess k)
  | dispatch {w : World} {k : TaskQueueKey} {q : TaskQueue} {a : TaskAtom}
      {rest : List TaskAtom} :
      w.queue? k = some q → q.idleId ≠ 0 → q.tasks = a :: rest →
      Step E w (.dispatch k) ((w.sourceRemoveProcess q.idleId).dispatchTask k a rest)
  | configure {w : World} {k : TaskQueueKey} {q : TaskQueue} {f : TaskQueue → TaskQueue} :
      w.queue? k = some q → Steers q (f q) → Step E w (.configure k) (w.modifyQueue k f)
  | defer {w : World} {k : TaskQueueKey} {q : TaskQueue} (deferRemove : Bool) :
      w.queue? k = some q → q.tasks = [] → q.deferRemove = false →
      Step E w (.defer k) (w.deferQueue k deferRemove)
  | clear {w : World} {k : TaskQueueKey} {q : TaskQueue} :
      w.queue? k = some q → Step E w (.clear k) (w.clearQueue k q)
  | cancelling {w : World} {a : TaskAtom} :
      w.Current a → Step E w (.cancelling a) (w.emit (.cancelled a))
  | complete {w : World} {a : TaskAtom} :
      w.Current a → Step E w (.complete a) (w.completeTask a.queueId a)
  | remove {w : World} {k : TaskQueueKey} {q : TaskQueue} :
      w.queue? k = some q → q.currentTask = none → q.idleId = 0 →
      q.tasks = [] ∨ q.deferRemove = true →
      Step E w (.remove k) (w.dropQueue k q)
  | quitting {w : World} :
      0 < w.processor.runningTasks → Step E w .quitting w.setQuitting
  | quitNow {w : World} :
      w.processor.runningTasks = 0 → Step E w .quitNow w.setQuitting.idleAddQuit
  | rehash {w : World} {t : Assoc.Table TaskQueueKey TaskQueue} :
      t.entries.Perm w.processor.taskQueues.entries → Step E w .rehash (w.setQueues t)
  | elsewhere {w w' : World} : E w w' → Step E w .elsewhere w'

theorem Step.mono {E E' : World → World → Prop} {w w' : World} {act : Act}
    (hE : ∀ w w', E w w' → E' w w') (h : Step E w act w') : Step E' w act w' := by
  cases h with
  | addQueue flags callbacks hnew => exact .addQueue flags callbacks hnew
  | addTask hq hfresh => exact .addTask hq hfresh
  | arm hq hcurrent hidle htasks => exact .arm hq hcurrent hidle htasks
  | dispatch hq hidle htasks => exact .dispatch hq hidle htasks
  | configure hq hf => exact .configure hq hf
  | defer deferRemove hq htasks hdefer => exact .defer deferRemove hq htasks hdefer
  | clear hq => exact .clear hq
  | cancelling ha => exact .cancelling ha
  | complete ha => exact .complete ha
  | remove hq hcurrent hidle htasks => exact .remove hq hcurrent hidle htasks
  | quitting hrunning => exact .quitting hrunning
  | quitNow hzero => exact .quitNow hzero
  | rehash ht => exact .rehash ht
  | elsewhere he => exact .elsewhere (hE _ _ he)

end RendererService
