import RendererService.Model.World

/-!
# task-processor.c

The functions take the callbacks a queue was created with as parameters, as the
C file reaches them through function pointers.  A callback may call back into
the processor, so it acts on the whole `World`.
-/

namespace RendererService

/-- A callback of the processor, given the callback set of the queue. -/
abbrev TaskCallback := TaskCallbacks → TaskAtom → World → World

/-- `running_tasks--` on a `guint`.  The increment is exact: a running task has
a queue of its own, and 2^32 queues do not fit in memory. -/
def guintPred (n : Nat) : Nat := if n = 0 then 2 ^ 32 - 1 else n - 1

section Delete

variable (deleteCb : TaskCallback)

def prvTaskFreeCb (q : TaskQueue) (a : TaskAtom) (w : World) : World :=
  deleteCb q.callbacks a (w.emit (.deleted a))

/-- The current task is not among the tasks deleted here. -/
def prvTaskQueueFreeCb (q : TaskQueue) (w : World) : World :=
  let w := q.tasks.foldl (fun w a => prvTaskFreeCb deleteCb q a w) w
  if q.finallyCb then w.idleAddFinally { q with tasks := [] } else w

/-- `g_hash_table_remove(processor->task_queues, queue_id)`. -/
def removeQueue (k : TaskQueueKey) (w : World) : World :=
  match w.queue? k with
  | some q => prvTaskQueueFreeCb deleteCb q (w.eraseQueue k)
  | none => w

def rsuTaskProcessorFree (w : World) : World :=
  w.processor.taskQueues.entries.foldl
    (fun w e => prvTaskQueueFreeCb deleteCb e.2 w) (w.setQueues ∅)

def rsuTaskProcessorLookupQueue (w : World) (source sink : String) :
    Option TaskQueueKey :=
  w.processor.taskQueues.keys.find? fun k => k.source = source ∧ k.sink = sink

/-- `g_hash_table_insert` of an equal key keeps the old key, frees the new one
and the old value. -/
def rsuTaskProcessorAddQueue (source sink : String) (flags : TaskQueueFlags)
    (callbacks : TaskCallbacks) (w : World) : TaskQueueKey × World :=
  let key : TaskQueueKey := ⟨w.processor.nextKey, source, sink⟩
  let queue : TaskQueue := { callbacks := callbacks, flags := flags }
  let w := { w with
    processor := { w.processor with nextKey := w.processor.nextKey + 1 } }
  match rsuTaskProcessorLookupQueue w source sink with
  | none => (key, w.setQueue key queue)
  | some old =>
      match w.queue? old with
      | some q => (key, prvTaskQueueFreeCb deleteCb q (w.setQueue old queue))
      | none => (key, w)

def rsuTaskQueueTaskCompleted (k : TaskQueueKey) (w : World) : World :=
  match w.queue? k with
  | none => w.crash (.deadQueueKey k)
  | some q =>
      let w := w.emit (.completed k)
      let w :=
        match q.currentTask with
        | some a =>
            (deleteCb q.callbacks a (w.emit (.deleted a))).modifyQueue k fun q =>
              { q with currentTask := none }
        | none => w
      let w := { w with
        processor := { w.processor with
          runningTasks := guintPred w.processor.runningTasks } }
      if w.processor.quitting ∧ w.processor.runningTasks = 0 then w.idleAddQuit
      else if q.deferRemove then removeQueue deleteCb k w
      else if 0 < q.tasks.length then w.idleAddProcess k
      else if q.flags.autoRemove then removeQueue deleteCb k w
      else w

end Delete

/-! ## Adding and starting -/

def rsuTaskQueueStart (k : TaskQueueKey) (w : World) : World :=
  match w.queue? k with
  | none => w.crash (.deadQueueKey k)
  | some q =>
      if q.deferRemove then w
      else if q.currentTask = none ∧ q.idleId = 0 then w.idleAddProcess k
      else w

/-- The pointer the next task will have on queue `k`. -/
def World.newAtom (w : World) (k : TaskQueueKey) : TaskAtom := ⟨w.nextTask, k⟩

/-- The record of the task, which its caller just allocated, enters the model
here, where its `queue_id` is set. -/
def rsuTaskQueueAddTask (k : TaskQueueKey) (task : Task) (w : World) : World :=
  match w.queue? k with
  | none => w.crash (.deadQueueKey k)
  | some q =>
      let a := w.newAtom k
      let w := { w.setTask a (some task) with nextTask := w.nextTask + 1 }
      let w := (w.emit (.added a)).modifyQueue k fun q =>
        { q with tasks := q.tasks ++ [a] }
      if q.deferRemove then w
      else if q.flags.autoStart ∧ q.currentTask = none ∧ q.idleId = 0 then
        w.idleAddProcess k
      else w

def rsuTaskQueueSetFinally (k : TaskQueueKey) (w : World) : World :=
  match w.queue? k with
  | none => w.crash (.deadQueueKey k)
  | some _ => w.modifyQueue k fun q => { q with finallyCb := true }

def rsuTaskQueueSetUserData (k : TaskQueueKey) (data : DeviceNewCt) (w : World) :
    World :=
  match w.queue? k with
  | none => w.crash (.deadQueueKey k)
  | some _ => w.modifyQueue k fun q => { q with userData := some data }

/-! ## Cancelling -/

section Cancel

variable (deleteCb cancelCb : TaskCallback)

def prvTaskCancelAndFreeCb (q : TaskQueue) (a : TaskAtom) (w : World) : World :=
  let w := cancelCb q.callbacks a (w.emit (.cancelled a))
  deleteCb q.callbacks a (w.emit (.deleted a))

def prvTaskQueueCancel (k : TaskQueueKey) (q : TaskQueue) (w : World) : World :=
  let w := w.modifyQueue k fun q => { q with cancelled := true }
  let w := q.tasks.foldl
    (fun w a => prvTaskCancelAndFreeCb deleteCb cancelCb q a w) w
  let w := w.modifyQueue k fun q => { q with tasks := [] }
  let w :=
    if q.idleId ≠ 0 then
      (w.sourceRemoveProcess q.idleId).modifyQueue k fun q => { q with idleId := 0 }
    else w
  match q.currentTask with
  | some a => cancelCb q.callbacks a (w.emit (.cancelled a))
  | none => if q.flags.autoRemove then removeQueue deleteCb k w else w

def rsuTaskProcessorCancelQueue (k : TaskQueueKey) (w : World) : World :=
  match w.queue? k with
  | none => w.crash (.deadQueueKey k)
  | some q => prvTaskQueueCancel deleteCb cancelCb k q w

/-- One visit of `g_hash_table_foreach` in `prv_cancel_all_queues`. -/
def prvTaskQueueCancelCb (k : TaskQueueKey) (w : World) : World :=
  match w.queue? k with
  | none => w
  | some q => prvTaskQueueCancel deleteCb cancelCb k q w

/-- The `version` of the table is the same: no entry was added to it or removed. -/
def World.SameVersion (w w' : World) : Prop :=
  w'.processor.taskQueues.keys.Perm w.processor.taskQueues.keys

instance : DecidableRel World.SameVersion := fun w w' =>
  inferInstanceAs (Decidable (w'.processor.taskQueues.keys.Perm w.processor.taskQueues.keys))

/-- `g_hash_table_foreach` checks after each visit that the visit has not
modified the table, and otherwise stops with a critical warning. -/
def prvCancelAllQueues (w : World) : World :=
  Assoc.visitWhile World.SameVersion
    (fun w k => prvTaskQueueCancelCb deleteCb cancelCb k w) w.processor.taskQueues.keys w

def rsuTaskProcessorSetQuitting (w : World) : World :=
  let w := { w with processor := { w.processor with quitting := true } }
  let w := w.emit .quitting
  if 0 < w.processor.runningTasks then prvCancelAllQueues deleteCb cancelCb w
  else w.idleAddQuit

/-- One visit of `g_hash_table_foreach_remove`, shared by
`prv_free_queue_for_source` and `prv_free_queue_for_sink`. -/
def prvFreeQueueFor (hit : TaskQueueKey → Bool) (k : TaskQueueKey) (w : World) : World :=
  match w.queue? k with
  | none => w
  | some q =>
      if hit k ∧ ¬q.deferRemove then
        let deferRemove := q.currentTask.isSome
        let w := w.modifyQueue k fun q => { q with deferRemove := deferRemove }
        let w := prvTaskQueueCancel deleteCb cancelCb k
          { q with deferRemove := deferRemove } w
        if deferRemove then w else removeQueue deleteCb k w
      else w

def prvFreeQueueForSource (source : String) : TaskQueueKey → World → World :=
  prvFreeQueueFor deleteCb cancelCb fun k => k.source = source

def prvFreeQueueForSink (sink : String) : TaskQueueKey → World → World :=
  prvFreeQueueFor deleteCb cancelCb fun k => k.sink = sink

def rsuTaskProcessorRemoveQueuesForSource (source : String) (w : World) : World :=
  w.processor.taskQueues.keys.foldl
    (fun w k => prvFreeQueueForSource deleteCb cancelCb source k w) w

def rsuTaskProcessorRemoveQueuesForSink (sink : String) (w : World) : World :=
  w.processor.taskQueues.keys.foldl
    (fun w k => prvFreeQueueForSink deleteCb cancelCb sink k w) w

end Cancel

/-! ## Processing -/

/-- The idle callback; `g_ptr_array_index(queue->tasks, 0)` of an empty array is
a fault. -/
def prvTaskQueueProcessTask (processCb : TaskCallback) (k : TaskQueueKey) (w : World) :
    World :=
  match w.queue? k with
  | none => w.crash (.deadQueueKey k)
  | some q =>
      match q.tasks with
      | [] => w.crash (.emptyQueue k)
      | a :: rest =>
          let w := w.modifyQueue k fun q => { q with
            cancelled := false
            idleId := 0
            currentTask := some a
            tasks := rest }
          let w := { w with
            processor := { w.processor with
              runningTasks := w.processor.runningTasks + 1 } }
          processCb q.callbacks a (w.emit (.processed a))

end RendererService
