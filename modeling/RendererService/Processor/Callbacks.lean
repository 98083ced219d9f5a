import RendererService.Model.ServiceTask

/-!
# The callbacks of a queue

What `task_delete_cb` and `task_cancel_cb` do to a task that has not been
started: its record goes away, and its invocation, if it has one, is answered.
The loops over the tasks of a queue then have a closed form.
-/

namespace RendererService

/-! ## Records of tasks -/

def TaskCallbacks.Live : TaskCallbacks → Option Task → Prop
  | .client, some (.client _) => True
  | .service, some (.service _) => True
  | _, _ => False

/-- The record of a task that was not handed to `task_process_cb` yet. -/
def TaskCallbacks.Fresh : TaskCallbacks → Option Task → Prop
  | .client, some (.client t) => t.cancellable = none
  | .service, some (.service t) => t.pAction = none
  | _, _ => False

theorem TaskCallbacks.Fresh.live {cs : TaskCallbacks} {r : Option Task}
    (h : cs.Fresh r) : cs.Live r := by
  cases cs <;> rcases r with _ | _ | _ <;> simp_all [TaskCallbacks.Fresh, TaskCallbacks.Live]

theorem TaskCallbacks.live_client {r : Option Task} (h : TaskCallbacks.client.Live r) :
    ∃ t, r = some (.client t) := by
  rcases r with _ | t | t <;> simp_all [TaskCallbacks.Live]

theorem TaskCallbacks.live_service {r : Option Task} (h : TaskCallbacks.service.Live r) :
    ∃ t, r = some (.service t) := by
  rcases r with _ | t | t <;> simp_all [TaskCallbacks.Live]

/-- The answer that a record still owes. -/
def pendingReply (r : Option Task) (reply : Reply) : List Event :=
  match r with
  | some (.client t) => t.invocation.toList.map fun invocation => .answered invocation reply
  | _ => []

def diedReply : Reply := .error ⟨.died, "Unable to complete command."⟩

namespace World

def deleteEvents (w : World) (a : TaskAtom) : List Event :=
  .deleted a :: pendingReply (w.tasks a) diedReply

def cancelEvents (w : World) (a : TaskAtom) : List Event :=
  .cancelled a :: (pendingReply (w.tasks a) (.error operationCancelled) ++ [.deleted a])

def freeTasks (w : World) (l : List TaskAtom) (es : List Event) : World :=
  { w with
    tasks := fun b => if b ∈ l then none else w.tasks b
    log := w.log ++ es }

end World

/-! ## One task -/

theorem prvTaskFreeCb_eq {q : TaskQueue} {a : TaskAtom} {w : World}
    (h : q.callbacks.Live (w.tasks a)) :
    prvTaskFreeCb taskDeleteCb q a w = w.freeTasks [a] (w.deleteEvents a) := by
  cases hq : q.callbacks with
  | client =>
      rw [hq] at h
      obtain ⟨t, ht⟩ := TaskCallbacks.live_client h
      cases hi : t.invocation <;>
        simp [prvTaskFreeCb, taskDeleteCb, rsuTaskDelete, World.withClient, World.emit,
          World.setTask, World.freeTasks, World.deleteEvents, pendingReply, diedReply, hq, ht, hi]
  | service =>
      rw [hq] at h
      obtain ⟨t, ht⟩ := TaskCallbacks.live_service h
      simp [prvTaskFreeCb, taskDeleteCb, rsuServiceTaskDeleteCb, World.withService, World.emit,
        World.setTask, World.freeTasks, World.deleteEvents, pendingReply, hq, ht]

theorem setTask_self {w : World} {a : TaskAtom} {r : Option Task} (h : w.tasks a = r) :
    w.setTask a r = w := by
  have htasks : (fun b => if b = a then r else w.tasks b) = w.tasks := by
    funext b
    by_cases hb : b = a <;> simp [hb, h]
  simp only [World.setTask, htasks]

theorem answerTask_eq {a : TaskAtom} {w : World} {t : ClientTask}
    (ht : w.tasks a = some (.client t)) (reply : ClientTask → Reply) :
    answerTask a reply w =
      ({ w with log := w.log ++ pendingReply (w.tasks a) (reply t) } : World).setTask a
        (some (.client { t with invocation := none })) := by
  cases hi : t.invocation with
  | none =>
      have hself : { t with invocation := none } = t := by
        cases t
        simp_all
      simp only [answerTask, World.withClient, pendingReply, ht, hi, Option.toList_none,
        List.map_nil, List.append_nil, hself]
      exact (setTask_self ht).symm
  | some invocation =>
      simp [answerTask, World.withClient, World.emit, World.setTask, pendingReply, ht, hi]

theorem rsuTaskCancel_fresh {a : TaskAtom} {w : World} {t : ClientTask}
    (ht : w.tasks a = some (.client t)) (hfresh : t.cancellable = none) :
    rsuTaskCancel a w = answerTask a (fun _ => .error operationCancelled) w := by
  have hrecord : (answerTask a (fun _ => .error operationCancelled) w).tasks a =
      some (.client { t with invocation := none }) := by
    simp [answerTask_eq ht, World.setTask]
  simp [rsuTaskCancel, rsuAsyncTaskCancel, World.withClient, ht, hrecord, hfresh]

theorem prvTaskCancelAndFreeCb_eq {q : TaskQueue} {a : TaskAtom} {w : World}
    (h : q.callbacks.Fresh (w.tasks a)) :
    prvTaskCancelAndFreeCb taskDeleteCb taskCancelCb q a w =
      w.freeTasks [a] (w.cancelEvents a) := by
  cases hq : q.callbacks with
  | client =>
      rw [hq] at h
      obtain ⟨t, ht⟩ := TaskCallbacks.live_client h.live
      have hfresh : t.cancellable = none := by simpa [TaskCallbacks.Fresh, ht] using h
      have ht' : (w.emit (.cancelled a)).tasks a = some (.client t) := ht
      simp only [prvTaskCancelAndFreeCb, taskCancelCb, hq, rsuTaskCancel_fresh ht' hfresh,
        answerTask_eq ht']
      simp [taskDeleteCb, rsuTaskDelete, World.withClient, World.emit, World.setTask,
        World.freeTasks, World.cancelEvents]
      funext b
      by_cases hb : b = a <;> simp [hb]
  | service =>
      rw [hq] at h
      obtain ⟨t, ht⟩ := TaskCallbacks.live_service h.live
      have hfresh : t.pAction = none := by simpa [TaskCallbacks.Fresh, ht] using h
      simp [prvTaskCancelAndFreeCb, taskCancelCb, rsuServiceTaskCancelCb, taskDeleteCb,
        rsuServiceTaskDeleteCb, World.withService, World.emit, World.setTask, World.freeTasks,
        World.cancelEvents, pendingReply, hq, ht, hfresh]

/-! ## The tasks of a queue -/

/-- A loop that frees its tasks one by one, each with the events `g` that its
own record determines. -/
theorem foldl_freeTasks {f : World → TaskAtom → World} {ok : Option Task → Prop}
    {g : Option Task → TaskAtom → List Event}
    (hf : ∀ w a, ok (w.tasks a) → f w a = w.freeTasks [a] (g (w.tasks a) a))
    (l : List TaskAtom) :
    ∀ w : World, l.Nodup → (∀ a ∈ l, ok (w.tasks a)) →
      l.foldl f w = w.freeTasks l (l.flatMap fun a => g (w.tasks a) a) := by
  induction l with
  | nil =>
      intro w _ _
      simp [World.freeTasks]
  | cons a l ih =>
      intro w hnodup hok
      obtain ⟨hmem, hnodup'⟩ := List.nodup_cons.mp hnodup
      have hkeep : ∀ b ∈ l, (w.freeTasks [a] (g (w.tasks a) a)).tasks b = w.tasks b := by
        intro b hb
        have hne : b ≠ a := fun h => hmem (h ▸ hb)
        simp [World.freeTasks, hne]
      have hok' : ∀ b ∈ l, ok ((w.freeTasks [a] (g (w.tasks a) a)).tasks b) := by
        intro b hb
        rw [hkeep b hb]
        exact hok b (List.mem_cons_of_mem a hb)
      have hevents : (l.flatMap fun b =>
          g ((w.freeTasks [a] (g (w.tasks a) a)).tasks b) b) =
          l.flatMap fun b => g (w.tasks b) b :=
        List.flatMap_congr fun b hb => by rw [hkeep b hb]
      rw [List.foldl_cons, hf w a (hok a List.mem_cons_self), ih _ hnodup' hok', hevents]
      simp only [World.freeTasks, List.flatMap_cons, List.append_assoc, World.mk.injEq, true_and,
        and_true]
      funext b
      by_cases hb : b ∈ l <;> simp [hb]

theorem foldl_prvTaskFreeCb {q : TaskQueue} {w : World} (hnodup : q.tasks.Nodup)
    (hlive : ∀ a ∈ q.tasks, q.callbacks.Live (w.tasks a)) :
    q.tasks.foldl (fun w a => prvTaskFreeCb taskDeleteCb q a w) w =
      w.freeTasks q.tasks (q.tasks.flatMap w.deleteEvents) :=
  foldl_freeTasks (g := fun r a => .deleted a :: pendingReply r diedReply)
    (fun _ _ h => prvTaskFreeCb_eq h) q.tasks w hnodup hlive

theorem foldl_prvTaskCancelAndFreeCb {q : TaskQueue} {w : World} (hnodup : q.tasks.Nodup)
    (hfresh : ∀ a ∈ q.tasks, q.callbacks.Fresh (w.tasks a)) :
    q.tasks.foldl (fun w a => prvTaskCancelAndFreeCb taskDeleteCb taskCancelCb q a w) w =
      w.freeTasks q.tasks (q.tasks.flatMap w.cancelEvents) :=
  foldl_freeTasks
    (g := fun r a =>
      .cancelled a :: (pendingReply r (.error operationCancelled) ++ [.deleted a]))
    (fun _ _ h => prvTaskCancelAndFreeCb_eq h) q.tasks w hnodup hfresh

end RendererService
