import RendererService.Processor.Operations
import RendererService.Lib.Log

/-!
# What the steps log

The events that each step of the processor appends to the log.
-/

namespace RendererService

variable {w : World} {k : TaskQueueKey} {q : TaskQueue} {a : TaskAtom} {e : Event}

theorem mem_pendingReply {r : Option Task} {reply : Reply} (h : e ∈ pendingReply r reply) :
    ∃ invocation, e = .answered invocation reply := by
  unfold pendingReply at h
  split at h
  · obtain ⟨invocation, -, rfl⟩ := List.mem_map.mp h
    exact ⟨invocation, rfl⟩
  · simp at h

theorem mem_deleteEvents (h : e ∈ w.deleteEvents a) :
    e = .deleted a ∨ ∃ invocation reply, e = .answered invocation reply := by
  rcases List.mem_cons.mp h with h | h
  · exact .inl h
  · obtain ⟨invocation, he⟩ := mem_pendingReply h
    exact .inr ⟨invocation, _, he⟩

theorem mem_cancelEvents (h : e ∈ w.cancelEvents a) :
    e = .cancelled a ∨ e = .deleted a ∨ ∃ invocation reply, e = .answered invocation reply := by
  rcases List.mem_cons.mp h with h | h
  · exact .inl h
  · rcases List.mem_append.mp h with h | h
    · obtain ⟨invocation, he⟩ := mem_pendingReply h
      exact .inr (.inr ⟨invocation, _, he⟩)
    · exact .inr (.inl (List.mem_singleton.mp h))

theorem clearQueue_log (w : World) (k : TaskQueueKey) (q : TaskQueue) :
    (w.clearQueue k q).log = w.log ++ q.tasks.flatMap w.cancelEvents := rfl

theorem dropQueue_log (w : World) (k : TaskQueueKey) (q : TaskQueue) :
    (w.dropQueue k q).log = w.log ++ q.tasks.flatMap w.deleteEvents := by
  unfold World.dropQueue
  cases q.finallyCb <;> rfl

def World.quitEvents (w : World) (k : TaskQueueKey) (a : TaskAtom) : List Event :=
  if (w.finishTask k a).processor.quitting ∧ (w.finishTask k a).processor.runningTasks = 0 then
    [.quitScheduled]
  else []

theorem completeTask_log (w : World) (k : TaskQueueKey) (a : TaskAtom) :
    (w.completeTask k a).log =
      w.log ++ (.completed k :: (w.deleteEvents a ++ w.quitEvents k a)) := by
  have hfinish : (w.finishTask k a).log = w.log ++ (.completed k :: w.deleteEvents a) :=
    (List.append_assoc w.log [Event.completed k] (w.deleteEvents a))
  unfold World.completeTask World.quitEvents
  dsimp only
  split
  · show (w.finishTask k a).log ++ [.quitScheduled] = _
    rw [hfinish, List.append_assoc, List.cons_append]
  · rw [hfinish, List.append_nil]

theorem mem_quitEvents (h : e ∈ w.quitEvents k a) : e = .quitScheduled := by
  unfold World.quitEvents at h
  split at h
  · exact List.mem_singleton.mp h
  · simp at h

end RendererService
