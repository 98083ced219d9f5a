import RendererService.Processor.Operations

/-!
# Accounting

The counter of running tasks, the pending idles and the fields of the queues
agree in every state that the task processor can reach.
-/

namespace RendererService

/-- `running_tasks` counts the queues with a current task, and an idle that is
pending belongs to a queue of the table which can be started. -/
structure Accounting (w : World) : Prop where
  running : w.processor.runningTasks = w.runningQueues
  oneIdle : ∀ k, (w.loop.processIdles.filter fun s => s.2 = k).length ≤ 1
  pending : ∀ id k, (id, k) ∈ w.loop.processIdles →
    ∃ q, w.queue? k = some q ∧ q.idleId = id ∧ id ≠ 0
  idle : ∀ k q, w.queue? k = some q → q.idleId ≠ 0 →
    (q.idleId, k) ∈ w.loop.processIdles ∧ q.currentTask = none ∧ ∃ a rest, q.tasks = a :: rest

/-- Two sources of one queue would have the id of that queue both. -/
theorem ProcessorOk.oneIdle {w : World} (h : ProcessorOk w) (k : TaskQueueKey) :
    (w.loop.processIdles.filter fun s => s.2 = k).length ≤ 1 := by
  have hsame : ∀ s ∈ w.loop.processIdles.filter fun s => decide (s.2 = k),
      ∀ q, w.queue? k = some q → s.1 = q.idleId := by
    rintro ⟨id, k'⟩ hs q hq
    obtain ⟨hmem, hk⟩ := List.mem_filter.mp hs
    obtain rfl : k' = k := by simpa using hk
    exact (h.idle_eq hq hmem).symm
  have hnodup : ((w.loop.processIdles.filter fun s => decide (s.2 = k)).map Prod.fst).Nodup :=
    h.idlesNodup.sublist (List.filter_sublist.map _)
  revert hsame hnodup
  cases hl : w.loop.processIdles.filter fun s => decide (s.2 = k) with
  | nil => simp
  | cons s l =>
      cases l with
      | nil => simp
      | cons s' l =>
          intro hsame hnodup
          have hmem : s ∈ w.loop.processIdles.filter fun s => decide (s.2 = k) := by
            rw [hl]
            exact List.mem_cons_self
          have hs : s ∈ w.loop.processIdles ∧ s.2 = k := by simpa using hmem
          obtain ⟨q, hq, -⟩ := h.idles s hs.1
          rw [hs.2] at hq
          have heq : s.1 = s'.1 :=
            (hsame s (by simp) q hq).trans (hsame s' (by simp) q hq).symm
          simp [heq] at hnodup

theorem ProcessorOk.accounting {w : World} (h : ProcessorOk w) : Accounting w where
  running := h.running
  oneIdle := h.oneIdle
  pending id k hmem := by
    obtain ⟨q, hq, hid⟩ := h.idles _ hmem
    exact ⟨q, hq, hid, Nat.ne_of_gt (h.positive _ hmem).1⟩
  idle k q hq hne := by
    obtain ⟨hcurrent, htasks, hmem⟩ := (h.queues k q hq).idle hne
    exact ⟨hmem, hcurrent, List.exists_cons_of_ne_nil htasks⟩

/-- The accounting holds at every step boundary of every run of the processor. -/
theorem processor_accounting {ops : List Op} {w : World} (h : processor.Reaches ops w) :
    Accounting w :=
  (processor_ok h).accounting

/-- A client queue, two tasks that complete inside `task_process_cb`, and the
first idle. -/
def twoTasksOps : List Op :=
  let k : TaskQueueKey := ⟨0, ":1", "/s"⟩
  [.addQueue ":1" "/s" { autoStart := true } .client,
    .addTask k (.client (rsuTaskGetVersionNew 0)),
    .addTask k (.client (rsuTaskGetVersionNew 1)),
    .processIdle 1 k {}]

theorem newProcessor_default : World.NewProcessor {} :=
  ⟨rfl, rfl, rfl, rfl, Nat.one_pos, rfl⟩

theorem twoTasks_legal : Op.AllLegal (fun _ _ => True) {} twoTasksOps :=
  ⟨⟨trivial, by dsimp only [Op.Legal]; decide⟩, ⟨trivial, _, rfl, rfl⟩,
    ⟨trivial, _, rfl, rfl⟩, ⟨trivial, by dsimp only [Op.Legal]; decide⟩, trivial⟩

theorem twoTasks_reaches : processor.Reaches twoTasksOps (twoTasksOps.foldl Op.perform {}) :=
  (processor_reaches_foldl twoTasksOps (.init newProcessor_default) twoTasks_legal).of_restrict

theorem processor_accounting_twoTasks : Accounting (twoTasksOps.foldl Op.perform {}) :=
  processor_accounting twoTasks_reaches

end RendererService
