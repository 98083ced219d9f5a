import RendererService.Processor.Cancellation
import RendererService.Service.Refinement

/-!
# Cancellation hits its target

The three ways in which requests are cancelled, from any state that the service
reaches: which queues they select, and that they change those queues and no
others, unless the last client goes and the service quits.
-/

namespace RendererService

open Transition

/-! ## Operations -/

/-- Cancel of a client on a device, the loss or Release of a client, and the
loss of a declared device. -/
inductive Cancellation
  | cancel (client : BusName) (path : String)
  | lostClient (client : BusName)
  | lostDevice (udn : String) (d : Nat)

namespace Cancellation

def perform (w : World) : Cancellation → World
  | cancel client path =>
      match rsuTaskProcessorLookupQueue w client.name path with
      | some k => rsuTaskProcessorCancelQueue taskDeleteCb taskCancelCb k w
      | none => w
  | lostClient client => prvRemoveClient client.name w
  | lostDevice udn d => prvServerLost udn d (rsuServerPath ++ "/" ++ toString d) none w

def Selects : Cancellation → TaskQueueKey → Prop
  | cancel client path, k => k.source = client.name ∧ k.sink = path
  | lostClient client, k => k.source = client.name
  | lostDevice _ d, k => k.sink = rsuServerPath ++ "/" ++ toString d

/-- The selected queues are removed, at the latest when their task ends. -/
def removes : Cancellation → Bool
  | cancel _ _ => false
  | lostClient _ | lostDevice _ _ => true

/-- A selected queue that is cancelled: a removal leaves alone the queues that
are marked `defer_remove` already. -/
structure Targets (c : Cancellation) (w : World) (k : TaskQueueKey) (q : TaskQueue) : Prop where
  queue : w.queue? k = some q
  selected : c.Selects k
  unmarked : c.removes = true → q.deferRemove = false

end Cancellation

section Proof

variable {w w' : World} {handled : Option Nat} {c : Cancellation} {k : TaskQueueKey}
  {q : TaskQueue}

structure CancelOk (w : World) : Prop where
  processor : ProcessorOk w
  lifetime : LifetimeOk w
  usual : UsualOk w
  keys : KeysOk w

namespace CancelOk

theorem requests (h : CancelOk w) (hq : w.queue? k = some q) (hcs : q.callbacks = .client)
    {a : TaskAtom} (ha : a ∈ q.tasks) : ∃ n, n ∈ owed (w.tasks a) := by
  have hfresh := (h.processor.queues k q hq).fresh a ha
  rw [hcs] at hfresh
  obtain ⟨t, ht⟩ := TaskCallbacks.live_client hfresh.live
  obtain ⟨n, hn⟩ := Option.isSome_iff_exists.mp (h.usual.owing k q a t hq ha ht)
  exact ⟨n, by simp [ht, owed, hn]⟩

end CancelOk

/-! ### Cancel -/

theorem Cancellation.Targets.unique {client : BusName} {path : String} {k' : TaskQueueKey}
    {q' : TaskQueue} (hok : ProcessorOk w) (h : (Cancellation.cancel client path).Targets w k q)
    (h' : (Cancellation.cancel client path).Targets w k' q') : k' = k ∧ q' = q := by
  obtain rfl : k' = k := hok.unique k' k q' q h'.queue h.queue
    (h'.selected.1.trans h.selected.1.symm) (h'.selected.2.trans h.selected.2.symm)
  exact ⟨rfl, Option.some.inj (h'.queue.symm.trans h.queue)⟩

/-! ### Removal -/

def Cancellation.hit : Cancellation → TaskQueueKey → Bool
  | cancel _ _, _ => false
  | lostClient client, k => k.source = client.name
  | lostDevice _ d, k => k.sink = rsuServerPath ++ "/" ++ toString d

theorem freeVisit_run (hit : TaskQueueKey → Bool) {mine : TaskQueueKey → Prop} (w : World)
    (k : TaskQueueKey) (hk : mine k) (hok : ProcessorOk w) :
    (localSteps mine).Run w (prvFreeQueueFor taskDeleteCb taskCancelCb hit k w) :=
  prvFreeQueueFor_run localSteps_local.cancels hit hok fun _ => hk

theorem freeVisit_idle {hit : TaskQueueKey → Bool}
    (hskip : ∀ q, w.queue? k = some q → ¬(hit k = true ∧ q.deferRemove = false)) :
    prvFreeQueueFor taskDeleteCb taskCancelCb hit k w = w := by
  unfold prvFreeQueueFor
  cases hq : w.queue? k with
  | none => rfl
  | some q =>
      have hnot := hskip q hq
      dsimp only
      rw [if_neg]
      simpa using hnot

end Proof

/-! ## Reachable states -/

def requestKey : TaskQueueKey := ⟨1, ":1.7", onePath⟩

end RendererService
