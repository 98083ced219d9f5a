import RendererService.Model.Service

/-!
# Schedules

Runs of the process given by what happens next: an input from outside, or the
source of some kind that has been pending longest.
-/

namespace RendererService

/-- What happens next, in terms of the state. -/
abbrev Choice := World → Option Input

namespace Choice

def input (i : Input) : Choice := fun _ => some i

def processIdle (env : Environment := {}) : Choice := fun w =>
  w.loop.processIdles.head?.map fun s => .processIdle s.1 s.2 env

def reply (env : Environment := {}) : Choice := fun w =>
  w.gupnp.actions.head?.map fun action => .reply action env

def finallyIdle : Choice := fun w => w.loop.finallyIdles.head?.map .finallyIdle

def completeIdle : Choice := fun w => w.loop.completeIdles.head?.map .completeIdle

end Choice

/-- A schedule of the process that ends in a state with `p` is a run to it. -/
theorem service_reaches_of_schedule (neverQuit : Bool) (cs : List Choice) {p : World → Prop}
    [DecidablePred p]
    (h : ((Transition.runSchedule stepFn cs (start neverQuit)).any fun w => decide (p w)) = true) :
    ∃ is w, (service neverQuit).Reaches is w ∧ p w :=
  Transition.reaches_of_schedule cs h

/-- The same for the runs whose steps all meet a condition. -/
theorem service_reaches_of_guarded (neverQuit : Bool) {C : World → Input → Prop}
    [∀ w i, Decidable (C w i)] (cs : List Choice) {p : World → Prop} [DecidablePred p]
    (h : ((Transition.runSchedule (Transition.guarded C stepFn) cs (start neverQuit)).any
      fun w => decide (p w)) = true) :
    ∃ is w, ((service neverQuit).restrict C).Reaches is w ∧ p w := by
  obtain ⟨is, w, hreaches, hp⟩ := Transition.reaches_of_schedule cs h
  exact ⟨is, w, Transition.reaches_guarded hreaches, hp⟩

/-- A renderer at one address, with all three services. -/
def oneAvailable : Input := .available "uuid:r" "192.168.1.2" ⟨true, true, true⟩

/-- The construction of the renderer, from its discovery to its declaration. -/
def oneRenderer : List Choice :=
  [.input oneAvailable, .processIdle, .reply, .processIdle, .processIdle, .finallyIdle]

def oneClient : BusName := ⟨":1.7", by decide⟩

/-- The path of the first renderer that is constructed. -/
def onePath : String := rsuServerPath ++ "/0"

end RendererService
