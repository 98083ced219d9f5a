import RendererService.Service.Servers
import RendererService.Service.Calm

/-!
# Stored keys of queues

The key of a queue is freed together with its queue.  Timers, tasks and idles go
before their queue does; the data of a construction, in which the key is stored,
stays until `prv_device_chain_end` has run.
-/

namespace RendererService

open Transition

variable {w : World} {neverQuit : Bool} {is : List Input} {i : Input}

/-- The queue of the construction has gone, and the idle that ends it is pending. -/
def World.Ending (w : World) (ct : DeviceNewCt) : Prop :=
  ∃ q ∈ w.loop.finallyIdles, q.userData = some ct

/-- The only context of a device under construction is lost while its
construction is ending. -/
def World.LosesEnding (w : World) : Input → Prop
  | .unavailable udn ipAddress => ∃ d ct dev context, w.upnp.find udn = some (d, some ct) ∧
      w.devices d = some dev ∧ dev.contexts = [context] ∧ context.ipAddress = ipAddress ∧
      w.Ending ct
  | _ => False

/-- The key in the data of a construction is live until the construction is ending. -/
theorem ConstructionsOk.live_iff (h : ConstructionsOk w) {udn : String} {ct : DeviceNewCt}
    (hct : w.upnp.serverUcMap.lookup udn = some ct) :
    (∃ q, w.queue? ct.queueId = some q) ↔ ¬w.Ending ct := by
  constructor
  · rintro ⟨q, hq⟩ ⟨q', hq', hdata⟩
    obtain ⟨ct', hdata', -, hnone, -⟩ := h.idles q' hq'
    obtain rfl : ct = ct' := Option.some.inj (hdata.symm.trans hdata')
    cases hq.symm.trans hnone
  · intro hnot
    rcases h.pending udn ct hct with ⟨q, hq, -⟩ | hending
    · exact ⟨q, hq⟩
    · exact absurd hending hnot

/-- A search that finds the only element of a list, and removes it. -/
theorem singleton_of_eraseP {α : Type} {p : α → Bool} {l : List α} {a : α}
    (hfind : l.find? p = some a) (herase : l.eraseP p = []) : l = [a] := by
  obtain ⟨before, after, rfl, hrest⟩ := eraseP_of_find? hfind
  obtain ⟨rfl, rfl⟩ := List.append_eq_nil_iff.mp (hrest.symm.trans herase)
  rfl

theorem lostTooLate_iff (hok : ConstructionsOk w) {udn ipAddress : String} :
    LostTooLate w udn ipAddress ↔ w.LosesEnding (.unavailable udn ipAddress) := by
  have hlive : ∀ d ct, w.upnp.find udn = some (d, some ct) →
      (w.queue? ct.queueId = none ↔ w.Ending ct) := by
    intro d ct hfind
    rcases find_some hfind with ⟨-, hnone⟩ | ⟨ct', hct, -, hsome⟩
    · cases hnone
    · obtain rfl := Option.some.inj hsome
      rw [← not_iff_not, ← hok.live_iff hct]
      exact Option.ne_none_iff_exists'
  constructor
  · rintro ⟨d, ct, dev, context, hfind, hdev, hcontext, hlast, hgone⟩
    have hone := singleton_of_eraseP hcontext hlast
    have hip : context.ipAddress = ipAddress := by simpa using List.find?_some hcontext
    exact ⟨d, ct, dev, context, hfind, hdev, hone, hip, (hlive d ct hfind).mp hgone⟩
  · rintro ⟨d, ct, dev, context, hfind, hdev, hone, hip, hending⟩
    refine ⟨d, ct, dev, context, hfind, hdev, ?_, ?_, (hlive d ct hfind).mpr hending⟩
    · simp [hone, hip]
    · simp [hone, hip]

theorem contextFree_liveKeys (h : ServiceOk none w) (k : TaskQueueKey) :
    (exec w .contextFree).fault ≠ some (.deadQueueKey k) := by
  obtain ⟨loop, heq⟩ := exec_contextFree_eq h
  rw [heq]
  exact (deleteUpnp_serviceOk h).outer.liveKeys k

/-- In every reachable state, whatever comes next finds the queue of each key that it
follows, unless a renderer is lost while its construction is ending; and the key in
the data of a construction is live exactly until then. -/
theorem service_keysLive (h : (service neverQuit).Reaches is w) (henabled : i.enabled w = true) :
    ((∀ k, (exec w i).fault ≠ some (.deadQueueKey k)) ↔ ¬w.LosesEnding i) ∧
      ∀ udn ct, w.upnp.serverUcMap.lookup udn = some ct →
        ((∃ q, w.queue? ct.queueId = some q) ↔ ¬w.Ending ct) := by
  have hfreed := enabled_freed henabled
  have hok := service_ok h hfreed
  have hregistry := service_registryOk h hfreed
  refine ⟨?_, fun udn ct hct => hregistry.constructions.live_iff hct⟩
  constructor
  · intro hlive hloses
    cases i with
    | unavailable udn ipAddress =>
        have hlate := (lostTooLate_iff hregistry.constructions).mpr hloses
        obtain ⟨k, hk⟩ := exec_late hlate (service_fault h)
        exact hlive k hk
    | _ => exact hloses
  · intro hkeeps
    by_cases hfree : i = .contextFree
    · subst hfree
      exact contextFree_liveKeys hok
    · refine (exec_serviceOk hok henabled hfree ?_).outer.liveKeys
      rintro udn ipAddress rfl hlate
      exact hkeeps ((lostTooLate_iff hregistry.constructions).mp hlate)

/-- A renderer has been constructed, up to the idle that declares it. -/
def oneConstructed : List Choice :=
  [.input oneAvailable, .processIdle, .reply, .processIdle, .processIdle]

theorem service_keysLive_constructed :
    ∃ is w, (service true).Reaches is w ∧ w.loop.finallyIdles.length = 1 ∧
      (∀ k, (exec w .signal).fault ≠ some (.deadQueueKey k)) := by
  obtain ⟨is, w, hreach, henabled, hlength⟩ := service_reaches_of_schedule true oneConstructed
    (p := fun w => Input.signal.enabled w = true ∧ w.loop.finallyIdles.length = 1)
    (by decide +kernel)
  exact ⟨is, w, hreach, hlength, (service_keysLive hreach henabled).1.mpr id⟩

/-- The renderer goes away before the idle has run. -/
theorem service_keysLive_lateLoss : ¬∀ neverQuit is w i, (service neverQuit).Reaches is w →
    i.enabled w = true → ∀ k, (exec w i).fault ≠ some (.deadQueueKey k) := by
  intro hall
  let i : Input := .unavailable "uuid:r" "192.168.1.2"
  let k : TaskQueueKey := ⟨0, "source-1", rsuSink⟩
  obtain ⟨is, w, hreach, henabled, hfault⟩ := service_reaches_of_schedule true oneConstructed
    (p := fun w => i.enabled w = true ∧ (exec w i).fault = some (.deadQueueKey k))
    (by decide +kernel)
  exact hall true is w i hreach henabled k hfault

end RendererService
