import RendererService.Service.Invocations
import RendererService.Service.Tasks

/-!
# The invariant of the service

What holds of the whole process between two callbacks of the main loop.  Each
step of the processor keeps it, and so does whatever happens outside of the
processor as long as it keeps `OuterOk`.
-/

namespace RendererService

/-! ## Keys of queues -/

def ServiceSource (cpt : Nat) (source : String) : Prop :=
  ∃ n < cpt, source = "source-" ++ toString n

/-- A unique name on the bus, as opposed to the source of a construction. -/
def BusSource (source : String) : Prop := source.toList.head? = some ':'

def KeyFits (cpt : Nat) (source sink : String) : TaskCallbacks → Prop
  | .client => BusSource source
  | .service => sink = rsuSink ∧ ServiceSource cpt source

structure KeysOk (w : World) : Prop where
  fits : ∀ k q, w.queue? k = some q → KeyFits w.serviceCpt k.source k.sink q.callbacks
  watchers : ∀ name ∈ w.context.watchers, BusSource name

theorem KeyFits.mono {cpt cpt' : Nat} {source sink : String} {cs : TaskCallbacks}
    (h : KeyFits cpt source sink cs) (hle : cpt ≤ cpt') : KeyFits cpt' source sink cs := by
  cases cs with
  | client => exact h
  | service =>
      obtain ⟨hsink, n, hn, hsource⟩ := h
      exact ⟨hsink, n, Nat.lt_of_lt_of_le hn hle, hsource⟩

theorem ServiceSource.not_bus {cpt : Nat} {source : String} (h : ServiceSource cpt source) :
    ¬BusSource source := by
  obtain ⟨n, -, rfl⟩ := h
  simp [BusSource]

/-! ## Requests -/

/-- The request of a client task is as the method that made it left it: it is
queued for the device that it names, unless it is carried out at once. -/
def ClientTask.Suits (t : ClientTask) (k : TaskQueueKey) : Prop :=
  t.synchronous = !t.type.isAsync ∧ (t.type.isAsync = true → t.path = k.sink)

def RequestsOk (w : World) : Prop :=
  ∀ a t, w.tasks a = some (.client t) → t.Suits a.queueId

def Task.Suits (k : TaskQueueKey) : Task → Prop
  | .client t => t.action = none ∧ t.Suits k
  | .service t => t.pAction = none

theorem Task.Suits.action {k : TaskQueueKey} {task : Task} (h : task.Suits k) :
    task.action = none := by
  cases task with
  | client t => exact h.1
  | service t => exact h

/-! ## The invariant -/

/-- What holds outside of the processor. -/
structure OuterOk (handled : Option Nat) (w : World) : Prop where
  devices : DevicesOk w
  actions : ActionsOk w
  completions : CompletionsOk w
  keys : KeysOk w
  invocations : InvocationsOk handled w
  held : w.AllHeld
  requests : RequestsOk w
  liveKeys : ∀ k, w.fault ≠ some (.deadQueueKey k)

structure ServiceOk (handled : Option Nat) (w : World) : Prop where
  processor : ProcessorOk w
  lifetime : LifetimeOk w
  outer : OuterOk handled w

def Permitted (handled : Option Nat) (w : World) : Act → Prop
  | .complete a => w.Quiet a
  | .addQueue source sink callbacks => KeyFits w.serviceCpt source sink callbacks
  | .addTask k _ task =>
      task.Suits k ∧ ∀ n ∈ owed (some task), w.Unused n ∧ handled ≠ some n
  | _ => True

section Steps

variable {w w' : World} {handled : Option Nat} {act : Act}

theorem Footprint.devicesOk (hf : Footprint act w w') (h : DevicesOk w) : DevicesOk w' :=
  h.congr (by rw [hf.gupnp]) (by rw [hf.gupnp]) fun d => by unfold World.core; rw [hf.devices]

theorem Step.keysOk {E : World → World → Prop} (hok : ProcessorOk w) (hstep : Step E w act w')
    (hact : act ≠ .elsewhere) (h : KeysOk w) (hpermitted : Permitted handled w act) :
    KeysOk w' := by
  have hf := hstep.footprint hok hact
  refine ⟨fun k q hq => ?_, ?_⟩
  · rw [hf.serviceCpt]
    rcases hstep.origin hok hact k q hq with ⟨q₀, hq₀, hcs, -⟩ | ⟨rfl, -, -, -⟩
    · rw [hcs]
      exact h.fits k q₀ hq₀
    · exact hpermitted
  · rw [hf.context]
    exact h.watchers

theorem ProcessorOk.newAtom_record (hok : ProcessorOk w) (hheld : w.AllHeld) (k : TaskQueueKey) :
    w.tasks (w.newAtom k) = none := by
  by_contra hne
  obtain ⟨r, hr⟩ := Option.ne_none_iff_exists'.mp hne
  exact Nat.lt_irrefl _ (hok.holds_bound (hheld _ r hr))

theorem Step.invocationsOk {E : World → World → Prop} (hok : ProcessorOk w)
    (hheld : w.AllHeld) (hstep : Step E w act w') (hact : act ≠ .elsewhere)
    (h : InvocationsOk handled w) (hpermitted : Permitted handled w act) :
    InvocationsOk handled w' := by
  by_cases hadd : ∃ k deferRemove task, act = .addTask k deferRemove task
  · obtain ⟨_, _, _, rfl⟩ := hadd
    cases hstep with
    | addTask _ _ => exact h.push (hok.newAtom_record hheld _) hpermitted.2
  · obtain ⟨gone, hgone⟩ := hstep.discards hok (fun k d task he => hadd ⟨k, d, task, he⟩) hact
    exact h.discards hgone

/-- A step of the processor brings no record but one that suits its queue. -/
theorem Step.newRecord {E : World → World → Prop} (hok : ProcessorOk w) (hstep : Step E w act w')
    (hact : act ≠ .elsewhere) (hpermitted : Permitted handled w act) (a : TaskAtom) (r : Task)
    (hr : w'.tasks a = some r) : w.tasks a = some r ∨ r.Suits a.queueId := by
  by_cases hadd : ∃ k deferRemove task, act = .addTask k deferRemove task
  · obtain ⟨k, _, task, rfl⟩ := hadd
    cases hstep with
    | addTask _ _ =>
        have hrecord : (w.pushTask k task).tasks a =
            if a = w.newAtom k then some task else w.tasks a := rfl
        rw [hrecord] at hr
        split at hr
        next ha =>
          obtain rfl := Option.some.inj hr
          subst ha
          exact .inr hpermitted.1
        · exact .inl hr
  · obtain ⟨gone, hgone⟩ := hstep.discards hok (fun k d task he => hadd ⟨k, d, task, he⟩) hact
    rw [hgone.tasks] at hr
    split at hr
    · simp at hr
    · exact .inl hr

theorem Step.names {E : World → World → Prop} (hok : ProcessorOk w) (hstep : Step E w act w')
    (hact : act ≠ .elsewhere) (hpermitted : Permitted handled w act) (a : TaskAtom) (id : Nat)
    (hid : w'.Names a id) : w.Names a id := by
  obtain ⟨r, hr, hname⟩ := hid
  rcases hstep.newRecord hok hact hpermitted a r hr with hold | hsuits
  · exact ⟨r, hold, hname⟩
  · rw [hsuits.action] at hname
    simp at hname

theorem Step.requestsOk {E : World → World → Prop} (hok : ProcessorOk w) (hstep : Step E w act w')
    (hact : act ≠ .elsewhere) (h : RequestsOk w) (hpermitted : Permitted handled w act) :
    RequestsOk w' := by
  intro a t ht
  rcases hstep.newRecord hok hact hpermitted a _ ht with hold | hsuits
  · exact h a t hold
  · exact hsuits.2

theorem RequestsOk.congr (h : RequestsOk w) (htasks : w'.tasks = w.tasks) : RequestsOk w' :=
  fun a t ht => h a t (htasks ▸ ht)

theorem RequestsOk.touches {a : TaskAtom} (h : RequestsOk w) (ht : Touches a w w') :
    RequestsOk w' := by
  intro b t hb
  by_cases hba : b = a
  · subst hba
    have hrequest := ht.request
    rw [hb] at hrequest
    rcases hr : w.tasks b with _ | t₀ | t₀
    · rw [hr] at hrequest
      exact hrequest.elim
    · rw [hr] at hrequest
      obtain ⟨htype, hpath, hsync⟩ := hrequest
      obtain ⟨hflag, hsink⟩ := h b t₀ hr
      refine ⟨by rw [htype, hsync, hflag], fun hasync => ?_⟩
      rw [htype] at hasync
      rw [hpath]
      exact hsink hasync
    · rw [hr] at hrequest
      exact hrequest.elim
  · rw [ht.others b hba] at hb
    exact h b t hb

theorem Step.outerOk {E : World → World → Prop} (hok : ProcessorOk w)
    (hstep : Step E w act w') (hact : act ≠ .elsewhere) (h : OuterOk handled w)
    (hpermitted : Permitted handled w act) : OuterOk handled w' := by
  have hf := hstep.footprint hok hact
  have hquiet : ∀ a, act = .complete a → w.Quiet a := by
    rintro a rfl
    exact hpermitted
  exact ⟨hf.devicesOk h.devices,
    hf.actionsOk h.actions hquiet (hstep.names hok hact hpermitted),
    hf.completionsOk h.completions hquiet, hstep.keysOk hok hact h.keys hpermitted,
    hstep.invocationsOk hok h.held hact h.invocations hpermitted,
    hstep.allHeld hok h.held hact, hstep.requestsOk hok hact h.requests hpermitted,
    fun k => by rw [hf.fault]; exact h.liveKeys k⟩

theorem ServiceOk.elsewhere {handled' : Option Nat} (h : ServiceOk handled w)
    (he : Elsewhere w w') (ho : OuterOk handled' w') : ServiceOk handled' w' := by
  have hstep : Step Elsewhere w .elsewhere w' := .elsewhere he
  exact ⟨hstep.ok (fun _ _ _ he => he) h.processor, hstep.lifetime h.processor h.lifetime, ho⟩

theorem ServiceOk.step (h : ServiceOk handled w) (hstep : Step Elsewhere w act w')
    (hact : act ≠ .elsewhere) (hpermitted : Permitted handled w act) : ServiceOk handled w' :=
  ⟨hstep.ok (fun _ _ _ he => he) h.processor, hstep.lifetime h.processor h.lifetime,
    hstep.outerOk h.processor hact h.outer hpermitted⟩

theorem Step.serviceOk {E : World → World → Prop}
    (hE : ∀ w w', E w w' → Elsewhere w w' ∧ OuterOk handled w') (h : ServiceOk handled w)
    (hpermitted : Permitted handled w act) (hstep : Step E w act w') : ServiceOk handled w' := by
  by_cases hact : act = .elsewhere
  · subst hact
    cases hstep with
    | elsewhere he => exact h.elsewhere (hE _ _ he).1 (hE _ _ he).2
  · exact h.step (hstep.mono fun _ _ he => (hE _ _ he).1) hact hpermitted

end Steps

/-- The steps of the service about the queues of `mine`, while it handles an
invocation or none. -/
def serviceSteps (mine : TaskQueueKey → Prop) (handled : Option Nat) : Discipline where
  E w w' := (Elsewhere w w' ∧ OuterOk handled w') ∧ ∃ a : TaskAtom, mine a.queueId ∧ Focus a w w'
  Allowed w act := Permitted handled w act ∧ act.Within mine
  Inv := ServiceOk handled
  Mine := mine
  processor h := h.processor
  preserved h hallowed hstep := hstep.serviceOk (fun _ _ he => he.1) h hallowed.1
  defer _ _ hk := ⟨trivial, hk⟩
  clear _ _ hk := ⟨trivial, hk⟩
  cancelling _ _ hk := ⟨trivial, hk⟩
  remove _ _ hk := ⟨trivial, hk⟩

end RendererService
