import RendererService.Service.Inputs

/-!
# The renderers

A renderer is known under its UDN, or under construction, and not both.  The
queue of a construction carries its data up to the idle that ends it, so every
device that a map, a queue or a task names is there.
-/

namespace RendererService

open Transition

variable {w w' w'' : World} {handled : Option Nat} {mine : TaskQueueKey → Prop}

/-! ## The two maps -/

def World.path (w : World) (d : Nat) : Option String := (w.devices d).map Device.path

def World.Alive (w : World) (d : Nat) : Prop := (w.path d).isSome = true

theorem path_of_core (h : w'.core = w.core) : w'.path = w.path := by
  have hpath : ∀ w : World, w.path = fun d => (w.core d).map DeviceCore.path := fun w => by
    funext d
    rw [World.core, Option.map_map]
    rfl
  rw [hpath, hpath, h]

/-- What holds of the two maps: they share no UDN and no device. -/
structure MapsOk (w : World) : Prop where
  bound : ∀ d, w.Alive d → d < w.upnp.counter
  udn : ∀ udn d, w.upnp.serverUdnMap.lookup udn = some d → w.Alive d
  udnSingle : ∀ udn udn' d, w.upnp.serverUdnMap.lookup udn = some d →
    w.upnp.serverUdnMap.lookup udn' = some d → udn = udn'
  uc : ∀ udn ct, w.upnp.serverUcMap.lookup udn = some ct → ct.udn = udn ∧ w.Alive ct.device
  ucSingle : ∀ udn udn' ct ct', w.upnp.serverUcMap.lookup udn = some ct →
    w.upnp.serverUcMap.lookup udn' = some ct' → ct.device = ct'.device → udn = udn'
  apart : ∀ udn udn' d ct, w.upnp.serverUdnMap.lookup udn = some d →
    w.upnp.serverUcMap.lookup udn' = some ct → udn ≠ udn' ∧ d ≠ ct.device

/-- The end of a construction is not over: its queue is there, or the idle that
frees its queue. -/
def World.Pending (w : World) (ct : DeviceNewCt) : Prop :=
  (∃ q, w.queue? ct.queueId = some q ∧ q.finallyCb = true ∧ q.userData = some ct) ∨
    ∃ q ∈ w.loop.finallyIdles, q.userData = some ct

def World.Constructs (w : World) (ct : DeviceNewCt) : Prop :=
  w.upnp.serverUcMap.lookup ct.udn = some ct

/-- What holds of the queues of constructions, and of the idles that free them. -/
structure ConstructionsOk (w : World) : Prop where
  pending : ∀ udn ct, w.upnp.serverUcMap.lookup udn = some ct → w.Pending ct
  clients : ∀ k q, w.queue? k = some q → q.callbacks = .client → q.finallyCb = false
  queues : ∀ k q, w.queue? k = some q → q.callbacks = .service →
    q.finallyCb = true ∧ ∃ ct, q.userData = some ct ∧ ct.queueId = k ∧ w.Constructs ct
  idles : ∀ q ∈ w.loop.finallyIdles, ∃ ct, q.userData = some ct ∧ w.Constructs ct ∧
    w.queue? ct.queueId = none ∧ ct.queueId.id < w.processor.nextKey
  idlesNodup : (w.loop.finallyIdles.map TaskQueue.userData).Nodup
  tasks : ∀ a t, w.tasks a = some (.service t) → ∃ q ct, w.queue? a.queueId = some q ∧
    q.callbacks = .service ∧ q.userData = some ct ∧ t.device = ct.device

/-! ## What is not seen from outside -/

/-- The maps stay, the devices are the same, and nothing is announced. -/
structure Calm (w w' : World) : Prop where
  upnp : w'.upnp.unhosted = w.upnp.unhosted
  path : w'.path = w.path
  log : ∃ es, w'.log = w.log ++ es ∧ ∀ e ∈ es, e.isMute = false

namespace Calm

theorem refl : Calm w w := ⟨rfl, rfl, [], by simp⟩

theorem trans (h : Calm w w') (h' : Calm w' w'') : Calm w w'' where
  upnp := h'.upnp.trans h.upnp
  path := h'.path.trans h.path
  log := by
    obtain ⟨es, hlog, hes⟩ := h.log
    obtain ⟨es', hlog', hes'⟩ := h'.log
    refine ⟨es ++ es', by rw [hlog', hlog, List.append_assoc], fun e he => ?_⟩
    rcases List.mem_append.mp he with he | he
    · exact hes e he
    · exact hes' e he

theorem alive (h : Calm w w') (d : Nat) : w'.Alive d ↔ w.Alive d := by
  unfold World.Alive
  rw [h.path]

theorem serverUdnMap (h : Calm w w') : w'.upnp.serverUdnMap = w.upnp.serverUdnMap := by
  have hfield := congrArg Upnp.serverUdnMap h.upnp
  exact hfield

theorem serverUcMap (h : Calm w w') : w'.upnp.serverUcMap = w.upnp.serverUcMap := by
  have hfield := congrArg Upnp.serverUcMap h.upnp
  exact hfield

theorem counter (h : Calm w w') : w'.upnp.counter = w.upnp.counter := by
  have hfield := congrArg Upnp.counter h.upnp
  exact hfield

theorem of_beside (h : Beside w w') : Calm w w' := by
  refine ⟨h.upnp, path_of_core (funext h.core), ?_⟩
  obtain ⟨es, hlog, hes⟩ := h.log
  refine ⟨es, hlog, fun e he => ?_⟩
  have hreport := hes e he
  cases e <;> simp_all [Event.isReport, Event.isMute]

theorem of_footprint {act : Act} (h : Footprint act w w') : Calm w w' := by
  refine ⟨by rw [h.upnp], by unfold World.path; rw [h.devices], ?_⟩
  obtain ⟨es, hlog, hes⟩ := h.log
  refine ⟨es, hlog, fun e he => ?_⟩
  rcases hes e he with hprocessor | ⟨invocation, reply, rfl⟩
  · cases e <;> simp_all [Event.isProcessor, Event.isMute]
  · rfl

theorem constructs (h : Calm w w') (ct : DeviceNewCt) : w'.Constructs ct ↔ w.Constructs ct := by
  unfold World.Constructs
  rw [h.serverUcMap]

end Calm

theorem MapsOk.calm (h : MapsOk w) (hc : Calm w w') : MapsOk w' := by
  obtain ⟨bound, udn, udnSingle, uc, ucSingle, apart⟩ := h
  refine ⟨?_, ?_, ?_, ?_, ?_, ?_⟩
  · intro d hd
    rw [hc.counter]
    exact bound d ((hc.alive d).mp hd)
  · intro u d hd
    rw [hc.serverUdnMap] at hd
    exact (hc.alive d).mpr (udn u d hd)
  · rw [hc.serverUdnMap]
    exact udnSingle
  · intro u ct hct
    rw [hc.serverUcMap] at hct
    exact ⟨(uc u ct hct).1, (hc.alive _).mpr (uc u ct hct).2⟩
  · rw [hc.serverUcMap]
    exact ucSingle
  · rw [hc.serverUdnMap, hc.serverUcMap]
    exact apart

/-! ## The steps of the processor -/

/-- A queue with a finally callback goes on, or the idle that frees it is added. -/
def Retires (w w' : World) : Prop :=
  (w'.loop.finallyIdles = w.loop.finallyIdles ∧
    ∀ k q, w.queue? k = some q → q.finallyCb = true →
      ∃ q', w'.queue? k = some q' ∧ q'.finallyCb = true ∧ q'.userData = q.userData) ∨
  ∃ k q, w.queue? k = some q ∧ q.finallyCb = true ∧
    w'.loop.finallyIdles = w.loop.finallyIdles ++ [{ q with tasks := [] }] ∧
    ∀ k', w'.queue? k' = if k' = k then none else w.queue? k'

section Steps

variable {act : Act} {k : TaskQueueKey} {E : World → World → Prop}

theorem retires_of_modify {f : TaskQueue → TaskQueue}
    (hidles : w'.loop.finallyIdles = w.loop.finallyIdles)
    (hlookup : ∀ k₀, w'.queue? k₀ = if k₀ = k then (w.queue? k).map f else w.queue? k₀)
    (hf : ∀ q, (f q).finallyCb = q.finallyCb ∧ (f q).userData = q.userData) : Retires w w' := by
  refine .inl ⟨hidles, fun k₀ q hq hfinally => ?_⟩
  rw [hlookup]
  split
  next hk =>
    subst hk
    rw [hq]
    exact ⟨f q, rfl, (hf q).1.trans hfinally, (hf q).2⟩
  · exact ⟨q, hq, hfinally, rfl⟩

theorem finallyIdles_completeTask (w : World) (k : TaskQueueKey) (a : TaskAtom) :
    (w.completeTask k a).loop.finallyIdles = w.loop.finallyIdles := by
  unfold World.completeTask
  dsimp only
  split <;> rfl

theorem Step.retires (hok : ProcessorOk w) (hstep : Step E w act w') (hact : act ≠ .elsewhere)
    (hwithin : act.Within mine) : Retires w w' := by
  cases hstep with
  | @addQueue source sink flags callbacks _ =>
      refine .inl ⟨rfl, fun k q hq hfinally => ?_⟩
      have hlookup : (w.addQueue source sink flags callbacks).queue? k =
          if k = ⟨w.processor.nextKey, source, sink⟩ then
            some { callbacks := callbacks, flags := flags } else w.queue? k :=
        Assoc.lookup_insert_eq _ _ _ _
      have hne : k ≠ ⟨w.processor.nextKey, source, sink⟩ := by
        rintro rfl
        exact Nat.lt_irrefl _ (hok.queues _ q hq).key
      rw [hlookup, if_neg hne]
      exact ⟨q, hq, hfinally, rfl⟩
  | @addTask k _ task _ _ =>
      exact retires_of_modify rfl (fun k₀ => queue?_pushTask w k k₀ task) fun _ => ⟨rfl, rfl⟩
  | arm _ _ _ _ =>
      exact retires_of_modify rfl (fun k₀ => queue?_modifyQueue _ _ k₀ _) fun _ => ⟨rfl, rfl⟩
  | @dispatch k _ a rest _ _ _ =>
      exact retires_of_modify (w := w) rfl (fun k₀ => queue?_dispatchTask _ k k₀ a rest)
        fun _ => ⟨rfl, rfl⟩
  | configure _ _ => exact hwithin.elim
  | defer _ _ _ _ =>
      exact retires_of_modify rfl (fun k₀ => queue?_modifyQueue w _ k₀ _) fun _ => ⟨rfl, rfl⟩
  | @clear k q _ =>
      exact retires_of_modify rfl (fun k₀ => queue?_clearQueue w k k₀ q) fun _ => ⟨rfl, rfl⟩
  | @complete a _ =>
      exact retires_of_modify (finallyIdles_completeTask w _ a)
        (fun k₀ => queue?_completeTask w a.queueId k₀ a) fun _ => ⟨rfl, rfl⟩
  | @remove k q hq _ _ _ =>
      cases hfinally : q.finallyCb with
      | true =>
          refine .inr ⟨k, q, hq, hfinally, ?_, fun k' => queue?_dropQueue w k k' q⟩
          simp only [World.dropQueue, hfinally, if_true]
          rfl
      | false =>
          refine .inl ⟨by simp only [World.dropQueue, hfinally]; rfl, fun k₀ q₀ hq₀ h₀ => ?_⟩
          rw [queue?_dropQueue]
          split
          next hk =>
            subst hk
            obtain rfl := Option.some.inj (hq.symm.trans hq₀)
            exact absurd (hfinally.symm.trans h₀) Bool.false_ne_true
          · exact ⟨q₀, hq₀, h₀, rfl⟩
  | cancelling _ | quitting _ | quitNow _ =>
      exact .inl ⟨rfl, fun k q hq hfinally => ⟨q, hq, hfinally, rfl⟩⟩
  | @rehash t ht =>
      refine .inl ⟨rfl, fun k q hq hfinally => ⟨q, ?_, hfinally, rfl⟩⟩
      have hlookup : (w.setQueues t).queue? k = w.queue? k := AList.perm_lookup ht
      exact hlookup.trans hq
  | elsewhere _ => exact absurd rfl hact

theorem Step.nextKey (hstep : Step E w act w') (hact : act ≠ .elsewhere) :
    w.processor.nextKey ≤ w'.processor.nextKey := by
  cases hstep with
  | elsewhere _ => exact absurd rfl hact
  | addQueue _ _ _ => exact Nat.le_succ _
  | @complete a _ =>
      unfold World.completeTask
      dsimp only
      split <;> exact Nat.le_refl _
  | @remove k q _ _ _ _ =>
      unfold World.dropQueue
      dsimp only
      split <;> exact Nat.le_refl _
  | addTask _ _ | arm _ _ _ _ | dispatch _ _ _ | configure _ _ | defer _ _ _ _ | clear _
  | cancelling _ | quitting _ | quitNow _ | rehash _ => exact Nat.le_refl _

theorem Step.serviceRecord (hok : ProcessorOk w) (hstep : Step E w act w')
    (hact : act ≠ .elsewhere) (hwithin : act.Within mine) {a : TaskAtom} {t : ServiceTask}
    (ht : w'.tasks a = some (.service t)) : w.tasks a = some (.service t) := by
  by_cases hadd : ∃ k deferRemove task, act = .addTask k deferRemove task
  · obtain ⟨k, _, task, rfl⟩ := hadd
    cases hstep with
    | addTask _ _ =>
        have hrecord : (w.pushTask k task).tasks a =
            if a = w.newAtom k then some task else w.tasks a := rfl
        rw [hrecord] at ht
        split at ht
        · obtain ⟨-, t', rfl⟩ := hwithin
          simp at ht
        · exact ht
  · obtain ⟨gone, hgone⟩ := hstep.discards hok (fun k d task he => hadd ⟨k, d, task, he⟩) hact
    rw [hgone.tasks] at ht
    split at ht
    · simp at ht
    · exact ht

/-- Where the queue of a construction comes from: it was there before. -/
theorem Step.origin_service (hok : ProcessorOk w) (hstep : Step E w act w')
    (hact : act ≠ .elsewhere) (hwithin : act.Within mine) {q' : TaskQueue}
    (hq' : w'.queue? k = some q') (hcs : q'.callbacks = .service) :
    ∃ q, w.queue? k = some q ∧ q.callbacks = .service ∧ q'.finallyCb = q.finallyCb ∧
      q'.userData = q.userData := by
  rcases hstep.origin hok hact k q' hq' with ⟨q, hq, hsame, hrest⟩ | ⟨rfl, -, -, -⟩
  · have hconfigure : act ≠ .configure k := by
      rintro rfl
      exact hwithin
    exact ⟨q, hq, hsame.symm.trans hcs, (hrest hconfigure).1, (hrest hconfigure).2⟩
  · exact absurd (hcs.symm.trans hwithin.1) (by simp)

/-- A key that was freed is not used again. -/
theorem Step.gone (hok : ProcessorOk w) (hstep : Step E w act w') (hact : act ≠ .elsewhere)
    (hnone : w.queue? k = none) (hlt : k.id < w.processor.nextKey) :
    w'.queue? k = none ∧ k.id < w'.processor.nextKey := by
  refine ⟨?_, Nat.lt_of_lt_of_le hlt (hstep.nextKey hact)⟩
  by_contra hne
  obtain ⟨q', hq'⟩ := Option.ne_none_iff_exists'.mp hne
  rcases hstep.origin hok hact _ q' hq' with ⟨q, hq, -⟩ | ⟨-, -, hnew, -⟩
  · exact absurd (hnone.symm.trans hq) (by simp)
  · omega

namespace ConstructionsOk

theorem service_of_finally (h : ConstructionsOk w) {q : TaskQueue} (hq : w.queue? k = some q)
    (hfinally : q.finallyCb = true) : q.callbacks = .service := by
  cases hcs : q.callbacks with
  | service => rfl
  | client => exact absurd ((h.clients k q hq hcs).symm.trans hfinally) (by simp)

theorem pending_retires (h : ConstructionsOk w) (hretires : Retires w w') {udn : String}
    {ct : DeviceNewCt} (hct : w.upnp.serverUcMap.lookup udn = some ct) :
    (∃ q, w'.queue? ct.queueId = some q ∧ q.finallyCb = true ∧ q.userData = some ct) ∨
      ∃ q ∈ w'.loop.finallyIdles, q.userData = some ct := by
  rcases hretires with ⟨hidles, hkeep⟩ | ⟨k, q₀, hq₀, hfinally₀, hidles, hlookup⟩
  · rcases h.pending udn ct hct with ⟨q, hq, hfinally, hdata⟩ | ⟨q, hq, hdata⟩
    · obtain ⟨q', hq', hfinally', hdata'⟩ := hkeep _ q hq hfinally
      exact .inl ⟨q', hq', hfinally', hdata'.trans hdata⟩
    · exact .inr ⟨q, hidles ▸ hq, hdata⟩
  · rcases h.pending udn ct hct with ⟨q, hq, hfinally, hdata⟩ | ⟨q, hq, hdata⟩
    · by_cases hk : ct.queueId = k
      · obtain rfl := Option.some.inj (hq₀.symm.trans (hk ▸ hq))
        refine .inr ⟨{ q₀ with tasks := [] }, ?_, hdata⟩
        rw [hidles]
        exact List.mem_append_right _ (List.mem_singleton_self _)
      · exact .inl ⟨q, (hlookup _).trans ((if_neg hk).trans hq), hfinally, hdata⟩
    · exact .inr ⟨q, hidles ▸ List.mem_append_left _ hq, hdata⟩

/-- A queue that goes to its idle was in the table, so no idle had its data before. -/
theorem idlesNodup_retires (h : ConstructionsOk w) (hretires : Retires w w') :
    (w'.loop.finallyIdles.map TaskQueue.userData).Nodup := by
  rcases hretires with ⟨hidles, -⟩ | ⟨k, q₀, hq₀, hfinally₀, hidles, hlookup⟩
  · rw [hidles]
    exact h.idlesNodup
  · rw [hidles, List.map_append, List.nodup_append]
    refine ⟨h.idlesNodup, List.nodup_singleton _, ?_⟩
    intro data hdata data' hdata' heq
    obtain ⟨q, hq, rfl⟩ := List.mem_map.mp hdata
    obtain ⟨ct, hct, -, hnone, -⟩ := h.idles q hq
    obtain ⟨-, ct₀, hct₀, hkey, -⟩ := h.queues k q₀ hq₀ (h.service_of_finally hq₀ hfinally₀)
    have hsame : some ct = some ct₀ := by
      rw [← hct, ← hct₀, heq]
      simpa using hdata'
    obtain rfl := Option.some.inj hsame
    rw [hkey, hq₀] at hnone
    simp at hnone

theorem idles_step (h : ConstructionsOk w) (hok : ProcessorOk w) (hstep : Step E w act w')
    (hact : act ≠ .elsewhere) (hretires : Retires w w')
    (hconstructs : ∀ ct, w'.Constructs ct ↔ w.Constructs ct) :
    ∀ q ∈ w'.loop.finallyIdles, ∃ ct, q.userData = some ct ∧ w'.Constructs ct ∧
      w'.queue? ct.queueId = none ∧ ct.queueId.id < w'.processor.nextKey := by
  have hold : ∀ q ∈ w.loop.finallyIdles, ∃ ct, q.userData = some ct ∧ w'.Constructs ct ∧
      w'.queue? ct.queueId = none ∧ ct.queueId.id < w'.processor.nextKey := by
    intro q hq
    obtain ⟨ct, hdata, hct, hnone, hlt⟩ := h.idles q hq
    exact ⟨ct, hdata, (hconstructs ct).mpr hct, hstep.gone hok hact hnone hlt⟩
  rcases hretires with ⟨hidles, -⟩ | ⟨k, q₀, hq₀, hfinally₀, hidles, hlookup⟩
  · rw [hidles]
    exact hold
  · rw [hidles]
    intro q hq
    rcases List.mem_append.mp hq with hq | hq
    · exact hold q hq
    · obtain rfl := List.mem_singleton.mp hq
      obtain ⟨-, ct, hct, hkey, hct'⟩ := h.queues k q₀ hq₀ (h.service_of_finally hq₀ hfinally₀)
      refine ⟨ct, hct, (hconstructs ct).mpr hct', ?_, ?_⟩
      · rw [hkey, hlookup, if_pos rfl]
      · rw [hkey]
        exact Nat.lt_of_lt_of_le (hok.queues k q₀ hq₀).key (hstep.nextKey hact)

theorem clients_step (h : ConstructionsOk w) (hok : ProcessorOk w) (hstep : Step E w act w')
    (hact : act ≠ .elsewhere) (hwithin : act.Within mine) {q' : TaskQueue}
    (hq' : w'.queue? k = some q') (hcs : q'.callbacks = .client) : q'.finallyCb = false := by
  rcases hstep.origin hok hact k q' hq' with ⟨q, hq, hsame, hrest⟩ | ⟨-, -, -, hfinally, -⟩
  · have hconfigure : act ≠ .configure k := by
      rintro rfl
      exact hwithin
    rw [(hrest hconfigure).1]
    exact h.clients k q hq (hsame.symm.trans hcs)
  · exact hfinally

theorem tasks_step (h : ConstructionsOk w) (hs : ServiceOk handled w) (hstep : Step E w act w')
    (hact : act ≠ .elsewhere) (hwithin : act.Within mine) {a : TaskAtom} {t : ServiceTask}
    (ht : w'.tasks a = some (.service t)) :
    ∃ q ct, w'.queue? a.queueId = some q ∧ q.callbacks = .service ∧ q.userData = some ct ∧
      t.device = ct.device := by
  have hok := hs.processor
  obtain ⟨q, ct, hq, hcs, hdata, hdevice⟩ :=
    h.tasks a t (hstep.serviceRecord hok hact hwithin ht)
  obtain ⟨q', hq', -⟩ := hstep.allHeld hok hs.outer.held hact a _ ht
  rcases hstep.origin hok hact _ q' hq' with ⟨q₀, hq₀, hsame, hrest⟩ | ⟨-, hnone, -⟩
  · obtain rfl := Option.some.inj (hq.symm.trans hq₀)
    have hconfigure : act ≠ .configure a.queueId := by
      rintro rfl
      exact hwithin
    exact ⟨q', ct, hq', hsame.trans hcs, (hrest hconfigure).2.trans hdata, hdevice⟩
  · exact absurd (hnone.symm.trans hq) (by simp)

theorem step (h : ConstructionsOk w) (hs : ServiceOk handled w) (hstep : Step E w act w')
    (hact : act ≠ .elsewhere) (hwithin : act.Within mine) : ConstructionsOk w' := by
  have hok := hs.processor
  have hcalm := Calm.of_footprint (hstep.footprint hok hact)
  have hretires := hstep.retires hok hact hwithin
  refine ⟨fun udn ct hct => ?_, fun k q' hq' hcs => ?_, fun k q' hq' hcs => ?_, ?_, ?_,
    fun a t ht => ?_⟩
  · exact h.pending_retires hretires (hcalm.serverUcMap ▸ hct)
  · exact h.clients_step hok hstep hact hwithin hq' hcs
  · obtain ⟨q, hq, hcs₀, hfinally, hdata⟩ := hstep.origin_service hok hact hwithin hq' hcs
    obtain ⟨hset, ct, hct, hkey, hconstructs⟩ := h.queues k q hq hcs₀
    exact ⟨hfinally.trans hset, ct, hdata.trans hct, hkey, (hcalm.constructs ct).mpr hconstructs⟩
  · exact h.idles_step hok hstep hact hretires hcalm.constructs
  · exact h.idlesNodup_retires hretires
  · exact h.tasks_step hs hstep hact hwithin ht

end ConstructionsOk

end Steps

/-! ## Runs of the processor -/

/-- The processor, the records of constructions and the idles stay. -/
theorem ConstructionsOk.congr (h : ConstructionsOk w) (hprocessor : w'.processor = w.processor)
    (hidles : w'.loop.finallyIdles = w.loop.finallyIdles)
    (huc : w'.upnp.serverUcMap = w.upnp.serverUcMap)
    (htasks : ∀ a t, w'.tasks a = some (.service t) →
      ∃ t₀, w.tasks a = some (.service t₀) ∧ t.device = t₀.device) : ConstructionsOk w' := by
  have hqueue : ∀ k, w'.queue? k = w.queue? k := fun k => by
    unfold World.queue?
    rw [hprocessor]
  have hconstructs : ∀ ct, w'.Constructs ct ↔ w.Constructs ct := fun ct => by
    unfold World.Constructs
    rw [huc]
  refine ⟨?_, ?_, ?_, ?_, ?_, ?_⟩
  · intro udn ct hct
    rw [huc] at hct
    unfold World.Pending
    rw [hqueue, hidles]
    exact h.pending udn ct hct
  · intro k q hq
    rw [hqueue] at hq
    exact h.clients k q hq
  · intro k q hq hcs
    rw [hqueue] at hq
    obtain ⟨hfinally, ct, hdata, hkey, hct⟩ := h.queues k q hq hcs
    exact ⟨hfinally, ct, hdata, hkey, (hconstructs ct).mpr hct⟩
  · rw [hidles, hprocessor]
    intro q hq
    obtain ⟨ct, hdata, hct, hnone, hlt⟩ := h.idles q hq
    exact ⟨ct, hdata, (hconstructs ct).mpr hct, (hqueue _).trans hnone, hlt⟩
  · rw [hidles]
    exact h.idlesNodup
  · intro a t ht
    obtain ⟨t₀, ht₀, hdevice⟩ := htasks a t ht
    obtain ⟨q, ct, hq, hrest⟩ := h.tasks a t₀ ht₀
    exact ⟨q, ct, (hqueue _).trans hq, hrest.1, hrest.2.1, hdevice.trans hrest.2.2⟩

theorem ConstructionsOk.touches {a : TaskAtom} (h : ConstructionsOk w) (ht : Touches a w w') :
    ConstructionsOk w' := by
  refine h.congr ht.processor ht.finallyIdles (Calm.of_beside ht.toBeside).serverUcMap ?_
  intro b t hb
  by_cases hba : b = a
  · subst hba
    have hrequest := ht.request
    rw [hb] at hrequest
    rcases hr : w.tasks b with _ | t₀ | t₀ <;> rw [hr] at hrequest
    · exact hrequest.elim
    · exact hrequest.elim
    · exact ⟨t₀, rfl, hrequest.2.1⟩
  · rw [ht.others b hba] at hb
    exact ⟨t, hb, rfl⟩

structure Unseen (w w' : World) : Prop extends Calm w w' where
  constructions : ConstructionsOk w → ConstructionsOk w'

namespace Unseen

theorem refl : Unseen w w := ⟨.refl, id⟩

theorem trans (h : Unseen w w') (h' : Unseen w' w'') : Unseen w w'' :=
  ⟨h.toCalm.trans h'.toCalm, h'.constructions ∘ h.constructions⟩

theorem of_touches {a : TaskAtom} (h : Touches a w w') : Unseen w w' :=
  ⟨.of_beside h.toBeside, fun hc => hc.touches h⟩

theorem of_cosmetic (h : Cosmetic w w') : Unseen w w' :=
  ⟨.of_beside h.beside, fun hc => hc.congr h.processor h.finallyIdles (by rw [h.upnp])
    fun a t ht => ⟨t, by rw [← h.tasks, ht], rfl⟩⟩

end Unseen

theorem unseen_of_run (h : (serviceSteps mine handled).Run w w') (hs : ServiceOk handled w) :
    Unseen w w' := by
  have hboth : ServiceOk handled w' ∧ Unseen w w' := by
    refine System.Steps.invariant (I := fun w' => ServiceOk handled w' ∧ Unseen w w') h
      ⟨hs, .refl⟩ ?_
    rintro w₁ act w₂ ⟨hs₁, hunseen⟩ ⟨hallowed, hstep⟩
    refine ⟨(serviceSteps mine handled).preserved hs₁ hallowed hstep, hunseen.trans ?_⟩
    by_cases hact : act = .elsewhere
    · subst hact
      cases hstep with
      | elsewhere he =>
          obtain ⟨-, a, -, hfocus⟩ := he
          exact .of_touches hfocus.toTouches
    · exact ⟨.of_footprint (hstep.footprint hs₁.processor hact),
        fun hc => hc.step hs₁ hstep hact hallowed.2⟩
  exact hboth.2

/-! ## Inputs that leave the renderers alone -/

/-- The inputs that bring a renderer, take it away or end its construction, the
end of the process, and a change of the order of the maps. -/
def Input.isDiscovery : Input → Bool
  | .available _ _ _ | .unavailable _ _ | .finallyIdle _ | .rehash _ _ | .contextFree => true
  | _ => false

theorem unseen_setContext (context : Context) : Unseen w { w with context := context } :=
  ⟨⟨rfl, rfl, [], by simp⟩, fun hc => hc.congr rfl rfl rfl fun _ t ht => ⟨t, ht, rfl⟩⟩

theorem unseen_emit {e : Event} (he : e.isMute = false) : Unseen w (w.emit e) :=
  ⟨⟨rfl, rfl, [e], rfl, by simpa using he⟩,
    fun hc => hc.congr rfl rfl rfl fun _ t ht => ⟨t, ht, rfl⟩⟩

theorem unseen_setHostService (h : HostService) : Unseen w (w.setHostService h) :=
  ⟨⟨rfl, rfl, [], (List.append_nil _).symm, by simp⟩,
    fun hc => hc.congr rfl rfl rfl fun _ t ht => ⟨t, ht, rfl⟩⟩

theorem unseen_setLoop {l : MainLoop} (hidles : l.finallyIdles = w.loop.finallyIdles) :
    Unseen w (w.setLoop l) :=
  ⟨⟨rfl, rfl, [], (List.append_nil _).symm, by simp⟩,
    fun hc => hc.congr rfl hidles rfl fun _ t ht => ⟨t, ht, rfl⟩⟩

theorem unseen_crash (f : Fault) : Unseen w (w.crash f) :=
  ⟨⟨rfl, rfl, [], (List.append_nil _).symm, by simp⟩,
    fun hc => hc.congr rfl rfl rfl fun _ t ht => ⟨t, ht, rfl⟩⟩

theorem unseen_watch (clientName : String) : Unseen w (w.watch clientName) := by
  unfold World.watch
  split
  · exact .refl
  · exact unseen_setContext _

theorem unseen_prvAddTask {n : Nat} {clientName sink : String} {t : ClientTask}
    (h : ServiceOk (some n) w) (hname : BusSource clientName) (ht : t.Wraps n sink) :
    Unseen w (prvAddTask clientName n t sink w) := by
  have hwatch := watch_serviceOk h hname
  obtain ⟨hrun, -, hsink, q, hq, hcs⟩ := lookupOrAddQueue_serves sink hwatch hname
  have hadd := rsuTaskQueueAddTask_serves (hrun.inv hwatch) hq hcs (hsink.symm ▸ ht)
  rw [prvAddTask_eq]
  have hqueue := unseen_of_run hrun hwatch
  have hadded := unseen_of_run hadd (hrun.inv hwatch).forget
  exact (unseen_watch clientName).trans (hqueue.trans (hadded.trans (unseen_emit rfl)))

theorem unseen_withDeviceId {object : String} {f : Nat → String → World → World}
    (h : ServiceOk none w)
    (hf : ∀ w', ServiceOk (some w.context.nextInvocation) w' →
      Unseen w' (f w.context.nextInvocation object w')) :
    Unseen w (withDeviceId object f w) := by
  have harrive : Unseen w w.newInvocation.2 := unseen_setContext _
  rcases withDeviceId_cases object f w with heq | ⟨error, heq⟩
  · rw [heq]
    exact harrive.trans (hf _ (newInvocation_serviceOk h))
  · rw [heq]
    exact harrive.trans (unseen_emit rfl)

theorem unseen_withDeviceId_addTask {object : String} (sender : BusName) {f : Nat → ClientTask}
    (h : ServiceOk none w) (hf : ∀ n, (f n).Wraps n object) :
    Unseen w (withDeviceId object
      (fun invocation => prvAddTask sender.name invocation (f invocation)) w) :=
  unseen_withDeviceId h fun _ h' => unseen_prvAddTask h' sender.unique (hf _)

theorem unseen_setQuitting (h : ServiceOk handled w) :
    Unseen w (rsuTaskProcessorSetQuitting taskDeleteCb taskCancelCb w) :=
  unseen_of_run (rsuTaskProcessorSetQuitting_run (D := serviceSteps (fun _ => True) handled)
    serviceSteps_cancels (fun _ _ => trivial) h (fun _ => ⟨trivial, trivial⟩)
      fun _ => ⟨trivial, trivial⟩) h

theorem unseen_prvRemoveClient (name : String) (h : ServiceOk handled w) :
    Unseen w (prvRemoveClient name w) := by
  let w₁ := rsuTaskProcessorRemoveQueuesForSource taskDeleteCb taskCancelCb name w
  have hrun := rsuTaskProcessorRemoveQueuesForSource_run
    (D := serviceSteps (fun _ => True) handled) serviceSteps_cancels name h fun _ _ _ => trivial
  have hremoved : Unseen w w₁ := unseen_of_run hrun h
  have hlost : Unseen w₁ (rsuUpnpLostClient name w₁) := unseen_setHostService _
  have hdropped : Unseen w (w.dropClient name) :=
    hremoved.trans (hlost.trans (unseen_setContext _))
  rw [prvRemoveClient_eq]
  split
  · exact hdropped.trans (unseen_setQuitting (dropClient_serviceOk name h))
  · exact hdropped

theorem unseen_prvRsuMethodCall (sender : BusName) (method : ManagerMethod)
    (h : ServiceOk none w) : Unseen w (prvRsuMethodCall sender.name method w) := by
  have harrive : Unseen w w.newInvocation.2 := unseen_setContext _
  have harrived := newInvocation_serviceOk h
  cases method with
  | release =>
      exact harrive.trans ((unseen_prvRemoveClient sender.name harrived).trans (unseen_emit rfl))
  | getVersion =>
      exact harrive.trans (unseen_prvAddTask harrived sender.unique
        ⟨rfl, rfl, rfl, rfl, fun hasync => absurd hasync Bool.false_ne_true⟩)
  | getServers =>
      exact harrive.trans (unseen_prvAddTask harrived sender.unique
        ⟨rfl, rfl, rfl, rfl, fun hasync => absurd hasync Bool.false_ne_true⟩)

theorem unseen_cancelQueue (k : TaskQueueKey) (h : ServiceOk handled w) :
    Unseen w (rsuTaskProcessorCancelQueue taskDeleteCb taskCancelCb k w) := by
  cases hq : w.queue? k with
  | none =>
      simp only [rsuTaskProcessorCancelQueue, hq]
      exact unseen_crash _
  | some q =>
      exact unseen_of_run (rsuTaskProcessorCancelQueue_run
        (D := serviceSteps (fun _ => True) handled) serviceSteps_cancels h trivial hq) h

theorem unseen_prvRendererDeviceMethodCall (sender : BusName) (object : String)
    (h : ServiceOk none w) : Unseen w (prvRendererDeviceMethodCall sender.name object w) := by
  refine unseen_withDeviceId h fun w' h' => ?_
  cases rsuTaskProcessorLookupQueue w' sender.name object with
  | some k =>
      dsimp only
      exact (unseen_cancelQueue k h').trans (unseen_emit rfl)
  | none =>
      dsimp only
      exact unseen_emit rfl

theorem unseen_prvContextQuitCb (w : World) : Unseen w (prvContextQuitCb w) := by
  have hflag : Unseen w { w with context := { w.context with ownerId := false } } :=
    unseen_setContext _
  have hunsubscribed := Unseen.of_cosmetic (cosmetic_rsuUpnpUnsubscribe
    { w with context := { w.context with ownerId := false } })
  exact hflag.trans (hunsubscribed.trans (unseen_setLoop rfl))

/-- Whatever is not about discovery leaves the renderers alone. -/
theorem exec_unseen {i : Input} (h : ServiceOk none w) (henabled : i.enabled w = true)
    (hi : i.isDiscovery = false) : Unseen w (exec w i) := by
  have hloop : ∀ l : MainLoop, l.finallyIdles = w.loop.finallyIdles → Unseen w (w.setLoop l) :=
    fun l hidles => unseen_setLoop hidles
  cases i with
  | available _ _ _ | unavailable _ _ | finallyIdle _ | rehash _ _ | contextFree =>
      simp [Input.isDiscovery] at hi
  | managerCall sender method => exact unseen_prvRsuMethodCall sender method h
  | propsCall sender object method =>
      exact unseen_withDeviceId_addTask sender (f := fun n => method.new object n) h
        fun n => method.wraps object n
  | rsuDeviceCall sender object method =>
      exact unseen_withDeviceId_addTask sender (f := fun n => method.new n) h
        fun n => method.wraps object n
  | playerCall sender object method =>
      exact unseen_withDeviceId_addTask sender (f := fun n => method.new object n) h
        fun n => method.wraps object n
  | pushHostCall sender object method =>
      exact unseen_withDeviceId_addTask sender (f := fun n => method.new sender.name object n) h
        fun n => method.wraps sender.name object n
  | cancelCall sender object => exact unseen_prvRendererDeviceMethodCall sender object h
  | lostClient name => exact unseen_prvRemoveClient name h
  | reply action env =>
      have hmem : action ∈ w.gupnp.actions := by simp_all [Input.enabled]
      have hrun : (serviceSteps (fun _ => True) none).Run w (actionReply action env w) :=
        actionReply_serves h hmem trivial env
      exact unseen_of_run hrun h
  | processIdle id k env =>
      have hmem : (id, k) ∈ w.loop.processIdles := by simp_all [Input.enabled]
      have hrun : (serviceSteps (fun _ => True) none).Run w (exec w (.processIdle id k env)) :=
        prvTaskQueueProcessTask_serves env h trivial hmem
      exact unseen_of_run hrun h
  | completeIdle a =>
      have hmem : a ∈ w.loop.completeIdles := by simp_all [Input.enabled]
      have hrun : (serviceSteps (fun _ => True) none).Run w (exec w (.completeIdle a)) :=
        rsuAsyncTaskComplete_serves h trivial hmem
      exact unseen_of_run hrun h
  | subscribeTimer id d =>
      have htimer := hloop
        { w.loop with subscribeTimers := w.loop.subscribeTimers.erase (id, d) } rfl
      exact htimer.trans (.of_cosmetic (cosmetic_prvSubscribeToServiceChanges d))
  | notify proxy => exact .of_cosmetic (cosmetic_foldl_notify _ w)
  | subscriptionLost proxy => exact .of_cosmetic (cosmetic_subscriptionLost proxy w)
  | retryTimer r =>
      have htimer := hloop { w.loop with retryTimers := w.loop.retryTimers.erase r } rfl
      exact htimer.trans (.of_cosmetic (cosmetic_prvReEnableSubscription r))
  | soupRequest mapped deviceIf msg => exact unseen_setHostService _
  | soupFinished t =>
      show Unseen w (soupFinished t w)
      unfold soupFinished
      split
      · exact unseen_setHostService _
      · exact unseen_crash _
  | quitIdle =>
      have hidle := hloop { w.loop with quitIdles := w.loop.quitIdles - 1 } rfl
      exact hidle.trans (unseen_prvContextQuitCb _)
  | quitTimer =>
      have hidle := hloop { w.loop with quitTimers := w.loop.quitTimers - 1 } rfl
      exact hidle.trans (unseen_setContext _)
  | signal => exact (unseen_setQuitting h).trans (unseen_setContext _)
  | nameLost => exact unseen_setQuitting h

end RendererService
