import RendererService.Processor.Order

/-!
# The footprint of a step

What the steps of the processor leave alone in the rest of the process, and how
long a task lives: it is held by its queue until it is deleted, and it is
deleted once.
-/

namespace RendererService

namespace World

def Holds (w : World) (a : TaskAtom) : Prop :=
  ∃ q, w.queue? a.queueId = some q ∧ (a ∈ q.tasks ∨ q.currentTask = some a)

theorem Current.holds {w : World} {a : TaskAtom} (h : w.Current a) : w.Holds a := by
  obtain ⟨q, hq, ha⟩ := h
  exact ⟨q, hq, .inr ha⟩

end World

def FreshRecord (r : Option Task) : Prop := ∃ cs : TaskCallbacks, cs.Fresh r

/-- What a step `act` of the processor may change outside its queues. -/
structure Footprint (act : Act) (w w' : World) : Prop where
  gupnp : w'.gupnp = w.gupnp
  devices : w'.devices = w.devices
  upnp : w'.upnp = w.upnp
  context : w'.context = w.context
  serviceCpt : w'.serviceCpt = w.serviceCpt
  fault : w'.fault = w.fault
  completeIdles : w'.loop.completeIdles = w.loop.completeIdles
  nextTask : w.nextTask ≤ w'.nextTask
  log : ∃ es, w'.log = w.log ++ es ∧
    ∀ e ∈ es, e.isProcessor = true ∨ ∃ invocation reply, e = .answered invocation reply
  current : ∀ a, w.Current a → act ≠ .complete a → w'.Current a ∧ w'.tasks a = w.tasks a
  started : ∀ a, w'.Current a → w.Current a ∨
    act = .dispatch a.queueId ∧ FreshRecord (w.tasks a) ∧ w'.tasks a = w.tasks a
  records : ∀ a r, w'.tasks a = some r → w.tasks a = some r ∨
    a.id = w.nextTask ∧ FreshRecord (some r)

section Steps

variable {w w' : World} {k : TaskQueueKey} {act : Act}

theorem ProcessorOk.current_not_mem (hok : ProcessorOk w) {a : TaskAtom} (ha : w.Current a)
    {q : TaskQueue} (hq : w.queue? k = some q) : a ∉ q.tasks := by
  intro hmem
  obtain ⟨q', hq', hcurrent⟩ := ha
  obtain rfl : a.queueId = k := ((hok.queues k q hq).owned a hmem).1
  obtain rfl := Option.some.inj (hq'.symm.trans hq)
  exact ((hok.queues _ q' hq').current a hcurrent).2.2.1 hmem

theorem ProcessorOk.current_bound (hok : ProcessorOk w) {a : TaskAtom} (ha : w.Current a) :
    a.id < w.nextTask := by
  obtain ⟨q, hq, hcurrent⟩ := ha
  exact ((hok.queues _ q hq).current a hcurrent).2.1

theorem ProcessorOk.holds_bound (hok : ProcessorOk w) {a : TaskAtom} (ha : w.Holds a) :
    a.id < w.nextTask := by
  obtain ⟨q, hq, hmem | hcurrent⟩ := ha
  · exact ((hok.queues _ q hq).owned a hmem).2
  · exact ((hok.queues _ q hq).current a hcurrent).2.1

theorem current_of_modify {f : TaskQueue → TaskQueue}
    (hlookup : ∀ k₀, w'.queue? k₀ = if k₀ = k then (w.queue? k).map f else w.queue? k₀)
    (hf : ∀ q, w.queue? k = some q → (f q).currentTask = q.currentTask) (a : TaskAtom) :
    w'.Current a ↔ w.Current a := by
  unfold World.Current
  rw [hlookup]
  split
  next hk =>
    subst hk
    cases hq : w.queue? a.queueId with
    | none => simp
    | some q => simp [hf q hq]
  · rfl

theorem current_addQueue (hok : ProcessorOk w) (source sink : String) (flags : TaskQueueFlags)
    (callbacks : TaskCallbacks) (a : TaskAtom) :
    (w.addQueue source sink flags callbacks).Current a ↔ w.Current a := by
  have hlookup : (w.addQueue source sink flags callbacks).queue? a.queueId =
      if a.queueId = ⟨w.processor.nextKey, source, sink⟩ then
        some { callbacks := callbacks, flags := flags } else w.queue? a.queueId :=
    Assoc.lookup_insert_eq _ _ _ _
  unfold World.Current
  rw [hlookup]
  split
  next hk =>
    constructor
    · rintro ⟨q, hq, ha⟩
      obtain rfl := Option.some.inj hq
      simp at ha
    · rintro ⟨q, hq, -⟩
      have := (hok.queues _ q hq).key
      simp [hk] at this
  · rfl

theorem current_dropQueue {q : TaskQueue} (hq : w.queue? k = some q)
    (hcurrent : q.currentTask = none) (a : TaskAtom) :
    (w.dropQueue k q).Current a ↔ w.Current a := by
  unfold World.Current
  rw [queue?_dropQueue]
  split
  next hk =>
    constructor
    · rintro ⟨_, hnone, -⟩
      simp at hnone
    · rintro ⟨q', hq', ha⟩
      obtain rfl := Option.some.inj (hq.symm.trans (hk ▸ hq'))
      exact absurd (hcurrent.symm.trans ha) (by simp)
  · rfl

theorem Footprint.of_same (hgupnp : w'.gupnp = w.gupnp) (hdevices : w'.devices = w.devices)
    (hupnp : w'.upnp = w.upnp) (hcontext : w'.context = w.context)
    (hcpt : w'.serviceCpt = w.serviceCpt) (hfault : w'.fault = w.fault)
    (hidles : w'.loop.completeIdles = w.loop.completeIdles) (htask : w'.nextTask = w.nextTask)
    (hlog : ∃ es, w'.log = w.log ++ es ∧
      ∀ e ∈ es, e.isProcessor = true ∨ ∃ invocation reply, e = .answered invocation reply)
    (htasks : w'.tasks = w.tasks) (hcurrent : ∀ a, w'.Current a ↔ w.Current a) :
    Footprint act w w' :=
  ⟨hgupnp, hdevices, hupnp, hcontext, hcpt, hfault, hidles, Nat.le_of_eq htask.symm, hlog,
    fun a ha _ => ⟨(hcurrent a).mpr ha, by rw [htasks]⟩, fun a ha => .inl ((hcurrent a).mp ha),
    fun a r hr => .inl (htasks ▸ hr)⟩

theorem pushTask_footprint (hok : ProcessorOk w) {task : Task} {cs : TaskCallbacks}
    (hfresh : cs.Fresh (some task)) : Footprint act w (w.pushTask k task) := by
  have hcurrent := current_of_modify (fun k₀ => queue?_pushTask w k k₀ task) fun _ _ => rfl
  have hrecord : ∀ a, (w.pushTask k task).tasks a =
      if a = w.newAtom k then some task else w.tasks a := fun _ => rfl
  refine ⟨rfl, rfl, rfl, rfl, rfl, rfl, rfl, Nat.le_succ _,
    ⟨[.added (w.newAtom k)], rfl, by simp [Event.isProcessor]⟩, ?_, ?_, ?_⟩
  · intro a ha _
    refine ⟨(hcurrent a).mpr ha, ?_⟩
    rw [hrecord, if_neg]
    rintro rfl
    exact Nat.lt_irrefl _ (hok.current_bound ha)
  · exact fun a ha => .inl ((hcurrent a).mp ha)
  · intro a r hr
    rw [hrecord] at hr
    split at hr
    next ha =>
      subst ha
      rw [← hr]
      exact .inr ⟨rfl, cs, hfresh⟩
    · exact .inl hr

theorem clearQueue_footprint (hok : ProcessorOk w) {q : TaskQueue} (hq : w.queue? k = some q) :
    Footprint act w (w.clearQueue k q) := by
  have hcurrent := current_of_modify (fun k₀ => queue?_clearQueue w k k₀ q) fun _ _ => rfl
  have hrecord : ∀ a, (w.clearQueue k q).tasks a = if a ∈ q.tasks then none else w.tasks a :=
    fun _ => rfl
  refine ⟨rfl, rfl, rfl, rfl, rfl, rfl, rfl, Nat.le_refl _, ⟨_, clearQueue_log w k q, ?_⟩,
    ?_, ?_, ?_⟩
  · intro e he
    obtain ⟨a, -, hea⟩ := List.mem_flatMap.mp he
    rcases mem_cancelEvents hea with rfl | rfl | ⟨i, r, rfl⟩
    · exact .inl rfl
    · exact .inl rfl
    · exact .inr ⟨i, r, rfl⟩
  · intro a ha _
    refine ⟨(hcurrent a).mpr ha, ?_⟩
    rw [hrecord, if_neg (hok.current_not_mem ha hq)]
  · exact fun a ha => .inl ((hcurrent a).mp ha)
  · intro a r hr
    rw [hrecord] at hr
    split at hr
    · simp at hr
    · exact .inl hr

theorem dispatchTask_footprint (hok : ProcessorOk w) {q : TaskQueue} {a : TaskAtom}
    {rest : List TaskAtom} (hq : w.queue? k = some q) (hidle : q.idleId ≠ 0)
    (htasks : q.tasks = a :: rest) :
    Footprint (.dispatch k) w ((w.sourceRemoveProcess q.idleId).dispatchTask k a rest) := by
  have hold := hok.queues k q hq
  have hmem : a ∈ q.tasks := htasks ▸ List.mem_cons_self
  have hlookup : ∀ k₀, ((w.sourceRemoveProcess q.idleId).dispatchTask k a rest).queue? k₀ =
      if k₀ = k then (w.queue? k).map fun q =>
        { q with cancelled := false, idleId := 0, currentTask := some a, tasks := rest }
      else w.queue? k₀ := fun k₀ => queue?_dispatchTask _ k k₀ a rest
  refine ⟨rfl, rfl, rfl, rfl, rfl, rfl, rfl, Nat.le_refl _, ⟨[.processed a], rfl, ?_⟩, ?_, ?_,
    fun b r hr => .inl hr⟩
  · simp [Event.isProcessor]
  · rintro b ⟨q', hq', hb⟩ -
    refine ⟨⟨q', ?_, hb⟩, rfl⟩
    rw [hlookup, if_neg]
    · exact hq'
    · rintro hk
      obtain rfl := Option.some.inj (hq.symm.trans (hk ▸ hq'))
      exact absurd ((hold.idle hidle).1.symm.trans hb) (by simp)
  · rintro b ⟨q', hq', hb⟩
    rw [hlookup] at hq'
    split at hq'
    next hk =>
      rw [hq] at hq'
      obtain rfl := Option.some.inj hq'
      obtain rfl : a = b := Option.some.inj hb
      exact .inr ⟨by rw [(hold.owned a hmem).1], ⟨_, hold.fresh a hmem⟩, rfl⟩
    · exact .inl ⟨q', hq', hb⟩

theorem completeTask_footprint {a : TaskAtom} (ha : w.Current a) :
    Footprint (.complete a) w (w.completeTask a.queueId a) := by
  have hlookup := fun k₀ => queue?_completeTask w a.queueId k₀ a
  have hrest : (w.completeTask a.queueId a).gupnp = w.gupnp ∧
      (w.completeTask a.queueId a).devices = w.devices ∧
      (w.completeTask a.queueId a).upnp = w.upnp ∧
      (w.completeTask a.queueId a).context = w.context ∧
      (w.completeTask a.queueId a).serviceCpt = w.serviceCpt ∧
      (w.completeTask a.queueId a).fault = w.fault ∧
      (w.completeTask a.queueId a).loop.completeIdles = w.loop.completeIdles ∧
      (w.completeTask a.queueId a).nextTask = w.nextTask ∧
      (w.completeTask a.queueId a).tasks = fun b => if b ∈ [a] then none else w.tasks b := by
    unfold World.completeTask
    dsimp only
    split <;> exact ⟨rfl, rfl, rfl, rfl, rfl, rfl, rfl, rfl, rfl⟩
  obtain ⟨hgupnp, hdevices, hupnp, hcontext, hcpt, hfault, hidles, htask, hrecord⟩ := hrest
  refine ⟨hgupnp, hdevices, hupnp, hcontext, hcpt, hfault, hidles, Nat.le_of_eq htask.symm,
    ⟨_, completeTask_log w _ a, ?_⟩, ?_, ?_, ?_⟩
  · intro e he
    rcases List.mem_cons.mp he with rfl | he
    · exact .inl rfl
    · rcases List.mem_append.mp he with he | he
      · rcases mem_deleteEvents he with rfl | ⟨i, r, rfl⟩
        · exact .inl rfl
        · exact .inr ⟨i, r, rfl⟩
      · rw [mem_quitEvents he]
        exact .inl rfl
  · rintro b ⟨q, hq, hb⟩ hne
    have hba : b ≠ a := fun h => hne (by rw [h])
    refine ⟨⟨q, ?_, hb⟩, ?_⟩
    · rw [hlookup, if_neg]
      · exact hq
      · intro hk
        obtain ⟨q', hq', ha'⟩ := ha
        obtain rfl := Option.some.inj (hq'.symm.trans (hk ▸ hq))
        exact hba (Option.some.inj (hb.symm.trans ha'))
    · rw [hrecord]
      exact if_neg fun hmem => hba (List.mem_singleton.mp hmem)
  · rintro b ⟨q, hq, hb⟩
    rw [hlookup] at hq
    split at hq
    · obtain ⟨q', -, rfl⟩ := Option.map_eq_some_iff.mp hq
      simp at hb
    · exact .inl ⟨q, hq, hb⟩
  · intro b r hr
    rw [hrecord] at hr
    dsimp only at hr
    split at hr
    · simp at hr
    · exact .inl hr

theorem dropQueue_footprint (hok : ProcessorOk w) {q : TaskQueue} (hq : w.queue? k = some q)
    (hcurrent : q.currentTask = none) : Footprint act w (w.dropQueue k q) := by
  have hsame := current_dropQueue hq hcurrent
  have hrest : (w.dropQueue k q).gupnp = w.gupnp ∧ (w.dropQueue k q).devices = w.devices ∧
      (w.dropQueue k q).upnp = w.upnp ∧ (w.dropQueue k q).context = w.context ∧
      (w.dropQueue k q).serviceCpt = w.serviceCpt ∧ (w.dropQueue k q).fault = w.fault ∧
      (w.dropQueue k q).loop.completeIdles = w.loop.completeIdles ∧
      (w.dropQueue k q).nextTask = w.nextTask ∧
      (w.dropQueue k q).tasks = fun b => if b ∈ q.tasks then none else w.tasks b := by
    unfold World.dropQueue
    cases q.finallyCb <;> exact ⟨rfl, rfl, rfl, rfl, rfl, rfl, rfl, rfl, rfl⟩
  obtain ⟨hgupnp, hdevices, hupnp, hcontext, hcpt, hfault, hidles, htask, hrecord⟩ := hrest
  refine ⟨hgupnp, hdevices, hupnp, hcontext, hcpt, hfault, hidles, Nat.le_of_eq htask.symm,
    ⟨_, dropQueue_log w k q, ?_⟩, ?_, fun a ha => .inl ((hsame a).mp ha), ?_⟩
  · intro e he
    obtain ⟨a, -, hea⟩ := List.mem_flatMap.mp he
    rcases mem_deleteEvents hea with rfl | ⟨i, r, rfl⟩
    · exact .inl rfl
    · exact .inr ⟨i, r, rfl⟩
  · intro a ha _
    refine ⟨(hsame a).mpr ha, ?_⟩
    rw [hrecord]
    exact if_neg (hok.current_not_mem ha hq)
  · intro a r hr
    rw [hrecord] at hr
    dsimp only at hr
    split at hr
    · simp at hr
    · exact .inl hr

theorem Step.footprint {E : World → World → Prop} (hok : ProcessorOk w)
    (hstep : Step E w act w') (hact : act ≠ .elsewhere) : Footprint act w w' := by
  have hnil : ∃ es, w.log = w.log ++ es ∧
      ∀ e ∈ es, e.isProcessor = true ∨ ∃ invocation reply, e = .answered invocation reply :=
    ⟨[], by simp⟩
  cases hstep with
  | addQueue flags callbacks _ =>
      exact .of_same rfl rfl rfl rfl rfl rfl rfl rfl hnil rfl (current_addQueue hok _ _ _ _)
  | addTask _ hfresh => exact pushTask_footprint hok hfresh
  | arm _ _ _ _ =>
      exact .of_same rfl rfl rfl rfl rfl rfl rfl rfl hnil rfl
        (current_of_modify (fun k₀ => queue?_modifyQueue _ _ k₀ _) fun _ _ => rfl)
  | dispatch hq hidle htasks => exact dispatchTask_footprint hok hq hidle htasks
  | configure hq hf =>
      refine .of_same rfl rfl rfl rfl rfl rfl rfl rfl hnil rfl
        (current_of_modify (fun k₀ => queue?_modifyQueue w _ k₀ _) fun q' hq' => ?_)
      obtain rfl := Option.some.inj (hq.symm.trans hq')
      exact hf.2.2.1
  | defer _ _ _ _ =>
      exact .of_same rfl rfl rfl rfl rfl rfl rfl rfl hnil rfl
        (current_of_modify (fun k₀ => queue?_modifyQueue w _ k₀ _) fun _ _ => rfl)
  | clear hq => exact clearQueue_footprint hok hq
  | cancelling _ =>
      exact .of_same rfl rfl rfl rfl rfl rfl rfl rfl ⟨[_], rfl, by simp [Event.isProcessor]⟩ rfl
        fun _ => Iff.rfl
  | complete ha => exact completeTask_footprint ha
  | remove hq hcurrent _ _ => exact dropQueue_footprint hok hq hcurrent
  | quitting _ =>
      exact .of_same rfl rfl rfl rfl rfl rfl rfl rfl ⟨[_], rfl, by simp [Event.isProcessor]⟩ rfl
        fun _ => Iff.rfl
  | quitNow _ =>
      exact .of_same rfl rfl rfl rfl rfl rfl rfl rfl
        ⟨[_, _], List.append_assoc _ _ _, by simp [Event.isProcessor]⟩ rfl fun _ => Iff.rfl
  | rehash ht =>
      refine .of_same rfl rfl rfl rfl rfl rfl rfl rfl hnil rfl fun a => ?_
      have hlookup : (w.setQueues _).queue? a.queueId = w.queue? a.queueId := AList.perm_lookup ht
      unfold World.Current
      rw [hlookup]
  | elsewhere _ => exact absurd rfl hact

/-- Where a queue comes from: it was there before, or the step added it. -/
def Origin (act : Act) (w : World) (k : TaskQueueKey) (q' : TaskQueue) : Prop :=
  (∃ q, w.queue? k = some q ∧ q'.callbacks = q.callbacks ∧
    (act ≠ .configure k → q'.finallyCb = q.finallyCb ∧ q'.userData = q.userData)) ∨
  (act = .addQueue k.source k.sink q'.callbacks ∧ w.queue? k = none ∧
    k.id = w.processor.nextKey ∧ q'.finallyCb = false ∧ q'.userData = none)

/-- A queue is replaced by one that keeps its callbacks and user data. -/
theorem origin_of_modify {f : TaskQueue → TaskQueue}
    (hlookup : ∀ k₀, w'.queue? k₀ = if k₀ = k then (w.queue? k).map f else w.queue? k₀)
    (hf : ∀ q, w.queue? k = some q → (f q).callbacks = q.callbacks ∧
      (act ≠ .configure k → (f q).finallyCb = q.finallyCb ∧ (f q).userData = q.userData))
    (k' : TaskQueueKey) (q' : TaskQueue) (hq' : w'.queue? k' = some q') : Origin act w k' q' := by
  rw [hlookup] at hq'
  split at hq'
  next hk =>
    obtain ⟨q, hq, rfl⟩ := Option.map_eq_some_iff.mp hq'
    subst hk
    exact .inl ⟨q, hq, hf q hq⟩
  · exact .inl ⟨q', hq', rfl, fun _ => ⟨rfl, rfl⟩⟩

theorem Step.origin {E : World → World → Prop} (hok : ProcessorOk w) (hstep : Step E w act w')
    (hact : act ≠ .elsewhere) :
    ∀ k q', w'.queue? k = some q' → Origin act w k q' := by
  cases hstep with
  | @addQueue source sink flags callbacks _ =>
      intro k q' hq'
      have hlookup : (w.addQueue source sink flags callbacks).queue? k =
          if k = ⟨w.processor.nextKey, source, sink⟩ then
            some { callbacks := callbacks, flags := flags } else w.queue? k :=
        Assoc.lookup_insert_eq _ _ _ _
      rw [hlookup] at hq'
      split at hq'
      next hk =>
        obtain rfl := Option.some.inj hq'
        refine .inr ⟨by rw [hk], ?_, by rw [hk], rfl, rfl⟩
        by_contra hne
        obtain ⟨q, hq⟩ := Option.ne_none_iff_exists'.mp hne
        have := (hok.queues k q hq).key
        simp [hk] at this
      · exact .inl ⟨q', hq', rfl, fun _ => ⟨rfl, rfl⟩⟩
  | @addTask k _ task _ _ =>
      exact origin_of_modify (fun k₀ => queue?_pushTask w k k₀ task)
        fun _ _ => ⟨rfl, fun _ => ⟨rfl, rfl⟩⟩
  | arm _ _ _ _ =>
      exact origin_of_modify (fun k₀ => queue?_modifyQueue _ _ k₀ _)
        fun _ _ => ⟨rfl, fun _ => ⟨rfl, rfl⟩⟩
  | @dispatch k _ a rest _ _ _ =>
      exact origin_of_modify (w := w) (fun k₀ => queue?_dispatchTask _ k k₀ a rest)
        fun _ _ => ⟨rfl, fun _ => ⟨rfl, rfl⟩⟩
  | configure hq hf =>
      refine origin_of_modify (fun k₀ => queue?_modifyQueue w _ k₀ _) fun q' hq' => ?_
      obtain rfl := Option.some.inj (hq.symm.trans hq')
      exact ⟨hf.2.1, fun hne => absurd rfl hne⟩
  | defer _ _ _ _ =>
      exact origin_of_modify (fun k₀ => queue?_modifyQueue w _ k₀ _)
        fun _ _ => ⟨rfl, fun _ => ⟨rfl, rfl⟩⟩
  | @clear k q _ =>
      exact origin_of_modify (fun k₀ => queue?_clearQueue w k k₀ q)
        fun _ _ => ⟨rfl, fun _ => ⟨rfl, rfl⟩⟩
  | @complete a _ =>
      exact origin_of_modify (fun k₀ => queue?_completeTask w a.queueId k₀ a)
        fun _ _ => ⟨rfl, fun _ => ⟨rfl, rfl⟩⟩
  | @remove k q _ _ _ _ =>
      intro k' q' hq'
      rw [queue?_dropQueue] at hq'
      split at hq'
      · simp at hq'
      · exact .inl ⟨q', hq', rfl, fun _ => ⟨rfl, rfl⟩⟩
  | cancelling _ | quitting _ | quitNow _ =>
      exact fun k q' hq' => .inl ⟨q', hq', rfl, fun _ => ⟨rfl, rfl⟩⟩
  | @rehash t ht =>
      intro k q' hq'
      have hlookup : (w.setQueues t).queue? k = w.queue? k := AList.perm_lookup ht
      exact .inl ⟨q', hlookup ▸ hq', rfl, fun _ => ⟨rfl, rfl⟩⟩
  | elsewhere _ => exact absurd rfl hact

end Steps

/-! ## The life of a task -/

structure LifetimeOk (w : World) : Prop where
  gone : ∀ a, .deleted a ∈ w.log → ¬w.Holds a
  bound : ∀ a, .deleted a ∈ w.log → a.id < w.nextTask
  once : ∀ a, w.log.count (.deleted a) ≤ 1

section Lifetime

variable {w w' : World} {k : TaskQueueKey} {l : List Event}

theorem LifetimeOk.step (hok : ProcessorOk w) (h : LifetimeOk w) (hlog : w'.log = w.log ++ l)
    (hcount : ∀ a, l.count (.deleted a) ≤ 1)
    (hdeleted : ∀ a, .deleted a ∈ l → w.Holds a ∧ ¬w'.Holds a)
    (hheld : ∀ a, w'.Holds a → w.Holds a ∨ w.nextTask ≤ a.id)
    (htask : w.nextTask ≤ w'.nextTask) : LifetimeOk w' := by
  refine ⟨?_, ?_, ?_⟩
  · intro a ha hholds
    rw [hlog] at ha
    rcases List.mem_append.mp ha with ha | ha
    · rcases hheld a hholds with hold | hnew
      · exact h.gone a ha hold
      · exact Nat.lt_irrefl _ (Nat.lt_of_lt_of_le (h.bound a ha) hnew)
    · exact (hdeleted a ha).2 hholds
  · intro a ha
    rw [hlog] at ha
    refine Nat.lt_of_lt_of_le ?_ htask
    rcases List.mem_append.mp ha with ha | ha
    · exact h.bound a ha
    · exact hok.holds_bound (hdeleted a ha).1
  · intro a
    rw [hlog, List.count_append]
    by_cases ha : .deleted a ∈ l
    · have hnone : w.log.count (.deleted a) = 0 :=
        List.count_eq_zero.mpr fun hmem => h.gone a hmem (hdeleted a ha).1
      rw [hnone, Nat.zero_add]
      exact hcount a
    · rw [List.count_eq_zero.mpr ha]
      exact h.once a

theorem LifetimeOk.keep (hok : ProcessorOk w) (h : LifetimeOk w) (hlog : w'.log = w.log ++ l)
    (hl : ∀ a, .deleted a ∉ l) (hheld : ∀ a, w'.Holds a → w.Holds a ∨ w.nextTask ≤ a.id)
    (htask : w.nextTask ≤ w'.nextTask) : LifetimeOk w' :=
  h.step hok hlog (fun a => by simp [List.count_eq_zero.mpr (hl a)])
    (fun a ha => absurd ha (hl a)) hheld htask

/-- A replaced queue holds no task that the old one does not hold. -/
theorem holds_of_modify {f : TaskQueue → TaskQueue}
    (hlookup : ∀ k₀, w'.queue? k₀ = if k₀ = k then (w.queue? k).map f else w.queue? k₀)
    (hf : ∀ q a, w.queue? k = some q → a ∈ (f q).tasks ∨ (f q).currentTask = some a →
      a ∈ q.tasks ∨ q.currentTask = some a) (a : TaskAtom) (h : w'.Holds a) : w.Holds a := by
  obtain ⟨q, hq, ha⟩ := h
  rw [hlookup] at hq
  split at hq
  next hk =>
    obtain ⟨q₀, hq₀, rfl⟩ := Option.map_eq_some_iff.mp hq
    exact ⟨q₀, hk ▸ hq₀, hf q₀ a hq₀ ha⟩
  · exact ⟨q, hq, ha⟩

theorem pushTask_holds {task : Task} (a : TaskAtom) (h : (w.pushTask k task).Holds a) :
    w.Holds a ∨ w.nextTask ≤ a.id := by
  obtain ⟨q, hq, ha⟩ := h
  rw [queue?_pushTask] at hq
  split at hq
  next hk =>
    obtain ⟨q₀, hq₀, rfl⟩ := Option.map_eq_some_iff.mp hq
    rcases ha with ha | ha
    · rcases List.mem_append.mp ha with ha | ha
      · exact .inl ⟨q₀, hk ▸ hq₀, .inl ha⟩
      · rw [List.mem_singleton.mp ha]
        exact .inr (Nat.le_refl _)
    · exact .inl ⟨q₀, hk ▸ hq₀, .inr ha⟩
  · exact .inl ⟨q, hq, ha⟩

/-- The events of a list of tasks contain one deletion for each of them. -/
theorem count_deleted_flatMap {tasks : List TaskAtom} {f : TaskAtom → List Event}
    (hnodup : tasks.Nodup) (hf : ∀ b a, (f b).count (.deleted a) = if b = a then 1 else 0)
    (a : TaskAtom) : (tasks.flatMap f).count (.deleted a) = if a ∈ tasks then 1 else 0 := by
  induction tasks with
  | nil => simp
  | cons b tasks ih =>
      obtain ⟨hmem, hnodup'⟩ := List.nodup_cons.mp hnodup
      rw [List.flatMap_cons, List.count_append, ih hnodup', hf]
      by_cases hb : b = a
      · subst hb
        simp [hmem]
      · simp [hb, Ne.symm hb]

theorem count_pendingReply (r : Option Task) (reply : Reply) (a : TaskAtom) :
    (pendingReply r reply).count (.deleted a) = 0 :=
  List.count_eq_zero.mpr fun hmem => by simpa using mem_pendingReply hmem

theorem count_deleteEvents (b a : TaskAtom) :
    (w.deleteEvents b).count (.deleted a) = if b = a then 1 else 0 := by
  rw [World.deleteEvents, List.count_cons, count_pendingReply]
  simp

theorem count_cancelEvents (b a : TaskAtom) :
    (w.cancelEvents b).count (.deleted a) = if b = a then 1 else 0 := by
  rw [World.cancelEvents, List.count_cons, List.count_append, count_pendingReply,
    List.count_singleton]
  simp

/-- The tasks of a queue are deleted, and the queue is emptied or removed. -/
theorem LifetimeOk.discard (hok : ProcessorOk w) (h : LifetimeOk w) {q : TaskQueue}
    (hq : w.queue? k = some q) {f : TaskAtom → List Event}
    (hlog : w'.log = w.log ++ q.tasks.flatMap f)
    (hf : ∀ b a, (f b).count (.deleted a) = if b = a then 1 else 0)
    (hheld : ∀ a, w'.Holds a → w.Holds a ∧ a ∉ q.tasks) (htask : w'.nextTask = w.nextTask) :
    LifetimeOk w' := by
  have hold := hok.queues k q hq
  have hcount := count_deleted_flatMap hold.nodup hf
  refine h.step hok hlog ?_ ?_ (fun a ha => .inl (hheld a ha).1) (Nat.le_of_eq htask.symm)
  · intro a
    rw [hcount]
    split <;> omega
  · intro a ha
    have hmem : a ∈ q.tasks := by
      by_contra hnot
      have hzero := hcount a
      rw [if_neg hnot] at hzero
      exact List.count_eq_zero.mp hzero ha
    refine ⟨⟨q, ?_, .inl hmem⟩, fun hheld' => (hheld a hheld').2 hmem⟩
    rw [(hold.owned a hmem).1]
    exact hq

theorem clearQueue_lifetime (hok : ProcessorOk w) (h : LifetimeOk w) {q : TaskQueue}
    (hq : w.queue? k = some q) : LifetimeOk (w.clearQueue k q) := by
  refine h.discard hok hq (clearQueue_log w k q) count_cancelEvents ?_ rfl
  rintro a ⟨q', hq', ha⟩
  rw [queue?_clearQueue] at hq'
  split at hq'
  next hk =>
    rw [hq] at hq'
    obtain rfl := Option.some.inj hq'
    rcases ha with ha | ha
    · simp at ha
    · exact ⟨⟨q, hk ▸ hq, .inr ha⟩, ((hok.queues k q hq).current a ha).2.2.1⟩
  next hk =>
    exact ⟨⟨q', hq', ha⟩, fun hmem => hk ((hok.queues k q hq).owned a hmem).1⟩

theorem dropQueue_lifetime (hok : ProcessorOk w) (h : LifetimeOk w) {q : TaskQueue}
    (hq : w.queue? k = some q) : LifetimeOk (w.dropQueue k q) := by
  refine h.discard hok hq (dropQueue_log w k q) count_deleteEvents ?_ ?_
  · rintro a ⟨q', hq', ha⟩
    rw [queue?_dropQueue] at hq'
    split at hq'
    · simp at hq'
    next hk => exact ⟨⟨q', hq', ha⟩, fun hmem => hk ((hok.queues k q hq).owned a hmem).1⟩
  · unfold World.dropQueue
    cases q.finallyCb <;> rfl

theorem completeTask_lifetime (hok : ProcessorOk w) (h : LifetimeOk w) {a : TaskAtom}
    (ha : w.Current a) : LifetimeOk (w.completeTask a.queueId a) := by
  have hlookup := fun k₀ => queue?_completeTask w a.queueId k₀ a
  have hdeleted : ∀ b, .deleted b ∈ .completed a.queueId ::
      (w.deleteEvents a ++ w.quitEvents a.queueId a) → b = a := by
    intro b hb
    rcases List.mem_cons.mp hb with hb | hb
    · simp at hb
    · rcases List.mem_append.mp hb with hb | hb
      · simpa using mem_deleteEvents hb
      · simpa using mem_quitEvents hb
  have htask : (w.completeTask a.queueId a).nextTask = w.nextTask := by
    unfold World.completeTask
    dsimp only
    split <;> rfl
  refine h.step hok (completeTask_log w _ a) ?_ ?_
    (fun b hb => .inl (holds_of_modify hlookup (fun _ _ _ => ?_) b hb))
    (Nat.le_of_eq htask.symm)
  · intro b
    have hquit : (w.quitEvents a.queueId a).count (.deleted b) = 0 :=
      List.count_eq_zero.mpr fun hmem => by simpa using mem_quitEvents hmem
    rw [List.count_cons, List.count_append, hquit, count_deleteEvents]
    simp
    split <;> omega
  · intro b hb
    obtain rfl := hdeleted b hb
    refine ⟨ha.holds, ?_⟩
    rintro ⟨q', hq', hheld⟩
    rw [hlookup, if_pos rfl] at hq'
    obtain ⟨q, hq, rfl⟩ := Option.map_eq_some_iff.mp hq'
    exact hok.current_not_mem ha hq (by simpa using hheld)
  · rintro (hmem | hnone)
    · exact .inl hmem
    · simp at hnone

theorem Step.lifetime {act : Act} (hok : ProcessorOk w) (h : LifetimeOk w)
    (hstep : Step Elsewhere w act w') : LifetimeOk w' := by
  cases hstep with
  | @addQueue source sink flags callbacks _ =>
      refine h.keep hok (List.append_nil _).symm (by simp) (fun a ha => .inl ?_) (Nat.le_refl _)
      obtain ⟨q, hq, ha⟩ := ha
      have hlookup : (w.addQueue source sink flags callbacks).queue? a.queueId =
          if a.queueId = ⟨w.processor.nextKey, source, sink⟩ then
            some { callbacks := callbacks, flags := flags } else w.queue? a.queueId :=
        Assoc.lookup_insert_eq _ _ _ _
      rw [hlookup] at hq
      split at hq
      · obtain rfl := Option.some.inj hq
        simp at ha
      · exact ⟨q, hq, ha⟩
  | addTask _ _ =>
      exact h.keep hok (l := [_]) rfl (by simp) pushTask_holds (Nat.le_succ _)
  | arm _ _ _ _ =>
      refine h.keep hok (List.append_nil _).symm (by simp) (fun a ha => .inl ?_) (Nat.le_refl _)
      refine holds_of_modify (fun k₀ => queue?_modifyQueue _ _ k₀ _) ?_ a ha
      exact fun _ _ _ hheld => hheld
  | @dispatch k q a rest hq _ htasks =>
      refine h.keep hok (l := [.processed a]) rfl (by simp) (fun b hb => .inl ?_) (Nat.le_refl _)
      refine holds_of_modify (w := w) (fun k₀ => queue?_dispatchTask _ k k₀ a rest) ?_ b hb
      rintro q' b hq' hheld
      obtain rfl := Option.some.inj (hq.symm.trans hq')
      rw [htasks]
      rcases hheld with hmem | hcurrent
      · exact .inl (List.mem_cons_of_mem _ hmem)
      · obtain rfl : a = b := Option.some.inj hcurrent
        exact .inl List.mem_cons_self
  | configure hq hf =>
      refine h.keep hok (List.append_nil _).symm (by simp) (fun a ha => .inl ?_) (Nat.le_refl _)
      refine holds_of_modify (fun k₀ => queue?_modifyQueue w _ k₀ _) ?_ a ha
      intro q' b hq' hheld
      obtain rfl := Option.some.inj (hq.symm.trans hq')
      rwa [hf.1, hf.2.2.1] at hheld
  | defer _ _ _ _ =>
      refine h.keep hok (List.append_nil _).symm (by simp) (fun a ha => .inl ?_) (Nat.le_refl _)
      refine holds_of_modify (fun k₀ => queue?_modifyQueue w _ k₀ _) ?_ a ha
      exact fun _ _ _ hheld => hheld
  | clear hq => exact clearQueue_lifetime hok h hq
  | cancelling _ =>
      exact h.keep hok (l := [_]) rfl (by simp) (fun _ ha => .inl ha) (Nat.le_refl _)
  | complete ha => exact completeTask_lifetime hok h ha
  | remove hq _ _ _ => exact dropQueue_lifetime hok h hq
  | quitting _ =>
      exact h.keep hok (l := [_]) rfl (by simp) (fun _ ha => .inl ha) (Nat.le_refl _)
  | quitNow _ =>
      exact h.keep hok (l := [_, _]) (List.append_assoc _ _ _) (by simp) (fun _ ha => .inl ha)
        (Nat.le_refl _)
  | rehash ht =>
      refine h.keep hok (List.append_nil _).symm (by simp) (fun a ha => .inl ?_) (Nat.le_refl _)
      obtain ⟨q, hq, ha⟩ := ha
      have hlookup : (w.setQueues _).queue? a.queueId = w.queue? a.queueId := AList.perm_lookup ht
      exact ⟨q, hlookup ▸ hq, ha⟩
  | elsewhere he =>
      obtain ⟨es, hlog, hes⟩ := he.log
      refine h.keep hok hlog (fun a ha => ?_) (fun a ha => .inl ?_) (Nat.le_of_eq he.nextTask.symm)
      · exact absurd (hes _ ha) (by simp [Event.isProcessor])
      · obtain ⟨q, hq, ha⟩ := ha
        refine ⟨q, ?_, ha⟩
        show w.processor.taskQueues.lookup _ = _
        rw [← he.processor]
        exact hq

end Lifetime

end RendererService
