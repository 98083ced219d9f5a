import RendererService.Service.FileRequests

/-!
# Clients and what they own

The clients that are watched, the queues that take their requests and the files
that they host are kept in three tables.  A client enters the first before the
others, and leaves all of them at once.
-/

namespace RendererService

open Transition

variable {w w' w'' : World} {a : TaskAtom} {k : TaskQueueKey} {handled : Option Nat}

/-! ## Nobody joins -/

def TaskQueue.Serves (q : TaskQueue) : Prop := q.callbacks = .client ∧ q.deferRemove = false

/-- No client joins or leaves: every queue that serves did so before, with the tasks
that it has, and no request arrives. -/
structure NoneJoins (w w' : World) : Prop where
  watchers : w'.context.watchers = w.context.watchers
  nextTask : w.nextTask ≤ w'.nextTask
  queues : ∀ k q', w'.queue? k = some q' → q'.Serves →
    ∃ q, w.queue? k = some q ∧ q.Serves ∧ ∀ a ∈ q'.tasks, a ∈ q.tasks
  records : ∀ a t', w'.tasks a = some (.client t') →
    ∃ t, w.tasks a = some (.client t) ∧ t'.type = t.type

namespace NoneJoins

theorem of_same (hcontext : w'.context.watchers = w.context.watchers)
    (hprocessor : w'.processor = w.processor) (htasks : w'.tasks = w.tasks)
    (hnext : w'.nextTask = w.nextTask) : NoneJoins w w' where
  watchers := hcontext
  nextTask := Nat.le_of_eq hnext.symm
  queues k q hq hserves := by
    have hsame : w'.queue? k = w.queue? k := congrArg (fun p => p.taskQueues.lookup k) hprocessor
    exact ⟨q, hsame ▸ hq, hserves, fun _ ha => ha⟩
  records a t ht := ⟨t, htasks ▸ ht, rfl⟩

theorem refl : NoneJoins w w := .of_same rfl rfl rfl rfl

theorem trans (h : NoneJoins w w') (h' : NoneJoins w' w'') : NoneJoins w w'' where
  watchers := h'.watchers.trans h.watchers
  nextTask := Nat.le_trans h.nextTask h'.nextTask
  queues k q'' hq'' hserves'' := by
    obtain ⟨q', hq', hserves', htasks'⟩ := h'.queues k q'' hq'' hserves''
    obtain ⟨q, hq, hserves, htasks⟩ := h.queues k q' hq' hserves'
    exact ⟨q, hq, hserves, fun a ha => htasks a (htasks' a ha)⟩
  records a t'' ht'' := by
    obtain ⟨t', ht', htype'⟩ := h'.records a t'' ht''
    obtain ⟨t, ht, htype⟩ := h.records a t' ht'
    exact ⟨t, ht, htype'.trans htype⟩

theorem of_offstage (h : Offstage w w') : NoneJoins w w' :=
  .of_same (by rw [h.context]) h.processor h.tasks h.nextTask

theorem of_touches (h : Touches a w w') : NoneJoins w w' where
  watchers := by rw [h.context]
  nextTask := Nat.le_of_eq h.nextTask.symm
  queues k q hq hserves := ⟨q, by rw [← h.queue?, hq], hserves, fun _ ha => ha⟩
  records b t' hb := by
    by_cases hba : b = a
    · subst hba
      have hrequest := h.request
      rw [hb] at hrequest
      rcases hr : w.tasks b with _ | t | t <;> rw [hr] at hrequest
      · exact hrequest.elim
      · exact ⟨t, rfl, hrequest.1⟩
      · exact hrequest.elim
    · rw [h.others b hba] at hb
      exact ⟨t', hb, rfl⟩

end NoneJoins

/-! ## Steps -/

/-- A queue is replaced by one that serves no more than it did. -/
theorem serves_of_modify {f : TaskQueue → TaskQueue}
    (hlookup : ∀ k₀, w'.queue? k₀ = if k₀ = k then (w.queue? k).map f else w.queue? k₀)
    (hf : ∀ q, w.queue? k = some q → (f q).Serves → q.Serves ∧ ∀ a ∈ (f q).tasks, a ∈ q.tasks)
    (k' : TaskQueueKey) (q' : TaskQueue) (hq' : w'.queue? k' = some q') (hserves : q'.Serves) :
    ∃ q, w.queue? k' = some q ∧ q.Serves ∧ ∀ a ∈ q'.tasks, a ∈ q.tasks := by
  rw [hlookup] at hq'
  split at hq'
  next hk =>
    subst hk
    obtain ⟨q, hq, rfl⟩ := Option.map_eq_some_iff.mp hq'
    exact ⟨q, hq, hf q hq hserves⟩
  · exact ⟨q', hq', hserves, fun _ ha => ha⟩

def Act.adds : Act → Bool
  | .addQueue _ _ _ | .addTask _ _ _ => true
  | _ => false

theorem Step.serves {E : World → World → Prop} {act : Act} (hstep : Step E w act w')
    (hact : act ≠ .elsewhere) (hadd : act.adds = false) (k : TaskQueueKey) (q' : TaskQueue)
    (hq' : w'.queue? k = some q') (hserves : q'.Serves) :
    ∃ q, w.queue? k = some q ∧ q.Serves ∧ ∀ a ∈ q'.tasks, a ∈ q.tasks := by
  revert k q'
  cases hstep with
  | addQueue _ _ _ => simp [Act.adds] at hadd
  | addTask _ _ => simp [Act.adds] at hadd
  | arm _ _ _ _ =>
      exact serves_of_modify (fun k₀ => queue?_modifyQueue _ _ k₀ _)
        fun _ _ hserves => ⟨hserves, fun _ ha => ha⟩
  | @dispatch k q a rest hq _ hcons =>
      refine serves_of_modify (w := w) (fun k₀ => queue?_dispatchTask _ k k₀ a rest)
        fun q' hq' hserves => ⟨hserves, fun b hb => ?_⟩
      obtain rfl := Option.some.inj (hq.symm.trans hq')
      rw [hcons]
      exact List.mem_cons_of_mem a hb
  | configure hq hf =>
      refine serves_of_modify (fun k₀ => queue?_modifyQueue w _ k₀ _) fun q' hq' hserves => ?_
      obtain rfl := Option.some.inj (hq.symm.trans hq')
      obtain ⟨htasks, hcallbacks, -, -, -, hdefer⟩ := hf
      exact ⟨⟨hcallbacks ▸ hserves.1, hdefer ▸ hserves.2⟩, fun a ha => htasks ▸ ha⟩
  | defer _ hq _ hdefer =>
      refine serves_of_modify (fun k₀ => queue?_modifyQueue w _ k₀ _) fun q' hq' hserves => ?_
      obtain rfl := Option.some.inj (hq.symm.trans hq')
      exact ⟨⟨hserves.1, hdefer⟩, fun _ ha => ha⟩
  | @clear k q _ =>
      exact serves_of_modify (fun k₀ => queue?_clearQueue w k k₀ q)
        fun _ _ hserves => ⟨hserves, fun _ ha => absurd ha List.not_mem_nil⟩
  | @complete a _ =>
      exact serves_of_modify (fun k₀ => queue?_completeTask w a.queueId k₀ a)
        fun _ _ hserves => ⟨hserves, fun _ ha => ha⟩
  | @remove k q _ _ _ _ =>
      intro k' q' hq' hserves
      rw [queue?_dropQueue] at hq'
      split at hq'
      · simp at hq'
      · exact ⟨q', hq', hserves, fun _ ha => ha⟩
  | cancelling _ | quitting _ | quitNow _ =>
      exact fun k q' hq' hserves => ⟨q', hq', hserves, fun _ ha => ha⟩
  | @rehash t ht =>
      intro k q' hq' hserves
      have hlookup : (w.setQueues t).queue? k = w.queue? k := AList.perm_lookup ht
      exact ⟨q', hlookup ▸ hq', hserves, fun _ ha => ha⟩
  | elsewhere _ => exact absurd rfl hact

theorem Step.noneJoins {E : World → World → Prop} {act : Act} (hok : ProcessorOk w)
    (hstep : Step E w act w') (hact : act ≠ .elsewhere) (hadd : act.adds = false) :
    NoneJoins w w' := by
  have hf := hstep.footprint hok hact
  have htask : ∀ k deferRemove task, act ≠ .addTask k deferRemove task := by
    rintro k deferRemove task rfl
    simp [Act.adds] at hadd
  obtain ⟨gone, hgone⟩ := hstep.discards hok htask hact
  refine ⟨by rw [hf.context], hf.nextTask, hstep.serves hact hadd, fun a t ht => ?_⟩
  rw [hgone.tasks] at ht
  split at ht
  · simp at ht
  · exact ⟨t, ht, rfl⟩

def World.HasQueue (w : World) (k : TaskQueueKey) : Prop := ∃ q, w.queue? k = some q

theorem adds_within {act : Act} (hok : ProcessorOk w) (hwithin : act.Within w.HasQueue) :
    act.adds = false := by
  have hnew : ∀ source sink, ¬∀ id, w.HasQueue ⟨id, source, sink⟩ := by
    intro source sink hall
    obtain ⟨q, hq⟩ := hall w.processor.nextKey
    exact Nat.lt_irrefl _ (hok.queues _ q hq).key
  cases act with
  | addQueue source sink callbacks => exact absurd hwithin.2 (hnew source sink)
  | addTask k deferRemove task => exact absurd hwithin.1 (hnew k.source k.sink)
  | _ => rfl

theorem noneJoins_of_run (h : (serviceSteps w.HasQueue handled).Run w w')
    (hs : ServiceOk handled w) : NoneJoins w w' := by
  have hboth : ServiceOk handled w' ∧ NoneJoins w w' := by
    refine System.Steps.invariant (I := fun w' => ServiceOk handled w' ∧ NoneJoins w w') h
      ⟨hs, .refl⟩ ?_
    rintro w₁ act w₂ ⟨hs₁, hjoins⟩ ⟨hallowed, hstep⟩
    refine ⟨(serviceSteps w.HasQueue handled).preserved hs₁ hallowed hstep, hjoins.trans ?_⟩
    by_cases hact : act = .elsewhere
    · subst hact
      cases hstep with
      | elsewhere he =>
          obtain ⟨-, a, -, hfocus⟩ := he
          exact .of_touches hfocus.toTouches
    · exact hstep.noneJoins hs₁.processor hact (adds_within hs.processor hallowed.2)
  exact hboth.2

/-! ## Requests -/

/-- A request of `c` may arrive: `c` is watched, a queue of `c` may be added, and the
request is for `c` and is queued with it. -/
structure Joins (c : String) (w w' : World) : Prop where
  watchers : w'.context.watchers = (w.watch c).context.watchers
  nextTask : w.nextTask ≤ w'.nextTask
  queues : ∀ k q', w'.queue? k = some q' → q'.Serves →
    (k.source = c ∨ ∃ q, w.queue? k = some q ∧ q.Serves) ∧
      ∀ a ∈ q'.tasks, w.nextTask ≤ a.id ∨ ∃ q, w.queue? k = some q ∧ q.Serves ∧ a ∈ q.tasks
  records : ∀ a t', w'.tasks a = some (.client t') →
    (∃ t, w.tasks a = some (.client t) ∧ t'.type = t.type) ∨
      a.queueId.source = c ∧ ∀ uri client, t'.type = .hostUri uri client → client = c

theorem watch_same (c : String) (w : World) : (w.watch c).processor = w.processor ∧
    (w.watch c).tasks = w.tasks ∧ (w.watch c).nextTask = w.nextTask := by
  unfold World.watch
  split
  · exact ⟨rfl, rfl, rfl⟩
  · exact ⟨rfl, rfl, rfl⟩

theorem lookupOrAddQueue_adds (c sink : String) (w : World) :
    (lookupOrAddQueue c sink w).2.context = w.context ∧
      (lookupOrAddQueue c sink w).2.tasks = w.tasks ∧
      (lookupOrAddQueue c sink w).2.nextTask = w.nextTask ∧
      ∀ k q, (lookupOrAddQueue c sink w).2.queue? k = some q →
        w.queue? k = some q ∨ k.source = c ∧ q.tasks = [] := by
  unfold lookupOrAddQueue
  split
  · exact ⟨rfl, rfl, rfl, fun _ _ hq => .inl hq⟩
  next hnone =>
    rw [rsuTaskProcessorAddQueue_eq autoStart .client hnone]
    refine ⟨rfl, rfl, rfl, fun k q hq => ?_⟩
    have hlookup : (w.addQueue c sink autoStart .client).queue? k =
        if k = ⟨w.processor.nextKey, c, sink⟩ then
          some { callbacks := .client, flags := autoStart } else w.queue? k :=
      Assoc.lookup_insert_eq _ _ _ _
    rw [hlookup] at hq
    split at hq
    next hk =>
      obtain rfl := Option.some.inj hq
      exact .inr ⟨by rw [hk], rfl⟩
    · exact .inl hq

structure Pushes (a : TaskAtom) (w w' : World) : Prop where
  context : w'.context = w.context
  nextTask : w'.nextTask = w.nextTask + 1
  others : ∀ b, b ≠ a → w'.tasks b = w.tasks b
  queues : ∀ k q', w'.queue? k = some q' → ∃ q, w.queue? k = some q ∧
    q'.callbacks = q.callbacks ∧ q'.deferRemove = q.deferRemove ∧
    ∀ b ∈ q'.tasks, b ∈ q.tasks ∨ b = a

theorem pushes_rsuTaskQueueAddTask {q : TaskQueue} (hq : w.queue? k = some q) (task : Task) :
    Pushes (w.newAtom k) w (rsuTaskQueueAddTask k task w) := by
  have hpush : Pushes (w.newAtom k) w (w.pushTask k task) := by
    refine ⟨rfl, rfl, fun b hb => if_neg hb, fun k' q' hq' => ?_⟩
    rw [queue?_pushTask] at hq'
    split at hq'
    next hk =>
      obtain ⟨q₀, hq₀, rfl⟩ := Option.map_eq_some_iff.mp hq'
      exact ⟨q₀, hk ▸ hq₀, rfl, rfl, fun b hb => by simpa using hb⟩
    · exact ⟨q', hq', rfl, rfl, fun _ hb => .inl hb⟩
  have harm : Pushes (w.newAtom k) w ((w.pushTask k task).idleAddProcess k) := by
    refine ⟨hpush.context, hpush.nextTask, hpush.others, fun k' q' hq' => ?_⟩
    have hmodify : ((w.pushTask k task).idleAddProcess k).queue? k' = _ :=
      queue?_modifyQueue _ k k' _
    rw [hmodify] at hq'
    split at hq'
    next hk =>
      obtain ⟨q₀, hq₀, rfl⟩ := Option.map_eq_some_iff.mp hq'
      subst hk
      exact hpush.queues _ q₀ hq₀
    · exact hpush.queues k' q' hq'
  simp only [rsuTaskQueueAddTask, hq]
  split
  · exact hpush
  · split
    · exact harm
    · exact hpush

theorem joins_prvAddTask {c : String} (sink : String) {n : Nat} {t : ClientTask}
    (h : ServiceOk handled w) (hname : BusSource c)
    (ht : ∀ uri client, t.type = .hostUri uri client → client = c) :
    Joins c w (prvAddTask c n t sink w) := by
  let w₁ := w.watch c
  let w₂ := (lookupOrAddQueue c sink w₁).2
  let k₀ := (lookupOrAddQueue c sink w₁).1
  let w₃ := rsuTaskQueueAddTask k₀ (.client t) w₂
  obtain ⟨hprocessor, htasks₁, hnext₁⟩ := watch_same c w
  obtain ⟨hcontext₂, htasks₂, hnext₂, hqueues₂⟩ := lookupOrAddQueue_adds c sink w₁
  obtain ⟨-, hsource, -, q₀, hq₀, -⟩ :=
    lookupOrAddQueue_serves sink (watch_serviceOk h hname) hname
  have hpushes : Pushes (w₂.newAtom k₀) w₂ w₃ := pushes_rsuTaskQueueAddTask hq₀ _
  have hnext : w₂.nextTask = w.nextTask := hnext₂.trans hnext₁
  have hqueue₁ : ∀ k, w₁.queue? k = w.queue? k := fun k =>
    congrArg (fun p => p.taskQueues.lookup k) hprocessor
  have hid : w.nextTask ≤ (w₂.newAtom k₀).id := Nat.le_of_eq hnext.symm
  have hwatchers : w₃.context.watchers = w₁.context.watchers := by
    rw [hpushes.context, show w₂.context = w₁.context from hcontext₂]
  rw [prvAddTask_eq]
  show Joins c w (w₃.emit (.wrapped n (w₂.newAtom k₀)))
  refine ⟨hwatchers, ?_, fun k q₃ hq₃ hserves => ?_, fun a t' ht' => ?_⟩
  · show w.nextTask ≤ w₃.nextTask
    rw [hpushes.nextTask]
    omega
  · obtain ⟨q₂, hq₂, hcallbacks, hdefer, hmem⟩ := hpushes.queues k q₃ hq₃
    have hserves₂ : q₂.Serves := ⟨hcallbacks ▸ hserves.1, hdefer ▸ hserves.2⟩
    rcases hqueues₂ k q₂ hq₂ with hold | ⟨hc, hempty⟩
    · rw [hqueue₁] at hold
      refine ⟨.inr ⟨q₂, hold, hserves₂⟩, fun a ha => ?_⟩
      rcases hmem a ha with hin | rfl
      · exact .inr ⟨q₂, hold, hserves₂, hin⟩
      · exact .inl hid
    · refine ⟨.inl hc, fun a ha => ?_⟩
      rcases hmem a ha with hin | rfl
      · rw [hempty] at hin
        exact absurd hin List.not_mem_nil
      · exact .inl hid
  · have hrecord : w₃.tasks a = some (.client t') := ht'
    by_cases ha : a = w₂.newAtom k₀
    · have hnew : w₃.tasks (w₂.newAtom k₀) = some (.client t) :=
        tasks_rsuTaskQueueAddTask hq₀ (.client t)
      rw [ha, hnew, Option.some.injEq, Task.client.injEq] at hrecord
      subst hrecord
      exact .inr ⟨by rw [ha]; exact hsource, ht⟩
    · rw [hpushes.others a ha, htasks₂, htasks₁] at hrecord
      exact .inl ⟨t', hrecord, rfl⟩

/-! ## Work of the processor -/

theorem hasQueue_of_mem (hk : k ∈ w.processor.taskQueues.keys) : w.HasQueue k :=
  Assoc.mem_keys_iff.mp hk

theorem noneJoins_emit (w : World) (e : Event) : NoneJoins w (w.emit e) := .of_same rfl rfl rfl rfl

theorem noneJoins_setLoop (w : World) (l : MainLoop) : NoneJoins w (w.setLoop l) :=
  .of_same rfl rfl rfl rfl

theorem noneJoins_crash (w : World) (f : Fault) : NoneJoins w (w.crash f) :=
  .of_same rfl rfl rfl rfl

theorem noneJoins_newInvocation (w : World) : NoneJoins w w.newInvocation.2 :=
  .of_same rfl rfl rfl rfl

theorem noneJoins_setQuitting (h : ServiceOk handled w) :
    NoneJoins w (rsuTaskProcessorSetQuitting taskDeleteCb taskCancelCb w) :=
  noneJoins_of_run (rsuTaskProcessorSetQuitting_run (D := serviceSteps w.HasQueue handled)
    serviceSteps_cancels (fun _ hk => hasQueue_of_mem hk) h (fun _ => ⟨trivial, trivial⟩)
      fun _ => ⟨trivial, trivial⟩) h

theorem noneJoins_cancelQueue (k : TaskQueueKey) (h : ServiceOk handled w) :
    NoneJoins w (rsuTaskProcessorCancelQueue taskDeleteCb taskCancelCb k w) := by
  cases hq : w.queue? k with
  | none =>
      simp only [rsuTaskProcessorCancelQueue, hq]
      exact noneJoins_crash w _
  | some q =>
      exact noneJoins_of_run (rsuTaskProcessorCancelQueue_run
        (D := serviceSteps w.HasQueue handled) serviceSteps_cancels h ⟨q, hq⟩ hq) h

theorem noneJoins_removeQueuesForSink (sink : String) (h : ServiceOk handled w) :
    NoneJoins w (rsuTaskProcessorRemoveQueuesForSink taskDeleteCb taskCancelCb sink w) :=
  noneJoins_of_run (rsuTaskProcessorRemoveQueuesForSink_run
    (D := serviceSteps w.HasQueue handled) serviceSteps_cancels sink h
      fun _ hk _ => hasQueue_of_mem hk) h

theorem noneJoins_removeQueuesForSource (source : String) (h : ServiceOk handled w) :
    NoneJoins w (rsuTaskProcessorRemoveQueuesForSource taskDeleteCb taskCancelCb source w) :=
  noneJoins_of_run (rsuTaskProcessorRemoveQueuesForSource_run
    (D := serviceSteps w.HasQueue handled) serviceSteps_cancels source h
      fun _ hk _ => hasQueue_of_mem hk) h

/-! ## Departures -/

/-- The client `c` leaves: it is not watched any more, and no queue serves it. -/
structure Leaves (c : String) (w w' : World) : Prop where
  watchers : w'.context.watchers = w.context.watchers.erase c
  nextTask : w.nextTask ≤ w'.nextTask
  queues : ∀ k q', w'.queue? k = some q' → q'.Serves → k.source ≠ c ∧
    ∃ q, w.queue? k = some q ∧ q.Serves ∧ ∀ a ∈ q'.tasks, a ∈ q.tasks
  records : ∀ a t', w'.tasks a = some (.client t') →
    ∃ t, w.tasks a = some (.client t) ∧ t'.type = t.type

theorem Leaves.trans {c : String} (h : Leaves c w w') (h' : NoneJoins w' w'') :
    Leaves c w w'' where
  watchers := h'.watchers.trans h.watchers
  nextTask := Nat.le_trans h.nextTask h'.nextTask
  queues k q'' hq'' hserves'' := by
    obtain ⟨q', hq', hserves', htasks'⟩ := h'.queues k q'' hq'' hserves''
    obtain ⟨hne, q, hq, hserves, htasks⟩ := h.queues k q' hq' hserves'
    exact ⟨hne, q, hq, hserves, fun a ha => htasks a (htasks' a ha)⟩
  records a t'' ht'' := by
    obtain ⟨t', ht', htype'⟩ := h'.records a t'' ht''
    obtain ⟨t, ht, htype⟩ := h.records a t' ht'
    exact ⟨t, ht, htype'.trans htype⟩

theorem NoneJoins.leaves {c : String} (h : NoneJoins w w') (h' : Leaves c w' w'') :
    Leaves c w w'' where
  watchers := h'.watchers.trans (by rw [h.watchers])
  nextTask := Nat.le_trans h.nextTask h'.nextTask
  queues k q'' hq'' hserves'' := by
    obtain ⟨hne, q', hq', hserves', htasks'⟩ := h'.queues k q'' hq'' hserves''
    obtain ⟨q, hq, hserves, htasks⟩ := h.queues k q' hq' hserves'
    exact ⟨hne, q, hq, hserves, fun a ha => htasks a (htasks' a ha)⟩
  records a t'' ht'' := by
    obtain ⟨t', ht', htype'⟩ := h'.records a t'' ht''
    obtain ⟨t, ht, htype⟩ := h.records a t' ht'
    exact ⟨t, ht, htype'.trans htype⟩

theorem leaves_prvRemoveClient {c : String} (h : ServiceOk handled w) (hname : BusSource c) :
    Leaves c w (prvRemoveClient c w) := by
  let w₁ := rsuTaskProcessorRemoveQueuesForSource taskDeleteCb taskCancelCb c w
  have hremoved : NoneJoins w w₁ := noneJoins_removeQueuesForSource c h
  have hmarked : ∀ k q, w₁.queue? k = some q → k.source = c → q.deferRemove = true := by
    intro k q hq hsource
    refine freeQueues_marks h.processor (fun k => k.source = c) (fun k q hq hhit => ?_)
      (by simpa using hsource) hq
    have hk : k.source = c := by simpa using hhit
    exact h.outer.keys.client_of_bus hq (hk ▸ hname)
  have hleaves : Leaves c w (w.dropClient c) := by
    refine ⟨congrArg (List.erase · c) hremoved.watchers, hremoved.nextTask, ?_, hremoved.records⟩
    intro k q' hq' hserves
    refine ⟨fun hsource => ?_, hremoved.queues k q' hq' hserves⟩
    have hdefer := hmarked k q' hq' hsource
    simp [hserves.2] at hdefer
  rw [prvRemoveClient_eq]
  split
  · exact hleaves.trans (noneJoins_setQuitting (dropClient_serviceOk c h))
  · exact hleaves

/-! ## Every step -/

def Input.departs : Input → Option String
  | .managerCall sender .release => some sender.name
  | .lostClient name => some name
  | _ => none

inductive Moves (i : Input) (w w' : World) : Prop
  | none : i.departs = .none → NoneJoins w w' → Moves i w w'
  | joins (c : String) : i.departs = .none → Joins c w w' → Moves i w w'
  | leaves (c : String) : i.departs = some c → Leaves c w w' → Moves i w w'

theorem NoneJoins.joins {c : String} (h : NoneJoins w w') (h' : Joins c w' w'') :
    Joins c w w'' where
  watchers := by
    rw [h'.watchers, World.watch, World.watch, h.watchers]
    split
    · exact h.watchers
    · rfl
  nextTask := Nat.le_trans h.nextTask h'.nextTask
  queues k q'' hq'' hserves'' := by
    obtain ⟨hsource, htasks⟩ := h'.queues k q'' hq'' hserves''
    refine ⟨?_, fun a ha => ?_⟩
    · rcases hsource with hc | ⟨q', hq', hserves'⟩
      · exact .inl hc
      · obtain ⟨q, hq, hserves, -⟩ := h.queues k q' hq' hserves'
        exact .inr ⟨q, hq, hserves⟩
    · rcases htasks a ha with hnew | ⟨q', hq', hserves', hin⟩
      · exact .inl (Nat.le_trans h.nextTask hnew)
      · obtain ⟨q, hq, hserves, hold⟩ := h.queues k q' hq' hserves'
        exact .inr ⟨q, hq, hserves, hold a hin⟩
  records a t'' ht'' := by
    rcases h'.records a t'' ht'' with ⟨t', ht', htype'⟩ | hnew
    · obtain ⟨t, ht, htype⟩ := h.records a t' ht'
      exact .inl ⟨t, ht, htype'.trans htype⟩
    · exact .inr hnew

theorem moves_withDeviceId {i : Input} {object : String} (sender : BusName)
    {f : Nat → ClientTask} (h : ServiceOk none w) (hi : i.departs = none)
    (hf : ∀ n uri client, (f n).type = .hostUri uri client → client = sender.name) :
    Moves i w (withDeviceId object
      (fun invocation => prvAddTask sender.name invocation (f invocation)) w) := by
  have harrive := noneJoins_newInvocation w
  rcases withDeviceId_cases object (fun invocation => prvAddTask sender.name invocation
    (f invocation)) w with heq | ⟨error, heq⟩
  · rw [heq]
    have hadd := joins_prvAddTask object (n := w.context.nextInvocation)
      (newInvocation_serviceOk h) sender.unique (hf w.context.nextInvocation)
    exact .joins sender.name hi (harrive.joins hadd)
  · rw [heq]
    exact .none hi (harrive.trans (noneJoins_emit _ _))

theorem moves_managerCall (sender : BusName) (method : ManagerMethod) (h : ServiceOk none w) :
    Moves (.managerCall sender method) w (prvRsuMethodCall sender.name method w) := by
  have harrive := noneJoins_newInvocation w
  have hok := newInvocation_serviceOk h
  cases method with
  | release =>
      have hleaves := leaves_prvRemoveClient (newInvocation_serviceOk h) sender.unique
      exact .leaves sender.name rfl ((harrive.leaves hleaves).trans (noneJoins_emit _ _))
  | getVersion =>
      have hadd := joins_prvAddTask rsuSink (n := w.context.nextInvocation)
        (t := rsuTaskGetVersionNew w.context.nextInvocation) hok sender.unique
        fun uri client heq => by simp [rsuTaskGetVersionNew] at heq
      exact .joins sender.name rfl (harrive.joins hadd)
  | getServers =>
      have hadd := joins_prvAddTask rsuSink (n := w.context.nextInvocation)
        (t := rsuTaskGetServersNew w.context.nextInvocation) hok sender.unique
        fun uri client heq => by simp [rsuTaskGetServersNew] at heq
      exact .joins sender.name rfl (harrive.joins hadd)

theorem noneJoins_cancelCall (sender : BusName) (object : String) (h : ServiceOk none w) :
    NoneJoins w (prvRendererDeviceMethodCall sender.name object w) := by
  have harrive := noneJoins_newInvocation w
  rcases prvRendererDeviceMethodCall_cases sender.name object w with ⟨k, -, heq⟩ | ⟨reply, heq⟩
  · have hcancel := noneJoins_cancelQueue k (newInvocation_serviceOk h)
    rw [heq]
    exact harrive.trans (hcancel.trans (noneJoins_emit _ _))
  · rw [heq]
    exact harrive.trans (noneJoins_emit _ _)

/-! ### Discovery -/

def World.ServiceKey (w : World) (k : TaskQueueKey) : Prop :=
  ∀ q, w.queue? k = some q → q.callbacks = .service

theorem noneJoins_modifyService {f : TaskQueue → TaskQueue} (hk : w.ServiceKey k)
    (hf : ∀ q, (f q).callbacks = q.callbacks) :
    NoneJoins w (w.modifyQueue k f) ∧ (w.modifyQueue k f).ServiceKey k := by
  refine ⟨⟨rfl, Nat.le_refl _, ?_, fun _ t ht => ⟨t, ht, rfl⟩⟩, fun q' hq' => ?_⟩
  · refine serves_of_modify (fun k₀ => queue?_modifyQueue w k k₀ f) fun q hq hserves => ?_
    have hservice := (hf q).symm.trans hserves.1
    rw [hk q hq] at hservice
    simp at hservice
  · rw [queue?_modifyQueue, if_pos rfl] at hq'
    obtain ⟨q, hq, rfl⟩ := Option.map_eq_some_iff.mp hq'
    rw [hf, hk q hq]

theorem noneJoins_pushService (hk : w.ServiceKey k) (t : ServiceTask) :
    NoneJoins w (w.pushTask k (.service t)) ∧ (w.pushTask k (.service t)).ServiceKey k := by
  let w₁ : World := { w.setTask (w.newAtom k) (some (.service t)) with nextTask := w.nextTask + 1 }
  have hset : NoneJoins w w₁ := by
    refine ⟨rfl, Nat.le_succ _, fun k q hq hserves => ⟨q, hq, hserves, fun _ ha => ha⟩,
      fun a t' ht' => ?_⟩
    have hrecord : w₁.tasks a =
        if a = w.newAtom k then some (.service t) else w.tasks a := rfl
    rw [hrecord] at ht'
    split at ht'
    · simp at ht'
    · exact ⟨t', ht', rfl⟩
  obtain ⟨hmodify, hkey⟩ := noneJoins_modifyService (w := w₁.emit (.added (w.newAtom k)))
    (f := fun q => { q with tasks := q.tasks ++ [w.newAtom k] }) hk fun _ => rfl
  exact ⟨hset.trans ((noneJoins_emit w₁ _).trans hmodify), hkey⟩

theorem noneJoins_queueConstruction (hk : w.ServiceKey k) (d : Nat)
    (proxy : Option ServiceProxy) : NoneJoins w (w.queueConstruction k d proxy) := by
  obtain ⟨hfirst, hk₁⟩ := noneJoins_pushService hk
    { callback := some .prvGetProtocolInfoCb, tAction := .prvGetProtocolInfo, device := d, proxy }
  obtain ⟨hsecond, hk₂⟩ := noneJoins_pushService hk₁
    { callback := none, tAction := .prvSubscribe, device := d, proxy }
  obtain ⟨hthird, hk₃⟩ := noneJoins_pushService hk₂
    { callback := none, tAction := .prvDeclare, device := d, proxy }
  have harm := (noneJoins_modifyService (f := fun q => { q with idleId := w.loop.nextSource })
    hk₃ fun _ => rfl).1
  exact hfirst.trans (hsecond.trans (hthird.trans (harm.trans (noneJoins_setLoop _ _))))

theorem noneJoins_prvServerConstruct (udn ipAddress : String) (offered : DeviceServices)
    (h : ServiceOk handled w) : NoneJoins w (prvServerConstruct udn ipAddress offered w) := by
  let w₁ := w.openConstruction udn ipAddress offered
  have hgains := gains_openConstruction (w := w) udn ipAddress offered
  have hqueue : ∀ k, w₁.queue? k =
      if k = w.newKey then some (constructionQueue (w.newCt udn)) else w.queue? k :=
    queue?_openConstruction w udn ipAddress offered
  have hopen : NoneJoins w w₁ := by
    have hsame : (w.blankConstruction udn).context = w.context ∧
        (w.blankConstruction udn).tasks = w.tasks ∧
        (w.blankConstruction udn).nextTask = w.nextTask := ⟨rfl, rfl, rfl⟩
    refine ⟨by rw [hgains.context, hsame.1], ?_, fun k q' hq' hserves => ?_, fun a t ht => ?_⟩
    · rw [hgains.nextTask, hsame.2.2]
    · rw [hqueue] at hq'
      split at hq'
      · obtain rfl := Option.some.inj hq'
        exact absurd hserves.1 (by simp [constructionQueue])
      · exact ⟨q', hq', hserves, fun _ ha => ha⟩
    · rw [hgains.tasks, hsame.2.1] at ht
      exact ⟨t, ht, rfl⟩
  have hservice : w₁.ServiceKey w.newKey := by
    intro q hq
    rw [hqueue, if_pos rfl] at hq
    obtain rfl := Option.some.inj hq
    rfl
  have hqueued := hopen.trans (noneJoins_queueConstruction hservice w.upnp.counter
    (gupnpDeviceInfoGetServices w.gupnp.nextContext offered).cmProxy)
  rw [prvServerConstruct_eq udn ipAddress offered h.outer.keys.newKey]
  change NoneJoins w ((w.openConstruction udn ipAddress offered).queueConstruction w.newKey
    w.upnp.counter _) at hqueued
  revert hqueued
  generalize (w.openConstruction udn ipAddress offered).queueConstruction w.newKey
    w.upnp.counter _ = w₂
  intro hqueued
  exact hqueued.trans (.of_same rfl rfl rfl rfl)

theorem noneJoins_prvServerAvailableCb (udn ipAddress : String) (offered : DeviceServices)
    (h : ServiceOk handled w) : NoneJoins w (prvServerAvailableCb udn ipAddress offered w) := by
  cases arrival udn ipAddress offered w with
  | unknown _ heq =>
      rw [heq]
      exact noneJoins_prvServerConstruct udn ipAddress offered h
  | dangling _ _ heq =>
      rw [heq]
      exact noneJoins_crash w _
  | present _ _ _ heq =>
      rw [heq]
      exact .refl
  | extended _ hdev _ heq =>
      rw [heq]
      exact .of_offstage
        (gains_rsuDeviceAppendNewContext ipAddress offered (core_of_device hdev)).toOffstage

theorem noneJoins_prvServerLost (udn : String) (d : Nat) (p : String) (uc : Option DeviceNewCt)
    (h : ServiceOk handled w) : NoneJoins w (prvServerLost udn d p uc w) := by
  cases uc with
  | none =>
      let w₁ := prvLostMediaServer p w
      have hemit : ServiceOk handled (w.emit (.lostServer p)) := h.backstage (backstage_emit rfl)
      have hlost : NoneJoins w w₁ :=
        (noneJoins_emit w _).trans (noneJoins_removeQueuesForSink p hemit)
      have hmap : NoneJoins w₁ (w₁.setUdnMap (w₁.upnp.serverUdnMap.erase udn)) :=
        .of_same rfl rfl rfl rfl
      exact hlost.trans (hmap.trans (.of_offstage (offstage_rsuDeviceDelete d _)))
  | some ct => exact noneJoins_cancelQueue ct.queueId h

theorem noneJoins_prvServerUnavailableCb (udn ipAddress : String) (h : ServiceOk handled w) :
    NoneJoins w (prvServerUnavailableCb udn ipAddress w) := by
  have hremoved : ∀ d dev context, NoneJoins w (w.removeContext d dev context ipAddress) :=
    fun d dev context => .of_offstage (frees_departing w d dev context ipAddress).toOffstage
  cases departure udn ipAddress w with
  | ignored _ heq =>
      rw [heq]
      exact .refl
  | dangling _ _ heq =>
      rw [heq]
      exact noneJoins_crash w _
  | @last d uc dev context hdeparting _ heq =>
      rw [heq]
      exact (hremoved d dev context).trans
        (noneJoins_prvServerLost udn d dev.path uc (h.departing hdeparting))
  | @later d _ dev context _ _ _ heq =>
      rw [heq]
      exact (hremoved d dev context).trans (.of_offstage (cosmetic_subscribeLater d).toOffstage)
  | other _ _ _ heq =>
      rw [heq]
      exact hremoved _ _ _

theorem noneJoins_prvTaskQueueFinallyCb (q : TaskQueue) (w : World) :
    NoneJoins w (prvTaskQueueFinallyCb q w) := by
  unfold prvTaskQueueFinallyCb
  split
  next ct _ =>
    let w₁ := w.emit (.chainEnd q.cancelled ct.udn)
    unfold prvDeviceChainEnd
    dsimp only
    split
    · have hmap : NoneJoins w (w₁.setUcMap (w₁.upnp.serverUcMap.erase ct.udn)) :=
        .of_same rfl rfl rfl rfl
      exact hmap.trans (.of_offstage (offstage_rsuDeviceDelete ct.device _))
    · have hinsert : NoneJoins w (serverUdnMapInsert ct.udn ct.device w₁) := by
        have hmap : NoneJoins w (w₁.setUdnMap (w₁.upnp.serverUdnMap.insert ct.udn ct.device)) :=
          .of_same rfl rfl rfl rfl
        unfold serverUdnMapInsert
        split
        · exact hmap.trans (.of_offstage (offstage_rsuDeviceDelete _ _))
        · exact hmap
      unfold World.withDevice
      split
      · exact hinsert.trans (.of_same rfl rfl rfl rfl)
      · exact .of_same rfl rfl rfl rfl
  · exact noneJoins_crash w _

/-! ### Inputs -/

theorem propsMethod_client (method : PropsMethod) (object : String) (n : Nat)
    (uri client sender : String) (h : (method.new object n).type = .hostUri uri client) :
    client = sender := by
  cases method <;> cases h

theorem rsuDeviceMethod_client (method : RsuDeviceMethod) (n : Nat) (uri client sender : String)
    (h : (method.new n).type = .hostUri uri client) : client = sender := by
  cases method <;> cases h

theorem playerMethod_client (method : PlayerMethod) (object : String) (n : Nat)
    (uri client sender : String) (h : (method.new object n).type = .hostUri uri client) :
    client = sender := by
  cases method <;> cases h

theorem pushHostMethod_client (method : PushHostMethod) (sender object : String) (n : Nat)
    (uri client : String) (h : (method.new sender object n).type = .hostUri uri client) :
    client = sender := by
  cases method with
  | hostFile file =>
      cases h
      rfl
  | removeFile file => cases h

theorem exec_moves {i : Input} (h : ServiceOk none w) (henabled : i.enabled w = true)
    (hi : i ≠ .contextFree) : Moves i w (exec w i) := by
  have hloop : ∀ l : MainLoop, NoneJoins w (w.setLoop l) := noneJoins_setLoop w
  cases i with
  | contextFree => exact absurd rfl hi
  | managerCall sender method => exact moves_managerCall sender method h
  | propsCall sender object method =>
      exact moves_withDeviceId sender (f := fun n => method.new object n) h rfl
        fun n uri client => propsMethod_client method object n uri client _
  | rsuDeviceCall sender object method =>
      exact moves_withDeviceId sender (f := fun n => method.new n) h rfl
        fun n uri client => rsuDeviceMethod_client method n uri client _
  | playerCall sender object method =>
      exact moves_withDeviceId sender (f := fun n => method.new object n) h rfl
        fun n uri client => playerMethod_client method object n uri client _
  | pushHostCall sender object method =>
      exact moves_withDeviceId sender (f := fun n => method.new sender.name object n) h rfl
        fun n uri client => pushHostMethod_client method sender.name object n uri client
  | cancelCall sender object => exact .none rfl (noneJoins_cancelCall sender object h)
  | lostClient name =>
      have hwatched : name ∈ w.context.watchers := by simp_all [Input.enabled]
      exact .leaves name rfl (leaves_prvRemoveClient h (h.outer.keys.watchers name hwatched))
  | available udn ipAddress offered =>
      exact .none rfl (noneJoins_prvServerAvailableCb udn ipAddress offered h)
  | unavailable udn ipAddress =>
      exact .none rfl (noneJoins_prvServerUnavailableCb udn ipAddress h)
  | finallyIdle q => exact .none rfl ((hloop _).trans (noneJoins_prvTaskQueueFinallyCb q _))
  | rehash queues devices =>
      have hperm : queues.entries.Perm w.processor.taskQueues.entries := by
        simp_all [Input.enabled, List.isPerm_iff]
      refine .none rfl ⟨rfl, Nat.le_refl _, fun k q hq hserves => ?_, fun a t ht => ⟨t, ht, rfl⟩⟩
      have hlookup : queues.lookup k = w.queue? k := AList.perm_lookup hperm
      exact ⟨q, hlookup ▸ hq, hserves, fun _ ha => ha⟩
  | reply action env =>
      have hmem : action ∈ w.gupnp.actions := by simp_all [Input.enabled]
      obtain ⟨⟨q, hq, -⟩, -⟩ := h.outer.actions.awaited action hmem
      have hrun : (serviceSteps w.HasQueue none).Run w (actionReply action env w) :=
        actionReply_serves h hmem ⟨q, hq⟩ env
      exact .none rfl (noneJoins_of_run hrun h)
  | processIdle id k env =>
      have hmem : (id, k) ∈ w.loop.processIdles := by simp_all [Input.enabled]
      obtain ⟨q, -, -, hq, -⟩ := prvTaskQueueProcessTask_dispatch env h.processor hmem
      have hqueue : w.HasQueue k := ⟨q, hq⟩
      exact .none rfl (noneJoins_of_run (prvTaskQueueProcessTask_serves env h hqueue hmem) h)
  | completeIdle a =>
      have hmem : a ∈ w.loop.completeIdles := by simp_all [Input.enabled]
      obtain ⟨⟨q, hq, -⟩, -⟩ := h.outer.completions.pending a hmem
      have hqueue : w.HasQueue a.queueId := ⟨q, hq⟩
      exact .none rfl (noneJoins_of_run (rsuAsyncTaskComplete_serves h hqueue hmem) h)
  | subscribeTimer id d =>
      exact .none rfl ((hloop _).trans
        (.of_offstage (cosmetic_prvSubscribeToServiceChanges d).toOffstage))
  | notify proxy => exact .none rfl (.of_offstage (cosmetic_foldl_notify _ w).toOffstage)
  | subscriptionLost proxy =>
      exact .none rfl (.of_offstage (cosmetic_subscriptionLost proxy w).toOffstage)
  | retryTimer r =>
      exact .none rfl ((hloop _).trans
        (.of_offstage (cosmetic_prvReEnableSubscription r).toOffstage))
  | soupRequest mapped deviceIf msg => exact .none rfl (.of_same rfl rfl rfl rfl)
  | soupFinished t =>
      refine .none rfl ?_
      show NoneJoins w (soupFinished t w)
      unfold soupFinished
      split
      · exact .of_same rfl rfl rfl rfl
      · exact noneJoins_crash w _
  | quitIdle =>
      have hquit : NoneJoins w
          { w.setLoop { w.loop with quitIdles := w.loop.quitIdles - 1 } with
            context := { w.context with ownerId := false } } := .of_same rfl rfl rfl rfl
      exact .none rfl (hquit.trans ((NoneJoins.of_offstage
        (cosmetic_rsuUpnpUnsubscribe _).toOffstage).trans (.of_same rfl rfl rfl rfl)))
  | quitTimer => exact .none rfl (.of_same rfl rfl rfl rfl)
  | signal => exact .none rfl ((noneJoins_setQuitting h).trans (.of_same rfl rfl rfl rfl))
  | nameLost => exact .none rfl (noneJoins_setQuitting h)

end RendererService
