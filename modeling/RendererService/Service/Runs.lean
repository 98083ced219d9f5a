import RendererService.Service.Deletion
import RendererService.Service.Inputs
import RendererService.Model.Schedules

/-!
# Runs of the service

The invariant holds in every state that the service reaches, up to the return of
`prv_rsu_context_free`.  Two facts about requests follow: the completion of a
task is scheduled and run at most once, and its invocation is answered at most
once, and exactly once unless the task was still current when the processor was
freed.
-/

namespace RendererService

open Transition

variable {w w' : World} {neverQuit : Bool} {is : List Input}

/-! ## Reachable states -/

theorem start_newProcessor (neverQuit : Bool) : (start neverQuit).NewProcessor :=
  ⟨rfl, rfl, rfl, rfl, Nat.one_pos, rfl⟩

theorem start_serviceOk (neverQuit : Bool) : ServiceOk none (start neverQuit) := by
  have hnone : ∀ k, (start neverQuit).queue? k = none := fun k => AList.lookup_empty k
  have hnew := start_newProcessor neverQuit
  have hcore : ∀ d, (start neverQuit).core d = none := fun _ => rfl
  refine ⟨hnew.ok, ⟨?_, ?_, ?_⟩, ⟨?_, ?_, ?_, ?_, ?_, ?_, ?_, ?_⟩⟩
  · exact fun a ha => absurd ha (List.not_mem_nil)
  · exact fun a ha => absurd ha (List.not_mem_nil)
  · exact fun a => Nat.zero_le _
  · exact ⟨fun d c x p hd => absurd (hcore d ▸ hd) (by simp),
      fun d c x p hd => absurd (hcore d ▸ hd) (by simp),
      fun d c x hd => absurd (hcore d ▸ hd) (by simp),
      fun d d' c c' x x' hd => absurd (hcore d ▸ hd) (by simp),
      fun d c hd => absurd (hcore d ▸ hd) (by simp),
      fun d c hd => absurd (hcore d ▸ hd) (by simp)⟩
  · exact ⟨fun act hact => absurd hact List.not_mem_nil,
      fun act hact => absurd hact List.not_mem_nil, List.nodup_nil,
      fun act hact => absurd hact List.not_mem_nil,
      fun a id ⟨r, hr, _⟩ => absurd hr (by simp [start])⟩
  · exact ⟨fun a ha => absurd ha List.not_mem_nil, fun a => rfl, fun a => Nat.zero_le _,
      fun a t ht => absurd ht (by simp [start]), fun a ha => absurd ha List.not_mem_nil,
      Log.before_nil⟩
  · exact ⟨fun k q hq => absurd ((hnone k).symm.trans hq) (by simp),
      fun name hname => absurd hname List.not_mem_nil⟩
  · exact ⟨fun a n hn => absurd hn List.not_mem_nil, fun a b n hn => absurd hn List.not_mem_nil,
      List.nodup_nil, fun n hn => absurd hn List.not_mem_nil,
      fun n a hmem => absurd hmem List.not_mem_nil, by simp⟩
  · exact fun a r hr => absurd hr (by simp [start])
  · exact fun a t ht => absurd ht (by simp [start])
  · exact fun k => by simp [start]

theorem exec_late {udn ipAddress : String} (hlate : LostTooLate w udn ipAddress)
    (hfault : w.fault = none) :
    ∃ k, (exec w (.unavailable udn ipAddress)).fault = some (.deadQueueKey k) := by
  obtain ⟨d, ct, dev, context, hfind, hdev, hcontext, hlast, hgone⟩ := hlate
  let w₁ := w.removeContext d dev context ipAddress
  have hqueue : w₁.queue? ct.queueId = none := by
    unfold World.queue?
    rw [(frees_departing w d dev context ipAddress).processor]
    exact hgone
  have heq : exec w (.unavailable udn ipAddress) = w₁.crash (.deadQueueKey ct.queueId) := by
    refine (prvServerUnavailableCb_departing ⟨hfind, hdev, hcontext⟩).trans ?_
    rw [if_pos hlast]
    simp only [prvServerLost, rsuTaskProcessorCancelQueue]
    rw [hqueue]
  have hbefore : w₁.fault = none := (fault_prvRsuContextDelete (if_pos rfl) context).trans hfault
  exact ⟨ct.queueId, by rw [heq, World.crash, hbefore]; rfl⟩

theorem stepFn_eq {i : Input} (h : stepFn w i = some w') :
    i.enabled w = true ∧ (exec w i).fault = none ∧ w' = exec w i := by
  unfold stepFn at h
  split at h
  next hstep => exact ⟨hstep.1, hstep.2, (Option.some.inj h).symm⟩
  · simp at h

theorem service_fault (h : (service neverQuit).Reaches is w) : w.fault = none := by
  refine h.invariant (I := fun w => w.fault = none) (fun w hw => ?_) fun w i w' _ hstep => ?_
  · obtain rfl : w = start neverQuit := hw
    rfl
  · obtain ⟨-, hfault, rfl⟩ := stepFn_eq hstep
    exact hfault

theorem enabled_freed {i : Input} (h : i.enabled w = true) : w.context.freed = false := by
  unfold Input.enabled at h
  simpa using (Bool.and_eq_true_iff.mp h).1

theorem ne_contextFree {i : Input} (h : (exec w i).context.freed = false) : i ≠ .contextFree := by
  rintro rfl
  simp [exec, prvRsuContextFree] at h

theorem stepFn_serviceOk {i : Input} (h : ServiceOk none w) (hfault : w.fault = none)
    (hstep : stepFn w i = some w') (hfree : i ≠ .contextFree) : ServiceOk none w' := by
  obtain ⟨henabled, hfault', rfl⟩ := stepFn_eq hstep
  refine exec_serviceOk h henabled hfree ?_
  rintro udn ipAddress rfl hlate
  obtain ⟨k, hk⟩ := exec_late hlate hfault
  rw [hfault'] at hk
  simp at hk

/-- A step of the service that is not its last. -/
structure Performs (w : World) (i : Input) : Prop where
  enabled : i.enabled w = true
  fault : (exec w i).fault = none
  last : i ≠ .contextFree

namespace Performs

variable {i : Input}

theorem of_stepFn (hstep : stepFn w i = some w') (hlast : i ≠ .contextFree) :
    Performs w i ∧ w' = exec w i := by
  obtain ⟨henabled, hfault, rfl⟩ := stepFn_eq hstep
  exact ⟨⟨henabled, hfault, hlast⟩, rfl⟩

theorem freed (h : Performs w i) : w.context.freed = false := enabled_freed h.enabled

theorem step (h : Performs w i) : stepFn w i = some (exec w i) := if_pos ⟨h.enabled, h.fault⟩

end Performs

/-- What holds at the start, and what every step but the last keeps that meets the
condition, holds until the service is torn down. -/
theorem service_restrict_invariant {C : World → Input → Prop} {P : List Input → World → Prop}
    (h : ((service neverQuit).restrict C).Reaches is w) (hfree : w.context.freed = false)
    (hstart : P [] (start neverQuit))
    (hstep : ∀ is w i, (service neverQuit).Reaches is w → Performs w i → C w i → P is w →
      P (is ++ [i]) (exec w i)) : P is w := by
  refine h.trace_invariant (P := fun is w => w.context.freed = false → P is w)
    (fun w hw _ => ?_) (fun is w i w' hr ih hst hfree' => ?_) hfree
  · obtain rfl : w = start neverQuit := hw
    exact hstart
  · obtain ⟨hC, hst⟩ := hst
    obtain ⟨-, -, rfl⟩ := stepFn_eq hst
    obtain ⟨hdoes, -⟩ := Performs.of_stepFn hst (ne_contextFree hfree')
    exact hstep is w i hr.of_restrict hdoes hC (ih hdoes.freed)

theorem service_invariant {P : List Input → World → Prop}
    (h : (service neverQuit).Reaches is w) (hfree : w.context.freed = false)
    (hstart : P [] (start neverQuit))
    (hstep : ∀ is w i, (service neverQuit).Reaches is w → Performs w i → P is w →
      P (is ++ [i]) (exec w i)) : P is w :=
  service_restrict_invariant (h.restrict_of_forall fun _ _ => trivial) hfree hstart
    fun is w i hr hdoes _ => hstep is w i hr hdoes

theorem service_ok (h : (service neverQuit).Reaches is w) (hfree : w.context.freed = false) :
    ServiceOk none w :=
  service_invariant (P := fun _ => ServiceOk none) h hfree (start_serviceOk neverQuit)
    fun _ _ _ hr hdoes ih => stepFn_serviceOk ih (service_fault hr) hdoes.step hdoes.last

/-! ## The end -/

/-- The tasks that wait in a list of queues. -/
def waitingTasks (l : List (Sigma fun _ : TaskQueueKey => TaskQueue)) : List TaskAtom :=
  l.flatMap fun e => e.2.tasks

theorem freeTasks_freeTasks (w : World) (l l' : List TaskAtom) (es es' : List Event) :
    (w.freeTasks l es).freeTasks l' es' = w.freeTasks (l ++ l') (es ++ es') := by
  have htasks : (fun b => if b ∈ l' then none else if b ∈ l then none else w.tasks b) =
      fun b => if b ∈ l ++ l' then none else w.tasks b := by
    funext b
    by_cases hb : b ∈ l <;> by_cases hb' : b ∈ l' <;> simp [hb, hb']
  simp only [World.freeTasks, htasks, List.append_assoc]

/-- `rsu_task_processor_free` deletes the tasks that wait, and no others. -/
theorem foldl_prvTaskQueueFreeCb (l : List (Sigma fun _ : TaskQueueKey => TaskQueue)) :
    ∀ w : World, (waitingTasks l).Nodup →
      (∀ e ∈ l, ∀ a ∈ e.2.tasks, e.2.callbacks.Live (w.tasks a)) →
      ∃ loop, l.foldl (fun w e => prvTaskQueueFreeCb taskDeleteCb e.2 w) w =
        (w.freeTasks (waitingTasks l) ((waitingTasks l).flatMap w.deleteEvents)).setLoop loop := by
  induction l with
  | nil =>
      intro w _ _
      exact ⟨w.loop, by simp [waitingTasks, World.freeTasks, World.setLoop]⟩
  | cons e l ih =>
      intro w hnodup hlive
      have hsplit : waitingTasks (e :: l) = e.2.tasks ++ waitingTasks l := rfl
      rw [hsplit] at hnodup ⊢
      obtain ⟨hfirst, hrest, hdisjoint⟩ := List.nodup_append.mp hnodup
      have hstep := foldl_prvTaskFreeCb (w := w) hfirst (hlive e List.mem_cons_self)
      obtain ⟨loop, hloop⟩ : ∃ loop, prvTaskQueueFreeCb taskDeleteCb e.2 w =
          (w.freeTasks e.2.tasks (e.2.tasks.flatMap w.deleteEvents)).setLoop loop := by
        simp only [prvTaskQueueFreeCb, hstep]
        split
        · exact ⟨_, rfl⟩
        · exact ⟨w.loop, rfl⟩
      have hkeep : ∀ a, a ∈ waitingTasks l →
          ((w.freeTasks e.2.tasks (e.2.tasks.flatMap w.deleteEvents)).setLoop loop).tasks a =
            w.tasks a := by
        intro a ha
        exact if_neg fun hmem => hdisjoint a hmem a ha rfl
      have hlive' : ∀ e' ∈ l, ∀ a ∈ e'.2.tasks, e'.2.callbacks.Live
          (((w.freeTasks e.2.tasks (e.2.tasks.flatMap w.deleteEvents)).setLoop loop).tasks a) := by
        intro e' he' a ha
        rw [hkeep a (List.mem_flatMap.mpr ⟨e', he', ha⟩)]
        exact hlive e' (List.mem_cons_of_mem e he') a ha
      obtain ⟨loop', hloop'⟩ := ih _ hrest hlive'
      have hevents : (waitingTasks l).flatMap
          ((w.freeTasks e.2.tasks (e.2.tasks.flatMap w.deleteEvents)).setLoop loop).deleteEvents =
            (waitingTasks l).flatMap w.deleteEvents :=
        List.flatMap_congr fun a ha => by rw [World.deleteEvents, hkeep a ha]; rfl
      refine ⟨loop', ?_⟩
      rw [List.foldl_cons, hloop, hloop', hevents, List.flatMap_append]
      have hfree := freeTasks_freeTasks w e.2.tasks (waitingTasks l)
        (e.2.tasks.flatMap w.deleteEvents) ((waitingTasks l).flatMap w.deleteEvents)
      rw [← hfree]
      rfl

theorem ProcessorOk.waitingTasks_nodup (h : ProcessorOk w) :
    (waitingTasks w.processor.taskQueues.entries).Nodup := by
  have hqueue : ∀ e ∈ w.processor.taskQueues.entries, QueueOk w e.1 e.2 :=
    fun e he => h.queues e.1 e.2 (Assoc.lookup_of_mem_entries he)
  rw [waitingTasks, List.nodup_flatMap]
  refine ⟨fun e he => (hqueue e he).nodup, ?_⟩
  have hpairwise := List.nodupKeys_iff_pairwise.mp w.processor.taskQueues.nodupKeys
  refine hpairwise.imp_of_mem fun {e e'} he he' hne a ha ha' => ?_
  exact hne (((hqueue e he).owned a ha).1.symm.trans ((hqueue e' he').owned a ha').1)

theorem offstage_rsuDeviceDelete (d : Nat) (w : World) : Offstage w (rsuDeviceDelete d w) := by
  cases hd : w.core d with
  | none =>
      have hnone : w.devices d = none := by simpa [World.core] using hd
      have hcrash : rsuDeviceDelete d w = w.crash (.deadDevice d) := by
        simp only [rsuDeviceDelete, World.withDevice, hnone]
      rw [hcrash]
      exact (cosmetic_crash (by simp)).toOffstage
  | some c => exact (frees_rsuDeviceDelete hd).1.toOffstage

/-- The devices are deleted, and the clients are not watched any more. -/
def World.deleteUpnp (w : World) : World :=
  { rsuUpnpDelete w with context := { (rsuUpnpDelete w).context with watchers := [] } }

theorem deleteUpnp_serviceOk (h : ServiceOk none w) : ServiceOk none w.deleteUpnp := by
  have hdelete : ∀ (l : List (Sigma fun _ : String => Nat)) (w : World), ServiceOk none w →
      ServiceOk none (l.foldl (fun w e => rsuDeviceDelete e.2 w) w) := by
    intro l
    induction l with
    | nil => exact fun w hw => hw
    | cons e l ih => exact fun w hw => ih _ (rsuDeviceDelete_serviceOk e.2 hw)
  have hmap : ServiceOk none
      ((w.setHostService (rsuHostServiceDelete w.upnp.hostService)).setUdnMap ∅) :=
    h.backstage (backstage_setUpnp _)
  have hupnp : ServiceOk none (rsuUpnpDelete w) :=
    (hdelete w.upnp.serverUdnMap.entries _ hmap).backstage (backstage_setUpnp _)
  refine hupnp.backstage ⟨⟨rfl, rfl, rfl, Nat.le_refl _, rfl, rfl, rfl, rfl, Nat.le_refl _,
    fun name hname => absurd hname List.not_mem_nil, fun _ hk => hk, [], ?_⟩, rfl, rfl, rfl,
    fun _ => rfl⟩
  simp [World.deleteUpnp]

theorem offstage_deleteDevices (l : List (Sigma fun _ : String => Nat)) (w : World) :
    Offstage w (l.foldl (fun w e => rsuDeviceDelete e.2 w) w) := by
  induction l generalizing w with
  | nil => exact .refl
  | cons e l ih => exact (offstage_rsuDeviceDelete e.2 w).trans (ih _)

theorem deleteUpnp_hostService (w : World) :
    w.deleteUpnp.upnp.hostService = rsuHostServiceDelete w.upnp.hostService :=
  congrArg Upnp.hostService (offstage_deleteDevices w.upnp.serverUdnMap.entries
    ((w.setHostService (rsuHostServiceDelete w.upnp.hostService)).setUdnMap ∅)).upnp

theorem deleteUpnp_same (w : World) : w.deleteUpnp.processor = w.processor ∧
    w.deleteUpnp.tasks = w.tasks ∧ w.deleteUpnp.log = w.log ∧
      w.deleteUpnp.context.nextInvocation = w.context.nextInvocation := by
  have hoff := offstage_deleteDevices w.upnp.serverUdnMap.entries
    ((w.setHostService (rsuHostServiceDelete w.upnp.hostService)).setUdnMap ∅)
  have hnext := congrArg Context.nextInvocation hoff.context
  exact ⟨hoff.processor, hoff.tasks, hoff.log, hnext⟩

def World.setFreed (w : World) : World := { w with context := { w.context with freed := true } }

/-- The end of the main loop frees the queues and the tasks that wait. -/
theorem exec_contextFree_eq (h : ServiceOk none w) : ∃ loop, exec w .contextFree =
    (((w.deleteUpnp.setQueues ∅).freeTasks (waitingTasks w.deleteUpnp.processor.taskQueues.entries)
      ((waitingTasks w.deleteUpnp.processor.taskQueues.entries).flatMap
        (w.deleteUpnp.setQueues ∅).deleteEvents)).setLoop loop).setFreed := by
  have hok := deleteUpnp_serviceOk h
  have hlive : ∀ e ∈ w.deleteUpnp.processor.taskQueues.entries, ∀ a ∈ e.2.tasks,
      e.2.callbacks.Live ((w.deleteUpnp.setQueues ∅).tasks a) := fun e he a ha =>
    ((hok.processor.queues e.1 e.2 (Assoc.lookup_of_mem_entries he)).fresh a ha).live
  obtain ⟨loop, hfree⟩ := foldl_prvTaskQueueFreeCb w.deleteUpnp.processor.taskQueues.entries
    (w.deleteUpnp.setQueues ∅) hok.processor.waitingTasks_nodup hlive
  refine ⟨loop, ?_⟩
  rw [← hfree]
  rfl

theorem exec_contextFree (h : ServiceOk none w) :
    Discards (waitingTasks w.processor.taskQueues.entries) w (exec w .contextFree) ∧
      (exec w .contextFree).log = w.log ++
        (waitingTasks w.processor.taskQueues.entries).flatMap w.deleteEvents := by
  obtain ⟨hprocessor, htasks, hlog, hnext⟩ := deleteUpnp_same w
  let entries := w.deleteUpnp.processor.taskQueues.entries
  have hentries : entries = w.processor.taskQueues.entries :=
    congrArg (fun p => p.taskQueues.entries) hprocessor
  obtain ⟨loop, hexec⟩ := exec_contextFree_eq h
  have hevents : (waitingTasks entries).flatMap (w.deleteUpnp.setQueues ∅).deleteEvents =
      (waitingTasks entries).flatMap w.deleteEvents :=
    List.flatMap_congr fun a _ => by
      rw [World.deleteEvents, World.deleteEvents,
        show (w.deleteUpnp.setQueues ∅).tasks = w.tasks from htasks]
  have hlog' :
      (exec w .contextFree).log = w.log ++ (waitingTasks entries).flatMap w.deleteEvents := by
    rw [hexec, ← hevents, ← hlog]
    rfl
  rw [← hentries]
  refine ⟨⟨?_, fun a => ?_, ?_, _, hlog', ?_, ?_⟩, hlog'⟩
  · rw [hexec]
    exact hnext
  · rw [hexec, ← htasks]
    rfl
  · rw [hentries]
    exact h.processor.waitingTasks_nodup
  · rw [answeredIn_flatMap]
    exact List.flatMap_congr fun a _ => answeredIn_deleteEvents w a
  · intro n a hmem
    obtain ⟨b, -, hb⟩ := List.mem_flatMap.mp hmem
    simpa using mem_deleteEvents hb

/-! ## Completions -/

/-- The completion of a task is scheduled and run at most once, and it is not
scheduled after the task was deleted. -/
structure CompletesOnce (log : List Event) : Prop where
  scheduled : ∀ a, log.count (.completeScheduled a) ≤ 1
  ran : ∀ a, log.count (.completeRan a) ≤ 1
  deleted : ∀ a, log.count (.deleted a) ≤ 1
  order : Log.Before (fun past e => ∀ a, e = .completeScheduled a → .deleted a ∉ past) log

theorem ServiceOk.completesOnce (h : ServiceOk none w) : CompletesOnce w.log := by
  refine ⟨h.outer.completions.once, fun a => ?_, h.lifetime.once, h.outer.completions.ordered⟩
  have hbalance := h.outer.completions.balance a
  have honce := h.outer.completions.once a
  omega

theorem ServiceOk.completesOnce_free (h : ServiceOk none w) :
    CompletesOnce (exec w .contextFree).log := by
  obtain ⟨hdiscards, hlog⟩ := exec_contextFree h
  have hnone : ∀ e ∈ (waitingTasks w.processor.taskQueues.entries).flatMap w.deleteEvents,
      e.isCompletion = false := by
    intro e he
    obtain ⟨a, -, ha⟩ := List.mem_flatMap.mp he
    rcases mem_deleteEvents ha with rfl | ⟨n, reply, rfl⟩ <;> rfl
  have hcount := count_completion hnone
  have honce := h.completesOnce
  rw [hlog]
  refine ⟨fun a => ?_, fun a => ?_, fun a => ?_, ?_⟩
  · rw [List.count_append, (hcount a).1]
    exact honce.scheduled a
  · rw [List.count_append, (hcount a).2]
    exact honce.ran a
  · rw [List.count_append, count_deleted_flatMap hdiscards.nodup count_deleteEvents]
    split
    next hmem =>
      obtain ⟨e, he, ha⟩ := List.mem_flatMap.mp hmem
      have hq := Assoc.lookup_of_mem_entries he
      have hheld : w.Holds a := by
        refine ⟨e.2, ?_, .inl ha⟩
        rw [((h.processor.queues e.1 e.2 hq).owned a ha).1]
        exact hq
      have hzero : w.log.count (.deleted a) = 0 :=
        List.count_eq_zero.mpr fun hdeleted => h.lifetime.gone a hdeleted hheld
      omega
    · exact honce.deleted a
  · refine honce.order.append_of_forall ?_
    rintro e he past a rfl
    exact absurd (hnone _ he) (by simp [Event.isCompletion])

/-- In every run the completion of a task is scheduled at most once, and never
after the task was deleted. -/
theorem service_completesOnce (h : (service neverQuit).Reaches is w) : CompletesOnce w.log := by
  cases h with
  | init hw =>
      obtain rfl : w = start neverQuit := hw
      exact (start_serviceOk neverQuit).completesOnce
  | @step is w₀ _ i hreach hstep =>
      have hok := service_ok hreach (enabled_freed (stepFn_eq hstep).1)
      by_cases hfree : i = .contextFree
      · subst hfree
        obtain ⟨-, -, rfl⟩ := stepFn_eq hstep
        exact hok.completesOnce_free
      · exact (stepFn_serviceOk hok (service_fault hreach) hstep hfree).completesOnce

/-- A request is cancelled while its action is pending, and cancelled again
before its completion runs. -/
def cancelledTwice : List Choice :=
  oneRenderer ++
    [.input (.playerCall oneClient onePath .play), .processIdle,
      .input (.cancelCall oneClient onePath), .input (.cancelCall oneClient onePath),
      .completeIdle]

theorem service_completesOnce_cancelledTwice :
    ∃ is w, (service true).Reaches is w ∧
      .completeRan ⟨3, ⟨1, ":1.7", onePath⟩⟩ ∈ w.log ∧ CompletesOnce w.log := by
  obtain ⟨is, w, hreach, hran⟩ := service_reaches_of_schedule true cancelledTwice
    (p := fun w => .completeRan ⟨3, ⟨1, ":1.7", onePath⟩⟩ ∈ w.log) (by decide +kernel)
  exact ⟨is, w, hreach, hran, service_completesOnce hreach⟩

/-! ## Answers -/

/-- Every invocation that was wrapped in a task has been answered once. -/
def AllAnswered (w : World) : Prop :=
  ∀ n a, .wrapped n a ∈ w.log → (answeredIn w.log).count n = 1

theorem ServiceOk.answers (h : ServiceOk none w) (n : Nat) : (answeredIn w.log).count n ≤ 1 :=
  List.nodup_iff_count_le_one.mp h.outer.invocations.once n

/-- What is left unanswered at the end is the invocation of a task that was
still current. -/
theorem ServiceOk.allAnswered_free (h : ServiceOk none w) :
    AllAnswered (exec w .contextFree) ↔
      ∀ n a, .wrapped n a ∈ w.log → w.Current a → n ∉ owed (w.tasks a) := by
  obtain ⟨hdiscards, hlog⟩ := exec_contextFree h
  have hinv := h.outer.invocations.discards hdiscards
  have hmemlog : ∀ n a, .wrapped n a ∈ (exec w .contextFree).log ↔ .wrapped n a ∈ w.log := by
    intro n a
    rw [hlog, List.mem_append, or_iff_left]
    intro hmem
    obtain ⟨b, -, hb⟩ := List.mem_flatMap.mp hmem
    simpa using mem_deleteEvents hb
  have hwaits : ∀ a, w.Current a → a ∉ waitingTasks w.processor.taskQueues.entries := by
    intro a ha hmem
    obtain ⟨e, he, hin⟩ := List.mem_flatMap.mp hmem
    exact h.processor.current_not_mem ha (Assoc.lookup_of_mem_entries he) hin
  constructor
  · intro hall n a hwrapped hcurrent hn
    have hcount := hall n a ((hmemlog n a).mpr hwrapped)
    have hanswered : n ∈ answeredIn (exec w .contextFree).log :=
      List.count_pos_iff.mp (by omega)
    have hrecord : (exec w .contextFree).tasks a = w.tasks a := by
      rw [hdiscards.tasks, if_neg (hwaits a hcurrent)]
    exact (hinv.unpaid a n (hrecord ▸ hn)).2 hanswered
  · intro hcurrent n a hwrapped
    have hanswered : n ∈ answeredIn (exec w .contextFree).log := by
      rcases hinv.wrapped n a hwrapped with hn | hn
      · exact hn
      · exfalso
        rw [hdiscards.tasks] at hn
        split at hn
        · simp [owed] at hn
        next hnot =>
          cases hr : w.tasks a with
          | none => simp [hr, owed] at hn
          | some r =>
              obtain ⟨q, hq, hmem | ha⟩ := h.outer.held a r hr
              · refine hnot (List.mem_flatMap.mpr ⟨⟨a.queueId, q⟩, ?_, hmem⟩)
                exact AList.mem_lookup_iff.mp hq
              · exact hcurrent n a ((hmemlog n a).mp hwrapped) ⟨q, hq, ha⟩ hn
    have hpos := List.count_pos_iff.mpr hanswered
    have hle := List.nodup_iff_count_le_one.mp hinv.once n
    omega

theorem service_answers (h : (service neverQuit).Reaches is w) (n : Nat) :
    (answeredIn w.log).count n ≤ 1 := by
  cases h with
  | init hw =>
      obtain rfl : w = start neverQuit := hw
      exact (start_serviceOk neverQuit).answers n
  | @step is w₀ _ i hreach hstep =>
      have hok := service_ok hreach (enabled_freed (stepFn_eq hstep).1)
      by_cases hfree : i = .contextFree
      · subst hfree
        obtain ⟨-, -, rfl⟩ := stepFn_eq hstep
        have hinv := hok.outer.invocations.discards (exec_contextFree hok).1
        exact List.nodup_iff_count_le_one.mp hinv.once n
      · exact (stepFn_serviceOk hok (service_fault hreach) hstep hfree).answers n

/-- No invocation is ever answered twice, and once the processor is freed every
invocation wrapped in a task has been answered if and only if no task was
current then whose invocation was still to be answered. -/
theorem service_answersOnce (h : (service neverQuit).Reaches is w) :
    (∀ n, (answeredIn w.log).count n ≤ 1) ∧
      ∀ w', stepFn w .contextFree = some w' →
        (AllAnswered w' ↔ ∀ n a, .wrapped n a ∈ w.log → w.Current a → n ∉ owed (w.tasks a)) := by
  refine ⟨service_answers h, fun w' hstep => ?_⟩
  obtain ⟨henabled, -, rfl⟩ := stepFn_eq hstep
  exact (service_ok h (enabled_freed henabled)).allAnswered_free

def quitAfterVersion : List Choice :=
  [.input (.managerCall oneClient .getVersion), .processIdle, .input .signal, .input .quitIdle,
    .input .quitTimer]

theorem service_answersOnce_quitAfterVersion :
    ∃ is w w', (service true).Reaches is w ∧ stepFn w .contextFree = some w' ∧
      (∀ n, (answeredIn w.log).count n ≤ 1) ∧ AllAnswered w' := by
  obtain ⟨is, w, hreach, hstep, hidle⟩ := service_reaches_of_schedule true
    quitAfterVersion (p := fun w => (stepFn w .contextFree).isSome ∧
      ∀ e ∈ w.processor.taskQueues.entries, e.2.currentTask = none) (by decide +kernel)
  obtain ⟨w', hw'⟩ := Option.isSome_iff_exists.mp hstep
  refine ⟨is, w, w', hreach, hw', (service_answersOnce hreach).1,
    ((service_answersOnce hreach).2 w' hw').mpr ?_⟩
  rintro n a - ⟨q, hq, ha⟩
  have hnone : q.currentTask = none := hidle ⟨a.queueId, q⟩ (AList.mem_lookup_iff.mp hq)
  exact absurd (hnone.symm.trans ha) (by simp)

/-- A renderer is asked to play, the service is told to quit before the request
is started, and the main loop ends while the renderer has not replied. -/
def quitBeforePlay : List Choice :=
  oneRenderer ++
    [.input (.playerCall oneClient onePath .play), .input .signal, .processIdle,
      .input .quitIdle, .input .quitTimer, .input .contextFree]

/-- The invocation of a task that is current in the end is never answered. -/
theorem current_request_unanswered :
    ∃ is w, (service true).Reaches is w ∧ w.context.freed = true ∧ ¬AllAnswered w := by
  let a : TaskAtom := ⟨3, ⟨1, ":1.7", onePath⟩⟩
  obtain ⟨is, w, hreach, hfreed, hwrapped, hcount⟩ := service_reaches_of_schedule
    true quitBeforePlay
    (p := fun w => w.context.freed = true ∧ .wrapped 0 a ∈ w.log ∧ (answeredIn w.log).count 0 = 0)
    (by decide +kernel)
  refine ⟨is, w, hreach, hfreed, fun hall => ?_⟩
  have hone := hall 0 a hwrapped
  omega

end RendererService
