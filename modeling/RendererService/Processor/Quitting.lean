import RendererService.Processor.Visits
import RendererService.Model.Schedules

/-!
# Quitting

Once `rsu_task_processor_set_quitting` was called, no task should be started
and the quit should be scheduled once.  `rsu_task_processor_set_quitting`
cancels the queues only where a task is running, and then only up to the first
one that is removed while it is cancelled.  It schedules the quit each time that
no task runs, and neither `rsu_task_queue_add_task`, `rsu_task_queue_start` nor
the idle looks at the flag.  `Op.Orderly` names what must not happen.
-/

namespace RendererService

open Transition

/-! ## The log -/

/-- Nothing is handed to `task_process_cb` after the call. -/
def NothingStarted (log : List Event) : Prop :=
  Log.Before (fun past e => ∀ a, e = .processed a → .quitting ∉ past) log

/-- What the log says about quitting: the quit is scheduled when the last task
has ended. -/
structure QuitLog (w : World) : Prop where
  quitting : .quitting ∈ w.log → w.processor.quitting = true
  scheduled : w.log.count .quitScheduled =
    if w.processor.quitting = true ∧ w.processor.runningTasks = 0 then 1 else 0
  nothingStarted : NothingStarted w.log

def Event.Steers (e : Event) : Prop :=
  e = .quitting ∨ e = .quitScheduled ∨ ∃ a, e = .processed a

section Steps

variable {w w' : World} {k : TaskQueueKey} {l : List Event}

theorem count_quitScheduled (hl : ∀ e ∈ l, ¬e.Steers) : l.count .quitScheduled = 0 :=
  List.count_eq_zero.mpr fun hmem => hl _ hmem (.inr (.inl rfl))

theorem QuitLog.quiet (h : QuitLog w) (hlog : w'.log = w.log ++ l) (hl : ∀ e ∈ l, ¬e.Steers)
    (hquitting : w'.processor.quitting = w.processor.quitting)
    (hrunning : w'.processor.runningTasks = w.processor.runningTasks) : QuitLog w' := by
  refine ⟨?_, ?_, ?_⟩
  · rw [hlog, hquitting]
    intro hmem
    rcases List.mem_append.mp hmem with hmem | hmem
    · exact h.quitting hmem
    · exact absurd (.inl rfl) (hl _ hmem)
  · rw [hlog, List.count_append, count_quitScheduled hl, Nat.add_zero, hquitting, hrunning]
    exact h.scheduled
  · rw [hlog]
    refine Log.Before.append_of_forall h.nothingStarted ?_
    rintro e he past a rfl
    exact absurd (.inr (.inr ⟨a, rfl⟩)) (hl _ he)

theorem QuitLog.notQuitting (h : QuitLog w) (hquit : w.processor.quitting = false) :
    .quitting ∉ w.log := fun hmem => by
  have := h.quitting hmem
  simp [hquit] at this

theorem not_steers_flatMap {tasks : List TaskAtom} {f : TaskAtom → List Event}
    (hf : ∀ a e, e ∈ f a → e = .cancelled a ∨ e = .deleted a ∨
      ∃ invocation reply, e = .answered invocation reply) :
    ∀ e ∈ tasks.flatMap f, ¬e.Steers := by
  rintro e he hsteers
  obtain ⟨a, -, hea⟩ := List.mem_flatMap.mp he
  rcases hf a e hea with rfl | rfl | ⟨_, _, rfl⟩ <;> simp [Event.Steers] at hsteers

theorem dispatchTask_quitLog (h : QuitLog w) (hquit : w.processor.quitting = false) (id : Nat)
    (k : TaskQueueKey) (a : TaskAtom) (rest : List TaskAtom) :
    QuitLog ((w.sourceRemoveProcess id).dispatchTask k a rest) := by
  have hlog : ((w.sourceRemoveProcess id).dispatchTask k a rest).log = w.log ++ [.processed a] :=
    rfl
  have hflag : ((w.sourceRemoveProcess id).dispatchTask k a rest).processor.quitting = false :=
    hquit
  have hnone := h.notQuitting hquit
  refine ⟨?_, ?_, ?_⟩
  · rw [hlog]
    intro hmem
    exact absurd (by simpa using hmem) hnone
  · have hcount := h.scheduled
    rw [hquit] at hcount
    rw [hlog, List.count_append, hflag]
    simpa using hcount
  · rw [hlog]
    exact Log.Before.snoc h.nothingStarted fun _ _ => hnone

theorem completeTask_quitLog (hok : ProcessorOk w) (h : QuitLog w) {a : TaskAtom}
    (ha : w.Current a) : QuitLog (w.completeTask a.queueId a) := by
  have hpos : 0 < w.processor.runningTasks := by
    obtain ⟨q, hq, hcurrent⟩ := ha
    rw [hok.running]
    exact Assoc.count_pos_of_lookup hq (by simp [hcurrent])
  have hcount : w.log.count .quitScheduled = 0 := by
    rw [h.scheduled, if_neg fun hboth => Nat.ne_of_gt hpos hboth.2]
  have hlog := completeTask_log w a.queueId a
  have hflag : (w.completeTask a.queueId a).processor = (w.finishTask a.queueId a).processor := by
    unfold World.completeTask
    dsimp only
    split <;> rfl
  have hdelete : ∀ e ∈ .completed a.queueId :: w.deleteEvents a, ¬e.Steers := by
    intro e he hsteers
    rcases List.mem_cons.mp he with rfl | he
    · simp [Event.Steers] at hsteers
    · rcases mem_deleteEvents he with rfl | ⟨_, _, rfl⟩ <;> simp [Event.Steers] at hsteers
  rw [← List.cons_append] at hlog
  refine ⟨?_, ?_, ?_⟩
  · rw [hlog, hflag]
    intro hmem
    rcases List.mem_append.mp hmem with hmem | hmem
    · exact h.quitting hmem
    · rcases List.mem_append.mp hmem with hmem | hmem
      · exact absurd (.inl rfl) (hdelete _ hmem)
      · exact absurd (mem_quitEvents hmem) (by simp)
  · rw [hlog, List.count_append, List.count_append, hcount, count_quitScheduled hdelete, hflag,
      World.quitEvents]
    split <;> simp
  · rw [hlog]
    refine Log.Before.append_of_forall h.nothingStarted ?_
    rintro e he past b rfl
    rcases List.mem_append.mp he with he | he
    · exact absurd (.inr (.inr ⟨b, rfl⟩)) (hdelete _ he)
    · exact absurd (mem_quitEvents he) (by simp)

theorem quitNow_quitLog (h : QuitLog w) (hquit : w.processor.quitting = false)
    (hzero : w.processor.runningTasks = 0) : QuitLog w.setQuitting.idleAddQuit := by
  have hlog : w.setQuitting.idleAddQuit.log = w.log ++ [.quitting, .quitScheduled] :=
    List.append_assoc _ _ _
  have hcount := h.scheduled
  rw [hquit] at hcount
  refine ⟨fun _ => rfl, ?_, ?_⟩
  · have hboth : w.setQuitting.idleAddQuit.processor.quitting = true ∧
        w.setQuitting.idleAddQuit.processor.runningTasks = 0 := ⟨rfl, hzero⟩
    rw [hlog, List.count_append, if_pos hboth]
    simpa using hcount
  · rw [hlog]
    exact Log.Before.append_of_forall h.nothingStarted (by simp)

theorem setQuitting_quitLog (h : QuitLog w) (hpos : 0 < w.processor.runningTasks) :
    QuitLog w.setQuitting := by
  have hlog : w.setQuitting.log = w.log ++ [.quitting] := rfl
  have hne : w.processor.runningTasks ≠ 0 := Nat.ne_of_gt hpos
  refine ⟨fun _ => rfl, ?_, ?_⟩
  · have hcount := h.scheduled
    rw [if_neg fun hboth => hne hboth.2] at hcount
    rw [hlog, List.count_append, if_neg fun hboth => hne hboth.2]
    simpa using hcount
  · rw [hlog]
    exact Log.Before.append_of_forall h.nothingStarted (by simp)

/-- Every step keeps the log in order, unless it starts a task or schedules the
quit again while the process quits. -/
theorem Step.quitLog {act : Act} (hok : ProcessorOk w) (h : QuitLog w)
    (hact : (∃ k, act = .dispatch k) ∨ act = .quitNow → w.processor.quitting = false)
    (hstep : Step Elsewhere w act w') : QuitLog w' := by
  cases hstep with
  | addQueue _ _ _ | arm _ _ _ _ | configure _ _ | defer _ _ _ _ | rehash _ =>
      exact h.quiet (List.append_nil _).symm (by simp) rfl rfl
  | addTask _ _ => exact h.quiet (l := [_]) rfl (by simp [Event.Steers]) rfl rfl
  | dispatch _ _ _ => exact dispatchTask_quitLog h (hact (.inl ⟨_, rfl⟩)) _ _ _ _
  | clear _ =>
      exact h.quiet (clearQueue_log w _ _) (not_steers_flatMap fun _ _ he => mem_cancelEvents he)
        rfl rfl
  | cancelling _ => exact h.quiet (l := [_]) rfl (by simp [Event.Steers]) rfl rfl
  | complete ha => exact completeTask_quitLog hok h ha
  | @remove k q _ _ _ _ =>
      have hsame : (w.dropQueue k q).processor.quitting = w.processor.quitting ∧
          (w.dropQueue k q).processor.runningTasks = w.processor.runningTasks := by
        unfold World.dropQueue
        cases q.finallyCb <;> exact ⟨rfl, rfl⟩
      exact h.quiet (dropQueue_log w k q)
        (not_steers_flatMap fun _ _ he => .inr (mem_deleteEvents he)) hsame.1 hsame.2
  | quitting hpos => exact setQuitting_quitLog h hpos
  | quitNow hzero => exact quitNow_quitLog h (hact (.inr rfl)) hzero
  | elsewhere he =>
      obtain ⟨es, hlog, hes⟩ := he.log
      refine h.quiet hlog ?_ (by rw [he.processor]) (by rw [he.processor])
      rintro e hmem (rfl | rfl | ⟨a, rfl⟩) <;>
        exact absurd (hes _ hmem) (by simp [Event.isProcessor])

/-! ## Idles -/

/-- No idle of the queue of `k` is pending. -/
def Disarmed (k : TaskQueueKey) (w : World) : Prop :=
  ∀ q, w.queue? k = some q → q.idleId = 0

theorem Disarmed.of_modify (h : Disarmed k w) {k' : TaskQueueKey} {f : TaskQueue → TaskQueue}
    (hlookup : ∀ k₀, w'.queue? k₀ = if k₀ = k' then (w.queue? k').map f else w.queue? k₀)
    (hf : ∀ q, w.queue? k' = some q → q.idleId = 0 → (f q).idleId = 0) : Disarmed k w' := by
  intro q hq
  rw [hlookup] at hq
  split at hq
  next hk =>
    obtain ⟨q₀, hq₀, rfl⟩ := Option.map_eq_some_iff.mp hq
    exact hf q₀ hq₀ (h q₀ (hk ▸ hq₀))
  · exact h q hq

theorem Step.disarmed {act : Act} (h : Disarmed k w) (hact : act ≠ .arm k)
    (hstep : Step Elsewhere w act w') : Disarmed k w' := by
  cases hstep with
  | @addQueue source sink flags callbacks _ =>
      intro q hq
      have hlookup : (w.addQueue source sink flags callbacks).queue? k =
          if k = ⟨w.processor.nextKey, source, sink⟩ then
            some { callbacks := callbacks, flags := flags } else w.queue? k :=
        Assoc.lookup_insert_eq _ _ _ _
      rw [hlookup] at hq
      split at hq
      · obtain rfl := Option.some.inj hq
        rfl
      · exact h q hq
  | addTask _ _ => exact h.of_modify (fun k₀ => queue?_pushTask w _ k₀ _) fun _ _ hid => hid
  | @arm k' _ _ _ _ _ =>
      intro q hq
      have hne : k ≠ k' := fun hk => hact (hk ▸ rfl)
      have hlookup : (w.idleAddProcess k').queue? k = w.queue? k :=
        (queue?_modifyQueue _ k' k _).trans (if_neg hne)
      exact h q (hlookup ▸ hq)
  | dispatch _ _ _ =>
      exact h.of_modify (w := w) (fun k₀ => queue?_dispatchTask _ _ k₀ _ _) fun _ _ _ => rfl
  | configure hq hf =>
      refine h.of_modify (fun k₀ => queue?_modifyQueue w _ k₀ _) fun q' hq' hid => ?_
      obtain rfl := Option.some.inj (hq.symm.trans hq')
      rw [hf.2.2.2.1]
      exact hid
  | defer _ _ _ _ =>
      exact h.of_modify (fun k₀ => queue?_modifyQueue w _ k₀ _) fun _ _ hid => hid
  | clear _ => exact h.of_modify (fun k₀ => queue?_clearQueue w _ k₀ _) fun _ _ _ => rfl
  | complete _ =>
      exact h.of_modify (fun k₀ => queue?_completeTask w _ k₀ _) fun _ _ hid => hid
  | @remove k' q' _ _ _ _ =>
      intro q hq
      rw [queue?_dropQueue] at hq
      split at hq
      · simp at hq
      · exact h q hq
  | cancelling _ | quitting _ | quitNow _ => exact h
  | rehash ht =>
      intro q hq
      have hsame : (w.setQueues _).queue? k = w.queue? k := AList.perm_lookup ht
      exact h q (hsame ▸ hq)
  | elsewhere he =>
      intro q hq
      refine h q ?_
      show w.processor.taskQueues.lookup k = _
      rw [← he.processor]
      exact hq

end Steps

def disarming : Discipline :=
  processorSteps (fun act => (∀ k, act ≠ .arm k) ∧ (∀ k, act ≠ .dispatch k) ∧ act ≠ .quitNow)
    fun act hact => by
    cases act <;> simp_all [Act.teardown]

theorem disarming_disarmed {w w' : World} {k : TaskQueueKey} (h : disarming.Run w w')
    (hk : Disarmed k w) : Disarmed k w' :=
  System.Steps.invariant h hk fun _ _ _ hI hstep => hstep.2.disarmed hI (hstep.1.1 k)

theorem disarming_quitLog {w w' : World} (h : disarming.Run w w') (hok : ProcessorOk w)
    (hquit : QuitLog w) : ProcessorOk w' ∧ QuitLog w' := by
  refine System.Steps.invariant (I := fun w => ProcessorOk w ∧ QuitLog w) h ⟨hok, hquit⟩ ?_
  rintro w₁ act w₂ ⟨hok₁, hquit₁⟩ ⟨hact, hstep⟩
  refine ⟨hstep.ok (fun _ _ _ he => he) hok₁, hstep.quitLog hok₁ hquit₁ ?_⟩
  rintro (⟨k, rfl⟩ | rfl)
  · exact absurd rfl (hact.2.1 k)
  · exact absurd rfl hact.2.2

theorem prvTaskQueueCancelCb_disarmed {w : World} (hok : ProcessorOk w) (k : TaskQueueKey) :
    Disarmed k (prvTaskQueueCancelCb taskDeleteCb taskCancelCb k w) := by
  unfold prvTaskQueueCancelCb
  cases hq : w.queue? k with
  | none =>
      intro q hq'
      exact absurd (hq.symm.trans hq') (by simp)
  | some q =>
      have hold := hok.queues k q hq
      have hclear : disarming.Run w (w.clearQueue k q) :=
        .one (.clear hq) (disarming.clear w trivial)
      have hq' : (w.clearQueue k q).queue? k =
          some { q with cancelled := true, tasks := [], idleId := 0 } := by
        simp [queue?_clearQueue, hq]
      have hafter := afterClear_run (q := { q with cancelled := true, tasks := [], idleId := 0 })
        processorSteps_open.cancels (hclear.inv hok) trivial hq' rfl rfl
      dsimp only
      rw [prvTaskQueueCancel_eq hq hold.nodup hold.fresh hok.idlePositive]
      refine disarming_disarmed hafter ?_
      intro q₀ hq₀
      obtain rfl := Option.some.inj (hq'.symm.trans hq₀)
      rfl

theorem visits_disarming {w : World} (hok : ProcessorOk w) (l : List TaskQueueKey) :
    disarming.Run w (w.visits l) :=
  Discipline.Run.foldl
    (fun _ _ hw => prvTaskQueueCancelCb_run processorSteps_open.cancels hw trivial) l w hok

theorem visits_disarmed {w : World} (hok : ProcessorOk w) {k : TaskQueueKey}
    {l : List TaskQueueKey} (hk : k ∈ l ∨ Disarmed k w) : Disarmed k (w.visits l) := by
  rcases hk with hmem | hk
  · obtain ⟨before, after, rfl⟩ := List.append_of_mem hmem
    have hok₁ : ProcessorOk (w.visits before) := (visits_disarming hok before).inv hok
    have hrun : disarming.Run (w.visits before)
        (prvTaskQueueCancelCb taskDeleteCb taskCancelCb k (w.visits before)) :=
      prvTaskQueueCancelCb_run processorSteps_open.cancels hok₁ trivial
    have hsplit : w.visits (before ++ k :: after) =
        (prvTaskQueueCancelCb taskDeleteCb taskCancelCb k (w.visits before)).visits after := by
      simp [World.visits, List.foldl_append]
    rw [hsplit]
    exact disarming_disarmed (visits_disarming (hrun.inv hok₁) after)
      (prvTaskQueueCancelCb_disarmed hok₁ k)
  · exact disarming_disarmed (visits_disarming hok l) hk

theorem ProcessorOk.processIdles_nil {w : World} (hok : ProcessorOk w)
    (h : ∀ k, Disarmed k w) : w.loop.processIdles = [] := by
  refine List.eq_nil_iff_forall_not_mem.mpr fun s hs => ?_
  obtain ⟨q, hq, hid⟩ := hok.idles s hs
  have hpos := (hok.positive s hs).1
  rw [← hid, h s.2 q hq] at hpos
  exact Nat.lt_irrefl _ hpos

theorem ProcessorOk.disarmed_of_nil {w : World} (hok : ProcessorOk w)
    (h : w.loop.processIdles = []) (k : TaskQueueKey) : Disarmed k w := by
  intro q hq
  by_contra hne
  have hmem := ((hok.queues k q hq).idle hne).2.2
  rw [h] at hmem
  simp at hmem

/-- No idle is pending in a queue that comes after one that its visit removes,
where `g_hash_table_foreach` stops. -/
def World.IdlesVisited (w : World) : Prop :=
  ∀ before k after q, w.processor.taskQueues.keys = before ++ k :: after →
    w.queue? k = some q → w.RemovedByCancel q → ∀ k' ∈ after, Disarmed k' w

theorem prvCancelAllQueues_processIdles {w : World} (hok : ProcessorOk w) (husual : UsualOk w)
    (hquit : w.processor.quitting = true) (hidles : w.IdlesVisited) :
    (prvCancelAllQueues taskDeleteCb taskCancelCb w).loop.processIdles = [] := by
  obtain ⟨done, rest, hkeys, hvisits, hlast⟩ := prvCancelAllQueues_visits hok husual hquit
  rw [hvisits]
  refine ((visits_disarming hok done).inv hok).processIdles_nil fun k => visits_disarmed hok ?_
  by_cases hk : k ∈ w.processor.taskQueues.keys
  · rw [hkeys] at hk
    refine (List.mem_append.mp hk).imp_right fun hrest => ?_
    obtain ⟨before, k₀, q, rfl, hq, hremoved⟩ := hlast (List.ne_nil_of_mem hrest)
    exact hidles before k₀ rest q (by rw [hkeys]; simp) hq hremoved k hrest
  · refine .inr fun q hq => ?_
    exact absurd (Assoc.mem_keys_iff.mpr ⟨q, hq⟩) hk

/-! ## Runs -/

/-- The first call finds a task that runs, and visits the queues with a pending
idle, or it finds no idle that is pending; each further call finds a task that
still runs; and no queue goes on while the processor quits. -/
def Op.Orderly (w : World) (op : Op) : Prop :=
  (op = .setQuitting → (0 < w.processor.runningTasks ∧ w.IdlesVisited) ∨
    w.processor.quitting = false ∧ w.loop.processIdles = []) ∧
  (w.processor.quitting = true → ¬op.Schedules w)

/-- The log is in order, and a processor that quits has no idle pending. -/
structure QuitOk (w : World) : Prop extends QuitLog w where
  disarmed : w.processor.quitting = true → w.loop.processIdles = []

theorem setQuitting_quitOk {w : World} (hok : ProcessorOk w) (husual : UsualOk w)
    (h : QuitOk w) (horderly : Op.setQuitting.Orderly w) : QuitOk (Op.setQuitting.perform w) := by
  simp only [Op.perform, rsuTaskProcessorSetQuitting]
  rcases Nat.eq_zero_or_pos w.processor.runningTasks with hzero | hpos
  · have hfirst : w.processor.quitting = false ∧ w.loop.processIdles = [] :=
      (horderly.1 rfl).resolve_left fun hrunning => Nat.ne_of_gt hrunning.1 hzero
    have hnot : ¬0 < (({ w with processor := { w.processor with quitting := true } } : World).emit
        .quitting).processor.runningTasks := fun hpos => Nat.ne_of_gt hpos hzero
    rw [if_neg hnot]
    exact ⟨quitNow_quitLog h.toQuitLog hfirst.1 hzero, fun _ => hfirst.2⟩
  · have hok' : ProcessorOk w.setQuitting := hok.congr rfl rfl rfl rfl rfl rfl rfl
    have husual' : UsualOk w.setQuitting := ⟨husual.flags, husual.owing⟩
    have hidles : w.setQuitting.IdlesVisited := by
      rcases horderly.1 rfl with hrunning | hnone
      · exact hrunning.2
      · exact fun _ _ _ _ _ _ _ k' _ => hok.disarmed_of_nil hnone.2 k'
    have hrun : disarming.Run w.setQuitting
        (prvCancelAllQueues taskDeleteCb taskCancelCb w.setQuitting) :=
      prvCancelAllQueues_run processorSteps_open.cancels (fun _ _ => trivial) hok'
    have hpos' : 0 < (({ w with processor := { w.processor with quitting := true } } : World).emit
        .quitting).processor.runningTasks := hpos
    rw [if_pos hpos']
    exact ⟨(disarming_quitLog hrun hok' (setQuitting_quitLog h.toQuitLog hpos)).2,
      fun _ => prvCancelAllQueues_processIdles hok' husual' rfl hidles⟩

/-- While the processor quits, an orderly operation is a run that arms nothing. -/
theorem Op.disarming_run {w : World} {op : Op} (hok : ProcessorOk w) (h : QuitOk w)
    (hquit : w.processor.quitting = true) (hlegal : op.Legal w) (horderly : op.Orderly w)
    (hop : op ≠ .setQuitting) : disarming.Run w (op.perform w) := by
  have hidle : ∀ id k env, op ≠ .processIdle id k env := by
    rintro id k env rfl
    have hmem : (id, k) ∈ w.loop.processIdles := hlegal
    rw [h.disarmed hquit] at hmem
    simp at hmem
  refine Relation.ReflTransGen.mono ?_ _ _ (Op.run hok hlegal)
  rintro w₁ w₂ ⟨act, hmay, hstep⟩
  refine ⟨act, ⟨?_, ?_, ?_⟩, hstep⟩
  · rintro k rfl
    rcases hmay with hschedules | ⟨id, k, env, rfl⟩
    · exact horderly.2 hquit hschedules
    · exact hidle id k env rfl
  · rintro k rfl
    obtain ⟨id, env, rfl⟩ := hmay
    exact hidle id k env rfl
  · rintro rfl
    exact hop hmay.1

/-- Before the processor quits, every operation but `setQuitting` keeps the log
in order. -/
theorem Op.quitLog {w : World} {op : Op} (hok : ProcessorOk w) (h : QuitLog w)
    (hquit : w.processor.quitting = false) (hlegal : op.Legal w) (hop : op ≠ .setQuitting) :
    QuitLog (op.perform w) ∧ (op.perform w).processor.quitting = false := by
  have hall : ProcessorOk (op.perform w) ∧ QuitLog (op.perform w) ∧
      (op.perform w).processor.quitting = false := by
    refine System.Steps.invariant
      (I := fun w => ProcessorOk w ∧ QuitLog w ∧ w.processor.quitting = false)
      (Op.run hok hlegal) ⟨hok, h, hquit⟩ ?_
    rintro w₁ act w₂ ⟨hok₁, h₁, hquit₁⟩ ⟨hmay, hstep⟩
    refine ⟨hstep.ok (fun _ _ _ he => he) hok₁, hstep.quitLog hok₁ h₁ fun _ => hquit₁, ?_⟩
    rw [hstep.quitting_eq ?_ ?_]
    · exact hquit₁
    · rintro rfl
      exact hop hmay.1
    · rintro rfl
      exact hop hmay.1
  exact hall.2

theorem Op.quitOk {w : World} {op : Op} (hok : ProcessorOk w) (husual : UsualOk w)
    (h : QuitOk w) (hlegal : op.Legal w) (horderly : op.Orderly w) : QuitOk (op.perform w) := by
  by_cases hop : op = .setQuitting
  · subst hop
    exact setQuitting_quitOk hok husual h horderly
  · cases hquit : w.processor.quitting with
    | false =>
        obtain ⟨hlog, hflag⟩ := Op.quitLog hok h.toQuitLog hquit hlegal hop
        exact ⟨hlog, fun htrue => absurd (hflag.symm.trans htrue) (by simp)⟩
    | true =>
        have hrun := Op.disarming_run hok h hquit hlegal horderly hop
        refine ⟨(disarming_quitLog hrun hok h.toQuitLog).2, fun _ => ?_⟩
        exact (hrun.inv hok).processIdles_nil fun k =>
          disarming_disarmed hrun (hok.disarmed_of_nil (h.disarmed hquit) k)

theorem World.NewProcessor.quitOk {w : World} (h : w.NewProcessor) : QuitOk w := by
  refine ⟨⟨?_, ?_, ?_⟩, fun _ => h.processIdles⟩
  · rw [h.log]
    simp
  · rw [h.log, h.quitting]
    simp
  · rw [h.log]
    exact Log.before_nil

/-- In every orderly run nothing is started after `set_quitting` was called, and
the quit is scheduled at most once. -/
theorem processor_quits {ops : List Op} {w : World}
    (h : (processor.restrict fun w op => op.Usual w ∧ op.Orderly w).Reaches ops w) :
    NothingStarted w.log ∧ w.log.count .quitScheduled ≤ 1 := by
  have hquit : QuitOk w := by
    refine h.invariant_of (J := fun w => ProcessorOk w ∧ UsualOk w) (fun _ _ hr => ?_)
      (fun _ hnew => hnew.quitOk) ?_
    · exact ⟨processor_ok hr.of_restrict,
        processor_usualOk (hr.restrict_mono fun _ _ hboth => hboth.1)⟩
    · rintro w op _ ⟨hok, husual⟩ hquit ⟨⟨-, horderly⟩, hlegal, rfl⟩
      exact Op.quitOk hok husual hquit hlegal horderly
  refine ⟨hquit.nothingStarted, ?_⟩
  rw [hquit.scheduled]
  split <;> omega

theorem idlesVisited_of_kept {w : World}
    (h : (w.processor.taskQueues.entries.all fun e => !e.2.flags.autoRemove) = true) :
    w.IdlesVisited := by
  intro before k after q _ hq hremoved
  have hkept := List.all_eq_true.mp h ⟨k, q⟩ (AList.mem_lookup_iff.mp hq)
  rw [hremoved.1] at hkept
  simp at hkept

/-- The process is told to quit while a request runs and another one waits for
its idle; the first one ends afterwards. -/
def quitRunningOps : List Op :=
  let k : TaskQueueKey := ⟨0, ":1", "/s"⟩
  let k' : TaskQueueKey := ⟨1, ":2", "/s"⟩
  [.addQueue ":1" "/s" autoStart .client, .addTask k (.client (rsuTaskPlayNew 0 "/s")),
    .addQueue ":2" "/s" autoStart .client, .addTask k' (.client (rsuTaskPlayNew 1 "/s")),
    .processIdle 1 k {}, .setQuitting, .taskCompleted k]

theorem quitRunning_legal :
    Op.AllLegal (fun w op => op.Usual w ∧ op.Orderly w) {} quitRunningOps := by
  have horderly : ∀ {w : World} {op : Op}, w.processor.quitting = false → op ≠ .setQuitting →
      op.Orderly w := by
    intro w op hquit hop
    exact ⟨fun h => absurd h hop, fun htrue => absurd (hquit.symm.trans htrue) (by simp)⟩
  refine ⟨⟨⟨rfl, horderly rfl (by simp)⟩, by dsimp only [Op.Legal]; decide⟩,
    ⟨⟨rfl, horderly rfl (by simp)⟩, _, rfl, rfl⟩,
    ⟨⟨rfl, horderly rfl (by simp)⟩, by dsimp only [Op.Legal]; decide⟩,
    ⟨⟨rfl, horderly rfl (by simp)⟩, _, rfl, rfl⟩,
    ⟨⟨trivial, horderly rfl (by simp)⟩, by dsimp only [Op.Legal]; decide⟩,
    ⟨⟨trivial, fun _ => .inl ⟨by decide, idlesVisited_of_kept (by decide)⟩,
      fun htrue => absurd htrue (by decide)⟩, trivial⟩,
    ⟨⟨trivial, fun h => absurd h (by simp), fun _ => ?_⟩, _, _, rfl, rfl⟩, trivial⟩
  rintro ⟨q, hq, hne, -⟩
  obtain rfl := Option.some.inj hq
  exact hne rfl

theorem processor_quits_quitRunning :
    NothingStarted (quitRunningOps.foldl Op.perform {}).log ∧
      (quitRunningOps.foldl Op.perform {}).log.count .quitScheduled ≤ 1 :=
  processor_quits
    (processor_reaches_foldl quitRunningOps (.init newProcessor_default) quitRunning_legal)

/-! ## A queued request -/

/-- A request is queued, and a signal and the loss of the bus name arrive before
the idle that starts it. -/
def queuedQuitSchedule : List Choice :=
  [.input (.managerCall oneClient .getVersion), .input .signal, .input .nameLost, .processIdle]

/-- The request is started after the first call of `set_quitting`, and the quit
is scheduled by either call and by the completion. -/
theorem queued_request_started :
    ∃ is w, (service true).Reaches is w ∧ ¬NothingStarted w.log ∧
      w.log.count .quitScheduled = 3 := by
  let a : TaskAtom := ⟨0, ⟨0, ":1.7", rsuSink⟩⟩
  obtain ⟨is, w, hreaches, ⟨hlog, hquitting⟩, hcount⟩ :=
    service_reaches_of_schedule true queuedQuitSchedule
      (p := fun w => (w.log = w.log.take 6 ++ .processed a :: w.log.drop 7 ∧
        .quitting ∈ w.log.take 6) ∧ w.log.count .quitScheduled = 3) (by decide +kernel)
  exact ⟨is, w, hreaches, fun hnone => hnone _ _ _ hlog a rfl hquitting, hcount⟩

end RendererService
