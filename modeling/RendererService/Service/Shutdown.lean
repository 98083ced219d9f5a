import Mathlib.Data.List.Induction
import RendererService.Processor.Quitting
import RendererService.Service.Cancellations

/-!
# Shutting down

The quit is scheduled by whoever finds that no task runs: the call of
`rsu_task_processor_set_quitting`, or the completion of the last task.  In
between, `prv_cancel_all_queues` visits the queues with `g_hash_table_foreach`,
and the visits can remove queues from the table.
-/

namespace RendererService

open Transition

/-! ## The quit is never lost -/

/-- A processor that quits and runs no task has scheduled the quit. -/
def QuitKept (w : World) : Prop :=
  w.processor.quitting = true → w.processor.runningTasks = 0 → .quitScheduled ∈ w.log

section QuitKept

variable {w w' : World} {act : Act} {l : List Event}

theorem QuitKept.quiet (h : QuitKept w) (hlog : w'.log = w.log ++ l)
    (hquitting : w'.processor.quitting = w.processor.quitting)
    (hrunning : w'.processor.runningTasks = w.processor.runningTasks) : QuitKept w' := by
  intro hquit hzero
  rw [hlog]
  exact List.mem_append_left l (h (hquitting ▸ hquit) (hrunning ▸ hzero))

/-- The completion that brings the counter to zero schedules the quit. -/
theorem completeTask_quitKept (w : World) (k : TaskQueueKey) (a : TaskAtom) :
    QuitKept (w.completeTask k a) := by
  have hflag : (w.completeTask k a).processor = (w.finishTask k a).processor := by
    unfold World.completeTask
    dsimp only
    split <;> rfl
  intro hquit hzero
  rw [hflag] at hquit hzero
  have hevents : w.quitEvents k a = [.quitScheduled] := if_pos ⟨hquit, hzero⟩
  rw [completeTask_log, hevents]
  simp

theorem Step.quitKept (h : QuitKept w) (hstep : Step Elsewhere w act w') : QuitKept w' := by
  cases hstep with
  | addQueue _ _ _ | arm _ _ _ _ | configure _ _ | defer _ _ _ _ | rehash _ =>
      exact h.quiet (List.append_nil _).symm rfl rfl
  | addTask _ _ | cancelling _ => exact h.quiet (l := [_]) rfl rfl rfl
  | dispatch _ _ _ => exact fun _ hzero => absurd hzero (Nat.succ_ne_zero _)
  | clear _ => exact h.quiet (clearQueue_log w _ _) rfl rfl
  | complete _ => exact completeTask_quitKept w _ _
  | @remove k q _ _ _ _ =>
      have hsame : (w.dropQueue k q).processor.quitting = w.processor.quitting ∧
          (w.dropQueue k q).processor.runningTasks = w.processor.runningTasks := by
        unfold World.dropQueue
        cases q.finallyCb <;> exact ⟨rfl, rfl⟩
      exact h.quiet (dropQueue_log w k q) hsame.1 hsame.2
  | quitting hpos => exact fun _ hzero => absurd hzero (Nat.ne_of_gt hpos)
  | quitNow _ => exact fun _ _ => List.mem_append_right _ (List.mem_singleton.mpr rfl)
  | elsewhere he =>
      obtain ⟨es, hlog, -⟩ := he.log
      exact h.quiet hlog (by rw [he.processor]) (by rw [he.processor])

theorem World.NewProcessor.quitKept (h : w.NewProcessor) : QuitKept w := by
  intro hquit
  rw [h.quitting] at hquit
  exact absurd hquit Bool.false_ne_true

theorem Op.quitKept {op : Op} (hok : ProcessorOk w) (h : QuitKept w) (hlegal : op.Legal w) :
    QuitKept (op.perform w) :=
  System.Steps.invariant (Op.run hok hlegal) h fun _ _ _ hkept hstep => hstep.2.quitKept hkept

/-- Whatever operations are performed, in whatever order, the quit is scheduled
once no task runs any more. -/
theorem processor_quitKept {ops : List Op} (h : processor.Reaches ops w) : QuitKept w :=
  processor_invariant h (fun _ hnew => hnew.quitKept) fun _ _ hok hlegal hkept =>
    Op.quitKept hok hkept hlegal

end QuitKept

theorem service_quitKept {neverQuit : Bool} {is : List Input} {w : World}
    (h : (service neverQuit).Reaches is w) (hfree : w.context.freed = false) : QuitKept w := by
  obtain ⟨ops, hops⟩ := service_operates h hfree
  exact processor_invariant hops.of_restrict (fun _ hnew => hnew.quitKept)
    fun _ _ hok hlegal hkept => Op.quitKept hok hkept hlegal

/-- A renderer is under construction when the process is told to quit. -/
def quitDuringConstruction : List Choice :=
  [.input oneAvailable, .processIdle, .input .signal]

/-- The only running task completes while it is cancelled. -/
theorem processor_quitKept_duringConstruction :
    ∃ ops w, processor.Reaches ops w ∧ w.processor.quitting = true ∧
      w.processor.runningTasks = 0 ∧ QuitKept w := by
  obtain ⟨is, w, hreaches, hfree, hquit, hzero⟩ :=
    service_reaches_of_schedule true quitDuringConstruction
      (p := fun w => w.context.freed = false ∧ w.processor.quitting = true ∧
        w.processor.runningTasks = 0) (by decide +kernel)
  obtain ⟨ops, hops⟩ := service_operates hreaches hfree
  exact ⟨ops, w, hops.of_restrict, hquit, hzero, processor_quitKept hops.of_restrict⟩

/-! ## The iteration -/

/-- The table has the same entries, and none was added in the meantime. -/
structure SameEntries (w w' : World) : Prop where
  entries : ∀ k, (∃ q, w'.queue? k = some q) ↔ ∃ q, w.queue? k = some q
  nextKey : w'.processor.nextKey = w.processor.nextKey

/-- No visit of `prv_cancel_all_queues` adds an entry to the table that it goes
through, or removes one. -/
def SoundIteration (w : World) : Prop :=
  ∀ visited rest, w.processor.taskQueues.keys = visited ++ rest →
    SameEntries w
      (visited.foldl (fun w k => prvTaskQueueCancelCb taskDeleteCb taskCancelCb k w) w)

def Cleared (w w' : World) : Prop :=
  ∀ k q q', w.queue? k = some q → w'.queue? k = some q' →
    q'.tasks = [] ∧ q'.idleId = 0 ∧ ∀ id, (id, k) ∉ w'.loop.processIdles

section Loop

variable {w : World} {k : TaskQueueKey} {q : TaskQueue}

/-- No visit removes a queue if none would be removed by the first. -/
theorem visits_keep (hok : ProcessorOk w) (husual : UsualOk w)
    (hquit : w.processor.quitting = true)
    (hkeep : ∀ k q, w.queue? k = some q → ¬w.RemovedByCancel q) (l : List TaskQueueKey) :
    l.Nodup → w.SameVersion (w.visits l) := by
  induction l using List.reverseRecOn with
  | nil => exact fun _ => List.Perm.refl _
  | append_singleton l k ih =>
      intro hnodup
      obtain ⟨hl, -, hdisjoint⟩ := List.nodup_append.mp hnodup
      have hk : k ∉ l := fun hmem => hdisjoint k hmem k (List.mem_singleton.mpr rfl) rfl
      have hnext : (w.visits l).SameVersion (w.visits (l ++ [k])) := by
        by_contra hchanged
        obtain ⟨q, hq, hremoved⟩ :=
          removedByCancel_of_changed hok husual hquit hl hk hchanged
        exact hkeep k q hq hremoved
      exact List.Perm.trans hnext (ih hl)

/-- Before the visit of a queue that runs a task, no other task has ended. -/
theorem visits_running (hok : ProcessorOk w) (husual : UsualOk w)
    (hquit : w.processor.quitting = true) (hsound : SoundIteration w) {a : TaskAtom}
    (hq : w.queue? k = some q) (ha : q.currentTask = some a) (l : List TaskQueueKey) :
    ∀ rest, w.processor.taskQueues.keys = l ++ rest → k ∉ l →
      (w.visits l).processor.runningTasks = w.processor.runningTasks := by
  induction l using List.reverseRecOn with
  | nil => exact fun _ _ _ => rfl
  | append_singleton l k' ih =>
      intro rest hkeys hk
      have hnodup : (l ++ [k'] ++ rest).Nodup := hkeys ▸ w.processor.taskQueues.nodupKeys
      have hfresh : k' ∉ l := by
        obtain ⟨-, -, hdisjoint⟩ := List.nodup_append.mp (List.nodup_append.mp hnodup).1
        exact fun hmem => hdisjoint k' hmem k' (List.mem_singleton.mpr rfl) rfl
      have hkl : k ∉ l := fun hmem => hk (List.mem_append_left _ hmem)
      have hne : k' ≠ k := fun heq => hk (by simp [heq])
      have hbefore := ih (k' :: rest) (by rw [hkeys]; simp) hkl
      have hmem : k' ∈ w.processor.taskQueues.keys := by rw [hkeys]; simp
      obtain ⟨q', hq'⟩ := Assoc.mem_keys_iff.mp hmem
      have hvisited := visits_next hok husual hquit hfresh hq'
      have hdown := visits_takenDown hok husual l
      have hstill : (w.visits (l ++ [k'])).queue? k' ≠ none :=
        Option.ne_none_iff_exists'.mpr (((hsound _ rest hkeys).entries k').mpr ⟨q', hq'⟩)
      refine (hvisited.running_eq fun b hb hawaits => hstill (hvisited.gone.mpr ?_)).trans hbefore
      have hq₁ := (visits_untouched hok hkl).queue.trans hq
      have hq₁' := (visits_untouched hok hfresh).queue.trans hq'
      have htwo : 2 ≤ (w.visits l).processor.runningTasks := by
        rw [hdown.ok.running]
        exact Assoc.two_le_count_of_lookup hq₁ hq₁' hne (by simp [ha]) (by simp [hb])
      have hauto : q'.flags.autoRemove = true := by
        obtain ⟨t, ht, -⟩ := hawaits
        obtain ⟨-, -, -, hlive⟩ := (hdown.ok.queues k' q' hq₁').current b hb
        rw [husual.flags k' q' hq']
        cases hcs : q'.callbacks with
        | service => rfl
        | client =>
            rw [hcs, ht] at hlive
            exact hlive.elim
      refine ⟨hauto, fun b' hb' => ?_⟩
      obtain rfl := Option.some.inj (hb.symm.trans hb')
      exact ⟨hawaits, by omega⟩

/-- The iteration is sound if and only if no queue is one that its visit
removes. -/
theorem soundIteration_iff (hok : ProcessorOk w) (husual : UsualOk w)
    (hquit : w.processor.quitting = true) :
    SoundIteration w ↔ ∀ k q, w.queue? k = some q → ¬w.RemovedByCancel q := by
  constructor
  · rintro hsound k q hq ⟨hauto, hends⟩
    obtain ⟨before, after, hkeys⟩ := List.append_of_mem (Assoc.mem_keys_iff.mpr ⟨q, hq⟩)
    have hnodup : (before ++ k :: after).Nodup := hkeys ▸ w.processor.taskQueues.nodupKeys
    have hk : k ∉ before := by
      obtain ⟨-, -, hdisjoint⟩ := List.nodup_append.mp hnodup
      exact fun hmem => hdisjoint k hmem k List.mem_cons_self rfl
    have hsame := visits_untouched hok hk
    have hvisited := visits_next hok husual hquit hk hq
    have hremoved : (w.visits before).RemovedByCancel q := by
      refine ⟨hauto, fun a ha => ?_⟩
      obtain ⟨hawaits, hmany⟩ := hends a ha
      rw [visits_running hok husual hquit hsound hq ha before (k :: after) hkeys hk]
      exact ⟨(hsame.awaits hok hq ha).mpr hawaits, hmany⟩
    obtain ⟨q', hq'⟩ := ((hsound (before ++ [k]) after (by rw [hkeys]; simp)).entries k).mpr ⟨q, hq⟩
    have hgone := hvisited.gone.mpr hremoved
    rw [World.visits] at hgone
    exact absurd (hgone.symm.trans hq') (by simp)
  · intro hkeep visited rest hkeys
    have hnodup : (visited ++ rest).Nodup := hkeys ▸ w.processor.taskQueues.nodupKeys
    have hsame := visits_keep hok husual hquit hkeep visited (List.nodup_append.mp hnodup).1
    exact ⟨sameVersion_iff.mp hsame, (visits_takenDown hok husual visited).nextKey⟩

/-- After a loop that visits all queues no queue waits for anything. -/
theorem visits_cleared (hok : ProcessorOk w) (husual : UsualOk w)
    (hquit : w.processor.quitting = true) :
    Cleared w (w.visits w.processor.taskQueues.keys) := by
  intro k q q' hq hq'
  have hnodup : w.processor.taskQueues.keys.Nodup := w.processor.taskQueues.nodupKeys
  have hok' := (visits_takenDown hok husual w.processor.taskQueues.keys).ok
  obtain ⟨before, after, hkeys⟩ := List.append_of_mem (Assoc.mem_keys_iff.mpr ⟨q, hq⟩)
  rw [hkeys] at hnodup
  obtain ⟨-, hrest, hdisjoint⟩ := List.nodup_append.mp hnodup
  have hk : k ∉ before := fun hmem => hdisjoint k hmem k List.mem_cons_self rfl
  have hvisited := visits_next hok husual hquit hk hq
  have hdown := visits_takenDown hok husual (before ++ [k])
  have hlast : Untouched k (w.visits (before ++ [k]))
      (w.visits w.processor.taskQueues.keys) := by
    have hsplit : w.visits w.processor.taskQueues.keys =
        (w.visits (before ++ [k])).visits after := by
      rw [hkeys]
      simp [World.visits, List.foldl_append]
    rw [hsplit]
    exact visits_untouched hdown.ok (List.nodup_cons.mp hrest).1
  obtain ⟨htasks, hidle⟩ := hvisited.cleared q' (hlast.queue ▸ hq')
  refine ⟨htasks, hidle, fun id hmem => ?_⟩
  obtain ⟨q₀, hq₀, hid, hne⟩ := hok'.mem_processIdles.mp hmem
  obtain rfl := Option.some.inj (hq'.symm.trans hq₀)
  exact hne (hid.symm.trans hidle)

end Loop

/-! ## `rsu_task_processor_set_quitting` -/

/-- Where a task runs, all queues are emptied, and the iteration is sound if and
only if no queue is one that its visit removes. -/
theorem processor_cancelsAll {ops : List Op} {w : World}
    (h : (processor.restrict Op.Usual).Reaches ops w) :
    (0 < w.processor.runningTasks →
        SoundIteration w.setQuitting ∧ Cleared w (Op.setQuitting.perform w)) ↔
      (0 < w.processor.runningTasks →
        ∀ k q, w.queue? k = some q → ¬w.RemovedByCancel q) := by
  have hok : ProcessorOk w := processor_ok h.of_restrict
  have hok' : ProcessorOk w.setQuitting := hok.congr rfl rfl rfl rfl rfl rfl rfl
  have husual := processor_usualOk h
  have husual' : UsualOk w.setQuitting := ⟨husual.flags, husual.owing⟩
  have hcleared : 0 < w.processor.runningTasks →
      (∀ k q, w.queue? k = some q → ¬w.RemovedByCancel q) →
        Cleared w (Op.setQuitting.perform w) := by
    intro hpos hkeep
    have hperform : Op.setQuitting.perform w =
        prvCancelAllQueues taskDeleteCb taskCancelCb w.setQuitting := if_pos hpos
    rw [hperform, prvCancelAllQueues_eq_visits hok' husual' rfl hkeep]
    exact visits_cleared hok' husual' rfl
  have hiff : SoundIteration w.setQuitting ↔
      ∀ k q, w.queue? k = some q → ¬w.RemovedByCancel q :=
    soundIteration_iff hok' husual' rfl
  constructor
  · exact fun hboth hpos => hiff.mp (hboth hpos).1
  · exact fun hkeep hpos => ⟨hiff.mpr (hkeep hpos), hcleared hpos (hkeep hpos)⟩

/-- The only queue is that of a construction, which waits for a reply. -/
theorem processor_cancelsAll_oneConstruction :
    ∃ ops w, (processor.restrict Op.Usual).Reaches ops w ∧ 0 < w.processor.runningTasks ∧
      SoundIteration w.setQuitting ∧ Cleared w (Op.setQuitting.perform w) := by
  obtain ⟨is, w, hreaches, hfree, hone, hrun⟩ :=
    service_reaches_of_schedule true [.input oneAvailable, .processIdle]
      (p := fun w => w.context.freed = false ∧ w.processor.runningTasks = 1 ∧
        (w.processor.taskQueues.entries.all fun e => e.2.currentTask.isSome) = true)
      (by decide +kernel)
  obtain ⟨ops, hops⟩ := service_operates hreaches hfree
  have hpos : 0 < w.processor.runningTasks := by omega
  refine ⟨ops, w, hops, hpos, (processor_cancelsAll hops).mpr (fun _ k q hq hremoved => ?_) hpos⟩
  have hcurrent := List.all_eq_true.mp hrun ⟨k, q⟩ (AList.mem_lookup_iff.mp hq)
  obtain ⟨a, ha⟩ := Option.isSome_iff_exists.mp hcurrent
  exact (hremoved.2 a ha).2 hone

/-- A request runs and a renderer is under construction when the process is told
to quit. -/
def quitWithRequest : List Choice :=
  oneRenderer ++ [.input (.playerCall oneClient onePath .play), .processIdle,
    .input (.available "uuid:s" "192.168.1.3" ⟨true, true, true⟩)]

/-- The queue of the construction is removed while the table is visited. -/
theorem construction_removed :
    ∃ is w, (service true).Reaches is w ∧ Input.signal.enabled w = true ∧
      (exec w .signal).fault = none ∧ 0 < w.processor.runningTasks ∧
      ¬SoundIteration w.setQuitting := by
  obtain ⟨is, w, hreaches, henabled, hfault, hpos, hbefore, hafter⟩ :=
    service_reaches_of_schedule true quitWithRequest
      (p := fun w => Input.signal.enabled w = true ∧ (exec w .signal).fault = none ∧
        0 < w.processor.runningTasks ∧
        (w.setQuitting.queue? ⟨2, "source-2", rsuSink⟩).isSome = true ∧
        ((w.setQuitting.visits w.setQuitting.processor.taskQueues.keys).queue?
          ⟨2, "source-2", rsuSink⟩).isSome = false) (by decide +kernel)
  refine ⟨is, w, hreaches, henabled, hfault, hpos, fun hsound => ?_⟩
  have hsame := (hsound w.setQuitting.processor.taskQueues.keys [] (by simp)).entries
    ⟨2, "source-2", rsuSink⟩
  obtain ⟨q, hq⟩ := hsame.mpr (Option.isSome_iff_exists.mp hbefore)
  rw [World.visits, hq] at hafter
  simp at hafter

end RendererService
