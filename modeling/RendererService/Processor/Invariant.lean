import RendererService.Processor.Steps

/-!
# The invariant of the processor

Each step keeps `ProcessorOk`.  Most steps replace one queue of the table, so
one lemma about replacing a queue carries the argument, and each step supplies
what it does to that queue and to the pending idles.
-/

namespace RendererService

/-! ## Looking at one queue -/

theorem queue?_modifyQueue (w : World) (k k' : TaskQueueKey) (f : TaskQueue → TaskQueue) :
    (w.modifyQueue k f).queue? k' =
      if k' = k then (w.queue? k).map f else w.queue? k' :=
  Assoc.lookup_modify _ _ _ _

theorem queue?_eraseQueue (w : World) (k k' : TaskQueueKey) :
    (w.eraseQueue k).queue? k' = if k' = k then none else w.queue? k' :=
  Assoc.lookup_erase_eq _ _ _

theorem queue?_dropQueue (w : World) (k k' : TaskQueueKey) (q : TaskQueue) :
    (w.dropQueue k q).queue? k' = if k' = k then none else w.queue? k' := by
  have herase := queue?_eraseQueue w k k'
  unfold World.dropQueue
  cases q.finallyCb <;> exact herase

theorem QueueOk.takesRequests {w : World} {k : TaskQueueKey} {q : TaskQueue} {a : TaskAtom}
    {t : ClientTask} (h : QueueOk w k q) (ha : a ∈ q.tasks) (ht : w.tasks a = some (.client t)) :
    q.callbacks = .client := by
  have hfresh := h.fresh a ha
  cases hcs : q.callbacks with
  | client => rfl
  | service =>
      rw [hcs] at hfresh
      obtain ⟨t₀, ht₀⟩ := TaskCallbacks.live_service hfresh.live
      simp [ht] at ht₀

namespace ProcessorOk

variable {w : World}

theorem idle_unique (h : ProcessorOk w) {i : Nat} {k k' : TaskQueueKey}
    (hk : (i, k) ∈ w.loop.processIdles) (hk' : (i, k') ∈ w.loop.processIdles) : k = k' := by
  have heq := List.inj_on_of_nodup_map h.idlesNodup hk hk' rfl
  exact (Prod.mk.inj heq).2

theorem idle_eq (h : ProcessorOk w) {i : Nat} {k : TaskQueueKey} {q : TaskQueue}
    (hq : w.queue? k = some q) (hk : (i, k) ∈ w.loop.processIdles) : q.idleId = i := by
  obtain ⟨q', hq', hid⟩ := h.idles _ hk
  obtain rfl : q = q' := Option.some.inj (hq.symm.trans hq')
  exact hid

/-- Removing the source of one queue leaves the sources of the others. -/
theorem mem_sourceRemove (h : ProcessorOk w) {k : TaskQueueKey} {q : TaskQueue}
    (hq : w.queue? k = some q) (i : Nat) (k' : TaskQueueKey) :
    (i, k') ∈ (w.sourceRemoveProcess q.idleId).loop.processIdles ↔
      k' ≠ k ∧ (i, k') ∈ w.loop.processIdles := by
  simp only [World.sourceRemoveProcess, List.mem_filter, decide_eq_true_eq]
  constructor
  · rintro ⟨hmem, hne⟩
    refine ⟨?_, hmem⟩
    rintro rfl
    exact hne (h.idle_eq hq hmem).symm
  · rintro ⟨hk, hmem⟩
    refine ⟨hmem, ?_⟩
    rintro rfl
    have hpos := (h.positive _ hmem).1
    have hown := ((h.queues k q hq).idle (Nat.ne_of_gt hpos)).2.2
    exact hk (h.idle_unique hmem hown)

theorem idlePositive (h : ProcessorOk w) : w.IdlePositive := fun s hs => (h.positive s hs).1

end ProcessorOk

/-! ## Untouched queues -/

theorem QueueOk.frame {w w' : World} {k : TaskQueueKey} {q : TaskQueue} (h : QueueOk w k q)
    (hkey : w.processor.nextKey ≤ w'.processor.nextKey) (htask : w.nextTask ≤ w'.nextTask)
    (hrecords : ∀ a, a.queueId = k → a.id < w.nextTask → w'.tasks a = w.tasks a)
    (hidles : ∀ i, (i, k) ∈ w.loop.processIdles → (i, k) ∈ w'.loop.processIdles) :
    QueueOk w' k q where
  key := Nat.lt_of_lt_of_le h.key hkey
  owned a ha := ⟨(h.owned a ha).1, Nat.lt_of_lt_of_le (h.owned a ha).2 htask⟩
  nodup := h.nodup
  fresh a ha := by
    rw [hrecords a (h.owned a ha).1 (h.owned a ha).2]
    exact h.fresh a ha
  current a ha := by
    obtain ⟨hk, hid, hnot, hlive⟩ := h.current a ha
    rw [hrecords a hk hid]
    exact ⟨hk, Nat.lt_of_lt_of_le hid htask, hnot, hlive⟩
  idle hne := by
    obtain ⟨hcurrent, htasks, hmem⟩ := h.idle hne
    exact ⟨hcurrent, htasks, hidles _ hmem⟩

theorem ProcessorOk.modify {w w' : World} {k : TaskQueueKey} {q : TaskQueue}
    {f : TaskQueue → TaskQueue} (h : ProcessorOk w) (hq : w.queue? k = some q)
    (htable : w'.processor.taskQueues = Assoc.modify w.processor.taskQueues k f)
    (hkey : w'.processor.nextKey = w.processor.nextKey) (htask : w.nextTask ≤ w'.nextTask)
    (hrecords : ∀ a, a.queueId ≠ k → a.id < w.nextTask → w'.tasks a = w.tasks a)
    (hidles : ∀ i k', k' ≠ k →
      ((i, k') ∈ w'.loop.processIdles ↔ (i, k') ∈ w.loop.processIdles))
    (hown : ∀ i, (i, k) ∈ w'.loop.processIdles → (f q).idleId = i)
    (hpositive : ∀ s ∈ w'.loop.processIdles, 0 < s.1 ∧ s.1 < w'.loop.nextSource)
    (hnodup : (w'.loop.processIdles.map Prod.fst).Nodup) (hsource : 0 < w'.loop.nextSource)
    (hrunning : w'.processor.runningTasks + (if q.currentTask.isSome then 1 else 0) =
      w.processor.runningTasks + if (f q).currentTask.isSome then 1 else 0)
    (hqueue : QueueOk w' k (f q)) : ProcessorOk w' := by
  have hlookup : ∀ k', w'.queue? k' = if k' = k then some (f q) else w.queue? k' := by
    intro k'
    show w'.processor.taskQueues.lookup k' = _
    rw [htable, Assoc.lookup_modify, show w.processor.taskQueues.lookup k = some q from hq]
    rfl
  have hlive : ∀ k' q', w'.queue? k' = some q' → ∃ q₀, w.queue? k' = some q₀ := by
    intro k' q' hk'
    rw [hlookup] at hk'
    by_cases hkk : k' = k
    · exact ⟨q, hkk ▸ hq⟩
    · exact ⟨q', by simpa [hkk] using hk'⟩
  refine ⟨?_, ?_, ?_, ?_, hpositive, hnodup, hsource⟩
  · intro k' q' hk'
    rw [hlookup] at hk'
    by_cases hkk : k' = k
    · obtain rfl : f q = q' := by simpa [hkk] using hk'
      exact hkk ▸ hqueue
    · rw [if_neg hkk] at hk'
      refine (h.queues k' q' hk').frame (Nat.le_of_eq hkey.symm) htask ?_
        fun i => (hidles i k' hkk).mpr
      intro a ha hid
      exact hrecords a (ha ▸ hkk) hid
  · intro k₁ k₂ q₁ q₂ h₁ h₂ hsrc hsnk
    obtain ⟨q₁', h₁'⟩ := hlive k₁ q₁ h₁
    obtain ⟨q₂', h₂'⟩ := hlive k₂ q₂ h₂
    exact h.unique k₁ k₂ q₁' q₂' h₁' h₂' hsrc hsnk
  · have hcount := Assoc.count_modify (f := f) (p := fun q => q.currentTask.isSome) hq
    have hold := h.running
    unfold World.runningQueues at hold ⊢
    rw [htable]
    omega
  · rintro ⟨i, k'⟩ hs
    by_cases hkk : k' = k
    · subst hkk
      exact ⟨f q, by simp [hlookup], hown i hs⟩
    · obtain ⟨q', hq', hid⟩ := h.idles (i, k') ((hidles i k' hkk).mp hs)
      exact ⟨q', by simpa [hlookup, hkk] using hq', hid⟩

theorem ProcessorOk.congr {w w' : World} (h : ProcessorOk w)
    (htable : w'.processor.taskQueues = w.processor.taskQueues)
    (hkey : w'.processor.nextKey = w.processor.nextKey)
    (hrunning : w'.processor.runningTasks = w.processor.runningTasks)
    (hloop : w'.loop.processIdles = w.loop.processIdles)
    (hsource : w'.loop.nextSource = w.loop.nextSource)
    (htasks : w'.tasks = w.tasks) (htask : w'.nextTask = w.nextTask) : ProcessorOk w' := by
  have hlookup : ∀ k, w'.queue? k = w.queue? k := fun k => by
    show w'.processor.taskQueues.lookup k = _
    rw [htable]
  refine ⟨?_, ?_, ?_, ?_, ?_, ?_, ?_⟩
  · intro k q hq
    rw [hlookup] at hq
    exact (h.queues k q hq).frame (Nat.le_of_eq hkey.symm) (Nat.le_of_eq htask.symm)
      (fun a _ _ => by rw [htasks])
      fun i hi => by rwa [hloop]
  · intro k k' q q' hq hq'
    rw [hlookup] at hq hq'
    exact h.unique k k' q q' hq hq'
  · rw [hrunning, h.running, World.runningQueues, World.runningQueues, htable]
  · intro s hs
    rw [hlookup]
    exact h.idles s (hloop ▸ hs)
  · rw [hloop, hsource]
    exact h.positive
  · rw [hloop]
    exact h.idlesNodup
  · rw [hsource]
    exact h.source

/-! ## One step -/

section Steps

variable {w : World} {k : TaskQueueKey} {q : TaskQueue}

theorem addQueue_ok (h : ProcessorOk w) {source sink : String} (flags : TaskQueueFlags)
    (callbacks : TaskCallbacks) (hnew : rsuTaskProcessorLookupQueue w source sink = none) :
    ProcessorOk (w.addQueue source sink flags callbacks) := by
  let key : TaskQueueKey := ⟨w.processor.nextKey, source, sink⟩
  have hnone : w.queue? key = none := by
    by_contra hne
    obtain ⟨q, hq⟩ := Option.ne_none_iff_exists'.mp hne
    exact Nat.lt_irrefl _ (h.queues key q hq).key
  have hlookup : ∀ k', (w.addQueue source sink flags callbacks).queue? k' =
      if k' = key then some { callbacks := callbacks, flags := flags } else w.queue? k' :=
    fun k' => Assoc.lookup_insert_eq _ _ _ _
  have hother : ∀ k' q', w.queue? k' = some q' → ¬(k'.source = source ∧ k'.sink = sink) := by
    intro k' q' hq' hsame
    have hkey : k' ∈ w.processor.taskQueues.keys := Assoc.mem_keys_iff.mpr ⟨q', hq'⟩
    have := List.find?_eq_none.mp hnew k' hkey
    simp [hsame] at this
  refine ⟨?_, ?_, ?_, ?_, h.positive, h.idlesNodup, h.source⟩
  · intro k' q' hk'
    rw [hlookup] at hk'
    by_cases hkk : k' = key
    · obtain rfl : ({ callbacks := callbacks, flags := flags } : TaskQueue) = q' := by
        simpa [hkk] using hk'
      subst hkk
      refine ⟨Nat.lt_succ_self _, ?_, List.nodup_nil, ?_, ?_, ?_⟩ <;> simp
    · rw [if_neg hkk] at hk'
      exact (h.queues k' q' hk').frame (Nat.le_succ _) (Nat.le_refl _) (fun _ _ _ => rfl)
        fun _ hi => hi
  · intro k₁ k₂ q₁ q₂ h₁ h₂ hsrc hsnk
    rw [hlookup] at h₁ h₂
    by_cases hk₁ : k₁ = key <;> by_cases hk₂ : k₂ = key
    · rw [hk₁, hk₂]
    · rw [if_neg hk₂] at h₂
      exact absurd ⟨by rw [← hsrc, hk₁], by rw [← hsnk, hk₁]⟩ (hother k₂ q₂ h₂)
    · rw [if_neg hk₁] at h₁
      exact absurd ⟨by rw [hsrc, hk₂], by rw [hsnk, hk₂]⟩ (hother k₁ q₁ h₁)
    · rw [if_neg hk₁] at h₁
      rw [if_neg hk₂] at h₂
      exact h.unique k₁ k₂ q₁ q₂ h₁ h₂ hsrc hsnk
  · have hcount := Assoc.count_insert_of_lookup_none
      ({ callbacks := callbacks, flags := flags } : TaskQueue)
      (fun q => q.currentTask.isSome) hnone
    exact h.running.trans hcount.symm
  · intro s hs
    obtain ⟨q', hq', hid⟩ := h.idles s hs
    refine ⟨q', ?_, hid⟩
    rw [hlookup, if_neg]
    · exact hq'
    · intro hkk
      rw [hkk] at hq'
      exact absurd (hnone.symm.trans hq') (by simp)

theorem pushTask_ok (h : ProcessorOk w) {task : Task} (hq : w.queue? k = some q)
    (hfresh : q.callbacks.Fresh (some task)) : ProcessorOk (w.pushTask k task) := by
  have hold := h.queues k q hq
  have hnew : ∀ a : TaskAtom, a.id < w.nextTask → (w.pushTask k task).tasks a = w.tasks a := by
    intro a ha
    have hne : a ≠ w.newAtom k := by
      rintro rfl
      exact Nat.lt_irrefl _ ha
    exact if_neg hne
  have hself : (w.pushTask k task).tasks (w.newAtom k) = some task := if_pos rfl
  have hnot : w.newAtom k ∉ q.tasks := fun hmem => Nat.lt_irrefl _ (hold.owned _ hmem).2
  refine h.modify hq rfl rfl (Nat.le_succ _) (fun a _ ha => hnew a ha) (fun _ _ _ => Iff.rfl)
    (fun i hi => show q.idleId = i from h.idle_eq hq hi) h.positive h.idlesNodup h.source rfl ?_
  refine ⟨hold.key, ?_, ?_, ?_, ?_, ?_⟩
  · intro a ha
    rcases List.mem_append.mp ha with ha | ha
    · exact ⟨(hold.owned a ha).1, Nat.lt_succ_of_lt (hold.owned a ha).2⟩
    · obtain rfl := List.mem_singleton.mp ha
      exact ⟨rfl, Nat.lt_succ_self _⟩
  · exact List.nodup_append.mpr ⟨hold.nodup, List.nodup_singleton _, fun a ha b hb hab =>
      hnot (List.mem_singleton.mp hb ▸ hab ▸ ha)⟩
  · intro a ha
    rcases List.mem_append.mp ha with ha | ha
    · rw [hnew a (hold.owned a ha).2]
      exact hold.fresh a ha
    · obtain rfl := List.mem_singleton.mp ha
      rw [hself]
      exact hfresh
  · intro a ha
    obtain ⟨hk, hid, hnot', hlive⟩ := hold.current a ha
    refine ⟨hk, Nat.lt_succ_of_lt hid, ?_, by rwa [hnew a hid]⟩
    intro hmem
    rcases List.mem_append.mp hmem with hmem | hmem
    · exact hnot' hmem
    · rw [List.mem_singleton.mp hmem] at hid
      exact Nat.lt_irrefl _ hid
  · intro hne
    obtain ⟨hcurrent, -, hmem⟩ := hold.idle hne
    exact ⟨hcurrent, by simp, hmem⟩

theorem idleAddProcess_ok (h : ProcessorOk w) (hq : w.queue? k = some q)
    (hcurrent : q.currentTask = none) (hidle : q.idleId = 0) (htasks : q.tasks ≠ []) :
    ProcessorOk (w.idleAddProcess k) := by
  have hold := h.queues k q hq
  have hmem : ∀ s, s ∈ (w.idleAddProcess k).loop.processIdles ↔
      s ∈ w.loop.processIdles ∨ s = (w.loop.nextSource, k) := by
    intro s
    exact List.mem_append.trans (or_congr_right List.mem_singleton)
  have hnone : ∀ i, (i, k) ∉ w.loop.processIdles := by
    intro i hi
    have hid := h.idle_eq hq hi
    have := (h.positive _ hi).1
    omega
  refine h.modify (f := fun q => { q with idleId := w.loop.nextSource }) hq rfl rfl
    (Nat.le_refl _) (fun _ _ _ => rfl) ?_ ?_ ?_ ?_ (Nat.succ_pos _) rfl ?_
  · intro i k' hk'
    rw [hmem]
    simp [hk']
  · intro i hi
    rcases (hmem _).mp hi with hi | hi
    · exact absurd hi (hnone i)
    · exact (Prod.mk.inj hi).1.symm
  · intro s hs
    rcases (hmem _).mp hs with hs | rfl
    · exact ⟨(h.positive s hs).1, Nat.lt_succ_of_lt (h.positive s hs).2⟩
    · exact ⟨h.source, Nat.lt_succ_self _⟩
  · show ((w.loop.processIdles ++ [(w.loop.nextSource, k)]).map Prod.fst).Nodup
    rw [List.map_append]
    refine List.nodup_append.mpr ⟨h.idlesNodup, List.nodup_singleton _, ?_⟩
    intro i hi j hj hij
    obtain ⟨s, hs, rfl⟩ := List.mem_map.mp hi
    have := (h.positive s hs).2
    have hj' : j = w.loop.nextSource := List.mem_singleton.mp hj
    omega
  · exact ⟨hold.key, hold.owned, hold.nodup, hold.fresh, hold.current,
      fun _ => ⟨hcurrent, htasks, (hmem _).mpr (.inr rfl)⟩⟩

theorem dispatchTask_ok (h : ProcessorOk w) {a : TaskAtom} {rest : List TaskAtom}
    (hq : w.queue? k = some q) (hidle : q.idleId ≠ 0) (htasks : q.tasks = a :: rest) :
    ProcessorOk ((w.sourceRemoveProcess q.idleId).dispatchTask k a rest) := by
  have hold := h.queues k q hq
  obtain ⟨hcurrent, -, -⟩ := hold.idle hidle
  have hrest : ∀ b ∈ rest, b ∈ q.tasks := fun b hb => htasks ▸ List.mem_cons_of_mem a hb
  have hhead : a ∈ q.tasks := htasks ▸ List.mem_cons_self
  have hnodup : a ∉ rest ∧ rest.Nodup := List.nodup_cons.mp (htasks ▸ hold.nodup)
  refine h.modify (f := fun q =>
    { q with cancelled := false, idleId := 0, currentTask := some a, tasks := rest }) hq rfl rfl
    (Nat.le_refl _) (fun _ _ _ => rfl) ?_ ?_ ?_ ?_ h.source ?_ ?_
  · intro i k' hk'
    exact (h.mem_sourceRemove hq i k').trans (and_iff_right hk')
  · intro i hi
    exact absurd rfl ((h.mem_sourceRemove hq i k).mp hi).1
  · intro s hs
    exact h.positive s (List.mem_of_mem_filter hs)
  · exact h.idlesNodup.sublist (List.filter_sublist.map _)
  · simp [hcurrent, World.dispatchTask, World.emit, World.setRunning, World.modifyQueue,
      World.setQueues, World.sourceRemoveProcess]
  · refine ⟨hold.key, fun b hb => hold.owned b (hrest b hb), hnodup.2,
      fun b hb => hold.fresh b (hrest b hb), ?_, fun hne => absurd rfl hne⟩
    intro b hb
    obtain rfl : a = b := Option.some.inj hb
    exact ⟨(hold.owned a hhead).1, (hold.owned a hhead).2, hnodup.1, (hold.fresh a hhead).live⟩

theorem steer_ok (h : ProcessorOk w) {f : TaskQueue → TaskQueue} (hq : w.queue? k = some q)
    (htasks : (f q).tasks = q.tasks) (hcbs : (f q).callbacks = q.callbacks)
    (hcurrent : (f q).currentTask = q.currentTask) (hidle : (f q).idleId = q.idleId) :
    ProcessorOk (w.modifyQueue k f) := by
  have hold := h.queues k q hq
  refine h.modify hq rfl rfl (Nat.le_refl _) (fun _ _ _ => rfl) (fun _ _ _ => Iff.rfl) ?_
    h.positive h.idlesNodup h.source (by rw [hcurrent]; rfl) ?_
  · intro i hi
    rw [hidle]
    exact h.idle_eq hq hi
  · refine ⟨hold.key, ?_, ?_, ?_, ?_, ?_⟩
    · rw [htasks]
      exact hold.owned
    · rw [htasks]
      exact hold.nodup
    · rw [htasks, hcbs]
      exact hold.fresh
    · rw [htasks, hcbs, hcurrent]
      exact hold.current
    · rw [htasks, hcurrent, hidle]
      exact hold.idle

theorem clearQueue_ok (h : ProcessorOk w) (hq : w.queue? k = some q) :
    ProcessorOk (w.clearQueue k q) := by
  have hold := h.queues k q hq
  refine h.modify (f := fun q => { q with cancelled := true, tasks := [], idleId := 0 }) hq rfl
    rfl (Nat.le_refl _) ?_ ?_ ?_ ?_ ?_ h.source rfl ?_
  · intro a ha _
    exact if_neg fun hmem => ha (hold.owned a hmem).1
  · intro i k' hk'
    exact (h.mem_sourceRemove hq i k').trans (and_iff_right hk')
  · intro i hi
    exact absurd rfl ((h.mem_sourceRemove hq i k).mp hi).1
  · intro s hs
    exact h.positive s (List.mem_of_mem_filter hs)
  · exact h.idlesNodup.sublist (List.filter_sublist.map _)
  · refine ⟨hold.key, by simp, List.nodup_nil, by simp, ?_, fun hne => absurd rfl hne⟩
    intro a ha
    obtain ⟨hk, hid, hnot, hlive⟩ := hold.current a ha
    have hrecord : (w.clearQueue k q).tasks a = w.tasks a := if_neg hnot
    exact ⟨hk, hid, by simp, by rwa [hrecord]⟩

theorem completeTask_ok (h : ProcessorOk w) {a : TaskAtom} (ha : w.Current a) :
    ProcessorOk (w.completeTask a.queueId a) := by
  obtain ⟨q, hq, hcurrent⟩ := ha
  have hold := h.queues _ q hq
  obtain ⟨-, -, hnot, -⟩ := hold.current a hcurrent
  have hpos : 0 < w.processor.runningTasks := by
    rw [h.running]
    exact Assoc.count_pos_of_lookup hq (by simp [hcurrent])
  have hfinish : ProcessorOk (w.finishTask a.queueId a) := by
    refine h.modify (f := fun q => { q with currentTask := none }) hq rfl rfl (Nat.le_refl _)
      ?_ (fun _ _ _ => Iff.rfl) (fun i hi => show q.idleId = i from h.idle_eq hq hi) h.positive
      h.idlesNodup h.source ?_ ?_
    · intro b hb _
      refine if_neg fun hmem => hb ?_
      rw [List.mem_singleton.mp hmem]
    · show guintPred w.processor.runningTasks + _ = _
      rw [guintPred, if_neg (Nat.ne_of_gt hpos), hcurrent]
      simp only [Option.isSome_some, Option.isSome_none, if_true, Bool.false_eq_true, if_false]
      omega
    · have hkeep : ∀ b ∈ q.tasks, (w.finishTask a.queueId a).tasks b = w.tasks b := by
        intro b hb
        refine if_neg fun hmem => hnot ?_
        rwa [← List.mem_singleton.mp hmem]
      refine ⟨hold.key, hold.owned, hold.nodup, ?_, by simp, ?_⟩
      · intro b hb
        rw [hkeep b hb]
        exact hold.fresh b hb
      · intro hne
        exact ⟨rfl, (hold.idle hne).2⟩
  unfold World.completeTask
  dsimp only
  split
  · exact hfinish.congr rfl rfl rfl rfl rfl rfl rfl
  · exact hfinish

theorem dropQueue_ok (h : ProcessorOk w) (hq : w.queue? k = some q)
    (hcurrent : q.currentTask = none) (hidle : q.idleId = 0) : ProcessorOk (w.dropQueue k q) := by
  have hold := h.queues k q hq
  have hframe : (w.dropQueue k q).processor.nextKey = w.processor.nextKey ∧
      (w.dropQueue k q).nextTask = w.nextTask ∧
      (w.dropQueue k q).loop.processIdles = w.loop.processIdles ∧
      (w.dropQueue k q).loop.nextSource = w.loop.nextSource ∧
      (w.dropQueue k q).processor.runningTasks = w.processor.runningTasks ∧
      (w.dropQueue k q).processor.taskQueues = w.processor.taskQueues.erase k ∧
      (w.dropQueue k q).tasks = fun b => if b ∈ q.tasks then none else w.tasks b := by
    unfold World.dropQueue
    cases q.finallyCb <;> exact ⟨rfl, rfl, rfl, rfl, rfl, rfl, rfl⟩
  obtain ⟨hkey, htask, hidles, hsource, hrunning, htable, hrecords⟩ := hframe
  have hne : ∀ {k' q'}, (w.dropQueue k q).queue? k' = some q' → k' ≠ k ∧ w.queue? k' = some q' := by
    intro k' q' hk'
    rw [queue?_dropQueue] at hk'
    by_cases hkk : k' = k
    · simp [hkk] at hk'
    · exact ⟨hkk, by simpa [hkk] using hk'⟩
  refine ⟨?_, ?_, ?_, ?_, ?_, by rw [hidles]; exact h.idlesNodup, hsource ▸ h.source⟩
  · intro k' q' hk'
    obtain ⟨hkk, hk'⟩ := hne hk'
    refine (h.queues k' q' hk').frame (Nat.le_of_eq hkey.symm) (Nat.le_of_eq htask.symm) ?_
      fun i hi => by rwa [hidles]
    intro a ha _
    rw [hrecords]
    exact if_neg fun hmem => hkk (ha ▸ (hold.owned a hmem).1)
  · intro k₁ k₂ q₁ q₂ h₁ h₂
    exact h.unique k₁ k₂ q₁ q₂ (hne h₁).2 (hne h₂).2
  · have hcount := Assoc.count_eq_erase (fun q : TaskQueue => q.currentTask.isSome) hq
    simp only [hcurrent, Option.isSome_none, Bool.false_eq_true, if_false] at hcount
    rw [hrunning, h.running, World.runningQueues, World.runningQueues, htable]
    exact hcount
  · rintro ⟨i, k'⟩ hs
    rw [hidles] at hs
    obtain ⟨q', hq', hid⟩ := h.idles _ hs
    refine ⟨q', ?_, hid⟩
    rw [queue?_dropQueue, if_neg]
    · exact hq'
    · rintro rfl
      have := h.idle_eq hq hs
      have := (h.positive _ hs).1
      omega
  · rw [hidles, hsource]
    exact h.positive

theorem rehash_ok (h : ProcessorOk w) {t : Assoc.Table TaskQueueKey TaskQueue}
    (ht : t.entries.Perm w.processor.taskQueues.entries) : ProcessorOk (w.setQueues t) := by
  have hlookup : ∀ k, (w.setQueues t).queue? k = w.queue? k :=
    fun k => AList.perm_lookup ht
  refine ⟨?_, ?_, ?_, ?_, h.positive, h.idlesNodup, h.source⟩
  · intro k q hq
    rw [hlookup] at hq
    exact (h.queues k q hq).frame (Nat.le_refl _) (Nat.le_refl _) (fun _ _ _ => rfl)
      fun _ hi => hi
  · intro k k' q q' hq hq'
    rw [hlookup] at hq hq'
    exact h.unique k k' q q' hq hq'
  · exact h.running.trans (Assoc.count_perm ht.symm _)
  · intro s hs
    rw [hlookup]
    exact h.idles s hs

theorem elsewhere_ok {w' : World} (h : ProcessorOk w) (he : Elsewhere w w') : ProcessorOk w' := by
  have hlookup : ∀ k, w'.queue? k = w.queue? k := fun k => by
    show w'.processor.taskQueues.lookup k = _
    rw [he.processor]
  refine ⟨?_, ?_, ?_, ?_, ?_, ?_, Nat.lt_of_lt_of_le h.source he.nextSource⟩
  · intro k q hq
    rw [hlookup] at hq
    have hold := h.queues k q hq
    refine ⟨by rw [he.processor]; exact hold.key, by rw [he.nextTask]; exact hold.owned,
      hold.nodup, ?_, ?_, by rw [he.processIdles]; exact hold.idle⟩
    · intro a ha
      rw [he.queued k q a hq ha]
      exact hold.fresh a ha
    · intro a ha
      obtain ⟨hk, hid, hnot, hlive⟩ := hold.current a ha
      exact ⟨hk, by rwa [he.nextTask], hnot, he.current k q a hq ha hlive⟩
  · intro k k' q q' hq hq'
    rw [hlookup] at hq hq'
    exact h.unique k k' q q' hq hq'
  · rw [he.processor, h.running, World.runningQueues, World.runningQueues, he.processor]
  · intro s hs
    rw [hlookup]
    exact h.idles s (he.processIdles ▸ hs)
  · intro s hs
    rw [he.processIdles] at hs
    exact ⟨(h.positive s hs).1, Nat.lt_of_lt_of_le (h.positive s hs).2 he.nextSource⟩
  · rw [he.processIdles]
    exact h.idlesNodup

end Steps

theorem Step.ok {E : World → World → Prop} (hE : ∀ w w', ProcessorOk w → E w w' → Elsewhere w w')
    {w w' : World} {act : Act} (h : ProcessorOk w) (hstep : Step E w act w') :
    ProcessorOk w' := by
  cases hstep with
  | addQueue flags callbacks hnew => exact addQueue_ok h flags callbacks hnew
  | addTask hq hfresh => exact pushTask_ok h hq hfresh
  | arm hq hcurrent hidle htasks => exact idleAddProcess_ok h hq hcurrent hidle htasks
  | dispatch hq hidle htasks => exact dispatchTask_ok h hq hidle htasks
  | configure hq hf => exact steer_ok h hq hf.1 hf.2.1 hf.2.2.1 hf.2.2.2.1
  | defer _ hq _ _ => exact steer_ok h hq rfl rfl rfl rfl
  | clear hq => exact clearQueue_ok h hq
  | cancelling _ => exact h.congr rfl rfl rfl rfl rfl rfl rfl
  | complete ha => exact completeTask_ok h ha
  | remove hq hcurrent hidle _ => exact dropQueue_ok h hq hcurrent hidle
  | quitting _ => exact h.congr rfl rfl rfl rfl rfl rfl rfl
  | quitNow _ => exact h.congr rfl rfl rfl rfl rfl rfl rfl
  | rehash ht => exact rehash_ok h ht
  | elsewhere he => exact elsewhere_ok h (hE _ _ h he)

end RendererService
