import RendererService.Processor.Footprint
import RendererService.Service.Devices

/-!
# Tasks, actions and completions

A pending action belongs to a current task, and the record of that task says
which action it waits for.  A client task may schedule its completion only while
its record is `Unscheduled`: not handed over yet, or with the cancel handler
connected and not yet run.
-/

namespace RendererService

/-! ## Actions -/

/-- The cancel handler is connected and was not run. -/
def ClientTask.Armed (t : ClientTask) : Prop :=
  t.cancellable = some { cancelled := false, connected := true }

def Expects (act : ProxyAction) : Option Task → Prop
  | some (.client t) => t.action = some act.id ∧ t.proxy = some act.proxy ∧ t.Armed ∧
      act.callback ≠ .rsuServiceTaskBeginActionCb
  | some (.service t) => t.pAction = some act.id ∧ t.proxy = some act.proxy ∧
      act.callback = .rsuServiceTaskBeginActionCb
  | none => False

def Task.action : Task → Option Nat
  | .client t => t.action
  | .service t => t.pAction

def Task.client? : Task → Option ClientTask
  | .client t => some t
  | .service _ => none

theorem client?_eq_some {w : World} {a : TaskAtom} {t : ClientTask} :
    (w.tasks a).bind Task.client? = some t ↔ w.tasks a = some (.client t) := by
  cases ht : w.tasks a with
  | none => simp
  | some r =>
      cases r with
      | client t' => simp [Task.client?]
      | service t' => simp [Task.client?]

def World.Names (w : World) (a : TaskAtom) (id : Nat) : Prop :=
  ∃ r, w.tasks a = some r ∧ r.action = some id

structure ActionsOk (w : World) : Prop where
  awaited : ∀ act ∈ w.gupnp.actions, w.Current act.task ∧ Expects act (w.tasks act.task)
  live : ∀ act ∈ w.gupnp.actions, act.proxy ∈ w.gupnp.proxies
  ids : (w.gupnp.actions.map ProxyAction.id).Nodup
  bound : ∀ act ∈ w.gupnp.actions, act.id < w.gupnp.nextAction
  named : ∀ a id, w.Names a id → id < w.gupnp.nextAction ∧
    ∀ act ∈ w.gupnp.actions, act.id = id → act.task = a

def World.NoAction (w : World) (a : TaskAtom) : Prop :=
  ∀ act ∈ w.gupnp.actions, act.task ≠ a

section Actions

variable {w w' : World} {a : TaskAtom}

/-- No action is begun, and the tasks of those that stay are left alone. -/
theorem ActionsOk.mono (h : ActionsOk w) (hsub : w'.gupnp.actions.Sublist w.gupnp.actions)
    (hnext : w'.gupnp.nextAction = w.gupnp.nextAction)
    (hnames : ∀ a id, w'.Names a id → w.Names a id)
    (hkeep : ∀ act ∈ w'.gupnp.actions, (w.Current act.task → w'.Current act.task) ∧
      (Expects act (w.tasks act.task) → Expects act (w'.tasks act.task)) ∧
      (act.proxy ∈ w.gupnp.proxies → act.proxy ∈ w'.gupnp.proxies)) : ActionsOk w' := by
  refine ⟨?_, ?_, h.ids.sublist (hsub.map _), ?_, ?_⟩
  · intro act hact
    obtain ⟨hcurrent, hexpects⟩ := h.awaited act (hsub.subset hact)
    exact ⟨(hkeep act hact).1 hcurrent, (hkeep act hact).2.1 hexpects⟩
  · intro act hact
    exact (hkeep act hact).2.2 (h.live act (hsub.subset hact))
  · intro act hact
    rw [hnext]
    exact h.bound act (hsub.subset hact)
  · intro a id hid
    obtain ⟨hlt, howner⟩ := h.named a id (hnames a id hid)
    rw [hnext]
    exact ⟨hlt, fun act hact => howner act (hsub.subset hact)⟩

theorem Touches.names (ht : Touches a w w') (hown : ∀ id, w'.Names a id → w.Names a id)
    (b : TaskAtom) (id : Nat) (hid : w'.Names b id) : w.Names b id := by
  by_cases hb : b = a
  · subst hb
    exact hown id hid
  · obtain ⟨r, hr, hname⟩ := hid
    exact ⟨r, by rw [← ht.others b hb, hr], hname⟩

theorem Expects.names {act : ProxyAction} {id : Nat} (h : Expects act (w.tasks a))
    (hid : w.Names a id) : id = act.id := by
  obtain ⟨r, hr, hname⟩ := hid
  rw [hr] at h
  cases r with
  | client t => exact Option.some.inj (hname.symm.trans h.1)
  | service t => exact Option.some.inj (hname.symm.trans h.1)

theorem ActionsOk.unique (h : ActionsOk w) {act act' : ProxyAction}
    (hact : act ∈ w.gupnp.actions) (hact' : act' ∈ w.gupnp.actions)
    (htask : act.task = act'.task) : act = act' := by
  refine List.inj_on_of_nodup_map h.ids hact hact' ?_
  obtain ⟨-, hexpects⟩ := h.awaited act hact
  obtain ⟨-, hexpects'⟩ := h.awaited act' hact'
  rw [htask] at hexpects
  rcases hr : w.tasks act'.task with _ | t | t
  · rw [hr] at hexpects
    exact hexpects.elim
  · rw [hr] at hexpects hexpects'
    exact Option.some.inj (hexpects.1.symm.trans hexpects'.1)
  · rw [hr] at hexpects hexpects'
    exact Option.some.inj (hexpects.1.symm.trans hexpects'.1)

/-- A client task whose handler is not connected waits for nothing. -/
theorem ActionsOk.noAction_client (h : ActionsOk w) {t : ClientTask}
    (ht : w.tasks a = some (.client t)) (harmed : ¬t.Armed) : w.NoAction a := by
  rintro act hact rfl
  obtain ⟨-, hexpects⟩ := h.awaited act hact
  rw [ht] at hexpects
  exact harmed hexpects.2.2.1

theorem ActionsOk.noAction_service (h : ActionsOk w) {t : ServiceTask}
    (ht : w.tasks a = some (.service t)) (hnone : t.pAction = none) : w.NoAction a := by
  rintro act hact rfl
  obtain ⟨-, hexpects⟩ := h.awaited act hact
  rw [ht] at hexpects
  exact absurd (hnone.symm.trans hexpects.1) (by simp)

theorem cancelPending_sublist (w : World) (proxy : Option ServiceProxy) (action : Option Nat) :
    (w.cancelPending proxy action).gupnp.actions.Sublist w.gupnp.actions := by
  unfold World.cancelPending
  split
  · exact List.filter_sublist
  · exact .refl _

theorem nextAction_cancelPending (w : World) (proxy : Option ServiceProxy)
    (action : Option Nat) :
    (w.cancelPending proxy action).gupnp.nextAction = w.gupnp.nextAction := by
  unfold World.cancelPending
  split <;> rfl

/-- A pending action is begun on a live proxy, so cancelling it removes it. -/
theorem ActionsOk.noAction_cancelPending (h : ActionsOk w) {proxy : Option ServiceProxy}
    {action : Option Nat}
    (hmatch : ∀ act, Expects act (w.tasks a) → action = some act.id ∧ proxy = some act.proxy) :
    (w.cancelPending proxy action).NoAction a := by
  rintro act hact rfl
  have hmem : act ∈ w.gupnp.actions := (cancelPending_sublist w proxy action).subset hact
  obtain ⟨haction, hproxy⟩ := hmatch act (h.awaited act hmem).2
  have hweak : (w.gupnp.weak proxy).isSome := by
    simp [Gupnp.weak, hproxy, h.live act hmem]
  rw [World.cancelPending, if_pos hweak] at hact
  have hne := (List.mem_filter.mp hact).2
  simp [haction] at hne

/-- What a callback does for the task `a` leaves the actions and completions of
other tasks alone. -/
structure Focus (a : TaskAtom) (w w' : World) : Prop extends Touches a w w' where
  actions : ∀ act : ProxyAction, act.task ≠ a →
    (act ∈ w'.gupnp.actions ↔ act ∈ w.gupnp.actions)
  completions : ∀ b, b ≠ a → (b ∈ w'.loop.completeIdles ↔ b ∈ w.loop.completeIdles)

theorem Touches.focus (ht : Touches a w w') (hactions : w'.gupnp.actions = w.gupnp.actions)
    (hidles : w'.loop.completeIdles = w.loop.completeIdles) : Focus a w w' :=
  ⟨ht, fun _ _ => by rw [hactions], fun _ _ => by rw [hidles]⟩

theorem Focus.trans {w'' : World} (h : Focus a w w') (h' : Focus a w' w'') : Focus a w w'' :=
  ⟨h.toTouches.trans h'.toTouches, fun act hact => (h'.actions act hact).trans (h.actions act hact),
    fun b hb => (h'.completions b hb).trans (h.completions b hb)⟩

theorem focus_idleAddComplete : Focus a w (w.idleAddComplete a) := by
  refine ⟨touches_idleAddComplete a, fun _ _ => Iff.rfl, fun b hb => ?_⟩
  have hidles : (w.idleAddComplete a).loop.completeIdles = w.loop.completeIdles ++ [a] := rfl
  rw [hidles, List.mem_append, List.mem_singleton]
  exact or_iff_left hb

theorem ActionsOk.focus_cancelPending (h : ActionsOk w) {r : Task} (hr : w.tasks a = some r)
    (proxy : Option ServiceProxy) : Focus a w (w.cancelPending proxy r.action) := by
  refine ⟨touches_cancelPending proxy r.action, fun act hact => ?_, fun b _ => ?_⟩
  · unfold World.cancelPending
    split
    · have hkeep : act ∈ w.gupnp.actions → some act.id ≠ r.action := fun hmem hid =>
        hact ((h.named a act.id ⟨r, hr, hid.symm⟩).2 act hmem rfl)
      simpa [gupnpServiceProxyCancelAction] using hkeep
    · exact Iff.rfl
  · unfold World.cancelPending
    split <;> exact Iff.rfl

/-- The record of `a` changes, which waits for no action any more. -/
theorem ActionsOk.settle (h : ActionsOk w) (ht : Touches a w w')
    (hsub : w'.gupnp.actions.Sublist w.gupnp.actions)
    (hnext : w'.gupnp.nextAction = w.gupnp.nextAction)
    (hown : ∀ id, w'.Names a id → w.Names a id) (hnone : w'.NoAction a) : ActionsOk w' := by
  refine h.mono hsub hnext (ht.names hown) fun act hact => ⟨ht.current.mpr, ?_, ?_⟩
  · rw [ht.others _ (hnone act hact)]
    exact id
  · rw [ht.proxies]
    exact id

theorem ActionsOk.begin (h : ActionsOk w) (ht : Touches a w w') {act : ProxyAction}
    (hactions : w'.gupnp.actions = w.gupnp.actions ++ [act])
    (hnext : w'.gupnp.nextAction = w.gupnp.nextAction + 1) (hid : act.id = w.gupnp.nextAction)
    (htask : act.task = a) (hcurrent : w.Current a) (hexpects : Expects act (w'.tasks a))
    (hlive : act.proxy ∈ w.gupnp.proxies) (hnone : w.NoAction a) : ActionsOk w' := by
  have hcase : ∀ act' ∈ w'.gupnp.actions, act' ∈ w.gupnp.actions ∨ act' = act := by
    intro act' hact'
    rw [hactions] at hact'
    exact (List.mem_append.mp hact').imp_right List.mem_singleton.mp
  refine ⟨?_, ?_, ?_, ?_, ?_⟩
  · intro act' hact'
    rcases hcase act' hact' with hold | rfl
    · rw [ht.others _ (hnone act' hold)]
      exact ⟨ht.current.mpr (h.awaited act' hold).1, (h.awaited act' hold).2⟩
    · rw [htask]
      exact ⟨ht.current.mpr hcurrent, hexpects⟩
  · intro act' hact'
    rw [ht.proxies]
    rcases hcase act' hact' with hold | rfl
    · exact h.live act' hold
    · exact hlive
  · rw [hactions, List.map_append, List.nodup_append]
    refine ⟨h.ids, List.nodup_singleton _, ?_⟩
    intro i hi j hj hij
    obtain ⟨act', hact', rfl⟩ := List.mem_map.mp hi
    have hj' : j = act.id := by simpa using hj
    exact Nat.ne_of_lt (h.bound act' hact') (hij.trans (hj'.trans hid))
  · intro act' hact'
    rw [hnext]
    rcases hcase act' hact' with hold | rfl
    · exact Nat.lt_succ_of_lt (h.bound act' hold)
    · rw [hid]
      exact Nat.lt_succ_self _
  · intro b id hb
    rw [hnext]
    by_cases hba : b = a
    · subst hba
      obtain rfl : id = act.id := hexpects.names hb
      refine ⟨by omega, fun act' hact' hsame => ?_⟩
      rcases hcase act' hact' with hold | rfl
      · have := h.bound act' hold
        omega
      · exact htask
    · obtain ⟨r, hr, hname⟩ := hb
      obtain ⟨hlt, howner⟩ := h.named b id ⟨r, by rw [← ht.others b hba, hr], hname⟩
      refine ⟨by omega, fun act' hact' hsame => ?_⟩
      rcases hcase act' hact' with hold | rfl
      · exact howner act' hold hsame
      · omega

end Actions

/-! ## Completions -/

def ClientTask.Unscheduled (t : ClientTask) : Prop := t.cancellable = none ∨ t.Armed

structure CompletionsOk (w : World) : Prop where
  pending : ∀ a ∈ w.loop.completeIdles, w.Current a ∧
    ∃ t, w.tasks a = some (.client t) ∧ ¬t.Unscheduled
  balance : ∀ a, w.log.count (.completeScheduled a) =
    w.loop.completeIdles.count a + w.log.count (.completeRan a)
  once : ∀ a, w.log.count (.completeScheduled a) ≤ 1
  unscheduled : ∀ a t, w.tasks a = some (.client t) → t.Unscheduled →
    .completeScheduled a ∉ w.log
  bound : ∀ a, .completeScheduled a ∈ w.log → a.id < w.nextTask
  ordered : Log.Before (fun past e => ∀ a, e = .completeScheduled a → .deleted a ∉ past) w.log

section Completions

variable {w w' : World} {a : TaskAtom} {l : List Event}

theorem count_completion (hl : ∀ e ∈ l, e.isCompletion = false) (a : TaskAtom) :
    l.count (.completeScheduled a) = 0 ∧ l.count (.completeRan a) = 0 := by
  constructor
  · exact List.count_eq_zero.mpr fun hmem => absurd (hl _ hmem) (by simp [Event.isCompletion])
  · exact List.count_eq_zero.mpr fun hmem => absurd (hl _ hmem) (by simp [Event.isCompletion])

theorem CompletionsOk.keep (h : CompletionsOk w) (hlog : w'.log = w.log ++ l)
    (hl : ∀ e ∈ l, e.isCompletion = false)
    (hidles : w'.loop.completeIdles = w.loop.completeIdles) (htask : w.nextTask ≤ w'.nextTask)
    (hpending : ∀ a ∈ w.loop.completeIdles, w.Current a →
      (∃ t, w.tasks a = some (.client t) ∧ ¬t.Unscheduled) →
      w'.Current a ∧ ∃ t, w'.tasks a = some (.client t) ∧ ¬t.Unscheduled)
    (hrecords : ∀ a t, w'.tasks a = some (.client t) → t.Unscheduled →
      (∃ t₀, w.tasks a = some (.client t₀) ∧ t₀.Unscheduled) ∨ w.nextTask ≤ a.id) :
    CompletionsOk w' := by
  have hcount := count_completion hl
  have hmem : ∀ a, .completeScheduled a ∈ w'.log → .completeScheduled a ∈ w.log := by
    intro a ha
    rw [hlog] at ha
    refine (List.mem_append.mp ha).resolve_right fun hnew => ?_
    exact absurd (hl _ hnew) (by simp [Event.isCompletion])
  refine ⟨?_, ?_, ?_, ?_, ?_, ?_⟩
  · intro a ha
    rw [hidles] at ha
    exact hpending a ha (h.pending a ha).1 (h.pending a ha).2
  · intro a
    rw [hlog, hidles, List.count_append, List.count_append, (hcount a).1, (hcount a).2]
    exact h.balance a
  · intro a
    rw [hlog, List.count_append, (hcount a).1]
    exact h.once a
  · intro a t ht hopen hscheduled
    rcases hrecords a t ht hopen with ⟨t₀, ht₀, hopen₀⟩ | hnew
    · exact h.unscheduled a t₀ ht₀ hopen₀ (hmem a hscheduled)
    · exact Nat.lt_irrefl _ (Nat.lt_of_lt_of_le (h.bound a (hmem a hscheduled)) hnew)
  · intro a ha
    exact Nat.lt_of_lt_of_le (h.bound a (hmem a ha)) htask
  · rw [hlog]
    refine h.ordered.append_of_forall ?_
    rintro e he past a rfl
    exact absurd (hl _ he) (by simp [Event.isCompletion])

theorem CompletionsOk.schedule (h : CompletionsOk w) (ht : Touches a w w')
    (hlog : w'.log = w.log ++ [.completeScheduled a])
    (hidles : w'.loop.completeIdles = w.loop.completeIdles ++ [a]) (hcurrent : w.Current a)
    (hbound : a.id < w.nextTask) (hnot : .completeScheduled a ∉ w.log)
    (hdeleted : .deleted a ∉ w.log)
    (hrecord : ∃ t, w'.tasks a = some (.client t) ∧ ¬t.Unscheduled) : CompletionsOk w' := by
  have hzero : w.log.count (.completeScheduled a) = 0 := List.count_eq_zero.mpr hnot
  refine ⟨?_, ?_, ?_, ?_, ?_, ?_⟩
  · intro b hb
    rw [ht.current]
    by_cases hba : b = a
    · subst hba
      exact ⟨hcurrent, hrecord⟩
    · rw [hidles] at hb
      have hold : b ∈ w.loop.completeIdles := by simpa [hba] using hb
      rw [ht.others b hba]
      exact h.pending b hold
  · intro b
    rw [hlog, hidles, List.count_append, List.count_append, List.count_append, h.balance b]
    by_cases hba : b = a
    · subst hba
      simp
      omega
    · have hne : Event.completeScheduled a ≠ .completeScheduled b := by simpa using Ne.symm hba
      simp [Ne.symm hba]
  · intro b
    rw [hlog, List.count_append]
    by_cases hba : b = a
    · subst hba
      rw [hzero]
      simp
    · have := h.once b
      simpa [List.count_cons, Ne.symm hba] using this
  · intro b t hb hopen hscheduled
    by_cases hba : b = a
    · subst hba
      obtain ⟨t', ht', hclosed⟩ := hrecord
      obtain rfl : t = t' := by simpa using hb.symm.trans ht'
      exact hclosed hopen
    · rw [ht.others b hba] at hb
      rw [hlog] at hscheduled
      exact h.unscheduled b t hb hopen (by simpa [hba] using hscheduled)
  · intro b hb
    rw [ht.nextTask]
    rw [hlog] at hb
    rcases List.mem_append.mp hb with hb | hb
    · exact h.bound b hb
    · obtain rfl : b = a := by simpa using hb
      exact hbound
  · rw [hlog]
    refine h.ordered.snoc ?_
    intro b hb
    obtain rfl : a = b := by simpa using hb
    exact hdeleted

theorem CompletionsOk.run (h : CompletionsOk w) (hlog : w'.log = w.log ++ [.completeRan a])
    (hidles : w'.loop.completeIdles = w.loop.completeIdles.erase a)
    (hmem : a ∈ w.loop.completeIdles) (hprocessor : w'.processor = w.processor)
    (htasks : w'.tasks = w.tasks) (htask : w'.nextTask = w.nextTask) : CompletionsOk w' := by
  have hscheduled : ∀ b, .completeScheduled b ∈ w'.log → .completeScheduled b ∈ w.log := by
    intro b hb
    rw [hlog] at hb
    simpa using hb
  refine ⟨?_, ?_, ?_, ?_, ?_, ?_⟩
  · intro b hb
    rw [hidles] at hb
    unfold World.Current World.queue?
    rw [hprocessor, htasks]
    exact h.pending b (List.mem_of_mem_erase hb)
  · intro b
    rw [hlog, hidles, List.count_append, List.count_append, h.balance b]
    by_cases hba : b = a
    · subst hba
      have hpos : 0 < w.loop.completeIdles.count b := List.count_pos_iff.mpr hmem
      rw [List.count_erase_self]
      simp
      omega
    · rw [List.count_erase_of_ne hba]
      simp [Ne.symm hba]
  · intro b
    rw [hlog, List.count_append]
    simpa [List.count_cons] using h.once b
  · intro b t hb hopen hmem'
    rw [htasks] at hb
    exact h.unscheduled b t hb hopen (hscheduled b hmem')
  · intro b hb
    rw [htask]
    exact h.bound b (hscheduled b hb)
  · rw [hlog]
    exact h.ordered.snoc (by simp)

theorem CompletionsOk.count_le (h : CompletionsOk w) (a : TaskAtom) :
    w.loop.completeIdles.count a ≤ 1 := by
  have hbalance := h.balance a
  have honce := h.once a
  omega

end Completions

/-! ## Steps of the processor -/

/-- The task is not waited for: neither an action nor a completion is pending. -/
def World.Quiet (w : World) (a : TaskAtom) : Prop :=
  w.NoAction a ∧ a ∉ w.loop.completeIdles

section Steps

variable {w w' : World} {act : Act}

theorem Footprint.actionsOk (hf : Footprint act w w') (h : ActionsOk w)
    (hquiet : ∀ a, act = .complete a → w.Quiet a)
    (hnames : ∀ a id, w'.Names a id → w.Names a id) : ActionsOk w' := by
  refine h.mono (by rw [hf.gupnp]) (by rw [hf.gupnp]) hnames fun action haction => ?_
  rw [hf.gupnp] at haction ⊢
  have hne : act ≠ .complete action.task := fun heq => (hquiet _ heq).1 action haction rfl
  obtain ⟨hcurrent, hrecord⟩ := hf.current _ (h.awaited action haction).1 hne
  exact ⟨fun _ => hcurrent, by rw [hrecord]; exact id, id⟩

theorem FreshRecord.client {t : ClientTask} (h : FreshRecord (some (.client t))) :
    t.cancellable = none := by
  obtain ⟨cs, hcs⟩ := h
  cases cs with
  | client => exact hcs
  | service => exact hcs.elim

theorem FreshRecord.service {t : ServiceTask} (h : FreshRecord (some (.service t))) :
    t.pAction = none := by
  obtain ⟨cs, hcs⟩ := h
  cases cs with
  | client => exact hcs.elim
  | service => exact hcs

theorem Footprint.completionsOk (hf : Footprint act w w') (h : CompletionsOk w)
    (hquiet : ∀ a, act = .complete a → w.Quiet a) : CompletionsOk w' := by
  obtain ⟨es, hlog, hes⟩ := hf.log
  refine h.keep hlog ?_ hf.completeIdles hf.nextTask ?_ ?_
  · intro e he
    rcases hes e he with hevent | ⟨i, r, rfl⟩
    · cases e <;> simp_all [Event.isProcessor, Event.isCompletion]
    · rfl
  · intro a ha hcurrent hrecord
    have hne : act ≠ .complete a := fun heq => (hquiet _ heq).2 ha
    obtain ⟨hcurrent', hsame⟩ := hf.current a hcurrent hne
    rw [hsame]
    exact ⟨hcurrent', hrecord⟩
  · intro a t ht hopen
    rcases hf.records a _ ht with hold | ⟨hnew, -⟩
    · exact .inl ⟨t, hold, hopen⟩
    · exact .inr (Nat.le_of_eq hnew.symm)

end Steps

end RendererService
