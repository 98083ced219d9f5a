import RendererService.Service.Ownership
import RendererService.Processor.Quitting

/-!
# Queues that go on

A queue goes on as long as something is pending that will end its current task,
or start its next one.  Whatever the processor does to a queue that goes on, it
goes on, unless its current task is left with nothing to wait for.
-/

namespace RendererService

open Transition

variable {w w' w'' : World} {a : TaskAtom} {k : TaskQueueKey} {q : TaskQueue}
  {handled : Option Nat} {mine : TaskQueueKey → Prop} {strict : Prop}

/-- An action of the task is pending or its completion is scheduled, and the task is
none that is carried out at once. -/
structure World.Awaited (w : World) (a : TaskAtom) : Prop where
  pending : ¬w.Quiet a
  asynchronous : ∀ t, w.tasks a = some (.client t) → t.synchronous = false

/-- The task can be ended: its cancel handler is connected or its completion is
scheduled, or it has begun an action. -/
def World.Endable (w : World) (a : TaskAtom) : Prop :=
  match w.tasks a with
  | some (.client t) => t.synchronous = false ∧ w.Settled a t
  | some (.service t) => t.pAction.isSome = true
  | none => False

/-- The current task of the queue, if it has one, is as `Ends` says, and otherwise its
next one is about to start or it waits for a request. -/
structure World.GoesOn (w : World) (Ends : TaskAtom → Prop) (q : TaskQueue) : Prop where
  flags : q.flags = q.callbacks.flags
  deferred : q.deferRemove = true → q.idleId = 0
  running : ∀ a, q.currentTask = some a → Ends a
  waiting : q.currentTask = none → w.processor.quitting = false →
    q.idleId ≠ 0 ∨ q.callbacks = .client ∧ q.tasks = [] ∧ q.deferRemove = false

theorem World.GoesOn.mono {Ends Ends' : TaskAtom → Prop} (h : w.GoesOn Ends q)
    (hEnds : ∀ a, q.currentTask = some a → Ends a → Ends' a)
    (hquit : w.processor.quitting = true → w'.processor.quitting = true) : w'.GoesOn Ends' q := by
  refine ⟨h.flags, h.deferred, fun a ha => hEnds a ha (h.running a ha), fun ha hnot =>
    h.waiting ha ?_⟩
  by_contra hquitting
  rw [hquit (by simpa using hquitting)] at hnot
  exact absurd hnot (by simp)

def World.Advances (w : World) (k : TaskQueueKey) : Prop :=
  ∀ q, w.queue? k = some q → w.GoesOn w.Awaited q

def World.Advancing (w : World) : Prop := ∀ k, w.Advances k

/-- The queue goes on, where what its current task waits for only counts if `strict`. -/
def World.AdvancesIf (w : World) (strict : Prop) (k : TaskQueueKey) : Prop :=
  ∀ q, w.queue? k = some q → w.GoesOn (fun a => strict → w.Awaited a) q

theorem advancesIf_true : w.AdvancesIf True k ↔ w.Advances k := by
  simp [World.AdvancesIf, World.Advances]

/-! ## Queues that are left alone -/

/-- Nothing happens to the queue of `k`, nor to what its tasks wait for. -/
structure Spared (k : TaskQueueKey) (w w' : World) : Prop extends Untouched k w w' where
  actions : ∀ act : ProxyAction, act.task.queueId = k →
    (act ∈ w'.gupnp.actions ↔ act ∈ w.gupnp.actions)
  completions : ∀ a : TaskAtom, a.queueId = k →
    (a ∈ w'.loop.completeIdles ↔ a ∈ w.loop.completeIdles)
  quitting : w.processor.quitting = true → w'.processor.quitting = true

namespace Spared

theorem refl : Spared k w w := ⟨.refl, fun _ _ => Iff.rfl, fun _ _ => Iff.rfl, id⟩

theorem trans (h : Spared k w w') (h' : Spared k w' w'') : Spared k w w'' :=
  ⟨h.toUntouched.trans h'.toUntouched,
    fun act hact => (h'.actions act hact).trans (h.actions act hact),
    fun a ha => (h'.completions a ha).trans (h.completions a ha),
    fun hq => h'.quitting (h.quitting hq)⟩

theorem of_same (hprocessor : w'.processor = w.processor) (htasks : w'.tasks = w.tasks)
    (hactions : w'.gupnp.actions = w.gupnp.actions)
    (hidles : w'.loop.completeIdles = w.loop.completeIdles) : Spared k w w' := by
  refine ⟨⟨?_, fun _ _ _ => by rw [htasks]⟩, fun _ _ => by rw [hactions],
    fun _ _ => by rw [hidles], fun hq => hprocessor ▸ hq⟩
  unfold World.queue?
  rw [hprocessor]

theorem quiet (h : Spared k w w') (ha : a.queueId = k) : w'.Quiet a ↔ w.Quiet a := by
  have hactions : w'.NoAction a ↔ w.NoAction a := by
    constructor <;> intro hnone act hact htask
    · exact hnone act ((h.actions act (htask ▸ ha)).mpr hact) htask
    · exact hnone act ((h.actions act (htask ▸ ha)).mp hact) htask
  exact and_congr hactions (not_congr (h.completions a ha))

theorem awaited (h : Spared k w w') (ha : a.queueId = k) (hheld : w.Holds a)
    (hawaited : w.Awaited a) : w'.Awaited a := by
  refine ⟨fun hquiet => hawaited.pending ((h.quiet ha).mp hquiet), fun t ht => ?_⟩
  rw [h.records a ha hheld] at ht
  exact hawaited.asynchronous t ht

theorem endable (h : Spared k w w') (ha : a.queueId = k) (hheld : w.Holds a)
    (hendable : w.Endable a) : w'.Endable a := by
  unfold World.Endable World.Settled at hendable ⊢
  rw [h.records a ha hheld]
  simp only [h.completions a ha]
  exact hendable

theorem advances (h : Spared k w w') (hok : ProcessorOk w) (hw : w.AdvancesIf strict k) :
    w'.AdvancesIf strict k := by
  intro q hq'
  have hq : w.queue? k = some q := h.queue ▸ hq'
  refine (hw q hq).mono (fun a ha hawaited hstrict => ?_) h.quitting
  have hkey := ((hok.queues k q hq).current a ha).1
  exact h.awaited hkey ⟨q, hkey ▸ hq, .inr ha⟩ (hawaited hstrict)

end Spared

theorem Step.spared {act : Act} (hok : ProcessorOk w) (hstep : Step Elsewhere w act w')
    (hact : act ≠ .elsewhere) (hwithin : act.Within mine) (hk : ¬mine k) : Spared k w w' := by
  have hf := hstep.footprint hok hact
  refine ⟨hstep.untouched hok hact hwithin hk, fun _ _ => by rw [hf.gupnp],
    fun _ _ => by rw [hf.completeIdles], fun hq => ?_⟩
  by_cases hquit : act = .quitting ∨ act = .quitNow
  · rcases hquit with rfl | rfl
    · cases hstep with
      | quitting _ => rfl
    · cases hstep with
      | quitNow _ => rfl
  · rw [hstep.quitting_eq (fun h => hquit (.inl h)) fun h => hquit (.inr h)]
    exact hq

theorem Focus.spared (h : Focus a w w') (hk : a.queueId ≠ k) : Spared k w w' :=
  ⟨h.toTouches.untouched hk, fun act hact => h.actions act fun heq => hk (heq ▸ hact),
    fun b hb => h.completions b fun heq => hk (heq ▸ hb), fun hq => h.processor ▸ hq⟩

theorem spared_of_run (h : (serviceSteps mine handled).Run w w') (hs : ServiceOk handled w)
    (hk : ¬mine k) : Spared k w w' := by
  have hboth : ServiceOk handled w' ∧ Spared k w w' := by
    refine System.Steps.invariant (I := fun w' => ServiceOk handled w' ∧ Spared k w w') h
      ⟨hs, .refl⟩ ?_
    rintro w₁ act w₂ ⟨hs₁, hspared⟩ ⟨hallowed, hstep⟩
    have hmono := hstep.mono fun _ _ he => he.1.1
    refine ⟨hstep.serviceOk (fun _ _ he => he.1) hs₁ hallowed.1, hspared.trans ?_⟩
    by_cases hact : act = .elsewhere
    · subst hact
      cases hstep with
      | elsewhere he =>
          obtain ⟨-, b, hmine, hfocus⟩ := he
          exact hfocus.spared fun heq => hk (heq ▸ hmine)
    · exact hmono.spared hs₁.processor hact hallowed.2 hk
  exact hboth.2

/-! ## Completing -/

theorem advances_of_none (h : w.queue? k = none) : w.AdvancesIf strict k := by
  intro q hq
  simp [h] at hq

theorem advances_removeQueue (k : TaskQueueKey) (w : World) :
    (removeQueue taskDeleteCb k w).AdvancesIf strict k :=
  advances_of_none (queue?_removeQueue_self k w)

theorem GoesOn.client (hflags : q.flags = q.callbacks.flags) (hauto : q.flags.autoRemove = false) :
    q.callbacks = .client := by
  cases hcs : q.callbacks with
  | client => rfl
  | service =>
      rw [hflags, hcs] at hauto
      simp [TaskCallbacks.flags, autoRemove] at hauto

/-- A queue whose current task is completed goes on with its next one, goes away or
waits for a request. -/
theorem advances_completed (hok : ProcessorOk w) (hq : w.queue? k = some q)
    (ha : q.currentTask = some a) (hflags : q.flags = q.callbacks.flags) :
    (rsuTaskQueueTaskCompleted taskDeleteCb k w).AdvancesIf strict k := by
  have hold := hok.queues k q hq
  obtain ⟨-, -, -, hlive⟩ := hold.current a ha
  have hidle : q.idleId = 0 := by
    by_contra hne
    simp [(hold.idle hne).1] at ha
  have hq₁ : (w.finishTask k a).queue? k = some { q with currentTask := none } := by
    have hfinish : (w.finishTask k a).queue? k =
        if k = k then (w.queue? k).map fun q => { q with currentTask := none }
        else w.queue? k := queue?_modifyQueue _ k k _
    rw [hfinish, if_pos rfl, hq]
    rfl
  rw [rsuTaskQueueTaskCompleted_eq hq ha hlive]
  unfold afterCompletion
  split
  next hquit =>
    intro q' hq'
    obtain rfl := Option.some.inj (hq₁.symm.trans hq')
    refine ⟨hflags, fun _ => hidle, by simp, fun _ hnot => ?_⟩
    have hquitting : (w.finishTask k a).idleAddQuit.processor.quitting = true := hquit.1
    simp [hquitting] at hnot
  · split
    · exact advances_removeQueue k _
    next hdefer =>
      split
      · intro q' hq'
        have hqueue : ((w.finishTask k a).idleAddProcess k).queue? k = some { q with
            currentTask := none
            idleId := w.loop.nextSource } := by
          have hmodify : ((w.finishTask k a).idleAddProcess k).queue? k =
              if k = k then ((w.finishTask k a).queue? k).map fun q =>
                { q with idleId := w.loop.nextSource }
              else (w.finishTask k a).queue? k := queue?_modifyQueue _ k k _
          rw [hmodify, if_pos rfl, hq₁]
          rfl
        obtain rfl := Option.some.inj (hqueue.symm.trans hq')
        exact ⟨hflags, fun h => absurd h hdefer, by simp,
          fun _ _ => .inl (Nat.ne_of_gt hok.source)⟩
      next htasks =>
        split
        · exact advances_removeQueue k _
        next hauto =>
          intro q' hq'
          obtain rfl := Option.some.inj (hq₁.symm.trans hq')
          refine ⟨hflags, fun _ => hidle, by simp, fun _ _ => .inr ⟨?_, ?_, ?_⟩⟩
          · exact GoesOn.client hflags (by simpa using hauto)
          · exact List.length_eq_zero_iff.mp (Nat.eq_zero_of_not_pos htasks)
          · simpa using hdefer

/-! ## Cancelling -/

theorem World.Awaited.cases (h : w.Awaited a) :
    a ∈ w.loop.completeIdles ∨ ∃ act ∈ w.gupnp.actions, act.task = a := by
  by_contra hnone
  rw [not_or] at hnone
  exact h.pending ⟨fun act hact htask => hnone.2 ⟨act, hact, htask⟩, hnone.1⟩

theorem awaited_of_completion (hmem : a ∈ w.loop.completeIdles)
    (hasync : ∀ t, w.tasks a = some (.client t) → t.synchronous = false) : w.Awaited a :=
  ⟨fun hquiet => hquiet.2 hmem, hasync⟩

theorem awaited_of_action {act : ProxyAction} (hmem : act ∈ w.gupnp.actions)
    (htask : act.task = a)
    (hasync : ∀ t, w.tasks a = some (.client t) → t.synchronous = false) : w.Awaited a :=
  ⟨fun hquiet => hquiet.1 act hmem htask, hasync⟩

theorem World.Awaited.endable (h : w.Awaited a) (hs : ServiceOk handled w)
    (hlive : ∃ r, w.tasks a = some r) : w.Endable a := by
  obtain ⟨r, hr⟩ := hlive
  unfold World.Endable
  rw [hr]
  cases r with
  | client t =>
      refine ⟨h.asynchronous t hr, ?_⟩
      rcases h.cases with hidle | ⟨act, hact, rfl⟩
      · exact .inr hidle
      · have hexpects := (hs.outer.actions.awaited act hact).2
        rw [hr] at hexpects
        exact .inl hexpects.2.2.1
  | service t =>
      rcases h.cases with hidle | ⟨act, hact, rfl⟩
      · exact absurd hidle (hs.outer.not_complete_service hr)
      · have hexpects := (hs.outer.actions.awaited act hact).2
        rw [hr] at hexpects
        simp [hexpects.1]

theorem loop_rsuAsyncTaskCancel {t : ClientTask} (ht : w.tasks a = some (.client t))
    (hunarmed : ¬t.Armed) : (rsuAsyncTaskCancel a w).loop = w.loop := by
  simp only [rsuAsyncTaskCancel, World.withClient, ht]
  split
  next c hc =>
    unfold gCancellableCancel
    split
    · rfl
    next hcancelled =>
      dsimp only
      split
      next hconnected =>
        have harmed : t.Armed := by
          rw [ClientTask.Armed, hc]
          exact congrArg some (by cases c; simp_all)
        exact absurd harmed hunarmed
      · rw [modifyClient_eq ht]
        rfl
  · rfl

/-- A request that is cancelled in time is about to be completed. -/
theorem awaited_rsuTaskCancel {t : ClientTask} (ht : w.tasks a = some (.client t))
    (hsync : t.synchronous = false) (hsettled : w.Settled a t) :
    (rsuTaskCancel a w).Awaited a := by
  let w₁ := answerTask a (fun _ => .error operationCancelled) w
  have hcancel : rsuTaskCancel a w = rsuAsyncTaskCancel a w₁ := by
    simp only [rsuTaskCancel, World.withClient, ht, hsync, Bool.false_eq_true, if_false]
    rfl
  have ht₁ : w₁.tasks a = some (.client { t with invocation := none }) := by
    show (answerTask a (fun _ => .error operationCancelled) w).tasks a = _
    rw [answerTask_eq ht, tasks_setTask]
  have hloop : w₁.loop = w.loop := by
    show (answerTask a (fun _ => .error operationCancelled) w).loop = _
    rw [answerTask_eq ht]
    rfl
  refine awaited_of_completion ?_ fun t' ht' => ?_
  · rw [hcancel]
    by_cases harmed : t.Armed
    · rw [rsuAsyncTaskCancel_armed ht₁ harmed]
      exact List.mem_append_right _ List.mem_cons_self
    · rw [loop_rsuAsyncTaskCancel ht₁ harmed, hloop]
      exact hsettled.resolve_left harmed
  · have hrequest := (touches_rsuTaskCancel (w := w) (a := a)).request
    rw [ht, ht'] at hrequest
    exact hrequest.2.2.trans hsync

/-- What is left of a queue that was emptied goes on with the end of its current task, goes
away or waits for a request. -/
theorem advances_afterClear (hs : ServiceOk handled w) (hq : w.queue? k = some q)
    (htasks : q.tasks = []) (hidle : q.idleId = 0) (hflags : q.flags = q.callbacks.flags)
    (hrunning : ∀ a, q.currentTask = some a → strict → w.Endable a)
    (hdefer : q.currentTask = none → w.processor.quitting = false → q.deferRemove = false) :
    (afterClear k q w).AdvancesIf strict k := by
  unfold afterClear
  split
  next a ha =>
    have hold := hs.processor.queues k q hq
    obtain ⟨hkey, -, -, hlive⟩ := hold.current a ha
    let w₁ := w.emit (.cancelled a)
    have hs₁ : ServiceOk handled w₁ :=
      hs.step (.cancelling ⟨q, hkey ▸ hq, ha⟩) (by simp) trivial
    have hends : strict → w₁.Endable a := hrunning a ha
    cases hcs : q.callbacks with
    | client =>
        rw [hcs] at hlive
        obtain ⟨t, ht⟩ := TaskCallbacks.live_client hlive
        have ht₁ : w₁.tasks a = some (.client t) := ht
        simp only [World.Endable, ht₁] at hends
        have htouch : Touches a w₁ (rsuTaskCancel a w₁) := touches_rsuTaskCancel
        intro q' hq'
        have hsame : (rsuTaskCancel a w₁).queue? k = some q := (htouch.queue? k).trans hq
        obtain rfl := Option.some.inj (hsame.symm.trans hq')
        refine ⟨hflags, fun _ => hidle, fun b hb hstrict => ?_, fun hnone => by simp [ha] at hnone⟩
        obtain rfl := Option.some.inj (ha.symm.trans hb)
        exact awaited_rsuTaskCancel ht₁ (hends hstrict).1 (hends hstrict).2
    | service =>
        rw [hcs] at hlive
        obtain ⟨t, ht⟩ := TaskCallbacks.live_service hlive
        have ht₁ : w₁.tasks a = some (.service t) := ht
        simp only [World.Endable, ht₁] at hends
        cases hbegun : t.pAction.isSome with
        | false =>
            -- the step has begun no action, and nothing ends it
            have hsame : taskCancelCb .service a w₁ = w₁ := by
              simp only [taskCancelCb, rsuServiceTaskCancelCb_eq ht₁, hbegun, Bool.false_eq_true,
                if_false]
            rw [hsame]
            intro q' hq'
            obtain rfl := Option.some.inj (hq.symm.trans hq')
            refine ⟨hflags, fun _ => hidle, fun _ _ hstrict => ?_,
              fun hnone => by simp [ha] at hnone⟩
            exact absurd (hbegun.symm.trans (hends hstrict)) Bool.false_ne_true
        | true =>
            have htouch := touches_giveUpStep ht₁
            have hcancel : taskCancelCb .service a w₁ =
                rsuTaskQueueTaskCompleted taskDeleteCb a.queueId (w₁.giveUpStep a t) := by
              simp only [taskCancelCb, rsuServiceTaskCancelCb_eq ht₁, hbegun, if_true]
            rw [hcancel, hkey]
            exact advances_completed (elsewhere_ok hs₁.processor
              (htouch.elsewhere hs₁.processor ⟨q, hkey ▸ hq, ha⟩)) ((htouch.queue? k).trans hq) ha
              hflags
  next ha =>
    split
    · exact advances_removeQueue k w
    next hauto =>
      intro q' hq'
      obtain rfl := Option.some.inj (hq.symm.trans hq')
      refine ⟨hflags, fun _ => hidle, fun a h => by simp [ha] at h,
        fun _ hquit => .inr ⟨?_, htasks, ?_⟩⟩
      · exact GoesOn.client hflags (by simpa using hauto)
      · exact hdefer ha hquit

theorem endable_congr (htasks : w'.tasks a = w.tasks a)
    (hidles : w'.loop.completeIdles = w.loop.completeIdles) (h : w.Endable a) : w'.Endable a := by
  unfold World.Endable World.Settled at h ⊢
  rw [htasks, hidles]
  exact h

/-- A queue that is emptied goes on, as long as its current task can be ended. -/
theorem advances_prvTaskQueueCancel (hs : ServiceOk handled w) (hq : w.queue? k = some q)
    (hgoes : w.GoesOn (fun a => strict → w.Endable a) q) :
    (prvTaskQueueCancel taskDeleteCb taskCancelCb k q w).AdvancesIf strict k := by
  have hold := hs.processor.queues k q hq
  have hcancel : prvTaskQueueCancel taskDeleteCb taskCancelCb k q w =
      afterClear k q.emptied (w.clearQueue k q) :=
    prvTaskQueueCancel_eq hq hold.nodup hold.fresh hs.processor.idlePositive
  rw [hcancel]
  refine advances_afterClear (hs.step (.clear hq) (by simp) trivial) (queue?_clearQueue_self hq) rfl
    rfl hgoes.flags (fun a ha hstrict => ?_) fun ha hquit => ?_
  · obtain ⟨-, -, hnot, -⟩ := hold.current a ha
    exact endable_congr (if_neg hnot) rfl (hgoes.running a ha hstrict)
  · rcases hgoes.waiting ha hquit with hidle | ⟨-, -, hdefer⟩
    · cases hdefer : q.deferRemove with
      | false => exact hdefer
      | true => exact absurd (hgoes.deferred hdefer) hidle
    · exact hdefer

theorem advances_prvFreeQueueFor {hit : TaskQueueKey → Bool} (hs : ServiceOk handled w)
    (hq : w.queue? k = some q) (hgoes : w.GoesOn (fun a => strict → w.Endable a) q)
    (hhit : hit k = true) (hdefer : q.deferRemove = false) :
    (prvFreeQueueFor taskDeleteCb taskCancelCb hit k w).AdvancesIf strict k := by
  have hold := hs.processor.queues k q hq
  rw [prvFreeQueueFor_eq hs.processor hq hhit hdefer]
  split
  next hcurrent =>
    have hq₁ : (w.clearQueue k q).queue? k = some q.emptied := queue?_clearQueue_self hq
    have hs₁ : ServiceOk handled (w.clearQueue k q) := hs.step (.clear hq) (by simp) trivial
    have hs₂ : ServiceOk handled ((w.clearQueue k q).deferQueue k true) :=
      hs₁.step (.defer true hq₁ rfl hdefer) (by simp) trivial
    have hq₂ : ((w.clearQueue k q).deferQueue k true).queue? k =
        some { q.emptied with deferRemove := true } := by
      simp [World.deferQueue, queue?_modifyQueue, hq₁]
    refine advances_afterClear hs₂ hq₂ rfl rfl hgoes.flags (fun a ha hstrict => ?_) fun ha => ?_
    · obtain ⟨-, -, hnot, -⟩ := hold.current a ha
      exact endable_congr (if_neg hnot) rfl (hgoes.running a ha hstrict)
    · have hnone : q.currentTask = none := ha
      simp [hnone] at hcurrent
  · exact advances_removeQueue k _

theorem World.GoesOn.endable (h : w.GoesOn (fun a => strict → w.Awaited a) q)
    (hs : ServiceOk handled w) (hq : w.queue? k = some q) :
    w.GoesOn (fun a => strict → w.Endable a) q := by
  refine ⟨h.flags, h.deferred, fun a ha hstrict => ?_, h.waiting⟩
  obtain ⟨-, -, -, hlive⟩ := (hs.processor.queues k q hq).current a ha
  refine (h.running a ha hstrict).endable hs ?_
  cases hr : w.tasks a with
  | none => simp [TaskCallbacks.Live, hr] at hlive
  | some r => exact ⟨r, rfl⟩

/-! ## Loops over the queues -/

/-- The queue goes on once a loop that frees the queues that are hit has visited it. -/
def World.GoesOnAfter (w : World) (strict : Prop) (hit : TaskQueueKey → Bool)
    (keys : List TaskQueueKey) (k : TaskQueueKey) : Prop :=
  w.AdvancesIf strict k ∨ k ∈ keys ∧ hit k = true ∧ ∃ q, w.queue? k = some q ∧
    q.deferRemove = false ∧ w.GoesOn (fun a => strict → w.Endable a) q

theorem Spared.goesOnAfter (h : Spared k w w') (hok : ProcessorOk w)
    {hit : TaskQueueKey → Bool} {keys : List TaskQueueKey}
    (hafter : w.GoesOnAfter strict hit keys k) : w'.GoesOnAfter strict hit keys k := by
  rcases hafter with hadvances | ⟨hmem, hhit, q, hq, hdefer, hgoes⟩
  · exact .inl (h.advances hok hadvances)
  · refine .inr ⟨hmem, hhit, q, h.queue.trans hq, hdefer,
      hgoes.mono (fun a ha hends hstrict => ?_) h.quitting⟩
    have hkey := ((hok.queues k q hq).current a ha).1
    exact h.endable hkey ⟨q, hkey ▸ hq, .inr ha⟩ (hends hstrict)

theorem prvFreeQueueFor_serves (hit : TaskQueueKey → Bool) (k : TaskQueueKey)
    (hs : ServiceOk handled w) : (serviceSteps (fun k' => k' = k) handled).Run w
      (prvFreeQueueFor taskDeleteCb taskCancelCb hit k w) :=
  prvFreeQueueFor_run serviceSteps_cancels hit hs fun _ => rfl

theorem advances_visit {hit : TaskQueueKey → Bool} {keys : List TaskQueueKey}
    (hs : ServiceOk handled w) (hafter : w.GoesOnAfter strict hit keys k) :
    (prvFreeQueueFor taskDeleteCb taskCancelCb hit k w).AdvancesIf strict k := by
  rcases hafter with hadvances | ⟨-, hhit, q, hq, hdefer, hgoes⟩
  · cases hq : w.queue? k with
    | none =>
        unfold prvFreeQueueFor
        rw [hq]
        exact hadvances
    | some q =>
        by_cases hvisit : hit k = true ∧ q.deferRemove = false
        · exact advances_prvFreeQueueFor hs hq ((hadvances q hq).endable hs hq) hvisit.1 hvisit.2
        · have hsame : prvFreeQueueFor taskDeleteCb taskCancelCb hit k w = w := by
            unfold prvFreeQueueFor
            rw [hq]
            refine if_neg fun h => hvisit ⟨h.1, by simpa using h.2⟩
          rw [hsame]
          exact hadvances
  · exact advances_prvFreeQueueFor hs hq hgoes hhit hdefer

theorem advances_freeQueues (hit : TaskQueueKey → Bool) (keys : List TaskQueueKey) :
    ∀ w : World, ServiceOk handled w → w.GoesOnAfter strict hit keys k →
      (keys.foldl (fun w k => prvFreeQueueFor taskDeleteCb taskCancelCb hit k w) w).AdvancesIf
        strict k := by
  induction keys with
  | nil =>
      intro w _ hafter
      exact hafter.resolve_right fun h => absurd h.1 List.not_mem_nil
  | cons k₀ keys ih =>
      intro w hs hafter
      have hrun := prvFreeQueueFor_serves hit k₀ hs
      refine ih _ (hrun.inv hs) ?_
      by_cases hk : k = k₀
      · subst hk
        exact .inl (advances_visit hs hafter)
      · have hspared := spared_of_run hrun hs hk
        refine hspared.goesOnAfter hs.processor (hafter.imp_right fun ⟨hmem, h⟩ => ⟨?_, h⟩)
        exact (List.mem_cons.mp hmem).resolve_left hk

theorem advances_removeQueuesForSource (source : String) (hs : ServiceOk handled w)
    (h : w.AdvancesIf strict k) : (rsuTaskProcessorRemoveQueuesForSource taskDeleteCb taskCancelCb
      source w).AdvancesIf strict k :=
  advances_freeQueues _ _ w hs (.inl h)

theorem advances_prvTaskQueueCancelCb (hs : ServiceOk handled w) (h : w.AdvancesIf strict k) :
    (prvTaskQueueCancelCb taskDeleteCb taskCancelCb k w).AdvancesIf strict k := by
  unfold prvTaskQueueCancelCb
  split
  · exact h
  next q hq => exact advances_prvTaskQueueCancel hs hq ((h q hq).endable hs hq)

/-- What works on one queue leaves every queue to go on that this one goes on with. -/
theorem advances_of_run {k₀ : TaskQueueKey}
    (hrun : (serviceSteps (fun k' => k' = k₀) handled).Run w w') (hs : ServiceOk handled w)
    (h : w.AdvancesIf strict k) (hself : k = k₀ → w'.AdvancesIf strict k) :
    w'.AdvancesIf strict k := by
  by_cases hk : k = k₀
  · exact hself hk
  · exact (spared_of_run hrun hs hk).advances hs.processor h

theorem advances_prvCancelAllQueues (hs : ServiceOk handled w) (h : w.AdvancesIf strict k) :
    (prvCancelAllQueues taskDeleteCb taskCancelCb w).AdvancesIf strict k := by
  refine (Assoc.visitWhile_keeps (I := fun w => ServiceOk handled w ∧ w.AdvancesIf strict k)
    (fun w k₀ _ hboth => ?_) ⟨hs, h⟩).2
  obtain ⟨hs, h⟩ := hboth
  have hrun : (serviceSteps (fun k' => k' = k₀) handled).Run w
      (prvTaskQueueCancelCb taskDeleteCb taskCancelCb k₀ w) :=
    prvTaskQueueCancelCb_run serviceSteps_cancels hs rfl
  refine ⟨hrun.inv hs, advances_of_run hrun hs h ?_⟩
  rintro rfl
  exact advances_prvTaskQueueCancelCb hs h

theorem advances_setQuitting (hs : ServiceOk handled w) (h : w.AdvancesIf strict k) :
    (rsuTaskProcessorSetQuitting taskDeleteCb taskCancelCb w).AdvancesIf strict k := by
  have hmark : ∀ w' : World, w'.processor.taskQueues = w.processor.taskQueues →
      w'.tasks = w.tasks → w'.gupnp.actions = w.gupnp.actions →
      w'.loop.completeIdles = w.loop.completeIdles → w'.processor.quitting = true →
      w'.AdvancesIf strict k := by
    intro w' hqueues htasks hactions hidles hquit
    have hspared : Spared k w w' := by
      refine ⟨⟨?_, fun _ _ _ => by rw [htasks]⟩, fun _ _ => by rw [hactions],
        fun _ _ => by rw [hidles], fun _ => hquit⟩
      unfold World.queue?
      rw [hqueues]
    exact hspared.advances hs.processor h
  unfold rsuTaskProcessorSetQuitting
  dsimp only
  split
  next hrunning =>
    have hs₁ : ServiceOk handled w.setQuitting := hs.step (.quitting hrunning) (by simp) trivial
    exact advances_prvCancelAllQueues hs₁ (hmark w.setQuitting rfl rfl rfl rfl rfl)
  · exact hmark _ rfl rfl rfl rfl rfl

/-! ## Requests -/

theorem advances_cancelQueue (k₀ : TaskQueueKey) (hs : ServiceOk handled w)
    (h : w.AdvancesIf strict k) :
    (rsuTaskProcessorCancelQueue taskDeleteCb taskCancelCb k₀ w).AdvancesIf strict k := by
  unfold rsuTaskProcessorCancelQueue
  split
  · have hcrash : Spared k w (w.crash (.deadQueueKey k₀)) := .of_same rfl rfl rfl rfl
    exact hcrash.advances hs.processor h
  next q hq =>
    refine advances_of_run (prvTaskQueueCancel_run serviceSteps_cancels hs rfl hq) hs h ?_
    rintro rfl
    exact advances_prvTaskQueueCancel hs hq ((h q hq).endable hs hq)

theorem advances_of_same (h : w.AdvancesIf strict k) (hok : ProcessorOk w)
    (hprocessor : w'.processor = w.processor) (htasks : w'.tasks = w.tasks)
    (hactions : w'.gupnp.actions = w.gupnp.actions)
    (hidles : w'.loop.completeIdles = w.loop.completeIdles) : w'.AdvancesIf strict k :=
  (Spared.of_same hprocessor htasks hactions hidles).advances hok h

theorem World.Awaited.congr (h : w.Awaited a) (htasks : w'.tasks a = w.tasks a)
    (hactions : w'.gupnp.actions = w.gupnp.actions)
    (hidles : w'.loop.completeIdles = w.loop.completeIdles) : w'.Awaited a := by
  refine ⟨fun hquiet => h.pending ?_, fun t ht => h.asynchronous t (htasks ▸ ht)⟩
  unfold World.Quiet World.NoAction at hquiet ⊢
  rw [hactions, hidles] at hquiet
  exact hquiet

theorem advances_addQueue (source sink : String) (h : w.AdvancesIf strict k) :
    (w.addQueue source sink autoStart .client).AdvancesIf strict k := by
  intro q hq
  have hlookup : (w.addQueue source sink autoStart .client).queue? k =
      if k = ⟨w.processor.nextKey, source, sink⟩ then
        some { callbacks := .client, flags := autoStart } else w.queue? k :=
    Assoc.lookup_insert_eq _ _ _ _
  rw [hlookup] at hq
  split at hq
  · obtain rfl := Option.some.inj hq
    exact ⟨rfl, fun _ => rfl, by simp, fun _ _ => .inr ⟨rfl, rfl, rfl⟩⟩
  · exact (h q hq).mono (fun a _ hawaited hstrict => (hawaited hstrict).congr rfl rfl rfl) id

theorem advances_lookupOrAddQueue (clientName sink : String) (h : w.AdvancesIf strict k) :
    (lookupOrAddQueue clientName sink w).2.AdvancesIf strict k := by
  unfold lookupOrAddQueue
  split
  · exact h
  next hnew =>
    rw [rsuTaskProcessorAddQueue_eq autoStart .client hnew]
    exact advances_addQueue clientName sink h

/-- A request that is added to a queue that has nothing to do starts it. -/
theorem advances_rsuTaskQueueAddTask_self (hok : ProcessorOk w) (hq : w.queue? k = some q)
    (hcs : q.callbacks = .client) (t : ClientTask) (h : w.AdvancesIf strict k) :
    (rsuTaskQueueAddTask k (.client t) w).AdvancesIf strict k := by
  let w₁ := w.pushTask k (.client t)
  have hawaited : ∀ a, q.currentTask = some a → w.Awaited a → w₁.Awaited a := by
    intro a ha hawaited
    have hbound := ((hok.queues k q hq).current a ha).2.1
    refine hawaited.congr (if_neg fun heq => ?_) rfl rfl
    have hid := congrArg TaskAtom.id heq
    exact Nat.ne_of_lt hbound hid
  have hq₁ : w₁.queue? k = some { q with tasks := q.tasks ++ [w.newAtom k] } :=
    (queue?_pushTask w k k _).trans ((if_pos rfl).trans (congrArg _ hq))
  have hgoes := h q hq
  have hself : ¬(q.currentTask = none ∧ q.idleId = 0 ∧ q.deferRemove = false) →
      w₁.AdvancesIf strict k := by
    intro hbusy q' hq'
    obtain rfl := Option.some.inj (hq₁.symm.trans hq')
    refine ⟨hgoes.flags, hgoes.deferred,
      fun a ha hstrict => hawaited a ha (hgoes.running a ha hstrict), fun ha hquit => .inl ?_⟩
    rcases hgoes.waiting ha hquit with hidle | ⟨-, -, hdefer⟩
    · exact hidle
    · exact fun hidle => hbusy ⟨ha, hidle, hdefer⟩
  simp only [rsuTaskQueueAddTask, hq]
  split
  next hdefer => exact hself fun hfree => by simp [hdefer] at hfree
  next hdefer =>
    split
    next hready =>
      intro q' hq'
      have hidle : (w₁.idleAddProcess k).queue? k = some
          { q with tasks := q.tasks ++ [w.newAtom k], idleId := w₁.loop.nextSource } :=
        (queue?_modifyQueue _ k k _).trans ((if_pos rfl).trans (congrArg _ hq₁))
      obtain rfl := Option.some.inj (hidle.symm.trans hq')
      exact ⟨hgoes.flags, fun hd => absurd hd hdefer, fun a ha => by simp [hready.2.1] at ha,
        fun _ _ => .inl (Nat.ne_of_gt hok.source)⟩
    next hbusy =>
      refine hself fun hfree => hbusy ⟨?_, hfree.1, hfree.2.1⟩
      rw [hgoes.flags, hcs]
      rfl

theorem spared_pushTask {k' : TaskQueueKey} (hk : k' ≠ k) (task : Task) (w : World) :
    Spared k' w (w.pushTask k task) := by
  refine ⟨⟨?_, fun a ha _ => if_neg fun heq => hk ?_⟩, fun _ _ => Iff.rfl, fun _ _ => Iff.rfl, id⟩
  · exact (queue?_pushTask w k k' _).trans (if_neg hk)
  · rw [← ha, heq]
    rfl

theorem spared_idleAddProcess {k' : TaskQueueKey} (hk : k' ≠ k) (w : World) :
    Spared k' w (w.idleAddProcess k) :=
  ⟨⟨(queue?_modifyQueue _ k k' _).trans (if_neg hk), fun _ _ _ => rfl⟩, fun _ _ => Iff.rfl,
    fun _ _ => Iff.rfl, id⟩

theorem spared_rsuTaskQueueAddTask {k₀ : TaskQueueKey} (hk : k ≠ k₀) (task : Task)
    (hq : w.queue? k₀ = some q) : Spared k w (rsuTaskQueueAddTask k₀ task w) := by
  have hpush := spared_pushTask hk task w
  simp only [rsuTaskQueueAddTask, hq]
  split
  · exact hpush
  · split
    · exact hpush.trans (spared_idleAddProcess hk _)
    · exact hpush

theorem advances_prvAddTask {clientName sink : String} {n : Nat} (t : ClientTask)
    (hs : ServiceOk handled w) (hname : BusSource clientName) (h : w.AdvancesIf strict k) :
    (prvAddTask clientName n t sink w).AdvancesIf strict k := by
  have hwatch : (w.watch clientName).AdvancesIf strict k := by
    unfold World.watch
    split
    · exact h
    · exact advances_of_same h hs.processor rfl rfl rfl rfl
  have hs₁ := watch_serviceOk hs hname
  obtain ⟨hrun, -, -, q, hq, hcs⟩ := lookupOrAddQueue_serves sink hs₁ hname
  have hs₂ := hrun.inv hs₁
  have hadded := advances_lookupOrAddQueue clientName sink hwatch
  rw [prvAddTask_eq]
  revert hs₂ hadded hq
  generalize lookupOrAddQueue clientName sink (w.watch clientName) = r
  intro hq hs₂ hadded
  have hpushed : (rsuTaskQueueAddTask r.1 (.client t) r.2).AdvancesIf strict k := by
    by_cases hk : k = r.1
    · subst hk
      exact advances_rsuTaskQueueAddTask_self hs₂.processor hq hcs t hadded
    · exact (spared_rsuTaskQueueAddTask hk (.client t) hq).advances hs₂.processor hadded
  exact fun q' hq' => (hpushed q' hq').mono
    (fun _ _ hawaited hstrict => (hawaited hstrict).congr rfl rfl rfl) id

/-! ## Replies and completions -/

theorem fault_crash (w : World) (f : Fault) : (w.crash f).fault ≠ none := by
  unfold World.crash
  cases w.fault <;> simp

/-- The record of a request changes, and its completion is scheduled. -/
theorem advances_completeWith {f : ClientTask → ClientTask} (hq : w.queue? k = some q)
    (ha : q.currentTask = some a) (hflags : q.flags = q.callbacks.flags)
    (hdeferred : q.deferRemove = true → q.idleId = 0)
    (hasync : strict → ∀ t, w.tasks a = some (.client t) → t.synchronous = false)
    (hf : ∀ t : ClientTask, t.Keeps (f t)) : (completeWith a f w).AdvancesIf strict k := by
  have htouch : Touches a w (completeWith a f w) := touches_completeWith hf
  intro q' hq'
  obtain rfl := Option.some.inj (((htouch.queue? k).trans hq).symm.trans hq')
  refine ⟨hflags, hdeferred, fun b hb hstrict => ?_, fun hnone => by simp [ha] at hnone⟩
  obtain rfl := Option.some.inj (ha.symm.trans hb)
  refine awaited_of_completion (List.mem_append_right _ List.mem_cons_self) fun t' ht' => ?_
  have hrequest := htouch.request
  cases hr : w.tasks a with
  | none =>
      rw [hr, ht'] at hrequest
      exact hrequest.elim
  | some r =>
      cases r with
      | client t =>
          rw [hr, ht'] at hrequest
          exact hrequest.2.2.trans (hasync hstrict t hr)
      | service t =>
          rw [hr, ht'] at hrequest
          exact hrequest.elim

theorem Touches.advances_completed (h : Touches a w w') (hok : ProcessorOk w)
    (hq : w.queue? a.queueId = some q) (ha : q.currentTask = some a)
    (hflags : q.flags = q.callbacks.flags) :
    (rsuTaskQueueTaskCompleted taskDeleteCb a.queueId w').AdvancesIf strict a.queueId :=
  RendererService.advances_completed (elsewhere_ok hok (h.elsewhere hok ⟨q, hq, ha⟩))
    ((h.queue? _).trans hq) ha hflags

theorem advances_serviceReply {t : ServiceTask} (env : Environment) (hok : ProcessorOk w)
    (hq : w.queue? a.queueId = some q) (ha : q.currentTask = some a)
    (hflags : q.flags = q.callbacks.flags) (ht : w.tasks a = some (.service t))
    (hfault : (rsuServiceTaskBeginActionCb (serviceTaskCallback env) a w).fault = none) :
    (rsuServiceTaskBeginActionCb (serviceTaskCallback env) a w).AdvancesIf strict a.queueId := by
  have htouch : Touches a w (w.setTask a (some (.service { t with pAction := none }))) :=
    touches_setService none ht
  simp only [rsuServiceTaskBeginActionCb, World.withService, ht] at hfault ⊢
  revert htouch hfault
  generalize w.setTask a (some (.service { t with pAction := none })) = w₁
  intro htouch hfault
  cases hcb : t.callback with
  | none =>
      simp only [hcb] at hfault
      exact absurd hfault (fault_crash _ _)
  | some cb =>
      cases cb with
      | prvGetProtocolInfoCb =>
          simp only [serviceTaskCallback]
          rcases prvGetProtocolInfoCb_cases env t w₁ with heq | heq
          · rw [heq]
            exact htouch.advances_completed hok hq ha hflags
          · rw [heq]
            have hboth := htouch.trans (touches_crash (f := .deadDevice t.device) (by simp))
            exact hboth.advances_completed hok hq ha hflags

theorem advances_actionReply {action : ProxyAction} (env : Environment)
    (hs : ServiceOk handled w) (hmem : action ∈ w.gupnp.actions) (h : w.AdvancesIf strict k)
    (hfault : (actionReply action env w).fault = none) :
    (actionReply action env w).AdvancesIf strict k := by
  have hrun : (serviceSteps (fun k' => k' = action.task.queueId) handled).Run w
      (actionReply action env w) := by
    refine actionReply_serves hs hmem ?_ env
    rfl
  refine advances_of_run hrun hs h ?_
  rintro rfl
  obtain ⟨⟨q, hq, ha⟩, hexpects⟩ := hs.outer.actions.awaited action hmem
  have hgoes := h q hq
  let w₀ := w.dropReply action
  have hok₀ : ProcessorOk w₀ := hs.processor.congr rfl rfl rfl rfl rfl rfl rfl
  have hcomplete : ∀ f : ClientTask → ClientTask, (∀ t : ClientTask, t.Keeps (f t)) →
      (completeWith action.task f w₀).AdvancesIf strict action.task.queueId :=
    fun f => advances_completeWith (w := w₀) hq ha hgoes.flags hgoes.deferred
      fun hstrict => (hgoes.running _ ha hstrict).asynchronous
  unfold actionReply at hfault ⊢
  cases hcb : action.callback with
  | rsuServiceTaskBeginActionCb =>
      simp only [hcb] at hfault ⊢
      cases hr : w.tasks action.task with
      | none => simp [Expects, hr] at hexpects
      | some r =>
          cases r with
          | client t => simp [Expects, hr, hcb] at hexpects
          | service t => exact advances_serviceReply (w := w₀) env hok₀ hq ha hgoes.flags hr hfault
  | prvGetPositionInfoCb =>
      simp only [hcb] at hfault ⊢
      unfold prvGetPositionInfoCb World.withClient at hfault ⊢
      split
      next t ht =>
        dsimp only
        split
        next hlocal =>
          simp only [ht, hlocal] at hfault
          exact absurd hfault (fault_crash _ _)
        next cb hlocal =>
          rcases withTaskDevice_cases w₀ action.task t (completeWith action.task (fun t =>
            deviceLocalCb env cb (endAction env "GetPositionInfo operation failed: " t)) w₀)
            with heq | ⟨f, -, heq⟩
          · rw [heq]
            exact hcomplete _ fun t =>
              (deviceLocalCb_disconnects env cb (endAction_reports env _ t)).1
          · simp only [ht, hlocal] at hfault
            exact absurd ((congrArg World.fault heq).symm.trans hfault) (fault_crash _ _)
      next hnone =>
        split at hfault
        next t ht => exact absurd ht (hnone t)
        · exact absurd hfault (fault_crash _ _)
  | prvSimpleCallCb =>
      exact hcomplete _ fun t => (gCancellableDisconnect_disconnects (endAction_reports env _ t)).1

theorem advances_completeIdle (hs : ServiceOk handled w) (hmem : a ∈ w.loop.completeIdles)
    (h : w.AdvancesIf strict k) : (exec w (.completeIdle a)).AdvancesIf strict k := by
  have hrun : (serviceSteps (fun k' => k' = a.queueId) handled).Run w
      (exec w (.completeIdle a)) := rsuAsyncTaskComplete_serves hs rfl hmem
  refine advances_of_run hrun hs h ?_
  rintro rfl
  obtain ⟨⟨q, hq, ha⟩, t, ht, -⟩ := hs.outer.completions.pending a hmem
  have hflags := (h q hq).flags
  let w₁ := (w.setLoop { w.loop with completeIdles := w.loop.completeIdles.erase a }).emit
    (.completeRan a)
  have hok₁ : ProcessorOk w₁ := hs.processor.congr rfl rfl rfl rfl rfl rfl rfl
  have ht₀ : (w.setLoop { w.loop with completeIdles := w.loop.completeIdles.erase a }).tasks a =
      some (.client t) := ht
  show (rsuAsyncTaskComplete a _).AdvancesIf strict a.queueId
  simp only [rsuAsyncTaskComplete, World.withClient, ht₀, prvAsyncTaskComplete]
  split
  · exact (touches_answerTask (w := w₁) _).advances_completed hok₁ hq ha hflags
  · exact (touches_answerTask (w := w₁) _).advances_completed hok₁ hq ha hflags

end RendererService
