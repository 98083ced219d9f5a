import RendererService.Service.Invariant

/-!
# The callbacks under the invariant of the service

The cancel and process callbacks of both kinds of tasks, the replies and the
completions are runs of the service.  Each first changes the record of its task,
and with it what the task waits for, and completes the task if nothing is left
to wait for.
-/

namespace RendererService

variable {w w' : World} {a : TaskAtom} {handled : Option Nat} {mine : TaskQueueKey → Prop}

/-! ## One record changes -/

theorem KeysOk.congr (h : KeysOk w) (hprocessor : w'.processor = w.processor)
    (hcpt : w.serviceCpt ≤ w'.serviceCpt)
    (hwatchers : ∀ name ∈ w'.context.watchers, name ∈ w.context.watchers ∨ BusSource name) :
    KeysOk w' := by
  refine ⟨fun k q hq => ?_, fun name hname => (hwatchers name hname).elim (h.watchers name) id⟩
  have hq' : w.queue? k = some q := by
    show w.processor.taskQueues.lookup k = _
    rw [← hprocessor]
    exact hq
  exact (h.fits k q hq').mono hcpt

/-- A callback works on its task, and leaves actions and completions in order. -/
theorem ServiceOk.touches (h : ServiceOk handled w) (ha : w.Current a) (hmine : mine a.queueId)
    (hf : Focus a w w') (hactions : ActionsOk w') (hcompletions : CompletionsOk w') :
    (serviceSteps mine handled).Run w w' := by
  have ht := hf.toTouches
  refine .one (.elsewhere ⟨⟨ht.elsewhere h.processor ha, ?_⟩, a, hmine, hf⟩) ⟨trivial, trivial⟩
  refine ⟨h.outer.devices.beside ht.toBeside, hactions, hcompletions, ?_,
    h.outer.invocations.touches ht, h.outer.held.of_elsewhere ht.processor fun b r hr => ?_,
    h.outer.requests.touches ht, fun k hk => h.outer.liveKeys k (ht.fault k hk)⟩
  · refine h.outer.keys.congr ht.processor (Nat.le_of_eq ht.serviceCpt.symm) fun name hname => ?_
    rw [ht.context] at hname
    exact .inl hname
  · by_cases hb : b = a
    · subst hb
      have hrequest := ht.request
      rw [hr] at hrequest
      cases h₀ : w.tasks b with
      | none =>
          rw [h₀] at hrequest
          cases r <;> exact hrequest.elim
      | some r₀ => exact ⟨r₀, rfl⟩
    · exact ⟨r, by rw [← ht.others b hb, hr]⟩

/-- The record of `a` changes, but not what the task waits for. -/
theorem ActionsOk.rewrite (h : ActionsOk w) (ht : Touches a w w')
    (hactions : w'.gupnp.actions = w.gupnp.actions)
    (hnext : w'.gupnp.nextAction = w.gupnp.nextAction)
    (hown : ∀ id, w'.Names a id → w.Names a id)
    (hexpects : ∀ act, Expects act (w.tasks a) → Expects act (w'.tasks a)) : ActionsOk w' := by
  refine h.mono (by rw [hactions]) hnext (ht.names hown) fun act _ =>
    ⟨ht.current.mpr, ?_, by rw [ht.proxies]; exact id⟩
  by_cases hb : act.task = a
  · rw [hb]
    exact hexpects act
  · rw [ht.others _ hb]
    exact id

theorem CompletionsOk.rewrite (h : CompletionsOk w) (ht : Touches a w w') {es : List Event}
    (hlog : w'.log = w.log ++ es) (hes : ∀ e ∈ es, e.isCompletion = false)
    (hidles : w'.loop.completeIdles = w.loop.completeIdles)
    (hpending : ∀ t, w.tasks a = some (.client t) → ¬t.Unscheduled →
      ∃ t', w'.tasks a = some (.client t') ∧ ¬t'.Unscheduled)
    (hrecord : ∀ t', w'.tasks a = some (.client t') → t'.Unscheduled →
      ∃ t, w.tasks a = some (.client t) ∧ t.Unscheduled) : CompletionsOk w' := by
  refine h.keep hlog hes hidles (Nat.le_of_eq ht.nextTask.symm) ?_ ?_
  · rintro b - hcurrent ⟨t, hb, hclosed⟩
    refine ⟨ht.current.mpr hcurrent, ?_⟩
    by_cases hba : b = a
    · subst hba
      exact hpending t hb hclosed
    · rw [ht.others b hba]
      exact ⟨t, hb, hclosed⟩
  · intro b t hb hopen
    by_cases hba : b = a
    · subst hba
      exact .inl (hrecord t hb hopen)
    · rw [ht.others b hba] at hb
      exact .inl ⟨t, hb, hopen⟩

/-- The completion of the current task `a` is scheduled, once and for all. -/
theorem ServiceOk.schedule (h : ServiceOk handled w) (ha : w.Current a) {t t' : ClientTask}
    (ht : w.tasks a = some (.client t)) (hopen : t.Unscheduled) (htouch : Touches a w w')
    (hlog : w'.log = w.log ++ [.completeScheduled a])
    (hidles : w'.loop.completeIdles = w.loop.completeIdles ++ [a])
    (ht' : w'.tasks a = some (.client t')) (hclosed : ¬t'.Unscheduled) : CompletionsOk w' :=
  h.outer.completions.schedule htouch hlog hidles ha (h.processor.current_bound ha)
    (h.outer.completions.unscheduled a t ht hopen)
    (fun hmem => h.lifetime.gone a hmem ha.holds) ⟨t', ht', hclosed⟩

theorem tasks_setTask (w : World) (a : TaskAtom) (r : Option Task) : (w.setTask a r).tasks a = r :=
  if_pos rfl

/-- A new record of the task names no action but the one the old record named. -/
theorem names_of_setTask {w₁ : World} {r r' : Task} {id : Nat} (hr : w.tasks a = some r)
    (hsame : ∀ id, r'.action = some id → r.action = some id)
    (h : (w₁.setTask a (some r')).Names a id) : w.Names a id := by
  obtain ⟨r₁, hr₁, hname⟩ := h
  obtain rfl := Option.some.inj ((tasks_setTask _ _ _).symm.trans hr₁)
  exact ⟨r, hr, hsame id hname⟩

theorem modifyClient_eq {t : ClientTask} (ht : w.tasks a = some (.client t))
    (f : ClientTask → ClientTask) :
    w.modifyClient a f = w.setTask a (some (.client (f t))) := by
  simp only [World.modifyClient, World.withClient, ht]

theorem setTask_setTask (w : World) (a : TaskAtom) (r r' : Option Task) :
    (w.setTask a r).setTask a r' = w.setTask a r' := by
  have htasks : (fun b => if b = a then r' else if b = a then r else w.tasks b) =
      fun b => if b = a then r' else w.tasks b := by
    funext b
    by_cases hb : b = a <;> simp [hb]
  simp only [World.setTask, htasks]

/-! ## Completing -/

theorem rsuTaskQueueTaskCompleted_serves {q : TaskQueue} (h : ServiceOk handled w)
    (hmine : mine a.queueId) (hq : w.queue? a.queueId = some q) (ha : q.currentTask = some a)
    (hquiet : w.Quiet a) :
    (serviceSteps mine handled).Run w (rsuTaskQueueTaskCompleted taskDeleteCb a.queueId w) :=
  rsuTaskQueueTaskCompleted_run h hmine hq ha ⟨hquiet, hmine⟩ fun _ _ _ => ⟨trivial, hmine⟩

/-- A change of the record of the current task, and then its completion. -/
theorem ServiceOk.touches_complete {q : TaskQueue} (h : ServiceOk handled w)
    (hmine : mine a.queueId) (hq : w.queue? a.queueId = some q) (ha : q.currentTask = some a)
    (hf : Focus a w w') (hactions : ActionsOk w') (hcompletions : CompletionsOk w')
    (hquiet : w'.Quiet a) :
    (serviceSteps mine handled).Run w (rsuTaskQueueTaskCompleted taskDeleteCb a.queueId w') := by
  have hfirst := h.touches ⟨q, hq, ha⟩ hmine hf hactions hcompletions
  exact hfirst.trans (rsuTaskQueueTaskCompleted_serves (hfirst.inv h) hmine
    ((hf.queue? _).trans hq) ha hquiet)

theorem OuterOk.quiet_client (h : OuterOk handled w) {t : ClientTask}
    (ht : w.tasks a = some (.client t)) (hfresh : t.cancellable = none) : w.Quiet a := by
  refine ⟨h.actions.noAction_client ht ?_, fun hmem => ?_⟩
  · simp [ClientTask.Armed, hfresh]
  · obtain ⟨-, t', ht', hclosed⟩ := h.completions.pending a hmem
    obtain rfl : t = t' := by simpa using ht.symm.trans ht'
    exact hclosed (.inl hfresh)

theorem OuterOk.not_complete_service (h : OuterOk handled w) {t : ServiceTask}
    (ht : w.tasks a = some (.service t)) : a ∉ w.loop.completeIdles := by
  intro hmem
  obtain ⟨-, t', ht', -⟩ := h.completions.pending a hmem
  simpa using ht.symm.trans ht'

/-! ## Answering -/

theorem answerTask_actionsOk (h : ActionsOk w) {t : ClientTask}
    (ht : w.tasks a = some (.client t)) (reply : ClientTask → Reply) :
    ActionsOk (answerTask a reply w) := by
  refine h.rewrite (touches_answerTask reply) ?_ ?_ ?_ ?_
  · rw [answerTask_eq ht]
    rfl
  · rw [answerTask_eq ht]
    rfl
  · rw [answerTask_eq ht]
    exact fun id => names_of_setTask ht fun _ hname => hname
  · intro act hact
    rw [ht] at hact
    rw [answerTask_eq ht, tasks_setTask]
    exact hact

theorem answerTask_completionsOk (h : CompletionsOk w) {t : ClientTask}
    (ht : w.tasks a = some (.client t)) (reply : ClientTask → Reply) :
    CompletionsOk (answerTask a reply w) := by
  have htouch : Touches a w (answerTask a reply w) := touches_answerTask reply
  rw [answerTask_eq ht] at htouch ⊢
  refine h.rewrite htouch rfl ?_ rfl ?_ ?_
  · intro e he
    obtain ⟨invocation, rfl⟩ := mem_pendingReply he
    rfl
  · intro t' ht' hclosed
    obtain rfl : t = t' := by simpa using ht.symm.trans ht'
    exact ⟨_, tasks_setTask _ _ _, hclosed⟩
  · intro t' ht' hopen
    rw [tasks_setTask] at ht'
    obtain rfl : { t with invocation := none } = t' := by simpa using ht'
    exact ⟨t, ht, hopen⟩

theorem focus_answerTask {t : ClientTask} (ht : w.tasks a = some (.client t))
    (reply : ClientTask → Reply) : Focus a w (answerTask a reply w) := by
  refine (touches_answerTask reply).focus ?_ ?_
  · rw [answerTask_eq ht]
    rfl
  · rw [answerTask_eq ht]
    rfl

theorem answerTask_serves (h : ServiceOk handled w) (ha : w.Current a) (hmine : mine a.queueId)
    {t : ClientTask} (ht : w.tasks a = some (.client t)) (reply : ClientTask → Reply) :
    (serviceSteps mine handled).Run w (answerTask a reply w) :=
  h.touches ha hmine (focus_answerTask ht reply) (answerTask_actionsOk h.outer.actions ht reply)
    (answerTask_completionsOk h.outer.completions ht reply)

theorem answerTask_quiet (hquiet : w.Quiet a) {t : ClientTask}
    (ht : w.tasks a = some (.client t)) (reply : ClientTask → Reply) :
    (answerTask a reply w).Quiet a := by
  rw [answerTask_eq ht]
  exact hquiet

theorem answerTask_complete {q : TaskQueue} (h : ServiceOk handled w) (hmine : mine a.queueId)
    (hq : w.queue? a.queueId = some q) (ha : q.currentTask = some a) (hquiet : w.Quiet a)
    {t : ClientTask} (ht : w.tasks a = some (.client t)) (reply : ClientTask → Reply) :
    (serviceSteps mine handled).Run w
      (rsuTaskQueueTaskCompleted taskDeleteCb a.queueId (answerTask a reply w)) :=
  h.touches_complete hmine hq ha (focus_answerTask ht reply)
    (answerTask_actionsOk h.outer.actions ht reply)
    (answerTask_completionsOk h.outer.completions ht reply) (answerTask_quiet hquiet ht reply)

/-! ## Cancelling -/

/-- The record of a task whose handler `rsu_async_task_cancelled` has run. -/
def ClientTask.cancelled (t : ClientTask) : ClientTask :=
  { t with
    cancellable := some { cancelled := true, connected := true }
    error := t.error <|> some operationCancelled }

theorem cancelPending_setTask (w : World) (a : TaskAtom) (r : Option Task)
    (proxy : Option ServiceProxy) (action : Option Nat) :
    (w.setTask a r).cancelPending proxy action = (w.cancelPending proxy action).setTask a r := by
  have hgupnp : (w.setTask a r).gupnp = w.gupnp := rfl
  unfold World.cancelPending
  rw [hgupnp]
  split <;> rfl

theorem rsuAsyncTaskCancel_armed {t : ClientTask} (ht : w.tasks a = some (.client t))
    (harmed : t.Armed) :
    rsuAsyncTaskCancel a w = ((w.cancelPending t.proxy t.action).setTask a
      (some (.client t.cancelled))).idleAddComplete a := by
  let t' : ClientTask := { t with cancellable := some { cancelled := true, connected := true } }
  have hmark : w.modifyClient a (fun t =>
      { t with cancellable := some { cancelled := true, connected := true } }) =
        w.setTask a (some (.client t')) := modifyClient_eq ht _
  have hcancellable : t.cancellable = some { cancelled := false, connected := true } := harmed
  have hcancelled : rsuAsyncTaskCancelled a (w.setTask a (some (.client t'))) =
      (((w.setTask a (some (.client t'))).cancelPending t.proxy t.action).modifyClient a fun t =>
        { t with error := t.error <|> some operationCancelled }).idleAddComplete a := by
    simp only [rsuAsyncTaskCancelled, World.withClient, tasks_setTask]
    rfl
  simp only [rsuAsyncTaskCancel, World.withClient, ht, hcancellable, gCancellableCancel,
    Bool.false_eq_true, if_false, if_true, hmark, hcancelled]
  rw [cancelPending_setTask, modifyClient_eq (tasks_setTask _ _ _), setTask_setTask]
  rfl

theorem rsuAsyncTaskCancel_serves (h : ServiceOk handled w) (ha : w.Current a)
    (hmine : mine a.queueId) {t : ClientTask}
    (ht : w.tasks a = some (.client t)) :
    (serviceSteps mine handled).Run w (rsuAsyncTaskCancel a w) := by
  by_cases harmed : t.Armed
  · have htouch : Touches a w (rsuAsyncTaskCancel a w) := touches_rsuAsyncTaskCancel
    rw [rsuAsyncTaskCancel_armed ht harmed] at htouch ⊢
    have hnone : (w.cancelPending t.proxy t.action).NoAction a := by
      refine h.outer.actions.noAction_cancelPending fun act hact => ?_
      rw [ht] at hact
      exact ⟨hact.1, hact.2.1⟩
    have hrecord := h.outer.actions.focus_cancelPending ht t.proxy
    have hset : Focus a (w.cancelPending t.proxy t.action)
        ((w.cancelPending t.proxy t.action).setTask a (some (.client t.cancelled))) := by
      have hkeeps : t.Keeps t.cancelled := ⟨rfl, rfl, rfl, rfl⟩
      exact (touches_setClient (by rw [tasks_cancelPending, ht]) hkeeps).focus rfl rfl
    refine h.touches ha hmine (hrecord.trans (hset.trans focus_idleAddComplete)) ?_ ?_
    · refine h.outer.actions.settle htouch (cancelPending_sublist w _ _)
        (nextAction_cancelPending w _ _) ?_ hnone
      exact fun id => names_of_setTask ht fun _ hname => hname
    · refine h.schedule ha ht (.inr harmed) htouch ?_ ?_ (tasks_setTask _ _ _) ?_
      · unfold World.cancelPending
        split <;> rfl
      · unfold World.cancelPending
        split <;> rfl
      · simp [ClientTask.Unscheduled, ClientTask.Armed, ClientTask.cancelled]
  · cases hc : t.cancellable with
    | none =>
        simp only [rsuAsyncTaskCancel, World.withClient, ht, hc]
        exact .refl
    | some c =>
        simp only [rsuAsyncTaskCancel, World.withClient, ht, hc, gCancellableCancel]
        split
        · exact .refl
        next hcancelled =>
          have hnot : c.connected = false := by
            by_contra hconnected
            refine harmed ?_
            rw [ClientTask.Armed, hc]
            cases c
            simp_all
          simp only [hnot, Bool.false_eq_true, if_false]
          have htouch : Touches a w (w.modifyClient a fun t =>
              { t with cancellable := some { c with cancelled := true } }) :=
            touches_modifyClient fun _ => ⟨rfl, rfl, rfl, rfl⟩
          rw [hnot] at htouch
          rw [modifyClient_eq ht] at htouch ⊢
          refine h.touches ha hmine (htouch.focus rfl rfl) ?_ ?_
          · refine h.outer.actions.settle htouch (.refl _) rfl ?_
              (h.outer.actions.noAction_client ht harmed)
            exact fun id => names_of_setTask ht fun _ hname => hname
          · refine h.outer.completions.rewrite htouch (List.append_nil _).symm (by simp) rfl ?_ ?_
            · intro _ _ _
              refine ⟨_, tasks_setTask _ _ _, ?_⟩
              simp [ClientTask.Unscheduled, ClientTask.Armed]
            · intro t' ht' hopen
              rw [tasks_setTask] at ht'
              obtain rfl := Task.client.inj (Option.some.inj ht')
              simp [ClientTask.Unscheduled, ClientTask.Armed] at hopen

theorem rsuTaskCancel_serves (h : ServiceOk handled w) (ha : w.Current a) (hmine : mine a.queueId)
    {t : ClientTask} (ht : w.tasks a = some (.client t)) :
    (serviceSteps mine handled).Run w (rsuTaskCancel a w) := by
  have hfirst := answerTask_serves h ha hmine ht fun _ => .error operationCancelled
  simp only [rsuTaskCancel, World.withClient, ht]
  split
  · exact hfirst
  · refine hfirst.trans (rsuAsyncTaskCancel_serves (t := { t with invocation := none })
      (hfirst.inv h) ?_ hmine ?_)
    · exact (touches_answerTask _).current.mpr ha
    · rw [answerTask_eq ht, tasks_setTask]

theorem rsuServiceTaskCancelCb_serves {q : TaskQueue} (h : ServiceOk handled w)
    (hmine : mine a.queueId) (hq : w.queue? a.queueId = some q) (ha : q.currentTask = some a)
    {t : ServiceTask} (ht : w.tasks a = some (.service t)) :
    (serviceSteps mine handled).Run w (rsuServiceTaskCancelCb a w) := by
  rw [rsuServiceTaskCancelCb_eq ht]
  split
  · have htouch := touches_giveUpStep ht
    have hnone : (w.cancelPending t.proxy t.pAction).NoAction a := by
      refine h.outer.actions.noAction_cancelPending fun act hact => ?_
      rw [ht] at hact
      exact ⟨hact.1, hact.2.1⟩
    have hidles : (w.cancelPending t.proxy t.pAction).loop.completeIdles =
        w.loop.completeIdles := by
      unfold World.cancelPending
      split <;> rfl
    have hlog : (w.cancelPending t.proxy t.pAction).log = w.log := by
      unfold World.cancelPending
      split <;> rfl
    have hpending := h.outer.actions.focus_cancelPending ht t.proxy
    have hset : Focus a (w.cancelPending t.proxy t.pAction) (w.giveUpStep a t) :=
      (touches_setService none (by rw [tasks_cancelPending, ht])).focus rfl rfl
    refine h.touches_complete hmine hq ha (hpending.trans hset) ?_ ?_ ⟨hnone, ?_⟩
    · refine h.outer.actions.settle htouch (cancelPending_sublist w _ _)
        (nextAction_cancelPending w _ _) ?_ hnone
      exact fun id => names_of_setTask ht fun _ hname => absurd hname (by simp [Task.action])
    · have hlog' : (w.giveUpStep a t).log = w.log ++ [] := by
        simpa [World.giveUpStep, World.setTask] using hlog
      refine h.outer.completions.rewrite htouch hlog' (by simp) hidles ?_ ?_
      · intro t' ht'
        simp [ht] at ht'
      · intro t' ht'
        simp [World.giveUpStep, tasks_setTask] at ht'
    · show a ∉ (w.cancelPending t.proxy t.pAction).loop.completeIdles
      rw [hidles]
      exact h.outer.not_complete_service ht
  · exact .refl

theorem serviceSteps_cancels : (serviceSteps mine handled).Cancels := by
  intro w q a h hmine hq ha _
  obtain ⟨-, -, -, hlive⟩ := (h.processor.queues _ q hq).current a ha
  cases hcs : q.callbacks with
  | client =>
      rw [hcs] at hlive
      obtain ⟨t, ht⟩ := TaskCallbacks.live_client hlive
      exact rsuTaskCancel_serves h ⟨q, hq, ha⟩ hmine ht
  | service =>
      rw [hcs] at hlive
      obtain ⟨t, ht⟩ := TaskCallbacks.live_service hlive
      exact rsuServiceTaskCancelCb_serves h hmine hq ha ht

end RendererService
