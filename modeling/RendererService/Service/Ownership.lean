import RendererService.Service.QueueKeys
import RendererService.Service.Safety

/-!
# Whom an action is for

A proxy belongs to one device for as long as it lives.  The actions of a client
are pending on the device that the queue of their task is for, and the step of a
construction works on the device under construction.
-/

namespace RendererService

open Transition

variable {w w' w'' : World} {a : TaskAtom} {d : Nat} {p : ServiceProxy} {handled : Option Nat}

def World.Owns (w : World) (d : Nat) (p : ServiceProxy) : Prop :=
  ∃ c, w.core d = some c ∧ p ∈ c.proxies

theorem owns_congr (h : ∀ d, w'.core d = w.core d) : w'.Owns d p ↔ w.Owns d p := by
  unfold World.Owns
  rw [h]

theorem DeviceCore.mem_proxies {c : DeviceCore} :
    p ∈ c.proxies ↔ ∃ x ∈ c.contexts, p ∈ x.serviceProxies.toList :=
  List.mem_flatMap

theorem DevicesOk.owner_unique (h : DevicesOk w) {d' : Nat} (hd : w.Owns d p)
    (hd' : w.Owns d' p) : d = d' := by
  obtain ⟨c, hc, hp⟩ := hd
  obtain ⟨c', hc', hp'⟩ := hd'
  obtain ⟨x, hx, hmem⟩ := DeviceCore.mem_proxies.mp hp
  obtain ⟨x', hx', hmem'⟩ := DeviceCore.mem_proxies.mp hp'
  refine h.distinct d d' c c' x x' hc hc' hx hx' ?_
  rw [← h.own d c x p hc hx hmem, ← h.own d' c' x' p hc' hx' hmem']

theorem DevicesOk.owned_bound (h : DevicesOk w) (hd : w.Owns d p) :
    p.context < w.gupnp.nextContext := by
  obtain ⟨c, hc, hp⟩ := hd
  obtain ⟨x, hx, hmem⟩ := DeviceCore.mem_proxies.mp hp
  rw [h.own d c x p hc hx hmem]
  exact h.bound d c x hc hx

/-! ## The invariant -/

structure AimsOk (w : World) : Prop where
  bound : ∀ act ∈ w.gupnp.actions, act.proxy.context < w.gupnp.nextContext
  requests : ∀ act ∈ w.gupnp.actions, ∀ t, w.tasks act.task = some (.client t) → t.Armed →
    ∀ d, w.Owns d act.proxy → t.device = some d
  constructions : ∀ a t p, w.tasks a = some (.service t) → t.proxy = some p →
    p.context < w.gupnp.nextContext ∧ ∀ d, w.Owns d p → t.device = d

/-- No handler is connected for the request, and its device is the same. -/
def KeepsAim (a : TaskAtom) (w w' : World) : Prop :=
  ∀ t', w'.tasks a = some (.client t') → t'.Armed →
    ∃ t, w.tasks a = some (.client t) ∧ t.Armed ∧ t'.device = t.device

theorem KeepsAim.trans (h : KeepsAim a w w') (h' : KeepsAim a w' w'') : KeepsAim a w w'' := by
  intro t'' ht'' harmed''
  obtain ⟨t', ht', harmed', hdevice'⟩ := h' t'' ht'' harmed''
  obtain ⟨t, ht, harmed, hdevice⟩ := h t' ht' harmed'
  exact ⟨t, ht, harmed, hdevice'.trans hdevice⟩

/-- No action is begun, no proxy changes hands, and no construction step is added. -/
structure Follows (w w' : World) : Prop where
  actions : ∀ act ∈ w'.gupnp.actions, act ∈ w.gupnp.actions
  owners : ∀ d p, p.context < w.gupnp.nextContext → w'.Owns d p → w.Owns d p
  nextContext : w.gupnp.nextContext ≤ w'.gupnp.nextContext
  requests : ∀ a, KeepsAim a w w'
  services : ∀ a t', w'.tasks a = some (.service t') →
    ∃ t, w.tasks a = some (.service t) ∧ t'.device = t.device ∧ t'.proxy = t.proxy

theorem AimsOk.follows (h : AimsOk w) (hf : Follows w w') : AimsOk w' where
  bound act hact := Nat.lt_of_lt_of_le (h.bound act (hf.actions act hact)) hf.nextContext
  requests act hact t' ht' harmed' d hd := by
    obtain ⟨t, ht, harmed, hdevice⟩ := hf.requests act.task t' ht' harmed'
    have hold := hf.actions act hact
    rw [hdevice]
    exact h.requests act hold t ht harmed d (hf.owners d act.proxy (h.bound act hold) hd)
  constructions a t p ht hp := by
    obtain ⟨t₀, ht₀, hdevice, hproxy⟩ := hf.services a t ht
    obtain ⟨hbound, howner⟩ := h.constructions a t₀ p ht₀ (hproxy ▸ hp)
    refine ⟨Nat.lt_of_lt_of_le hbound hf.nextContext, fun d hd => ?_⟩
    rw [hdevice]
    exact howner d (hf.owners d p hbound hd)

namespace Follows

theorem refl : Follows w w :=
  ⟨fun _ h => h, fun _ _ _ h => h, Nat.le_refl _, fun _ t ht harmed => ⟨t, ht, harmed, rfl⟩,
    fun _ t' ht' => ⟨t', ht', rfl, rfl⟩⟩

theorem trans (h : Follows w w') (h' : Follows w' w'') : Follows w w'' where
  actions act hact := h.actions act (h'.actions act hact)
  owners d p hp hd := h.owners d p hp (h'.owners d p (Nat.lt_of_lt_of_le hp h.nextContext) hd)
  nextContext := Nat.le_trans h.nextContext h'.nextContext
  requests a := (h.requests a).trans (h'.requests a)
  services a t'' ht'' := by
    obtain ⟨t', ht', hdevice', hproxy'⟩ := h'.services a t'' ht''
    obtain ⟨t, ht, hdevice, hproxy⟩ := h.services a t' ht'
    exact ⟨t, ht, hdevice'.trans hdevice, hproxy'.trans hproxy⟩

/-- The devices stay, and the records too, but for requests that wait for nothing. -/
theorem of_core (hactions : ∀ act ∈ w'.gupnp.actions, act ∈ w.gupnp.actions)
    (hcore : ∀ d, w'.core d = w.core d) (hnext : w'.gupnp.nextContext = w.gupnp.nextContext)
    (hrecords : ∀ a r, w'.tasks a = some r →
      w.tasks a = some r ∨ ∃ t, r = .client t ∧ ¬t.Armed) : Follows w w' where
  actions := hactions
  owners _ _ _ h := (owns_congr hcore).mp h
  nextContext := Nat.le_of_eq hnext.symm
  requests a t' ht' harmed := by
    rcases hrecords a _ ht' with hsame | ⟨t, hclient, hunarmed⟩
    · exact ⟨t', hsame, harmed, rfl⟩
    · exact absurd (Task.client.inj hclient ▸ harmed) hunarmed
  services a t' ht' := by
    rcases hrecords a _ ht' with hsame | ⟨t, hclient, -⟩
    · exact ⟨t', hsame, rfl, rfl⟩
    · simp at hclient

theorem of_same (hgupnp : w'.gupnp = w.gupnp) (hdevices : w'.devices = w.devices)
    (htasks : w'.tasks = w.tasks) : Follows w w' :=
  of_core (fun _ hact => hgupnp ▸ hact) (fun d => by rw [World.core, hdevices]; rfl)
    (by rw [hgupnp]) fun _ _ ht' => .inl (htasks ▸ ht')

theorem of_cosmetic (h : Cosmetic w w') : Follows w w' :=
  of_core (fun _ hact => h.actions ▸ hact) h.core h.nextContext fun _ _ ht' => .inl (h.tasks ▸ ht')

theorem of_touches (h : Touches a w w')
    (hactions : ∀ act ∈ w'.gupnp.actions, act ∈ w.gupnp.actions) (haim : KeepsAim a w w') :
    Follows w w' where
  actions := hactions
  owners _ _ _ hd := (owns_congr h.core).mp hd
  nextContext := Nat.le_of_eq h.nextContext.symm
  requests b := by
    by_cases hb : b = a
    · exact hb ▸ haim
    · exact fun t' ht' harmed => ⟨t', (h.others b hb) ▸ ht', harmed, rfl⟩
  services b t' ht' := by
    by_cases hb : b = a
    · subst hb
      have hsame := h.request
      rw [ht'] at hsame
      cases hr : w.tasks b with
      | none => rw [hr] at hsame; exact hsame.elim
      | some r =>
          rw [hr] at hsame
          cases r with
          | client t => exact hsame.elim
          | service t => exact ⟨t, rfl, hsame.2.1, hsame.2.2.1⟩
    · exact ⟨t', (h.others b hb) ▸ ht', rfl, rfl⟩

theorem of_frees {gone : List ServiceProxy} (h : Frees gone w w')
    (hcore : ∀ d c', w'.core d = some c' →
      ∃ c, w.core d = some c ∧ c'.contexts.Sublist c.contexts) : Follows w w' where
  actions act hact := (h.mem_actions.mp hact).1
  owners d p _ hd := by
    obtain ⟨c', hc', hp⟩ := hd
    obtain ⟨c, hc, hsub⟩ := hcore d c' hc'
    obtain ⟨x, hx, hmem⟩ := DeviceCore.mem_proxies.mp hp
    exact ⟨c, hc, DeviceCore.mem_proxies.mpr ⟨x, hsub.subset hx, hmem⟩⟩
  nextContext := Nat.le_of_eq h.nextContext.symm
  requests _ t' ht' harmed := ⟨t', h.tasks ▸ ht', harmed, rfl⟩
  services a t' ht' := ⟨t', h.tasks ▸ ht', rfl, rfl⟩

theorem of_gains {c : DeviceCore} {ipAddress : String} {offered : DeviceServices}
    (h : Gains d c (w.newContext ipAddress offered) w w')
    (hc : w.core d = some c ∨ c.contexts = []) : Follows w w' where
  actions act hact := h.actions ▸ hact
  owners e p hp hd := by
    obtain ⟨c', hc', hmem⟩ := hd
    rw [h.core] at hc'
    split at hc'
    next he =>
      obtain rfl := Option.some.inj hc'
      obtain ⟨x, hx, hx'⟩ := DeviceCore.mem_proxies.mp hmem
      rcases List.mem_append.mp hx with hx | hx
      · rcases hc with hc | hc
        · exact ⟨c, he ▸ hc, DeviceCore.mem_proxies.mpr ⟨x, hx, hx'⟩⟩
        · rw [hc] at hx
          exact absurd hx List.not_mem_nil
      · obtain rfl := List.mem_singleton.mp hx
        exact absurd (mem_getServices hx') (Nat.ne_of_lt hp)
    · exact ⟨c', hc', hmem⟩
  nextContext := h.nextContext ▸ Nat.le_succ _
  requests _ t' ht' harmed := ⟨t', h.tasks ▸ ht', harmed, rfl⟩
  services a t' ht' := ⟨t', h.tasks ▸ ht', rfl, rfl⟩

end Follows

/-! ## Runs of the processor -/

/-- The steps of the processor for clients, between which no action is begun. -/
def followSteps : Discipline where
  E w w' := Elsewhere w w' ∧ Follows w w'
  Allowed _ act := act.Within fun _ => True
  Inv := ProcessorOk
  Mine _ := True
  processor h := h
  preserved h _ hstep := hstep.ok (fun _ _ _ he => he.1) h
  defer _ _ _ := trivial
  clear _ _ _ := trivial
  cancelling _ _ _ := trivial
  remove _ _ _ := trivial

theorem Step.follows {E : World → World → Prop} {act : Act} (hok : ProcessorOk w)
    (hstep : Step E w act w') (hact : act ≠ .elsewhere) (hwithin : act.Within fun _ => True) :
    Follows w w' := by
  have hf := hstep.footprint hok hact
  refine .of_core (fun _ h => hf.gupnp ▸ h) (fun d => by rw [World.core, hf.devices]; rfl)
    (by rw [hf.gupnp]) fun a r hr => ?_
  cases r with
  | client t =>
      rcases hf.records a _ hr with hsame | ⟨-, hfresh⟩
      · exact .inl hsame
      · refine .inr ⟨t, rfl, fun harmed => ?_⟩
        exact harmed.begun hfresh.client
  | service t => exact .inl (hstep.serviceRecord hok hact hwithin hr)

theorem follows_of_run (h : followSteps.Run w w') (hok : ProcessorOk w) : Follows w w' := by
  have hboth : ProcessorOk w' ∧ Follows w w' := by
    refine System.Steps.invariant (I := fun w' => ProcessorOk w' ∧ Follows w w') h
      ⟨hok, .refl⟩ ?_
    rintro w₁ act w₂ ⟨hok₁, hfollows⟩ ⟨hwithin, hstep⟩
    refine ⟨hstep.ok (fun _ _ _ he => he.1) hok₁, hfollows.trans ?_⟩
    by_cases hact : act = .elsewhere
    · subst hact
      cases hstep with
      | elsewhere he => exact he.2
    · exact hstep.follows hok₁ hact hwithin
  exact hboth.2

theorem gupnp_modifyClient (a : TaskAtom) (f : ClientTask → ClientTask) (w : World) :
    (w.modifyClient a f).gupnp = w.gupnp := by
  unfold World.modifyClient World.withClient
  split <;> rfl

theorem gupnp_answerTask (a : TaskAtom) (reply : ClientTask → Reply) (w : World) :
    (answerTask a reply w).gupnp = w.gupnp := by
  unfold answerTask World.withClient
  split
  · dsimp only
    split <;> rfl
  · rfl

theorem actions_rsuAsyncTaskCancel (a : TaskAtom) (w : World) :
    ∀ act ∈ (rsuAsyncTaskCancel a w).gupnp.actions, act ∈ w.gupnp.actions := by
  have hcancelled : ∀ w : World, ∀ act ∈ (rsuAsyncTaskCancelled a w).gupnp.actions,
      act ∈ w.gupnp.actions := by
    intro w act hact
    unfold rsuAsyncTaskCancelled World.withClient at hact
    split at hact
    next t _ =>
      have hpending : act ∈ (w.cancelPending t.proxy t.action).gupnp.actions := by
        have hsame := gupnp_modifyClient a
          (fun t => { t with error := t.error <|> some operationCancelled })
          (w.cancelPending t.proxy t.action)
        exact hsame ▸ hact
      exact (cancelPending_sublist w t.proxy t.action).subset hpending
    · exact hact
  intro act hact
  unfold rsuAsyncTaskCancel World.withClient at hact
  split at hact
  · dsimp only at hact
    split at hact
    next c _ =>
      unfold gCancellableCancel at hact
      split at hact
      · exact hact
      · have hmark := gupnp_modifyClient a
          (fun t => { t with cancellable := some { c with cancelled := true } }) w
        dsimp only at hact
        split at hact
        · exact hmark ▸ hcancelled _ act hact
        · exact hmark ▸ hact
    · exact hact
  · exact hact

theorem actions_rsuTaskCancel (a : TaskAtom) (w : World) :
    ∀ act ∈ (rsuTaskCancel a w).gupnp.actions, act ∈ w.gupnp.actions := by
  intro act hact
  have hanswer := gupnp_answerTask a (fun _ => .error operationCancelled) w
  unfold rsuTaskCancel World.withClient at hact
  split at hact
  · dsimp only at hact
    split at hact
    · exact hanswer ▸ hact
    · exact hanswer ▸ actions_rsuAsyncTaskCancel a _ act hact
  · exact hact

theorem ClientTask.Armed.not_givenUp {t : ClientTask} (h : t.Armed) : ¬t.GivenUp := by
  rintro ⟨c, hc, hcancelled⟩
  obtain rfl := Option.some.inj (hc.symm.trans h)
  simp at hcancelled

theorem keepsAim_of_tasks (h : w'.tasks a = w.tasks a) : KeepsAim a w w' :=
  fun t ht harmed => ⟨t, h ▸ ht, harmed, rfl⟩

theorem keepsAim_setTask {t' : ClientTask} {w₁ : World}
    (h : t'.Armed → ∃ t, w.tasks a = some (.client t) ∧ t.Armed ∧ t'.device = t.device) :
    KeepsAim a w (w₁.setTask a (some (.client t'))) := by
  intro t ht harmed
  obtain rfl := Task.client.inj (Option.some.inj ((tasks_setTask w₁ a _).symm.trans ht))
  exact h harmed

theorem keepsAim_setService (t : ServiceTask) (w w₁ : World) :
    KeepsAim a w (w₁.setTask a (some (.service t))) := by
  intro t' ht'
  simp [tasks_setTask] at ht'

theorem keepsAim_modifyClient {f : ClientTask → ClientTask}
    (hf : ∀ t, w.tasks a = some (.client t) → (f t).Armed → t.Armed ∧ (f t).device = t.device) :
    KeepsAim a w (w.modifyClient a f) := by
  by_cases hclient : ∃ t, w.tasks a = some (.client t)
  · obtain ⟨t, ht⟩ := hclient
    rw [modifyClient_eq ht]
    exact keepsAim_setTask fun harmed => ⟨t, ht, hf t ht harmed⟩
  · refine keepsAim_of_tasks ?_
    unfold World.modifyClient World.withClient
    split
    next t ht => exact absurd ⟨t, ht⟩ hclient
    · rfl

theorem keepsAim_answerTask (reply : ClientTask → Reply) : KeepsAim a w (answerTask a reply w) := by
  by_cases hclient : ∃ t, w.tasks a = some (.client t)
  · obtain ⟨t, ht⟩ := hclient
    rw [answerTask_eq ht]
    exact keepsAim_setTask fun harmed => ⟨t, ht, harmed, rfl⟩
  · refine keepsAim_of_tasks ?_
    unfold answerTask World.withClient
    split
    next t ht => exact absurd ⟨t, ht⟩ hclient
    · rfl

theorem keepsAim_rsuTaskCancel : KeepsAim a w (rsuTaskCancel a w) := by
  by_cases hclient : ∃ t, w.tasks a = some (.client t)
  · obtain ⟨t, ht⟩ := hclient
    cases hsync : t.synchronous with
    | true =>
        have heq : rsuTaskCancel a w = answerTask a (fun _ => .error operationCancelled) w := by
          simp only [rsuTaskCancel, World.withClient, ht, hsync, if_true]
        exact heq ▸ keepsAim_answerTask _
    | false =>
        intro t' ht' harmed
        have hsame := (touches_rsuTaskCancel (w := w) (a := a)).request
        rw [ht, ht'] at hsame
        have hasync : t'.synchronous = false := hsame.2.2.trans hsync
        exact absurd (rsuTaskCancel_givenUp ht ht' harmed.begun hasync) harmed.not_givenUp
  · refine keepsAim_of_tasks ?_
    unfold rsuTaskCancel World.withClient
    split
    next t ht => exact absurd ⟨t, ht⟩ hclient
    · rfl

theorem followSteps_cancels : followSteps.Cancels := by
  intro w q a hok _ hq ha htasks
  have hcurrent : w.Current a := ⟨q, hq, ha⟩
  have helsewhere : ∀ {w'}, Touches a w w' →
      (∀ act ∈ w'.gupnp.actions, act ∈ w.gupnp.actions) → KeepsAim a w w' →
        followSteps.Run w w' := fun htouch hactions haim =>
    .one (.elsewhere ⟨htouch.elsewhere hok hcurrent, .of_touches htouch hactions haim⟩) trivial
  cases hcs : q.callbacks with
  | client =>
      exact helsewhere touches_rsuTaskCancel (actions_rsuTaskCancel a w) keepsAim_rsuTaskCancel
  | service =>
      obtain ⟨-, -, -, hlive⟩ := (hok.queues _ q hq).current a ha
      rw [hcs] at hlive
      obtain ⟨t, ht⟩ := TaskCallbacks.live_service hlive
      simp only [taskCancelCb, rsuServiceTaskCancelCb_eq ht]
      split
      · have htouch := touches_giveUpStep ht
        have hfirst := helsewhere htouch (cancelPending_sublist w t.proxy t.pAction).subset
          (keepsAim_setService _ w _)
        exact hfirst.trans (rsuTaskQueueTaskCompleted_run (hfirst.inv hok) trivial
          ((htouch.queue? _).trans hq) ha trivial fun hne => absurd htasks hne)
      · exact .refl

/-! ## Tasks -/

theorem follows_emit (w : World) (e : Event) : Follows w (w.emit e) := .of_same rfl rfl rfl

theorem follows_crash (w : World) (f : Fault) : Follows w (w.crash f) := .of_same rfl rfl rfl

theorem follows_setQuitting (hok : ProcessorOk w) :
    Follows w (rsuTaskProcessorSetQuitting taskDeleteCb taskCancelCb w) :=
  follows_of_run (rsuTaskProcessorSetQuitting_run followSteps_cancels (fun _ _ => trivial) hok
    (fun _ => trivial) fun _ => trivial) hok

theorem follows_cancelQueue (k : TaskQueueKey) (hok : ProcessorOk w) :
    Follows w (rsuTaskProcessorCancelQueue taskDeleteCb taskCancelCb k w) := by
  cases hq : w.queue? k with
  | none =>
      rw [rsuTaskProcessorCancelQueue, hq]
      exact follows_crash w _
  | some q =>
      exact follows_of_run (rsuTaskProcessorCancelQueue_run followSteps_cancels hok trivial hq) hok

theorem follows_removeQueuesForSource (source : String) (hok : ProcessorOk w) :
    Follows w (rsuTaskProcessorRemoveQueuesForSource taskDeleteCb taskCancelCb source w) :=
  follows_of_run (rsuTaskProcessorRemoveQueuesForSource_run followSteps_cancels source hok
    fun _ _ _ => trivial) hok

theorem follows_removeQueuesForSink (sink : String) (hok : ProcessorOk w) :
    Follows w (rsuTaskProcessorRemoveQueuesForSink taskDeleteCb taskCancelCb sink w) :=
  follows_of_run (rsuTaskProcessorRemoveQueuesForSink_run followSteps_cancels sink hok
    fun _ _ _ => trivial) hok

/-- A callback that begins no action, and the completion of its task. -/
theorem Touches.follows_completed (h : Touches a w w') (hok : ProcessorOk w) (ha : w.Current a)
    (hactions : ∀ act ∈ w'.gupnp.actions, act ∈ w.gupnp.actions) (haim : KeepsAim a w w') :
    Follows w (rsuTaskQueueTaskCompleted taskDeleteCb a.queueId w') := by
  obtain ⟨q, hq, hcurrent⟩ := ha
  have hok' : ProcessorOk w' := elsewhere_ok hok (h.elsewhere hok ⟨q, hq, hcurrent⟩)
  have hq' : w'.queue? a.queueId = some q := (h.queue? _).trans hq
  exact (Follows.of_touches h hactions haim).trans (follows_of_run (rsuTaskQueueTaskCompleted_run
    (D := followSteps) hok' trivial hq' hcurrent trivial fun _ _ _ => trivial) hok')

theorem follows_answerTask_completed (reply : ClientTask → Reply) (hok : ProcessorOk w)
    (ha : w.Current a) :
    Follows w (rsuTaskQueueTaskCompleted taskDeleteCb a.queueId (answerTask a reply w)) :=
  (touches_answerTask reply).follows_completed hok ha
    (fun _ hact => gupnp_answerTask a reply w ▸ hact) (keepsAim_answerTask reply)

theorem follows_lookupOrAddQueue (clientName sink : String) (w : World) :
    Follows w (lookupOrAddQueue clientName sink w).2 := by
  unfold lookupOrAddQueue
  split
  · exact .refl
  next hnew =>
    rw [rsuTaskProcessorAddQueue_eq autoStart .client hnew]
    exact .of_same rfl rfl rfl

theorem follows_rsuTaskQueueAddTask (k : TaskQueueKey) {t : ClientTask} (w : World)
    (ht : t.Unbegun) : Follows w (rsuTaskQueueAddTask k (.client t) w) := by
  have hpush : Follows w (w.pushTask k (.client t)) := by
    refine .of_core (fun _ h => h) (fun _ => rfl) rfl fun a r hr => ?_
    have hrecord : (w.pushTask k (.client t)).tasks a =
        if a = w.newAtom k then some (.client t) else w.tasks a := rfl
    rw [hrecord] at hr
    split at hr
    · exact .inr ⟨t, (Option.some.inj hr).symm, fun harmed => harmed.begun ht.1⟩
    · exact .inl hr
  have hidle : ∀ w : World, Follows w (w.idleAddProcess k) := fun _ => .of_same rfl rfl rfl
  unfold rsuTaskQueueAddTask
  split
  · exact follows_crash w _
  · dsimp only
    split
    · exact hpush
    · split
      · exact hpush.trans (hidle _)
      · exact hpush

theorem follows_prvAddTask (clientName sink : String) (n : Nat) {t : ClientTask} (w : World)
    (ht : t.Unbegun) : Follows w (prvAddTask clientName n t sink w) := by
  have hwatch : Follows w (w.watch clientName) := by
    unfold World.watch
    split
    · exact .refl
    · exact .of_same rfl rfl rfl
  rw [prvAddTask_eq]
  exact hwatch.trans ((follows_lookupOrAddQueue clientName sink _).trans
    ((follows_rsuTaskQueueAddTask _ _ ht).trans (follows_emit _ _)))

theorem follows_withDeviceId {object : String} {f : Nat → String → World → World}
    (hf : ∀ n, Follows w.newInvocation.2 (f n object w.newInvocation.2)) :
    Follows w (withDeviceId object f w) := by
  have harrive : Follows w w.newInvocation.2 := .of_same rfl rfl rfl
  rcases withDeviceId_cases object f w with heq | ⟨error, heq⟩
  · rw [heq]
    exact harrive.trans (hf _)
  · rw [heq]
    exact harrive.trans (follows_emit _ _)

theorem follows_withDeviceId_addTask (sender object : String) {f : Nat → ClientTask}
    (hf : ∀ n, (f n).Unbegun) :
    Follows w (withDeviceId object (fun n => prvAddTask sender n (f n)) w) :=
  follows_withDeviceId fun n => follows_prvAddTask sender object n _ (hf n)

theorem follows_prvRemoveClient (name : String) (h : ServiceOk handled w) :
    Follows w (prvRemoveClient name w) := by
  have hlost : ∀ w : World, Follows w (rsuUpnpLostClient name w) := fun _ => .of_same rfl rfl rfl
  have hwatchers : ∀ (w : World) (context : Context), Follows w { w with context := context } :=
    fun _ _ => .of_same rfl rfl rfl
  have hdrop : Follows w (w.dropClient name) :=
    (follows_removeQueuesForSource name h.processor).trans ((hlost _).trans (hwatchers _ _))
  rw [prvRemoveClient_eq]
  split
  · exact hdrop.trans (follows_setQuitting (dropClient_serviceOk name h).processor)
  · exact hdrop

theorem follows_prvRsuMethodCall (sender : String) (method : ManagerMethod) (h : ServiceOk none w) :
    Follows w (prvRsuMethodCall sender method w) := by
  have harrive : Follows w w.newInvocation.2 := .of_same rfl rfl rfl
  cases method with
  | release =>
      exact harrive.trans ((follows_prvRemoveClient sender (newInvocation_serviceOk h)).trans
        (follows_emit _ _))
  | getVersion => exact harrive.trans (follows_prvAddTask _ _ _ _ ⟨rfl, rfl, rfl⟩)
  | getServers => exact harrive.trans (follows_prvAddTask _ _ _ _ ⟨rfl, rfl, rfl⟩)

theorem follows_cancelCall (sender object : String) (h : ServiceOk none w) :
    Follows w (prvRendererDeviceMethodCall sender object w) := by
  refine follows_withDeviceId fun n => ?_
  dsimp only
  split
  · exact (follows_cancelQueue _ (newInvocation_serviceOk h).processor).trans (follows_emit _ _)
  · exact follows_emit _ _

/-! ## Replies and completions -/

theorem follows_completeWith {f : ClientTask → ClientTask} (hf : ∀ t : ClientTask, t.Keeps (f t))
    (hunarmed : ∀ t, w.tasks a = some (.client t) → ¬(f t).Armed) :
    Follows w (completeWith a f w) :=
  .of_touches (touches_completeWith hf) (fun _ hact => gupnp_modifyClient a f w ▸ hact)
    (keepsAim_modifyClient fun t ht harmed => absurd harmed (hunarmed t ht))

theorem ClientTask.Disconnects.not_armed {t t' : ClientTask} (h : t.Disconnects t') :
    ¬t'.Armed := by
  obtain ⟨-, -, -, hcancellable⟩ := h
  intro harmed
  rw [ClientTask.Armed, hcancellable] at harmed
  cases hc : t.cancellable with
  | none => simp [hc] at harmed
  | some c => simp [hc] at harmed

theorem follows_dropReply (action : ProxyAction) (w : World) : Follows w (w.dropReply action) :=
  .of_core (fun _ hact => List.mem_of_mem_erase hact) (fun _ => rfl) rfl fun _ _ ht' => .inl ht'

theorem follows_serviceReply (env : Environment) (hok : ProcessorOk w) (ha : w.Current a) :
    Follows w (rsuServiceTaskBeginActionCb (serviceTaskCallback env) a w) := by
  unfold rsuServiceTaskBeginActionCb World.withService
  split
  next t ht =>
    have htouch : Touches a w (w.setTask a (some (.service { t with pAction := none }))) :=
      touches_setService none ht
    have haim := keepsAim_setService (a := a) { t with pAction := none } w w
    dsimp only
    split
    · exact .of_touches (htouch.trans (touches_crash (f := .nullCallback a) (by simp)))
        (fun _ hact => hact) haim
    next cb _ =>
      cases cb with
      | prvGetProtocolInfoCb =>
          rw [serviceTaskCallback]
          rcases prvGetProtocolInfoCb_cases env t
            (w.setTask a (some (.service { t with pAction := none }))) with heq | heq
          · rw [heq]
            exact htouch.follows_completed hok ha (fun _ hact => hact) haim
          · rw [heq]
            have hboth := htouch.trans (touches_crash (f := .deadDevice t.device) (by simp))
            exact hboth.follows_completed hok ha (fun _ hact => hact) haim
  · exact follows_crash w _

theorem follows_actionReply {action : ProxyAction} (env : Environment) (hok : ProcessorOk w)
    (ha : w.Current action.task) : Follows w (actionReply action env w) := by
  have hok' : ProcessorOk (w.dropReply action) := hok.congr rfl rfl rfl rfl rfl rfl rfl
  refine (follows_dropReply action w).trans ?_
  unfold actionReply
  dsimp only
  split
  · exact follows_serviceReply env hok' ha
  · unfold prvGetPositionInfoCb World.withClient
    split
    next t _ =>
      dsimp only
      split
      · exact follows_crash _ _
      next cb _ =>
        rcases withTaskDevice_cases (w.dropReply action) action.task t (completeWith action.task
          (fun t => deviceLocalCb env cb (endAction env "GetPositionInfo operation failed: " t))
          (w.dropReply action)) with heq | ⟨f, -, heq⟩
        · rw [heq]
          exact follows_completeWith
            (fun t => (deviceLocalCb_disconnects env cb (endAction_reports env _ t)).1)
            fun t _ => (deviceLocalCb_disconnects env cb (endAction_reports env _ t)).not_armed
        · rw [heq]
          exact follows_crash _ f
    · exact follows_crash _ _
  · exact follows_completeWith
      (fun t => (gCancellableDisconnect_disconnects (endAction_reports env _ t)).1)
      fun t _ => (gCancellableDisconnect_disconnects (endAction_reports env _ t)).not_armed

theorem follows_completeIdle (hok : ProcessorOk w) (ha : w.Current a) :
    Follows w (exec w (.completeIdle a)) := by
  let w₁ := (w.setLoop { w.loop with completeIdles := w.loop.completeIdles.erase a }).emit
    (.completeRan a)
  have hran : Follows w w₁ := .of_same rfl rfl rfl
  have hok₁ : ProcessorOk w₁ := hok.congr rfl rfl rfl rfl rfl rfl rfl
  show Follows w (rsuAsyncTaskComplete a _)
  unfold rsuAsyncTaskComplete World.withClient
  split
  · refine hran.trans ?_
    unfold prvAsyncTaskComplete
    dsimp only
    split
    · exact follows_answerTask_completed (w := w₁) _ hok₁ ha
    · exact follows_answerTask_completed (w := w₁) _ hok₁ ha
  · exact .of_same rfl rfl rfl

/-! ## Discovery -/

theorem follows_setUpnp (u : Upnp) (w : World) : Follows w { w with upnp := u } :=
  .of_same rfl rfl rfl

theorem follows_setLoop (l : MainLoop) (w : World) : Follows w (w.setLoop l) :=
  .of_same rfl rfl rfl

theorem follows_rsuDeviceDelete (d : Nat) (w : World) : Follows w (rsuDeviceDelete d w) := by
  cases hd : w.core d with
  | none =>
      have hnone : w.devices d = none := Option.map_eq_none_iff.mp hd
      have hcrash : rsuDeviceDelete d w = w.crash (.deadDevice d) := by
        simp only [rsuDeviceDelete, World.withDevice, hnone]
      rw [hcrash]
      exact follows_crash w _
  | some c =>
      obtain ⟨hfrees, hcore⟩ := frees_rsuDeviceDelete hd
      refine .of_frees hfrees fun e c' hc' => ?_
      rw [hcore] at hc'
      split at hc'
      · simp at hc'
      · exact ⟨c', hc', .refl _⟩

theorem follows_removeContext {dev : Device} (hdev : w.devices d = some dev)
    (context : DeviceContext) (ipAddress : String) :
    Follows w (w.removeContext d dev context ipAddress) := by
  obtain ⟨hfrees, hcore⟩ := frees_removeContext (w := w) d dev context
    (dev.contexts.eraseP fun context => context.ipAddress = ipAddress)
  have hremoved : ∀ e, (w.removeContext d dev context ipAddress).core e = _ := hcore
  have hd : w.core d = some dev.core := core_of_device hdev
  refine .of_frees hfrees fun e c' hc' => ?_
  rw [hremoved] at hc'
  split at hc'
  next he =>
    obtain rfl := Option.some.inj hc'
    exact ⟨dev.core, he ▸ hd, List.eraseP_sublist.map _⟩
  · exact ⟨c', hc', .refl _⟩

theorem follows_prvServerLost (udn path : String) (uc : Option DeviceNewCt) (hok : ProcessorOk w) :
    Follows w (prvServerLost udn d path uc w) := by
  cases uc with
  | none =>
      have hok' : ProcessorOk (w.emit (.lostServer path)) := hok.congr rfl rfl rfl rfl rfl rfl rfl
      exact (follows_emit w _).trans ((follows_removeQueuesForSink path hok').trans
        ((follows_setUpnp _ _).trans (follows_rsuDeviceDelete d _)))
  | some ct => exact follows_cancelQueue ct.queueId hok

theorem follows_prvServerUnavailableCb (udn ipAddress : String) (h : ServiceOk handled w) :
    Follows w (prvServerUnavailableCb udn ipAddress w) := by
  cases departure udn ipAddress w with
  | ignored _ heq =>
      rw [heq]
      exact .refl
  | dangling _ _ heq =>
      rw [heq]
      exact follows_crash w _
  | @last d uc dev context hdeparting _ heq =>
      rw [heq]
      have hok := (h.departing hdeparting).processor
      exact (follows_removeContext hdeparting.device context ipAddress).trans
        (follows_prvServerLost udn dev.path uc hok)
  | @later d _ _ context hdeparting _ _ heq =>
      rw [heq]
      exact (follows_removeContext hdeparting.device context ipAddress).trans
        (.of_cosmetic (cosmetic_subscribeLater d))
  | @other _ _ _ context hdeparting _ _ heq =>
      rw [heq]
      exact follows_removeContext hdeparting.device context ipAddress

theorem follows_prvTaskQueueFinallyCb (q : TaskQueue) (w : World) :
    Follows w (prvTaskQueueFinallyCb q w) := by
  unfold prvTaskQueueFinallyCb
  split
  next ct _ =>
    unfold prvDeviceChainEnd
    dsimp only
    split
    · exact (follows_emit w _).trans ((follows_setUpnp _ _).trans (follows_rsuDeviceDelete _ _))
    · unfold World.withDevice
      split
      · have hinsert : ∀ w : World, Follows w (serverUdnMapInsert ct.udn ct.device w) := by
          intro w
          unfold serverUdnMapInsert
          dsimp only
          split
          · exact (follows_setUpnp _ w).trans (follows_rsuDeviceDelete _ _)
          · exact follows_setUpnp _ w
        exact (follows_emit w _).trans ((hinsert _).trans ((follows_emit _ _).trans
          (follows_setUpnp _ _)))
      · exact (follows_emit w _).trans (follows_crash _ _)
  · exact follows_crash w _

/-! ## Construction -/

theorem owns_blankConstruction {udn : String} (h : (w.blankConstruction udn).Owns d p) :
    w.Owns d p := by
  obtain ⟨c, hc, hp⟩ := h
  have hcore : (w.blankConstruction udn).core d = if d = w.upnp.counter then
      some ⟨rsuServerPath ++ "/" ++ toString w.upnp.counter, []⟩ else w.core d := by
    rw [World.blankConstruction, core_setDevice]
    rfl
  rw [hcore] at hc
  split at hc
  · obtain rfl := Option.some.inj hc
    exact absurd hp List.not_mem_nil
  · exact ⟨c, hc, hp⟩

theorem follows_openConstruction (udn ipAddress : String) (offered : DeviceServices) (w : World) :
    Follows w (w.openConstruction udn ipAddress offered) := by
  have hblank : Follows w (w.blankConstruction udn) :=
    ⟨fun _ hact => hact, fun _ _ _ hd => owns_blankConstruction hd, Nat.le_refl _,
      fun _ t ht harmed => ⟨t, ht, harmed, rfl⟩, fun _ t ht => ⟨t, ht, rfl, rfl⟩⟩
  have hgains : Gains w.upnp.counter ⟨rsuServerPath ++ "/" ++ toString w.upnp.counter, []⟩
      ((w.blankConstruction udn).newContext ipAddress offered) (w.blankConstruction udn)
      (w.openConstruction udn ipAddress offered) := gains_openConstruction udn ipAddress offered
  exact hblank.trans (.of_gains hgains (.inr rfl))

def World.WorksOn (w : World) (d : Nat) (proxy : Option ServiceProxy) : Prop :=
  ∀ p, proxy = some p → p.context < w.gupnp.nextContext ∧ ∀ e, w.Owns e p → d = e

theorem worksOn_openConstruction (udn ipAddress : String) (offered : DeviceServices)
    (h : DevicesOk w) : (w.openConstruction udn ipAddress offered).WorksOn w.upnp.counter
      (gupnpDeviceInfoGetServices w.gupnp.nextContext offered).cmProxy := by
  intro p hp
  have hgains := gains_openConstruction (w := w) udn ipAddress offered
  have hget : (gupnpDeviceInfoGetServices w.gupnp.nextContext offered).get .cm = some p := hp
  have hcontext : p.context = w.gupnp.nextContext :=
    mem_getServices (ServiceProxies.mem_of_get hget)
  have hnext : (w.openConstruction udn ipAddress offered).gupnp.nextContext =
      w.gupnp.nextContext + 1 := hgains.nextContext
  refine ⟨by omega, fun e he => ?_⟩
  by_contra hne
  obtain ⟨c, hc, hmem⟩ := he
  rw [hgains.core, if_neg fun h => hne h.symm] at hc
  have hblank : (w.blankConstruction udn).Owns e p := ⟨c, hc, hmem⟩
  have hbound := h.owned_bound (owns_blankConstruction hblank)
  omega

theorem AimsOk.pushConstruction (h : AimsOk w) {proxy : Option ServiceProxy}
    (hworks : w.WorksOn d proxy) (k : TaskQueueKey) (action : ServiceTaskAction)
    (callback : Option ServiceTaskCallback) :
    AimsOk (w.pushTask k (constructionTask d proxy action callback)) ∧
      (w.pushTask k (constructionTask d proxy action callback)).WorksOn d proxy := by
  have hrecord : ∀ a, (w.pushTask k (constructionTask d proxy action callback)).tasks a =
      if a = w.newAtom k then some (constructionTask d proxy action callback)
      else w.tasks a := fun _ => rfl
  refine ⟨⟨h.bound, fun act hact t ht => ?_, fun a t p ht hp => ?_⟩, hworks⟩
  · rw [hrecord] at ht
    split at ht
    · simp [constructionTask] at ht
    · exact h.requests act hact t ht
  · rw [hrecord] at ht
    split at ht
    · obtain rfl := Task.service.inj (Option.some.inj ht)
      exact hworks p hp
    · exact h.constructions a t p ht hp

/-- The steps of a new construction work on the first context of its device. -/
theorem AimsOk.construct (h : AimsOk w) (udn ipAddress : String) (offered : DeviceServices)
    (hs : ServiceOk handled w) : AimsOk (prvServerConstruct udn ipAddress offered w) := by
  have hopen := h.follows (follows_openConstruction udn ipAddress offered w)
  have hworks := worksOn_openConstruction udn ipAddress offered hs.outer.devices
  obtain ⟨hfirst, hworks₁⟩ := hopen.pushConstruction hworks w.newKey .prvGetProtocolInfo
    (some .prvGetProtocolInfoCb)
  obtain ⟨hsecond, hworks₂⟩ := hfirst.pushConstruction hworks₁ w.newKey .prvSubscribe none
  obtain ⟨hthird, -⟩ := hsecond.pushConstruction hworks₂ w.newKey .prvDeclare none
  rw [prvServerConstruct_eq udn ipAddress offered hs.outer.keys.newKey]
  exact hthird.follows (.of_same rfl rfl rfl)

theorem AimsOk.available (h : AimsOk w) (udn ipAddress : String) (offered : DeviceServices)
    (hs : ServiceOk handled w) : AimsOk (prvServerAvailableCb udn ipAddress offered w) := by
  cases arrival udn ipAddress offered w with
  | unknown _ heq =>
      rw [heq]
      exact h.construct udn ipAddress offered hs
  | dangling _ _ heq =>
      rw [heq]
      exact h.follows (follows_crash w _)
  | present _ _ _ heq => rwa [heq]
  | @extended d _ dev _ hdev _ heq =>
      rw [heq]
      have hd : w.core d = some dev.core := core_of_device hdev
      exact h.follows (.of_gains (gains_rsuDeviceAppendNewContext ipAddress offered hd) (.inl hd))

/-! ## Processing -/

/-- An action is begun, for a request that works on the device of the proxy. -/
theorem AimsOk.begin (h : AimsOk w) (act : ProxyAction) (r : Task)
    (hsame : ∀ t, r = .service t → ∃ t₀, w.tasks act.task = some (.service t₀) ∧
      t.device = t₀.device ∧ t.proxy = t₀.proxy)
    (hbound : act.proxy.context < w.gupnp.nextContext)
    (hnone : w.NoAction act.task)
    (hrequest : ∀ t, r = .client t → ∀ d, w.Owns d act.proxy → t.device = some d) :
    AimsOk ((w.beginAction act).setTask act.task (some r)) := by
  have hcases : ∀ act' ∈ (w.beginAction act).gupnp.actions,
      act' ∈ w.gupnp.actions ∨ act' = act := by
    intro act' hact'
    exact (List.mem_append.mp hact').imp_right List.mem_singleton.mp
  have hother : ∀ b, b ≠ act.task →
      ((w.beginAction act).setTask act.task (some r)).tasks b = w.tasks b := fun _ hb => if_neg hb
  have hself := tasks_setTask (w.beginAction act) act.task (some r)
  refine ⟨fun act' hact' => ?_, fun act' hact' t ht harmed => ?_, fun a t p ht hp => ?_⟩
  · rcases hcases act' hact' with hold | rfl
    · exact h.bound act' hold
    · exact hbound
  · rcases hcases act' hact' with hold | rfl
    · rw [hother _ (hnone act' hold)] at ht
      exact h.requests act' hold t ht harmed
    · exact hrequest t (Option.some.inj (hself.symm.trans ht))
  · by_cases ha : a = act.task
    · subst ha
      obtain ⟨t₀, ht₀, hdevice, hproxy⟩ := hsame t (Option.some.inj (hself.symm.trans ht))
      rw [hdevice]
      exact h.constructions act.task t₀ p ht₀ (hproxy ▸ hp)
    · exact h.constructions a t p (hother a ha ▸ ht) hp

/-- The record of a request changes for which no action is pending. -/
theorem AimsOk.setClient (h : AimsOk w) {t : ClientTask} (hnone : w.NoAction a) :
    AimsOk (w.setTask a (some (.client t))) := by
  have hother : ∀ b, b ≠ a → (w.setTask a (some (.client t))).tasks b = w.tasks b :=
    fun _ hb => if_neg hb
  refine ⟨h.bound, fun act hact t' ht' => ?_, fun b t' p ht' hp => ?_⟩
  · rw [hother _ (hnone act hact)] at ht'
    exact h.requests act hact t' ht'
  · by_cases hb : b = a
    · subst hb
      simp [tasks_setTask] at ht'
    · exact h.constructions b t' p (hother b hb ▸ ht') hp

theorem Command.aimsOk {path : String} {t : ClientTask} (h : AimsOk w) (hdevices : DevicesOk w)
    (ht : w.tasks a = some (.client t)) (hmarked : t.cancellable = some {}) (hnone : w.NoAction a)
    (hcommand : Command path a w w') : AimsOk w' := by
  cases hcommand with
  | @complete f host hf =>
      have hhost : Follows w (w.setHostService host) := .of_same rfl rfl rfl
      refine h.follows (hhost.trans (follows_completeWith (fun t => (hf t).1) fun t' ht' => ?_))
      obtain rfl := Task.client.inj (Option.some.inj (ht.symm.trans ht'))
      obtain ⟨-, hcancellable, -, -⟩ := hf t
      simp [ClientTask.Armed, hcancellable, hmarked]
  | @begin d kind name callback localCb hd hcallback =>
      rcases withContext_cases w d with ⟨f, -, hcrash⟩ | ⟨dev, context, hdev, hcontext⟩
      · rw [beginCommand, hcrash]
        exact h.follows (follows_crash w f)
      · cases hproxy : context.serviceProxies.get kind with
        | none =>
            rw [beginCommand_none ht hdev hcontext hproxy]
            exact h.setClient hnone
        | some p =>
            rw [beginCommand_some ht hdev hcontext hproxy]
            have howns : w.Owns d p :=
              ⟨dev.core, core_of_device hdev, DeviceCore.mem_proxies.mpr
                ⟨context.core, List.mem_map_of_mem (rsuDeviceGetContext_mem hcontext),
                  ServiceProxies.mem_of_get hproxy⟩⟩
            refine h.begin ⟨w.gupnp.nextAction, p, name, callback, a⟩
              (.client (t.begun d localCb (some p) (some w.gupnp.nextAction))) (by simp)
              (hdevices.owned_bound howns) hnone fun t' ht' e he => ?_
            obtain rfl := Task.client.inj ht'
            exact congrArg some (hdevices.owner_unique howns he)
  | crash _ _ _ => exact h.follows (follows_crash w _)

theorem AimsOk.processAsync {t : ClientTask} (env : Environment) (h : AimsOk w)
    (hdevices : DevicesOk w) (ht : w.tasks a = some (.client t)) (hnone : w.NoAction a) :
    AimsOk (prvProcessAsyncTask env a w) := by
  have hmark : w.markCancellable a =
      w.setTask a (some (.client { t with cancellable := some {} })) := modifyClient_eq ht _
  have hfirst : AimsOk (w.markCancellable a) := hmark ▸ h.setClient hnone
  cases hasync : t.type.isAsync with
  | false =>
      rw [prvProcessAsyncTask_sync env ht hasync]
      exact hfirst
  | true =>
      have hcommand := prvProcessAsyncTask_command env ht hasync
      rw [hmark] at hfirst hcommand
      exact hcommand.aimsOk hfirst (hdevices.congr rfl rfl fun _ => rfl) (tasks_setTask _ _ _) rfl
        hnone

theorem follows_prvProcessSyncTask (hok : ProcessorOk w) (ha : w.Current a) :
    Follows w (prvProcessSyncTask a w) := by
  unfold prvProcessSyncTask World.withClient
  split
  · dsimp only
    split
    · exact follows_answerTask_completed _ hok ha
    · have hservers : Touches a w (w.modifyClient a fun t =>
          { t with result := some (.servers (rsuUpnpGetServerIds w)) }) :=
        touches_modifyClient fun _ => ⟨rfl, rfl, rfl, rfl⟩
      have haim : KeepsAim a w (w.modifyClient a fun t =>
          { t with result := some (.servers (rsuUpnpGetServerIds w)) }) :=
        keepsAim_modifyClient fun _ _ harmed => ⟨harmed, rfl⟩
      refine (hservers.trans (touches_answerTask _)).follows_completed hok ha
        (fun act hact => ?_) (haim.trans (keepsAim_answerTask _))
      rw [gupnp_answerTask, gupnp_modifyClient] at hact
      exact hact
    · exact follows_answerTask_completed _ hok ha
    · exact follows_answerTask_completed _ hok ha
    · exact .refl
  · exact follows_crash w _

theorem AimsOk.processService {t : ServiceTask} (env : Environment) (h : AimsOk w)
    (hok : ProcessorOk w) (ha : w.Current a) (ht : w.tasks a = some (.service t))
    (hnone : w.NoAction a) : AimsOk (rsuServiceTaskProcessCb (serviceTaskAction env) a w) := by
  have hover : ∀ {w' : World}, Cosmetic w w' →
      Touches a w (w'.setTask a (some (.service { t with pAction := none }))) ∧
        ∀ act ∈ (w'.setTask a (some (.service { t with pAction := none }))).gupnp.actions,
          act ∈ w.gupnp.actions :=
    fun hc => ⟨(Touches.of_cosmetic hc).trans (touches_setService none (by rw [hc.tasks, ht])),
      fun _ hact => hc.actions ▸ hact⟩
  simp only [rsuServiceTaskProcessCb, World.withService, ht]
  have hcases := serviceTaskAction_construction env t a w
  revert hcases
  generalize serviceTaskAction env t.tAction t a w = r
  intro hcases
  cases hcases with
  | @begun p hproxy =>
      obtain ⟨hp, -⟩ := weak_mem hproxy
      refine h.begin
        ⟨w.gupnp.nextAction, p, "GetProtocolInfo", .rsuServiceTaskBeginActionCb, a⟩
        (.service { t with pAction := some w.gupnp.nextAction }) (fun t' ht' => ?_)
        (h.constructions a t p ht hp).1 hnone (by simp)
      obtain rfl := Task.service.inj ht'
      exact ⟨t, ht, rfl, rfl⟩
  | @done w' hc =>
      obtain ⟨htouch, hactions⟩ := hover hc
      exact h.follows (htouch.follows_completed hok ha hactions (keepsAim_setService _ w w'))
  | @failed w' hc _ =>
      obtain ⟨htouch, hactions⟩ := hover hc
      have hok' := elsewhere_ok hok (htouch.elsewhere hok ha)
      exact h.follows ((Follows.of_touches htouch hactions (keepsAim_setService _ w w')).trans
        (follows_cancelQueue _ hok'))

theorem AimsOk.processIdle {id : Nat} {k : TaskQueueKey} (env : Environment) (h : AimsOk w)
    (hs : ServiceOk handled w) (hidle : (id, k) ∈ w.loop.processIdles) :
    AimsOk (exec w (.processIdle id k env)) := by
  obtain ⟨q, a, rest, hq, rfl, hne, hcons, rfl, heq⟩ :=
    prvTaskQueueProcessTask_dispatch env hs.processor hidle
  let w₁ := (w.sourceRemoveProcess q.idleId).dispatchTask a.queueId a rest
  have hs₁ : ServiceOk handled w₁ := hs.step (.dispatch hq hne hcons) (by simp) trivial
  have h₁ : AimsOk w₁ := h.follows (.of_same rfl rfl rfl)
  have hq₁ : w₁.queue? a.queueId =
      some { q with cancelled := false, idleId := 0, currentTask := some a, tasks := rest } := by
    rw [queue?_dispatchTask, if_pos rfl]
    exact congrArg _ hq
  have hfresh := (hs.processor.queues _ q hq).fresh a (hcons ▸ List.mem_cons_self)
  show AimsOk (prvTaskQueueProcessTask (taskProcessCb env) a.queueId _)
  rw [heq]
  cases hcs : q.callbacks with
  | client =>
      rw [hcs] at hfresh
      obtain ⟨t, ht⟩ := TaskCallbacks.live_client hfresh.live
      have ht₁ : w₁.tasks a = some (.client t) := ht
      have hfresh' : t.cancellable = none := by simpa [TaskCallbacks.Fresh, ht] using hfresh
      show AimsOk (prvProcessTask env a w₁)
      simp only [prvProcessTask, World.withClient, ht₁]
      split
      · exact h₁.follows (follows_prvProcessSyncTask hs₁.processor ⟨_, hq₁, rfl⟩)
      · exact h₁.processAsync env hs₁.outer.devices ht₁ (hs₁.outer.quiet_client ht₁ hfresh').1
  | service =>
      rw [hcs] at hfresh
      obtain ⟨t, ht⟩ := TaskCallbacks.live_service hfresh.live
      have hfresh' : t.pAction = none := by simpa [TaskCallbacks.Fresh, ht] using hfresh
      exact h₁.processService env hs₁.processor ⟨_, hq₁, rfl⟩ ht
        (hs₁.outer.actions.noAction_service ht hfresh')

/-! ## Runs -/

theorem exec_aimsOk {i : Input} (h : AimsOk w) (hs : ServiceOk none w)
    (henabled : i.enabled w = true) (hfree : i ≠ .contextFree) : AimsOk (exec w i) := by
  have hok := hs.processor
  cases i with
  | contextFree => exact absurd rfl hfree
  | managerCall sender method => exact h.follows (follows_prvRsuMethodCall sender.name method hs)
  | propsCall sender object method =>
      exact h.follows (follows_withDeviceId_addTask sender.name object
        (f := fun n => method.new object n) fun n => by cases method <;> exact ⟨rfl, rfl, rfl⟩)
  | rsuDeviceCall sender object method =>
      exact h.follows (follows_withDeviceId_addTask sender.name object
        (f := fun n => method.new n) fun n => by cases method <;> exact ⟨rfl, rfl, rfl⟩)
  | playerCall sender object method =>
      exact h.follows (follows_withDeviceId_addTask sender.name object
        (f := fun n => method.new object n) fun n => by cases method <;> exact ⟨rfl, rfl, rfl⟩)
  | pushHostCall sender object method =>
      exact h.follows (follows_withDeviceId_addTask sender.name object
        (f := fun n => method.new sender.name object n)
        fun n => by cases method <;> exact ⟨rfl, rfl, rfl⟩)
  | cancelCall sender object => exact h.follows (follows_cancelCall sender.name object hs)
  | lostClient name => exact h.follows (follows_prvRemoveClient name hs)
  | available udn ipAddress offered => exact h.available udn ipAddress offered hs
  | unavailable udn ipAddress => exact h.follows (follows_prvServerUnavailableCb udn ipAddress hs)
  | reply action env =>
      have hmem : action ∈ w.gupnp.actions := by simp_all [Input.enabled]
      exact h.follows (follows_actionReply env hok (hs.outer.actions.awaited action hmem).1)
  | processIdle id k env =>
      have hmem : (id, k) ∈ w.loop.processIdles := by simp_all [Input.enabled]
      exact h.processIdle env hs hmem
  | finallyIdle q =>
      exact h.follows ((follows_setLoop _ w).trans (follows_prvTaskQueueFinallyCb q _))
  | completeIdle a =>
      have hmem : a ∈ w.loop.completeIdles := by simp_all [Input.enabled]
      exact h.follows (follows_completeIdle hok (hs.outer.completions.pending a hmem).1)
  | subscribeTimer id d =>
      exact h.follows ((follows_setLoop _ w).trans
        (.of_cosmetic (cosmetic_prvSubscribeToServiceChanges d)))
  | notify proxy => exact h.follows (.of_cosmetic (cosmetic_foldl_notify _ w))
  | subscriptionLost proxy => exact h.follows (.of_cosmetic (cosmetic_subscriptionLost proxy w))
  | retryTimer r =>
      exact h.follows ((follows_setLoop _ w).trans
        (.of_cosmetic (cosmetic_prvReEnableSubscription r)))
  | soupRequest mapped deviceIf msg => exact h.follows (.of_same rfl rfl rfl)
  | soupFinished t =>
      refine h.follows ?_
      show Follows w (soupFinished t w)
      unfold soupFinished
      split
      · exact .of_same rfl rfl rfl
      · exact follows_crash w _
  | quitIdle =>
      have hquit : Follows w
          { w.setLoop { w.loop with quitIdles := w.loop.quitIdles - 1 } with
            context := { w.context with ownerId := false } } := .of_same rfl rfl rfl
      exact h.follows (hquit.trans ((Follows.of_cosmetic (cosmetic_rsuUpnpUnsubscribe _)).trans
        (.of_same rfl rfl rfl)))
  | quitTimer => exact h.follows (.of_same rfl rfl rfl)
  | signal => exact h.follows ((follows_setQuitting hok).trans (.of_same rfl rfl rfl))
  | nameLost => exact h.follows (follows_setQuitting hok)
  | rehash queues devices => exact h.follows (.of_same rfl rfl rfl)

theorem start_aimsOk (neverQuit : Bool) : AimsOk (start neverQuit) :=
  ⟨by simp [start], by simp [start], by simp [start]⟩

theorem service_aimsOk {neverQuit : Bool} {is : List Input}
    (h : (service neverQuit).Reaches is w) (hfree : w.context.freed = false) : AimsOk w :=
  service_invariant (P := fun _ => AimsOk) h hfree (start_aimsOk neverQuit)
    fun _ _ _ hr hdoes ih => exec_aimsOk ih (service_ok hr hdoes.freed) hdoes.enabled hdoes.last

end RendererService
