import RendererService.Processor.Commands
import RendererService.Processor.Steps

/-!
# What the callbacks leave alone

The process and cancel callbacks of a task work on the record of that task and
on the world outside the processor.  `Touches a` says so; it composes, and under
the invariant it is a step `Elsewhere` for the current task `a`.  The functions
that only subscribe a device or unsubscribe it leave alone even more, which is
`Cosmetic`.
-/

namespace RendererService

/-! ## What matters of a device -/

structure ContextCore where
  id : Nat
  ipAddress : String
  serviceProxies : ServiceProxies
deriving DecidableEq, Repr

def DeviceContext.core (context : DeviceContext) : ContextCore :=
  ⟨context.id, context.ipAddress, context.serviceProxies⟩

structure DeviceCore where
  path : String
  contexts : List ContextCore
deriving DecidableEq, Repr

def Device.core (dev : Device) : DeviceCore :=
  ⟨dev.path, dev.contexts.map DeviceContext.core⟩

def World.core (w : World) (d : Nat) : Option DeviceCore :=
  (w.devices d).map Device.core

theorem core_of_device {w : World} {d : Nat} {dev : Device} (hdev : w.devices d = some dev) :
    w.core d = some dev.core := congrArg (Option.map Device.core) hdev

def Event.isReport : Event → Bool
  | .answered _ _ | .completeScheduled _ | .completeRan _ => true
  | _ => false

def Event.isCompletion : Event → Bool
  | .completeScheduled _ | .completeRan _ => true
  | _ => false

theorem Event.isReport_of_isCompletion {e : Event} (h : e.isCompletion = true) :
    e.isReport = true := by
  cases e <;> simp_all [Event.isCompletion, Event.isReport]

theorem Event.not_isProcessor {e : Event} (h : e.isReport = true) :
    e.isProcessor = false := by
  cases e <;> simp_all [Event.isReport, Event.isProcessor]

/-! ## Subscriptions -/

/-- Only devices, proxies with what is pending on them, and timers change. -/
structure Offstage (w w' : World) : Prop where
  processor : w'.processor = w.processor
  tasks : w'.tasks = w.tasks
  nextTask : w'.nextTask = w.nextTask
  upnp : w'.upnp = w.upnp
  context : w'.context = w.context
  serviceCpt : w'.serviceCpt = w.serviceCpt
  log : w'.log = w.log
  processIdles : w'.loop.processIdles = w.loop.processIdles
  finallyIdles : w'.loop.finallyIdles = w.loop.finallyIdles
  completeIdles : w'.loop.completeIdles = w.loop.completeIdles
  nextSource : w.loop.nextSource ≤ w'.loop.nextSource
  nextAction : w'.gupnp.nextAction = w.gupnp.nextAction
  fault : ∀ k, w'.fault = some (.deadQueueKey k) → w.fault = some (.deadQueueKey k)

structure Cosmetic (w w' : World) : Prop extends Offstage w w' where
  proxies : w'.gupnp.proxies = w.gupnp.proxies
  actions : w'.gupnp.actions = w.gupnp.actions
  nextContext : w'.gupnp.nextContext = w.gupnp.nextContext
  core : ∀ d, w'.core d = w.core d

namespace Offstage

variable {w w' w'' : World}

@[refl] theorem refl : Offstage w w :=
  ⟨rfl, rfl, rfl, rfl, rfl, rfl, rfl, rfl, rfl, rfl, Nat.le_refl _, rfl, fun _ h => h⟩

theorem trans (h : Offstage w w') (h' : Offstage w' w'') : Offstage w w'' where
  processor := h'.processor.trans h.processor
  tasks := h'.tasks.trans h.tasks
  nextTask := h'.nextTask.trans h.nextTask
  upnp := h'.upnp.trans h.upnp
  context := h'.context.trans h.context
  serviceCpt := h'.serviceCpt.trans h.serviceCpt
  log := h'.log.trans h.log
  processIdles := h'.processIdles.trans h.processIdles
  finallyIdles := h'.finallyIdles.trans h.finallyIdles
  completeIdles := h'.completeIdles.trans h.completeIdles
  nextSource := Nat.le_trans h.nextSource h'.nextSource
  nextAction := h'.nextAction.trans h.nextAction
  fault k hk := h.fault k (h'.fault k hk)

end Offstage

namespace Cosmetic

variable {w w' w'' : World}

@[refl] theorem refl : Cosmetic w w := ⟨.refl, rfl, rfl, rfl, fun _ => rfl⟩

theorem trans (h : Cosmetic w w') (h' : Cosmetic w' w'') : Cosmetic w w'' where
  toOffstage := h.toOffstage.trans h'.toOffstage
  proxies := h'.proxies.trans h.proxies
  actions := h'.actions.trans h.actions
  nextContext := h'.nextContext.trans h.nextContext
  core d := (h'.core d).trans (h.core d)

theorem foldl {α : Type} {f : World → α → World} (hf : ∀ w x, Cosmetic w (f w x))
    (l : List α) : ∀ w, Cosmetic w (l.foldl f w) := by
  induction l with
  | nil => exact fun _ => .refl
  | cons x l ih => exact fun w => (hf w x).trans (ih (f w x))

end Cosmetic

section Subscriptions

variable {w : World}

theorem crash_fault {w : World} {f : Fault} {k : TaskQueueKey}
    (hf : ∀ k, f ≠ .deadQueueKey k) (h : (w.crash f).fault = some (.deadQueueKey k)) :
    w.fault = some (.deadQueueKey k) := by
  unfold World.crash at h
  cases hw : w.fault with
  | none =>
      rw [hw] at h
      exact absurd (Option.some.inj h) (hf k)
  | some g =>
      rw [hw] at h
      exact h

theorem cosmetic_crash {f : Fault} (hf : ∀ k, f ≠ .deadQueueKey k) : Cosmetic w (w.crash f) :=
  ⟨⟨rfl, rfl, rfl, rfl, rfl, rfl, rfl, rfl, rfl, rfl, Nat.le_refl _, rfl,
    fun _ h => crash_fault hf h⟩, rfl, rfl, rfl, fun _ => rfl⟩

theorem cosmetic_withDevice {d : Nat} {f : Device → World}
    (hf : ∀ dev, w.devices d = some dev → Cosmetic w (f dev)) : Cosmetic w (w.withDevice d f) := by
  unfold World.withDevice
  split
  · exact hf _ ‹_›
  · exact cosmetic_crash (by simp)

theorem cosmetic_withContext {d : Nat} {f : DeviceContext → World}
    (hf : ∀ context, Cosmetic w (f context)) : Cosmetic w (w.withContext d f) := by
  refine cosmetic_withDevice fun dev _ => ?_
  split
  · exact hf _
  · exact cosmetic_crash (by simp)

theorem offstage_setDevice (d : Nat) (dev : Option Device) : Offstage w (w.setDevice d dev) :=
  ⟨rfl, rfl, rfl, rfl, rfl, rfl, rfl, rfl, rfl, rfl, Nat.le_refl _, rfl, fun _ h => h⟩

/-- A device is replaced by one that differs in what does not matter. -/
theorem cosmetic_setDevice {d : Nat} {dev dev' : Device} (hdev : w.devices d = some dev)
    (hcore : dev'.core = dev.core) : Cosmetic w (w.setDevice d (some dev')) := by
  refine ⟨offstage_setDevice d _, rfl, rfl, rfl, fun e => ?_⟩
  by_cases he : e = d
  · simp [World.core, World.setDevice, he, hdev, hcore]
  · simp [World.core, World.setDevice, he]

theorem cosmetic_modifyContext (d c : Nat) {f : DeviceContext → DeviceContext}
    (hf : ∀ context, (f context).core = context.core) : Cosmetic w (w.modifyContext d c f) := by
  refine cosmetic_withDevice fun dev hdev => cosmetic_setDevice hdev ?_
  simp only [Device.core, List.map_map, DeviceCore.mk.injEq, true_and]
  refine List.map_congr_left fun context _ => ?_
  simp only [Function.comp]
  split
  · exact hf context
  · rfl

theorem setSubscribed_core (b : Bool) (kind : ServiceKind) (context : DeviceContext) :
    (context.setSubscribed b kind).core = context.core := by
  cases kind <;> rfl

theorem setTimeoutId_core (b : Bool) (kind : ServiceKind) (context : DeviceContext) :
    (context.setTimeoutId b kind).core = context.core := by
  cases kind <;> rfl

theorem cosmetic_setNotifies (l : List ProxyHandler) : Cosmetic w (w.setNotifies l) :=
  ⟨⟨rfl, rfl, rfl, rfl, rfl, rfl, rfl, rfl, rfl, rfl, Nat.le_refl _, rfl, fun _ h => h⟩,
    rfl, rfl, rfl, fun _ => rfl⟩

theorem cosmetic_setSubscribed (proxy : ServiceProxy) (b : Bool) :
    Cosmetic w (gupnpServiceProxySetSubscribed proxy b w) :=
  ⟨⟨rfl, rfl, rfl, rfl, rfl, rfl, rfl, rfl, rfl, rfl, Nat.le_refl _, rfl, fun _ h => h⟩,
    rfl, rfl, rfl, fun _ => rfl⟩

theorem cosmetic_setLostHandlers (l : List ProxyHandler) : Cosmetic w (w.setLostHandlers l) :=
  ⟨⟨rfl, rfl, rfl, rfl, rfl, rfl, rfl, rfl, rfl, rfl, Nat.le_refl _, rfl, fun _ h => h⟩,
    rfl, rfl, rfl, fun _ => rfl⟩

theorem cosmetic_setRetryTimers (l : List ProxyHandler) : Cosmetic w (w.setRetryTimers l) :=
  ⟨⟨rfl, rfl, rfl, rfl, rfl, rfl, rfl, rfl, rfl, rfl, Nat.le_refl _, rfl, fun _ h => h⟩,
    rfl, rfl, rfl, fun _ => rfl⟩

theorem cosmetic_setSubscribeTimers (l : List (Nat × Nat)) :
    Cosmetic w (w.setSubscribeTimers l) :=
  ⟨⟨rfl, rfl, rfl, rfl, rfl, rfl, rfl, rfl, rfl, rfl, Nat.le_refl _, rfl, fun _ h => h⟩,
    rfl, rfl, rfl, fun _ => rfl⟩

theorem cosmetic_stopRetry (d : Nat) (context : DeviceContext) (kind : ServiceKind) :
    Cosmetic w (context.stopRetry d kind w) := by
  unfold DeviceContext.stopRetry
  split
  · exact (cosmetic_setRetryTimers _).trans (cosmetic_modifyContext _ _ (setTimeoutId_core _ _))
  · exact .refl

theorem cosmetic_stopNotify (d : Nat) (context : DeviceContext) (kind : ServiceKind) :
    Cosmetic w (context.stopNotify d kind w) := by
  unfold DeviceContext.stopNotify
  split
  · exact (cosmetic_setNotifies _).trans ((cosmetic_setSubscribed _ _).trans
      (cosmetic_modifyContext _ _ (setSubscribed_core _ _)))
  · exact .refl

theorem cosmetic_prvRsuContextUnsubscribe (d : Nat) (context : DeviceContext) :
    Cosmetic w (prvRsuContextUnsubscribe d context w) := by
  have hretry := (cosmetic_stopRetry (w := w) d context .cm).trans
    ((cosmetic_stopRetry d context .av).trans (cosmetic_stopRetry d context .rc))
  exact hretry.trans ((cosmetic_stopNotify d context .cm).trans
    ((cosmetic_stopNotify d context .av).trans (cosmetic_stopNotify d context .rc)))

theorem cosmetic_prvSubscribeService (d : Nat) (context : DeviceContext)
    (kind signal : ServiceKind) : Cosmetic w (prvSubscribeService d context kind signal w) := by
  unfold prvSubscribeService
  split
  · let w₁ := gupnpServiceProxySetSubscribed (context.notify d kind).proxy true w
    have hfirst : Cosmetic w ((w₁.setNotifies (w₁.gupnp.notifies ++ [context.notify d kind])
        ).modifyContext d context.id fun context => context.setSubscribed true kind) :=
      (cosmetic_setSubscribed _ _).trans ((cosmetic_setNotifies _).trans
        (cosmetic_modifyContext _ _ (setSubscribed_core true kind)))
    dsimp only
    split
    · exact hfirst.trans (cosmetic_setLostHandlers _)
    · exact hfirst
  · exact .refl

theorem cosmetic_rsuDeviceSubscribeToServiceChanges (d : Nat) :
    Cosmetic w (rsuDeviceSubscribeToServiceChanges d w) :=
  cosmetic_withContext fun _ =>
    (cosmetic_prvSubscribeService _ _ _ _).trans
      ((cosmetic_prvSubscribeService _ _ _ _).trans (cosmetic_prvSubscribeService _ _ _ _))

theorem cosmetic_prvDeviceSubscribeContext (d : Nat) :
    Cosmetic w (prvDeviceSubscribeContext d w) := by
  refine cosmetic_withDevice fun dev _ => cosmetic_withContext fun preferred => ?_
  split
  · exact cosmetic_rsuDeviceSubscribeToServiceChanges d
  · split
    · exact .refl
    · exact (cosmetic_prvRsuContextUnsubscribe _ _).trans
        (cosmetic_rsuDeviceSubscribeToServiceChanges d)

theorem cosmetic_prvSubscriptionLostCb (h : ProxyHandler) :
    Cosmetic w (prvSubscriptionLostCb h w) := by
  refine cosmetic_withDevice fun dev _ => ?_
  split
  · exact cosmetic_crash (by simp)
  next context _ =>
    dsimp only
    split
    · have hfirst : Cosmetic w (gupnpServiceProxyRemoveNotify (context.notify h.device h.kind)
          (w.setRetryTimers (w.loop.retryTimers.erase (context.notify h.device h.kind)))) :=
        (cosmetic_setRetryTimers _).trans (cosmetic_setNotifies _)
      refine hfirst.trans (cosmetic_modifyContext _ _ fun context => ?_)
      rw [setSubscribed_core, setTimeoutId_core]
    · exact (cosmetic_setSubscribed _ _).trans ((cosmetic_setRetryTimers _).trans
        (cosmetic_modifyContext _ _ (setTimeoutId_core true h.kind)))

theorem cosmetic_prvReEnableSubscription (h : ProxyHandler) :
    Cosmetic w (prvReEnableSubscription h w) := by
  refine cosmetic_withDevice fun dev _ => ?_
  split
  · exact cosmetic_crash (by simp)
  · exact cosmetic_modifyContext _ _ (setTimeoutId_core false h.kind)

theorem cosmetic_prvSubscribeToServiceChanges (d : Nat) :
    Cosmetic w (prvSubscribeToServiceChanges d w) := by
  refine cosmetic_withDevice fun dev hdev => ?_
  have hfirst : Cosmetic w (w.setDevice d (some { dev with timeoutId := 0 })) :=
    cosmetic_setDevice hdev rfl
  exact hfirst.trans (cosmetic_rsuDeviceSubscribeToServiceChanges d)

theorem cosmetic_subscribeLater (d : Nat) : Cosmetic w (subscribeLater d w) := by
  refine cosmetic_withDevice fun dev hdev => ?_
  have htimer : Cosmetic w { w with
      loop := { w.loop with
        nextSource := w.loop.nextSource + 1
        subscribeTimers := w.loop.subscribeTimers ++ [(w.loop.nextSource, d)] } } :=
    ⟨⟨rfl, rfl, rfl, rfl, rfl, rfl, rfl, rfl, rfl, rfl, Nat.le_succ _, rfl, fun _ h => h⟩,
      rfl, rfl, rfl, fun _ => rfl⟩
  exact htimer.trans (cosmetic_setDevice (w := { w with
      loop := { w.loop with
        nextSource := w.loop.nextSource + 1
        subscribeTimers := w.loop.subscribeTimers ++ [(w.loop.nextSource, d)] } }) hdev rfl)

theorem cosmetic_rsuDeviceUnsubscribe (d : Nat) : Cosmetic w (rsuDeviceUnsubscribe d w) :=
  cosmetic_withDevice fun _ _ =>
    Cosmetic.foldl (fun _ _ => cosmetic_prvRsuContextUnsubscribe _ _) _ w

theorem cosmetic_prvChangeCb (n : ProxyHandler) : Cosmetic w (prvChangeCb n w) :=
  cosmetic_withDevice fun _ _ => .refl

theorem cosmetic_prvDeclare (env : Environment) (t : ServiceTask) :
    Cosmetic w (prvDeclare env t w).2.2 :=
  cosmetic_withDevice fun _ hdev => cosmetic_setDevice hdev rfl

end Subscriptions

/-! ## Callbacks -/

def Upnp.unhosted (u : Upnp) : Upnp := { u with hostService := {} }

/-- What stays as it is while the processor waits: everything but the records
of tasks, the actions, the completions, the hosted files and what is
`Cosmetic`. -/
structure Beside (w w' : World) : Prop where
  processor : w'.processor = w.processor
  processIdles : w'.loop.processIdles = w.loop.processIdles
  finallyIdles : w'.loop.finallyIdles = w.loop.finallyIdles
  nextSource : w.loop.nextSource ≤ w'.loop.nextSource
  nextTask : w'.nextTask = w.nextTask
  upnp : w'.upnp.unhosted = w.upnp.unhosted
  context : w'.context = w.context
  serviceCpt : w'.serviceCpt = w.serviceCpt
  proxies : w'.gupnp.proxies = w.gupnp.proxies
  nextContext : w'.gupnp.nextContext = w.gupnp.nextContext
  core : ∀ d, w'.core d = w.core d
  fault : ∀ k, w'.fault = some (.deadQueueKey k) → w.fault = some (.deadQueueKey k)
  log : ∃ es, w'.log = w.log ++ es ∧ ∀ e ∈ es, e.isReport = true

/-- The fields of a record that never change while its task lives. -/
def SameRequest : Option Task → Option Task → Prop
  | some (.client t), some (.client t') =>
      t'.type = t.type ∧ t'.path = t.path ∧ t'.synchronous = t.synchronous
  | some (.service t), some (.service t') =>
      t'.tAction = t.tAction ∧ t'.device = t.device ∧ t'.proxy = t.proxy ∧
        t'.callback = t.callback
  | none, none => True
  | _, _ => False

def owed : Option Task → List Nat
  | some (.client t) => t.invocation.toList
  | _ => []

def answeredIn (es : List Event) : List Nat :=
  es.filterMap fun e =>
    match e with
    | .answered invocation _ => some invocation
    | _ => none

/-- Of the records only that of `a` may change, and it owes what it owed before
unless that was answered. -/
structure Touches (a : TaskAtom) (w w' : World) : Prop extends Beside w w' where
  others : ∀ b, b ≠ a → w'.tasks b = w.tasks b
  request : SameRequest (w.tasks a) (w'.tasks a)
  answers : ∀ es, w'.log = w.log ++ es → answeredIn es ++ owed (w'.tasks a) = owed (w.tasks a)

theorem Beside.refl {w : World} : Beside w w :=
  ⟨rfl, rfl, rfl, Nat.le_refl _, rfl, rfl, rfl, rfl, rfl, rfl, fun _ => rfl, fun _ h => h,
    [], by simp⟩

theorem Beside.trans {w w' w'' : World} (h : Beside w w') (h' : Beside w' w'') :
    Beside w w'' where
  processor := h'.processor.trans h.processor
  processIdles := h'.processIdles.trans h.processIdles
  finallyIdles := h'.finallyIdles.trans h.finallyIdles
  nextSource := Nat.le_trans h.nextSource h'.nextSource
  nextTask := h'.nextTask.trans h.nextTask
  upnp := h'.upnp.trans h.upnp
  context := h'.context.trans h.context
  serviceCpt := h'.serviceCpt.trans h.serviceCpt
  proxies := h'.proxies.trans h.proxies
  nextContext := h'.nextContext.trans h.nextContext
  core d := (h'.core d).trans (h.core d)
  fault k hk := h.fault k (h'.fault k hk)
  log := by
    obtain ⟨es, hes, hevents⟩ := h.log
    obtain ⟨es', hes', hevents'⟩ := h'.log
    refine ⟨es ++ es', by rw [hes', hes, List.append_assoc], ?_⟩
    intro e he
    rcases List.mem_append.mp he with he | he
    · exact hevents e he
    · exact hevents' e he

theorem Cosmetic.beside {w w' : World} (h : Cosmetic w w') : Beside w w' :=
  ⟨h.processor, h.processIdles, h.finallyIdles, h.nextSource, h.nextTask,
    congrArg Upnp.unhosted h.upnp, h.context,
    h.serviceCpt, h.proxies, h.nextContext, h.core, h.fault, [], by simp [h.log]⟩

theorem Beside.queue? {w w' : World} (h : Beside w w') (k : TaskQueueKey) :
    w'.queue? k = w.queue? k := by
  show w'.processor.taskQueues.lookup k = _
  rw [h.processor]

theorem Beside.current {w w' : World} (h : Beside w w') {a : TaskAtom} :
    w'.Current a ↔ w.Current a := by
  unfold World.Current
  rw [h.queue?]

namespace SameRequest

theorem refl : ∀ r : Option Task, SameRequest r r
  | none => trivial
  | some (.client _) => ⟨rfl, rfl, rfl⟩
  | some (.service _) => ⟨rfl, rfl, rfl, rfl⟩

theorem trans {r r' r'' : Option Task} (h : SameRequest r r') (h' : SameRequest r' r'') :
    SameRequest r r'' := by
  rcases r with _ | t | t <;> rcases r' with _ | t' | t' <;> rcases r'' with _ | t'' | t'' <;>
    simp_all [SameRequest]

theorem live {r r' : Option Task} (h : SameRequest r r') {cs : TaskCallbacks} (hcs : cs.Live r) :
    cs.Live r' := by
  rcases r with _ | t | t <;> rcases r' with _ | t' | t' <;> cases cs <;>
    simp_all [SameRequest, TaskCallbacks.Live]

end SameRequest

namespace Touches

variable {a : TaskAtom} {w w' w'' : World}

theorem silent (h : Beside w w') (hlog : w'.log = w.log)
    (hothers : ∀ b, b ≠ a → w'.tasks b = w.tasks b)
    (hrequest : SameRequest (w.tasks a) (w'.tasks a))
    (howed : owed (w'.tasks a) = owed (w.tasks a)) :
    Touches a w w' := by
  refine ⟨h, hothers, hrequest, fun es hes => ?_⟩
  obtain rfl : es = [] := by
    rw [hlog] at hes
    simpa using hes
  simpa [answeredIn] using howed

@[refl] theorem refl : Touches a w w := silent .refl rfl (fun _ _ => rfl) (.refl _) rfl

theorem trans (h : Touches a w w') (h' : Touches a w' w'') : Touches a w w'' where
  toBeside := h.toBeside.trans h'.toBeside
  others b hb := (h'.others b hb).trans (h.others b hb)
  request := h.request.trans h'.request
  answers es hes := by
    obtain ⟨es₁, hes₁, -⟩ := h.log
    obtain ⟨es₂, hes₂, -⟩ := h'.log
    obtain rfl : es₁ ++ es₂ = es := by
      rw [hes₂, hes₁, List.append_assoc] at hes
      exact List.append_cancel_left hes
    rw [← h.answers es₁ hes₁, ← h'.answers es₂ hes₂, answeredIn, List.filterMap_append,
      List.append_assoc]
    rfl

theorem of_cosmetic (h : Cosmetic w w') : Touches a w w' :=
  silent h.beside h.log (fun _ _ => by rw [h.tasks]) (by rw [h.tasks]; exact .refl _)
    (by rw [h.tasks])

theorem elsewhere (h : Touches a w w') (hok : ProcessorOk w) (ha : w.Current a) :
    Elsewhere w w' := by
  obtain ⟨q₀, hq₀, hcurrent₀⟩ := ha
  have hqueued : ∀ k q b, w.queue? k = some q → b ∈ q.tasks → b ≠ a := by
    rintro k q b hq hb rfl
    obtain rfl : b.queueId = k := ((hok.queues k q hq).owned b hb).1
    obtain rfl : q₀ = q := Option.some.inj (hq₀.symm.trans hq)
    exact ((hok.queues _ q₀ hq₀).current b hcurrent₀).2.2.1 hb
  refine ⟨h.processor, h.processIdles, h.nextSource, h.nextTask,
    fun k q b hq hb => h.others b (hqueued k q b hq hb), ?_, ?_⟩
  · intro k q b _ _ hlive
    by_cases hb : b = a
    · subst hb
      exact h.request.live hlive
    · rwa [h.others b hb]
  · obtain ⟨es, hlog, hes⟩ := h.log
    exact ⟨es, hlog, fun e he => Event.not_isProcessor (hes e he)⟩

end Touches

/-! ## Pointers and records -/

section Elementary

variable {a : TaskAtom} {w : World}

theorem touches_crash {f : Fault} (hf : ∀ k, f ≠ .deadQueueKey k) : Touches a w (w.crash f) :=
  .of_cosmetic (cosmetic_crash hf)

theorem beside_completion {e : Event} (he : e.isCompletion = true) (l : List TaskAtom) :
    Beside w { w with
      loop := { w.loop with completeIdles := l }
      log := w.log ++ [e] } :=
  ⟨rfl, rfl, rfl, Nat.le_refl _, rfl, rfl, rfl, rfl, rfl, rfl, fun _ => rfl, fun _ h => h,
    [e], rfl, by simpa using Event.isReport_of_isCompletion he⟩

theorem touches_completion {e : Event} (he : e.isCompletion = true) (l : List TaskAtom) :
    Touches a w { w with
      loop := { w.loop with completeIdles := l }
      log := w.log ++ [e] } := by
  refine ⟨beside_completion he l, fun _ _ => rfl, .refl _, fun es hes => ?_⟩
  obtain rfl : [e] = es := List.append_cancel_left hes
  cases e <;> simp_all [Event.isCompletion, answeredIn]

theorem touches_withClient {f : ClientTask → World}
    (hf : ∀ t, w.tasks a = some (.client t) → Touches a w (f t)) :
    Touches a w (w.withClient a f) := by
  unfold World.withClient
  split
  · exact hf _ ‹_›
  · exact touches_crash (by simp)

theorem touches_withContext {d : Nat} {f : DeviceContext → World}
    (hf : ∀ context, Touches a w (f context)) : Touches a w (w.withContext d f) := by
  unfold World.withContext World.withDevice
  split
  · dsimp only
    split
    · exact hf _
    · exact touches_crash (by simp)
  · exact touches_crash (by simp)

theorem beside_setTask (a : TaskAtom) (r : Option Task) : Beside w (w.setTask a r) :=
  ⟨rfl, rfl, rfl, Nat.le_refl _, rfl, rfl, rfl, rfl, rfl, rfl, fun _ => rfl, fun _ h => h,
    [], by simp [World.setTask]⟩

/-- The record of a task is replaced by another one of the same request. -/
theorem touches_setTask {r : Task} (hrequest : SameRequest (w.tasks a) (some r))
    (howed : owed (some r) = owed (w.tasks a)) : Touches a w (w.setTask a (some r)) := by
  have hrecord : (w.setTask a (some r)).tasks a = some r := if_pos rfl
  refine .silent (beside_setTask a _) rfl (fun b hb => if_neg hb) ?_ ?_
  · rwa [hrecord]
  · rwa [hrecord]

theorem touches_setClient {t t' : ClientTask} (ht : w.tasks a = some (.client t))
    (hkeeps : t.Keeps t') : Touches a w (w.setTask a (some (.client t'))) := by
  obtain ⟨htype, hpath, hsync, hinvocation⟩ := hkeeps
  refine touches_setTask ?_ ?_
  · rw [ht]
    exact ⟨htype, hpath, hsync⟩
  · simp [owed, ht, hinvocation]

theorem touches_setService {t : ServiceTask} (pAction : Option Nat)
    (ht : w.tasks a = some (.service t)) :
    Touches a w (w.setTask a (some (.service { t with pAction := pAction }))) := by
  refine touches_setTask ?_ ?_
  · rw [ht]
    exact ⟨rfl, rfl, rfl, rfl⟩
  · simp [owed, ht]

theorem touches_modifyClient {f : ClientTask → ClientTask} (hf : ∀ t : ClientTask, t.Keeps (f t)) :
    Touches a w (w.modifyClient a f) :=
  touches_withClient fun t ht => touches_setClient ht (hf t)

theorem touches_idleAddComplete (b : TaskAtom) : Touches a w (w.idleAddComplete b) :=
  touches_completion rfl _

/-- The pending actions and the counter of actions may change at any time. -/
theorem touches_actions (actions : List ProxyAction) (nextAction : Nat) :
    Touches a w { w with gupnp := { w.gupnp with
      actions := actions
      nextAction := nextAction } } :=
  .silent ⟨rfl, rfl, rfl, Nat.le_refl _, rfl, rfl, rfl, rfl, rfl, rfl, fun _ => rfl,
    fun _ h => h, [], by simp⟩ rfl (fun _ _ => rfl) (.refl _) rfl

theorem touches_beginAction (proxy : Option ServiceProxy) (name : String)
    (callback : ActionCallback) (b : TaskAtom) :
    Touches a w (gupnpServiceProxyBeginAction proxy name callback b w).2 := by
  unfold gupnpServiceProxyBeginAction
  split
  · exact .refl
  · exact touches_actions _ _

theorem touches_cancelAction (action : Option Nat) :
    Touches a w (gupnpServiceProxyCancelAction action w) :=
  touches_actions _ _

end Elementary

/-! ## Client tasks -/

section Client

variable {a : TaskAtom} {w : World}

theorem answeredIn_pendingReply (r : Option Task) (reply : Reply) :
    answeredIn (pendingReply r reply) = owed r := by
  rcases r with _ | t | t
  · rfl
  · cases hi : t.invocation <;> simp [answeredIn, pendingReply, owed, hi]
  · rfl

theorem touches_answerTask (reply : ClientTask → Reply) : Touches a w (answerTask a reply w) := by
  cases hr : w.tasks a with
  | none =>
      rw [answerTask, World.withClient, hr]
      exact touches_crash (by simp)
  | some r =>
      cases r with
      | service t =>
          rw [answerTask, World.withClient, hr]
          exact touches_crash (by simp)
      | client t =>
          rw [answerTask_eq hr]
          refine ⟨⟨rfl, rfl, rfl, Nat.le_refl _, rfl, rfl, rfl, rfl, rfl, rfl, fun _ => rfl,
            fun _ h => h, _, rfl, ?_⟩, fun b hb => if_neg hb, ?_, fun es hes => ?_⟩
          · intro e he
            rw [hr] at he
            obtain ⟨invocation, -, rfl⟩ := List.mem_map.mp he
            rfl
          · simp [World.setTask, hr, SameRequest]
          · obtain rfl : pendingReply (w.tasks a) (reply t) = es := List.append_cancel_left hes
            rw [answeredIn_pendingReply]
            simp [World.setTask, owed]

theorem touches_rsuAsyncTaskCancelled : Touches a w (rsuAsyncTaskCancelled a w) := by
  refine touches_withClient fun t _ => ?_
  have hrest : ∀ w : World, Touches a w ((w.modifyClient a fun t =>
      { t with error := t.error <|> some operationCancelled }).idleAddComplete a) := by
    intro w
    refine Touches.trans (touches_modifyClient ?_) (touches_idleAddComplete a)
    exact fun _ => ⟨rfl, rfl, rfl, rfl⟩
  refine Touches.trans ?_ (hrest _)
  split
  · exact touches_cancelAction _
  · exact .refl

theorem touches_rsuAsyncTaskCancel : Touches a w (rsuAsyncTaskCancel a w) := by
  refine touches_withClient fun t _ => ?_
  split
  · unfold gCancellableCancel
    split
    · exact .refl
    · dsimp only
      have hmark : ∀ c, Touches a w (w.modifyClient a fun t => { t with cancellable := c }) :=
        fun _ => touches_modifyClient fun _ => ⟨rfl, rfl, rfl, rfl⟩
      split
      · exact (hmark _).trans touches_rsuAsyncTaskCancelled
      · exact hmark _
  · exact .refl

theorem touches_rsuTaskCancel : Touches a w (rsuTaskCancel a w) := by
  refine touches_withClient fun t _ => ?_
  dsimp only
  split
  · exact touches_answerTask _
  · exact (touches_answerTask _).trans touches_rsuAsyncTaskCancel

theorem touches_completeWith {f : ClientTask → ClientTask} (hf : ∀ t : ClientTask, t.Keeps (f t)) :
    Touches a w (completeWith a f w) :=
  (touches_modifyClient hf).trans (touches_idleAddComplete a)

theorem touches_beginCommand (d : Nat) (kind : ServiceKind) (name : String)
    (callback : ActionCallback) (localCb : Option DeviceLocalCb) :
    Touches a w (beginCommand d kind name callback localCb a w) := by
  refine touches_withContext fun _ => ?_
  have hset : ∀ (w : World) (f : ClientTask → ClientTask), (∀ t : ClientTask, t.Keeps (f t)) →
      Touches a w (w.modifyClient a f) := fun _ _ hf => touches_modifyClient hf
  refine (hset _ _ ?_).trans ((touches_beginAction _ _ _ a).trans (hset _ _ ?_))
  · exact fun _ => ⟨rfl, rfl, rfl, rfl⟩
  · exact fun _ => ⟨rfl, rfl, rfl, rfl⟩

theorem touches_setHostService (h : HostService) : Touches a w (w.setHostService h) :=
  .silent ⟨rfl, rfl, rfl, Nat.le_refl _, rfl, rfl, rfl, rfl, rfl, rfl, fun _ => rfl,
    fun _ h => h, [], by simp [World.setHostService]⟩ rfl (fun _ _ => rfl) (.refl _) rfl

theorem Command.touches {path : String} {w' : World} (h : Command path a w w') :
    Touches a w w' := by
  cases h with
  | complete h hf => exact (touches_setHostService h).trans (touches_completeWith fun t => (hf t).1)
  | begin kind name localCb _ _ => exact touches_beginCommand _ _ _ _ _
  | crash _ _ hf => exact touches_crash hf

theorem touches_markCancellable : Touches a w (w.markCancellable a) :=
  touches_modifyClient fun _ => ⟨rfl, rfl, rfl, rfl⟩

theorem touches_prvProcessAsyncTask (env : Environment) :
    Touches a w (prvProcessAsyncTask env a w) := by
  cases hr : w.tasks a with
  | none =>
      rw [prvProcessAsyncTask, World.withClient, hr]
      exact touches_crash (by simp)
  | some r =>
      cases r with
      | service t =>
          rw [prvProcessAsyncTask, World.withClient, hr]
          exact touches_crash (by simp)
      | client t =>
          cases hasync : t.type.isAsync with
          | true =>
              exact touches_markCancellable.trans
                (prvProcessAsyncTask_command env hr hasync).touches
          | false =>
              rw [prvProcessAsyncTask_sync env hr hasync]
              exact touches_markCancellable

end Client

/-! ## Service tasks -/

theorem touches_serviceTaskAction {a : TaskAtom} {w : World} (env : Environment)
    (action : ServiceTaskAction) (t : ServiceTask) :
    Touches a w (serviceTaskAction env action t a w).2.2 := by
  cases action with
  | prvGetProtocolInfo => exact touches_beginAction _ _ _ a
  | prvSubscribe => exact .of_cosmetic (cosmetic_prvDeviceSubscribeContext _)
  | prvDeclare => exact .of_cosmetic (cosmetic_prvDeclare env t)

theorem prvGetProtocolInfoCb_cases (env : Environment) (t : ServiceTask) (w : World) :
    prvGetProtocolInfoCb env t w = w ∨
      prvGetProtocolInfoCb env t w = w.crash (.deadDevice t.device) := by
  unfold prvGetProtocolInfoCb World.withDevice
  split
  · exact .inl rfl
  · split
    · exact .inl rfl
    · exact .inr rfl

/-- What follows `cb_data->device` is carried out if the pointer is good. -/
theorem withTaskDevice_cases (w : World) (a : TaskAtom) (t : ClientTask) (w' : World) :
    w.withTaskDevice a t w' = w' ∨
      ∃ f : Fault, (∀ k, f ≠ .deadQueueKey k) ∧ w.withTaskDevice a t w' = w.crash f := by
  unfold World.withTaskDevice World.withDevice
  split
  · split
    · exact .inl rfl
    · exact .inr ⟨_, by simp, rfl⟩
  · exact .inr ⟨_, by simp, rfl⟩

theorem tasks_serviceTaskAction {a : TaskAtom} {w : World} (env : Environment)
    (action : ServiceTaskAction) (t : ServiceTask) :
    (serviceTaskAction env action t a w).2.2.tasks = w.tasks := by
  cases action with
  | prvGetProtocolInfo =>
      simp only [serviceTaskAction, prvGetProtocolInfo, gupnpServiceProxyBeginAction]
      split <;> rfl
  | prvSubscribe => exact (cosmetic_prvDeviceSubscribeContext _).tasks
  | prvDeclare => exact (cosmetic_prvDeclare env t).tasks

section Cancel

variable {a : TaskAtom} {w : World} {t : ServiceTask}

/-- `if (proxy) gupnp_service_proxy_cancel_action(proxy, action)`. -/
def World.cancelPending (w : World) (proxy : Option ServiceProxy) (action : Option Nat) : World :=
  if (w.gupnp.weak proxy).isSome then gupnpServiceProxyCancelAction action w else w

theorem touches_cancelPending (proxy : Option ServiceProxy) (action : Option Nat) :
    Touches a w (w.cancelPending proxy action) := by
  unfold World.cancelPending
  split
  · exact touches_cancelAction _
  · exact .refl

theorem tasks_cancelPending (w : World) (proxy : Option ServiceProxy) (action : Option Nat) :
    (w.cancelPending proxy action).tasks = w.tasks := by
  unfold World.cancelPending
  split <;> rfl

/-- `rsu_service_task_cancel_cb` up to the completion of the task. -/
def World.giveUpStep (w : World) (a : TaskAtom) (t : ServiceTask) : World :=
  (w.cancelPending t.proxy t.pAction).setTask a (some (.service { t with pAction := none }))

theorem touches_giveUpStep (ht : w.tasks a = some (.service t)) :
    Touches a w (w.giveUpStep a t) :=
  (touches_cancelPending t.proxy t.pAction).trans
    (touches_setService none ((congrFun (tasks_cancelPending w _ _) a).trans ht))

theorem rsuServiceTaskCancelCb_eq (ht : w.tasks a = some (.service t)) :
    rsuServiceTaskCancelCb a w = if t.pAction.isSome then
      rsuTaskQueueTaskCompleted taskDeleteCb a.queueId (w.giveUpStep a t) else w := by
  simp only [rsuServiceTaskCancelCb, World.withService, ht]
  rfl

end Cancel

end RendererService
