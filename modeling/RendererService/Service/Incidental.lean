import RendererService.Service.Renderers

/-!
# What is not about discovery

An input that brings no renderer, takes none away and ends no construction is carried
out by runs of the processor, by changes of subscriptions, and by changes that neither
the processor nor a renderer is part of.  A relation that holds across each of them
holds across the input.
-/

namespace RendererService

open Transition

variable {w w' w'' : World} {handled : Option Nat} {mine : TaskQueueKey → Prop}

/-- The queues, the tasks and the renderers stay, with what is pending for them. -/
structure Sideline (w w' : World) : Prop where
  processor : w'.processor = w.processor
  tasks : w'.tasks = w.tasks
  devices : w'.devices = w.devices
  gupnp : w'.gupnp = w.gupnp
  upnp : w'.upnp.unhosted = w.upnp.unhosted
  processIdles : w'.loop.processIdles = w.loop.processIdles
  finallyIdles : w'.loop.finallyIdles = w.loop.finallyIdles

theorem sideline_setContext (context : Context) (w : World) :
    Sideline w { w with context := context } := ⟨rfl, rfl, rfl, rfl, rfl, rfl, rfl⟩

theorem sideline_emit (e : Event) (w : World) : Sideline w (w.emit e) :=
  ⟨rfl, rfl, rfl, rfl, rfl, rfl, rfl⟩

theorem sideline_setHostService (h : HostService) (w : World) :
    Sideline w (w.setHostService h) := ⟨rfl, rfl, rfl, rfl, rfl, rfl, rfl⟩

theorem sideline_crash (f : Fault) (w : World) : Sideline w (w.crash f) :=
  ⟨rfl, rfl, rfl, rfl, rfl, rfl, rfl⟩

theorem sideline_setLoop {l : MainLoop} (hprocess : l.processIdles = w.loop.processIdles)
    (hfinally : l.finallyIdles = w.loop.finallyIdles) : Sideline w (w.setLoop l) :=
  ⟨rfl, rfl, rfl, rfl, rfl, hprocess, hfinally⟩

/-- A relation that holds across whatever is not about discovery. -/
structure Incidental (R : World → World → Prop) : Prop where
  trans : ∀ {w w' w''}, R w w' → R w' w'' → R w w''
  run : ∀ {mine handled w w'}, ServiceOk handled w → (serviceSteps mine handled).Run w w' → R w w'
  cosmetic : ∀ {w w'}, Cosmetic w w' → R w w'
  sideline : ∀ {w w'}, Sideline w w' → R w w'

/-- A relation that holds across the steps of the processor, the callbacks of tasks, and
what changes in between. -/
theorem Incidental.of_steps {R : World → World → Prop} (hrefl : ∀ w, R w w)
    (htrans : ∀ {w w' w''}, R w w' → R w' w'' → R w w'')
    (hstep : ∀ {handled mine E act w w'}, ServiceOk handled w → Step E w act w' →
      act ≠ .elsewhere → act.Within mine → R w w')
    (hbeside : ∀ {w w'}, Beside w w' → R w w')
    (hsideline : ∀ {w w'}, Sideline w w' → R w w') : Incidental R where
  trans := htrans
  cosmetic h := hbeside h.beside
  sideline := hsideline
  run := by
    intro mine handled w w' hs hrun
    have hboth : ServiceOk handled w' ∧ R w w' := by
      refine System.Steps.invariant (I := fun w' => ServiceOk handled w' ∧ R w w') hrun
        ⟨hs, hrefl w⟩ ?_
      rintro w₁ act w₂ ⟨hs₁, hrelated⟩ ⟨hallowed, hst⟩
      refine ⟨(serviceSteps mine handled).preserved hs₁ hallowed hst, htrans hrelated ?_⟩
      by_cases hact : act = .elsewhere
      · subst hact
        cases hst with
        | elsewhere he =>
            obtain ⟨-, a, -, hfocus⟩ := he
            exact hbeside hfocus.toTouches.toBeside
      · exact hstep hs₁ hst hact hallowed.2
    exact hboth.2

section Inputs

variable {R : World → World → Prop} (hR : Incidental R)
include hR

theorem incidental_watch (clientName : String) : R w (w.watch clientName) := by
  unfold World.watch
  split
  · exact hR.cosmetic .refl
  · exact hR.sideline (sideline_setContext _ w)

theorem incidental_prvAddTask {n : Nat} {clientName sink : String} {t : ClientTask}
    (h : ServiceOk (some n) w) (hname : BusSource clientName) (ht : t.Wraps n sink) :
    R w (prvAddTask clientName n t sink w) := by
  have hwatch := watch_serviceOk h hname
  obtain ⟨hrun, -, hsink, q, hq, hcs⟩ := lookupOrAddQueue_serves sink hwatch hname
  have hadd := rsuTaskQueueAddTask_serves (hrun.inv hwatch) hq hcs (hsink.symm ▸ ht)
  have hqueue := hR.run hwatch hrun
  have hadded := hR.run (hrun.inv hwatch).forget hadd
  rw [prvAddTask_eq]
  exact hR.trans (incidental_watch hR clientName)
    (hR.trans hqueue (hR.trans hadded (hR.sideline (sideline_emit _ _))))

theorem incidental_withDeviceId {object : String} {f : Nat → String → World → World}
    (h : ServiceOk none w)
    (hf : ∀ w', ServiceOk (some w.context.nextInvocation) w' →
      R w' (f w.context.nextInvocation object w')) :
    R w (withDeviceId object f w) := by
  have harrive : R w w.newInvocation.2 := hR.sideline (sideline_setContext _ w)
  rcases withDeviceId_cases object f w with heq | ⟨error, heq⟩
  · rw [heq]
    exact hR.trans harrive (hf _ (newInvocation_serviceOk h))
  · rw [heq]
    exact hR.trans harrive (hR.sideline (sideline_emit _ _))

theorem incidental_withDeviceId_addTask {object : String} (sender : BusName)
    {f : Nat → ClientTask} (h : ServiceOk none w) (hf : ∀ n, (f n).Wraps n object) :
    R w (withDeviceId object
      (fun invocation => prvAddTask sender.name invocation (f invocation)) w) :=
  incidental_withDeviceId hR h fun _ h' => incidental_prvAddTask hR h' sender.unique (hf _)

theorem incidental_setQuitting (h : ServiceOk handled w) :
    R w (rsuTaskProcessorSetQuitting taskDeleteCb taskCancelCb w) :=
  hR.run h (rsuTaskProcessorSetQuitting_run (D := serviceSteps (fun _ => True) handled)
    serviceSteps_cancels (fun _ _ => trivial) h (fun _ => ⟨trivial, trivial⟩)
      fun _ => ⟨trivial, trivial⟩)

theorem incidental_prvRemoveClient (name : String) (h : ServiceOk handled w) :
    R w (prvRemoveClient name w) := by
  let w₁ := rsuTaskProcessorRemoveQueuesForSource taskDeleteCb taskCancelCb name w
  have hrun := rsuTaskProcessorRemoveQueuesForSource_run
    (D := serviceSteps (fun _ => True) handled) serviceSteps_cancels name h fun _ _ _ => trivial
  have hremoved : R w w₁ := hR.run h hrun
  have hlost : R w₁ (rsuUpnpLostClient name w₁) := hR.sideline (sideline_setHostService _ w₁)
  have hdropped : R w (w.dropClient name) :=
    hR.trans hremoved (hR.trans hlost (hR.sideline (sideline_setContext _ _)))
  rw [prvRemoveClient_eq]
  split
  · exact hR.trans hdropped (incidental_setQuitting hR (dropClient_serviceOk name h))
  · exact hdropped

theorem incidental_prvRsuMethodCall (sender : BusName) (method : ManagerMethod)
    (h : ServiceOk none w) : R w (prvRsuMethodCall sender.name method w) := by
  have harrive : R w w.newInvocation.2 := hR.sideline (sideline_setContext _ w)
  have harrived := newInvocation_serviceOk h
  cases method with
  | release =>
      exact hR.trans harrive (hR.trans (incidental_prvRemoveClient hR sender.name harrived)
        (hR.sideline (sideline_emit _ _)))
  | getVersion =>
      exact hR.trans harrive (incidental_prvAddTask hR harrived sender.unique
        ⟨rfl, rfl, rfl, rfl, fun hasync => absurd hasync Bool.false_ne_true⟩)
  | getServers =>
      exact hR.trans harrive (incidental_prvAddTask hR harrived sender.unique
        ⟨rfl, rfl, rfl, rfl, fun hasync => absurd hasync Bool.false_ne_true⟩)

theorem incidental_cancelQueue (k : TaskQueueKey) (h : ServiceOk handled w) :
    R w (rsuTaskProcessorCancelQueue taskDeleteCb taskCancelCb k w) := by
  cases hq : w.queue? k with
  | none =>
      simp only [rsuTaskProcessorCancelQueue, hq]
      exact hR.sideline (sideline_crash _ w)
  | some q =>
      exact hR.run h (rsuTaskProcessorCancelQueue_run
        (D := serviceSteps (fun _ => True) handled) serviceSteps_cancels h trivial hq)

theorem incidental_prvRendererDeviceMethodCall (sender : BusName) (object : String)
    (h : ServiceOk none w) : R w (prvRendererDeviceMethodCall sender.name object w) := by
  refine incidental_withDeviceId hR h fun w' h' => ?_
  cases rsuTaskProcessorLookupQueue w' sender.name object with
  | some k =>
      dsimp only
      exact hR.trans (incidental_cancelQueue hR k h') (hR.sideline (sideline_emit _ _))
  | none =>
      dsimp only
      exact hR.sideline (sideline_emit _ _)

theorem incidental_prvContextQuitCb (w : World) : R w (prvContextQuitCb w) := by
  let w₁ : World := { w with context := { w.context with ownerId := false } }
  have hflag : R w w₁ := hR.sideline (sideline_setContext _ w)
  have hunsubscribed : R w₁ (rsuUpnpUnsubscribe w₁) :=
    hR.cosmetic (cosmetic_rsuUpnpUnsubscribe w₁)
  exact hR.trans hflag (hR.trans hunsubscribed (hR.sideline (sideline_setLoop rfl rfl)))

/-- What holds across all that is not about discovery holds across every input of that kind. -/
theorem exec_incidental {i : Input} (h : ServiceOk none w) (henabled : i.enabled w = true)
    (hi : i.isDiscovery = false) : R w (exec w i) := by
  have hloop : ∀ l : MainLoop, l.processIdles = w.loop.processIdles →
      l.finallyIdles = w.loop.finallyIdles → R w (w.setLoop l) :=
    fun l hprocess hfinally => hR.sideline (sideline_setLoop hprocess hfinally)
  cases i with
  | available _ _ _ | unavailable _ _ | finallyIdle _ | rehash _ _ | contextFree =>
      simp [Input.isDiscovery] at hi
  | managerCall sender method => exact incidental_prvRsuMethodCall hR sender method h
  | propsCall sender object method =>
      exact incidental_withDeviceId_addTask hR sender (f := fun n => method.new object n) h
        fun n => method.wraps object n
  | rsuDeviceCall sender object method =>
      exact incidental_withDeviceId_addTask hR sender (f := fun n => method.new n) h
        fun n => method.wraps object n
  | playerCall sender object method =>
      exact incidental_withDeviceId_addTask hR sender (f := fun n => method.new object n) h
        fun n => method.wraps object n
  | pushHostCall sender object method =>
      exact incidental_withDeviceId_addTask hR sender
        (f := fun n => method.new sender.name object n) h fun n => method.wraps sender.name object n
  | cancelCall sender object => exact incidental_prvRendererDeviceMethodCall hR sender object h
  | lostClient name => exact incidental_prvRemoveClient hR name h
  | reply action env =>
      have hmem : action ∈ w.gupnp.actions := by simp_all [Input.enabled]
      have hrun : (serviceSteps (fun _ => True) none).Run w (actionReply action env w) :=
        actionReply_serves h hmem trivial env
      exact hR.run h hrun
  | processIdle id k env =>
      have hmem : (id, k) ∈ w.loop.processIdles := by simp_all [Input.enabled]
      have hrun : (serviceSteps (fun _ => True) none).Run w (exec w (.processIdle id k env)) :=
        prvTaskQueueProcessTask_serves env h trivial hmem
      exact hR.run h hrun
  | completeIdle a =>
      have hmem : a ∈ w.loop.completeIdles := by simp_all [Input.enabled]
      have hrun : (serviceSteps (fun _ => True) none).Run w (exec w (.completeIdle a)) :=
        rsuAsyncTaskComplete_serves h trivial hmem
      exact hR.run h hrun
  | subscribeTimer id d =>
      have htimer := hloop
        { w.loop with subscribeTimers := w.loop.subscribeTimers.erase (id, d) } rfl rfl
      exact hR.trans htimer (hR.cosmetic (cosmetic_prvSubscribeToServiceChanges d))
  | notify proxy => exact hR.cosmetic (cosmetic_foldl_notify _ w)
  | subscriptionLost proxy => exact hR.cosmetic (cosmetic_subscriptionLost proxy w)
  | retryTimer r =>
      have htimer := hloop { w.loop with retryTimers := w.loop.retryTimers.erase r } rfl rfl
      exact hR.trans htimer (hR.cosmetic (cosmetic_prvReEnableSubscription r))
  | soupRequest mapped deviceIf msg => exact hR.sideline (sideline_setHostService _ w)
  | soupFinished t =>
      show R w (soupFinished t w)
      unfold soupFinished
      split
      · exact hR.sideline (sideline_setHostService _ w)
      · exact hR.sideline (sideline_crash _ w)
  | quitIdle =>
      have hidle := hloop { w.loop with quitIdles := w.loop.quitIdles - 1 } rfl rfl
      exact hR.trans hidle (incidental_prvContextQuitCb hR _)
  | quitTimer =>
      have hidle := hloop { w.loop with quitTimers := w.loop.quitTimers - 1 } rfl rfl
      exact hR.trans hidle (hR.sideline (sideline_setContext _ _))
  | signal => exact hR.trans (incidental_setQuitting hR h) (hR.sideline (sideline_setContext _ _))
  | nameLost => exact incidental_setQuitting hR h

end Inputs

end RendererService
