import RendererService.Service.Discovery

/-!
# Inputs

Whatever the main loop, D-Bus and GUPnP deliver, the service keeps its
invariant; the one exception is a renderer that is lost too late, which runs
into a queue that has gone.
-/

namespace RendererService

variable {w w' : World} {handled : Option Nat}

/-! ## Invocations -/

theorem newInvocation_serviceOk (h : ServiceOk none w) :
    ServiceOk (some w.context.nextInvocation) w.newInvocation.2 :=
  h.elsewhere ⟨rfl, rfl, Nat.le_refl _, rfl, fun _ _ _ _ _ => rfl, fun _ _ _ _ _ hlive => hlive,
      [], by simp [World.newInvocation], by simp⟩
    ⟨h.outer.devices.congr rfl rfl fun _ => rfl,
      h.outer.actions.mono (.refl _) rfl (fun _ _ hid => hid) fun _ _ => ⟨id, id, id⟩,
      h.outer.completions.keep (l := []) (by simp [World.newInvocation]) (by simp) rfl
        (Nat.le_refl _) (fun _ _ hcurrent hrecord => ⟨hcurrent, hrecord⟩)
        fun _ t ht hopen => .inl ⟨t, ht, hopen⟩,
      h.outer.keys.congr rfl (Nat.le_refl _) fun _ hname => .inl hname,
      h.outer.invocations.arrive, fun a r hr => h.outer.held a r hr, h.outer.requests,
      h.outer.liveKeys⟩

theorem ServiceOk.emit {handled' : Option Nat} {e : Event} (h : ServiceOk handled w)
    (hprocessor : e.isProcessor = false) (hcompletion : e.isCompletion = false)
    (hinvocations : InvocationsOk handled' (w.emit e)) : ServiceOk handled' (w.emit e) :=
  h.elsewhere ⟨rfl, rfl, Nat.le_refl _, rfl, fun _ _ _ _ _ => rfl, fun _ _ _ _ _ hlive => hlive,
      [e], rfl, by simpa using hprocessor⟩
    ⟨h.outer.devices.congr rfl rfl fun _ => rfl,
      h.outer.actions.mono (.refl _) rfl (fun _ _ hid => hid) fun _ _ => ⟨id, id, id⟩,
      h.outer.completions.keep (l := [e]) rfl (by simpa using hcompletion) rfl (Nat.le_refl _)
        (fun _ _ hcurrent hrecord => ⟨hcurrent, hrecord⟩) fun _ t ht hopen => .inl ⟨t, ht, hopen⟩,
      h.outer.keys.congr rfl (Nat.le_refl _) fun _ hname => .inl hname,
      hinvocations, fun a r hr => h.outer.held a r hr, h.outer.requests, h.outer.liveKeys⟩

theorem ServiceOk.answer {n : Nat} (h : ServiceOk (some n) w) (reply : Reply) :
    ServiceOk none (w.emit (.answered n reply)) :=
  h.emit rfl rfl (h.outer.invocations.answer reply)

/-! ## Requests -/

structure ClientTask.Wraps (invocation : Nat) (sink : String) (t : ClientTask) : Prop where
  fresh : t.cancellable = none
  invocation : t.invocation = some invocation
  action : t.action = none
  synchronous : t.synchronous = !t.type.isAsync
  path : t.type.isAsync = true → t.path = sink

theorem lookupOrAddQueue_serves {clientName : String} (sink : String) (h : ServiceOk handled w)
    (hname : BusSource clientName) :
    (serviceSteps (fun k => k.source = clientName ∧ k.sink = sink) handled).Run w
        (lookupOrAddQueue clientName sink w).2 ∧
      (lookupOrAddQueue clientName sink w).1.source = clientName ∧
      (lookupOrAddQueue clientName sink w).1.sink = sink ∧
      ∃ q, (lookupOrAddQueue clientName sink w).2.queue? (lookupOrAddQueue clientName sink w).1 =
        some q ∧ q.callbacks = .client := by
  unfold lookupOrAddQueue
  split
  next k hk =>
    obtain ⟨⟨q, hq⟩, hsource, hsink⟩ := lookupQueue_some hk
    refine ⟨.refl, hsource, hsink, q, hq, ?_⟩
    have hfits := h.outer.keys.fits k q hq
    cases hcs : q.callbacks with
    | client => rfl
    | service =>
        rw [hcs] at hfits
        exact absurd (hsource ▸ hname) hfits.2.not_bus
  next hnone =>
    rw [rsuTaskProcessorAddQueue_eq autoStart .client hnone]
    refine ⟨.one (.addQueue autoStart .client hnone) ⟨hname, rfl, fun _ => ⟨rfl, rfl⟩⟩, rfl, rfl,
      { callbacks := .client, flags := autoStart }, ?_, rfl⟩
    have hlookup : (w.addQueue clientName sink autoStart .client).queue?
        ⟨w.processor.nextKey, clientName, sink⟩ =
          if (⟨w.processor.nextKey, clientName, sink⟩ : TaskQueueKey) =
            ⟨w.processor.nextKey, clientName, sink⟩ then
            some { callbacks := .client, flags := autoStart }
          else w.queue? ⟨w.processor.nextKey, clientName, sink⟩ :=
      Assoc.lookup_insert_eq _ _ _ _
    rw [hlookup, if_pos rfl]

theorem tasks_rsuTaskQueueAddTask {k : TaskQueueKey} {q : TaskQueue} (hq : w.queue? k = some q)
    (task : Task) : (rsuTaskQueueAddTask k task w).tasks (w.newAtom k) = some task := by
  have hpush : (w.pushTask k task).tasks (w.newAtom k) = some task := if_pos rfl
  rw [← hpush]
  simp only [rsuTaskQueueAddTask, hq]
  split
  · rfl
  · split <;> rfl

def World.watch (w : World) (clientName : String) : World :=
  if clientName ∈ w.context.watchers then w
  else { w with context := { w.context with watchers := w.context.watchers ++ [clientName] } }

theorem watch_serviceOk {clientName : String} (h : ServiceOk handled w)
    (hname : BusSource clientName) : ServiceOk handled (w.watch clientName) := by
  unfold World.watch
  split
  · exact h
  · refine h.backstage ⟨⟨rfl, rfl, rfl, Nat.le_refl _, rfl, rfl, rfl, rfl, Nat.le_refl _,
      fun name hin => ?_, fun _ hk => hk, [], by simp⟩, rfl, rfl, rfl, fun _ => rfl⟩
    rcases List.mem_append.mp hin with hin | hin
    · exact .inl hin
    · exact .inr (List.mem_singleton.mp hin ▸ hname)

def World.wrapTask (w : World) (k : TaskQueueKey) (invocation : Nat) (t : ClientTask) : World :=
  (rsuTaskQueueAddTask k (.client t) w).emit (.wrapped invocation (w.newAtom k))

theorem prvAddTask_eq (clientName sink : String) (n : Nat) (t : ClientTask) (w : World) :
    prvAddTask clientName n t sink w =
      (lookupOrAddQueue clientName sink (w.watch clientName)).2.wrapTask
        (lookupOrAddQueue clientName sink (w.watch clientName)).1 n t := rfl

theorem ServiceOk.forget {n : Nat} (h : ServiceOk (some n) w) : ServiceOk none w :=
  ⟨h.processor, h.lifetime, h.outer.devices, h.outer.actions, h.outer.completions,
    h.outer.keys, h.outer.invocations.forget, h.outer.held, h.outer.requests, h.outer.liveKeys⟩

/-- A request is queued for the invocation that has just arrived. -/
theorem rsuTaskQueueAddTask_serves {n : Nat} {k : TaskQueueKey} {q : TaskQueue} {t : ClientTask}
    (h : ServiceOk (some n) w) (hq : w.queue? k = some q) (hcs : q.callbacks = .client)
    (ht : t.Wraps n k.sink) :
    (serviceSteps (fun k' => k'.source = k.source ∧ k'.sink = k.sink) none).Run w
      (rsuTaskQueueAddTask k (.client t) w) := by
  have hfresh : q.callbacks.Fresh (some (.client t)) := by
    rw [hcs]
    exact ht.fresh
  refine rsuTaskQueueAddTask_run hq hfresh
    ⟨⟨⟨ht.action, ht.synchronous, ht.path⟩, fun m hm => ?_⟩, fun _ => ⟨rfl, rfl⟩, t, rfl⟩
    fun _ _ _ _ => ⟨trivial, rfl, rfl⟩
  obtain rfl : m = n := by simpa [owed, ht.invocation, eq_comm] using hm
  exact ⟨h.outer.invocations.handled m rfl, by simp⟩

theorem wrapTask_serviceOk {n : Nat} {k : TaskQueueKey} {q : TaskQueue} {t : ClientTask}
    (h : ServiceOk (some n) w) (hq : w.queue? k = some q) (hcs : q.callbacks = .client)
    (ht : t.Wraps n k.sink) : ServiceOk none (w.wrapTask k n t) := by
  have hadd := rsuTaskQueueAddTask_serves h hq hcs ht
  have hadded : ServiceOk none (rsuTaskQueueAddTask k (.client t) w) := hadd.inv h.forget
  refine hadded.emit rfl rfl (hadded.outer.invocations.wrap ?_)
  rw [tasks_rsuTaskQueueAddTask hq]
  simp [owed, ht.invocation]

/-- `prv_add_task` of a request whose invocation has just arrived. -/
theorem prvAddTask_serviceOk {n : Nat} {clientName sink : String} {t : ClientTask}
    (h : ServiceOk (some n) w) (hname : BusSource clientName) (ht : t.Wraps n sink) :
    ServiceOk none (prvAddTask clientName n t sink w) := by
  have hwatch := watch_serviceOk h hname
  obtain ⟨hrun, -, hsink, q, hq, hcs⟩ := lookupOrAddQueue_serves sink hwatch hname
  rw [prvAddTask_eq]
  exact wrapTask_serviceOk (hrun.inv hwatch) hq hcs (hsink.symm ▸ ht)

theorem prvGetDeviceId_ok {object deviceId : String} (h : prvGetDeviceId object w = .ok deviceId) :
    deviceId = object := by
  unfold prvGetDeviceId at h
  split at h
  next dev hdev =>
    obtain ⟨d, hd, hdevice⟩ := Option.bind_eq_some_iff.mp hdev
    obtain ⟨e, he, rfl⟩ := Option.map_eq_some_iff.mp hd
    have hpath := List.find?_some he
    rw [hdevice] at hpath
    have hid : dev.path = deviceId := by simpa using h
    rw [← hid]
    simpa using hpath
  · simp at h

/-- A method of a device: it is answered at once if there is no such device. -/
theorem withDeviceId_cases (object : String) (f : Nat → String → World → World) (w : World) :
    withDeviceId object f w = f w.context.nextInvocation object w.newInvocation.2 ∨
      ∃ error, withDeviceId object f w =
        w.newInvocation.2.emit (.answered w.context.nextInvocation (.error error)) := by
  have hinvocation : w.newInvocation.1 = w.context.nextInvocation := rfl
  cases hid : prvGetDeviceId object w.newInvocation.2 with
  | ok deviceId =>
      obtain rfl := prvGetDeviceId_ok hid
      exact .inl (by simp only [withDeviceId, hid, hinvocation])
  | error error => exact .inr ⟨error, by simp only [withDeviceId, hid, hinvocation]⟩

theorem prvRendererDeviceMethodCall_cases (sender object : String) (w : World) :
    (∃ k, rsuTaskProcessorLookupQueue w.newInvocation.2 sender object = some k ∧
      prvRendererDeviceMethodCall sender object w =
        (rsuTaskProcessorCancelQueue taskDeleteCb taskCancelCb k w.newInvocation.2).emit
          (.answered w.context.nextInvocation (.value none))) ∨
    ∃ reply, prvRendererDeviceMethodCall sender object w =
      w.newInvocation.2.emit (.answered w.context.nextInvocation reply) := by
  have hinvocation : w.newInvocation.1 = w.context.nextInvocation := rfl
  cases hid : prvGetDeviceId object w.newInvocation.2 with
  | ok deviceId =>
      obtain rfl := prvGetDeviceId_ok hid
      cases hk : rsuTaskProcessorLookupQueue w.newInvocation.2 sender deviceId with
      | some k =>
          refine .inl ⟨k, rfl, ?_⟩
          simp only [prvRendererDeviceMethodCall, withDeviceId, hid, hinvocation, hk]
      | none =>
          refine .inr ⟨.value none, ?_⟩
          simp only [prvRendererDeviceMethodCall, withDeviceId, hid, hinvocation, hk]
  | error error =>
      refine .inr ⟨.error error, ?_⟩
      simp only [prvRendererDeviceMethodCall, withDeviceId, hid, hinvocation]

theorem withDeviceId_serviceOk {object : String} {f : Nat → String → World → World}
    (h : ServiceOk none w)
    (hf : ∀ w', ServiceOk (some w.context.nextInvocation) w' →
      ServiceOk none (f w.context.nextInvocation object w')) :
    ServiceOk none (withDeviceId object f w) := by
  have harrive := newInvocation_serviceOk h
  rcases withDeviceId_cases object f w with heq | ⟨error, heq⟩
  · rw [heq]
    exact hf _ harrive
  · rw [heq]
    exact harrive.answer _

theorem rsuTaskProcessorSetQuitting_serviceOk (h : ServiceOk handled w) :
    ServiceOk handled (rsuTaskProcessorSetQuitting taskDeleteCb taskCancelCb w) :=
  (rsuTaskProcessorSetQuitting_run (D := serviceSteps (fun _ => True) handled) serviceSteps_cancels
    (fun _ _ => trivial) h (fun _ => ⟨trivial, trivial⟩) fun _ => ⟨trivial, trivial⟩).inv h

def World.dropClient (w : World) (name : String) : World :=
  let w := rsuUpnpLostClient name
    (rsuTaskProcessorRemoveQueuesForSource taskDeleteCb taskCancelCb name w)
  { w with context := { w.context with watchers := w.context.watchers.erase name } }

theorem prvRemoveClient_eq (name : String) (w : World) : prvRemoveClient name w =
    if (w.dropClient name).context.watchers = [] ∧ ¬(w.dropClient name).context.neverQuit then
      rsuTaskProcessorSetQuitting taskDeleteCb taskCancelCb (w.dropClient name)
    else w.dropClient name := rfl

theorem dropClient_serviceOk (name : String) (h : ServiceOk handled w) :
    ServiceOk handled (w.dropClient name) := by
  have hremoved := (rsuTaskProcessorRemoveQueuesForSource_run
    (D := serviceSteps (fun _ => True) handled) serviceSteps_cancels name h
    fun _ _ _ => trivial).inv h
  have hlost : ServiceOk handled (rsuUpnpLostClient name
      (rsuTaskProcessorRemoveQueuesForSource taskDeleteCb taskCancelCb name w)) :=
    hremoved.backstage (backstage_setUpnp _)
  unfold World.dropClient
  revert hlost
  generalize rsuUpnpLostClient name _ = w₁
  intro hlost
  exact hlost.backstage ⟨⟨rfl, rfl, rfl, Nat.le_refl _, rfl, rfl, rfl, rfl, Nat.le_refl _,
    fun name hin => .inl (List.mem_of_mem_erase hin), fun _ hk => hk, [], by simp⟩, rfl, rfl, rfl,
    fun _ => rfl⟩

theorem prvRemoveClient_serviceOk (name : String) (h : ServiceOk handled w) :
    ServiceOk handled (prvRemoveClient name w) := by
  have hdropped := dropClient_serviceOk name h
  rw [prvRemoveClient_eq]
  split
  · exact rsuTaskProcessorSetQuitting_serviceOk hdropped
  · exact hdropped

theorem soupFinished_serviceOk (t : Transfer) (h : ServiceOk handled w) :
    ServiceOk handled (soupFinished t w) := by
  unfold soupFinished
  split
  · exact h.backstage (backstage_setUpnp _)
  · exact h.crash (by simp)

theorem prvRsuMethodCall_serviceOk (sender : BusName) (method : ManagerMethod)
    (h : ServiceOk none w) : ServiceOk none (prvRsuMethodCall sender.name method w) := by
  have harrive := newInvocation_serviceOk h
  cases method with
  | release => exact (prvRemoveClient_serviceOk sender.name harrive).answer _
  | getVersion =>
      exact prvAddTask_serviceOk harrive sender.unique
        ⟨rfl, rfl, rfl, rfl, fun hasync => absurd hasync Bool.false_ne_true⟩
  | getServers =>
      exact prvAddTask_serviceOk harrive sender.unique
        ⟨rfl, rfl, rfl, rfl, fun hasync => absurd hasync Bool.false_ne_true⟩

theorem prvRendererDeviceMethodCall_serviceOk (sender : BusName) (object : String)
    (h : ServiceOk none w) : ServiceOk none (prvRendererDeviceMethodCall sender.name object w) := by
  refine withDeviceId_serviceOk h fun w' h' => ServiceOk.answer ?_ _
  split
  next k hk =>
    obtain ⟨⟨q, hq⟩, -, -⟩ := lookupQueue_some hk
    exact (rsuTaskProcessorCancelQueue_run (D := serviceSteps (fun _ => True) _)
      serviceSteps_cancels h' trivial hq).inv h'
  · exact h'

theorem PropsMethod.wraps (object : String) (n : Nat) (method : PropsMethod) :
    (method.new object n).Wraps n object := by
  cases method <;> exact ⟨rfl, rfl, rfl, rfl, fun _ => rfl⟩

theorem RsuDeviceMethod.wraps (object : String) (n : Nat) (method : RsuDeviceMethod) :
    (method.new n).Wraps n object := by
  cases method <;> exact ⟨rfl, rfl, rfl, rfl, fun hasync => absurd hasync Bool.false_ne_true⟩

theorem PlayerMethod.wraps (object : String) (n : Nat) (method : PlayerMethod) :
    (method.new object n).Wraps n object := by
  cases method <;> exact ⟨rfl, rfl, rfl, rfl, fun _ => rfl⟩

theorem PushHostMethod.wraps (sender object : String) (n : Nat) (method : PushHostMethod) :
    (method.new sender object n).Wraps n object := by
  cases method <;> exact ⟨rfl, rfl, rfl, rfl, fun _ => rfl⟩

/-- What the methods of a device that add a task have in common. -/
theorem withDeviceId_addTask {object : String} (sender : BusName) {f : Nat → ClientTask}
    (h : ServiceOk none w) (hf : ∀ n, (f n).Wraps n object) :
    ServiceOk none (withDeviceId object
      (fun invocation => prvAddTask sender.name invocation (f invocation)) w) :=
  withDeviceId_serviceOk h fun _ h' => prvAddTask_serviceOk h' sender.unique (hf _)

theorem prvPropsMethodCall_serviceOk (sender : BusName) (object : String) (method : PropsMethod)
    (h : ServiceOk none w) : ServiceOk none (prvPropsMethodCall sender.name object method w) :=
  withDeviceId_addTask (f := fun n => method.new object n) sender h
    fun n => method.wraps object n

theorem prvRsuDeviceMethodCall_serviceOk (sender : BusName) (object : String)
    (method : RsuDeviceMethod) (h : ServiceOk none w) :
    ServiceOk none (prvRsuDeviceMethodCall sender.name object method w) :=
  withDeviceId_addTask (f := fun n => method.new n) sender h
    fun n => method.wraps object n

theorem prvRsuPlayerMethodCall_serviceOk (sender : BusName) (object : String)
    (method : PlayerMethod) (h : ServiceOk none w) :
    ServiceOk none (prvRsuPlayerMethodCall sender.name object method w) :=
  withDeviceId_addTask (f := fun n => method.new object n) sender h
    fun n => method.wraps object n

theorem prvRsuPushHostMethodCall_serviceOk (sender : BusName) (object : String)
    (method : PushHostMethod) (h : ServiceOk none w) :
    ServiceOk none (prvRsuPushHostMethodCall sender.name object method w) :=
  withDeviceId_addTask (f := fun n => method.new sender.name object n) sender h
    fun n => method.wraps sender.name object n

/-! ## The main loop -/

theorem cosmetic_foldl_notify (l : List ProxyHandler) (w : World) :
    Cosmetic w (l.foldl (fun w n => prvChangeCb n w) w) :=
  Cosmetic.foldl (fun _ n => cosmetic_prvChangeCb n) l w

theorem cosmetic_subscriptionLost (proxy : ServiceProxy) (w : World) :
    Cosmetic w (exec w (.subscriptionLost proxy)) :=
  (cosmetic_setSubscribed proxy false).trans
    (Cosmetic.foldl (fun _ h => cosmetic_prvSubscriptionLostCb h) _ _)

theorem cosmetic_rsuUpnpUnsubscribe (w : World) : Cosmetic w (rsuUpnpUnsubscribe w) :=
  Cosmetic.foldl (fun _ _ => cosmetic_rsuDeviceUnsubscribe _) _ w

/-- Sources of the main loop that the invariant does not speak of. -/
theorem backstage_setLoop {l : MainLoop} (hprocess : l.processIdles = w.loop.processIdles)
    (hcomplete : l.completeIdles = w.loop.completeIdles)
    (hsource : w.loop.nextSource ≤ l.nextSource) : Backstage w (w.setLoop l) :=
  ⟨⟨rfl, hprocess, hcomplete, hsource, rfl, rfl, rfl, rfl, Nat.le_refl _,
    fun _ hname => .inl hname, fun _ hk => hk, [], by simp [World.setLoop]⟩, rfl, rfl, rfl,
    fun _ => rfl⟩

theorem backstage_setContext {context : Context}
    (hwatchers : context.watchers = w.context.watchers)
    (hnext : context.nextInvocation = w.context.nextInvocation) :
    Backstage w { w with context := context } :=
  ⟨⟨rfl, rfl, rfl, Nat.le_refl _, rfl, rfl, rfl, hnext, Nat.le_refl _,
    fun _ hname => .inl (hwatchers ▸ hname), fun _ hk => hk, [], by simp⟩, rfl, rfl, rfl,
    fun _ => rfl⟩

theorem prvContextQuitCb_serviceOk (h : ServiceOk handled w) :
    ServiceOk handled (prvContextQuitCb w) := by
  have hflag : ServiceOk handled { w with context := { w.context with ownerId := false } } :=
    h.backstage (backstage_setContext rfl rfl)
  have hunsubscribed := hflag.cosmetic (cosmetic_rsuUpnpUnsubscribe _)
  exact hunsubscribed.backstage (backstage_setLoop (l := { (rsuUpnpUnsubscribe { w with
    context := { w.context with ownerId := false } }).loop with
      quitTimers := _ }) rfl rfl (Nat.le_refl _))

theorem rehash_serviceOk {queues : Assoc.Table TaskQueueKey TaskQueue}
    {devices : Assoc.Table String Nat}
    (hperm : queues.entries.Perm w.processor.taskQueues.entries) (h : ServiceOk handled w) :
    ServiceOk handled ((w.setQueues queues).setUdnMap devices) := by
  have hqueues := h.step (.rehash hperm) (by simp) trivial
  exact hqueues.backstage (backstage_setUpnp _)

/-- Every input but the last keeps the invariant, unless a renderer is lost too
late. -/
theorem exec_serviceOk {i : Input} (h : ServiceOk none w) (henabled : i.enabled w = true)
    (hfree : i ≠ .contextFree)
    (hlate : ∀ udn ipAddress, i = .unavailable udn ipAddress → ¬LostTooLate w udn ipAddress) :
    ServiceOk none (exec w i) := by
  cases i with
  | managerCall sender method => exact prvRsuMethodCall_serviceOk sender method h
  | propsCall sender object method =>
      exact prvPropsMethodCall_serviceOk sender object method h
  | rsuDeviceCall sender object method =>
      exact prvRsuDeviceMethodCall_serviceOk sender object method h
  | playerCall sender object method =>
      exact prvRsuPlayerMethodCall_serviceOk sender object method h
  | pushHostCall sender object method =>
      exact prvRsuPushHostMethodCall_serviceOk sender object method h
  | cancelCall sender object => exact prvRendererDeviceMethodCall_serviceOk sender object h
  | lostClient name => exact prvRemoveClient_serviceOk name h
  | available udn ipAddress offered => exact prvServerAvailableCb_serviceOk _ _ _ h
  | unavailable udn ipAddress =>
      exact prvServerUnavailableCb_serviceOk _ _ h (hlate udn ipAddress rfl)
  | reply action env =>
      have hmem : action ∈ w.gupnp.actions := by simp_all [Input.enabled]
      have hrun : (serviceSteps (fun _ => True) none).Run w (actionReply action env w) :=
        actionReply_serves h hmem trivial env
      exact hrun.inv h
  | processIdle id k env =>
      have hmem : (id, k) ∈ w.loop.processIdles := by simp_all [Input.enabled]
      have hrun : (serviceSteps (fun _ => True) none).Run w (exec w (.processIdle id k env)) :=
        prvTaskQueueProcessTask_serves env h trivial hmem
      exact hrun.inv h
  | finallyIdle q =>
      exact prvTaskQueueFinallyCb_serviceOk q
        (h.backstage (backstage_setLoop rfl rfl (Nat.le_refl _)))
  | completeIdle a =>
      have hmem : a ∈ w.loop.completeIdles := by simp_all [Input.enabled]
      have hrun : (serviceSteps (fun _ => True) none).Run w (exec w (.completeIdle a)) :=
        rsuAsyncTaskComplete_serves h trivial hmem
      exact hrun.inv h
  | subscribeTimer id d =>
      have hloop : ServiceOk none (w.setLoop { w.loop with
          subscribeTimers := w.loop.subscribeTimers.erase (id, d) }) :=
        h.backstage (backstage_setLoop rfl rfl (Nat.le_refl _))
      exact hloop.cosmetic (cosmetic_prvSubscribeToServiceChanges d)
  | notify proxy => exact h.cosmetic (cosmetic_foldl_notify _ w)
  | subscriptionLost proxy => exact h.cosmetic (cosmetic_subscriptionLost proxy w)
  | retryTimer r =>
      have hloop : ServiceOk none (w.setLoop { w.loop with
          retryTimers := w.loop.retryTimers.erase r }) :=
        h.backstage (backstage_setLoop rfl rfl (Nat.le_refl _))
      exact hloop.cosmetic (cosmetic_prvReEnableSubscription r)
  | soupRequest mapped deviceIf msg => exact h.backstage (backstage_setUpnp _)
  | soupFinished t => exact soupFinished_serviceOk t h
  | quitIdle =>
      exact prvContextQuitCb_serviceOk (h.backstage (backstage_setLoop rfl rfl (Nat.le_refl _)))
  | quitTimer =>
      have hloop : ServiceOk none (w.setLoop { w.loop with
          quitTimers := w.loop.quitTimers - 1 }) :=
        h.backstage (backstage_setLoop rfl rfl (Nat.le_refl _))
      exact hloop.backstage (backstage_setContext rfl rfl)
  | signal =>
      exact (rsuTaskProcessorSetQuitting_serviceOk h).backstage (backstage_setContext rfl rfl)
  | nameLost => exact rsuTaskProcessorSetQuitting_serviceOk h
  | rehash queues devices =>
      have hperm : queues.entries.Perm w.processor.taskQueues.entries := by
        simp only [Input.enabled, Bool.and_eq_true, List.isPerm_iff] at henabled
        exact henabled.2.1
      exact rehash_serviceOk hperm h
  | contextFree => exact absurd rfl hfree

end RendererService
