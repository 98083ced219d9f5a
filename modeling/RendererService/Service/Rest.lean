import RendererService.Service.Workload

/-!
# Coming to rest

D-Bus, UPnP and HTTP bring work to the process, each event a bounded amount of
it.  The callbacks of the main loop and the replies to actions take it away, in
whatever order they come.
-/

namespace RendererService

open Transition

variable {w w' : World} {handled : Option Nat} {d : Nat}

/-! ## What comes from outside -/

/-- The callbacks of the main loop, and the replies and ends of what was begun. -/
def Input.isInternal : Input → Bool
  | .reply _ _ | .processIdle _ _ _ | .finallyIdle _ | .completeIdle _ | .subscribeTimer _ _
  | .retryTimer _ | .soupFinished _ | .quitIdle | .quitTimer => true
  | _ => false

def Input.cost : Input → Nat
  | .available _ _ _ => 14
  | .managerCall _ .release => 2
  | .managerCall _ _ | .propsCall _ _ _ | .rsuDeviceCall _ _ _ | .playerCall _ _ _
  | .pushHostCall _ _ _ => 5
  | .subscriptionLost _ => 3
  | .lostClient _ | .signal | .nameLost => 2
  | .unavailable _ _ | .soupRequest _ _ _ => 1
  | _ => 0

theorem Input.cost_le (i : Input) : i.cost ≤ if i.isInternal then 0 else 14 := by
  cases i with
  | managerCall sender method => cases method <;> simp [Input.cost, Input.isInternal]
  | _ => simp [Input.cost, Input.isInternal]

/-! ## Requests and clients -/

theorem work_rsuTaskQueueAddTask_le (k : TaskQueueKey) (task : Task) (w : World) :
    (rsuTaskQueueAddTask k task w).work ≤ w.work + 5 := by
  unfold rsuTaskQueueAddTask
  split
  · exact Nat.le_add_right _ _
  · have hpush := work_modifyQueue_le (n := 4) (k := k)
      (w := ({ w.setTask (w.newAtom k) (some task) with nextTask := w.nextTask + 1 } : World).emit
        (.added (w.newAtom k)))
      (f := fun q => { q with tasks := q.tasks ++ [w.newAtom k] }) fun q _ => by
        simp only [TaskQueue.work, List.length_append, List.length_singleton]
        omega
    have hsame : (({ w.setTask (w.newAtom k) (some task) with
        nextTask := w.nextTask + 1 } : World).emit (.added (w.newAtom k))).work = w.work := rfl
    rw [hsame] at hpush
    dsimp only
    split
    · exact Nat.le_succ_of_le hpush
    · split
      · exact Nat.le_trans (work_idleAddProcess_le _ k) (Nat.succ_le_succ hpush)
      · exact Nat.le_succ_of_le hpush

theorem work_lookupOrAddQueue_le (clientName sink : String) (w : World) :
    (lookupOrAddQueue clientName sink w).2.work ≤ w.work := by
  unfold lookupOrAddQueue
  split
  · exact Nat.le_refl _
  next hnew =>
    rw [rsuTaskProcessorAddQueue_eq autoStart .client hnew]
    exact work_setQueue_le w _ _

theorem work_prvAddTask_le (clientName sink : String) (n : Nat) (t : ClientTask) (w : World) :
    (prvAddTask clientName n t sink w).work ≤ w.work + 5 := by
  have hwatch : (w.watch clientName).work = w.work := by
    unfold World.watch
    split <;> rfl
  have hqueue := work_lookupOrAddQueue_le clientName sink (w.watch clientName)
  have hadd := work_rsuTaskQueueAddTask_le
    (lookupOrAddQueue clientName sink (w.watch clientName)).1 (.client t)
    (lookupOrAddQueue clientName sink (w.watch clientName)).2
  rw [prvAddTask_eq]
  refine Nat.le_trans hadd ?_
  omega

theorem work_withDeviceId_le {object : String} {f : Nat → String → World → World} {n : Nat}
    (hf : ∀ invocation deviceId w, (f invocation deviceId w).work ≤ w.work + n) (w : World) :
    (withDeviceId object f w).work ≤ w.work + n := by
  rcases withDeviceId_cases object f w with heq | ⟨error, heq⟩
  · rw [heq]
    exact hf _ object w.newInvocation.2
  · rw [heq]
    exact Nat.le_add_right w.work n

theorem work_deviceCall_le (sender object : String) (f : Nat → ClientTask) (w : World) :
    (withDeviceId object (fun invocation => prvAddTask sender invocation (f invocation)) w).work ≤
      w.work + 5 :=
  work_withDeviceId_le (fun invocation deviceId w =>
    work_prvAddTask_le sender deviceId invocation (f invocation) w) w

theorem work_prvRemoveClient_le (name : String) (h : ServiceOk handled w) :
    (prvRemoveClient name w).work ≤ w.work + 2 := by
  have hdrop : (w.dropClient name).work ≤ w.work := by
    let w₁ := rsuTaskProcessorRemoveQueuesForSource taskDeleteCb taskCancelCb name w
    have hremoved : w₁.work ≤ w.work :=
      work_freeQueues_le h.processor fun k => decide (k.source = name)
    have hlost : (rsuUpnpLostClient name w₁).work = w₁.work :=
      work_setHostService (HostService.transfers_lostClient name _)
    exact hlost.trans_le hremoved
  rw [prvRemoveClient_eq]
  split
  · exact Nat.le_trans (work_rsuTaskProcessorSetQuitting_le (dropClient_serviceOk name h).processor)
      (Nat.add_le_add_right hdrop 2)
  · exact Nat.le_add_right_of_le hdrop

theorem work_prvRsuMethodCall_le (sender : BusName) (method : ManagerMethod)
    (h : ServiceOk none w) :
    (exec w (.managerCall sender method)).work ≤
      w.work + (Input.managerCall sender method).cost := by
  cases method with
  | release => exact work_prvRemoveClient_le sender.name (newInvocation_serviceOk h)
  | getVersion => exact work_prvAddTask_le _ _ _ _ w.newInvocation.2
  | getServers => exact work_prvAddTask_le _ _ _ _ w.newInvocation.2

theorem work_cancelCall_le (sender object : String) (h : ServiceOk none w) :
    (prvRendererDeviceMethodCall sender object w).work ≤ w.work := by
  rcases prvRendererDeviceMethodCall_cases sender object w with ⟨k, -, heq⟩ | ⟨reply, heq⟩
  · rw [heq]
    exact work_rsuTaskProcessorCancelQueue_le (newInvocation_serviceOk h).processor k
  · rw [heq]
    exact Nat.le_refl w.work

/-! ## Discovery -/

theorem work_pushTask_le (k : TaskQueueKey) (task : Task) (w : World) :
    (w.pushTask k task).work ≤ w.work + 4 :=
  work_modifyQueue_le (n := 4) fun q _ => by
    simp only [TaskQueue.work, List.length_append, List.length_singleton]
    omega

theorem work_queueConstruction_le (k : TaskQueueKey) (d : Nat) (proxy : Option ServiceProxy)
    (w : World) : (w.queueConstruction k d proxy).work ≤ w.work + 13 := by
  let w₁ := w.pushTask k (constructionTask d proxy .prvGetProtocolInfo (some .prvGetProtocolInfoCb))
  let w₂ := w₁.pushTask k (constructionTask d proxy .prvSubscribe none)
  let w₃ := w₂.pushTask k (constructionTask d proxy .prvDeclare none)
  have h₁ : w₁.work ≤ w.work + 4 := work_pushTask_le k _ w
  have h₂ : w₂.work ≤ w₁.work + 4 := work_pushTask_le k _ w₁
  have h₃ : w₃.work ≤ w₂.work + 4 := work_pushTask_le k _ w₂
  refine Nat.le_trans (work_idleAddProcess_le w₃ k) ?_
  omega

/-- A construction has three tasks, an idle and a finally callback. -/
theorem work_prvServerConstruct_le (udn ipAddress : String) (offered : DeviceServices)
    (h : ServiceOk handled w) :
    (prvServerConstruct udn ipAddress offered w).work ≤ w.work + 14 := by
  let w₁ := ({ w with serviceCpt := w.serviceCpt + 1 } : World).addQueue w.newKey.source rsuSink
    autoRemove .service
  let w₂ := w₁.modifyQueue w.newKey fun q => { q with finallyCb := true }
  let w₃ := w₂.modifyQueue w.newKey fun q => { q with userData := some (w.newCt udn) }
  have hadd : w₁.work ≤ w.work := work_setQueue_le { w with serviceCpt := w.serviceCpt + 1 } _ _
  have hfinally : w₂.work ≤ w₁.work + 1 := work_modifyQueue_le fun q _ => by
    simp only [TaskQueue.work, if_true]
    omega
  have hdata : w₃.work ≤ w₂.work := work_modifyQueue_le (n := 0) fun _ _ => Nat.le_refl _
  have hopen : (w.openConstruction udn ipAddress offered).work ≤ w₃.work :=
    work_prvDeviceAppendNewContext_le _ ipAddress offered _
  have hqueue := work_queueConstruction_le w.newKey w.upnp.counter
    (gupnpDeviceInfoGetServices w.gupnp.nextContext offered).cmProxy
    (w.openConstruction udn ipAddress offered)
  have hupnp : (w.openConstruction udn ipAddress offered).upnp.hostService = w.upnp.hostService :=
    congrArg Upnp.hostService (gains_openConstruction udn ipAddress offered).upnp
  have hmaps := work_setUpnp
    (w := (w.openConstruction udn ipAddress offered).queueConstruction w.newKey w.upnp.counter
      (gupnpDeviceInfoGetServices w.gupnp.nextContext offered).cmProxy)
    (u := { w.upnp with
      counter := w.upnp.counter + 1
      serverUcMap := w.upnp.serverUcMap.insert udn (w.newCt udn) })
    (congrArg HostService.transfers hupnp).symm
  rw [prvServerConstruct_eq udn ipAddress offered h.outer.keys.newKey]
  refine Nat.le_trans (Nat.le_of_eq hmaps) ?_
  omega

theorem work_prvServerAvailableCb_le (udn ipAddress : String) (offered : DeviceServices)
    (h : ServiceOk handled w) :
    (prvServerAvailableCb udn ipAddress offered w).work ≤ w.work + 14 := by
  cases arrival udn ipAddress offered w with
  | unknown _ heq =>
      rw [heq]
      exact work_prvServerConstruct_le udn ipAddress offered h
  | dangling _ _ heq =>
      rw [heq]
      exact Nat.le_add_right _ _
  | present _ _ _ heq =>
      rw [heq]
      exact Nat.le_add_right _ _
  | @extended d _ _ _ _ _ heq =>
      rw [heq]
      exact Nat.le_add_right_of_le (Nat.le_trans (work_prvDeviceSubscribeContext_le d _)
        (work_prvDeviceAppendNewContext_le d ipAddress offered w))

theorem work_subscribeLater_le (d : Nat) (w : World) : (subscribeLater d w).work ≤ w.work + 1 := by
  refine work_withDevice_le (Nat.le_succ _) fun dev _ => ?_
  simp only [World.work, MainLoop.work, World.setDevice, List.length_append, List.length_singleton]
  omega

theorem work_prvServerLost_le (udn p : String) (uc : Option DeviceNewCt) (h : ServiceOk handled w) :
    (prvServerLost udn d p uc w).work ≤ w.work := by
  cases uc with
  | none =>
      have hemit : ServiceOk handled (w.emit (.lostServer p)) := h.backstage (backstage_emit rfl)
      exact Nat.le_trans (work_rsuDeviceDelete_le d _)
        (work_freeQueues_le hemit.processor fun k => decide (k.sink = p))
  | some ct => exact work_rsuTaskProcessorCancelQueue_le h.processor ct.queueId

theorem work_prvServerUnavailableCb_le (udn ipAddress : String) (h : ServiceOk handled w) :
    (prvServerUnavailableCb udn ipAddress w).work ≤ w.work + 1 := by
  have hremoved : ∀ d dev context, (w.removeContext d dev context ipAddress).work ≤ w.work :=
    fun d dev context => work_prvRsuContextDelete_le d context _
  cases departure udn ipAddress w with
  | ignored _ heq =>
      rw [heq]
      exact Nat.le_succ _
  | dangling _ _ heq =>
      rw [heq]
      exact Nat.le_succ _
  | @last d uc dev context hdeparting _ heq =>
      rw [heq]
      have hlost := work_prvServerLost_le (d := d) udn dev.path uc (h.departing hdeparting)
      exact Nat.le_succ_of_le (Nat.le_trans hlost (hremoved d dev context))
  | @later d _ dev context _ _ _ heq =>
      rw [heq]
      exact Nat.le_trans (work_subscribeLater_le d _) (Nat.succ_le_succ (hremoved d dev context))
  | other _ _ _ heq =>
      rw [heq]
      exact Nat.le_succ_of_le (hremoved _ _ _)

theorem work_prvDeviceChainEnd_le (cancelled : Bool) (ct : DeviceNewCt) (w : World) :
    (prvDeviceChainEnd cancelled ct w).work ≤ w.work := by
  unfold prvDeviceChainEnd
  dsimp only
  split
  · exact work_rsuDeviceDelete_le ct.device _
  · refine work_withDevice_le (Nat.le_refl _) fun dev _ => ?_
    unfold serverUdnMapInsert
    dsimp only
    split
    · exact work_rsuDeviceDelete_le _ _
    · exact Nat.le_refl _

theorem work_prvTaskQueueFinallyCb_le (q : TaskQueue) (w : World) :
    (prvTaskQueueFinallyCb q w).work ≤ w.work := by
  unfold prvTaskQueueFinallyCb
  split
  · exact work_prvDeviceChainEnd_le _ _ w
  · exact Nat.le_refl _

/-! ## Sources and replies -/

def retryTimer (d c : Nat) (kind : ServiceKind) : ProxyHandler := ⟨⟨c, kind⟩, kind, d, c⟩

/-- A handler of "subscription-lost" starts the timer of its own service, or removes it. -/
structure Retries (h : ProxyHandler) (w w' : World) : Prop where
  timers : ∀ r ∈ w'.loop.retryTimers,
    r ∈ w.loop.retryTimers ∨ r = retryTimer h.device h.context h.kind
  work : w'.work + w.loop.retryTimers.length = w.work + w'.loop.retryTimers.length

theorem retries_prvSubscriptionLostCb (h : ProxyHandler) (w : World) :
    Retries h w (prvSubscriptionLostCb h w) := by
  have hset : ∀ l : List ProxyHandler,
      (w.setRetryTimers l).work + w.loop.retryTimers.length = w.work + l.length := by
    intro l
    simp only [World.work, MainLoop.work, World.setRetryTimers]
    omega
  unfold prvSubscriptionLostCb World.withDevice
  split
  next dev _ =>
    dsimp only
    split
    · exact ⟨fun _ => .inl, rfl⟩
    next context hcontext =>
      have hid : context.id = h.context := by simpa using List.find?_some hcontext
      split
      · refine ⟨fun r hr => .inl ?_, ?_⟩
        · rw [loop_modifyContext] at hr
          exact List.mem_of_mem_erase hr
        · rw [work_modifyContext, loop_modifyContext]
          exact hset _
      · refine ⟨fun r hr => ?_, ?_⟩
        · rw [loop_modifyContext] at hr
          rcases List.mem_append.mp hr with hr | hr
          · exact .inl hr
          · rw [List.mem_singleton.mp hr, DeviceContext.notify, hid]
            exact .inr rfl
        · rw [work_modifyContext, loop_modifyContext]
          exact hset _
  · exact ⟨fun _ => .inl, rfl⟩

theorem retries_foldl {c : Nat} (l : List ProxyHandler)
    (hl : ∀ h ∈ l, h.device = d ∧ h.context = c) (w : World) :
    (∀ r ∈ (l.foldl (fun w h => prvSubscriptionLostCb h w) w).loop.retryTimers,
        r ∈ w.loop.retryTimers ∨ ∃ kind, r = retryTimer d c kind) ∧
      (l.foldl (fun w h => prvSubscriptionLostCb h w) w).work + w.loop.retryTimers.length =
        w.work + (l.foldl (fun w h => prvSubscriptionLostCb h w) w).loop.retryTimers.length := by
  induction l generalizing w with
  | nil => exact ⟨fun _ => .inl, rfl⟩
  | cons h l ih =>
      obtain ⟨⟨rfl, rfl⟩, hrest⟩ := List.forall_mem_cons.mp hl
      obtain ⟨htimers, hwork⟩ := retries_prvSubscriptionLostCb h w
      obtain ⟨htimers', hwork'⟩ := ih hrest (prvSubscriptionLostCb h w)
      rw [List.foldl_cons]
      refine ⟨fun r hr => ?_, by omega⟩
      rcases htimers' r hr with hr | hr
      · exact (htimers r hr).imp_right fun heq => ⟨h.kind, heq⟩
      · exact .inr hr

theorem work_subscriptionLost_le (h : ServiceOk handled w) (hh : HoldersOk w)
    (proxy : ServiceProxy) : (exec w (.subscriptionLost proxy)).work ≤ w.work + 3 := by
  have hcontexts : ContextsOk w := ⟨h.outer.devices, hh.attached⟩
  let l := w.gupnp.lostHandlers.filter fun n => n.proxy = proxy
  have hattached : ∀ n ∈ l, n.proxy = proxy ∧ (w.context? n.device n.context).isSome ∧
      n.context = proxy.context := by
    intro n hn
    obtain ⟨hmem, hproxy⟩ := List.mem_filter.mp hn
    obtain ⟨hsome, hown⟩ := hcontexts.live_attached (hh.attached.lostHandlers n hmem)
    have hproxy' : n.proxy = proxy := by simpa using hproxy
    exact ⟨hproxy', hsome, by rw [← hproxy', hown]⟩
  cases hl : l with
  | nil =>
      have hnone :
          exec w (.subscriptionLost proxy) = gupnpServiceProxySetSubscribed proxy false w := by
        show l.foldl (fun w h => prvSubscriptionLostCb h w) _ = _
        rw [hl]
        rfl
      rw [hnone]
      exact Nat.le_add_right w.work 3
  | cons n₀ rest =>
      have hfirst : n₀ ∈ l := hl ▸ List.mem_cons_self
      have hsame : ∀ n ∈ l, n.device = n₀.device ∧ n.context = proxy.context := by
        intro n hn
        obtain ⟨-, hsome, hcontext⟩ := hattached n hn
        obtain ⟨-, hsome₀, hcontext₀⟩ := hattached n₀ hfirst
        rw [hcontext] at hsome
        rw [hcontext₀] at hsome₀
        exact ⟨hcontexts.owner hsome₀ hsome, hcontext⟩
      obtain ⟨htimers, hwork⟩ :=
        retries_foldl l hsame (gupnpServiceProxySetSubscribed proxy false w)
      have hnodup := (hh.attached.subscriptionLost h.outer.devices proxy).2.retryNodup
      have hsubset : (exec w (.subscriptionLost proxy)).loop.retryTimers ⊆
          w.loop.retryTimers ++
            [ServiceKind.cm, .av, .rc].map (retryTimer n₀.device proxy.context) := by
        intro r hr
        rcases htimers r hr with hr | ⟨kind, rfl⟩
        · exact List.mem_append_left _ hr
        · refine List.mem_append_right _ (List.mem_map_of_mem ?_)
          cases kind <;> simp
      have hlength := (List.subperm_of_subset hnodup hsubset).length_le
      rw [List.length_append, List.length_map] at hlength
      have hfold : (exec w (.subscriptionLost proxy)).work + w.loop.retryTimers.length =
          w.work + (exec w (.subscriptionLost proxy)).loop.retryTimers.length := hwork
      simp only [List.length_cons, List.length_nil] at hlength
      omega

theorem work_prvSubscribeToServiceChanges_le (d : Nat) (w : World) :
    (prvSubscribeToServiceChanges d w).work ≤ w.work :=
  work_withDevice_le (Nat.le_refl _) fun _ _ => work_rsuDeviceSubscribeToServiceChanges_le d _

theorem work_prvReEnableSubscription_le (h : ProxyHandler) (w : World) :
    (prvReEnableSubscription h w).work ≤ w.work := by
  refine work_withDevice_le (Nat.le_refl _) fun dev _ => ?_
  split
  · exact Nat.le_refl _
  · exact Nat.le_of_eq (work_modifyContext _ _ _ w)

theorem work_soupFinished_lt {t : Transfer} (ht : t ∈ w.upnp.hostService.transfers)
    (hfault : (soupFinished t w).fault = none) : (soupFinished t w).work + 1 ≤ w.work := by
  have herase := List.length_erase_of_mem ht
  have hpos := List.length_pos_of_mem ht
  revert hfault
  unfold soupFinished
  split
  next h hfinished =>
    intro _
    have htransfers : h.transfers = w.upnp.hostService.transfers.erase t := by
      obtain ⟨hf, -, rfl⟩ := Option.map_eq_some_iff.mp hfinished
      split <;> rfl
    simp only [World.work, World.setHostService, htransfers]
    omega
  next =>
    intro hfault
    exact absurd hfault (by unfold World.crash; cases w.fault <;> simp)

theorem transfers_refMapping {h h' : HostService} {mapped : Bool} {hf hf' : HostFile} {m : Nat}
    (hmap : h.refMapping mapped hf = some (m, hf', h')) : h'.transfers = h.transfers := by
  revert hmap
  unfold HostService.refMapping
  split
  · rintro ⟨⟩
    rfl
  · split
    · rintro ⟨⟩
      rfl
    · simp

/-- A GET that is answered with a file is a response that will end. -/
theorem work_soupRequest_le (mapped : Bool) (deviceIf : String) (msg : SoupMessage) :
    (exec w (.soupRequest mapped deviceIf msg)).work ≤ w.work + 1 := by
  have htransfers : (prvSoupServerCb mapped deviceIf msg w.upnp.hostService).2.transfers.length ≤
      w.upnp.hostService.transfers.length + 1 := by
    unfold prvSoupServerCb
    split
    · exact Nat.le_succ _
    · split
      · exact Nat.le_succ _
      · split
        · exact Nat.le_succ _
        · dsimp only
          split
          · exact Nat.le_succ _
          next hmap =>
            have hsame := congrArg List.length (transfers_refMapping hmap)
            split
            · exact (List.length_append.trans (congrArg (· + 1) hsame)).le
            · exact Nat.le_succ_of_le hsame.le
  simp only [exec, World.work, World.setHostService]
  omega

/-! ## The end -/

theorem work_prvContextQuitCb_le (w : World) : (prvContextQuitCb w).work ≤ w.work + 1 := by
  have hunsubscribe :=
    work_rsuUpnpUnsubscribe_le { w with context := { w.context with ownerId := false } }
  have htimer : ∀ w : World, ({ w with
      loop := { w.loop with quitTimers := w.loop.quitTimers + 1 } } : World).work = w.work + 1 := by
    intro w
    simp only [World.work, MainLoop.work]
    omega
  exact Nat.le_trans (Nat.le_of_eq (htimer _)) (Nat.succ_le_succ hunsubscribe)

theorem transfers_rsuHostServiceDelete (h : HostService) :
    (rsuHostServiceDelete h).transfers = h.transfers := by
  have hfold : ∀ (l : List (Sigma fun _ : String => HostServer)) (h : HostService),
      (l.foldl (fun h e => prvHostServerDelete e.2 h) h).transfers = h.transfers := by
    intro l
    induction l with
    | nil => exact fun _ => rfl
    | cons e l ih =>
        intro h
        exact (ih _).trans (congrArg Prod.fst (HostService.ledger_deleteFiles e.2.files.entries h))
  exact hfold h.servers.entries { h with servers := ∅ }

theorem work_rsuTaskProcessorFree_le (w : World) :
    (rsuTaskProcessorFree taskDeleteCb w).work ≤ w.work := by
  have hfold : ∀ (l : List (Sigma fun _ : TaskQueueKey => TaskQueue)) (w : World),
      (l.foldl (fun w e => prvTaskQueueFreeCb taskDeleteCb e.2 w) w).work ≤
        w.work + (l.map fun e => e.2.work).sum := by
    intro l
    induction l with
    | nil => exact fun _ => Nat.le_refl _
    | cons e l ih =>
        intro w
        have hfree := work_prvTaskQueueFreeCb e.2 w
        have hrest := ih (prvTaskQueueFreeCb taskDeleteCb e.2 w)
        have hpays : (if e.2.finallyCb then 1 else 0) ≤ e.2.work := Nat.le_add_left _ _
        rw [List.foldl_cons, List.map_cons, List.sum_cons]
        omega
  refine Nat.le_trans (hfold w.processor.taskQueues.entries (w.setQueues ∅)) (Nat.le_of_eq ?_)
  have hentries : (w.processor.taskQueues.entries.map fun e => e.2.work).sum =
      Assoc.total TaskQueue.work w.processor.taskQueues := rfl
  rw [hentries]
  simp only [World.work, World.setQueues, Assoc.total_empty]
  omega

theorem work_prvRsuContextFree_le (w : World) : (prvRsuContextFree w).work ≤ w.work := by
  let w₁ := w.setHostService (rsuHostServiceDelete w.upnp.hostService)
  have hhost : w₁.work = w.work := work_setHostService (transfers_rsuHostServiceDelete _)
  have hdelete : (rsuUpnpDelete w).work ≤ w₁.work :=
    work_foldl_le (I := fun _ => True)
      (fun w e _ => ⟨trivial, work_rsuDeviceDelete_le e.2 w⟩) _ trivial
  exact Nat.le_trans (work_rsuTaskProcessorFree_le _) (hdelete.trans (Nat.le_of_eq hhost))

/-! ## Every input -/

/-- An input adds what it costs at most, and a callback of the main loop takes some of the
work away. -/
theorem exec_work {i : Input} (h : ServiceOk none w) (hh : HoldersOk w)
    (henabled : i.enabled w = true) (hfault : (exec w i).fault = none) :
    (exec w i).work + (if i.isInternal then 1 else 0) ≤ w.work + i.cost := by
  cases i with
  | managerCall sender method => exact work_prvRsuMethodCall_le sender method h
  | propsCall sender object method =>
      exact work_deviceCall_le sender.name object (method.new object) w
  | rsuDeviceCall sender object method => exact work_deviceCall_le sender.name object method.new w
  | playerCall sender object method =>
      exact work_deviceCall_le sender.name object (method.new object) w
  | pushHostCall sender object method =>
      exact work_deviceCall_le sender.name object (method.new sender.name object) w
  | cancelCall sender object => exact work_cancelCall_le sender.name object h
  | lostClient name => exact work_prvRemoveClient_le name h
  | available udn ipAddress offered => exact work_prvServerAvailableCb_le udn ipAddress offered h
  | unavailable udn ipAddress => exact work_prvServerUnavailableCb_le udn ipAddress h
  | reply action env =>
      have hmem : action ∈ w.gupnp.actions := by simp_all [Input.enabled]
      exact work_actionReply_lt env hmem (h.outer.actions.awaited action hmem).1
  | processIdle id k env =>
      have hmem : (id, k) ∈ w.loop.processIdles := by simp_all [Input.enabled]
      exact work_processIdle_lt env h.processor hmem
  | finallyIdle q =>
      have hmem : q ∈ w.loop.finallyIdles := by simp_all [Input.enabled]
      have herase := List.length_erase_of_mem hmem
      have hpos := List.length_pos_of_mem hmem
      refine Nat.le_trans (Nat.succ_le_succ (work_prvTaskQueueFinallyCb_le q _)) ?_
      simp only [World.work, MainLoop.work, World.setLoop, Input.cost]
      omega
  | completeIdle a =>
      have hmem : a ∈ w.loop.completeIdles := by simp_all [Input.enabled]
      obtain ⟨hcurrent, t, ht, -⟩ := h.outer.completions.pending a hmem
      exact work_completeIdle_lt _ hcurrent ht
  | subscribeTimer id d =>
      have hmem : (id, d) ∈ w.loop.subscribeTimers := by simp_all [Input.enabled]
      have herase := List.length_erase_of_mem hmem
      have hpos := List.length_pos_of_mem hmem
      refine Nat.le_trans (Nat.succ_le_succ (work_prvSubscribeToServiceChanges_le d _)) ?_
      simp only [World.work, MainLoop.work, World.setLoop, Input.cost]
      omega
  | notify proxy =>
      rw [notify_eq hh proxy]
      exact Nat.le_refl _
  | subscriptionLost proxy => exact work_subscriptionLost_le h hh proxy
  | retryTimer r =>
      have hmem : r ∈ w.loop.retryTimers := by simp_all [Input.enabled]
      have herase := List.length_erase_of_mem hmem
      have hpos := List.length_pos_of_mem hmem
      refine Nat.le_trans (Nat.succ_le_succ (work_prvReEnableSubscription_le r _)) ?_
      simp only [World.work, MainLoop.work, World.setLoop, Input.cost]
      omega
  | soupRequest mapped deviceIf msg => exact work_soupRequest_le mapped deviceIf msg
  | soupFinished t =>
      have hmem : t ∈ w.upnp.hostService.transfers := by simp_all [Input.enabled]
      exact work_soupFinished_lt hmem hfault
  | quitIdle =>
      have hpos : 0 < w.loop.quitIdles := by simp_all [Input.enabled]
      refine Nat.le_trans (Nat.succ_le_succ (work_prvContextQuitCb_le _)) ?_
      simp only [World.work, MainLoop.work, World.setLoop, Input.cost]
      omega
  | quitTimer =>
      have hpos : 0 < w.loop.quitTimers := by simp_all [Input.enabled]
      simp only [exec, prvContextMainloopQuitCb, World.work, MainLoop.work, World.setLoop,
        Input.isInternal, Input.cost, if_true]
      omega
  | signal => exact work_rsuTaskProcessorSetQuitting_le h.processor
  | nameLost => exact work_rsuTaskProcessorSetQuitting_le h.processor
  | rehash queues devices =>
      have hperm : queues.entries.Perm w.processor.taskQueues.entries := by
        simp_all [Input.enabled, List.isPerm_iff]
      have htotal := Assoc.total_perm (f := TaskQueue.work) hperm
      simp only [exec, World.work, World.setQueues, World.setUdnMap, Input.isInternal, Input.cost,
        htotal, Bool.false_eq_true, if_false]
      exact Nat.le_refl _
  | contextFree => exact work_prvRsuContextFree_le w

/-! ## Runs -/

section Runs

variable {neverQuit : Bool} {is : List Input}

theorem service_pays (neverQuit : Bool) :
    (service neverQuit).Pays (fun w => ∃ is, (service neverQuit).Reaches is w) Input.isInternal
      Input.cost World.work where
  step := by
    intro w i w' ⟨is, hr⟩ hst
    obtain ⟨henabled, hfault, rfl⟩ := stepFn_eq hst
    have hfreed : w.context.freed = false := by
      simp only [Input.enabled, Bool.and_eq_true, Bool.not_eq_true'] at henabled
      exact henabled.1
    exact ⟨⟨_, hr.step hst⟩, exec_work (service_ok hr hfreed) (service_holdersOk hr hfreed) henabled
      hfault⟩

theorem sum_cost_le (is : List Input) :
    (is.map Input.cost).sum ≤ 14 * is.countP fun i => !i.isInternal := by
  induction is with
  | nil => exact Nat.le_refl _
  | cons i is ih =>
      have hcost := i.cost_le
      rw [List.map_cons, List.sum_cons, List.countP_cons]
      cases hi : i.isInternal with
      | true =>
          rw [hi, if_pos rfl] at hcost
          simp only [Bool.not_true, Bool.false_eq_true, if_false]
          omega
      | false =>
          rw [hi, if_neg Bool.false_ne_true] at hcost
          simp only [Bool.not_false, if_true]
          omega

/-- In every run the callbacks of the main loop are at most fourteen for each event from
outside.  Without further events the work that is left bounds them, in any order, and they
can all be run until none is left that is defined. -/
theorem service_comesToRest (h : (service neverQuit).Reaches is w) :
    (is.countP Input.isInternal + w.work ≤ (is.map Input.cost).sum ∧
      (is.map Input.cost).sum ≤ 14 * is.countP fun i => !i.isInternal) ∧
    (∀ js w', (service neverQuit).Through (fun _ => True) w js w' →
      (∀ i ∈ js, i.isInternal = true) → js.length + w'.work ≤ w.work) ∧
    ∃ js w', (service neverQuit).Through (fun _ => True) w js w' ∧
      (∀ i ∈ js, i.isInternal = true) ∧ ∀ i : Input, i.isInternal = true → stepFn w' i = none := by
  have hfree : ∀ i : Input, i.isInternal = true → i.cost = 0 := fun i hi => by
    have hcost := i.cost_le
    rw [if_pos hi] at hcost
    exact Nat.le_zero.mp hcost
  have hpays := service_pays neverQuit
  refine ⟨⟨hpays.reaches (fun w hw => ?_) h, sum_cost_le is⟩,
    fun js w' hthrough hinternal => ?_, ?_⟩
  · obtain rfl : w = start neverQuit := hw
    exact ⟨⟨[], .init rfl⟩, rfl⟩
  · exact hpays.length_le ⟨is, h⟩ hthrough hinternal fun i hi => hfree i (hinternal i hi)
  · obtain ⟨js, w', hthrough, hinternal, hrest⟩ := hpays.comes_to_rest hfree ⟨is, h⟩
    refine ⟨js, w', hthrough, hinternal, fun i hi => ?_⟩
    exact Option.eq_none_iff_forall_ne_some.mpr fun w'' hst => hrest i w'' hi hst

def playBegun : List Choice :=
  oneRenderer ++ [.input (.playerCall oneClient onePath .play), .processIdle]

/-- The reply and the completion that follows it are all that is left. -/
theorem service_comesToRest_playBegun :
    ∃ is w, (service true).Reaches is w ∧ w.work = 4 ∧ is.countP Input.isInternal + 4 ≤
        (is.map Input.cost).sum ∧
      ∃ js w', (service true).Through (fun _ => True) w js w' ∧ js.length + w'.work ≤ 4 ∧
        ∀ i : Input, i.isInternal = true → stepFn w' i = none := by
  obtain ⟨is, w, hr, hwork⟩ := service_reaches_of_schedule true playBegun
    (p := fun w => w.work = 4) (by decide +kernel)
  obtain ⟨⟨hpaid, -⟩, hbound, js, w', hthrough, hinternal, hrest⟩ := service_comesToRest hr
  have hlength := hbound js w' hthrough hinternal
  rw [hwork] at hpaid hlength
  exact ⟨is, w, hr, hwork, hpaid, js, w', hthrough, hlength, hrest⟩

end Runs

end RendererService
