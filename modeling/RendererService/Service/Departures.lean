import RendererService.Service.Clients

/-!
# Departures

No resource outlives its client.  What a client owns it owns while it is watched,
and what it asked for before it left is not done afterwards.
-/

namespace RendererService

open Transition

variable {w w' : World} {i : Input} {k : TaskQueueKey} {c : String}

/-! ## What is owned -/

/-- A file is hosted for clients that are watched, a queue serves one that is
watched, and a client hosts files for itself only. -/
structure ClientsOwn (w : World) : Prop where
  watchers : w.context.watchers.Nodup
  queues : ∀ k q, w.queue? k = some q → q.Serves → k.source ∈ w.context.watchers
  records : ∀ a t uri client, w.tasks a = some (.client t) → t.type = .hostUri uri client →
    client = a.queueId.source
  hostings : ∀ x ∈ w.upnp.hostService.hostings, x.client ∈ w.context.watchers

theorem mem_watch (c : String) (w : World) (name : String) :
    name ∈ (w.watch c).context.watchers ↔ name = c ∨ name ∈ w.context.watchers := by
  unfold World.watch
  split
  next hmem =>
    constructor
    · exact .inr
    · rintro (rfl | hname)
      · exact hmem
      · exact hname
  · show name ∈ w.context.watchers ++ [c] ↔ _
    rw [List.mem_append, List.mem_singleton, or_comm]

theorem watch_nodup (c : String) (h : w.context.watchers.Nodup) :
    (w.watch c).context.watchers.Nodup := by
  unfold World.watch
  split
  · exact h
  next hmem =>
    have hlast : ∀ name ∈ w.context.watchers, ∀ name' ∈ [c], name ≠ name' := by
      intro name hname name' hname' heq
      rw [heq, List.mem_singleton.mp hname'] at hname
      exact hmem hname
    exact List.nodup_append.mpr ⟨h, List.nodup_singleton c, hlast⟩

/-- A step keeps what is owned, if it hosts a file for a watched client only, and
not for one that leaves. -/
theorem ClientsOwn.moves (h : ClientsOwn w) (hm : Moves i w w')
    (hhost : ∀ x ∈ w'.upnp.hostService.hostings,
      x.client ∈ w.context.watchers ∧ i.departs ≠ some x.client) : ClientsOwn w' := by
  cases hm with
  | none hi hnone =>
      refine ⟨hnone.watchers ▸ h.watchers, fun k q' hq' hserves => ?_,
        fun a t' uri client ht' hu => ?_, fun x hx => ?_⟩
      · obtain ⟨q, hq, hserved, -⟩ := hnone.queues k q' hq' hserves
        rw [hnone.watchers]
        exact h.queues k q hq hserved
      · obtain ⟨t, ht, htype⟩ := hnone.records a t' ht'
        exact h.records a t uri client ht (htype ▸ hu)
      · rw [hnone.watchers]
        exact (hhost x hx).1
  | joins c hi hjoins =>
      have hwatched :
          ∀ name, name ∈ w'.context.watchers ↔ name = c ∨ name ∈ w.context.watchers := by
        intro name
        rw [hjoins.watchers, mem_watch]
      refine ⟨hjoins.watchers ▸ watch_nodup c h.watchers, fun k q' hq' hserves => ?_,
        fun a t' uri client ht' hu => ?_, fun x hx => ?_⟩
      · rw [hwatched]
        rcases (hjoins.queues k q' hq' hserves).1 with hsource | ⟨q, hq, hserved⟩
        · exact .inl hsource
        · exact .inr (h.queues k q hq hserved)
      · rcases hjoins.records a t' ht' with ⟨t, ht, htype⟩ | ⟨hsource, hown⟩
        · exact h.records a t uri client ht (htype ▸ hu)
        · exact (hown uri client hu).trans hsource.symm
      · rw [hwatched]
        exact .inr (hhost x hx).1
  | leaves c hi hleaves =>
      have hwatched :
          ∀ name, name ∈ w'.context.watchers ↔ name ≠ c ∧ name ∈ w.context.watchers := by
        intro name
        rw [hleaves.watchers, h.watchers.mem_erase_iff]
      refine ⟨hleaves.watchers ▸ h.watchers.erase c, fun k q' hq' hserves => ?_,
        fun a t' uri client ht' hu => ?_, fun x hx => ?_⟩
      · obtain ⟨hne, q, hq, hserved, -⟩ := hleaves.queues k q' hq' hserves
        rw [hwatched]
        exact ⟨hne, h.queues k q hq hserved⟩
      · obtain ⟨t, ht, htype⟩ := hleaves.records a t' ht'
        exact h.records a t uri client ht (htype ▸ hu)
      · obtain ⟨hmem, hdeparts⟩ := hhost x hx
        rw [hwatched]
        exact ⟨fun heq => hdeparts (heq ▸ hi), hmem⟩

/-! ## Hosted files -/

/-- The request that a queue hands over is the first of a queue that serves. -/
theorem nextRequest_serves {id : Nat} {handled : Option Nat} {t : ClientTask}
    (h : ServiceOk handled w) (hh : HoldersOk w) (hidle : (id, k) ∈ w.loop.processIdles)
    (ht : w.nextRequest k = some t) :
    ∃ q a, w.queue? k = some q ∧ q.Serves ∧ q.tasks.head? = some a ∧ a.queueId = k ∧
      w.tasks a = some (.client t) := by
  obtain ⟨q, a, rest, hq, rfl, hne, hcons, hkey, -⟩ :=
    prvTaskQueueProcessTask_dispatch {} h.processor hidle
  have hrecord : w.tasks a = some (.client t) := by
    simp only [World.nextRequest, hq, Option.bind_some, hcons, List.head?_cons] at ht
    split at ht
    next t' ht' => rw [ht', Option.some.inj ht]
    · simp at ht
  have hcallbacks : q.callbacks = .client :=
    (h.processor.queues k q hq).takesRequests (hcons ▸ List.mem_cons_self) hrecord
  have hdefer : q.deferRemove = false := by
    by_contra hdefer
    exact hne (hh.clients.deferred k q hq (by simpa using hdefer)).1
  exact ⟨q, a, hq, ⟨hcallbacks, hdefer⟩, by rw [hcons, List.head?_cons], hkey, hrecord⟩

theorem Input.departs_hostInput (hi : i.departs = some c) (w : World) :
    i.hostInput? w = some (.lostClient c) := by
  cases i with
  | managerCall sender method =>
      cases method with
      | release => exact congrArg (Option.map HostInput.lostClient) hi
      | _ => simp [Input.departs] at hi
  | lostClient name => exact congrArg (Option.map HostInput.lostClient) hi
  | _ => simp [Input.departs] at hi

theorem hostInput_watched {handled : Option Nat} {env : HostEnvironment} {deviceIf f : String}
    (h : ServiceOk handled w) (hh : HoldersOk w) (hown : ClientsOwn w)
    (henabled : i.enabled w = true) (hinput : i.hostInput? w = some (.add env deviceIf c f)) :
    c ∈ w.context.watchers ∧ i.departs = none := by
  cases i with
  | processIdle id k env =>
      have hmem : (id, k) ∈ w.loop.processIdles := by simp_all [Input.enabled]
      obtain ⟨t, hnext, hrequest⟩ := Option.bind_eq_some_iff.mp hinput
      obtain ⟨q, a, hq, hserves, -, rfl, ht⟩ := nextRequest_serves h hh hmem hnext
      obtain ⟨deviceIf', -, htype⟩ := Option.bind_eq_some_iff.mp hrequest
      refine ⟨?_, rfl⟩
      split at htype
      next uri client hu =>
        obtain ⟨-, -, rfl, -⟩ := HostInput.add.inj (Option.some.inj htype)
        rw [hown.records a t uri client ht hu]
        exact hown.queues _ q hq hserves
      · simp at htype
      · simp at htype
  | managerCall sender method => cases method <;> simp [Input.hostInput?] at hinput
  | _ => simp [Input.hostInput?] at hinput

theorem exec_clientsOwn (h : ServiceOk none w) (hr : RegistryOk w) (hh : HoldersOk w)
    (hfiles : w.upnp.hostService.FilesOk) (hown : ClientsOwn w) (henabled : i.enabled w = true)
    (hfree : i ≠ .contextFree) (hfault : (exec w i).fault = none) : ClientsOwn (exec w i) := by
  have hhosts := exec_hosts h henabled hr hh hfree hfault
  refine hown.moves (exec_moves h henabled hfree) fun x hx => ?_
  cases hinput : i.hostInput? w with
  | none =>
      rw [hinput] at hhosts
      rw [show _ = _ from hhosts] at hx
      refine ⟨hown.hostings x hx, fun hi => ?_⟩
      simp [Input.departs_hostInput hi w] at hinput
  | some j =>
      rw [hinput] at hhosts
      rcases HostService.hostings_step hfiles (hosting_step hhosts) hx with ⟨hold, hne⟩ | ⟨env, rfl⟩
      · refine ⟨hown.hostings x hold, fun hi => hne ?_⟩
        rw [Input.departs_hostInput hi w] at hinput
        exact (Option.some.inj hinput).symm
      · obtain ⟨hwatched, hstays⟩ := hostInput_watched h hh hown henabled hinput
        exact ⟨hwatched, by simp [hstays]⟩

theorem contextFree_clientsOwn (h : ServiceOk none w) (hown : ClientsOwn w) :
    ClientsOwn (exec w .contextFree) := by
  obtain ⟨loop, hexec⟩ := exec_contextFree_eq h
  have hservers : (exec w .contextFree).upnp.hostService.servers = ∅ := by
    rw [hexec]
    exact (congrArg HostService.servers (deleteUpnp_hostService w)).trans
      (HostService.servers_rsuHostServiceDelete _)
  refine ⟨?_, fun k q hq => ?_, fun a t uri client ht => ?_, fun x hx => ?_⟩
  · rw [hexec]
    exact List.nodup_nil
  · rw [hexec] at hq
    have hnone : (∅ : Assoc.Table TaskQueueKey TaskQueue).lookup k = some q := hq
    simp at hnone
  · rw [(exec_contextFree h).1.tasks] at ht
    split at ht
    · simp at ht
    · exact hown.records a t uri client ht
  · obtain ⟨hf, hfile, -⟩ := HostService.mem_hostings.mp hx
    obtain ⟨server, hserver, -⟩ := Option.bind_eq_some_iff.mp hfile
    rw [hservers] at hserver
    simp at hserver

/-! ## What is asked for before -/

/-- The queues that serve `c` hold no task from before the task `n`. -/
structure Renewed (c : String) (n : Nat) (w : World) : Prop where
  nextTask : n ≤ w.nextTask
  queues : ∀ k q, w.queue? k = some q → q.Serves → k.source = c → ∀ a ∈ q.tasks, n ≤ a.id

theorem Leaves.renewed (h : Leaves c w w') : Renewed c w.nextTask w' where
  nextTask := h.nextTask
  queues k q hq hserves hsource := absurd hsource (h.queues k q hq hserves).1

theorem Renewed.moves {n : Nat} (h : Renewed c n w) (hm : Moves i w w') : Renewed c n w' := by
  cases hm with
  | none hi hnone =>
      refine ⟨Nat.le_trans h.nextTask hnone.nextTask, fun k q' hq' hserves hsource a ha => ?_⟩
      obtain ⟨q, hq, hserved, hsub⟩ := hnone.queues k q' hq' hserves
      exact h.queues k q hq hserved hsource a (hsub a ha)
  | joins c' hi hjoins =>
      refine ⟨Nat.le_trans h.nextTask hjoins.nextTask, fun k q' hq' hserves hsource a ha => ?_⟩
      rcases (hjoins.queues k q' hq' hserves).2 a ha with hnew | ⟨q, hq, hserved, hold⟩
      · exact Nat.le_trans h.nextTask hnew
      · exact h.queues k q hq hserved hsource a hold
  | leaves c' hi hleaves =>
      refine ⟨Nat.le_trans h.nextTask hleaves.nextTask, fun k q' hq' hserves hsource a ha => ?_⟩
      obtain ⟨-, q, hq, hserved, hsub⟩ := hleaves.queues k q' hq' hserves
      exact h.queues k q hq hserved hsource a (hsub a ha)

/-- The state in which a departure looks whether a client is left. -/
def Input.dropped (w : World) : Input → Option World
  | .managerCall sender .release => some (w.newInvocation.2.dropClient sender.name)
  | .lostClient name => some (w.dropClient name)
  | _ => none

/-- Dropping a client keeps the files of those that are watched. -/
theorem dropClient_hostings {handled : Option Nat} (h : ServiceOk handled w)
    (hfiles : w.upnp.hostService.FilesOk) (hown : ClientsOwn w) (c : String) :
    ∀ x ∈ (w.dropClient c).upnp.hostService.hostings,
      x.client ∈ (w.dropClient c).context.watchers := by
  intro x hx
  rw [hostService_dropClient c h.processor, hfiles.hostings_lostClient] at hx
  obtain ⟨hmem, hne⟩ := hx
  have hwatchers : (w.dropClient c).context.watchers = w.context.watchers.erase c :=
    congrArg (List.erase · c) (noneJoins_removeQueuesForSource c h).watchers
  rw [hwatchers, hown.watchers.mem_erase_iff]
  exact ⟨hne, hown.hostings x hmem⟩

/-! ## Runs -/

section Runs

variable {neverQuit : Bool} {is : List Input} {w₁ w₂ w₃ : World}

theorem service_clientsOwn (hr : (service neverQuit).Reaches is w) : ClientsOwn w := by
  refine hr.trace_invariant (P := fun _ w => ClientsOwn w) (fun w hw => ?_)
    fun is w i w' hr hown hstep => ?_
  · obtain rfl : w = start neverQuit := hw
    refine ⟨List.nodup_nil, fun k q hq => ?_, fun a t uri client ht => ?_, fun x hx => ?_⟩
    · exact absurd hq (by simp [start, World.queue?])
    · exact absurd ht (by simp [start])
    · obtain ⟨hf, hfile, -⟩ := HostService.mem_hostings.mp hx
      exact absurd hfile (by simp [start, HostService.file?])
  · obtain ⟨henabled, hfault, rfl⟩ := stepFn_eq hstep
    have hfreed := enabled_freed henabled
    by_cases hlast : i = .contextFree
    · subst hlast
      exact contextFree_clientsOwn (service_ok hr hfreed) hown
    · exact exec_clientsOwn (service_ok hr hfreed) (service_registryOk hr hfreed)
        (service_holdersOk hr hfreed) (hosting_filesOk (service_hosting hr hfreed)) hown henabled
        hlast hfault

theorem service_renewed {n : Nat} (hr : (service neverQuit).Reaches is w) (hnew : Renewed c n w)
    (hs : (service neverQuit).Steps w w') (hfree : w'.context.freed = false) : Renewed c n w' := by
  induction hs with
  | refl => exact hnew
  | @tail w₁ w₂ hs₁ hstep ih =>
      obtain ⟨i, hi⟩ := hstep
      obtain ⟨henabled, hfault, rfl⟩ := stepFn_eq hi
      have hfreed := enabled_freed henabled
      have hlast := ne_contextFree hfree
      obtain ⟨js, hjs⟩ := hr.steps hs₁
      exact (ih hfreed).moves (exec_moves (service_ok hjs hfreed) henabled hlast)

theorem service_dropped (hr : (service neverQuit).Reaches is w) (henabled : i.enabled w = true)
    (hdropped : i.dropped w = some w₁) (hnone : w₁.context.watchers = []) (deviceIf f : String) :
    w₁.upnp.hostService.file? deviceIf f = none := by
  have hown := service_clientsOwn hr
  have hfreed := enabled_freed henabled
  have hok := service_ok hr hfreed
  have hfiles := hosting_filesOk (service_hosting hr hfreed)
  have hkept : w₁.upnp.hostService.FilesOk ∧
      ∀ x ∈ w₁.upnp.hostService.hostings, x.client ∈ w₁.context.watchers := by
    cases i with
    | managerCall sender method =>
        cases method with
        | release =>
            obtain rfl := Option.some.inj hdropped
            have harrive : ClientsOwn w.newInvocation.2 :=
              ⟨hown.watchers, hown.queues, hown.records, hown.hostings⟩
            have hok' := newInvocation_serviceOk hok
            refine ⟨?_, dropClient_hostings hok' hfiles harrive sender.name⟩
            rw [hostService_dropClient sender.name hok'.processor]
            exact (HostStep.lostClient sender.name).filesOk hfiles
        | _ => simp [Input.dropped] at hdropped
    | lostClient name =>
        obtain rfl := Option.some.inj hdropped
        refine ⟨?_, dropClient_hostings hok hfiles hown name⟩
        rw [hostService_dropClient name hok.processor]
        exact (HostStep.lostClient name).filesOk hfiles
    | _ => simp [Input.dropped] at hdropped
  cases hfile : w₁.upnp.hostService.file? deviceIf f with
  | none => rfl
  | some hf =>
      -- a file that is hosted has a client, which would be watched
      obtain ⟨c, hc⟩ := List.exists_mem_of_ne_nil _ (hkept.1 deviceIf f hf hfile).clients
      have hwatched := hkept.2 ⟨deviceIf, f, c⟩ ⟨hf, hfile, hc⟩
      rw [hnone] at hwatched
      exact absurd hwatched List.not_mem_nil

theorem service_departs (hr : (service neverQuit).Reaches is w) (hi : i.departs = some c)
    (hstep : stepFn w i = some w₁) : Renewed c w.nextTask w₁ := by
  obtain ⟨henabled, -, rfl⟩ := stepFn_eq hstep
  have hlast : i ≠ .contextFree := by
    rintro rfl
    simp [Input.departs] at hi
  cases exec_moves (service_ok hr (enabled_freed henabled)) henabled hlast with
  | none hnone => simp [hi] at hnone
  | joins _ hnone => simp [hi] at hnone
  | leaves c' hi' hleaves =>
      obtain rfl := Option.some.inj (hi.symm.trans hi')
      exact hleaves.renewed

theorem service_departed {q : TaskQueue} {a : TaskAtom} {t : ClientTask} {id : Nat}
    {k' : TaskQueueKey} {env : Environment} (hr : (service neverQuit).Reaches is w)
    (hi : i.departs = some c) (hstep : stepFn w i = some w₁) (hq : w.queue? k = some q)
    (ha : a ∈ q.tasks) (ht : w.tasks a = some (.client t)) (hsource : k.source = c)
    (hs : (service neverQuit).Steps w₁ w₂) (hlater : stepFn w₂ (.processIdle id k' env) = some w₃) :
    ((w₂.queue? k').bind fun q => q.tasks.head?) ≠ some a := by
  intro hhead
  have hok := service_ok hr (enabled_freed (stepFn_eq hstep).1)
  obtain ⟨henabled, -, -⟩ := stepFn_eq hlater
  have hfreed := enabled_freed henabled
  have hrenewed := service_renewed (hr.step hstep) (service_departs hr hi hstep) hs hfreed
  obtain ⟨js, hjs⟩ := (hr.step hstep).steps hs
  have hok₂ := service_ok hjs hfreed
  have hidle : (id, k') ∈ w₂.loop.processIdles := by simp_all [Input.enabled]
  obtain ⟨q₂, b, rest, hq₂, rfl, hne, hcons, hkey₂, -⟩ :=
    prvTaskQueueProcessTask_dispatch {} hok₂.processor hidle
  obtain rfl : b = a := by simpa [hq₂, hcons] using hhead
  obtain ⟨hkey, hbound⟩ := (hok.processor.queues k q hq).owned b ha
  have hbus : BusSource k'.source := by
    have hfits := hok.outer.keys.fits k q hq
    rw [(hok.processor.queues k q hq).takesRequests ha ht] at hfits
    rw [← hkey₂, hkey]
    exact hfits
  have hserves : q₂.Serves := by
    refine ⟨hok₂.outer.keys.client_of_bus hq₂ hbus, ?_⟩
    by_contra hdefer
    exact hne ((service_holdersOk hjs hfreed).clients.deferred k' q₂ hq₂ (by simpa using hdefer)).1
  have hnew := hrenewed.queues k' q₂ hq₂ hserves (by rw [← hkey₂, hkey, hsource]) b
    (hcons ▸ List.mem_cons_self)
  exact absurd hbound (Nat.not_lt.mpr hnew)

/-- No resource outlives its client: the clients of hosted files and of the queues
that serve are watched, no file is hosted when a departure finds that no client is
left, and no HostFile that waits when its client leaves is handed over afterwards. -/
theorem service_noneOutlives (hr : (service neverQuit).Reaches is w) :
    (∀ deviceIf f hf, w.upnp.hostService.file? deviceIf f = some hf →
      ∀ c ∈ hf.clients, c ∈ w.context.watchers) ∧
    (∀ k q, w.queue? k = some q → q.callbacks = .client → q.deferRemove = false →
      k.source ∈ w.context.watchers) ∧
    (∀ (i : Input) w₁, i.enabled w = true → i.dropped w = some w₁ → w₁.context.watchers = [] →
      ∀ deviceIf f, w₁.upnp.hostService.file? deviceIf f = none) ∧
    ∀ (i : Input) c w₁ k q a t uri, i.departs = some c → stepFn w i = some w₁ →
      w.queue? k = some q → a ∈ q.tasks → w.tasks a = some (.client t) →
      t.type = .hostUri uri c →
      ∀ w₂ id k' env w₃, (service neverQuit).Steps w₁ w₂ →
        stepFn w₂ (.processIdle id k' env) = some w₃ →
        ((w₂.queue? k').bind fun q => q.tasks.head?) ≠ some a := by
  have hown := service_clientsOwn hr
  refine ⟨fun deviceIf f hf hfile c hc => hown.hostings ⟨deviceIf, f, c⟩ ⟨hf, hfile, hc⟩,
    fun k q hq hcallbacks hdefer => hown.queues k q hq ⟨hcallbacks, hdefer⟩,
    fun i w₁ henabled hdropped hnone => service_dropped hr henabled hdropped hnone, ?_⟩
  intro i c w₁ k q a t uri hi hstep hq ha ht htype w₂ id k' env w₃ hs hlater
  have hok := service_ok hr (enabled_freed (stepFn_eq hstep).1)
  have hsource : k.source = c := by
    rw [hown.records a t uri c ht htype, ((hok.processor.queues k q hq).owned a ha).1]
  exact service_departed hr hi hstep hq ha ht hsource hs hlater

end Runs

/-- The client hosts a file, asks for another to be hosted, and goes away. -/
theorem service_noneOutlives_oneClient :
    ∃ is w w₁ hf, (service true).Reaches is w ∧
      w.upnp.hostService.file? "192.168.1.2" oneSong = some hf ∧ hf.clients = [oneClient.name] ∧
      oneClient.name ∈ w.context.watchers ∧
      stepFn w (.lostClient oneClient.name) = some w₁ ∧
      (w.dropClient oneClient.name).context.watchers = [] ∧
      (w.dropClient oneClient.name).upnp.hostService.file? "192.168.1.2" oneSong = none ∧
      ((w.queue? requestKey).map fun q => q.tasks) = some [⟨4, requestKey⟩] ∧
      ∀ w₂ id k' env w₃, (service true).Steps w₁ w₂ →
        stepFn w₂ (.processIdle id k' env) = some w₃ →
        ((w₂.queue? k').bind fun q => q.tasks.head?) ≠ some ⟨4, requestKey⟩ := by
  obtain ⟨is, w, hreaches, hhosted, hwaits, hrequest, hsome, hlast⟩ :=
    service_reaches_of_schedule true
    (oneRenderer ++ [.input (.pushHostCall oneClient onePath (.hostFile oneSong)), .processIdle,
      .completeIdle, .input (.pushHostCall oneClient onePath (.hostFile "/home/user/b.mp3"))])
    (p := fun w => ((w.upnp.hostService.file? "192.168.1.2" oneSong).map fun hf => hf.clients) =
        some [oneClient.name] ∧
      ((w.queue? requestKey).map fun q => q.tasks) = some [⟨4, requestKey⟩] ∧
      (((w.tasks ⟨4, requestKey⟩).bind Task.client?).map fun t => t.type) =
        some (.hostUri "/home/user/b.mp3" oneClient.name) ∧
      (stepFn w (.lostClient oneClient.name)).isSome = true ∧
      (w.dropClient oneClient.name).context.watchers = [])
    (by decide +kernel)
  obtain ⟨howned, -, hdropped, hdeparted⟩ := service_noneOutlives hreaches
  obtain ⟨hf, hfile, hclients⟩ := Option.map_eq_some_iff.mp hhosted
  obtain ⟨w₁, hstep⟩ := Option.isSome_iff_exists.mp hsome
  obtain ⟨q, hq, htasks⟩ := Option.map_eq_some_iff.mp hwaits
  obtain ⟨t, ht, htype⟩ := Option.map_eq_some_iff.mp hrequest
  exact ⟨is, w, w₁, hf, hreaches, hfile, hclients,
    howned _ _ hf hfile _ (hclients ▸ List.mem_singleton_self _), hstep, hlast,
    hdropped (.lostClient oneClient.name) _ (stepFn_eq hstep).1 rfl hlast _ _, hwaits,
    hdeparted (.lostClient oneClient.name) oneClient.name w₁ requestKey q _ t _ rfl hstep hq
      (htasks ▸ List.mem_singleton_self _) (client?_eq_some.mp ht) htype⟩

end RendererService
