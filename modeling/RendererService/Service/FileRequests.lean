import RendererService.Service.PushHost

/-!
# HostFile and RemoveFile over a run

Both requests go to the web server of the interface that the device prefers at
the moment they are handed over.  A RemoveFile undoes a HostFile if that is the
same interface, and undoes what was hosted for any other device on it as well.
-/

namespace RendererService

open Transition

variable {w w' : World} {i : Input} {a : TaskAtom} {d : Nat} {f c : String} {t' : ClientTask}
  {handled : Option Nat}

/-! ## Runs of the host service -/

def hostTrace : World → List Input → List HostInput
  | _, [] => []
  | w, i :: is => (i.hostInput? w).toList ++ hostTrace (exec w i) is

theorem hostTrace_snoc (w : World) (is : List Input) (i : Input) :
    hostTrace w (is ++ [i]) = hostTrace w is ++ (i.hostInput? (is.foldl exec w)).toList := by
  induction is generalizing w with
  | nil => simp [hostTrace]
  | cons i' is ih => simp [hostTrace, ih, List.append_assoc]

theorem service_foldl {neverQuit : Bool} {is : List Input}
    (h : (service neverQuit).Reaches is w) : w = is.foldl exec (start neverQuit) := by
  refine h.trace_invariant (P := fun is w => w = is.foldl exec (start neverQuit))
    (fun w hw => hw) fun is w i w' _ ih hstep => ?_
  obtain ⟨-, -, rfl⟩ := stepFn_eq hstep
  rw [List.foldl_append, ← ih]
  rfl

/-- The host service of a run of the process is in a run of its own. -/
theorem service_hosting {neverQuit : Bool} {is : List Input}
    (h : (service neverQuit).Reaches is w) (hfree : w.context.freed = false) :
    hosting.Reaches (hostTrace (start neverQuit) is) w.upnp.hostService := by
  refine service_invariant (P := fun is w =>
    hosting.Reaches (hostTrace (start neverQuit) is) w.upnp.hostService) h hfree (.init rfl)
    fun is w i hr hdoes ih => ?_
  have hfreed := hdoes.freed
  have hhosts := exec_hosts (service_ok hr hfreed) hdoes.enabled (service_registryOk hr hfreed)
    (service_holdersOk hr hfreed) hdoes.last hdoes.fault
  rw [hostTrace_snoc, ← service_foldl hr]
  cases hinput : i.hostInput? w with
  | none =>
      rw [hinput] at hhosts
      rw [Option.toList_none, List.append_nil, show _ = _ from hhosts]
      exact ih
  | some j =>
      rw [hinput] at hhosts
      exact ih.step hhosts

/-! ## Requests that are carried out -/

/-- In the step a request of the type is handed over for the device, and is
carried out: its task becomes `t'`. -/
structure Carries (w : World) (i : Input) (w' : World) (type : TaskType) (d : Nat)
    (t' : ClientTask) : Prop where
  step : stepFn w i = some w'
  request : ∃ id a env t, i = .processIdle id a.queueId env ∧
    ((w.queue? a.queueId).bind fun q => q.tasks.head?) = some a ∧
    w.tasks a = some (.client t) ∧ t.type = type ∧ w.device? t = some d ∧
    w'.tasks a = some (.client t')

/-- The request is carried out on the device, by a task without an error so far. -/
theorem Carries.exec {type : TaskType} (command : Environment → Nat → TaskAtom → World → World)
    (h : ServiceOk handled w) (hh : HoldersOk w) (hc : Carries w i w' type d t')
    (hasync : type.isAsync = true)
    (hcommand : ∀ env a w t, w.tasks a = some (.client t) → t.type = type →
      prvProcessAsyncTask env a w = withServer (command env) a (w.markCancellable a)) :
    ∃ env a t w₁, i.hostInput? w = w.hostRequest? env t ∧ w' = command env d a w₁ ∧
      w₁.tasks a = some (.client t) ∧ t.type = type ∧ t.error = none ∧ w.device? t = some d ∧
      w₁.preferredIf d = w.preferredIf d ∧ w₁.upnp = w.upnp ∧
      w'.tasks a = some (.client t') := by
  obtain ⟨id, a, env, t, rfl, hhead, ht, htype, hd, ht'⟩ := hc.request
  obtain ⟨henabled, -, rfl⟩ := stepFn_eq hc.step
  have hidle : (id, a.queueId) ∈ w.loop.processIdles := by simp_all [Input.enabled]
  obtain ⟨q, b, rest, hq, rfl, hne, hcons, -, heq⟩ :=
    prvTaskQueueProcessTask_dispatch env h.processor hidle
  obtain rfl : b = a := by simpa [hq, hcons] using hhead
  have hfresh := (h.processor.queues _ q hq).fresh b (hcons ▸ List.mem_cons_self)
  have hcs : q.callbacks = .client :=
    (h.processor.queues _ q hq).takesRequests (hcons ▸ List.mem_cons_self) ht
  rw [hcs] at hfresh heq
  have hnone : t.cancellable = none := by simpa [TaskCallbacks.Fresh, ht] using hfresh
  have hsync : t.synchronous = false := by
    have hsuits := (h.outer.requests b t ht).1
    simpa [htype, hasync] using hsuits
  let t₁ : ClientTask := { t with cancellable := some {} }
  let w₀ := (w.sourceRemoveProcess q.idleId).dispatchTask b.queueId b rest
  let w₁ := w₀.setTask b (some (.client t₁))
  have ht₀ : w₀.tasks b = some (.client t) := ht
  have hmark : w₀.markCancellable b = w₁ := modifyClient_eq ht₀ _
  have hprocess : RendererService.exec w (.processIdle q.idleId b.queueId env) =
      command env d b w₁ := by
    have hcall : prvProcessTask env b w₀ = prvProcessAsyncTask env b w₀ := by
      simp [prvProcessTask, World.withClient, ht₀, hsync]
    have hexec : RendererService.exec w (.processIdle q.idleId b.queueId env) =
        prvProcessTask env b w₀ := heq
    rw [hexec, hcall, hcommand env b w₀ t ht₀ htype, hmark]
    exact withServer_some (tasks_setTask _ _ _) hd
  refine ⟨env, b, t₁, w₁, ?_, hprocess, tasks_setTask _ _ _, htype,
    (hh.clients.unbegun b t ht hnone).2.2, hd, rfl, rfl, ht'⟩
  have hnext : w.nextRequest b.queueId = some t := by
    simp only [World.nextRequest, hq, Option.bind_some, hcons, List.head?_cons, ht]
  simp only [Input.hostInput?, hnext, Option.bind_some]
  rfl

/-- A request that is carried out for a device finds a context. -/
theorem withContext_fault {f : DeviceContext → World} (hfault : (w.withContext d f).fault = none) :
    ∃ deviceIf, w.preferredIf d = some deviceIf := by
  rcases withContext_cases w d with ⟨g, -, hcrash⟩ | ⟨dev, context, hdev, hcontext⟩
  · rw [hcrash] at hfault
    unfold World.crash at hfault
    simp at hfault
  · exact ⟨context.ipAddress, by simp [World.preferredIf, hdev, hcontext]⟩

theorem completeWith_host_record {t : ClientTask} (ht : w.tasks a = some (.client t))
    {g : ClientTask → ClientTask} {h : HostService} :
    (completeWith a g (w.setHostService h)).tasks a = some (.client (g t)) :=
  completeWith_record (w := w.setHostService h) ht g

theorem Carries.hosted (h : ServiceOk handled w) (hh : HoldersOk w)
    (hc : Carries w i w' (.hostUri f c) d t') :
    ∃ env deviceIf result, w.preferredIf d = some deviceIf ∧
      i.hostInput? w = some (.add env deviceIf c f) ∧
      rsuHostServiceAdd env deviceIf c f w.upnp.hostService = (result, w'.upnp.hostService) ∧
      (∀ url, result = .ok url → t'.error = none ∧ t'.result = some (.url url)) ∧
      ∀ error, result = .error error → t'.error = some error := by
  obtain ⟨env, a, t, w₁, hinput, rfl, ht, htype, herror, hd, hpreferred, hupnp, ht'⟩ :=
    hc.exec (fun env => rsuDeviceHostUri env f c) h hh rfl
      fun env a w t ht htype => by
        simp only [prvProcessAsyncTask, World.withClient, ht, htype]
        rfl
  obtain ⟨-, hfault, hexec⟩ := stepFn_eq hc.step
  rw [← hexec] at hfault
  obtain ⟨deviceIf, hdeviceIf⟩ := withContext_fault hfault
  rw [rsuDeviceHostUri_eq env f c hdeviceIf] at ht' ⊢
  rw [completeWith_host_record ht] at ht'
  obtain rfl := Task.client.inj (Option.some.inj ht')
  rw [hpreferred] at hdeviceIf
  refine ⟨env.host, deviceIf, (rsuHostServiceAdd env.host deviceIf c f w₁.upnp.hostService).1,
    hdeviceIf, ?_, ?_, fun url hurl => ?_, fun error hfail => ?_⟩
  · rw [hinput]
    simp only [World.hostRequest?, hd, htype, Option.bind_some, hdeviceIf]
  · rw [upnp_completeWith, ← hupnp]
    rfl
  · rw [hurl]
    exact ⟨herror, rfl⟩
  · rw [hfail]
    rfl

/-- A RemoveFile comes to a removal for the preferred interface. -/
theorem Carries.unhosted (h : ServiceOk handled w) (hh : HoldersOk w)
    (hc : Carries w i w' (.removeUri f c) d t') :
    ∃ deviceIf, w.preferredIf d = some deviceIf ∧
      i.hostInput? w = some (.remove deviceIf c f) ∧
      w'.upnp.hostService = (rsuHostServiceRemove deviceIf c f w.upnp.hostService).2 ∧
      (t'.error = none ↔ (rsuHostServiceRemove deviceIf c f w.upnp.hostService).1 = true) := by
  obtain ⟨env, a, t, w₁, hinput, rfl, ht, htype, herror, hd, hpreferred, hupnp, ht'⟩ :=
    hc.exec (fun _ => rsuDeviceRemoveUri f c) h hh rfl
      fun env a w t ht htype => by
        simp only [prvProcessAsyncTask, World.withClient, ht, htype]
        rfl
  obtain ⟨-, hfault, hexec⟩ := stepFn_eq hc.step
  rw [← hexec] at hfault
  obtain ⟨deviceIf, hdeviceIf⟩ := withContext_fault hfault
  rw [rsuDeviceRemoveUri_eq f c hdeviceIf] at ht' ⊢
  rw [completeWith_host_record ht] at ht'
  obtain rfl := Task.client.inj (Option.some.inj ht')
  rw [hpreferred] at hdeviceIf
  refine ⟨deviceIf, hdeviceIf, ?_, ?_, ?_⟩
  · rw [hinput]
    simp only [World.hostRequest?, hd, htype, Option.bind_some, hdeviceIf]
  · rw [upnp_completeWith, ← hupnp]
    rfl
  · rw [hupnp]
    unfold ClientTask.unhosted
    split
    next hremoved => exact ⟨fun _ => hremoved, fun _ => herror⟩
    next hremoved => exact ⟨fun hnone => by simp at hnone, fun htrue => absurd htrue hremoved⟩

/-! ## Hostings over a run -/

/-- The step is not the end of the hosting: a RemoveFile of its client for its
file, for a device that then prefers its interface, or the end of the client. -/
def Spares (x : Hosting) (w : World) (i : Input) : Prop :=
  ∀ j, i.hostInput? w = some j → j.ends x = false

section Runs

variable {neverQuit : Bool} {is : List Input} {w₀ w₁ w₂ w₃ : World} {i₀ i₂ : Input}
  {t₁ t₃ : ClientTask} {deviceIf url : String} {x : Hosting}

theorem service_hostsAt (hr : (service neverQuit).Reaches is w)
    (hat : w.upnp.hostService.HostsAt x url)
    (hs : ((service neverQuit).restrict (Spares x)).Steps w w') (hfree : w'.context.freed = false) :
    w'.upnp.hostService.HostsAt x url ∧ ∃ js, (service neverQuit).Reaches js w' := by
  induction hs with
  | refl => exact ⟨hat, is, hr⟩
  | @tail w₁ w₂ _ hstep ih =>
      obtain ⟨i, hspares, hi⟩ := hstep
      obtain ⟨henabled, hfault, rfl⟩ := stepFn_eq hi
      have hfreed := enabled_freed henabled
      obtain ⟨hat₁, js, hjs⟩ := ih hfreed
      refine ⟨?_, _, hjs.step hi⟩
      have hlast := ne_contextFree hfree
      have hhosts := exec_hosts (service_ok hjs hfreed) henabled (service_registryOk hjs hfreed)
        (service_holdersOk hjs hfreed) hlast hfault
      cases hinput : i.hostInput? w₁ with
      | none =>
          rw [hinput] at hhosts
          rw [show _ = _ from hhosts]
          exact hat₁
      | some j =>
          rw [hinput] at hhosts
          exact (hosting_step hhosts).hostsAt (hspares j hinput) hat₁

/-- A HostFile that succeeds returns a URL on the preferred interface. -/
theorem Carries.hostsAt (hr : (service neverQuit).Reaches is w₀)
    (hhost : Carries w₀ i₀ w₁ (.hostUri f c) d t₁) (hi : w₀.preferredIf d = some deviceIf)
    (hok : t₁.error = none) :
    ∃ url, t₁.result = some (.url url) ∧ w₁.upnp.hostService.HostsAt ⟨deviceIf, f, c⟩ url := by
  obtain ⟨henabled, -, -⟩ := stepFn_eq hhost.step
  have hfreed := enabled_freed henabled
  obtain ⟨env, deviceIf', result, hi', -, hadd, hurl, hfail⟩ :=
    hhost.hosted (service_ok hr hfreed) (service_holdersOk hr hfreed)
  obtain rfl := Option.some.inj (hi.symm.trans hi')
  cases result with
  | error error => exact absurd (hok.symm.trans (hfail error rfl)) (by simp)
  | ok url => exact ⟨url, (hurl url rfl).2, hostsAt_add hadd⟩

/-- A RemoveFile undoes a HostFile if and only if the device prefers the interface
of the HostFile again, or still. -/
theorem service_removeUndoesHost (hr : (service neverQuit).Reaches is w₀)
    (hhost : Carries w₀ i₀ w₁ (.hostUri f c) d t₁) (hi : w₀.preferredIf d = some deviceIf)
    (hok : t₁.error = none)
    (hs : ((service neverQuit).restrict (Spares ⟨deviceIf, f, c⟩)).Steps w₁ w₂)
    (hremove : Carries w₂ i₂ w₃ (.removeUri f c) d t₃) :
    (t₃.error = none ∧ ⟨deviceIf, f, c⟩ ∉ w₃.upnp.hostService.hostings) ↔
      w₂.preferredIf d = some deviceIf := by
  obtain ⟨url, -, hat⟩ := hhost.hostsAt hr hi hok
  obtain ⟨henabled, -, -⟩ := stepFn_eq hremove.step
  have hfreed := enabled_freed henabled
  obtain ⟨hat₂, js, hjs⟩ := service_hostsAt (hr.step hhost.step) hat hs hfreed
  obtain ⟨deviceIf', hi', -, hhost₃, herror⟩ :=
    hremove.unhosted (service_ok hjs hfreed) (service_holdersOk hjs hfreed)
  have hfiles : w₂.upnp.hostService.FilesOk := hosting_filesOk (service_hosting hjs hfreed)
  rw [herror, HostService.remove_iff, hhost₃, hfiles.hostings_remove, hi', Option.some.injEq]
  constructor
  · rintro ⟨-, hgone⟩
    by_contra hne
    exact hgone ⟨hat₂.hosting, fun heq => hne (by simpa using (congrArg Hosting.deviceIf heq).symm)⟩
  · rintro rfl
    exact ⟨hat₂.hosting, fun hmem => hmem.2 rfl⟩

/-- The URL of a HostFile is served as long as no RemoveFile of the client for the
file goes through the interface of the HostFile, whichever device it is for, and
the client does not go away.  A RemoveFile for any device leaves the client its
hosting if and only if that device prefers another interface then; the URL stays
for another client that hosts the file there too. -/
theorem service_hostingsApart (hr : (service neverQuit).Reaches is w₀)
    (hhost : Carries w₀ i₀ w₁ (.hostUri f c) d t₁) (hi : w₀.preferredIf d = some deviceIf)
    (hok : t₁.error = none) (hurl : t₁.result = some (.url url))
    (hs : ((service neverQuit).restrict (Spares ⟨deviceIf, f, c⟩)).Steps w₁ w₂)
    (hfree : w₂.context.freed = false) :
    w₂.upnp.hostService.HostsAt ⟨deviceIf, f, c⟩ url ∧
    (∀ js, (service neverQuit).Reaches js w₂ → attempts (hostTrace (start neverQuit) js) < 2 ^ 32 →
      ∃ server hf, w₂.upnp.hostService.servers.lookup deviceIf = some server ∧
        url = server.url deviceIf hf ∧ prvHostServerFindFile server hf.path = some (f, hf)) ∧
    ∀ d₁ i₂ w₃ t₃, Carries w₂ i₂ w₃ (.removeUri f c) d₁ t₃ →
      (w₃.upnp.hostService.HostsAt ⟨deviceIf, f, c⟩ url ↔ w₂.preferredIf d₁ ≠ some deviceIf) ∧
      ((∃ c', w₃.upnp.hostService.HostsAt ⟨deviceIf, f, c'⟩ url) ↔
        w₂.preferredIf d₁ ≠ some deviceIf ∨
          ∃ c', c' ≠ c ∧ ⟨deviceIf, f, c'⟩ ∈ w₂.upnp.hostService.hostings) := by
  obtain ⟨url', hurl', hat⟩ := hhost.hostsAt hr hi hok
  obtain rfl : url = url' := by simpa using hurl.symm.trans hurl'
  obtain ⟨hat₂, js, hjs⟩ := service_hostsAt (hr.step hhost.step) hat hs hfree
  refine ⟨hat₂, fun js hjs hn => ?_, fun d₁ i₂ w₃ t₃ hremove => ?_⟩
  · exact hat₂.find (hosting_ok (service_hosting hjs hfree) hn) hn
  · obtain ⟨deviceIf', hi', -, hhost₃, -⟩ :=
      hremove.unhosted (service_ok hjs hfree) (service_holdersOk hjs hfree)
    have hfiles : w₂.upnp.hostService.FilesOk := hosting_filesOk (service_hosting hjs hfree)
    rw [hi', hhost₃, ne_eq, Option.some.injEq]
    exact ⟨hfiles.hostsAt_remove hat₂, hfiles.hostsAt_remove_any hat₂⟩

end Runs

/-! ## Renderers that change, and renderers that share -/

def oneSong : String := "/home/user/a.mp3"

/-- The hand-over of a request, with the task before and after it. -/
def handsOver (w : World) (id : Nat) (a : TaskAtom) (type : TaskType) (d : Nat) :
    Option (ClientTask × World) :=
  (stepFn w (.processIdle id a.queueId {})).bind fun w' =>
    match w.tasks a, w'.tasks a with
    | some (.client t), some (.client t') =>
        if ((w.queue? a.queueId).bind fun q => q.tasks.head?) = some a ∧ t.type = type ∧
            w.device? t = some d then some (t', w') else none
    | _, _ => none

theorem carries_of_handsOver {id : Nat} {type : TaskType}
    (h : handsOver w id a type d = some (t', w')) :
    Carries w (.processIdle id a.queueId {}) w' type d t' := by
  obtain ⟨w₁, hstep, hmatch⟩ := Option.bind_eq_some_iff.mp h
  split at hmatch
  next t t₁ ht ht₁ =>
    split at hmatch
    next hcond =>
      obtain ⟨hhead, htype, hd⟩ := hcond
      obtain ⟨rfl, rfl⟩ := Prod.mk.inj (Option.some.inj hmatch)
      exact ⟨hstep, id, a, {}, t, rfl, hhead, ht, htype, hd, ht₁⟩
    · simp at hmatch
  · simp at hmatch

/-- A step, unless it may end the hosting. -/
def spareStep (x : Hosting) (w : World) (i : Input) : Option World :=
  if (i.hostInput? w).all fun j => !j.ends x then stepFn w i else none

theorem steps_of_spareStep {neverQuit : Bool} {x : Hosting} {is : List Input}
    (h : runFrom (spareStep x) is w = some w') :
    ((service neverQuit).restrict (Spares x)).Steps w w' := by
  refine steps_runFrom (f := spareStep x) (fun w i w' hi => ?_) is h
  unfold spareStep at hi
  split at hi
  next hall =>
    refine ⟨fun j hj => ?_, hi⟩
    rw [hj] at hall
    simpa using hall
  · simp at hi

/-- The client hosts a file on a renderer, and removes it. -/
theorem service_removeUndoesHost_oneInterface :
    ∃ is w₀ i₀ w₁ t₁ w₂ i₂ w₃ t₃, (service true).Reaches is w₀ ∧
      Carries w₀ i₀ w₁ (.hostUri oneSong oneClient.name) 0 t₁ ∧ t₁.error = none ∧
      Carries w₂ i₂ w₃ (.removeUri oneSong oneClient.name) 0 t₃ ∧ t₃.error = none ∧
      ⟨"192.168.1.2", oneSong, oneClient.name⟩ ∉ w₃.upnp.hostService.hostings := by
  obtain ⟨is, w₀, hreaches, hi, hrun⟩ := service_reaches_of_schedule true
    (oneRenderer ++ [.input (.pushHostCall oneClient onePath (.hostFile oneSong))])
    (p := fun w₀ => w₀.preferredIf 0 = some "192.168.1.2" ∧
      ((handsOver w₀ 4 ⟨3, requestKey⟩ (.hostUri oneSong ":1.7") 0).any fun r =>
        r.1.error = none ∧
        ((runFrom (spareStep ⟨"192.168.1.2", oneSong, ":1.7"⟩)
          [.completeIdle ⟨3, requestKey⟩,
            .pushHostCall oneClient onePath (.removeFile oneSong)] r.2).any fun w₂ =>
          w₂.preferredIf 0 = some "192.168.1.2" ∧
            (handsOver w₂ 5 ⟨4, requestKey⟩ (.removeUri oneSong ":1.7") 0).isSome = true) =
              true) = true)
    (by decide +kernel)
  obtain ⟨⟨t₁, w₁⟩, hhost, hrun⟩ := (Option.any_eq_true _ _).mp hrun
  obtain ⟨hok, hrun⟩ := of_decide_eq_true hrun
  obtain ⟨w₂, hbetween, hrun⟩ := (Option.any_eq_true _ _).mp hrun
  obtain ⟨hi', hrun⟩ := of_decide_eq_true hrun
  obtain ⟨⟨t₃, w₃⟩, hremove⟩ := Option.isSome_iff_exists.mp hrun
  have hhost' := carries_of_handsOver hhost
  have hremove' := carries_of_handsOver hremove
  have hundone := (service_removeUndoesHost hreaches hhost' hi hok
    (steps_of_spareStep hbetween) hremove').mpr hi'
  exact ⟨is, w₀, _, w₁, t₁, w₂, _, w₃, t₃, hreaches, hhost', hok, hremove', hundone.1, hundone.2⟩

/-- The client hosts a file on a renderer, which then is also found on the loopback
interface, and asks for the file to be removed. -/
def loopbackAppears : List Input :=
  [.completeIdle ⟨3, requestKey⟩, .available "uuid:r" "127.0.0.1" ⟨true, true, true⟩,
    .pushHostCall oneClient onePath (.removeFile oneSong)]

theorem remove_otherInterface :
    ∃ is w₀ i₀ w₁ t₁ w₂ i₂ w₃ t₃, (service true).Reaches is w₀ ∧
      Carries w₀ i₀ w₁ (.hostUri oneSong oneClient.name) 0 t₁ ∧ t₁.error = none ∧
      ((service true).restrict (Spares ⟨"192.168.1.2", oneSong, oneClient.name⟩)).Steps w₁ w₂ ∧
      Carries w₂ i₂ w₃ (.removeUri oneSong oneClient.name) 0 t₃ ∧ t₃.error ≠ none ∧
      ⟨"192.168.1.2", oneSong, oneClient.name⟩ ∈ w₃.upnp.hostService.hostings := by
  obtain ⟨is, w₀, hreaches, hrun⟩ := service_reaches_of_schedule true
    (oneRenderer ++ [.input (.pushHostCall oneClient onePath (.hostFile oneSong))])
    (p := fun w₀ =>
      ((handsOver w₀ 4 ⟨3, requestKey⟩ (.hostUri oneSong ":1.7") 0).any fun r =>
        r.1.error = none ∧
        ((runFrom (spareStep ⟨"192.168.1.2", oneSong, ":1.7"⟩) loopbackAppears r.2).any fun w₂ =>
          (handsOver w₂ 5 ⟨4, requestKey⟩ (.removeUri oneSong ":1.7") 0).any fun r' =>
            r'.1.error ≠ none ∧
              ((r'.2.upnp.hostService.file? "192.168.1.2" oneSong).any fun hf =>
                ":1.7" ∈ hf.clients) = true) = true) = true)
    (by decide +kernel)
  obtain ⟨⟨t₁, w₁⟩, hhost, hrun⟩ := (Option.any_eq_true _ _).mp hrun
  obtain ⟨hok, hrun⟩ := of_decide_eq_true hrun
  obtain ⟨w₂, hbetween, hrun⟩ := (Option.any_eq_true _ _).mp hrun
  obtain ⟨⟨t₃, w₃⟩, hremove, hrun⟩ := (Option.any_eq_true _ _).mp hrun
  obtain ⟨hfail, hrun⟩ := of_decide_eq_true hrun
  obtain ⟨hf, hfile, hmem⟩ := (Option.any_eq_true _ _).mp hrun
  exact ⟨is, w₀, _, w₁, t₁, w₂, _, w₃, t₃, hreaches, carries_of_handsOver hhost, hok,
    steps_of_spareStep hbetween, carries_of_handsOver hremove, hfail, hf, hfile,
    of_decide_eq_true hmem⟩

def oneUrl : String := "http://192.168.1.2:49152/rendererserviceupnp/0.mp3"

/-- The RemoveFile through the loopback interface leaves the URL. -/
theorem service_hostingsApart_loopback :
    ∃ is w₀ i₀ w₁ t₁ w₂ i₂ w₃ t₃, (service true).Reaches is w₀ ∧
      Carries w₀ i₀ w₁ (.hostUri oneSong oneClient.name) 0 t₁ ∧
      t₁.result = some (.url oneUrl) ∧
      Carries w₂ i₂ w₃ (.removeUri oneSong oneClient.name) 0 t₃ ∧
      w₃.upnp.hostService.HostsAt ⟨"192.168.1.2", oneSong, oneClient.name⟩ oneUrl := by
  obtain ⟨is, w₀, hreaches, hi, hrun⟩ := service_reaches_of_schedule true
    (oneRenderer ++ [.input (.pushHostCall oneClient onePath (.hostFile oneSong))])
    (p := fun w₀ => w₀.preferredIf 0 = some "192.168.1.2" ∧
      ((handsOver w₀ 4 ⟨3, requestKey⟩ (.hostUri oneSong ":1.7") 0).any fun r =>
        r.1.error = none ∧ r.1.result = some (.url oneUrl) ∧
        ((runFrom (spareStep ⟨"192.168.1.2", oneSong, ":1.7"⟩) loopbackAppears r.2).any fun w₂ =>
          w₂.preferredIf 0 = some "127.0.0.1" ∧ w₂.context.freed = false ∧
            (handsOver w₂ 5 ⟨4, requestKey⟩ (.removeUri oneSong ":1.7") 0).isSome = true) =
              true) = true)
    (by decide +kernel)
  obtain ⟨⟨t₁, w₁⟩, hhost, hrun⟩ := (Option.any_eq_true _ _).mp hrun
  obtain ⟨hok, hurl, hrun⟩ := of_decide_eq_true hrun
  obtain ⟨w₂, hbetween, hrun⟩ := (Option.any_eq_true _ _).mp hrun
  obtain ⟨hi', hfree, hrun⟩ := of_decide_eq_true hrun
  obtain ⟨⟨t₃, w₃⟩, hremove⟩ := Option.isSome_iff_exists.mp hrun
  have hhost' := carries_of_handsOver hhost
  have hremove' := carries_of_handsOver hremove
  obtain ⟨-, -, hleft⟩ := service_hostingsApart hreaches hhost' hi hok hurl
    (steps_of_spareStep hbetween) hfree
  refine ⟨is, w₀, _, w₁, t₁, w₂, _, w₃, t₃, hreaches, hhost', hurl, hremove',
    (hleft 0 _ w₃ t₃ hremove').1.mpr ?_⟩
  rw [hi']
  decide

def anotherRenderer : List Choice :=
  [.input (.available "uuid:s" "192.168.1.2" ⟨true, true, true⟩), .processIdle, .reply,
    .processIdle, .processIdle, .finallyIdle]

def anotherPath : String := rsuServerPath ++ "/1"

def anotherKey : TaskQueueKey := ⟨3, ":1.7", anotherPath⟩

/-- The client hosts a file for two renderers on one interface, and removes it for
the first: the URL that it got for the second is not served any more. -/
theorem remove_otherDevice :
    ∃ is w₀ i₀ w₁ t₁ w₂ i₂ w₃ t₃ w₄ i₄ w₅ t₅, (service true).Reaches is w₀ ∧
      Carries w₀ i₀ w₁ (.hostUri oneSong oneClient.name) 0 t₁ ∧
      ((service true).restrict (Spares ⟨"192.168.1.2", oneSong, oneClient.name⟩)).Steps w₁ w₂ ∧
      Carries w₂ i₂ w₃ (.hostUri oneSong oneClient.name) 1 t₃ ∧ t₃.error = none ∧
      t₃.result = some (.url oneUrl) ∧
      ((service true).restrict (Spares ⟨"192.168.1.2", oneSong, oneClient.name⟩)).Steps w₃ w₄ ∧
      Carries w₄ i₄ w₅ (.removeUri oneSong oneClient.name) 0 t₅ ∧
      ∀ x, ¬w₅.upnp.hostService.HostsAt x oneUrl := by
  obtain ⟨is, w₀, hreaches, hrun⟩ := service_reaches_of_schedule true
    (oneRenderer ++ anotherRenderer ++
      [.input (.pushHostCall oneClient onePath (.hostFile oneSong))])
    (p := fun w₀ =>
      ((handsOver w₀ 7 ⟨6, ⟨2, ":1.7", onePath⟩⟩ (.hostUri oneSong ":1.7") 0).any fun r =>
        (runFrom (spareStep ⟨"192.168.1.2", oneSong, ":1.7"⟩)
          [.completeIdle ⟨6, ⟨2, ":1.7", onePath⟩⟩,
            .pushHostCall oneClient anotherPath (.hostFile oneSong)] r.2).any fun w₂ =>
        (handsOver w₂ 8 ⟨7, anotherKey⟩ (.hostUri oneSong ":1.7") 1).any fun r' =>
          r'.1.error = none ∧ r'.1.result = some (.url oneUrl) ∧
          ((runFrom (spareStep ⟨"192.168.1.2", oneSong, ":1.7"⟩)
            [.completeIdle ⟨7, anotherKey⟩,
              .pushHostCall oneClient onePath (.removeFile oneSong)] r'.2).any fun w₄ =>
            (handsOver w₄ 9 ⟨8, ⟨2, ":1.7", onePath⟩⟩ (.removeUri oneSong ":1.7") 0).any fun r'' =>
              r''.2.upnp.hostService.servers.entries.length = 0) = true) = true)
    (by decide +kernel)
  obtain ⟨⟨t₁, w₁⟩, hhost, hrun⟩ := (Option.any_eq_true _ _).mp hrun
  obtain ⟨w₂, hbetween, hrun⟩ := (Option.any_eq_true _ _).mp hrun
  obtain ⟨⟨t₃, w₃⟩, hhost', hrun⟩ := (Option.any_eq_true _ _).mp hrun
  obtain ⟨hok, hurl, hrun⟩ := of_decide_eq_true hrun
  obtain ⟨w₄, hbetween', hrun⟩ := (Option.any_eq_true _ _).mp hrun
  obtain ⟨⟨t₅, w₅⟩, hremove, hempty⟩ := (Option.any_eq_true _ _).mp hrun
  refine ⟨is, w₀, _, w₁, t₁, w₂, _, w₃, t₃, w₄, _, w₅, t₅, hreaches, carries_of_handsOver hhost,
    steps_of_spareStep hbetween, carries_of_handsOver hhost', hok, hurl,
    steps_of_spareStep hbetween', carries_of_handsOver hremove, ?_⟩
  rintro x ⟨server, -, hserver, -⟩
  have hnil := List.length_eq_zero_iff.mp (of_decide_eq_true hempty)
  rw [Assoc.entries_eq_nil_iff.mp hnil] at hserver
  simp at hserver

end RendererService
