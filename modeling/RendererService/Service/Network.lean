import RendererService.Service.Enrolment
import RendererService.Service.Preferred
import RendererService.Service.Outstanding

/-!
# The registry follows the network

The registry holds the renderers that the network has announced and not withdrawn, each
with its addresses.  The one exception is a construction that was cancelled: the idle that
ends it forgets its renderer, even if that can be reached at the time.
-/

namespace RendererService

open Transition

variable {w w' : World} {d : Nat} {udn : String} {ct : DeviceNewCt} {q : TaskQueue}

/-- What an input tells about the network: where each renderer is reached. -/
def Input.seen : Input → Set (String × String) → Set (String × String)
  | .available udn ipAddress _ => fun s => insert (udn, ipAddress) s
  | .unavailable udn ipAddress => fun s => s \ {(udn, ipAddress)}
  | _ => id

/-- The addresses that renderers were announced at and not withdrawn from. -/
def network (is : List Input) : Set (String × String) := is.foldl (fun s i => i.seen s) ∅

/-- A construction that was cancelled ends while its renderer can be reached. -/
def Input.forgets (w : World) : Input → Bool
  | .finallyIdle q => q.cancelled && q.userData.any fun ct => w.addresses ct.device ≠ []
  | _ => false

theorem network_snoc (is : List Input) (i : Input) :
    network (is ++ [i]) = i.seen (network is) := by
  simp [network]

/-! ## One step -/

/-- A construction that goes on to its end has a renderer that can be reached. -/
theorem AbandonedOk.declared (ha : AbandonedOk w) (hr : RegistryOk w)
    (hmem : q ∈ w.loop.finallyIdles) (hdata : q.userData = some ct) (hct : w.Constructs ct)
    (hnone : w.queue? ct.queueId = none) (hkept : q.cancelled = false) :
    w.addresses ct.device ≠ [] := by
  intro hempty
  rcases ha ct hct hempty with ⟨q', hq', -⟩ | ⟨q', hmem', hdata', hcancelled⟩
  · exact absurd (hnone.symm.trans hq') (by simp)
  · have hsame : q' = q := List.inj_on_of_nodup_map hr.constructions.idlesNodup hmem' hmem
      (hdata'.trans hdata.symm)
    rw [hsame, hkept] at hcancelled
    exact absurd hcancelled Bool.false_ne_true

theorem exec_distinct {i : Input} (h : ServiceOk none w) (hr : RegistryOk w)
    (henabled : i.enabled w = true) (hfree : i ≠ .contextFree) (hdistinct : w.roster.Distinct) :
    (exec w i).roster.Distinct := by
  rw [exec_roster h hr henabled hfree]
  cases i with
  | available udn ipAddress offered => exact hdistinct.announce _ _
  | unavailable udn ipAddress => exact hdistinct.withdraw _ _
  | finallyIdle q =>
      simp only [Input.enroll]
      cases q.userData with
      | none => exact hdistinct
      | some ct =>
          dsimp only
          split
          · exact hdistinct.discard _
          · exact hdistinct.confirm _
  | _ => exact hdistinct

theorem exec_located {i : Input} (ha : AbandonedOk w) (h : ServiceOk none w) (hr : RegistryOk w)
    (henabled : i.enabled w = true) (hfree : i ≠ .contextFree) (hlocated : w.roster.Located) :
    (exec w i).roster.Located := by
  rw [exec_roster h hr henabled hfree]
  cases i with
  | available udn ipAddress offered => exact hlocated.announce _ _
  | unavailable udn ipAddress => exact hlocated.withdraw _ _
  | finallyIdle q =>
      have hmem : q ∈ w.loop.finallyIdles := by simp_all [Input.enabled]
      obtain ⟨ct, hdata, hct, hnone, -⟩ := hr.constructions.idles q hmem
      simp only [Input.enroll, hdata]
      split
      · exact hlocated.discard _
      next hkept =>
        refine hlocated.confirm fun e he => ?_
        rw [roster_of_find (hr.maps.find_of_constructs hct)] at he
        obtain rfl := Option.some.inj he
        exact ha.declared hr hmem hdata hct hnone (Bool.eq_false_of_not_eq_true hkept)
  | _ => exact hlocated

/-- A step does what the network says if and only if it does not forget a renderer. -/
theorem exec_contacts {i : Input} (h : ServiceOk none w) (hr : RegistryOk w)
    (henabled : i.enabled w = true) (hfree : i ≠ .contextFree) (hdistinct : w.roster.Distinct) :
    (exec w i).roster.contacts = i.seen w.roster.contacts ↔ i.forgets w = false := by
  rw [exec_roster h hr henabled hfree]
  cases i with
  | available udn ipAddress offered => exact iff_of_true (Roster.contacts_announce _ _ _) rfl
  | unavailable udn ipAddress => exact iff_of_true (Roster.contacts_withdraw hdistinct _ _) rfl
  | finallyIdle q =>
      have hmem : q ∈ w.loop.finallyIdles := by simp_all [Input.enabled]
      obtain ⟨ct, hdata, hct, -⟩ := hr.constructions.idles q hmem
      have hroster := roster_of_find (hr.maps.find_of_constructs hct)
      have hcontacts : ∀ a, (ct.udn, a) ∈ w.roster.contacts ↔ a ∈ w.addresses ct.device := by
        intro a
        rw [Roster.mem_contacts, hroster]
        simp
      simp only [Input.enroll, Input.seen, Input.forgets, hdata, id]
      cases q.cancelled with
      | false => exact iff_of_true (Roster.contacts_confirm _ _) rfl
      | true =>
          rw [if_pos rfl, Roster.contacts_discard_eq_iff]
          simp only [hcontacts, Option.any_some, Bool.true_and, decide_eq_false_iff_not, not_not]
          exact List.eq_nil_iff_forall_not_mem.symm
  | _ => exact iff_of_true rfl rfl

/-! ## Runs -/

section Runs

variable {neverQuit : Bool} {is : List Input}

structure EnrolledOk (is : List Input) (w : World) : Prop where
  roster : w.roster = is.foldl (fun r i => i.enroll r) Roster.empty
  distinct : w.roster.Distinct
  located : w.roster.Located
  abandoned : AbandonedOk w

theorem start_enrolledOk (neverQuit : Bool) : EnrolledOk [] (start neverQuit) := by
  have hempty : (start neverQuit).roster = Roster.empty := funext fun _ => rfl
  refine ⟨hempty, hempty ▸ Roster.distinct_empty, hempty ▸ Roster.located_empty, fun ct hct => ?_⟩
  have hnone : (start neverQuit).upnp.serverUcMap.lookup ct.udn = none := AList.lookup_empty _
  exact absurd (hnone.symm.trans hct) (by simp)

theorem service_enrolledOk (h : (service neverQuit).Reaches is w)
    (hfree : w.context.freed = false) : EnrolledOk is w := by
  refine service_invariant (P := EnrolledOk) h hfree (start_enrolledOk neverQuit)
    fun is w i hr ⟨henabled, hfault, hlast⟩ ih => ?_
  have hfreed := enabled_freed henabled
  have hok := service_ok hr hfreed
  have hregistry := service_registryOk hr hfreed
  obtain ⟨hroster, hdistinct, hlocated, habandoned⟩ := ih
  refine ⟨?_, exec_distinct hok hregistry henabled hlast hdistinct,
    exec_located habandoned hok hregistry henabled hlast hlocated,
    exec_abandonedOk habandoned hok hregistry henabled hlast hfault⟩
  rw [exec_roster hok hregistry henabled hlast, hroster, List.foldl_append]
  rfl

/-- The two maps and the contexts of the devices are, in every run, what the roster makes of
the inputs: announcements and withdrawals change the addresses of one renderer, the end of a
construction confirms it or discards it, and no other input matters. -/
theorem service_roster (h : (service neverQuit).Reaches is w) (hfree : w.context.freed = false) :
    w.roster = is.foldl (fun r i => i.enroll r) Roster.empty :=
  (service_enrolledOk h hfree).roster

def twoAddresses : List Choice :=
  oneRenderer ++ [.input (.available "uuid:r" "10.0.0.2" ⟨true, true, true⟩)]

theorem service_roster_twoAddresses :
    ∃ is w, (service true).Reaches is w ∧ w.upnp.serverUdnMap.lookup "uuid:r" = some 0 ∧
      w.addresses 0 = ["192.168.1.2", "10.0.0.2"] ∧
      w.roster = is.foldl (fun r i => i.enroll r) Roster.empty := by
  obtain ⟨is, w, hr, hfree, hlookup, haddresses⟩ := service_reaches_of_schedule true twoAddresses
    (p := fun w => w.context.freed = false ∧ w.upnp.serverUdnMap.lookup "uuid:r" = some 0 ∧
      w.addresses 0 = ["192.168.1.2", "10.0.0.2"]) (by decide +kernel)
  exact ⟨is, w, hr, hlookup, haddresses, service_roster hr hfree⟩

/-- While the registry has what the network has, the next step keeps it so if and only if it
does not forget a renderer. -/
theorem contacts_next {i : Input} (h : (service neverQuit).Reaches is w)
    (hcontacts : w.roster.contacts = network is) (hdoes : Performs w i) :
    (exec w i).roster.contacts = network (is ++ [i]) ↔ i.forgets w = false := by
  have hfree := hdoes.freed
  rw [network_snoc, ← hcontacts]
  exact exec_contacts (service_ok h hfree) (service_registryOk h hfree) hdoes.enabled hdoes.last
    (service_enrolledOk h hfree).distinct

theorem service_contacts
    (h : ((service neverQuit).restrict fun w i => i.forgets w = false).Reaches is w)
    (hfree : w.context.freed = false) : w.roster.contacts = network is := by
  refine service_restrict_invariant (P := fun is w => w.roster.contacts = network is) h hfree ?_
    fun is w i hr hdoes hkeeps hcontacts => (contacts_next hr hcontacts hdoes).mpr hkeeps
  rw [(start_enrolledOk neverQuit).roster]
  exact Roster.contacts_empty

/-- In every run that forgets no renderer the registry has what the network has, and the next
step keeps it so if and only if it forgets none. -/
theorem service_followsNetwork
    (h : ((service neverQuit).restrict fun w i => i.forgets w = false).Reaches is w)
    (hfree : w.context.freed = false) :
    w.roster.contacts = network is ∧ ∀ i w', stepFn w i = some w' → i ≠ .contextFree →
      (w'.roster.contacts = network (is ++ [i]) ↔ i.forgets w = false) := by
  have hcontacts := service_contacts h hfree
  refine ⟨hcontacts, fun i w' hstep hlast => ?_⟩
  obtain ⟨hdoes, rfl⟩ := Performs.of_stepFn hstep hlast
  exact contacts_next h.of_restrict hcontacts hdoes

/-- A renderer that is announced, withdrawn and announced again before its construction is
over. -/
def announcedAgain : List Choice :=
  [.input oneAvailable, .input (.unavailable "uuid:r" "192.168.1.2"), .input oneAvailable]

/-- The idle that ends its construction forgets it. -/
theorem service_followsNetwork_announcedAgain :
    ∃ is w i w', ((service true).restrict fun w i => i.forgets w = false).Reaches is w ∧
      ("uuid:r", "192.168.1.2") ∈ network is ∧ w.roster.contacts = network is ∧
      stepFn w i = some w' ∧ w'.roster.contacts ≠ network (is ++ [i]) := by
  obtain ⟨is, w, hr, hfree, hfind, haddresses, hsome⟩ := service_reaches_of_guarded true
    (C := fun w i => i.forgets w = false) announcedAgain
    (p := fun w => w.context.freed = false ∧ (w.upnp.find "uuid:r").map Prod.fst = some 0 ∧
      w.addresses 0 = ["192.168.1.2"] ∧
      ((Choice.finallyIdle w).any fun i => (stepFn w i).isSome && i.forgets w) = true)
    (by decide +kernel)
  obtain ⟨i, -, hi⟩ := (Option.any_eq_true _ _).mp hsome
  obtain ⟨hstep, hforgets⟩ := Bool.and_eq_true_iff.mp hi
  have hlast : i ≠ .contextFree := by
    rintro rfl
    exact Bool.false_ne_true hforgets
  obtain ⟨w', hst⟩ := Option.isSome_iff_exists.mp hstep
  obtain ⟨hcontacts, hnext⟩ := service_followsNetwork hr hfree
  obtain ⟨⟨d, uc⟩, hfound, rfl⟩ := Option.map_eq_some_iff.mp hfind
  refine ⟨is, w, i, w', hr, ?_, hcontacts, hst, fun heq => ?_⟩
  · rw [← hcontacts, Roster.mem_contacts, roster_of_find hfound]
    exact ⟨_, rfl, haddresses ▸ List.mem_singleton_self _⟩
  · rw [(hnext i w' hst hlast).mp heq] at hforgets
    exact absurd hforgets Bool.false_ne_true

/-- In every run a renderer that is known has a context to be called through, a renderer that
has none is one whose construction was cancelled and is about to end, and no renderer has an
address twice. -/
theorem service_located (h : (service neverQuit).Reaches is w) (hfree : w.context.freed = false) :
    (∀ udn d, w.upnp.serverUdnMap.lookup udn = some d →
      ∃ dev context, w.devices d = some dev ∧ rsuDeviceGetContext dev = some context) ∧
    (∀ ct, w.Constructs ct → w.addresses ct.device = [] → w.Abandoned ct) ∧
    ∀ udn d uc, w.upnp.find udn = some (d, uc) → (w.addresses d).Nodup := by
  obtain ⟨-, hdistinct, hlocated, habandoned⟩ := service_enrolledOk h hfree
  have hmaps := (service_registryOk h hfree).maps
  refine ⟨fun udn d hd => ?_, habandoned, fun udn d uc hfind =>
    hdistinct udn _ (roster_of_find hfind)⟩
  have hsome := hlocated udn _ (roster_of_find (find_of_known hd)) rfl
  obtain ⟨dev, hdev⟩ := hmaps.find_device (find_of_known hd)
  obtain ⟨context, hmem⟩ : ∃ context, context ∈ dev.contexts := by
    refine List.exists_mem_of_ne_nil _ fun hnil => hsome ?_
    show w.addresses d = []
    rw [addresses_of_device hdev, hnil]
    rfl
  obtain ⟨preferred, hpreferred⟩ := Option.isSome_iff_exists.mp (rsuDeviceGetContext_isSome hmem)
  exact ⟨dev, preferred, hdev, hpreferred⟩

/-- The renderer of two addresses loses the first one. -/
theorem service_located_oneLost :
    ∃ is w, (service true).Reaches is w ∧ w.upnp.serverUdnMap.lookup "uuid:r" = some 0 ∧
      w.addresses 0 = ["10.0.0.2"] ∧ (∃ dev context, w.devices 0 = some dev ∧
        rsuDeviceGetContext dev = some context) := by
  obtain ⟨is, w, hr, hfree, hlookup, haddresses⟩ := service_reaches_of_schedule true
    (twoAddresses ++ [.input (.unavailable "uuid:r" "192.168.1.2")])
    (p := fun w => w.context.freed = false ∧ w.upnp.serverUdnMap.lookup "uuid:r" = some 0 ∧
      w.addresses 0 = ["10.0.0.2"]) (by decide +kernel)
  exact ⟨is, w, hr, hlookup, haddresses, (service_located hr hfree).1 _ _ hlookup⟩

/-- When no construction is left, the renderers that are known are those of the contacts. -/
theorem known_of_contacts {contacts : Set (String × String)} (hlocated : w.roster.Located)
    (hcontacts : w.roster.contacts = contacts)
    (hnone : ∀ udn, w.upnp.serverUcMap.lookup udn = none) :
    (∀ udn, (∃ d, w.upnp.serverUdnMap.lookup udn = some d) ↔
      ∃ ipAddress, (udn, ipAddress) ∈ contacts) ∧
    ∀ udn ipAddress, (udn, ipAddress) ∈ contacts ↔
      ∃ d, w.upnp.serverUdnMap.lookup udn = some d ∧ ipAddress ∈ w.addresses d := by
  subst hcontacts
  have haddresses : ∀ udn ipAddress, (udn, ipAddress) ∈ w.roster.contacts ↔
      ∃ d, w.upnp.serverUdnMap.lookup udn = some d ∧ ipAddress ∈ w.addresses d := by
    intro udn ipAddress
    rw [Roster.mem_contacts]
    cases hd : w.upnp.serverUdnMap.lookup udn with
    | none =>
        have hfind : w.upnp.find udn = none := by
          rw [Upnp.find, hd, hnone]
          rfl
        simp [roster_of_none hfind]
    | some d => simp [roster_of_find (find_of_known hd)]
  refine ⟨fun udn => ⟨?_, ?_⟩, haddresses⟩
  · rintro ⟨d, hd⟩
    have hsome := hlocated udn _ (roster_of_find (find_of_known hd)) rfl
    obtain ⟨ipAddress, hmem⟩ := List.exists_mem_of_ne_nil _ hsome
    exact ⟨ipAddress, (haddresses udn ipAddress).mpr ⟨d, hd, hmem⟩⟩
  · rintro ⟨ipAddress, hmem⟩
    obtain ⟨d, hd, -⟩ := (haddresses udn ipAddress).mp hmem
    exact ⟨d, hd⟩

/-- When nothing is pending any more, after a run that has stranded no task and forgotten no
renderer, the service knows a renderer if and only if it is on the network, at exactly the
addresses it has there, and GetServers returns the paths of just these renderers. -/
theorem service_showsNetwork
    (h : ((service neverQuit).restrict
      fun w i => i.stalls w = false ∧ i.forgets w = false).Reaches is w)
    (hfree : w.context.freed = false) (hquit : w.processor.quitting = false)
    (hrest : w.AtRest) :
    (∀ udn, (∃ d, w.upnp.serverUdnMap.lookup udn = some d) ↔
      ∃ ipAddress, (udn, ipAddress) ∈ network is) ∧
    (∀ udn ipAddress, (udn, ipAddress) ∈ network is ↔
      ∃ d, w.upnp.serverUdnMap.lookup udn = some d ∧ ipAddress ∈ w.addresses d) ∧
    ∀ p, p ∈ rsuUpnpGetServerIds w ↔ ∃ udn ipAddress d, (udn, ipAddress) ∈ network is ∧
      w.upnp.serverUdnMap.lookup udn = some d ∧ w.path d = some p := by
  have hcontacts := service_contacts (h.restrict_mono fun _ _ hC => hC.2) hfree
  have hadv := service_advancing (h.restrict_mono fun _ _ hC => hC.1) hfree
  have hnone := unconstructed_of_rest (service_pendingOk h.of_restrict hfree) hadv hrest hquit
  obtain ⟨hknown, haddresses⟩ :=
    known_of_contacts (service_enrolledOk h.of_restrict hfree).located hcontacts hnone
  refine ⟨hknown, haddresses, fun p => mem_rsuUpnpGetServerIds.trans ⟨?_, ?_⟩⟩
  · rintro ⟨udn, d, hd, hp⟩
    obtain ⟨ipAddress, hmem⟩ := (hknown udn).mp ⟨d, hd⟩
    exact ⟨udn, ipAddress, d, hmem, hd, hp⟩
  · rintro ⟨udn, -, d, -, hd, hp⟩
    exact ⟨udn, d, hd, hp⟩

/-- A renderer comes, is constructed, and gets a second address. -/
theorem service_showsNetwork_twoAddresses :
    ∃ is w, ((service true).restrict
        fun w i => i.stalls w = false ∧ i.forgets w = false).Reaches is w ∧
      ("uuid:r", "10.0.0.2") ∈ network is ∧ onePath ∈ rsuUpnpGetServerIds w := by
  obtain ⟨is, w, hr, hfree, hquit, hlookup, haddresses, hpath, hactions, hprocess, hcomplete,
      hfinally⟩ :=
    service_reaches_of_guarded true
      (C := fun w i => i.stalls w = false ∧ i.forgets w = false) twoAddresses
      (p := fun w => w.context.freed = false ∧ w.processor.quitting = false ∧
        w.upnp.serverUdnMap.lookup "uuid:r" = some 0 ∧
        w.addresses 0 = ["192.168.1.2", "10.0.0.2"] ∧ w.path 0 = some onePath ∧
        w.gupnp.actions.length = 0 ∧ w.loop.processIdles.length = 0 ∧
        w.loop.completeIdles.length = 0 ∧ w.loop.finallyIdles.length = 0) (by decide +kernel)
  have hrest : w.AtRest := ⟨List.length_eq_zero_iff.mp hactions,
    List.length_eq_zero_iff.mp hprocess, List.length_eq_zero_iff.mp hcomplete,
    List.length_eq_zero_iff.mp hfinally⟩
  obtain ⟨-, hknown, hservers⟩ := service_showsNetwork hr hfree hquit hrest
  have hmem : ("uuid:r", "10.0.0.2") ∈ network is :=
    (hknown _ _).mpr ⟨0, hlookup, by rw [haddresses]; simp⟩
  exact ⟨is, w, hr, hmem, (hservers _).mpr ⟨_, _, 0, hmem, hlookup, hpath⟩⟩

/-! ### Queues that have run dry -/

/-- No queue has a running or a waiting task. -/
def World.Drained (w : World) : Prop :=
  ∀ k q, w.queue? k = some q → q.currentTask = none ∧ q.tasks = []

/-- A construction's queue that has run dry has gone, unless the service is quitting. -/
theorem client_of_drained (h : (service neverQuit).Reaches is w)
    (hfree : w.context.freed = false) (hquit : w.processor.quitting = false) (hdrained : w.Drained)
    {k : TaskQueueKey} (hq : w.queue? k = some q) : q.callbacks = .client := by
  obtain ⟨hnone, htasks⟩ := hdrained k q hq
  rcases (service_resumes h hfree k q hq).waiting hnone hquit with hidle | ⟨hcs, -⟩
  · have hwaiting := (((service_ok h hfree).processor.queues k q hq).idle hidle).2.1
    exact absurd htasks hwaiting
  · exact hcs

/-- In every run that forgets no renderer each known renderer has a context, and whenever no
queue has a task, no construction is about to end and the service is not quitting, the known
renderers are those that were announced and not withdrawn, each with a context for each of its
addresses. -/
theorem service_tracksNetwork
    (h : ((service neverQuit).restrict fun w i => i.forgets w = false).Reaches is w)
    (hfree : w.context.freed = false) :
    (∀ udn d, w.upnp.serverUdnMap.lookup udn = some d →
      ∃ dev, w.devices d = some dev ∧ dev.contexts ≠ []) ∧
    (w.Drained → w.loop.finallyIdles = [] → w.processor.quitting = false →
      (∀ udn, (∃ d, w.upnp.serverUdnMap.lookup udn = some d) ↔
        ∃ ipAddress, (udn, ipAddress) ∈ network is) ∧
      ∀ udn d, w.upnp.serverUdnMap.lookup udn = some d → (w.addresses d).Nodup ∧
        ∀ ipAddress, ipAddress ∈ w.addresses d ↔ (udn, ipAddress) ∈ network is) := by
  obtain ⟨-, hdistinct, hlocated, -⟩ := service_enrolledOk h.of_restrict hfree
  have hregistry := service_registryOk h.of_restrict hfree
  refine ⟨fun udn d hd => ?_, fun hdrained hidles hquit => ?_⟩
  · have hsome := hlocated udn _ (roster_of_find (find_of_known hd)) rfl
    obtain ⟨dev, hdev⟩ := hregistry.maps.find_device (find_of_known hd)
    refine ⟨dev, hdev, fun hnil => hsome ?_⟩
    show w.addresses d = []
    rw [addresses_of_device hdev, hnil]
    rfl
  · have hnone := hregistry.constructions.over
      (fun _ _ hq => client_of_drained h.of_restrict hfree hquit hdrained hq) hidles
    obtain ⟨hknown, haddresses⟩ := known_of_contacts hlocated (service_contacts h hfree) hnone
    refine ⟨hknown, fun udn d hd => ⟨hdistinct udn _ (roster_of_find (find_of_known hd)), ?_⟩⟩
    intro ipAddress
    rw [haddresses]
    constructor
    · exact fun hmem => ⟨d, hd, hmem⟩
    · rintro ⟨d', hd', hmem⟩
      obtain rfl := Option.some.inj (hd.symm.trans hd')
      exact hmem

theorem drained_of_empty (h : w.processor.taskQueues.keys = []) : w.Drained := by
  intro k q hq
  have hmem : k ∈ w.processor.taskQueues.keys :=
    AList.mem_keys.mp (AList.lookup_isSome.mp (Option.isSome_of_mem hq))
  rw [h] at hmem
  exact absurd hmem List.not_mem_nil

/-- The renderer of two addresses, when its construction is over. -/
theorem service_tracksNetwork_twoAddresses :
    ∃ is w d, ((service true).restrict fun w i => i.forgets w = false).Reaches is w ∧
      w.upnp.serverUdnMap.lookup "uuid:r" = some d ∧ ("uuid:r", "10.0.0.2") ∈ network is := by
  obtain ⟨is, w, hr, hfree, hlookup, haddresses, hempty, hidles, hquit⟩ :=
    service_reaches_of_guarded true (C := fun w i => i.forgets w = false) twoAddresses
      (p := fun w => w.context.freed = false ∧ w.upnp.serverUdnMap.lookup "uuid:r" = some 0 ∧
        w.addresses 0 = ["192.168.1.2", "10.0.0.2"] ∧ w.processor.taskQueues.keys.length = 0 ∧
        w.loop.finallyIdles.length = 0 ∧ w.processor.quitting = false) (by decide +kernel)
  obtain ⟨-, hall⟩ := (service_tracksNetwork hr hfree).2
    (drained_of_empty (List.length_eq_zero_iff.mp hempty)) (List.length_eq_zero_iff.mp hidles) hquit
  exact ⟨is, w, 0, hr, hlookup, ((hall _ 0 hlookup).2 _).mp (by rw [haddresses]; simp)⟩

/-- The renderer that was announced again is forgotten: it is on the network, nothing is pending,
and the service does not know it. -/
theorem renderer_forgotten : ∃ q w, (service true).Reaches [oneAvailable,
      .unavailable "uuid:r" "192.168.1.2", oneAvailable, .finallyIdle q] w ∧
    w.processor.quitting = false ∧ w.Drained ∧ w.loop.processIdles = [] ∧
    w.loop.completeIdles = [] ∧ w.loop.finallyIdles = [] ∧
    ("uuid:r", "192.168.1.2") ∈ network [oneAvailable, .unavailable "uuid:r" "192.168.1.2",
      oneAvailable, .finallyIdle q] ∧ w.upnp.serverUdnMap.lookup "uuid:r" = none := by
  have hends : ((runFrom stepFn [oneAvailable, .unavailable "uuid:r" "192.168.1.2", oneAvailable]
      (start true)).any fun w => w.loop.finallyIdles.head?.any fun q =>
        (stepFn w (.finallyIdle q)).any fun w' => w'.processor.quitting = false ∧
          w'.processor.taskQueues.keys.length = 0 ∧ w'.loop.processIdles.length = 0 ∧
          w'.loop.completeIdles.length = 0 ∧ w'.loop.finallyIdles.length = 0 ∧
          w'.upnp.serverUdnMap.lookup "uuid:r" = none) = true := by decide +kernel
  obtain ⟨w, hrun, hsome⟩ := (Option.any_eq_true _ _).mp hends
  obtain ⟨q, -, hq⟩ := (Option.any_eq_true _ _).mp hsome
  obtain ⟨w', hst, hw'⟩ := (Option.any_eq_true _ _).mp hq
  obtain ⟨hquit, hempty, hprocess, hcomplete, hfinally, hunknown⟩ := of_decide_eq_true hw'
  exact ⟨q, w', (reaches_of_run hrun).step hst, hquit,
    drained_of_empty (List.length_eq_zero_iff.mp hempty), List.length_eq_zero_iff.mp hprocess,
    List.length_eq_zero_iff.mp hcomplete, List.length_eq_zero_iff.mp hfinally,
    Set.mem_insert _ _, hunknown⟩

end Runs

end RendererService
