import RendererService.Service.Registry

/-!
# The servers that clients see

FoundServer, LostServer and GetServers agree in every run: what GetServers
returns is what was found and not lost.  A device keeps its number, and with it
its path, for itself.
-/

namespace RendererService

open Transition

variable {w w' w'' : World} {handled : Option Nat} {neverQuit : Bool} {is : List Input}

/-! ## Numbers of devices -/

structure Ages (w w' : World) : Prop where
  counter : w.upnp.counter ≤ w'.upnp.counter
  alive : ∀ d, w'.Alive d → w.Alive d ∨ w.upnp.counter ≤ d

namespace Ages

theorem refl : Ages w w := ⟨Nat.le_refl _, fun _ hd => .inl hd⟩

theorem trans (h : Ages w w') (h' : Ages w' w'') : Ages w w'' := by
  refine ⟨Nat.le_trans h.counter h'.counter, fun d hd => ?_⟩
  rcases h'.alive d hd with hd | hle
  · exact h.alive d hd
  · exact .inr (Nat.le_trans h.counter hle)

theorem of_calm (h : Calm w w') : Ages w w' :=
  ⟨Nat.le_of_eq h.counter.symm, fun d hd => .inl ((h.alive d).mp hd)⟩

theorem of_same (hcounter : w'.upnp.counter = w.upnp.counter) (hdevices : w'.devices = w.devices) :
    Ages w w' := by
  refine ⟨Nat.le_of_eq hcounter.symm, fun d hd => .inl ?_⟩
  unfold World.Alive World.path at hd ⊢
  rwa [hdevices] at hd

theorem delete (d : Nat) (w : World) : Ages w (rsuDeviceDelete d w) := by
  have hupnp := (offstage_rsuDeviceDelete d w).upnp
  refine ⟨by rw [hupnp], fun e he => .inl ?_⟩
  cases hp : w.path d with
  | none =>
      have hnone : w.devices d = none := by simpa [World.path] using hp
      have hcrash : rsuDeviceDelete d w = w.crash (.deadDevice d) := by
        simp only [rsuDeviceDelete, World.withDevice, hnone]
      rwa [hcrash] at he
  | some p =>
      have hd : w.Alive d := by simp [World.Alive, hp]
      unfold World.Alive at he
      rw [path_rsuDeviceDelete hd] at he
      split at he
      · simp at he
      · exact he

theorem withDevice {d : Nat} {f : Device → World}
    (hf : ∀ dev, w.devices d = some dev → Ages w (f dev)) : Ages w (w.withDevice d f) := by
  unfold World.withDevice
  split
  · exact hf _ ‹_›
  · exact .of_calm (unseen_crash _).toCalm

theorem construct (udn ipAddress : String) (offered : DeviceServices) (h : ServiceOk handled w) :
    Ages w (prvServerConstruct udn ipAddress offered w) := by
  rw [prvServerConstruct_eq udn ipAddress offered h.outer.keys.newKey]
  refine ⟨Nat.le_succ _, fun d hd => ?_⟩
  have hd' : (w.openConstruction udn ipAddress offered).Alive d := hd
  unfold World.Alive at hd'
  rw [path_openConstruction] at hd'
  split at hd'
  next hnew => exact .inr (Nat.le_of_eq hnew.symm)
  · exact .inl hd'

theorem available (udn ipAddress : String) (offered : DeviceServices) (h : ServiceOk handled w) :
    Ages w (prvServerAvailableCb udn ipAddress offered w) := by
  cases arrival udn ipAddress offered w with
  | unknown _ heq =>
      rw [heq]
      exact .construct udn ipAddress offered h
  | dangling _ _ heq =>
      rw [heq]
      exact .of_calm (unseen_crash _).toCalm
  | present _ _ _ heq =>
      rw [heq]
      exact .refl
  | extended _ hdev _ heq =>
      rw [heq]
      exact .of_calm (unseen_appendContext hdev ipAddress offered).toCalm

theorem lost (udn : String) (d : Nat) (p : String) (h : ServiceOk handled w) :
    Ages w (prvServerLost udn d p none w) := by
  have hok : ServiceOk handled (w.emit (.lostServer p)) := h.backstage (backstage_emit rfl)
  have hrun := unseen_of_run (rsuTaskProcessorRemoveQueuesForSink_run
    (D := serviceSteps (fun _ => True) handled) serviceSteps_cancels p hok fun _ _ _ => trivial) hok
  have hemit : Ages w (w.emit (.lostServer p)) := .of_same rfl rfl
  have hremoved : Ages (w.emit (.lostServer p)) (prvLostMediaServer p w) := .of_calm hrun.toCalm
  have hmap : Ages (prvLostMediaServer p w) ((prvLostMediaServer p w).setUdnMap
      ((prvLostMediaServer p w).upnp.serverUdnMap.erase udn)) := .of_same rfl rfl
  exact hemit.trans (hremoved.trans (hmap.trans (.delete d _)))

theorem unavailable (udn ipAddress : String) (h : ServiceOk handled w) :
    Ages w (prvServerUnavailableCb udn ipAddress w) := by
  cases departure udn ipAddress w with
  | ignored _ heq =>
      rw [heq]
      exact .refl
  | dangling _ _ heq =>
      rw [heq]
      exact .of_calm (unseen_crash _).toCalm
  | @last d uc dev context hdeparting _ heq =>
      rw [heq]
      refine (Ages.of_calm (unseen_departing hdeparting).toCalm).trans ?_
      have hok := h.departing hdeparting
      cases uc with
      | none => exact .lost udn d dev.path hok
      | some ct => exact .of_calm (unseen_cancelQueue ct.queueId hok).toCalm
  | @later d _ _ _ hdeparting _ _ heq =>
      rw [heq]
      exact (Ages.of_calm (unseen_departing hdeparting).toCalm).trans
        (.of_calm (Unseen.of_cosmetic (cosmetic_subscribeLater d)).toCalm)
  | other hdeparting _ _ heq =>
      rw [heq]
      exact .of_calm (unseen_departing hdeparting).toCalm

theorem insert (udn : String) (d : Nat) (w : World) : Ages w (serverUdnMapInsert udn d w) := by
  unfold serverUdnMapInsert
  split
  · have hmap : Ages w (w.setUdnMap (w.upnp.serverUdnMap.insert udn d)) := .of_same rfl rfl
    exact hmap.trans (.delete _ _)
  · exact ⟨Nat.le_refl _, fun _ hd => .inl hd⟩

theorem finallyCb (q : TaskQueue) (w : World) : Ages w (prvTaskQueueFinallyCb q w) := by
  unfold prvTaskQueueFinallyCb
  split
  next ct _ =>
    have hemit : Ages w (w.emit (.chainEnd q.cancelled ct.udn)) := .of_same rfl rfl
    unfold prvDeviceChainEnd
    refine hemit.trans ?_
    dsimp only
    split
    · have hmap : Ages (w.emit (.chainEnd q.cancelled ct.udn))
          ((w.emit (.chainEnd q.cancelled ct.udn)).setUcMap
            ((w.emit (.chainEnd q.cancelled ct.udn)).upnp.serverUcMap.erase ct.udn)) :=
        .of_same rfl rfl
      exact hmap.trans (.delete _ _)
    · refine .withDevice fun dev _ => ?_
      have hinsert := Ages.insert ct.udn ct.device (w.emit (.chainEnd q.cancelled ct.udn))
      exact hinsert.trans (.of_same rfl rfl)
  · exact .of_calm (unseen_crash _).toCalm

end Ages

theorem exec_ages {i : Input} (h : ServiceOk none w) (henabled : i.enabled w = true)
    (hfree : i ≠ .contextFree) : Ages w (exec w i) := by
  by_cases hi : i.isDiscovery = false
  · exact .of_calm (exec_unseen h henabled hi).toCalm
  · cases i with
    | available udn ipAddress offered => exact .available udn ipAddress offered h
    | unavailable udn ipAddress => exact .unavailable udn ipAddress h
    | finallyIdle q =>
        have hidle : Ages w (w.setLoop
            { w.loop with finallyIdles := w.loop.finallyIdles.erase q }) := .of_same rfl rfl
        exact hidle.trans (.finallyCb q _)
    | rehash queues devices => exact ⟨Nat.le_refl _, fun _ hd => .inl hd⟩
    | contextFree => exact absurd rfl hfree
    | _ => exact absurd rfl hi

/-! ## Runs -/

theorem start_registryOk (neverQuit : Bool) : RegistryOk (start neverQuit) := by
  have hudn : ∀ udn, (start neverQuit).upnp.serverUdnMap.lookup udn = none :=
    fun udn => AList.lookup_empty udn
  have huc : ∀ udn, (start neverQuit).upnp.serverUcMap.lookup udn = none :=
    fun udn => AList.lookup_empty udn
  have hqueue : ∀ k, (start neverQuit).queue? k = none := fun k => AList.lookup_empty k
  have hpath : ∀ d, (start neverQuit).path d = none := fun _ => rfl
  refine ⟨⟨?_, ?_, ?_, ?_, ?_, ?_⟩, ⟨?_, ?_, ?_, ?_, ?_, ?_⟩, ⟨⟨?_, ?_, ?_⟩, ?_, ?_, ?_⟩⟩
  · intro d hd
    simp [World.Alive, hpath] at hd
  · intro udn d hd
    simp [hudn] at hd
  · intro udn udn' d hd
    simp [hudn] at hd
  · intro udn ct hct
    simp [huc] at hct
  · intro udn udn' ct ct' hct
    simp [huc] at hct
  · intro udn udn' d ct hd
    simp [hudn] at hd
  · intro udn ct hct
    simp [huc] at hct
  · intro k q hq
    simp [hqueue] at hq
  · intro k q hq
    simp [hqueue] at hq
  · intro q hq
    simp [start] at hq
  · exact List.nodup_nil
  · intro a t ht
    simp [start] at ht
  · exact fun p => Nat.zero_le _
  · exact fun p => Nat.zero_le _
  · exact Log.before_nil
  · intro p
    constructor
    · rintro ⟨hfound, -⟩
      simp [start] at hfound
    · rintro ⟨udn, d, hd, -⟩
      simp [hudn] at hd
  · intro udn ct p hct
    simp [huc] at hct
  · intro p hfound
    simp [start] at hfound

theorem service_registryOk (h : (service neverQuit).Reaches is w)
    (hfree : w.context.freed = false) : RegistryOk w :=
  service_invariant (P := fun _ => RegistryOk) h hfree (start_registryOk neverQuit)
    fun _ _ _ hr hdoes ih =>
      exec_registryOk (service_ok hr hdoes.freed) ih hdoes.enabled hdoes.last

theorem service_announcementsOk (h : (service neverQuit).Reaches is w) :
    AnnouncementsOk w.log := by
  refine h.trace_invariant (P := fun _ w => AnnouncementsOk w.log) (fun w hw => ?_)
    fun is w i w' hr ih hstep => ?_
  · obtain rfl : w = start neverQuit := hw
    exact (start_registryOk neverQuit).announced.announcements
  · obtain ⟨henabled, -, rfl⟩ := stepFn_eq hstep
    have hfreed := enabled_freed henabled
    have hok := service_ok hr hfreed
    by_cases hlast : i = .contextFree
    · subst hlast
      rw [(exec_contextFree hok).2]
      refine ih.quiet fun e he => ?_
      obtain ⟨a, -, hea⟩ := List.mem_flatMap.mp he
      rcases mem_deleteEvents hea with rfl | ⟨n, reply, rfl⟩ <;> rfl
    · exact (exec_registryOk hok (service_registryOk hr hfreed) henabled
        hlast).announced.announcements

theorem steps_ages (h : (service neverQuit).Reaches is w) (hs : (service neverQuit).Steps w w')
    (hfree : w'.context.freed = false) : Ages w w' ∧ ∃ js, (service neverQuit).Reaches js w' := by
  induction hs with
  | refl => exact ⟨.refl, is, h⟩
  | tail hs hstep ih =>
      obtain ⟨i, hi⟩ := hstep
      obtain ⟨henabled, -, rfl⟩ := stepFn_eq hi
      have hfreed := enabled_freed henabled
      obtain ⟨hages, js, hjs⟩ := ih hfreed
      have hnext := exec_ages (service_ok hjs hfreed) henabled (ne_contextFree hfree)
      exact ⟨hages.trans hnext, _, hjs.step hi⟩

/-- The paths that GetServers returns are those of the known renderers. -/
theorem mem_rsuUpnpGetServerIds {p : String} : p ∈ rsuUpnpGetServerIds w ↔
    ∃ udn d, w.upnp.serverUdnMap.lookup udn = some d ∧ w.path d = some p := by
  rw [rsuUpnpGetServerIds, List.mem_filterMap]
  constructor
  · rintro ⟨e, he, hp⟩
    exact ⟨e.1, e.2, Assoc.lookup_of_mem_entries he, hp⟩
  · rintro ⟨udn, d, hd, hp⟩
    exact ⟨⟨udn, d⟩, AList.mem_lookup_iff.mp hd, hp⟩

theorem RegistryOk.serverIds_nodup (h : RegistryOk w) (hdevices : DevicesOk w) :
    (rsuUpnpGetServerIds w).Nodup := by
  have hnodup : w.upnp.serverUdnMap.entries.Nodup :=
    List.Nodup.of_map _ w.upnp.serverUdnMap.nodupKeys
  refine List.pairwise_filterMap.mpr (hnodup.imp_of_mem ?_)
  rintro e e' he he' hne p hp p' hp' rfl
  have hsame : e.2 = e'.2 := devicePath_injective
    ((hdevices.path_eq hp).symm.trans (hdevices.path_eq hp'))
  have hudn := h.maps.udnSingle e.1 e'.1 e.2 (Assoc.lookup_of_mem_entries he)
    (hsame ▸ Assoc.lookup_of_mem_entries he')
  exact hne (Sigma.ext hudn (heq_of_eq hsame))

/-- FoundServer, LostServer and GetServers agree: until the service is torn down,
GetServers returns the paths that were found and not lost, each once; a path is
found at most once, and lost at most once after that; no UDN is in both maps;
and no two devices of a run have the same path, since the number of a device is
not given to another one. -/
theorem service_servers (h : (service neverQuit).Reaches is w) :
    (w.context.freed = false →
      (rsuUpnpGetServerIds w).Nodup ∧
      (∀ p, p ∈ rsuUpnpGetServerIds w ↔ .foundServer p ∈ w.log ∧ .lostServer p ∉ w.log) ∧
      (∀ udn d, w.upnp.serverUdnMap.lookup udn = some d →
        w.upnp.serverUcMap.lookup udn = none)) ∧
    (∀ p, w.log.count (.foundServer p) ≤ 1 ∧ w.log.count (.lostServer p) ≤ 1) ∧
    Log.Before (fun past e => ∀ p, e = .lostServer p → .foundServer p ∈ past) w.log ∧
    ∀ w', (service neverQuit).Steps w w' → w'.context.freed = false →
      (∀ d d' p, w.path d = some p → w'.path d' = some p → d = d') ∧
      ∀ d < w.upnp.counter, w.path d = none → w'.path d = none := by
  have hannounced := service_announcementsOk h
  refine ⟨fun hfree => ?_, fun p => ⟨hannounced.foundOnce p, hannounced.lostOnce p⟩,
    hannounced.ordered, fun w' hs hfree' => ?_⟩
  · have hregistry := service_registryOk h hfree
    refine ⟨hregistry.serverIds_nodup (service_ok h hfree).outer.devices, fun p => ?_,
      fun udn d hd => ?_⟩
    · rw [mem_rsuUpnpGetServerIds]
      exact (hregistry.announced.known p).symm
    · by_contra hne
      obtain ⟨ct, hct⟩ := Option.ne_none_iff_exists'.mp hne
      exact (hregistry.maps.apart udn udn d ct hd hct).1 rfl
  · obtain ⟨hages, js, hjs⟩ := steps_ages h hs hfree'
    have hfree : w.context.freed = false := by
      rcases hs.cases_head with rfl | ⟨_, ⟨i, hi⟩, -⟩
      · exact hfree'
      · exact enabled_freed (stepFn_eq hi).1
    refine ⟨fun d d' p hp hp' => devicePath_injective
      (((service_ok h hfree).outer.devices.path_eq hp).symm.trans
        ((service_ok hjs hfree').outer.devices.path_eq hp')), fun d hd hnone => ?_⟩
    by_contra hne
    have halive : w'.Alive d := Option.isSome_iff_ne_none.mpr hne
    rcases hages.alive d halive with hold | hle
    · rw [World.Alive, hnone] at hold
      simp at hold
    · omega

/-- A renderer that has been found and lost is no longer returned. -/
theorem service_servers_lostRenderer :
    ∃ is w, (service true).Reaches is w ∧ .foundServer onePath ∈ w.log ∧
      .lostServer onePath ∈ w.log ∧ onePath ∉ rsuUpnpGetServerIds w := by
  obtain ⟨is, w, hreaches, hfree, hfound, hlost⟩ := service_reaches_of_schedule true
    (oneRenderer ++ [.input (.unavailable "uuid:r" "192.168.1.2")])
    (p := fun w => w.context.freed = false ∧ .foundServer onePath ∈ w.log ∧
      .lostServer onePath ∈ w.log) (by decide +kernel)
  exact ⟨is, w, hreaches, hfound, hlost, fun hmem =>
    ((((service_servers hreaches).1 hfree).2.1 onePath).mp hmem).2 hlost⟩

end RendererService
