import RendererService.Lib.Roster
import RendererService.Service.Servers
import RendererService.Service.Connections
import RendererService.Service.Incidental

/-!
# The addresses of a renderer

A device carries one context for each address its renderer is reached at.  A device that
is known always has one, since a construction whose device has lost its last context was
cancelled, and stays so up to the idle that ends it.
-/

namespace RendererService

variable {w w' : World} {handled : Option Nat} {d : Nat} {udn ipAddress : String}
  {ct : DeviceNewCt}

namespace World

def addresses (w : World) (d : Nat) : List String :=
  ((w.devices d).map fun dev => dev.contexts.map DeviceContext.ipAddress).getD []

/-- The construction was cancelled and no step of it is left but the current one. -/
def Abandoned (w : World) (ct : DeviceNewCt) : Prop :=
  (∃ q, w.queue? ct.queueId = some q ∧ q.callbacks = .service ∧ q.finallyCb = true ∧
    q.userData = some ct ∧ q.cancelled = true ∧ q.tasks = []) ∨
  ∃ q ∈ w.loop.finallyIdles, q.userData = some ct ∧ q.cancelled = true

end World

theorem addresses_of_device {dev : Device} (hdev : w.devices d = some dev) :
    w.addresses d = dev.contexts.map DeviceContext.ipAddress := by
  rw [World.addresses, hdev]
  rfl

theorem addresses_core (w : World) (d : Nat) : w.addresses d =
    ((w.core d).map fun c => c.contexts.map ContextCore.ipAddress).getD [] := by
  unfold World.addresses World.core
  cases w.devices d with
  | none => rfl
  | some dev => simp [Device.core, DeviceContext.core, Function.comp_def]

theorem addresses_of_core (h : ∀ d, w'.core d = w.core d) (d : Nat) :
    w'.addresses d = w.addresses d := by
  rw [addresses_core, addresses_core, h]

/-! ## What is not about discovery -/

/-- A queue keeps its entry, or goes to the idle that frees it, and stays abandoned. -/
theorem World.Abandoned.of_modify {k : TaskQueueKey} {f : TaskQueue → TaskQueue}
    (h : w.Abandoned ct) (hidles : w'.loop.finallyIdles = w.loop.finallyIdles)
    (hlookup : ∀ k₀, w'.queue? k₀ = if k₀ = k then (w.queue? k).map f else w.queue? k₀)
    (hf : ∀ q, w.queue? k = some q → q.callbacks = .service → q.tasks = [] →
      q.cancelled = true → (f q).callbacks = .service ∧ (f q).finallyCb = q.finallyCb ∧
        (f q).userData = q.userData ∧ (f q).cancelled = true ∧ (f q).tasks = []) :
    w'.Abandoned ct := by
  rcases h with ⟨q, hq, hcs, hfinally, hdata, hcancelled, htasks⟩ | ⟨q, hmem, hrest⟩
  · refine .inl ?_
    rw [hlookup]
    split
    next hk =>
      subst hk
      obtain ⟨hcs', hfinally', hdata', hcancelled', htasks'⟩ := hf q hq hcs htasks hcancelled
      exact ⟨f q, by rw [hq]; rfl, hcs', hfinally'.trans hfinally, hdata'.trans hdata,
        hcancelled', htasks'⟩
    · exact ⟨q, hq, hcs, hfinally, hdata, hcancelled, htasks⟩
  · exact .inr ⟨q, hidles ▸ hmem, hrest⟩

theorem World.Abandoned.congr (h : w.Abandoned ct)
    (hidles : w'.loop.finallyIdles = w.loop.finallyIdles)
    (hqueue : ∀ k, w'.queue? k = w.queue? k) : w'.Abandoned ct := by
  unfold World.Abandoned
  rw [hqueue, hidles]
  exact h

/-- No step of the processor takes a construction up again that was cancelled. -/
theorem Step.abandoned {act : Act} {E : World → World → Prop} {mine : TaskQueueKey → Prop}
    (hok : ProcessorOk w) (hstep : Step E w act w') (hact : act ≠ .elsewhere)
    (hwithin : act.Within mine) (h : w.Abandoned ct) : w'.Abandoned ct := by
  cases hstep with
  | @addQueue source sink flags callbacks _ =>
      rcases h with ⟨q, hq, hrest⟩ | hidle
      · have hlookup : (w.addQueue source sink flags callbacks).queue? ct.queueId =
            if ct.queueId = ⟨w.processor.nextKey, source, sink⟩ then
              some { callbacks := callbacks, flags := flags } else w.queue? ct.queueId :=
          Assoc.lookup_insert_eq _ _ _ _
        have hne : ct.queueId ≠ ⟨w.processor.nextKey, source, sink⟩ := fun heq =>
          Nat.lt_irrefl _ (heq ▸ (hok.queues _ q hq).key :
            (⟨w.processor.nextKey, source, sink⟩ : TaskQueueKey).id < w.processor.nextKey)
        exact .inl ⟨q, by rw [hlookup, if_neg hne, hq], hrest⟩
      · exact .inr hidle
  | @addTask k q task hq hfresh =>
      refine h.of_modify rfl (fun k₀ => queue?_pushTask w k k₀ task) fun q' hq' hcs _ _ => ?_
      obtain ⟨-, t, rfl⟩ := hwithin
      obtain rfl := Option.some.inj (hq.symm.trans hq')
      rw [hcs] at hfresh
      obtain ⟨t', ht'⟩ := TaskCallbacks.live_service hfresh.live
      simp at ht'
  | arm _ _ _ _ =>
      refine h.of_modify rfl (fun k₀ => queue?_modifyQueue _ _ k₀ _) fun q' hq' hcs hempty hc => ?_
      exact ⟨hcs, rfl, rfl, hc, hempty⟩
  | @dispatch k q a rest hq _ htasks =>
      refine h.of_modify (w := w) rfl (fun k₀ => queue?_dispatchTask _ k k₀ a rest)
        fun q' hq' _ hempty _ => ?_
      obtain rfl := Option.some.inj (hq.symm.trans hq')
      rw [hempty] at htasks
      simp at htasks
  | configure _ _ => exact hwithin.elim
  | defer _ _ _ _ =>
      exact h.of_modify rfl (fun k₀ => queue?_modifyQueue w _ k₀ _)
        fun q' _ hcs hempty hc => ⟨hcs, rfl, rfl, hc, hempty⟩
  | @clear k q _ =>
      exact h.of_modify rfl (fun k₀ => queue?_clearQueue w k k₀ q)
        fun q' _ hcs _ _ => ⟨hcs, rfl, rfl, rfl, rfl⟩
  | @complete a _ =>
      exact h.of_modify (finallyIdles_completeTask w _ a)
        (fun k₀ => queue?_completeTask w a.queueId k₀ a)
        fun q' _ hcs hempty hc => ⟨hcs, rfl, rfl, hc, hempty⟩
  | @remove k q hq _ _ _ =>
      rcases h with ⟨q', hq', hcs, hfinally, hdata, hcancelled, htasks⟩ | ⟨q', hmem, hrest⟩
      · by_cases hk : ct.queueId = k
        · subst hk
          obtain rfl := Option.some.inj (hq.symm.trans hq')
          refine .inr ⟨{ q with tasks := [] }, ?_, hdata, hcancelled⟩
          simp only [World.dropQueue, hfinally, if_true]
          exact List.mem_append_right _ List.mem_cons_self
        · refine .inl ⟨q', ?_, hcs, hfinally, hdata, hcancelled, htasks⟩
          rw [queue?_dropQueue, if_neg hk, hq']
      · refine .inr ⟨q', ?_, hrest⟩
        unfold World.dropQueue
        dsimp only
        split
        · exact List.mem_append_left _ hmem
        · exact hmem
  | cancelling _ | quitting _ | quitNow _ => exact h.congr rfl fun _ => rfl
  | @rehash t ht => exact h.congr rfl fun k => AList.perm_lookup ht
  | elsewhere _ => exact absurd rfl hact

/-- The devices keep their addresses, the maps their entries, and what was cancelled stays
so. -/
structure AddressesStay (w w' : World) : Prop where
  core : ∀ d, w'.core d = w.core d
  upnp : w'.upnp.unhosted = w.upnp.unhosted
  abandoned : ∀ ct, w.Abandoned ct → w'.Abandoned ct

theorem AddressesStay.trans {w'' : World} (h : AddressesStay w w') (h' : AddressesStay w' w'') :
    AddressesStay w w'' :=
  ⟨fun d => (h'.core d).trans (h.core d), h'.upnp.trans h.upnp,
    fun ct hct => h'.abandoned ct (h.abandoned ct hct)⟩

theorem addressesStay_incidental : Incidental AddressesStay := by
  refine .of_steps (fun w => ⟨fun _ => rfl, rfl, fun _ h => h⟩) .trans ?_ ?_ ?_
  · intro handled mine E act w w' hs hstep hact hwithin
    have hfoot := hstep.footprint hs.processor hact
    refine ⟨fun d => ?_, by rw [hfoot.upnp],
      fun ct h => hstep.abandoned hs.processor hact hwithin h⟩
    rw [World.core, hfoot.devices]
    rfl
  · intro w w' h
    exact ⟨h.core, h.upnp, fun ct hct => hct.congr h.finallyIdles h.queue?⟩
  · intro w w' h
    refine ⟨fun d => ?_, h.upnp, fun ct hct => hct.congr h.finallyIdles fun k => ?_⟩
    · rw [World.core, h.devices]
      rfl
    · show w'.processor.taskQueues.lookup k = _
      rw [h.processor]

/-! ## The roster of the service -/

/-- The renderers that are known or under construction, with their addresses. -/
def World.roster (w : World) : Roster String String := fun udn =>
  (w.upnp.find udn).map fun found =>
    { confirmed := found.2.isNone, addresses := w.addresses found.1 }

/-- What an input does to the roster: a renderer is announced or withdrawn at an address,
and its trial is its construction. -/
def Input.enroll : Input → Roster String String → Roster String String
  | .available udn ipAddress _ => Roster.announce udn ipAddress
  | .unavailable udn ipAddress => Roster.withdraw udn ipAddress
  | .finallyIdle q =>
      match q.userData with
      | some ct => if q.cancelled then Roster.discard ct.udn else Roster.confirm ct.udn
      | none => id
  | _ => id

theorem roster_of_find {uc : Option DeviceNewCt} (hfind : w.upnp.find udn = some (d, uc)) :
    w.roster udn = some { confirmed := uc.isNone, addresses := w.addresses d } := by
  rw [World.roster, hfind]
  rfl

theorem roster_of_none (hfind : w.upnp.find udn = none) : w.roster udn = none := by
  rw [World.roster, hfind]
  rfl

theorem find_congr {u u' : Upnp}
    (hudn : u'.serverUdnMap.lookup udn = u.serverUdnMap.lookup udn)
    (huc : u'.serverUcMap.lookup udn = u.serverUcMap.lookup udn) : u'.find udn = u.find udn := by
  rw [Upnp.find, Upnp.find, hudn, huc]

theorem find_unhosted {u u' : Upnp} (h : u'.unhosted = u.unhosted) (udn : String) :
    u'.find udn = u.find udn := by
  have hudn := congrArg Upnp.serverUdnMap h
  have huc := congrArg Upnp.serverUcMap h
  exact find_congr (congrArg (·.lookup udn) hudn) (congrArg (·.lookup udn) huc)

theorem roster_congr (hfind : ∀ u, w'.upnp.find u = w.upnp.find u)
    (haddresses : ∀ d, w'.addresses d = w.addresses d) : w'.roster = w.roster := by
  funext u
  rw [World.roster, World.roster, hfind]
  congr 1
  funext found
  rw [haddresses]

theorem AddressesStay.roster (h : AddressesStay w w') : w'.roster = w.roster :=
  roster_congr (find_unhosted h.upnp) (addresses_of_core h.core)

theorem roster_put {e : Option (Roster.Entry String)} (hself : w'.roster udn = e)
    (hfind : ∀ u, u ≠ udn → w'.upnp.find u = w.upnp.find u)
    (haddresses : ∀ u d uc, u ≠ udn → w.upnp.find u = some (d, uc) →
      w'.addresses d = w.addresses d) : w'.roster = w.roster.put udn e := by
  funext u
  rw [Roster.put_apply]
  split
  next hu => rw [hu, hself]
  next hu =>
    rw [World.roster, World.roster, hfind u hu]
    cases hfound : w.upnp.find u with
    | none => rfl
    | some found => simp only [Option.map_some, haddresses u found.1 found.2 hu hfound]

/-! ### The two maps -/

theorem find_of_known (h : w.upnp.serverUdnMap.lookup udn = some d) :
    w.upnp.find udn = some (d, none) := by
  rw [Upnp.find, h]

theorem MapsOk.udn_none (hmaps : MapsOk w) (h : w.Constructs ct) :
    w.upnp.serverUdnMap.lookup ct.udn = none := by
  by_contra hne
  obtain ⟨d, hd⟩ := Option.ne_none_iff_exists'.mp hne
  exact (hmaps.apart _ _ _ _ hd h).1 rfl

theorem MapsOk.find_of_constructs (hmaps : MapsOk w) (h : w.Constructs ct) :
    w.upnp.find ct.udn = some (ct.device, some ct) := by
  have huc : w.upnp.serverUcMap.lookup ct.udn = some ct := h
  simp only [Upnp.find, hmaps.udn_none h, huc, Option.map_some]

theorem MapsOk.uc_none (hmaps : MapsOk w) (h : w.upnp.serverUdnMap.lookup udn = some d) :
    w.upnp.serverUcMap.lookup udn = none := by
  by_contra hne
  obtain ⟨ct, hct⟩ := Option.ne_none_iff_exists'.mp hne
  exact (hmaps.apart _ _ _ _ h hct).1 rfl

theorem MapsOk.find_unique (hmaps : MapsOk w) {u : String} {uc uc' : Option DeviceNewCt}
    (h : w.upnp.find udn = some (d, uc)) (h' : w.upnp.find u = some (d, uc')) : u = udn := by
  rcases find_some h with ⟨hd, -⟩ | ⟨ct, hct, rfl, -⟩ <;>
    rcases find_some h' with ⟨hd', -⟩ | ⟨ct', hct', heq, -⟩
  · exact hmaps.udnSingle u udn d hd' hd
  · exact absurd heq.symm (hmaps.apart udn u d ct' hd hct').2
  · exact absurd rfl (hmaps.apart u udn ct.device ct hd' hct).2
  · exact hmaps.ucSingle u udn ct' ct hct' hct heq

/-! ### Devices -/

theorem Gains.addresses {c : DeviceCore} {x : ContextCore} (h : Gains d c x w w') (e : Nat) :
    w'.addresses e = if e = d then c.contexts.map ContextCore.ipAddress ++ [x.ipAddress]
      else w.addresses e := by
  rw [addresses_core, h.core]
  split
  · simp
  · rw [addresses_core]

theorem addresses_rsuDeviceDelete (d : Nat) (w : World) (e : Nat) :
    (rsuDeviceDelete d w).addresses e = if e = d then [] else w.addresses e := by
  cases hd : w.core d with
  | none =>
      have hnone : w.devices d = none := by simpa [World.core] using hd
      have hcrash : rsuDeviceDelete d w = w.crash (.deadDevice d) := by
        simp only [rsuDeviceDelete, World.withDevice, hnone]
      rw [hcrash]
      split
      next he =>
        show w.addresses e = []
        rw [he, World.addresses, hnone]
        rfl
      · rfl
  | some c =>
      rw [addresses_core, (frees_rsuDeviceDelete hd).2]
      split
      · rfl
      · rw [addresses_core]

theorem addresses_removeContext {dev : Device} (hdev : w.devices d = some dev)
    (context : DeviceContext) (ipAddress : String) (e : Nat) :
    (w.removeContext d dev context ipAddress).addresses e =
      if e = d then (w.addresses d).erase ipAddress else w.addresses e := by
  rw [addresses_core, World.removeContext, (frees_removeContext d dev context _).2]
  split
  · rw [addresses_of_device hdev, List.erase_eq_eraseP, List.eraseP_map]
    simp only [Option.map_some, Option.getD_some, List.map_map]
    have hsame : (fun context : DeviceContext => decide (context.ipAddress = ipAddress)) =
        (ipAddress == ·) ∘ DeviceContext.ipAddress := by
      funext x
      rw [Bool.eq_iff_iff, decide_eq_true_iff, Function.comp_apply, beq_iff_eq, eq_comm]
    rw [hsame]
    rfl
  · rw [addresses_core]

end RendererService
