import RendererService.Service.Addresses

/-!
# Enrolment

What discovery does to the two maps and to the contexts of devices is what the roster
says: an input changes the entry of one renderer.  A construction whose device has lost
its last context is abandoned until it ends.
-/

namespace RendererService

open Transition

variable {w w' : World} {handled : Option Nat} {d : Nat} {udn : String} {ct : DeviceNewCt}
  {q : TaskQueue}

/-- Every construction whose device has no context is abandoned. -/
def AbandonedOk (w : World) : Prop :=
  ∀ ct, w.Constructs ct → w.addresses ct.device = [] → w.Abandoned ct

theorem constructs_unhosted (h : w'.upnp.unhosted = w.upnp.unhosted) :
    w'.Constructs ct ↔ w.Constructs ct := by
  have huc := congrArg Upnp.serverUcMap h
  exact Eq.congr (congrArg (·.lookup ct.udn) huc) rfl

theorem AbandonedOk.stay (h : AbandonedOk w) (hstay : AddressesStay w w') : AbandonedOk w' := by
  intro ct hct hnone
  rw [constructs_unhosted hstay.upnp] at hct
  rw [addresses_of_core hstay.core] at hnone
  exact hstay.abandoned ct (h ct hct hnone)

theorem addressesStay_of_cosmetic (h : Cosmetic w w') : AddressesStay w w' :=
  addressesStay_incidental.cosmetic h

theorem World.Abandoned.offstage (h : w.Abandoned ct) (hoff : Offstage w w') : w'.Abandoned ct := by
  refine h.congr hoff.finallyIdles fun k => ?_
  show w'.processor.taskQueues.lookup k = _
  rw [hoff.processor]

/-! ## A renderer appears -/

theorem construct_effect (udn ipAddress : String) (offered : DeviceServices)
    (h : ServiceOk handled w) :
    (∀ e, (prvServerConstruct udn ipAddress offered w).addresses e =
      if e = w.upnp.counter then [ipAddress] else w.addresses e) ∧
    (prvServerConstruct udn ipAddress offered w).upnp.serverUdnMap = w.upnp.serverUdnMap ∧
    (prvServerConstruct udn ipAddress offered w).upnp.serverUcMap =
      w.upnp.serverUcMap.insert udn (w.newCt udn) ∧
    ∀ ct, w.Abandoned ct → (prvServerConstruct udn ipAddress offered w).Abandoned ct := by
  have hopen := gains_openConstruction (w := w) udn ipAddress offered
  have haddresses : ∀ e, (w.openConstruction udn ipAddress offered).addresses e =
      if e = w.upnp.counter then [ipAddress] else w.addresses e := fun e => by
    rw [hopen.addresses]
    split
    · rfl
    next hne =>
      have hblank : (w.blankConstruction udn).devices e = w.devices e := if_neg hne
      rw [World.addresses, hblank]
      rfl
  obtain ⟨tasks, id, hqueue⟩ := queueConstruction_queue?
    (w := w.openConstruction udn ipAddress offered) (k := w.newKey)
    (q := constructionQueue (w.newCt udn)) (by rw [queue?_openConstruction, if_pos rfl])
    w.upnp.counter (gupnpDeviceInfoGetServices w.gupnp.nextContext offered).cmProxy
  rw [prvServerConstruct_eq udn ipAddress offered h.outer.keys.newKey]
  refine ⟨haddresses, rfl, rfl, fun ct hct => ?_⟩
  rcases hct with ⟨q, hq, hrest⟩ | ⟨q, hmem, hrest⟩
  · have hne : ct.queueId ≠ w.newKey := fun heq =>
      Nat.lt_irrefl _ (heq ▸ (h.processor.queues _ q hq).key : w.newKey.id < w.processor.nextKey)
    refine .inl ⟨q, (hqueue ct.queueId).trans ?_, hrest⟩
    rw [if_neg hne, queue?_openConstruction, if_neg hne, hq]
  · have hidles : (w.openConstruction udn ipAddress offered).loop.finallyIdles =
        w.loop.finallyIdles := hopen.finallyIdles
    exact .inr ⟨q, (show q ∈ (w.openConstruction udn ipAddress offered).loop.finallyIdles from
      hidles ▸ hmem), hrest⟩

theorem roster_prvServerConstruct {ipAddress : String} {offered : DeviceServices}
    (h : ServiceOk handled w) (hr : RegistryOk w) (hfind : w.upnp.find udn = none) :
    (prvServerConstruct udn ipAddress offered w).roster =
      w.roster.put udn (some { addresses := [ipAddress] }) := by
  obtain ⟨haddresses, hudn, huc, -⟩ := construct_effect udn ipAddress offered h
  have hnone : w.upnp.serverUdnMap.lookup udn = none := by
    by_contra hne
    obtain ⟨d, hd⟩ := Option.ne_none_iff_exists'.mp hne
    exact absurd (hfind.symm.trans (find_of_known hd)) (by simp)
  refine roster_put ?_ (fun u hu => ?_) fun u e uc _ hfound => ?_
  · have hfound : (prvServerConstruct udn ipAddress offered w).upnp.find udn =
        some (w.upnp.counter, some (w.newCt udn)) := by
      rw [Upnp.find, hudn, hnone, huc, Assoc.lookup_insert_eq, if_pos rfl]
      rfl
    rw [roster_of_find hfound, haddresses, if_pos rfl]
    rfl
  · exact find_congr (by rw [hudn]) (by rw [huc, Assoc.lookup_insert_eq, if_neg hu])
  · obtain ⟨dev, hdev⟩ := hr.maps.find_device hfound
    have hlt : e < w.upnp.counter := hr.maps.bound e (alive_of_device hdev)
    rw [haddresses, if_neg (Nat.ne_of_lt hlt)]

theorem extend_effect {dev : Device} (hdev : w.devices d = some dev) (ipAddress : String)
    (offered : DeviceServices) :
    (∀ e, (rsuDeviceAppendNewContext d ipAddress offered w).addresses e =
      if e = d then w.addresses d ++ [ipAddress] else w.addresses e) ∧
    Offstage w (rsuDeviceAppendNewContext d ipAddress offered w) := by
  have hcore : w.core d = some dev.core := core_of_device hdev
  have hgains := gains_rsuDeviceAppendNewContext ipAddress offered hcore
  refine ⟨fun e => ?_, hgains.toOffstage⟩
  rw [hgains.addresses, addresses_core w d, hcore]
  rfl

theorem any_ipAddress {dev : Device} (hdev : w.devices d = some dev) (ipAddress : String) :
    (dev.contexts.any fun context => context.ipAddress = ipAddress) = true ↔
      ipAddress ∈ w.addresses d := by
  rw [addresses_of_device hdev, List.any_eq_true, List.mem_map]
  simp

theorem roster_prvServerAvailableCb (udn ipAddress : String) (offered : DeviceServices)
    (h : ServiceOk handled w) (hr : RegistryOk w) :
    (prvServerAvailableCb udn ipAddress offered w).roster = w.roster.announce udn ipAddress := by
  cases arrival udn ipAddress offered w with
  | unknown hfind heq =>
      rw [heq, roster_prvServerConstruct h hr hfind, Roster.announce, roster_of_none hfind]
  | dangling hfind hdev _ =>
      obtain ⟨dev, hdev'⟩ := hr.maps.find_device hfind
      exact absurd (hdev.symm.trans hdev') (by simp)
  | present hfind hdev hpresent heq =>
      rw [heq, Roster.announce, roster_of_find hfind]
      exact (if_pos ((any_ipAddress hdev ipAddress).mp hpresent)).symm
  | extended hfind hdev hnew heq =>
      rw [heq, Roster.announce, roster_of_find hfind]
      obtain ⟨haddresses, hoff⟩ := extend_effect hdev ipAddress offered
      refine Eq.trans (roster_put ?_ (fun u _ => by rw [hoff.upnp]) fun u e uc' hu hfound => ?_)
        (if_neg fun hmem => hnew ((any_ipAddress hdev ipAddress).mpr hmem)).symm
      · rw [roster_of_find (hoff.upnp ▸ hfind), haddresses, if_pos rfl]
      · refine (haddresses e).trans (if_neg ?_)
        rintro rfl
        exact hu (hr.maps.find_unique hfind hfound)

theorem AbandonedOk.construct (udn ipAddress : String) (offered : DeviceServices)
    (ha : AbandonedOk w) (h : ServiceOk handled w) :
    AbandonedOk (prvServerConstruct udn ipAddress offered w) := by
  obtain ⟨haddresses, -, huc, habandoned⟩ := construct_effect udn ipAddress offered h
  intro ct hct hnone
  unfold World.Constructs at hct
  rw [huc, Assoc.lookup_insert_eq] at hct
  rw [haddresses] at hnone
  split at hct
  · obtain rfl := Option.some.inj hct
    rw [if_pos (show (w.newCt udn).device = w.upnp.counter from rfl)] at hnone
    exact absurd hnone (by simp)
  · split at hnone
    · exact absurd hnone (by simp)
    · exact habandoned ct (ha ct hct hnone)

theorem AbandonedOk.available (udn ipAddress : String) (offered : DeviceServices)
    (ha : AbandonedOk w) (h : ServiceOk handled w) (hr : RegistryOk w) :
    AbandonedOk (prvServerAvailableCb udn ipAddress offered w) := by
  cases arrival udn ipAddress offered w with
  | unknown _ heq =>
      rw [heq]
      exact ha.construct udn ipAddress offered h
  | dangling hfind hdev _ =>
      obtain ⟨dev, hdev'⟩ := hr.maps.find_device hfind
      exact absurd (hdev.symm.trans hdev') (by simp)
  | present _ _ _ heq => rwa [heq]
  | extended _ hdev _ heq =>
      rw [heq]
      obtain ⟨haddresses, hoff⟩ := extend_effect hdev ipAddress offered
      intro ct hct hnone
      unfold World.Constructs at hct
      rw [hoff.upnp] at hct
      rw [haddresses] at hnone
      split at hnone
      · exact absurd hnone (by simp)
      · exact (ha ct hct hnone).offstage hoff

/-! ## A renderer disappears -/

theorem reduce_effect {dev : Device} {context : DeviceContext} {ipAddress : String}
    (hdev : w.devices d = some dev)
    (hfind : dev.contexts.find? (fun context => context.ipAddress = ipAddress) = some context) :
    ipAddress ∈ w.addresses d ∧
    (dev.contexts.eraseP (fun context => context.ipAddress = ipAddress) = [] ↔
      (w.removeContext d dev context ipAddress).addresses d = []) := by
  constructor
  · rw [addresses_of_device hdev, List.mem_map]
    have hip := List.find?_some hfind
    exact ⟨context, List.mem_of_find?_eq_some hfind, of_decide_eq_true hip⟩
  · rw [addresses_core, World.removeContext, (frees_removeContext d dev context _).2, if_pos rfl]
    simp only [Option.map_some, Option.getD_some, List.map_eq_nil_iff]

theorem roster_removeContext {dev : Device} {context : DeviceContext} {ipAddress : String}
    {uc : Option DeviceNewCt} (hr : RegistryOk w) (hfound : w.upnp.find udn = some (d, uc))
    (hdev : w.devices d = some dev)
    (hoff : Offstage w (w.removeContext d dev context ipAddress)) :
    (w.removeContext d dev context ipAddress).roster = w.roster.put udn (some
      { confirmed := uc.isNone, addresses := (w.addresses d).erase ipAddress }) := by
  refine roster_put ?_ (fun u _ => by rw [hoff.upnp]) fun u e uc' hu hother => ?_
  · rw [roster_of_find (hoff.upnp ▸ hfound), addresses_removeContext hdev, if_pos rfl]
  · refine (addresses_removeContext hdev context ipAddress e).trans (if_neg ?_)
    rintro rfl
    exact hu (hr.maps.find_unique hfound hother)

theorem lose_effect (udn : String) (d : Nat) (path : String) (h : ServiceOk handled w) :
    (∀ e, (prvServerLost udn d path none w).addresses e =
      if e = d then [] else w.addresses e) ∧
    (prvServerLost udn d path none w).upnp.serverUdnMap = w.upnp.serverUdnMap.erase udn ∧
    (prvServerLost udn d path none w).upnp.serverUcMap = w.upnp.serverUcMap ∧
    ∀ ct, w.Abandoned ct → (prvServerLost udn d path none w).Abandoned ct := by
  have hemit : ServiceOk handled (w.emit (.lostServer path)) := h.backstage (backstage_emit rfl)
  have hrun := rsuTaskProcessorRemoveQueuesForSink_run (D := serviceSteps (fun _ => True) handled)
    serviceSteps_cancels path hemit fun _ _ _ => trivial
  have hstay : AddressesStay w (prvLostMediaServer path w) :=
    (addressesStay_incidental.sideline (sideline_emit _ w)).trans
      (addressesStay_incidental.run hemit hrun)
  change (∀ e, (rsuDeviceDelete d ((prvLostMediaServer path w).setUdnMap
    ((prvLostMediaServer path w).upnp.serverUdnMap.erase udn))).addresses e = _) ∧ _
  have hoff := offstage_rsuDeviceDelete d ((prvLostMediaServer path w).setUdnMap
    ((prvLostMediaServer path w).upnp.serverUdnMap.erase udn))
  refine ⟨fun e => ?_, ?_, ?_, fun ct hct => ?_⟩
  · rw [addresses_rsuDeviceDelete, ← addresses_of_core hstay.core e]
    rfl
  · have hmap := congrArg Upnp.serverUdnMap hstay.upnp
    exact (congrArg Upnp.serverUdnMap hoff.upnp).trans (congrArg (·.erase udn) hmap)
  · have huc := congrArg Upnp.serverUcMap hstay.upnp
    exact (congrArg Upnp.serverUcMap hoff.upnp).trans huc
  · have hmapped : ((prvLostMediaServer path w).setUdnMap
        ((prvLostMediaServer path w).upnp.serverUdnMap.erase udn)).Abandoned ct :=
      (hstay.abandoned ct hct).congr rfl fun _ => rfl
    exact hmapped.offstage hoff

theorem roster_lose {e : Roster.Entry String} (path : String) (h : ServiceOk handled w)
    (hmaps : MapsOk w) (hudn : w.upnp.serverUdnMap.lookup udn = some d) {r : Roster String String}
    (hroster : w.roster = r.put udn (some e)) :
    (prvServerLost udn d path none w).roster = r.put udn none := by
  obtain ⟨haddresses, hmap, huc, -⟩ := lose_effect udn d path h
  have hlost : (prvServerLost udn d path none w).roster = w.roster.put udn none := by
    refine roster_put (roster_of_none ?_) (fun u hu => ?_) fun u e' uc hu hother => ?_
    · rw [Upnp.find, hmap, Assoc.lookup_erase_eq, if_pos rfl, huc, hmaps.uc_none hudn]
      rfl
    · exact find_congr (by rw [hmap, Assoc.lookup_erase_eq, if_neg hu]) (by rw [huc])
    · refine (haddresses e').trans (if_neg ?_)
      rintro rfl
      exact hu (hmaps.find_unique (find_of_known hudn) hother)
  rw [hlost, hroster, Roster.put_put]

/-- A queue whose cancellation is over is spent, or has gone to the idle that frees it. -/
theorem abandoned_cancelQueue (h : ServiceOk handled w) (hq : w.queue? ct.queueId = some q)
    (hcs : q.callbacks = .service) (hfinally : q.finallyCb = true) (hdata : q.userData = some ct) :
    (rsuTaskProcessorCancelQueue taskDeleteCb taskCancelCb ct.queueId w).Abandoned ct := by
  have hold := h.processor.queues _ q hq
  let q' : TaskQueue := { q with cancelled := true, tasks := [], idleId := 0 }
  have hq' : (w.clearQueue ct.queueId q).queue? ct.queueId = some q' := by
    rw [queue?_clearQueue, if_pos rfl, hq]
    rfl
  have hclear : (w.clearQueue ct.queueId q).Abandoned ct :=
    .inl ⟨q', hq', hcs, hfinally, hdata, rfl, rfl⟩
  have hfirst : (serviceSteps (fun _ => True) handled).Run w (w.clearQueue ct.queueId q) :=
    .one (.clear hq) ⟨trivial, trivial⟩
  have hcleared := hfirst.inv h
  have hrest : (serviceSteps (fun _ => True) handled).Run (w.clearQueue ct.queueId q)
      (afterClear ct.queueId q' (w.clearQueue ct.queueId q)) :=
    afterClear_run serviceSteps_cancels hcleared trivial hq' rfl rfl
  have heq : rsuTaskProcessorCancelQueue taskDeleteCb taskCancelCb ct.queueId w =
      afterClear ct.queueId q' (w.clearQueue ct.queueId q) := by
    simp only [rsuTaskProcessorCancelQueue, hq]
    exact prvTaskQueueCancel_eq hq hold.nodup hold.fresh h.processor.idlePositive
  rw [heq]
  exact (addressesStay_incidental.run hcleared hrest).abandoned ct hclear

theorem addressesStay_cancelQueue (k : TaskQueueKey) (h : ServiceOk handled w) :
    AddressesStay w (rsuTaskProcessorCancelQueue taskDeleteCb taskCancelCb k w) :=
  incidental_cancelQueue addressesStay_incidental k h

theorem ConstructionsOk.queue_of_fault (h : ConstructionsOk w) (hct : w.Constructs ct)
    (hfault : (rsuTaskProcessorCancelQueue taskDeleteCb taskCancelCb ct.queueId w).fault = none) :
    ∃ q, w.queue? ct.queueId = some q ∧ q.callbacks = .service ∧ q.finallyCb = true ∧
      q.userData = some ct := by
  rcases h.pending _ ct hct with ⟨q, hq, hfinally, hdata⟩ | ⟨q, hmem, hdata⟩
  · refine ⟨q, hq, ?_, hfinally, hdata⟩
    cases hcs : q.callbacks with
    | service => rfl
    | client => exact absurd ((h.clients _ q hq hcs).symm.trans hfinally) Bool.false_ne_true
  · obtain ⟨ct', hdata', -, hnone, -⟩ := h.idles q hmem
    obtain rfl := Option.some.inj (hdata'.symm.trans hdata)
    simp only [rsuTaskProcessorCancelQueue, hnone] at hfault
    unfold World.crash at hfault
    cases hw : w.fault <;> simp [hw] at hfault

theorem find?_ipAddress {dev : Device} (hdev : w.devices d = some dev) {ipAddress : String}
    (hnone : dev.contexts.find? (fun context => context.ipAddress = ipAddress) = none) :
    ipAddress ∉ w.addresses d := by
  rw [addresses_of_device hdev, List.mem_map]
  rintro ⟨context, hmem, heq⟩
  exact List.find?_eq_none.mp hnone context hmem (decide_eq_true heq)

theorem roster_departing {uc : Option DeviceNewCt} {dev : Device} {context : DeviceContext}
    (hr : RegistryOk w) (hdeparting : w.Departing udn ipAddress d uc dev context) :
    w.roster.withdraw udn ipAddress =
      if dev.contexts.eraseP (fun context => context.ipAddress = ipAddress) = [] ∧
        uc.isNone = true then w.roster.put udn none
      else (w.removeContext d dev context ipAddress).roster := by
  obtain ⟨hmem, hempty⟩ := reduce_effect hdeparting.device hdeparting.context
  have hoff := (frees_departing w d dev context ipAddress).toOffstage
  have hleft := addresses_removeContext hdeparting.device context ipAddress d
  rw [if_pos rfl] at hleft
  rw [roster_removeContext hr hdeparting.find hdeparting.device hoff, Roster.withdraw,
    roster_of_find hdeparting.find]
  simp only [if_pos hmem, hempty, hleft]

theorem roster_prvServerUnavailableCb (udn ipAddress : String) (h : ServiceOk handled w)
    (hr : RegistryOk w) :
    (prvServerUnavailableCb udn ipAddress w).roster = w.roster.withdraw udn ipAddress := by
  cases departure udn ipAddress w with
  | ignored hnone heq =>
      rw [heq, Roster.withdraw]
      cases hfind : w.upnp.find udn with
      | none => rw [roster_of_none hfind]
      | some found =>
          obtain ⟨dev, hdev⟩ := hr.maps.find_device hfind
          have hcontext := Option.eq_none_iff_forall_not_mem.mpr fun context hcontext =>
            hnone _ _ dev context ⟨hfind, hdev, hcontext⟩
          rw [roster_of_find hfind]
          exact (if_neg (find?_ipAddress hdev hcontext)).symm
  | dangling hfind hdev _ =>
      obtain ⟨dev, hdev'⟩ := hr.maps.find_device hfind
      exact absurd (hdev.symm.trans hdev') (by simp)
  | @last d uc dev context hdeparting hlast heq =>
      rw [heq, roster_departing hr hdeparting]
      have hs := h.departing hdeparting
      rcases find_some hdeparting.find with ⟨hudn, rfl⟩ | ⟨ct, -, -, rfl⟩
      · have hunseen := unseen_departing hdeparting
        rw [if_pos ⟨hlast, rfl⟩]
        exact roster_lose dev.path hs (hr.unseen hunseen).maps (hunseen.serverUdnMap ▸ hudn)
          (roster_removeContext hr hdeparting.find hdeparting.device
            (frees_departing w d dev context ipAddress).toOffstage)
      · rw [if_neg (by simp)]
        exact (addressesStay_cancelQueue ct.queueId hs).roster
  | @later d _ _ _ hdeparting hothers _ heq =>
      rw [heq, roster_departing hr hdeparting, if_neg fun hlast => hothers hlast.1]
      exact (addressesStay_of_cosmetic (cosmetic_subscribeLater d)).roster
  | other hdeparting hothers _ heq =>
      rw [heq, roster_departing hr hdeparting, if_neg fun hlast => hothers hlast.1]

/-- The other constructions are as before. -/
theorem AbandonedOk.departing {uc : Option DeviceNewCt} {dev : Device} {context : DeviceContext}
    (ha : AbandonedOk w) (h : w.Departing udn ipAddress d uc dev context) :
    ∀ ct, (w.removeContext d dev context ipAddress).Constructs ct → ct.device ≠ d →
      (w.removeContext d dev context ipAddress).addresses ct.device = [] →
        (w.removeContext d dev context ipAddress).Abandoned ct := by
  intro ct hct hne hnone
  have hoff := (frees_departing w d dev context ipAddress).toOffstage
  rw [addresses_removeContext h.device, if_neg hne] at hnone
  have hold := (constructs_unhosted (congrArg Upnp.unhosted hoff.upnp)).mp hct
  exact (ha ct hold hnone).offstage hoff

theorem AbandonedOk.keeping {uc : Option DeviceNewCt} {dev : Device} {context : DeviceContext}
    (ha : AbandonedOk w) (hdeparting : w.Departing udn ipAddress d uc dev context)
    (hothers : dev.contexts.eraseP (fun context => context.ipAddress = ipAddress) ≠ []) :
    AbandonedOk (w.removeContext d dev context ipAddress) := by
  obtain ⟨-, hempty⟩ := reduce_effect hdeparting.device hdeparting.context
  intro ct hct hnone
  by_cases hd : ct.device = d
  · exact absurd (hempty.mpr (hd ▸ hnone)) hothers
  · exact ha.departing hdeparting ct hct hd hnone

theorem AbandonedOk.lostKnown {dev : Device} {context : DeviceContext} (ha : AbandonedOk w)
    (h : ServiceOk handled w) (hr : RegistryOk w)
    (hdeparting : w.Departing udn ipAddress d none dev context)
    (hudn : w.upnp.serverUdnMap.lookup udn = some d) :
    AbandonedOk (prvServerLost udn d dev.path none (w.removeContext d dev context ipAddress)) := by
  have hunseen := unseen_departing hdeparting
  obtain ⟨haddresses, -, huc, habandoned⟩ := lose_effect udn d dev.path (h.departing hdeparting)
  intro ct hct hnone
  have hlookup := congrArg (fun uc => uc.lookup ct.udn) huc
  have hct₁ : (w.removeContext d dev context ipAddress).Constructs ct := hlookup.symm.trans hct
  have hne : ct.device ≠ d :=
    ((hr.unseen hunseen).maps.apart udn ct.udn d ct (hunseen.serverUdnMap ▸ hudn) hct₁).2.symm
  have hnone₁ := ((haddresses ct.device).trans (if_neg hne)).symm.trans hnone
  exact habandoned ct (ha.departing hdeparting ct hct₁ hne hnone₁)

theorem AbandonedOk.lostConstruction {ct : DeviceNewCt} {dev : Device} {context : DeviceContext}
    (ha : AbandonedOk w) (h : ServiceOk handled w) (hr : RegistryOk w)
    (hdeparting : w.Departing udn ipAddress ct.device (some ct) dev context)
    (hct : w.upnp.serverUcMap.lookup udn = some ct)
    (hfault : (prvServerLost udn ct.device dev.path (some ct)
      (w.removeContext ct.device dev context ipAddress)).fault = none) :
    AbandonedOk (prvServerLost udn ct.device dev.path (some ct)
      (w.removeContext ct.device dev context ipAddress)) := by
  have hs := h.departing hdeparting
  have hr₁ := hr.unseen (unseen_departing hdeparting)
  have hstay := addressesStay_cancelQueue ct.queueId hs
  intro ct' hct' hnone
  have hct₁ := (constructs_unhosted hstay.upnp).mp hct'
  by_cases hd : ct'.device = ct.device
  · have hold₁ : (w.removeContext ct.device dev context ipAddress).Constructs ct := by
      unfold World.Constructs
      rw [(unseen_departing hdeparting).serverUcMap, (hr.maps.uc udn ct hct).1]
      exact hct
    have hudn := hr₁.maps.ucSingle _ _ _ _ hct₁ hold₁ hd
    obtain rfl : ct' = ct := by
      unfold World.Constructs at hct₁ hold₁
      rw [hudn, hold₁] at hct₁
      exact (Option.some.inj hct₁).symm
    obtain ⟨q, hq, hcs, hfinally, hdata⟩ := hr₁.constructions.queue_of_fault hct₁ hfault
    exact abandoned_cancelQueue hs hq hcs hfinally hdata
  · have hnone₁ := (addresses_of_core hstay.core ct'.device).symm.trans hnone
    exact hstay.abandoned ct' (ha.departing hdeparting ct' hct₁ hd hnone₁)

theorem AbandonedOk.unavailable (udn ipAddress : String) (ha : AbandonedOk w)
    (h : ServiceOk handled w) (hr : RegistryOk w)
    (hfault : (prvServerUnavailableCb udn ipAddress w).fault = none) :
    AbandonedOk (prvServerUnavailableCb udn ipAddress w) := by
  cases departure udn ipAddress w with
  | ignored _ heq => rwa [heq]
  | dangling hfind hdev _ =>
      obtain ⟨dev, hdev'⟩ := hr.maps.find_device hfind
      exact absurd (hdev.symm.trans hdev') (by simp)
  | last hdeparting _ heq =>
      rw [heq] at hfault ⊢
      rcases find_some hdeparting.find with ⟨hudn, rfl⟩ | ⟨ct, hct, rfl, rfl⟩
      · exact ha.lostKnown h hr hdeparting hudn
      · exact ha.lostConstruction h hr hdeparting hct hfault
  | @later d _ _ _ hdeparting hothers _ heq =>
      rw [heq]
      exact (ha.keeping hdeparting hothers).stay
        (addressesStay_of_cosmetic (cosmetic_subscribeLater d))
  | other hdeparting hothers _ heq =>
      rw [heq]
      exact ha.keeping hdeparting hothers

/-! ## A construction ends -/

theorem exec_cancelled (hdata : q.userData = some ct) (hcancelled : q.cancelled = true) :
    exec w (.finallyIdle q) = rsuDeviceDelete ct.device
      ((w.chainEnded q ct).setUcMap (w.upnp.serverUcMap.erase ct.udn)) := by
  show prvTaskQueueFinallyCb q _ = _
  simp only [prvTaskQueueFinallyCb, hdata, prvDeviceChainEnd, if_pos hcancelled]
  rfl

theorem prvDeviceChainEnd_declared {dev : Device} (hdev : w.devices ct.device = some dev)
    (hnone : w.upnp.serverUdnMap.lookup ct.udn = none) :
    prvDeviceChainEnd false ct w = (((w.emit (.chainEnd false ct.udn)).setUdnMap
      (w.upnp.serverUdnMap.insert ct.udn ct.device)).emit (.foundServer dev.path)).setUcMap
        (w.upnp.serverUcMap.erase ct.udn) := by
  have hdev₁ : (w.emit (.chainEnd false ct.udn)).devices ct.device = some dev := hdev
  have hnone₁ : (w.emit (.chainEnd false ct.udn)).upnp.serverUdnMap.lookup ct.udn = none := hnone
  simp only [prvDeviceChainEnd, Bool.false_eq_true, if_false, World.withDevice, hdev₁,
    serverUdnMapInsert, hnone₁]
  rfl

theorem exec_declared {dev : Device} (hdata : q.userData = some ct) (hkept : q.cancelled = false)
    (hdev : w.devices ct.device = some dev)
    (hnone : w.upnp.serverUdnMap.lookup ct.udn = none) :
    exec w (.finallyIdle q) = (((w.chainEnded q ct).setUdnMap
      (w.upnp.serverUdnMap.insert ct.udn ct.device)).emit (.foundServer dev.path)).setUcMap
        (w.upnp.serverUcMap.erase ct.udn) := by
  show prvTaskQueueFinallyCb q _ = _
  simp only [prvTaskQueueFinallyCb, hdata, hkept, World.chainEnded]
  exact prvDeviceChainEnd_declared hdev hnone

theorem abandoned_finished (hdata : q.userData = some ct) (hprocessor : w'.processor = w.processor)
    (hidles : w'.loop.finallyIdles = w.loop.finallyIdles.erase q) {ct' : DeviceNewCt}
    (hne : ct' ≠ ct) (h : w.Abandoned ct') : w'.Abandoned ct' := by
  rcases h with ⟨q', hq', hrest⟩ | ⟨q', hmem', hdata', hcancelled⟩
  · have hqueue : w'.queue? ct'.queueId = w.queue? ct'.queueId :=
      congrArg (fun p => p.taskQueues.lookup ct'.queueId) hprocessor
    exact .inl ⟨q', hqueue.trans hq', hrest⟩
  · have hq : q' ≠ q := by
      rintro rfl
      exact hne (Option.some.inj (hdata'.symm.trans hdata))
    exact .inr ⟨q', hidles ▸ (List.mem_erase_of_ne hq).mpr hmem', hdata', hcancelled⟩

/-- Its device is deleted if it was cancelled, and known otherwise. -/
theorem end_effect (hr : RegistryOk w) (hdata : q.userData = some ct) (hct : w.Constructs ct) :
    (∀ e, (exec w (.finallyIdle q)).addresses e =
      if e = ct.device ∧ q.cancelled = true then [] else w.addresses e) ∧
    (exec w (.finallyIdle q)).upnp.serverUdnMap =
      (if q.cancelled then w.upnp.serverUdnMap
        else w.upnp.serverUdnMap.insert ct.udn ct.device) ∧
    (exec w (.finallyIdle q)).upnp.serverUcMap = w.upnp.serverUcMap.erase ct.udn ∧
    ∀ ct', ct' ≠ ct → w.Abandoned ct' → (exec w (.finallyIdle q)).Abandoned ct' := by
  obtain ⟨dev, hdev⟩ := hr.maps.find_device (hr.maps.find_of_constructs hct)
  cases hcancelled : q.cancelled with
  | true =>
      rw [exec_cancelled hdata hcancelled]
      have hoff := offstage_rsuDeviceDelete ct.device
        ((w.chainEnded q ct).setUcMap (w.upnp.serverUcMap.erase ct.udn))
      have hudn := congrArg Upnp.serverUdnMap hoff.upnp
      have huc := congrArg Upnp.serverUcMap hoff.upnp
      refine ⟨fun e => ?_, hudn, huc,
        fun ct' => abandoned_finished (w := w) hdata hoff.processor hoff.finallyIdles⟩
      refine (addresses_rsuDeviceDelete ct.device _ e).trans ?_
      simp only [and_true]
      rfl
  | false =>
      rw [exec_declared hdata hcancelled hdev (hr.maps.udn_none hct)]
      refine ⟨fun e => ?_, rfl, rfl, fun ct' hne hct' => ?_⟩
      · rw [if_neg (by simp)]
        rfl
      · refine abandoned_finished (w := w) hdata ?_ ?_ hne hct' <;> rfl

theorem roster_finallyIdle (hr : RegistryOk w) (hdata : q.userData = some ct)
    (hct : w.Constructs ct) :
    (exec w (.finallyIdle q)).roster =
      if q.cancelled then w.roster.discard ct.udn else w.roster.confirm ct.udn := by
  obtain ⟨haddresses, hudn, huc, -⟩ := end_effect hr hdata hct
  have hfound := hr.maps.find_of_constructs hct
  have hother : ∀ u, u ≠ ct.udn →
      (exec w (.finallyIdle q)).upnp.find u = w.upnp.find u := fun u hu => by
    refine find_congr ?_ (by rw [huc, Assoc.lookup_erase_eq, if_neg hu])
    rw [hudn]
    split
    · rfl
    · rw [Assoc.lookup_insert_eq, if_neg hu]
  have hkeep : ∀ u e uc, u ≠ ct.udn → w.upnp.find u = some (e, uc) →
      (exec w (.finallyIdle q)).addresses e = w.addresses e := fun u e uc hu hfind => by
    refine (haddresses e).trans (if_neg ?_)
    rintro ⟨rfl, -⟩
    exact hu (hr.maps.find_unique hfound hfind)
  split
  next hcancelled =>
    refine roster_put (roster_of_none ?_) hother hkeep
    rw [Upnp.find, hudn, if_pos hcancelled, hr.maps.udn_none hct, huc, Assoc.lookup_erase_eq,
      if_pos rfl]
    rfl
  next hkept =>
    refine roster_put ?_ hother hkeep
    have hknown : (exec w (.finallyIdle q)).upnp.find ct.udn = some (ct.device, none) := by
      refine find_of_known ?_
      rw [hudn, if_neg hkept, Assoc.lookup_insert_eq, if_pos rfl]
    rw [roster_of_find hknown, haddresses, if_neg fun hboth => hkept hboth.2, roster_of_find hfound]
    rfl

/-- A construction that has ended is no more among the abandoned. -/
theorem AbandonedOk.finally (ha : AbandonedOk w) (hr : RegistryOk w)
    (hmem : q ∈ w.loop.finallyIdles) : AbandonedOk (exec w (.finallyIdle q)) := by
  obtain ⟨ct, hdata, hct, -⟩ := hr.constructions.idles q hmem
  obtain ⟨haddresses, -, huc, hothers⟩ := end_effect hr hdata hct
  intro ct' hct' hnone
  unfold World.Constructs at hct'
  rw [huc, Assoc.lookup_erase_eq] at hct'
  split at hct'
  · simp at hct'
  next hu =>
    have hdevice : ct'.device ≠ ct.device := fun heq =>
      hu (hr.maps.ucSingle _ _ _ _ hct' hct heq)
    rw [haddresses, if_neg fun hboth => hdevice hboth.1] at hnone
    exact hothers ct' (fun heq => hu (congrArg DeviceNewCt.udn heq)) (ha ct' hct' hnone)

/-! ## Every input -/

theorem roster_rehash {queues : Assoc.Table TaskQueueKey TaskQueue}
    {devices : Assoc.Table String Nat}
    (hdevices : devices.entries.Perm w.upnp.serverUdnMap.entries) :
    ((w.setQueues queues).setUdnMap devices).roster = w.roster :=
  roster_congr (fun _ => find_congr (AList.perm_lookup hdevices) rfl) fun _ => rfl

theorem exec_roster {i : Input} (h : ServiceOk none w) (hr : RegistryOk w)
    (henabled : i.enabled w = true) (hfree : i ≠ .contextFree) :
    (exec w i).roster = i.enroll w.roster := by
  by_cases hi : i.isDiscovery = false
  · have hstay := exec_incidental addressesStay_incidental h henabled hi
    rw [hstay.roster]
    cases i <;> first | rfl | simp [Input.isDiscovery] at hi
  · cases i with
    | available udn ipAddress offered => exact roster_prvServerAvailableCb _ _ _ h hr
    | unavailable udn ipAddress => exact roster_prvServerUnavailableCb _ _ h hr
    | finallyIdle q =>
        have hmem : q ∈ w.loop.finallyIdles := by simp_all [Input.enabled]
        obtain ⟨ct, hdata, hct, -⟩ := hr.constructions.idles q hmem
        rw [roster_finallyIdle hr hdata hct]
        simp only [Input.enroll, hdata]
        split <;> rfl
    | rehash queues devices =>
        simp only [Input.enabled, Bool.and_eq_true, List.isPerm_iff] at henabled
        exact roster_rehash henabled.2.2
    | contextFree => exact absurd rfl hfree
    | _ => exact absurd rfl hi

theorem exec_abandonedOk {i : Input} (ha : AbandonedOk w) (h : ServiceOk none w)
    (hr : RegistryOk w) (henabled : i.enabled w = true) (hfree : i ≠ .contextFree)
    (hfault : (exec w i).fault = none) : AbandonedOk (exec w i) := by
  by_cases hi : i.isDiscovery = false
  · exact ha.stay (exec_incidental addressesStay_incidental h henabled hi)
  · cases i with
    | available udn ipAddress offered => exact ha.available _ _ _ h hr
    | unavailable udn ipAddress => exact ha.unavailable _ _ h hr hfault
    | finallyIdle q => exact ha.finally hr (by simp_all [Input.enabled])
    | rehash queues devices =>
        simp only [Input.enabled, Bool.and_eq_true, List.isPerm_iff] at henabled
        intro ct hct hnone
        exact (ha ct hct hnone).congr rfl fun k => AList.perm_lookup henabled.2.1
    | contextFree => exact absurd rfl hfree
    | _ => exact absurd rfl hi

end RendererService
