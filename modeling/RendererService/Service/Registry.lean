import RendererService.Service.Announcements

/-!
# The registry of renderers

Discovery moves a renderer through the two maps: it is entered when its
construction starts, announced when its construction has ended, and taken out
when it is lost.  The registry is in order throughout.
-/

namespace RendererService

variable {w w' : World} {handled : Option Nat}

/-! ## Changes of the maps -/

/-- Entries leave the maps, and devices that no entry names go away. -/
theorem MapsOk.shrink (h : MapsOk w) (hcounter : w'.upnp.counter = w.upnp.counter)
    (halive : ∀ d, w'.Alive d → w.Alive d)
    (hudn : ∀ udn d, w'.upnp.serverUdnMap.lookup udn = some d →
      w.upnp.serverUdnMap.lookup udn = some d ∧ w'.Alive d)
    (huc : ∀ udn ct, w'.upnp.serverUcMap.lookup udn = some ct →
      w.upnp.serverUcMap.lookup udn = some ct ∧ w'.Alive ct.device) : MapsOk w' where
  bound d hd := by
    rw [hcounter]
    exact h.bound d (halive d hd)
  udn udn d hd := (hudn udn d hd).2
  udnSingle udn udn' d hd hd' := h.udnSingle udn udn' d (hudn udn d hd).1 (hudn udn' d hd').1
  uc udn ct hct := ⟨(h.uc udn ct (huc udn ct hct).1).1, (huc udn ct hct).2⟩
  ucSingle udn udn' ct ct' hct hct' :=
    h.ucSingle udn udn' ct ct' (huc udn ct hct).1 (huc udn' ct' hct').1
  apart udn udn' d ct hd hct := h.apart udn udn' d ct (hudn udn d hd).1 (huc udn' ct hct).1

theorem MapsOk.construct (h : MapsOk w) (ct : DeviceNewCt) (hdevice : ct.device = w.upnp.counter)
    (hfind : w.upnp.find ct.udn = none)
    (hcounter : w'.upnp.counter = w.upnp.counter + 1)
    (hmap : w'.upnp.serverUdnMap = w.upnp.serverUdnMap)
    (huc : w'.upnp.serverUcMap = w.upnp.serverUcMap.insert ct.udn ct)
    (halive : ∀ d, w'.Alive d ↔ d = w.upnp.counter ∨ w.Alive d) : MapsOk w' := by
  have hnew : ¬w.Alive w.upnp.counter := fun hd => Nat.lt_irrefl _ (h.bound _ hd)
  have hnone : w.upnp.serverUdnMap.lookup ct.udn = none := by
    unfold Upnp.find at hfind
    split at hfind
    · simp at hfind
    · assumption
  have hcase : ∀ udn ct', w'.upnp.serverUcMap.lookup udn = some ct' →
      (udn = ct.udn ∧ ct' = ct) ∨ (udn ≠ ct.udn ∧ w.upnp.serverUcMap.lookup udn = some ct') := by
    intro udn ct' hct'
    rw [huc, Assoc.lookup_insert_eq] at hct'
    split at hct'
    next heq => exact .inl ⟨heq, (Option.some.inj hct').symm⟩
    next hne => exact .inr ⟨hne, hct'⟩
  refine ⟨?_, ?_, ?_, ?_, ?_, ?_⟩
  · intro d hd
    rw [hcounter]
    rcases (halive d).mp hd with rfl | hd
    · exact Nat.lt_succ_self _
    · exact Nat.lt_succ_of_lt (h.bound d hd)
  · intro udn d hd
    rw [hmap] at hd
    exact (halive d).mpr (.inr (h.udn udn d hd))
  · rw [hmap]
    exact h.udnSingle
  · intro udn ct' hct'
    rcases hcase udn ct' hct' with ⟨rfl, rfl⟩ | ⟨-, hold⟩
    · exact ⟨rfl, (halive _).mpr (.inl hdevice)⟩
    · exact ⟨(h.uc udn ct' hold).1, (halive _).mpr (.inr (h.uc udn ct' hold).2)⟩
  · intro udn udn' ct₁ ct₂ h₁ h₂ hsame
    rcases hcase udn ct₁ h₁ with ⟨rfl, rfl⟩ | ⟨-, hold₁⟩ <;>
      rcases hcase udn' ct₂ h₂ with ⟨rfl, rfl⟩ | ⟨-, hold₂⟩
    · rfl
    · exact absurd (h.uc udn' ct₂ hold₂).2 (by rw [← hsame, hdevice]; exact hnew)
    · exact absurd (h.uc udn ct₁ hold₁).2 (by rw [hsame, hdevice]; exact hnew)
    · exact h.ucSingle udn udn' ct₁ ct₂ hold₁ hold₂ hsame
  · intro udn udn' d ct' hd hct'
    rw [hmap] at hd
    rcases hcase udn' ct' hct' with ⟨rfl, rfl⟩ | ⟨-, hold⟩
    · refine ⟨?_, ?_⟩
      · rintro rfl
        exact absurd (hnone.symm.trans hd) (by simp)
      · rintro rfl
        exact hnew (hdevice ▸ h.udn udn _ hd)
    · exact h.apart udn udn' d ct' hd hold

theorem MapsOk.declare (h : MapsOk w) {ct : DeviceNewCt} (hct : w.Constructs ct)
    (hcounter : w'.upnp.counter = w.upnp.counter)
    (hmap : w'.upnp.serverUdnMap = w.upnp.serverUdnMap.insert ct.udn ct.device)
    (huc : w'.upnp.serverUcMap = w.upnp.serverUcMap.erase ct.udn)
    (hpath : w'.path = w.path) : MapsOk w' := by
  have halive : ∀ d, w'.Alive d ↔ w.Alive d := fun d => by
    unfold World.Alive
    rw [hpath]
  have hudn : ∀ udn d, w'.upnp.serverUdnMap.lookup udn = some d →
      (udn = ct.udn ∧ d = ct.device) ∨ w.upnp.serverUdnMap.lookup udn = some d := by
    intro udn d hd
    rw [hmap, Assoc.lookup_insert_eq] at hd
    split at hd
    next heq => exact .inl ⟨heq, (Option.some.inj hd).symm⟩
    · exact .inr hd
  have hold : ∀ udn ct', w'.upnp.serverUcMap.lookup udn = some ct' →
      udn ≠ ct.udn ∧ w.upnp.serverUcMap.lookup udn = some ct' := by
    intro udn ct' hct'
    rw [huc, Assoc.lookup_erase_eq] at hct'
    split at hct'
    · simp at hct'
    next hne => exact ⟨hne, hct'⟩
  refine ⟨?_, ?_, ?_, ?_, ?_, ?_⟩
  · intro d hd
    rw [hcounter]
    exact h.bound d ((halive d).mp hd)
  · intro udn d hd
    rw [halive]
    rcases hudn udn d hd with ⟨rfl, rfl⟩ | hd
    · exact (h.uc _ _ hct).2
    · exact h.udn udn d hd
  · intro udn udn' d hd hd'
    rcases hudn udn d hd with ⟨rfl, rfl⟩ | hd <;> rcases hudn udn' _ hd' with ⟨rfl, hsame⟩ | hd'
    · rfl
    · exact absurd rfl (h.apart _ _ _ _ hd' hct).2
    · exact absurd hsame (h.apart _ _ _ _ hd hct).2
    · exact h.udnSingle udn udn' d hd hd'
  · intro udn ct' hct'
    obtain ⟨-, hct'⟩ := hold udn ct' hct'
    exact ⟨(h.uc udn ct' hct').1, (halive _).mpr (h.uc udn ct' hct').2⟩
  · intro udn udn' ct₁ ct₂ h₁ h₂
    exact h.ucSingle udn udn' ct₁ ct₂ (hold udn ct₁ h₁).2 (hold udn' ct₂ h₂).2
  · intro udn udn' d ct' hd hct'
    obtain ⟨hne, hct'⟩ := hold udn' ct' hct'
    rcases hudn udn d hd with ⟨rfl, rfl⟩ | hd
    · exact ⟨hne.symm, fun hsame => hne (h.ucSingle _ _ _ _ hct' hct hsame.symm)⟩
    · exact h.apart udn udn' d ct' hd hct'

/-! ## Changes of the constructions -/

theorem ConstructionsOk.finish (h : ConstructionsOk w) (hmaps : MapsOk w)
    {q : TaskQueue} {ct : DeviceNewCt}
    (hq : q ∈ w.loop.finallyIdles) (hdata : q.userData = some ct) (hct : w.Constructs ct)
    (hnone : w.queue? ct.queueId = none) (hprocessor : w'.processor = w.processor)
    (hidles : w'.loop.finallyIdles = w.loop.finallyIdles.erase q)
    (huc : w'.upnp.serverUcMap = w.upnp.serverUcMap.erase ct.udn)
    (htasks : w'.tasks = w.tasks) : ConstructionsOk w' := by
  have hqueue : ∀ k, w'.queue? k = w.queue? k := fun k => by
    unfold World.queue?
    rw [hprocessor]
  have hother : ∀ ct', w.Constructs ct' → ct' ≠ ct → w'.Constructs ct' := by
    intro ct' hct' hne
    unfold World.Constructs
    rw [huc, Assoc.lookup_erase_eq, if_neg]
    · exact hct'
    · intro hudn
      have hsame : w.upnp.serverUcMap.lookup ct.udn = some ct' := hudn ▸ hct'
      exact hne (Option.some.inj (hsame.symm.trans hct))
  have hdistinct : ∀ q' ∈ w.loop.finallyIdles.erase q, q' ∈ w.loop.finallyIdles ∧
      q'.userData ≠ some ct := by
    have hnodup : w.loop.finallyIdles.Nodup := .of_map _ h.idlesNodup
    intro q' hq'
    obtain ⟨hne, hmem⟩ := hnodup.mem_erase_iff.mp hq'
    refine ⟨hmem, fun hsame => hne ?_⟩
    exact List.inj_on_of_nodup_map h.idlesNodup hmem hq (hsame.trans hdata.symm)
  refine ⟨?_, ?_, ?_, ?_, ?_, ?_⟩
  · intro udn ct' hct'
    rw [huc, Assoc.lookup_erase_eq] at hct'
    split at hct'
    · simp at hct'
    next hne =>
      rcases h.pending udn ct' hct' with ⟨q', hq', hrest⟩ | ⟨q', hq', hdata'⟩
      · exact .inl ⟨q', (hqueue _).trans hq', hrest⟩
      · refine .inr ⟨q', ?_, hdata'⟩
        rw [hidles]
        refine (List.mem_erase_of_ne ?_).mpr hq'
        rintro rfl
        obtain rfl := Option.some.inj (hdata'.symm.trans hdata)
        exact hne (hmaps.uc udn ct' hct').1.symm
  · intro k q' hq'
    rw [hqueue] at hq'
    exact h.clients k q' hq'
  · intro k q' hq' hcs
    rw [hqueue] at hq'
    obtain ⟨hfinally, ct', hdata', hkey, hct'⟩ := h.queues k q' hq' hcs
    refine ⟨hfinally, ct', hdata', hkey, hother ct' hct' ?_⟩
    rintro rfl
    rw [hkey, hq'] at hnone
    simp at hnone
  · rw [hidles, hprocessor]
    intro q' hq'
    obtain ⟨hmem, hne⟩ := hdistinct q' hq'
    obtain ⟨ct', hdata', hct', hnone', hlt⟩ := h.idles q' hmem
    refine ⟨ct', hdata', hother ct' hct' ?_, (hqueue _).trans hnone', hlt⟩
    rintro rfl
    exact hne hdata'
  · rw [hidles]
    exact h.idlesNodup.sublist (List.erase_sublist.map _)
  · intro a t ht
    rw [htasks] at ht
    obtain ⟨q', ct', hq', hrest⟩ := h.tasks a t ht
    exact ⟨q', ct', (hqueue _).trans hq', hrest⟩

theorem ConstructionsOk.construct (h : ConstructionsOk w) (hok : ProcessorOk w) (ct : DeviceNewCt)
    {q : TaskQueue} (hkey : ct.queueId.id = w.processor.nextKey)
    (hfind : w.upnp.serverUcMap.lookup ct.udn = none) (hcs : q.callbacks = .service)
    (hfinally : q.finallyCb = true) (hdata : q.userData = some ct)
    (hqueue : ∀ k, w'.queue? k = if k = ct.queueId then some q else w.queue? k)
    (hnext : w'.processor.nextKey = w.processor.nextKey + 1)
    (hidles : w'.loop.finallyIdles = w.loop.finallyIdles)
    (huc : w'.upnp.serverUcMap = w.upnp.serverUcMap.insert ct.udn ct)
    (htasks : ∀ a t, w'.tasks a = some (.service t) → w.tasks a = some (.service t) ∨
      a.queueId = ct.queueId ∧ t.device = ct.device) : ConstructionsOk w' := by
  have hnew : w.queue? ct.queueId = none := by
    by_contra hne
    obtain ⟨q', hq'⟩ := Option.ne_none_iff_exists'.mp hne
    have hlt := (hok.queues _ q' hq').key
    omega
  have hold : ∀ k q', w.queue? k = some q' → w'.queue? k = some q' := by
    intro k q' hq'
    rw [hqueue, if_neg]
    · exact hq'
    · rintro rfl
      exact absurd (hnew.symm.trans hq') (by simp)
  have hself : w'.queue? ct.queueId = some q := by rw [hqueue, if_pos rfl]
  have hconstructs : ∀ ct', w.Constructs ct' → w'.Constructs ct' := by
    intro ct' hct'
    unfold World.Constructs
    rw [huc, Assoc.lookup_insert_eq, if_neg]
    · exact hct'
    · intro hudn
      have hsome : w.upnp.serverUcMap.lookup ct.udn = some ct' := hudn ▸ hct'
      exact absurd (hfind.symm.trans hsome) (by simp)
  refine ⟨?_, ?_, ?_, ?_, ?_, ?_⟩
  · intro udn ct' hct'
    rw [huc, Assoc.lookup_insert_eq] at hct'
    split at hct'
    · obtain rfl := Option.some.inj hct'
      exact .inl ⟨q, hself, hfinally, hdata⟩
    · rcases h.pending udn ct' hct' with ⟨q', hq', hrest⟩ | ⟨q', hq', hdata'⟩
      · exact .inl ⟨q', hold _ q' hq', hrest⟩
      · exact .inr ⟨q', hidles ▸ hq', hdata'⟩
  · intro k q' hq' hclient
    rw [hqueue] at hq'
    split at hq'
    · obtain rfl := Option.some.inj hq'
      exact absurd (hcs.symm.trans hclient) (by simp)
    · exact h.clients k q' hq' hclient
  · intro k q' hq' hservice
    rw [hqueue] at hq'
    split at hq'
    next hk =>
      obtain rfl := Option.some.inj hq'
      refine ⟨hfinally, ct, hdata, hk.symm, ?_⟩
      unfold World.Constructs
      rw [huc, Assoc.lookup_insert_eq, if_pos rfl]
    · obtain ⟨hset, ct', hdata', hkey', hct'⟩ := h.queues k q' hq' hservice
      exact ⟨hset, ct', hdata', hkey', hconstructs ct' hct'⟩
  · rw [hidles, hnext]
    intro q' hq'
    obtain ⟨ct', hdata', hct', hnone, hlt⟩ := h.idles q' hq'
    refine ⟨ct', hdata', hconstructs ct' hct', ?_, Nat.lt_succ_of_lt hlt⟩
    rw [hqueue, if_neg]
    · exact hnone
    · intro hsame
      rw [hsame] at hlt
      omega
  · rw [hidles]
    exact h.idlesNodup
  · intro a t ht
    rcases htasks a t ht with hrecord | ⟨hown, hdevice⟩
    · obtain ⟨q', ct', hq', hrest⟩ := h.tasks a t hrecord
      exact ⟨q', ct', hold _ q' hq', hrest⟩
    · exact ⟨q, ct, by rw [hown, hself], hcs, hdata, hdevice⟩

/-! ## The registry -/

structure RegistryOk (w : World) : Prop where
  maps : MapsOk w
  constructions : ConstructionsOk w
  announced : AnnouncedOk w

theorem RegistryOk.unseen (h : RegistryOk w) (hu : Unseen w w') : RegistryOk w' :=
  ⟨h.maps.calm hu.toCalm, hu.constructions h.constructions, h.announced.calm hu.toCalm⟩

/-- The devices have the same paths, whatever their contexts are. -/
theorem Unseen.of_offstage (h : Offstage w w') (hpath : w'.path = w.path) : Unseen w w' :=
  ⟨⟨by rw [h.upnp], hpath, [], by simp [h.log], by simp⟩,
    fun hc => hc.congr h.processor h.finallyIdles (by rw [h.upnp])
      fun a t ht => ⟨t, by rw [← h.tasks, ht], rfl⟩⟩

theorem path_eq_core (w : World) (d : Nat) : w.path d = (w.core d).map DeviceCore.path := by
  rw [World.core, Option.map_map]
  rfl

theorem unseen_appendContext {d : Nat} {dev : Device} (hdev : w.devices d = some dev)
    (ipAddress : String) (offered : DeviceServices) :
    Unseen w (rsuDeviceAppendNewContext d ipAddress offered w) := by
  have hd : w.core d = some dev.core := core_of_device hdev
  have hgains := gains_rsuDeviceAppendNewContext (w := w) ipAddress offered hd
  refine .of_offstage hgains.toOffstage ?_
  funext e
  rw [path_eq_core, path_eq_core, hgains.core]
  split
  next he => rw [he, hd]; rfl
  · rfl

theorem unseen_removeContext {d : Nat} {dev : Device} (hdev : w.devices d = some dev)
    (context : DeviceContext) (contexts : List DeviceContext) :
    Unseen w (prvRsuContextDelete d context
      (w.setDevice d (some { dev with contexts := contexts }))) := by
  obtain ⟨hfrees, hcore⟩ := frees_removeContext (w := w) d dev context contexts
  have hd : w.core d = some dev.core := core_of_device hdev
  refine .of_offstage hfrees.toOffstage ?_
  funext e
  rw [path_eq_core, path_eq_core, hcore]
  split
  next he => rw [he, hd]; rfl
  · rfl

theorem unseen_departing {udn ipAddress : String} {d : Nat} {uc : Option DeviceNewCt} {dev : Device}
    {context : DeviceContext} (h : w.Departing udn ipAddress d uc dev context) :
    Unseen w (w.removeContext d dev context ipAddress) :=
  unseen_removeContext h.device context _

theorem path_rsuDeviceDelete {d : Nat} (hd : w.Alive d) (e : Nat) :
    (rsuDeviceDelete d w).path e = if e = d then none else w.path e := by
  obtain ⟨p, hp⟩ := Option.isSome_iff_exists.mp hd
  obtain ⟨dev, hdev, -⟩ := Option.map_eq_some_iff.mp hp
  have hcore : w.core d = some dev.core := core_of_device hdev
  rw [path_eq_core, path_eq_core, (frees_rsuDeviceDelete hcore).2]
  split <;> rfl

/-! ## Discovery -/

/-- The steps of a construction are queued, and nothing else happens. -/
theorem queueConstruction_queue? {k : TaskQueueKey} {q : TaskQueue} (hq : w.queue? k = some q)
    (d : Nat) (proxy : Option ServiceProxy) :
    ∃ tasks id, ∀ k', (w.queueConstruction k d proxy).queue? k' =
      if k' = k then some { q with tasks := tasks, idleId := id } else w.queue? k' := by
  have hpush : ∀ {w : World} {q : TaskQueue} (task : Task), w.queue? k = some q →
      ∃ tasks, ∀ k', (w.pushTask k task).queue? k' =
        if k' = k then some { q with tasks := tasks } else w.queue? k' := by
    intro w q task hq
    refine ⟨q.tasks ++ [w.newAtom k], fun k' => ?_⟩
    rw [queue?_pushTask, hq]
    rfl
  obtain ⟨tasks₁, h₁⟩ := hpush
    (constructionTask d proxy .prvGetProtocolInfo (some .prvGetProtocolInfoCb)) hq
  obtain ⟨tasks₂, h₂⟩ := hpush (constructionTask d proxy .prvSubscribe none)
    ((h₁ k).trans (if_pos rfl))
  obtain ⟨tasks₃, h₃⟩ := hpush (constructionTask d proxy .prvDeclare none)
    ((h₂ k).trans (if_pos rfl))
  refine ⟨tasks₃, w.loop.nextSource, fun k' => ?_⟩
  have harm : (w.queueConstruction k d proxy).queue? k' = _ := queue?_modifyQueue _ k k' _
  rw [harm]
  by_cases hk : k' = k
  · rw [if_pos hk, if_pos hk]
    exact congrArg (Option.map _) ((h₃ k).trans (if_pos rfl))
  · rw [if_neg hk, if_neg hk]
    calc
      _ = _ := (h₃ k').trans (if_neg hk)
      _ = _ := (h₂ k').trans (if_neg hk)
      _ = _ := (h₁ k').trans (if_neg hk)

theorem queueConstruction_tasks (w : World) (k : TaskQueueKey) (d : Nat)
    (proxy : Option ServiceProxy) {a : TaskAtom} {t : ServiceTask}
    (ht : (w.queueConstruction k d proxy).tasks a = some (.service t)) :
    w.tasks a = some (.service t) ∨ a.queueId = k ∧ t.device = d := by
  have hpush : ∀ (w : World) (action : ServiceTaskAction) (callback : Option ServiceTaskCallback),
      (w.pushTask k (constructionTask d proxy action callback)).tasks a = some (.service t) →
        w.tasks a = some (.service t) ∨ a.queueId = k ∧ t.device = d := by
    intro w action callback ht
    have hrecord : (w.pushTask k (constructionTask d proxy action callback)).tasks a =
        if a = w.newAtom k then some (constructionTask d proxy action callback) else w.tasks a :=
      rfl
    rw [hrecord] at ht
    split at ht
    next ha =>
      rw [constructionTask, Option.some.injEq, Task.service.injEq] at ht
      exact .inr ⟨by rw [ha]; rfl, by rw [← ht]⟩
    · exact .inl ht
  rcases hpush _ _ _ ht with ht | hnew
  · rcases hpush _ _ _ ht with ht | hnew
    · exact hpush _ _ _ ht
    · exact .inr hnew
  · exact .inr hnew

theorem queueConstruction_log (w : World) (k : TaskQueueKey) (d : Nat)
    (proxy : Option ServiceProxy) : ∃ es, (w.queueConstruction k d proxy).log = w.log ++ es ∧
      ∀ e ∈ es, e.isAnnouncement = false := by
  let es : List Event := [.added ⟨w.nextTask, k⟩] ++
    ([.added ⟨w.nextTask + 1, k⟩] ++ [.added ⟨w.nextTask + 2, k⟩])
  refine ⟨es, ?_, by simp [es, Event.isAnnouncement]⟩
  rw [← List.append_assoc, ← List.append_assoc]
  rfl

theorem path_openConstruction (w : World) (udn ipAddress : String) (offered : DeviceServices)
    (e : Nat) : (w.openConstruction udn ipAddress offered).path e =
      if e = w.upnp.counter then some (rsuServerPath ++ "/" ++ toString w.upnp.counter)
      else w.path e := by
  rw [path_eq_core, (gains_openConstruction udn ipAddress offered).core]
  split
  · rfl
  next hne =>
    rw [World.blankConstruction, core_setDevice, if_neg hne, path_eq_core]
    rfl

theorem prvServerConstruct_registryOk {udn : String} (ipAddress : String)
    (offered : DeviceServices) (h : ServiceOk handled w) (hr : RegistryOk w)
    (hfind : w.upnp.find udn = none) :
    RegistryOk (prvServerConstruct udn ipAddress offered w) := by
  have hnone : w.upnp.serverUcMap.lookup udn = none := by
    unfold Upnp.find at hfind
    split at hfind
    · simp at hfind
    · simpa using hfind
  have hq : (w.openConstruction udn ipAddress offered).queue? w.newKey =
      some (constructionQueue (w.newCt udn)) := by
    rw [queue?_openConstruction, if_pos rfl]
  obtain ⟨tasks, id, hqueue⟩ := queueConstruction_queue? hq w.upnp.counter
    (gupnpDeviceInfoGetServices w.gupnp.nextContext offered).cmProxy
  have hrecord : ∀ a t, ((w.openConstruction udn ipAddress offered).queueConstruction w.newKey
      w.upnp.counter (gupnpDeviceInfoGetServices w.gupnp.nextContext offered).cmProxy).tasks a =
        some (.service t) → w.tasks a = some (.service t) ∨
          a.queueId = w.newKey ∧ t.device = w.upnp.counter := by
    intro a t ht
    have hopen := queueConstruction_tasks _ _ _ _ ht
    rwa [(gains_openConstruction udn ipAddress offered).tasks] at hopen
  rw [prvServerConstruct_eq udn ipAddress offered h.outer.keys.newKey]
  have hgains := gains_openConstruction (w := w) udn ipAddress offered
  have hpath := path_openConstruction w udn ipAddress offered
  have hlog : (w.openConstruction udn ipAddress offered).log = w.log := hgains.log
  have hidles : (w.openConstruction udn ipAddress offered).loop.finallyIdles =
      w.loop.finallyIdles := hgains.finallyIdles
  have hnext : (w.openConstruction udn ipAddress offered).processor.nextKey =
      w.processor.nextKey + 1 := congrArg TaskProcessor.nextKey hgains.processor
  revert hqueue hrecord
  generalize hw₂ : (w.openConstruction udn ipAddress offered).queueConstruction w.newKey
    w.upnp.counter (gupnpDeviceInfoGetServices w.gupnp.nextContext offered).cmProxy = w₂
  intro hqueue hrecord
  have hsame : w₂.path = (w.openConstruction udn ipAddress offered).path ∧
      w₂.loop.finallyIdles = (w.openConstruction udn ipAddress offered).loop.finallyIdles ∧
      w₂.processor.nextKey = (w.openConstruction udn ipAddress offered).processor.nextKey ∧
      ∃ es, w₂.log = (w.openConstruction udn ipAddress offered).log ++ es ∧
        ∀ e ∈ es, e.isAnnouncement = false := by
    rw [← hw₂]
    exact ⟨rfl, rfl, rfl, queueConstruction_log _ _ _ _⟩
  obtain ⟨hpath₂, hidles₂, hnext₂, es, hlog₂, hes⟩ := hsame
  refine ⟨?_, ?_, ?_⟩
  · refine hr.maps.construct (w.newCt udn) rfl hfind rfl rfl rfl fun d => ?_
    show (w₂.path d).isSome = true ↔ _
    rw [hpath₂, hpath]
    split
    next hd => simp [hd]
    next hd => simp [hd, World.Alive]
  · refine hr.constructions.construct h.processor (w.newCt udn) rfl hnone
      (q := { constructionQueue (w.newCt udn) with tasks := tasks, idleId := id }) rfl rfl rfl
      (fun k => ?_) (hnext₂.trans hnext) (hidles₂.trans hidles) rfl hrecord
    refine (hqueue k).trans ?_
    rw [queue?_openConstruction]
    split
    next hk => exact (if_pos hk).symm
    next hk => exact (if_neg hk).symm
  · refine hr.announced.keep (hlog₂.trans (by rw [hlog])) hes (fun p => ?_) ?_ (Nat.le_succ _)
    · show (∃ u d, w.upnp.serverUdnMap.lookup u = some d ∧ w₂.path d = some p) ↔ _
      rw [hpath₂]
      constructor
      · rintro ⟨u, d, hd, hp⟩
        have hne : d ≠ w.upnp.counter := Nat.ne_of_lt (hr.maps.bound d (hr.maps.udn u d hd))
        exact ⟨u, d, hd, by rwa [hpath, if_neg hne] at hp⟩
      · rintro ⟨u, d, hd, hp⟩
        have hne : d ≠ w.upnp.counter := Nat.ne_of_lt (hr.maps.bound d (hr.maps.udn u d hd))
        exact ⟨u, d, hd, by rwa [hpath, if_neg hne]⟩
    · intro u ct p hct hp
      change (w.upnp.serverUcMap.insert udn (w.newCt udn)).lookup u = some ct at hct
      change w₂.path ct.device = some p at hp
      rw [hpath₂, hpath] at hp
      rw [Assoc.lookup_insert_eq] at hct
      split at hp
      · exact .inr (Option.some.inj hp).symm
      next hne =>
        split at hct
        · obtain rfl := Option.some.inj hct
          exact absurd rfl hne
        · exact .inl ⟨hct, hp⟩

theorem prvServerAvailableCb_registryOk (udn ipAddress : String) (offered : DeviceServices)
    (h : ServiceOk handled w) (hr : RegistryOk w) :
    RegistryOk (prvServerAvailableCb udn ipAddress offered w) := by
  cases arrival udn ipAddress offered w with
  | unknown hfind heq =>
      rw [heq]
      exact prvServerConstruct_registryOk ipAddress offered h hr hfind
  | dangling _ _ heq =>
      rw [heq]
      exact hr.unseen (unseen_crash _)
  | present _ _ _ heq => rwa [heq]
  | extended _ hdev _ heq =>
      rw [heq]
      exact hr.unseen (unseen_appendContext hdev ipAddress offered)

theorem prvServerLost_registryOk {udn : String} {d : Nat} {p : String} (h : ServiceOk handled w)
    (hr : RegistryOk w) (hudn : w.upnp.serverUdnMap.lookup udn = some d) (hp : w.path d = some p) :
    RegistryOk (prvServerLost udn d p none w) := by
  have hemit : ServiceOk handled (w.emit (.lostServer p)) := h.backstage (backstage_emit rfl)
  have hrun := unseen_of_run (rsuTaskProcessorRemoveQueuesForSink_run
    (D := serviceSteps (fun _ => True) handled) serviceSteps_cancels p hemit
    fun _ _ _ => trivial) hemit
  change RegistryOk (rsuDeviceDelete d ((prvLostMediaServer p w).setUdnMap
    ((prvLostMediaServer p w).upnp.serverUdnMap.erase udn)))
  change Unseen (w.emit (.lostServer p)) (prvLostMediaServer p w) at hrun
  revert hrun
  generalize prvLostMediaServer p w = w₁
  intro hrun
  obtain ⟨es, hlog, hes⟩ := hrun.log
  have halive : (w₁.setUdnMap (w₁.upnp.serverUdnMap.erase udn)).Alive d := by
    show (w₁.path d).isSome = true
    rw [hrun.path]
    exact hr.maps.udn udn d hudn
  have hoff := offstage_rsuDeviceDelete d (w₁.setUdnMap (w₁.upnp.serverUdnMap.erase udn))
  have hpath : ∀ e, (rsuDeviceDelete d (w₁.setUdnMap (w₁.upnp.serverUdnMap.erase udn))).path e =
      if e = d then none else w.path e := fun e => by
    have hdelete := path_rsuDeviceDelete halive e
    rwa [show (w₁.setUdnMap (w₁.upnp.serverUdnMap.erase udn)).path = w.path from hrun.path]
      at hdelete
  revert hoff hpath
  generalize rsuDeviceDelete d (w₁.setUdnMap (w₁.upnp.serverUdnMap.erase udn)) = w₂
  intro hoff hpath
  have hmap : w₂.upnp.serverUdnMap = w.upnp.serverUdnMap.erase udn := by
    rw [hoff.upnp, ← show w₁.upnp.serverUdnMap = w.upnp.serverUdnMap from hrun.serverUdnMap]
    rfl
  have huc : w₂.upnp.serverUcMap = w.upnp.serverUcMap := by
    rw [hoff.upnp]
    exact hrun.serverUcMap
  have hcounter : w₂.upnp.counter = w.upnp.counter := by
    rw [hoff.upnp]
    exact hrun.counter
  refine ⟨?_, ?_, ?_⟩
  · refine hr.maps.shrink hcounter ?_ ?_ ?_
    · intro e he
      unfold World.Alive at he
      rw [hpath] at he
      split at he
      · simp at he
      · exact he
    · intro u e he
      rw [hmap, Assoc.lookup_erase_eq] at he
      split at he
      · simp at he
      next hne =>
        refine ⟨he, ?_⟩
        have hed : e ≠ d := fun hsame => hne (hr.maps.udnSingle u udn e he (hsame ▸ hudn))
        unfold World.Alive
        rw [hpath, if_neg hed]
        exact hr.maps.udn u e he
    · intro u ct hct
      rw [huc] at hct
      refine ⟨hct, ?_⟩
      unfold World.Alive
      rw [hpath, if_neg (hr.maps.apart udn u d ct hudn hct).2.symm]
      exact (hr.maps.uc u ct hct).2
  · have hemitted : ConstructionsOk (w.emit (.lostServer p)) :=
      hr.constructions.congr rfl rfl rfl fun _ t ht => ⟨t, ht, rfl⟩
    have hafter := hrun.constructions hemitted
    exact hafter.congr hoff.processor hoff.finallyIdles (by rw [hoff.upnp]; rfl)
      fun a t ht => ⟨t, by rw [hoff.tasks] at ht; exact ht, rfl⟩
  · refine hr.announced.lose h.outer.devices hudn hp ?_
      (fun e he => Event.not_isAnnouncement (hes e he)) hmap huc hcounter hpath
    rw [hoff.log]
    exact hlog

theorem find_some {u : Upnp} {udn : String} {d : Nat} {uc : Option DeviceNewCt}
    (h : u.find udn = some (d, uc)) : (u.serverUdnMap.lookup udn = some d ∧ uc = none) ∨
      ∃ ct, u.serverUcMap.lookup udn = some ct ∧ ct.device = d ∧ uc = some ct := by
  unfold Upnp.find at h
  split at h
  next hd =>
    obtain ⟨rfl, rfl⟩ := Prod.mk.inj (Option.some.inj h)
    exact .inl ⟨hd, rfl⟩
  · obtain ⟨ct, hct, heq⟩ := Option.map_eq_some_iff.mp h
    obtain ⟨rfl, rfl⟩ := Prod.mk.inj heq
    exact .inr ⟨ct, hct, rfl, rfl⟩

theorem MapsOk.find_device (hmaps : MapsOk w) {udn : String} {d : Nat}
    {uc : Option DeviceNewCt} (hfind : w.upnp.find udn = some (d, uc)) :
    ∃ dev, w.devices d = some dev := by
  have halive : w.Alive d := by
    rcases find_some hfind with ⟨hudn, -⟩ | ⟨ct, hct, rfl, -⟩
    · exact hmaps.udn udn d hudn
    · exact (hmaps.uc udn ct hct).2
  obtain ⟨p, hp⟩ := Option.isSome_iff_exists.mp halive
  obtain ⟨dev, hdev, -⟩ := Option.map_eq_some_iff.mp hp
  exact ⟨dev, hdev⟩

theorem prvServerUnavailableCb_registryOk (udn ipAddress : String) (h : ServiceOk handled w)
    (hr : RegistryOk w) : RegistryOk (prvServerUnavailableCb udn ipAddress w) := by
  cases departure udn ipAddress w with
  | ignored _ heq => rwa [heq]
  | dangling _ _ heq =>
      rw [heq]
      exact hr.unseen (unseen_crash _)
  | @last d uc dev context hdeparting _ heq =>
      rw [heq]
      have hremoved := h.departing hdeparting
      have hunseen := unseen_departing hdeparting
      have hafter := hr.unseen hunseen
      rcases find_some hdeparting.find with ⟨hudn, rfl⟩ | ⟨ct, -, -, rfl⟩
      · refine prvServerLost_registryOk hremoved hafter ?_ ?_
        · rw [hunseen.serverUdnMap]
          exact hudn
        · rw [hunseen.path, World.path, hdeparting.device]
          rfl
      · refine hafter.unseen ?_
        exact unseen_cancelQueue ct.queueId hremoved
  | @later d _ _ _ hdeparting _ _ heq =>
      rw [heq]
      exact (hr.unseen (unseen_departing hdeparting)).unseen
        (.of_cosmetic (cosmetic_subscribeLater d))
  | other hdeparting _ _ heq =>
      rw [heq]
      exact hr.unseen (unseen_departing hdeparting)

/-- The idle of a queue has left the loop, and the end of its construction is logged. -/
def World.chainEnded (w : World) (q : TaskQueue) (ct : DeviceNewCt) : World :=
  (w.setLoop { w.loop with finallyIdles := w.loop.finallyIdles.erase q }).emit
    (.chainEnd q.cancelled ct.udn)

/-- The device of a construction that was cancelled is deleted. -/
theorem RegistryOk.drop (hr : RegistryOk w) {q : TaskQueue} (hmem : q ∈ w.loop.finallyIdles)
    {ct : DeviceNewCt} (hdata : q.userData = some ct) (hct : w.Constructs ct)
    (hnone : w.queue? ct.queueId = none) :
    RegistryOk (rsuDeviceDelete ct.device
      ((w.chainEnded q ct).setUcMap (w.upnp.serverUcMap.erase ct.udn))) := by
  have halive : ((w.chainEnded q ct).setUcMap (w.upnp.serverUcMap.erase ct.udn)).Alive ct.device :=
    (hr.maps.uc _ _ hct).2
  have hoff := offstage_rsuDeviceDelete ct.device
    ((w.chainEnded q ct).setUcMap (w.upnp.serverUcMap.erase ct.udn))
  have hpath : ∀ e, (rsuDeviceDelete ct.device
      ((w.chainEnded q ct).setUcMap (w.upnp.serverUcMap.erase ct.udn))).path e =
        if e = ct.device then none else w.path e := path_rsuDeviceDelete halive
  revert hoff hpath
  generalize rsuDeviceDelete ct.device
    ((w.chainEnded q ct).setUcMap (w.upnp.serverUcMap.erase ct.udn)) = w₂
  intro hoff hpath
  have huc : w₂.upnp.serverUcMap = w.upnp.serverUcMap.erase ct.udn := by
    rw [hoff.upnp]
    rfl
  have hmap : w₂.upnp.serverUdnMap = w.upnp.serverUdnMap := by
    rw [hoff.upnp]
    rfl
  have hcounter : w₂.upnp.counter = w.upnp.counter := by
    rw [hoff.upnp]
    rfl
  have hshrink : ∀ e p, w₂.path e = some p → e ≠ ct.device ∧ w.path e = some p := by
    intro e p he
    rw [hpath] at he
    split at he
    · simp at he
    next hne => exact ⟨hne, he⟩
  have hother : ∀ u ct', w₂.upnp.serverUcMap.lookup u = some ct' →
      w.upnp.serverUcMap.lookup u = some ct' ∧ ct'.device ≠ ct.device := by
    intro u ct' hct'
    rw [huc, Assoc.lookup_erase_eq] at hct'
    split at hct'
    · simp at hct'
    next hne =>
      exact ⟨hct', fun hsame => hne (hr.maps.ucSingle _ _ _ _ hct' hct hsame)⟩
  have hdevice : ∀ u e, w.upnp.serverUdnMap.lookup u = some e → e ≠ ct.device :=
    fun u e he => (hr.maps.apart _ _ _ _ he hct).2
  refine ⟨?_, ?_, ?_⟩
  · refine hr.maps.shrink hcounter ?_ ?_ ?_
    · intro e he
      obtain ⟨p', hp'⟩ := Option.isSome_iff_exists.mp he
      unfold World.Alive
      rw [(hshrink e p' hp').2]
      rfl
    · intro u e he
      rw [hmap] at he
      refine ⟨he, ?_⟩
      unfold World.Alive
      rw [hpath, if_neg (hdevice u e he)]
      exact hr.maps.udn u e he
    · intro u ct' hct'
      obtain ⟨hold, hne⟩ := hother u ct' hct'
      refine ⟨hold, ?_⟩
      unfold World.Alive
      rw [hpath, if_neg hne]
      exact (hr.maps.uc u ct' hold).2
  · exact hr.constructions.finish hr.maps hmem hdata hct hnone hoff.processor
      hoff.finallyIdles huc hoff.tasks
  · refine hr.announced.keep hoff.log (by simp [Event.isAnnouncement]) ?_ ?_
      (Nat.le_of_eq hcounter.symm)
    · intro p'
      rw [hmap]
      constructor
      · rintro ⟨u, e, he, hp'⟩
        exact ⟨u, e, he, (hshrink e p' hp').2⟩
      · rintro ⟨u, e, he, hp'⟩
        exact ⟨u, e, he, by rw [hpath, if_neg (hdevice u e he), hp']⟩
    · exact fun u ct' p' hct' hp' => .inl ⟨(hother u ct' hct').1, (hshrink _ _ hp').2⟩

/-- The device of a construction that went through is announced. -/
theorem RegistryOk.announce (h : ServiceOk handled w) (hr : RegistryOk w) {q : TaskQueue}
    (hmem : q ∈ w.loop.finallyIdles) {ct : DeviceNewCt} (hdata : q.userData = some ct)
    (hct : w.Constructs ct) (hnone : w.queue? ct.queueId = none) :
    RegistryOk ((w.chainEnded q ct).withDevice ct.device fun dev =>
      let w₂ := prvFoundMediaServer dev.path
        (serverUdnMapInsert ct.udn ct.device (w.chainEnded q ct))
      w₂.setUcMap (w₂.upnp.serverUcMap.erase ct.udn)) := by
  obtain ⟨p, hp⟩ := Option.isSome_iff_exists.mp (hr.maps.uc _ _ hct).2
  obtain ⟨dev, hdev, hpdev⟩ := Option.map_eq_some_iff.mp hp
  have hdev₁ : (w.chainEnded q ct).devices ct.device = some dev := hdev
  have hlookup : (w.chainEnded q ct).upnp.serverUdnMap.lookup ct.udn = none := by
    by_contra hne
    obtain ⟨d, hd⟩ := Option.ne_none_iff_exists'.mp hne
    exact (hr.maps.apart _ _ _ _ hd hct).1 rfl
  have hinsert : serverUdnMapInsert ct.udn ct.device (w.chainEnded q ct) =
      (w.chainEnded q ct).setUdnMap
        ((w.chainEnded q ct).upnp.serverUdnMap.insert ct.udn ct.device) := by
    simp only [serverUdnMapInsert, hlookup]
  simp only [World.withDevice, hdev₁, hinsert, hpdev]
  refine ⟨?_, ?_, ?_⟩
  · exact hr.maps.declare hct rfl rfl rfl rfl
  · exact hr.constructions.finish hr.maps hmem hdata hct hnone rfl rfl rfl rfl
  · exact hr.announced.declare h.outer.devices hr.maps hct hp
      (show _ = w.log ++ [.chainEnd q.cancelled ct.udn] ++ [.foundServer p] from rfl)
      (by simp [Event.isAnnouncement]) rfl rfl rfl rfl

/-- The idle that ends a construction, whose device is announced or deleted. -/
theorem finallyIdle_registryOk {q : TaskQueue} (h : ServiceOk handled w) (hr : RegistryOk w)
    (hmem : q ∈ w.loop.finallyIdles) : RegistryOk (exec w (.finallyIdle q)) := by
  obtain ⟨ct, hdata, hct, hnone, -⟩ := hr.constructions.idles q hmem
  have hexec : exec w (.finallyIdle q) = prvDeviceChainEnd q.cancelled ct
      (w.setLoop { w.loop with finallyIdles := w.loop.finallyIdles.erase q }) := by
    show prvTaskQueueFinallyCb q _ = _
    simp only [prvTaskQueueFinallyCb, hdata]
  rw [hexec, prvDeviceChainEnd]
  split
  · exact hr.drop hmem hdata hct hnone
  · exact hr.announce h hmem hdata hct hnone

theorem rehash_registryOk {queues : Assoc.Table TaskQueueKey TaskQueue}
    {devices : Assoc.Table String Nat} (h : ServiceOk handled w) (hr : RegistryOk w)
    (hqueues : queues.entries.Perm w.processor.taskQueues.entries)
    (hdevices : devices.entries.Perm w.upnp.serverUdnMap.entries) :
    RegistryOk ((w.setQueues queues).setUdnMap devices) := by
  have hlookup : ∀ u, devices.lookup u = w.upnp.serverUdnMap.lookup u :=
    fun u => AList.perm_lookup hdevices
  have hstep : Step Elsewhere w .rehash (w.setQueues queues) := .rehash hqueues
  have hsame : ConstructionsOk (w.setQueues queues) :=
    hr.constructions.step h hstep (by simp) (show Act.rehash.Within fun _ => True from trivial)
  refine ⟨?_, hsame.congr rfl rfl rfl fun _ t ht => ⟨t, ht, rfl⟩, ?_⟩
  · exact hr.maps.shrink rfl (fun _ hd => hd)
      (fun u d hd => ⟨(hlookup u).symm.trans hd, hr.maps.udn u d ((hlookup u).symm.trans hd)⟩)
      fun u ct hct => ⟨hct, (hr.maps.uc u ct hct).2⟩
  · refine hr.announced.keep (List.append_nil _).symm (by simp) (fun p => ?_)
      (fun u ct p hct hp => .inl ⟨hct, hp⟩) (Nat.le_refl _)
    show (∃ u d, devices.lookup u = some d ∧ w.path d = some p) ↔ _
    simp only [hlookup]

theorem exec_registryOk {i : Input} (h : ServiceOk none w) (hr : RegistryOk w)
    (henabled : i.enabled w = true) (hfree : i ≠ .contextFree) : RegistryOk (exec w i) := by
  by_cases hi : i.isDiscovery = false
  · exact hr.unseen (exec_unseen h henabled hi)
  · cases i with
    | available udn ipAddress offered => exact prvServerAvailableCb_registryOk _ _ _ h hr
    | unavailable udn ipAddress => exact prvServerUnavailableCb_registryOk _ _ h hr
    | finallyIdle q =>
        have hmem : q ∈ w.loop.finallyIdles := by simp_all [Input.enabled]
        exact finallyIdle_registryOk h hr hmem
    | rehash queues devices =>
        simp only [Input.enabled, Bool.and_eq_true, List.isPerm_iff] at henabled
        exact rehash_registryOk h hr henabled.2.1 henabled.2.2
    | contextFree => exact absurd rfl hfree
    | _ => exact absurd rfl hi

end RendererService
