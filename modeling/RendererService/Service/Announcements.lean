import RendererService.Service.Renderers
import RendererService.Service.Runs

/-!
# Announcements

Renderers are announced when their construction has ended and withdrawn when
they are lost.  The log of announcements agrees with the map of the renderers
that are known, since both change together.
-/

namespace RendererService

variable {w w' : World} {es : List Event} {p : String}

/-! ## The log of announcements -/

def Event.isAnnouncement : Event → Bool
  | .foundServer _ | .lostServer _ => true
  | _ => false

theorem Event.not_isAnnouncement {e : Event} (h : e.isMute = false) :
    e.isAnnouncement = false := by
  cases e <;> simp_all [Event.isMute, Event.isAnnouncement]

structure AnnouncementsOk (log : List Event) : Prop where
  foundOnce : ∀ p, log.count (.foundServer p) ≤ 1
  lostOnce : ∀ p, log.count (.lostServer p) ≤ 1
  ordered : Log.Before (fun past e => ∀ p, e = .lostServer p → .foundServer p ∈ past) log

theorem mem_append_quiet {log : List Event} {e : Event} (he : e.isAnnouncement = true)
    (hes : ∀ e ∈ es, e.isAnnouncement = false) : e ∈ log ++ es ↔ e ∈ log := by
  rw [List.mem_append]
  exact or_iff_left fun hmem => absurd (he.symm.trans (hes e hmem)) (by simp)

theorem count_append_quiet {log : List Event} {e : Event} (he : e.isAnnouncement = true)
    (hes : ∀ e ∈ es, e.isAnnouncement = false) : (log ++ es).count e = log.count e := by
  have hzero : es.count e = 0 :=
    List.count_eq_zero.mpr fun hmem => absurd (he.symm.trans (hes e hmem)) (by simp)
  rw [List.count_append, hzero, Nat.add_zero]

namespace AnnouncementsOk

variable {log : List Event}

theorem quiet (h : AnnouncementsOk log) (hes : ∀ e ∈ es, e.isAnnouncement = false) :
    AnnouncementsOk (log ++ es) := by
  refine ⟨fun p => ?_, fun p => ?_, h.ordered.append_of_forall fun e he past p heq => ?_⟩
  · rw [count_append_quiet rfl hes]
    exact h.foundOnce p
  · rw [count_append_quiet rfl hes]
    exact h.lostOnce p
  · exact absurd (hes e he) (by simp [heq, Event.isAnnouncement])

theorem found (h : AnnouncementsOk log) (hnew : .foundServer p ∉ log) :
    AnnouncementsOk (log ++ [.foundServer p]) := by
  refine ⟨fun p' => ?_, fun p' => ?_, h.ordered.snoc fun p' heq => absurd heq (by simp)⟩
  · rw [List.count_append, List.count_singleton]
    by_cases hp : p = p'
    · subst hp
      have hzero := List.count_eq_zero.mpr hnew
      simp [hzero]
    · have hone := h.foundOnce p'
      simp [hp, hone]
  · rw [List.count_append, List.count_singleton]
    simpa using h.lostOnce p'

theorem lost (h : AnnouncementsOk log) (hfound : .foundServer p ∈ log)
    (hnew : .lostServer p ∉ log) : AnnouncementsOk (log ++ [.lostServer p]) := by
  refine ⟨fun p' => ?_, fun p' => ?_, h.ordered.snoc fun p' heq => ?_⟩
  · rw [List.count_append, List.count_singleton]
    simpa using h.foundOnce p'
  · rw [List.count_append, List.count_singleton]
    by_cases hp : p = p'
    · subst hp
      have hzero := List.count_eq_zero.mpr hnew
      simp [hzero]
    · have hone := h.lostOnce p'
      simp [hp, hone]
  · obtain rfl := Event.lostServer.inj heq
    exact hfound

theorem found_of_lost (h : AnnouncementsOk log) (hlost : .lostServer p ∈ log) :
    .foundServer p ∈ log := by
  obtain ⟨past, future, hsplit⟩ := List.append_of_mem hlost
  rw [hsplit]
  exact List.mem_append_left _ (h.ordered past _ future hsplit p rfl)

end AnnouncementsOk

/-! ## The announcements and the maps -/

theorem devicePath_injective {d e : Nat}
    (h : rsuServerPath ++ "/" ++ toString d = rsuServerPath ++ "/" ++ toString e) : d = e :=
  toString_injective (by simpa using h)

theorem DevicesOk.path_eq (h : DevicesOk w) {d : Nat} (hp : w.path d = some p) :
    p = rsuServerPath ++ "/" ++ toString d := by
  obtain ⟨dev, hdev, rfl⟩ := Option.map_eq_some_iff.mp hp
  exact h.path d dev.core (core_of_device hdev)

structure AnnouncedOk (w : World) : Prop where
  announcements : AnnouncementsOk w.log
  known : ∀ p, (.foundServer p ∈ w.log ∧ .lostServer p ∉ w.log) ↔
    ∃ udn d, w.upnp.serverUdnMap.lookup udn = some d ∧ w.path d = some p
  constructing : ∀ udn ct p, w.upnp.serverUcMap.lookup udn = some ct →
    w.path ct.device = some p → .foundServer p ∉ w.log
  fresh : ∀ p, .foundServer p ∈ w.log → ∃ d < w.upnp.counter,
    p = rsuServerPath ++ "/" ++ toString d

namespace AnnouncedOk

theorem keep (h : AnnouncedOk w) (hlog : w'.log = w.log ++ es)
    (hes : ∀ e ∈ es, e.isAnnouncement = false)
    (hknown : ∀ p, (∃ udn d, w'.upnp.serverUdnMap.lookup udn = some d ∧ w'.path d = some p) ↔
      ∃ udn d, w.upnp.serverUdnMap.lookup udn = some d ∧ w.path d = some p)
    (huc : ∀ udn ct p, w'.upnp.serverUcMap.lookup udn = some ct → w'.path ct.device = some p →
      (w.upnp.serverUcMap.lookup udn = some ct ∧ w.path ct.device = some p) ∨
        p = rsuServerPath ++ "/" ++ toString w.upnp.counter)
    (hcounter : w.upnp.counter ≤ w'.upnp.counter) : AnnouncedOk w' := by
  refine ⟨hlog ▸ h.announcements.quiet hes, fun p => ?_, ?_, ?_⟩
  · rw [hlog, mem_append_quiet rfl hes, mem_append_quiet rfl hes, hknown]
    exact h.known p
  · intro udn ct p hct hp hfound
    rw [hlog, mem_append_quiet rfl hes] at hfound
    rcases huc udn ct p hct hp with ⟨hct, hp⟩ | rfl
    · exact h.constructing udn ct p hct hp hfound
    · obtain ⟨d, hd, heq⟩ := h.fresh _ hfound
      have hsame := devicePath_injective heq
      omega
  · intro p hfound
    rw [hlog, mem_append_quiet rfl hes] at hfound
    obtain ⟨d, hd, hp⟩ := h.fresh p hfound
    exact ⟨d, by omega, hp⟩

theorem calm (h : AnnouncedOk w) (hc : Calm w w') : AnnouncedOk w' := by
  obtain ⟨es, hlog, hes⟩ := hc.log
  refine h.keep hlog (fun e he => Event.not_isAnnouncement (hes e he)) ?_ ?_
    (Nat.le_of_eq hc.counter.symm)
  · rw [hc.serverUdnMap, hc.path]
    exact fun _ => Iff.rfl
  · rw [hc.serverUcMap, hc.path]
    exact fun _ _ _ hct hp => .inl ⟨hct, hp⟩

theorem lose (h : AnnouncedOk w) (hdevices : DevicesOk w) {udn : String} {d : Nat}
    (hudn : w.upnp.serverUdnMap.lookup udn = some d) (hp : w.path d = some p)
    (hlog : w'.log = w.log ++ [.lostServer p] ++ es) (hes : ∀ e ∈ es, e.isAnnouncement = false)
    (hmap : w'.upnp.serverUdnMap = w.upnp.serverUdnMap.erase udn)
    (huc : w'.upnp.serverUcMap = w.upnp.serverUcMap) (hcounter : w'.upnp.counter = w.upnp.counter)
    (hpath : ∀ e, w'.path e = if e = d then none else w.path e) : AnnouncedOk w' := by
  have hnow := (h.known p).mpr ⟨udn, d, hudn, hp⟩
  have hfound : ∀ p', .foundServer p' ∈ w'.log ↔ .foundServer p' ∈ w.log := by
    intro p'
    rw [hlog, mem_append_quiet rfl hes, List.mem_append]
    simp
  have hlost : ∀ p', .lostServer p' ∈ w'.log ↔ .lostServer p' ∈ w.log ∨ p' = p := by
    intro p'
    rw [hlog, mem_append_quiet rfl hes, List.mem_append]
    simp
  have hpath' : ∀ e p', w'.path e = some p' → e ≠ d ∧ w.path e = some p' := by
    intro e p' he
    rw [hpath] at he
    split at he
    · simp at he
    next hne => exact ⟨hne, he⟩
  refine ⟨?_, fun p' => ?_, ?_, ?_⟩
  · rw [hlog]
    exact (h.announcements.lost hnow.1 hnow.2).quiet hes
  · rw [hfound, hlost, not_or, ← and_assoc, h.known, hmap]
    constructor
    · rintro ⟨⟨udn', d', hudn', hp'⟩, hne⟩
      have hd : d' ≠ d := by
        rintro rfl
        exact hne (Option.some.inj (hp'.symm.trans hp))
      refine ⟨udn', d', ?_, (hpath d').trans ((if_neg hd).trans hp')⟩
      rw [Assoc.lookup_erase_eq, if_neg]
      · exact hudn'
      · rintro rfl
        exact hd (Option.some.inj (hudn'.symm.trans hudn))
    · rintro ⟨udn', d', hudn', hp'⟩
      obtain ⟨hd, hp'⟩ := hpath' d' p' hp'
      rw [Assoc.lookup_erase_eq] at hudn'
      split at hudn'
      · simp at hudn'
      · refine ⟨⟨udn', d', hudn', hp'⟩, ?_⟩
        rintro rfl
        exact hd (devicePath_injective ((hdevices.path_eq hp').symm.trans (hdevices.path_eq hp)))
  · intro udn' ct p' hct hp'
    rw [huc] at hct
    rw [hfound]
    exact h.constructing udn' ct p' hct (hpath' _ _ hp').2
  · intro p' hp'
    rw [hfound] at hp'
    rw [hcounter]
    exact h.fresh p' hp'

theorem declare (h : AnnouncedOk w) (hdevices : DevicesOk w) (hmaps : MapsOk w) {ct : DeviceNewCt}
    (hct : w.Constructs ct) (hp : w.path ct.device = some p)
    (hlog : w'.log = w.log ++ es ++ [.foundServer p]) (hes : ∀ e ∈ es, e.isAnnouncement = false)
    (hmap : w'.upnp.serverUdnMap = w.upnp.serverUdnMap.insert ct.udn ct.device)
    (huc : w'.upnp.serverUcMap = w.upnp.serverUcMap.erase ct.udn)
    (hcounter : w'.upnp.counter = w.upnp.counter) (hpath : w'.path = w.path) : AnnouncedOk w' := by
  have hnew := h.constructing _ _ _ hct hp
  have hfound : ∀ p', .foundServer p' ∈ w'.log ↔ .foundServer p' ∈ w.log ∨ p' = p := by
    intro p'
    rw [hlog, List.mem_append, mem_append_quiet rfl hes]
    simp
  have hlost : ∀ p', .lostServer p' ∈ w'.log ↔ .lostServer p' ∈ w.log := by
    intro p'
    rw [hlog, List.mem_append, mem_append_quiet rfl hes]
    simp
  have hnone : w.upnp.serverUdnMap.lookup ct.udn = none := by
    by_contra hne
    obtain ⟨d, hd⟩ := Option.ne_none_iff_exists'.mp hne
    exact (hmaps.apart _ _ _ _ hd hct).1 rfl
  refine ⟨?_, fun p' => ?_, ?_, ?_⟩
  · rw [hlog]
    refine (h.announcements.quiet hes).found ?_
    rwa [mem_append_quiet rfl hes]
  · rw [hfound, hlost, hmap, hpath]
    constructor
    · rintro ⟨hold | rfl, hlive⟩
      · obtain ⟨udn, d, hd, hp'⟩ := (h.known p').mp ⟨hold, hlive⟩
        refine ⟨udn, d, ?_, hp'⟩
        rw [Assoc.lookup_insert_eq, if_neg]
        · exact hd
        · rintro rfl
          exact absurd (hnone.symm.trans hd) (by simp)
      · exact ⟨ct.udn, ct.device, by rw [Assoc.lookup_insert_eq, if_pos rfl], hp⟩
    · rintro ⟨udn, d, hd, hp'⟩
      rw [Assoc.lookup_insert_eq] at hd
      split at hd
      · obtain rfl := Option.some.inj hd
        obtain rfl := Option.some.inj (hp.symm.trans hp')
        exact ⟨.inr rfl, fun hlost' => hnew (h.announcements.found_of_lost hlost')⟩
      · obtain ⟨hold, hlive⟩ := (h.known p').mpr ⟨udn, d, hd, hp'⟩
        exact ⟨.inl hold, hlive⟩
  · intro udn ct' p' hct' hp' hmem
    rw [huc, Assoc.lookup_erase_eq] at hct'
    split at hct'
    · simp at hct'
    next hne =>
      rw [hpath] at hp'
      rcases (hfound p').mp hmem with hold | rfl
      · exact h.constructing udn ct' p' hct' hp' hold
      · refine hne (hmaps.ucSingle _ _ _ _ hct' hct ?_)
        exact devicePath_injective ((hdevices.path_eq hp').symm.trans (hdevices.path_eq hp))
  · intro p' hmem
    rw [hcounter]
    rcases (hfound p').mp hmem with hold | rfl
    · exact h.fresh p' hold
    · exact ⟨ct.device, hmaps.bound _ (hmaps.uc _ _ hct).2, hdevices.path_eq hp⟩

end AnnouncedOk

end RendererService
