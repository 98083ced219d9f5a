import RendererService.Host.Shape

/-!
# Unfinished transfers

A file keeps one reference to its mapping for every request that it answered
and that has not finished.  Unfinished responses keep the file only as long as
its last client does not leave: `prv_host_file_delete` does not look at them.
-/

namespace RendererService

/-! ## Mappings -/

/-- Each mapping is held by one file, with the references that the file counts. -/
structure MappingsOk (h : HostService) : Prop where
  unmapped : ∀ i f hf, h.file? i f = some hf → hf.mappedFile = none → hf.mappedCount = 0
  mapped : ∀ i f hf m, h.file? i f = some hf → hf.mappedFile = some m →
    m < h.nextMapping ∧ 0 < hf.mappedCount ∧ h.mappings m = hf.mappedCount
  owner : ∀ i f j g hf hg m, h.file? i f = some hf → h.file? j g = some hg →
    hf.mappedFile = some m → hg.mappedFile = some m → i = j ∧ f = g

/-- The mapping of a file is the one it had, or a new one. -/
def KeepsMapping (h h' : HostService) (old : Option HostFile) (hf : HostFile) : Prop :=
  (hf.mappedFile = none → hf.mappedCount = 0) ∧
    ∀ m, hf.mappedFile = some m →
      m < h'.nextMapping ∧ 0 < hf.mappedCount ∧ h'.mappings m = hf.mappedCount ∧
        ((∃ hf₀, old = some hf₀ ∧ hf₀.mappedFile = some m) ∨ h.nextMapping ≤ m)

theorem MappingsOk.update {h h' : HostService} (hok : MappingsOk h) {i f : String}
    {new : Option HostFile}
    (hfile : ∀ j g, h'.file? j g = if j = i ∧ g = f then new else h.file? j g)
    (hnext : h.nextMapping ≤ h'.nextMapping)
    (hmappings : ∀ m < h.nextMapping,
      (∀ hf, h.file? i f = some hf → hf.mappedFile ≠ some m) → h'.mappings m = h.mappings m)
    (hnew : ∀ hf, new = some hf → KeepsMapping h h' (h.file? i f) hf) : MappingsOk h' := by
  have hother : ∀ j g hg m, ¬(j = i ∧ g = f) → h.file? j g = some hg →
      hg.mappedFile = some m → ∀ hf, h.file? i f = some hf → hf.mappedFile ≠ some m := by
    intro j g hg m hne hgfile hgm hf hffile hfm
    obtain ⟨rfl, rfl⟩ := hok.owner j g i f hg hf m hgfile hffile hgm hfm
    exact hne ⟨rfl, rfl⟩
  -- a file that is written has no mapping of another file
  have hfresh : ∀ j g hg hf m, ¬(j = i ∧ g = f) → h.file? j g = some hg →
      hg.mappedFile = some m → new = some hf → hf.mappedFile ≠ some m := by
    intro j g hg hf m hne hgfile hgm hfnew hfm
    rcases ((hnew hf hfnew).2 m hfm).2.2.2 with ⟨hf₀, hold, hold'⟩ | hle
    · exact hother j g hg m hne hgfile hgm hf₀ hold hold'
    · have := (hok.mapped j g hg m hgfile hgm).1
      omega
  refine ⟨fun j g hg hgfile hnone => ?_, fun j g hg m hgfile hgm => ?_,
    fun j g j' g' hg hg' m hgfile hgfile' hgm hgm' => ?_⟩
  · rw [hfile] at hgfile
    split at hgfile
    · exact (hnew hg hgfile).1 hnone
    · exact hok.unmapped j g hg hgfile hnone
  · rw [hfile] at hgfile
    split at hgfile
    · obtain ⟨hlt, hpos, hcount, -⟩ := (hnew hg hgfile).2 m hgm
      exact ⟨hlt, hpos, hcount⟩
    · next hne =>
        obtain ⟨hlt, hpos, hcount⟩ := hok.mapped j g hg m hgfile hgm
        refine ⟨Nat.lt_of_lt_of_le hlt hnext, hpos, ?_⟩
        rw [hmappings m hlt (hother j g hg m hne hgfile hgm), hcount]
  · rw [hfile] at hgfile hgfile'
    split at hgfile
    · next hat =>
        split at hgfile'
        · next hat' => exact ⟨hat.1.trans hat'.1.symm, hat.2.trans hat'.2.symm⟩
        · next hne' => exact absurd hgm (hfresh j' g' hg' hg m hne' hgfile' hgm' hgfile)
    · next hne =>
        split at hgfile'
        · exact absurd hgm' (hfresh j g hg hg' m hne hgfile hgm hgfile')
        · exact hok.owner j g j' g' hg hg' m hgfile hgfile' hgm hgm'

theorem MappingsOk.congr {h h' : HostService} (hok : MappingsOk h)
    (hfile : ∀ j g, h'.file? j g = h.file? j g) (hnext : h'.nextMapping = h.nextMapping)
    (hmappings : h'.mappings = h.mappings) : MappingsOk h' where
  unmapped i f hf hlookup := hok.unmapped i f hf (hfile i f ▸ hlookup)
  mapped i f hf m hlookup hm := by
    rw [hnext, hmappings]
    exact hok.mapped i f hf m (hfile i f ▸ hlookup) hm
  owner i f j g hf hg m hlookup hlookup' :=
    hok.owner i f j g hf hg m (hfile i f ▸ hlookup) (hfile j g ▸ hlookup')

namespace MappingsOk

variable {h h' : HostService}

theorem init : MappingsOk {} where
  unmapped i f hf hfile := by simp [HostService.file?] at hfile
  mapped i f hf m hfile := by simp [HostService.file?] at hfile
  owner i f j g hf hg m hfile := by simp [HostService.file?] at hfile

theorem keeps (hok : MappingsOk h) {i f : String} {hf hf' : HostFile}
    (hfile : h.file? i f = some hf) (hmapped : hf'.mappedFile = hf.mappedFile)
    (hcount : hf'.mappedCount = hf.mappedCount) (hnext : h'.nextMapping = h.nextMapping)
    (hmappings : h'.mappings = h.mappings) : KeepsMapping h h' (h.file? i f) hf' := by
  refine ⟨fun hnone => ?_, fun m hm => ?_⟩
  · rw [hcount]
    exact hok.unmapped i f hf hfile (hmapped ▸ hnone)
  · rw [hmapped] at hm
    obtain ⟨hlt, hpos, href⟩ := hok.mapped i f hf m hfile hm
    rw [hcount, hnext, hmappings]
    exact ⟨hlt, hpos, href, .inl ⟨hf, hfile, hm⟩⟩

theorem add (hok : MappingsOk h) (env : HostEnvironment) (i c f : String) :
    MappingsOk (rsuHostServiceAdd env i c f h).2 := by
  have hsame : (rsuHostServiceAdd env i c f h).2.nextMapping = h.nextMapping ∧
      (rsuHostServiceAdd env i c f h).2.mappings = h.mappings := by
    have hadds := rsuHostServiceAdd_adds env i c f h
    revert hadds
    generalize rsuHostServiceAdd env i c f h = result
    intro hadds
    cases hadds with
    | refused _ _ => exact ⟨rfl, rfl⟩
    | served _ _ => exact ⟨rfl, rfl⟩
  obtain ⟨hnext, hmappings⟩ := hsame
  cases hresult : rsuHostServiceAdd env i c f h with
  | mk url h' =>
      rw [hresult] at hnext hmappings
      cases url with
      | error error =>
          exact hok.congr (HostService.file?_add_failed hresult) hnext hmappings
      | ok url =>
          obtain ⟨hf', hfile, hadded, -⟩ := HostService.file?_add_ok hresult
          refine hok.update hfile (Nat.le_of_eq hnext.symm) (fun m _ _ => by rw [hmappings]) ?_
          rintro _ ⟨⟩
          generalize hold : h.file? i f = old at hadded
          cases hadded with
          | known hf =>
              rw [← hold]
              refine hok.keeps hold ?_ ?_ hnext hmappings
              · unfold HostFile.withClient
                split <;> rfl
              · unfold HostFile.withClient
                split <;> rfl
          | new _ hmapped hcount _ =>
              refine ⟨fun _ => hcount, fun m hm => ?_⟩
              rw [hmapped] at hm
              simp at hm

/-- A file without clients gives back its references; another keeps its own. -/
theorem storeFile (hok : MappingsOk h) {i f : String} {server : HostServer} {hf hf' : HostFile}
    (hserver : h.servers.lookup i = some server) (hfile : server.files.lookup f = some hf)
    (hmapped : hf'.mappedFile = hf.mappedFile) (hcount : hf'.mappedCount = hf.mappedCount) :
    MappingsOk (h.storeFile i f hf') := by
  have hfile? : h.file? i f = some hf := by rw [HostService.file?_eq hserver, hfile]
  have hlookup : ∀ j g, (h.storeFile i f hf').file? j g =
      if j = i ∧ g = f then (if hf'.clients = [] then none else some hf')
      else h.file? j g := by
    intro j g
    rw [HostService.file?, HostService.lookup_storeFile]
    by_cases hj : j = i
    · subst hj
      rw [if_pos rfl, hserver, Option.map_some, Option.bind_some, HostService.file?_eq hserver]
      split <;> simp [Assoc.lookup_erase_eq, Assoc.lookup_insert_eq]
    · simp [hj, HostService.file?]
  by_cases hempty : hf'.clients = []
  · have hstore : h.storeFile i f hf' =
        (h.modifyFiles i fun files => files.erase f).unrefMapping hf'.mappedFile
          hf'.mappedCount := by
      rw [HostService.storeFile, if_pos hempty, prvHostFileDelete]
    refine hok.update hlookup ?_ (fun m _ hne => ?_) ?_
    · rw [hstore]
      exact Nat.le_refl _
    · rw [hstore]
      refine if_neg fun hm => hne hf hfile? ?_
      rw [← hmapped, ← hm]
    · rw [if_pos hempty]
      simp
  · have hstore : h.storeFile i f hf' = h.setFile i f hf' := if_neg hempty
    refine hok.update hlookup ?_ (fun m _ _ => ?_) ?_
    · rw [hstore]
      exact Nat.le_refl _
    · rw [hstore]
      rfl
    · rw [if_neg hempty]
      rintro _ ⟨⟩
      exact hok.keeps hfile? hmapped hcount (by rw [hstore]; rfl) (by rw [hstore]; rfl)

theorem pruneServer (hok : MappingsOk h) (i : String) : MappingsOk (h.pruneServer i) := by
  have hfile : ∀ j g, (h.pruneServer i).file? j g = h.file? j g := by
    intro j g
    rw [HostService.file?, HostService.lookup_pruneServer]
    by_cases hj : j = i
    · subst hj
      rw [if_pos rfl]
      cases hserver : h.servers.lookup j with
      | none => simp [HostService.file?, hserver]
      | some server =>
          rw [Option.bind_some, HostServer.lookup_kept, HostService.file?_eq hserver]
    · simp [hj, HostService.file?]
  have hsame : (h.pruneServer i).nextMapping = h.nextMapping ∧
      (h.pruneServer i).mappings = h.mappings := by
    unfold HostService.pruneServer
    split
    · split
      · next hempty =>
          rw [List.length_eq_zero_iff] at hempty
          simp [prvHostServerDelete, hempty]
      · exact ⟨rfl, rfl⟩
    · exact ⟨rfl, rfl⟩
  exact hok.congr hfile hsame.1 hsame.2

theorem remove (hok : MappingsOk h) (i c f : String) :
    MappingsOk (rsuHostServiceRemove i c f h).2 := by
  have hremoves := rsuHostServiceRemove_removes i c f h
  revert hremoves
  generalize rsuHostServiceRemove i c f h = result
  intro hremoves
  cases hremoves with
  | absent _ => exact hok
  | @removed server hf hserver hfile _ =>
      have hstored : MappingsOk
          (h.storeFile i f { hf with clients := hf.clients.erase c }) :=
        hok.storeFile hserver hfile rfl rfl
      exact hstored.pruneServer i

theorem lostClientFile (hok : MappingsOk h) (c i f : String) :
    MappingsOk (lostClientFile c i h f) := by
  unfold RendererService.lostClientFile
  cases hfile? : h.file? i f with
  | none => exact hok
  | some hf =>
      obtain ⟨server, hserver, hfile⟩ := Option.bind_eq_some_iff.mp hfile?
      unfold HostFile.prvRemoveClient
      by_cases hmem : c ∈ hf.clients
      · simp only [if_pos hmem]
        exact hok.storeFile hserver hfile rfl rfl
      · simp only [if_neg hmem]
        exact hok

theorem lostClient (hok : MappingsOk h) (c : String) :
    MappingsOk (rsuHostServiceLostClient c h) := by
  have hfiles : ∀ (i : String) (fs : List String) (h : HostService), MappingsOk h →
      MappingsOk (fs.foldl (RendererService.lostClientFile c i) h) := by
    intro i fs
    induction fs with
    | nil => exact fun h hok => hok
    | cons f fs ih => exact fun h hok => ih _ (hok.lostClientFile c i f)
  have hservers : ∀ (is : List String) (h : HostService), MappingsOk h →
      MappingsOk (is.foldl (lostClientServer c) h) := by
    intro is
    induction is with
    | nil => exact fun h hok => hok
    | cons i is ih =>
        intro h hok
        refine ih _ ?_
        unfold lostClientServer
        split
        · exact hok
        · exact (hfiles i _ h hok).pruneServer i
  exact hservers h.servers.keys h hok

theorem refMapping (hok : MappingsOk h) {mapped : Bool} {i f : String} {hf hf' : HostFile}
    {m : Nat} {h₁ : HostService} (hfile : h.file? i f = some hf)
    (href : h.refMapping mapped hf = some (m, hf', h₁))
    (hwrap : hf.mappedCount + 1 < 2 ^ 32) :
    hf'.mappedFile = some m ∧ hf'.mappedCount = hf.mappedCount + 1 ∧
      (∀ m', hf.mappedFile = some m' → m' = m) ∧ h.nextMapping ≤ h₁.nextMapping ∧
      (∀ m' < h.nextMapping, hf.mappedFile ≠ some m' → h₁.mappings m' = h.mappings m') ∧
      KeepsMapping h h₁ (h.file? i f) hf' := by
  unfold HostService.refMapping at href
  cases hm : hf.mappedFile with
  | some m₀ =>
      rw [hm] at href
      obtain ⟨rfl, rfl, rfl⟩ := by simpa using href
      obtain ⟨hlt, hpos, hcount⟩ := hok.mapped i f hf m₀ hfile hm
      have hsucc : (hf.mappedCount + 1) % 2 ^ 32 = hf.mappedCount + 1 := Nat.mod_eq_of_lt hwrap
      refine ⟨rfl, hsucc, fun m' hm' => (Option.some.inj hm').symm, Nat.le_refl _,
        fun m' _ hne => if_neg fun heq => hne (by rw [heq]), fun hnone => ?_, fun m' hm' => ?_⟩
      · simp at hnone
      · obtain rfl := Option.some.inj hm'
        refine ⟨hlt, ?_, ?_, .inl ⟨hf, hfile, hm⟩⟩
        · show 0 < (hf.mappedCount + 1) % 2 ^ 32
          omega
        · show (if m₀ = m₀ then h.mappings m₀ + 1 else h.mappings m₀) =
            (hf.mappedCount + 1) % 2 ^ 32
          rw [if_pos rfl, hcount, hsucc]
  | none =>
      rw [hm] at href
      have hzero := hok.unmapped i f hf hfile hm
      cases mapped with
      | false => simp at href
      | true =>
          obtain ⟨rfl, rfl, rfl⟩ := by simpa using href
          refine ⟨rfl, by rw [hzero], fun m' hm' => by simp at hm', Nat.le_succ _,
            fun m' hlt _ => if_neg (Nat.ne_of_lt hlt), fun hnone => by simp at hnone,
            fun m' hm' => ?_⟩
          obtain rfl := Option.some.inj hm'
          exact ⟨Nat.lt_succ_self _, Nat.one_pos, if_pos rfl, .inr (Nat.le_refl _)⟩

theorem file?_refMapping {mapped : Bool} {i f : String} {server : HostServer} {hf hf' : HostFile}
    {m : Nat} {h₁ : HostService} (hserver : h.servers.lookup i = some server)
    (href : h.refMapping mapped hf = some (m, hf', h₁)) (j g : String) :
    (h₁.setFile i f hf').file? j g = if j = i ∧ g = f then some hf' else h.file? j g := by
  obtain ⟨-, hservers, -, -⟩ := HostService.refMapping_same href
  have hserver' : h₁.servers.lookup i = some server := by rw [hservers, hserver]
  rw [HostService.file?_setFile hserver', HostService.file?, HostService.file?, hservers]

theorem setRef (hok : MappingsOk h) {mapped : Bool} {i f : String} {server : HostServer}
    {hf hf' : HostFile} {m : Nat} {h₁ : HostService}
    (hserver : h.servers.lookup i = some server) (hfile : server.files.lookup f = some hf)
    (href : h.refMapping mapped hf = some (m, hf', h₁)) (hwrap : hf.mappedCount + 1 < 2 ^ 32) :
    MappingsOk (h₁.setFile i f hf') := by
  have hfile? : h.file? i f = some hf := by rw [HostService.file?_eq hserver, hfile]
  obtain ⟨-, -, -, hnext, hmappings, hkeeps⟩ := hok.refMapping hfile? href hwrap
  refine hok.update (file?_refMapping hserver href) hnext (fun m' hlt hne => ?_) ?_
  · exact hmappings m' hlt (hne hf hfile?)
  · rintro _ ⟨⟩
    exact hkeeps

/-- A reference is given back; the last one takes the mapping with it. -/
theorem finished (hok : MappingsOk h) {t : Transfer}
    (hfinish : prvSoupMessageFinishedCb t h = some h') : MappingsOk h' := by
  obtain ⟨server, hf, hserver, hfile, -, ⟨-, rfl⟩ | ⟨hpos, rfl⟩⟩ :=
    prvSoupMessageFinishedCb_some hfinish
  · exact hok
  · have hfile? : h.file? t.deviceIf t.file = some hf := by
      rw [HostService.file?_eq hserver, hfile]
    have hserver' : (h.unrefMapping hf.mappedFile 1).servers.lookup t.deviceIf = some server :=
      hserver
    refine hok.update (HostService.file?_setFile hserver' · · _) (Nat.le_refl _)
      (fun m _ hne => if_neg fun heq => hne hf hfile? heq.symm) ?_
    rintro _ ⟨⟩
    by_cases hlast : hf.mappedCount - 1 = 0
    · refine ⟨fun _ => hlast, fun m hm => ?_⟩
      simp [hlast] at hm
    · refine ⟨fun hnone => ?_, fun m hm => ?_⟩
      · simp only [hlast, if_false] at hnone
        have := hok.unmapped _ _ hf hfile? hnone
        omega
      · simp only [hlast, if_false] at hm
        obtain ⟨hlt, -, hcount⟩ := hok.mapped _ _ hf m hfile? hm
        refine ⟨hlt, Nat.pos_of_ne_zero hlast, ?_, .inl ⟨hf, hfile?, hm⟩⟩
        show (if some m = hf.mappedFile then h.mappings m - 1 else h.mappings m) = _
        rw [if_pos hm.symm, hcount]

end MappingsOk

/-! ## Transfers -/

def Transfer.sameFile (t t' : Transfer) : Bool :=
  t'.deviceIf = t.deviceIf ∧ t'.file = t.file ∧ t'.address = t.address

def HostService.unfinished (h : HostService) (t : Transfer) : Nat :=
  h.transfers.countP t.sameFile

/-- The file of every transfer is there, with the mapping of the body, and counts
the transfers. -/
def TransfersOk (h : HostService) : Prop :=
  ∀ t ∈ h.transfers, ∃ hf, h.transferFile? t = some hf ∧
    hf.mappedFile = some t.mapping ∧ h.unfinished t ≤ hf.mappedCount

theorem HostService.transferFile?_some {h : HostService} {t : Transfer} {hf : HostFile} :
    h.transferFile? t = some hf ↔
      h.file? t.deviceIf t.file = some hf ∧ hf.address = t.address := by
  simp [HostService.transferFile?, Option.filter_eq_some_iff]

namespace TransfersOk

variable {h h' : HostService}

theorem keep (hok : TransfersOk h) (htransfers : h'.transfers = h.transfers)
    (hkeep : ∀ t ∈ h.transfers, ∀ hf, h.file? t.deviceIf t.file = some hf →
      ∃ hf', h'.file? t.deviceIf t.file = some hf' ∧ hf'.address = hf.address ∧
        hf'.mappedFile = hf.mappedFile ∧ hf'.mappedCount = hf.mappedCount) :
    TransfersOk h' := by
  intro t ht
  rw [htransfers] at ht
  obtain ⟨hf, hfile, hmapped, hcount⟩ := hok t ht
  obtain ⟨hfile?, haddress⟩ := HostService.transferFile?_some.mp hfile
  obtain ⟨hf', hfile', haddress', hmapped', hcount'⟩ := hkeep t ht hf hfile?
  refine ⟨hf', HostService.transferFile?_some.mpr ⟨hfile', haddress'.trans haddress⟩,
    hmapped'.trans hmapped, ?_⟩
  rw [HostService.unfinished, htransfers, hcount']
  exact hcount

theorem add (hok : TransfersOk h) (env : HostEnvironment) (i c f : String) :
    TransfersOk (rsuHostServiceAdd env i c f h).2 := by
  have hsame : (rsuHostServiceAdd env i c f h).2.transfers = h.transfers := by
    have hadds := rsuHostServiceAdd_adds env i c f h
    revert hadds
    generalize rsuHostServiceAdd env i c f h = result
    intro hadds
    cases hadds with
    | refused _ _ => rfl
    | served _ _ => rfl
  cases hresult : rsuHostServiceAdd env i c f h with
  | mk url h' =>
      rw [hresult] at hsame
      refine hok.keep hsame fun t ht hf hfile => ?_
      cases url with
      | error error =>
          exact ⟨hf, by rw [HostService.file?_add_failed hresult, hfile], rfl, rfl, rfl⟩
      | ok url =>
          obtain ⟨hf', hlookup, hadded, -⟩ := HostService.file?_add_ok hresult
          rw [hlookup]
          split
          · next hat =>
              rw [← hat.1, ← hat.2, hfile] at hadded
              cases hadded with
              | known _ =>
                  refine ⟨_, rfl, ?_⟩
                  unfold HostFile.withClient
                  split <;> exact ⟨rfl, rfl, rfl⟩
          · exact ⟨hf, hfile, rfl, rfl, rfl⟩

theorem without {hf : HostFile} {c : String} (hleft : hf.clients ≠ [c]) :
    ∃ hf', hf.without c = some hf' ∧ hf'.address = hf.address ∧
      hf'.mappedFile = hf.mappedFile ∧ hf'.mappedCount = hf.mappedCount := by
  unfold HostFile.without
  by_cases hmem : c ∈ hf.clients
  · have hsome : hf.clients.erase c ≠ [] := by
      rw [Ne, List.erase_eq_nil_iff, not_or]
      exact ⟨List.ne_nil_of_mem hmem, hleft⟩
    rw [if_pos hmem, if_neg hsome]
    exact ⟨_, rfl, rfl, rfl, rfl⟩
  · rw [if_neg hmem]
    exact ⟨hf, rfl, rfl, rfl, rfl⟩

theorem remove (hok : TransfersOk h) {i c f : String}
    (hspare : ∀ t ∈ h.transfers, t.deviceIf = i → t.file = f →
      ∀ hf, h.file? i f = some hf → hf.clients ≠ [c]) :
    TransfersOk (rsuHostServiceRemove i c f h).2 := by
  refine hok.keep (HostService.transfers_remove i c f h) fun t ht hf hfile => ?_
  rw [HostService.file?_remove]
  split
  · next hat =>
      rw [← hat.1, ← hat.2, hfile]
      exact without (hspare t ht hat.1 hat.2 hf (hat.1 ▸ hat.2 ▸ hfile))
  · exact ⟨hf, hfile, rfl, rfl, rfl⟩

theorem lostClient (hok : TransfersOk h) {c : String}
    (hspare : ∀ t ∈ h.transfers, ∀ hf, h.file? t.deviceIf t.file = some hf → hf.clients ≠ [c]) :
    TransfersOk (rsuHostServiceLostClient c h) := by
  refine hok.keep (HostService.transfers_lostClient c h) fun t ht hf hfile => ?_
  rw [HostService.file?_lostClient, hfile]
  exact without (hspare t ht hf hfile)

theorem count_le (hok : TransfersOk h) {i f : String} {hf : HostFile}
    (hfile : h.file? i f = some hf) (m : Nat) :
    h.unfinished ⟨i, f, hf.address, m⟩ ≤ hf.mappedCount := by
  by_cases hany : ∃ t ∈ h.transfers, Transfer.sameFile ⟨i, f, hf.address, m⟩ t = true
  · obtain ⟨t, ht, hsame⟩ := hany
    obtain ⟨hi, hf', haddress⟩ : t.deviceIf = i ∧ t.file = f ∧ t.address = hf.address := by
      simpa [Transfer.sameFile] using hsame
    obtain ⟨hf₀, hfile₀, -, hcount⟩ := hok t ht
    obtain ⟨hlookup, -⟩ := HostService.transferFile?_some.mp hfile₀
    rw [hi, hf', hfile] at hlookup
    obtain rfl := Option.some.inj hlookup
    have hpointer : Transfer.sameFile ⟨i, f, hf.address, m⟩ = t.sameFile := by
      funext t'
      simp only [Transfer.sameFile, hi, hf', haddress]
    rw [HostService.unfinished, hpointer]
    exact hcount
  · have hzero : h.unfinished ⟨i, f, hf.address, m⟩ = 0 := by
      rw [HostService.unfinished, List.countP_eq_zero]
      exact fun t ht hsame => hany ⟨t, ht, hsame⟩
    omega

theorem unfinished_snoc (h : HostService) (t t' : Transfer) :
    HostService.unfinished { h with transfers := h.transfers ++ [t'] } t =
      h.unfinished t + if t.sameFile t' then 1 else 0 := by
  rw [HostService.unfinished, List.countP_append, List.countP_singleton]
  rfl

theorem unfinished_dropTransfer {t' : Transfer} (ht' : t' ∈ h.transfers) (t : Transfer) :
    h.unfinished t = (h.dropTransfer t').unfinished t + if t.sameFile t' then 1 else 0 := by
  show h.transfers.countP t.sameFile = (h.transfers.erase t').countP t.sameFile + _
  rw [(List.perm_cons_erase ht').countP_eq, List.countP_cons]

section Request

variable {mapped : Bool} {i f : String} {server : HostServer} {hf hf' : HostFile} {m : Nat}
  {h₁ : HostService}

/-- A request takes a reference, and the transfers of before keep theirs. -/
theorem setRef (hok : TransfersOk h) (hmap : MappingsOk h)
    (hserver : h.servers.lookup i = some server) (hfile : server.files.lookup f = some hf)
    (href : h.refMapping mapped hf = some (m, hf', h₁)) (hwrap : hf.mappedCount + 1 < 2 ^ 32) :
    ∀ t ∈ h.transfers, ∃ hf₂, (h₁.setFile i f hf').transferFile? t = some hf₂ ∧
      hf₂.mappedFile = some t.mapping ∧
      h.unfinished t + (if t.deviceIf = i ∧ t.file = f then 1 else 0) ≤ hf₂.mappedCount := by
  have hfile? : h.file? i f = some hf := by rw [HostService.file?_eq hserver, hfile]
  obtain ⟨hm, hcount', hsame, -⟩ := hmap.refMapping hfile? href hwrap
  have haddress' := (HostFile.entry_eq (HostService.refMapping_same href).1).2.2.2
  intro t ht
  obtain ⟨hf₀, hfile₀, hmapped, hcount⟩ := hok t ht
  obtain ⟨hlookup, haddress⟩ := HostService.transferFile?_some.mp hfile₀
  by_cases hat : t.deviceIf = i ∧ t.file = f
  · rw [hat.1, hat.2, hfile?] at hlookup
    obtain rfl := Option.some.inj hlookup
    refine ⟨hf', HostService.transferFile?_some.mpr ⟨?_, haddress'.trans haddress⟩, ?_, ?_⟩
    · rw [MappingsOk.file?_refMapping hserver href, if_pos hat]
    · rw [hm, hsame t.mapping hmapped]
    · rw [if_pos hat, hcount']
      omega
  · refine ⟨hf₀, HostService.transferFile?_some.mpr ⟨?_, haddress⟩, hmapped, ?_⟩
    · rw [MappingsOk.file?_refMapping hserver href, if_neg hat, hlookup]
    · rw [if_neg hat]
      omega

theorem get (hok : TransfersOk h) (hmap : MappingsOk h)
    (hserver : h.servers.lookup i = some server) (hfile : server.files.lookup f = some hf)
    (href : h.refMapping mapped hf = some (m, hf', h₁)) (hwrap : hf.mappedCount + 1 < 2 ^ 32) :
    TransfersOk { h₁.setFile i f hf' with
      transfers := h₁.transfers ++ [⟨i, f, hf'.address, m⟩] } := by
  have hfile? : h.file? i f = some hf := by rw [HostService.file?_eq hserver, hfile]
  obtain ⟨hm, hcount', -, -⟩ := hmap.refMapping hfile? href hwrap
  obtain ⟨hentry, -, -, htransfers⟩ := HostService.refMapping_same href
  have haddress' := (HostFile.entry_eq hentry).2.2.2
  have hunfinished : ∀ t, HostService.unfinished { h₁.setFile i f hf' with
      transfers := h₁.transfers ++ [⟨i, f, hf'.address, m⟩] } t =
        h.unfinished t + if t.sameFile ⟨i, f, hf'.address, m⟩ then 1 else 0 := by
    intro t
    rw [← unfinished_snoc, ← htransfers]
    rfl
  intro t ht
  rw [hunfinished]
  rcases List.mem_append.mp ht with hold | hnew
  · rw [htransfers] at hold
    obtain ⟨hf₂, hfile₂, hmapped, hcount⟩ := hok.setRef hmap hserver hfile href hwrap t hold
    refine ⟨hf₂, hfile₂, hmapped, Nat.le_trans (Nat.add_le_add_left ?_ _) hcount⟩
    by_cases hsame : t.sameFile ⟨i, f, hf'.address, m⟩ = true
    · have hat : i = t.deviceIf ∧ f = t.file ∧ hf'.address = t.address := by
        simpa [Transfer.sameFile] using hsame
      rw [if_pos hsame, if_pos ⟨hat.1.symm, hat.2.1.symm⟩]
    · rw [if_neg hsame]
      exact Nat.zero_le _
  · obtain rfl := List.mem_singleton.mp hnew
    refine ⟨hf', HostService.transferFile?_some.mpr ⟨?_, rfl⟩, hm, ?_⟩
    · exact (MappingsOk.file?_refMapping hserver href i f).trans (if_pos ⟨rfl, rfl⟩)
    · have hle := hok.count_le hfile? m
      rw [haddress', hcount']
      split <;> omega

theorem head (hok : TransfersOk h) (hmap : MappingsOk h)
    (hserver : h.servers.lookup i = some server) (hfile : server.files.lookup f = some hf)
    (href : h.refMapping mapped hf = some (m, hf', h₁)) (hwrap : hf.mappedCount + 1 < 2 ^ 32) :
    TransfersOk (h₁.setFile i f hf') := by
  have htransfers := (HostService.refMapping_same href).2.2.2
  intro t ht
  have hold : t ∈ h.transfers := htransfers ▸ ht
  obtain ⟨hf₂, hfile₂, hmapped, hcount⟩ := hok.setRef hmap hserver hfile href hwrap t hold
  have hunfinished : (h₁.setFile i f hf').unfinished t = h.unfinished t := by
    show h₁.transfers.countP t.sameFile = _
    rw [htransfers]
    rfl
  exact ⟨hf₂, hfile₂, hmapped, by omega⟩

end Request

theorem finished (hok : TransfersOk h) {t : Transfer} (ht : t ∈ h.transfers)
    (hfinish : prvSoupMessageFinishedCb t (h.dropTransfer t) = some h') : TransfersOk h' := by
  obtain ⟨server, hf, hserver, hfile, haddress, hcases⟩ := prvSoupMessageFinishedCb_some hfinish
  have hfile? : h.file? t.deviceIf t.file = some hf :=
    (HostService.file?_eq (h := h) hserver t.file).trans hfile
  obtain ⟨hf₀, hfile₀, -, hcount⟩ := hok t ht
  obtain ⟨hlookup, -⟩ := HostService.transferFile?_some.mp hfile₀
  obtain rfl := Option.some.inj (hlookup.symm.trans hfile?)
  have hself := unfinished_dropTransfer ht t
  rw [if_pos (by simp [Transfer.sameFile])] at hself
  rcases hcases with ⟨hzero, -⟩ | ⟨hpos, rfl⟩
  · omega
  · intro t' ht'
    have hmem : t' ∈ (h.dropTransfer t).transfers := ht'
    obtain ⟨hf', hfile', hmapped', hcount'⟩ := hok t' (List.mem_of_mem_erase hmem)
    obtain ⟨hlookup', haddress'⟩ := HostService.transferFile?_some.mp hfile'
    have hother := unfinished_dropTransfer ht t'
    have hpresent : 0 < (h.dropTransfer t).unfinished t' :=
      List.countP_pos_iff.mpr ⟨t', hmem, by simp [Transfer.sameFile]⟩
    have hserver' : ((h.dropTransfer t).unrefMapping hf₀.mappedFile 1).servers.lookup
        t.deviceIf = some server := hserver
    by_cases hat : t'.deviceIf = t.deviceIf ∧ t'.file = t.file
    · rw [hat.1, hat.2, hfile?] at hlookup'
      obtain rfl := Option.some.inj hlookup'
      have hsame : t'.sameFile t = true := by
        simp [Transfer.sameFile, hat, ← haddress, haddress']
      rw [if_pos hsame] at hother
      refine ⟨_, HostService.transferFile?_some.mpr
        ⟨(HostService.file?_setFile hserver' _ _ _).trans (if_pos hat), haddress'⟩, ?_, ?_⟩
      · rw [← hmapped']
        exact if_neg (by omega)
      · show (h.dropTransfer t).unfinished t' ≤ hf₀.mappedCount - 1
        omega
    · refine ⟨hf', HostService.transferFile?_some.mpr ⟨?_, haddress'⟩, hmapped', ?_⟩
      · rw [HostService.file?_setFile hserver', if_neg hat]
        exact hlookup'
      · show (h.dropTransfer t).unfinished t' ≤ hf'.mappedCount
        omega

end TransfersOk

/-! ## Runs -/

/-- No reference is taken that the counter cannot count. -/
def CountsReferences (h : HostService) : HostInput → Prop
  | .request _ i msg => msg.Accepted → ∀ server f hf, h.servers.lookup i = some server →
      prvHostServerFindFile server msg.path = some (f, hf) → hf.mappedCount + 1 < 2 ^ 32
  | _ => True

/-- Besides, no file loses its last client while one of its transfers is unfinished. -/
def SparesTransfers (h : HostService) : HostInput → Prop
  | .remove i c f => ∀ t ∈ h.transfers, t.deviceIf = i → t.file = f →
      ∀ hf, h.file? i f = some hf → hf.clients ≠ [c]
  | .lostClient c => ∀ t ∈ h.transfers,
      ∀ hf, h.file? t.deviceIf t.file = some hf → hf.clients ≠ [c]
  | i => CountsReferences h i

theorem HostStep.mappingsOk {h h' : HostService} {i : HostInput} (hmap : MappingsOk h)
    (hstep : HostStep h i h') (hcounts : CountsReferences h i) : MappingsOk h' := by
  cases hstep with
  | add env deviceIf client file => exact hmap.add env deviceIf client file
  | remove deviceIf client file => exact hmap.remove deviceIf client file
  | lostClient client => exact hmap.lostClient client
  | request mapped deviceIf msg =>
      have hrequests := prvSoupServerCb_requests mapped deviceIf msg h
      revert hrequests
      generalize prvSoupServerCb mapped deviceIf msg h = result
      intro hrequests
      cases hrequests with
      | refused _ => exact hmap
      | head hserver hfind href haccepted _ _ =>
          exact hmap.setRef hserver (prvHostServerFindFile_some hfind).1 href
            (hcounts haccepted _ _ _ hserver hfind)
      | get hserver hfind href haccepted _ _ =>
          have hset := hmap.setRef hserver (prvHostServerFindFile_some hfind).1 href
            (hcounts haccepted _ _ _ hserver hfind)
          exact hset.congr (fun _ _ => rfl) rfl rfl
  | @finished t _ ht hfinish =>
      have hdrop : MappingsOk (h.dropTransfer t) := hmap.congr (fun _ _ => rfl) rfl rfl
      exact hdrop.finished hfinish

theorem SparesTransfers.counts {h : HostService} {i : HostInput} (hspare : SparesTransfers h i) :
    CountsReferences h i := by
  cases i with
  | remove | lostClient => exact trivial
  | _ => exact hspare

theorem HostStep.transfersOk {h h' : HostService} {i : HostInput} (hmap : MappingsOk h)
    (hok : TransfersOk h) (hstep : HostStep h i h') (hspare : SparesTransfers h i) :
    MappingsOk h' ∧ TransfersOk h' := by
  refine ⟨hstep.mappingsOk hmap hspare.counts, ?_⟩
  cases hstep with
  | add env deviceIf client file => exact hok.add env deviceIf client file
  | remove deviceIf client file => exact hok.remove hspare
  | lostClient client => exact hok.lostClient hspare
  | request mapped deviceIf msg =>
      have hrequests := prvSoupServerCb_requests mapped deviceIf msg h
      revert hrequests
      generalize prvSoupServerCb mapped deviceIf msg h = result
      intro hrequests
      cases hrequests with
      | refused _ => exact hok
      | head hserver hfind href haccepted _ _ =>
          exact hok.head hmap hserver (prvHostServerFindFile_some hfind).1 href
            (hspare haccepted _ _ _ hserver hfind)
      | get hserver hfind href haccepted _ _ =>
          exact hok.get hmap hserver (prvHostServerFindFile_some hfind).1 href
            (hspare haccepted _ _ _ hserver hfind)
  | @finished t _ ht hfinish => exact hok.finished ht hfinish

theorem hosting_transfersOk {is : List HostInput} {h : HostService}
    (hr : (hosting.restrict SparesTransfers).Reaches is h) : MappingsOk h ∧ TransfersOk h := by
  refine hr.invariant (I := fun h => MappingsOk h ∧ TransfersOk h) ?_ ?_
  · rintro h rfl
    exact ⟨.init, fun t ht => absurd ht List.not_mem_nil⟩
  · intro h i h' hok hstep
    exact (hosting_step hstep.2).transfersOk hok.1 hok.2 hstep.1

/-- Every unfinished response has its file, and the mapping of its body. -/
def HostService.Held (h : HostService) : Prop :=
  ∀ t ∈ h.transfers, ∃ hf, h.transferFile? t = some hf ∧ hf.mappedFile = some t.mapping ∧
    0 < h.mappings t.mapping ∧ h.unfinished t ≤ hf.mappedCount

/-- While no file loses its last client during a transfer, transfers keep their
files. -/
theorem hosting_held {is : List HostInput} {h : HostService}
    (hr : (hosting.restrict SparesTransfers).Reaches is h) : h.Held := by
  obtain ⟨hmap, hok⟩ := hosting_transfersOk hr
  intro t ht
  obtain ⟨hf, hfile, hmapped, hcount⟩ := hok t ht
  obtain ⟨hlookup, -⟩ := HostService.transferFile?_some.mp hfile
  obtain ⟨-, hpos, href⟩ := hmap.mapped _ _ hf t.mapping hlookup hmapped
  exact ⟨hf, hfile, hmapped, href ▸ hpos, hcount⟩

def oneRequest : HostInput := .request true "192.168.1.2" ⟨.get, "/rendererserviceupnp/0.mp3", none⟩

def oneTransfer : HostService :=
  (prvSoupServerCb true "192.168.1.2" ⟨.get, "/rendererserviceupnp/0.mp3", none⟩ oneHosted).2

theorem oneHosted_counts : CountsReferences oneHosted oneRequest := by
  rintro - server f hf hserver hfind
  have hcount : ∀ server, oneHosted.servers.lookup "192.168.1.2" = some server →
      ∀ e ∈ server.files.entries, e.2.mappedCount = 0 := by
    rintro _ ⟨⟩ e he
    obtain rfl := List.mem_singleton.mp he
    rfl
  have hlookup := (prvHostServerFindFile_some hfind).1
  rw [hcount server hserver ⟨f, hf⟩ (AList.mem_lookup_iff.mp hlookup)]
  decide

theorem hosting_held_oneTransfer : oneTransfer.transfers.length = 1 ∧ oneTransfer.Held := by
  have hadd : hosting.step {} oneFile oneHosted := rfl
  have hget : hosting.step oneHosted oneRequest oneTransfer := rfl
  have hr : (hosting.restrict SparesTransfers).Reaches ([] ++ [oneFile]) oneHosted :=
    .step (.init rfl) ⟨trivial, hadd⟩
  have hspare : SparesTransfers oneHosted oneRequest := oneHosted_counts
  exact ⟨by decide +kernel, hosting_held (hr.step ⟨hspare, hget⟩)⟩

/-- RemoveFile frees the file that a renderer is reading. -/
theorem transfer_loses_file :
    ∃ is h t, hosting.Reaches is h ∧ t ∈ h.transfers ∧ h.transferFile? t = none ∧
      h.mappings t.mapping = 0 ∧ ¬h.Held := by
  have hadd : hosting.step {} oneFile oneHosted := rfl
  have hget : hosting.step oneHosted oneRequest oneTransfer := rfl
  have hremove : hosting.step oneTransfer (.remove "192.168.1.2" ":1.7" "/home/user/a.mp3")
      (rsuHostServiceRemove "192.168.1.2" ":1.7" "/home/user/a.mp3" oneTransfer).2 := rfl
  have hgone : (rsuHostServiceRemove "192.168.1.2" ":1.7" "/home/user/a.mp3" oneTransfer
      ).2.transferFile? ⟨"192.168.1.2", "/home/user/a.mp3", 0, 0⟩ = none := by decide +kernel
  refine ⟨_, _, ⟨"192.168.1.2", "/home/user/a.mp3", 0, 0⟩,
    .step (.step (.step (.init rfl) hadd) hget) hremove, by decide +kernel, hgone,
    by decide +kernel, fun hheld => ?_⟩
  obtain ⟨hf, hfile, -⟩ := hheld ⟨"192.168.1.2", "/home/user/a.mp3", 0, 0⟩ (by decide +kernel)
  rw [hgone] at hfile
  simp at hfile

end RendererService
