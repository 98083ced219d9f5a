import RendererService.Host.Transfers

/-!
# The balance of a mapping

`prv_soup_server_cb` counts a reference for every request that it answers, and
`prv_soup_message_finished_cb` gives one back for every GET that finishes.  A file
that only answers GETs is mapped while it has unfinished responses; the reference
of a HEAD is never given back.
-/

namespace RendererService

open Transition

/-! ## Addresses -/

/-- No file and no pointer to one has an address that is still to be given. -/
structure Addressed (h : HostService) : Prop where
  file : ∀ i f hf, h.file? i f = some hf → hf.address < h.nextFile
  transfer : ∀ t ∈ h.transfers, t.address < h.nextFile

theorem HostFile.without_same {hf hf' : HostFile} {c : String} (h : hf.without c = some hf') :
    hf'.address = hf.address ∧ hf'.mappedFile = hf.mappedFile ∧
      hf'.mappedCount = hf.mappedCount := by
  unfold HostFile.without at h
  split at h
  · split at h
    · simp at h
    · obtain rfl := Option.some.inj h
      exact ⟨rfl, rfl, rfl⟩
  · obtain rfl := Option.some.inj h
    exact ⟨rfl, rfl, rfl⟩

theorem HostFile.withClient_same (hf : HostFile) (c : String) :
    (hf.withClient c).address = hf.address ∧ (hf.withClient c).mappedFile = hf.mappedFile ∧
      (hf.withClient c).mappedCount = hf.mappedCount := by
  unfold HostFile.withClient
  split <;> exact ⟨rfl, rfl, rfl⟩

theorem ledger_add (env : HostEnvironment) (i c f : String) (h : HostService) :
    (rsuHostServiceAdd env i c f h).2.transfers = h.transfers ∧
      (rsuHostServiceAdd env i c f h).2.nextMapping = h.nextMapping ∧
      h.nextFile ≤ (rsuHostServiceAdd env i c f h).2.nextFile ∧
      ∀ url, (rsuHostServiceAdd env i c f h).1 = .ok url →
        (rsuHostServiceAdd env i c f h).2.nextFile = h.nextFile + 1 := by
  have hadds := rsuHostServiceAdd_adds env i c f h
  revert hadds
  generalize rsuHostServiceAdd env i c f h = result
  intro hadds
  cases hadds with
  | refused _ _ => exact ⟨rfl, rfl, Nat.le_refl _, by simp⟩
  | served _ _ => exact ⟨rfl, rfl, Nat.le_succ _, fun _ _ => rfl⟩

section Steps

variable {h h' : HostService} {j : HostInput}

theorem Addressed.serves (haddr : Addressed h) (hs : Serves h h') {i f : String} {hf' : HostFile}
    (hfile' : h'.file? i f = some hf') : hf'.address < h'.nextFile := by
  have hentry := hs.file? i f
  rw [hfile', Option.map_some] at hentry
  obtain ⟨hf, hfile, heq⟩ := Option.map_eq_some_iff.mp hentry.symm
  rw [← (HostFile.entry_eq heq).2.2.2, hs.nextFile]
  exact haddr.file i f hf hfile

theorem Addressed.leave (haddr : Addressed h) (hledger : h'.ledger = h.ledger)
    (hfiles : ∀ i f hf', h'.file? i f = some hf' →
      h.file? i f = some hf' ∨ ∃ c, (h.file? i f).bind (HostFile.without c) = some hf') :
    Addressed h' := by
  simp only [HostService.ledger, Prod.mk.injEq] at hledger
  refine ⟨fun i f hf' hfile' => ?_, fun t ht => ?_⟩
  · rw [hledger.2.1]
    rcases hfiles i f hf' hfile' with hfile | ⟨c, hbind⟩
    · exact haddr.file i f hf' hfile
    · obtain ⟨hf, hfile, hwithout⟩ := Option.bind_eq_some_iff.mp hbind
      rw [(HostFile.without_same hwithout).1]
      exact haddr.file i f hf hfile
  · rw [hledger.1] at ht
    rw [hledger.2.1]
    exact haddr.transfer t ht

theorem Addressed.add (haddr : Addressed h) (env : HostEnvironment)
    (deviceIf client file : String) :
    Addressed (rsuHostServiceAdd env deviceIf client file h).2 := by
  obtain ⟨htransfers, -, hle, hsucc⟩ := ledger_add env deviceIf client file h
  refine ⟨fun i f hf' hfile' => ?_, fun t ht => ?_⟩
  · cases hadd : rsuHostServiceAdd env deviceIf client file h with
    | mk result h' =>
        rw [hadd] at hfile' hle hsucc
        cases result with
        | error error =>
            rw [HostService.file?_add_failed hadd] at hfile'
            exact Nat.lt_of_lt_of_le (haddr.file i f hf' hfile') hle
        | ok url =>
            obtain ⟨hf, hall, hadded, -⟩ := HostService.file?_add_ok hadd
            rw [hall] at hfile'
            rw [hsucc url rfl]
            split at hfile'
            · obtain rfl := Option.some.inj hfile'
              generalize hlookup : h.file? deviceIf file = old at hadded
              cases hadded with
              | known hf₀ =>
                  rw [(hf₀.withClient_same client).1]
                  exact Nat.lt_succ_of_lt (haddr.file _ _ hf₀ hlookup)
              | new _ _ _ haddress =>
                  rw [haddress]
                  exact Nat.lt_succ_self _
            · exact Nat.lt_succ_of_lt (haddr.file i f hf' hfile')
  · rw [htransfers] at ht
    exact Nat.lt_of_lt_of_le (haddr.transfer t ht) hle

theorem Addressed.request (haddr : Addressed h) (mapped : Bool) (deviceIf : String)
    (msg : SoupMessage) : Addressed (prvSoupServerCb mapped deviceIf msg h).2 := by
  have hs := serves_request mapped deviceIf msg h
  refine ⟨fun i f hf' hfile' => haddr.serves hs hfile', fun t ht => ?_⟩
  rw [hs.nextFile]
  have hrequests := prvSoupServerCb_requests mapped deviceIf msg h
  revert hrequests ht
  generalize prvSoupServerCb mapped deviceIf msg h = result
  intro ht hrequests
  cases hrequests with
  | refused _ => exact haddr.transfer t ht
  | head _ _ href _ _ _ =>
      have hsame := (HostService.refMapping_same href).2.2.2
      exact haddr.transfer t (hsame ▸ ht)
  | @get _ server f hf hf' m h₁ hserver hfind href _ _ _ =>
      obtain ⟨hentry, -, -, hsame⟩ := HostService.refMapping_same href
      rcases List.mem_append.mp ht with hold | hnew
      · exact haddr.transfer t (hsame ▸ hold)
      · obtain rfl := List.mem_singleton.mp hnew
        have hfile := (prvHostServerFindFile_some hfind).1
        show hf'.address < h.nextFile
        rw [(HostFile.entry_eq hentry).2.2.2]
        exact haddr.file deviceIf f hf (by rw [HostService.file?_eq hserver, hfile])

theorem Addressed.finished (haddr : Addressed h) {t : Transfer}
    (hfinish : prvSoupMessageFinishedCb t (h.dropTransfer t) = some h') : Addressed h' := by
  have hs := serves_finished hfinish
  have hserves : Serves h h' := ⟨hs.server, hs.gone, hs.nextFile⟩
  refine ⟨fun i f hf' hfile' => haddr.serves hserves hfile', fun t' ht' => ?_⟩
  rw [hs.nextFile]
  apply haddr.transfer t'
  apply List.mem_of_mem_erase (a := t') (b := t)
  obtain ⟨server, hf, -, -, -, ⟨-, rfl⟩ | ⟨-, rfl⟩⟩ := prvSoupMessageFinishedCb_some hfinish
  · exact ht'
  · exact ht'

theorem HostStep.addressed (haddr : Addressed h) (hstep : HostStep h j h') : Addressed h' := by
  cases hstep with
  | add env deviceIf client file => exact haddr.add env deviceIf client file
  | remove deviceIf client file =>
      apply haddr.leave (HostService.ledger_remove deviceIf client file h)
      intro i f hf' hfile'
      rw [HostService.file?_remove] at hfile'
      split at hfile'
      next hat =>
        rw [← hat.1, ← hat.2] at hfile'
        exact .inr ⟨client, hfile'⟩
      · exact .inl hfile'
  | lostClient client =>
      apply haddr.leave (HostService.ledger_lostClient client h)
      intro i f hf' hfile'
      rw [HostService.file?_lostClient] at hfile'
      exact .inr ⟨client, hfile'⟩
  | request mapped deviceIf msg => exact haddr.request mapped deviceIf msg
  | finished _ hfinish => exact haddr.finished hfinish

end Steps

theorem hosting_addressed {is : List HostInput} {h : HostService} (hr : hosting.Reaches is h) :
    Addressed h := by
  refine hr.invariant (I := Addressed) (fun h hinit => ?_)
    fun h i h' haddr hstep => (hosting_step hstep).addressed haddr
  obtain rfl : h = {} := hinit
  exact ⟨fun i f hf hfile => by simp [HostService.file?] at hfile, fun t ht => by simp at ht⟩

/-! ## Readers of a file -/

def HostService.readers (h : HostService) (i f : String) (hf : HostFile) : Nat :=
  h.unfinished ⟨i, f, hf.address, 0⟩

/-- The file counts its unfinished responses, and all of them read its mapping. -/
structure HostFile.InBalance (h : HostService) (i f : String) (hf : HostFile) : Prop where
  count : hf.mappedCount = h.readers i f hf
  bodies : ∀ t ∈ h.transfers, Transfer.sameFile ⟨i, f, hf.address, 0⟩ t = true →
    hf.mappedFile = some t.mapping

/-- The request is no HEAD that is answered from the file, and it takes no
reference that the counter cannot count. -/
def CountsGets (i f : String) (h : HostService) (j : HostInput) : Prop :=
  CountsReferences h j ∧
    match j with
    | .request mapped deviceIf msg => msg.method = .head → deviceIf = i →
        ∀ server hf, h.servers.lookup i = some server →
          prvHostServerFindFile server msg.path = some (f, hf) →
          (msg.getContentFeatures.any fun hdr => hdr ≠ "1") = true ∨
            hf.mappedFile = none ∧ mapped = false
    | _ => True

theorem prvSoupServerCb_refused {mapped : Bool} {i f : String} {msg : SoupMessage}
    {h : HostService} {server : HostServer} {hf : HostFile}
    (hserver : h.servers.lookup i = some server)
    (hfind : prvHostServerFindFile server msg.path = some (f, hf))
    (hbad : (msg.getContentFeatures.any fun hdr => hdr ≠ "1") = true ∨
      hf.mappedFile = none ∧ mapped = false) : (prvSoupServerCb mapped i msg h).2 = h := by
  unfold prvSoupServerCb
  split
  · rfl
  · rw [hserver, Option.bind_some, hfind]
    dsimp only
    rcases hbad with hheader | ⟨hnone, rfl⟩
    · rw [if_pos hheader]
    · split
      · rfl
      · simp [HostService.refMapping, hnone]

section Balance

variable {h h' : HostService} {i f : String} {j : HostInput}

theorem HostFile.InBalance.keep {hf hf' : HostFile} (hbal : hf.InBalance h i f)
    (htransfers : h'.transfers = h.transfers)
    (hsame : hf'.address = hf.address ∧ hf'.mappedFile = hf.mappedFile ∧
      hf'.mappedCount = hf.mappedCount) : hf'.InBalance h' i f := by
  obtain ⟨haddress, hmapped, hcount⟩ := hsame
  refine ⟨?_, fun t ht hat => ?_⟩
  · rw [hcount, hbal.count, HostService.readers, HostService.readers, HostService.unfinished,
      HostService.unfinished, htransfers, haddress]
  · rw [hmapped]
    exact hbal.bodies t (htransfers ▸ ht) (haddress ▸ hat)

theorem HostFile.InBalance.new {hf : HostFile} (haddr : Addressed h)
    (htransfers : h'.transfers = h.transfers) (haddress : hf.address = h.nextFile)
    (hcount : hf.mappedCount = 0) : hf.InBalance h' i f := by
  have hnone : ∀ t ∈ h'.transfers, ¬Transfer.sameFile ⟨i, f, hf.address, 0⟩ t = true := by
    intro t ht hsame
    have hat : t.address = hf.address := by
      simp only [Transfer.sameFile, decide_eq_true_eq] at hsame
      exact hsame.2.2
    have hlt := haddr.transfer t (htransfers ▸ ht)
    omega
  refine ⟨?_, fun t ht hat => absurd hat (hnone t ht)⟩
  rw [hcount, HostService.readers, HostService.unfinished, eq_comm, List.countP_eq_zero]
  exact hnone

theorem HostFile.InBalance.snoc {hf : HostFile} (hbal : hf.InBalance h i f) {t : Transfer}
    (htransfers : h'.transfers = h.transfers ++ [t]) (hne : ¬(t.deviceIf = i ∧ t.file = f)) :
    hf.InBalance h' i f := by
  have hother : ¬Transfer.sameFile ⟨i, f, hf.address, 0⟩ t = true := by
    simp only [Transfer.sameFile, decide_eq_true_eq]
    exact fun hsame => hne ⟨hsame.1, hsame.2.1⟩
  refine ⟨?_, fun t' ht' hat => ?_⟩
  · rw [hbal.count, HostService.readers, HostService.readers, HostService.unfinished,
      HostService.unfinished, htransfers, List.countP_append, List.countP_singleton, if_neg hother,
      Nat.add_zero]
  · rw [htransfers] at ht'
    rcases List.mem_append.mp ht' with hold | hnew
    · exact hbal.bodies t' hold hat
    · obtain rfl := List.mem_singleton.mp hnew
      exact absurd hat hother

theorem HostFile.InBalance.get {hf hf' : HostFile} (hmap : MappingsOk h)
    (hbal : hf.InBalance h i f) (hfile : h.file? i f = some hf) {mapped : Bool} {m : Nat}
    {h₁ : HostService} (href : h.refMapping mapped hf = some (m, hf', h₁))
    (hwrap : hf.mappedCount + 1 < 2 ^ 32)
    (htransfers : h'.transfers = h.transfers ++ [⟨i, f, hf'.address, m⟩]) :
    hf'.InBalance h' i f := by
  obtain ⟨hmapped, hcount, hsame, -⟩ := hmap.refMapping hfile href hwrap
  have haddress := (HostFile.entry_eq (HostService.refMapping_same href).1).2.2.2
  refine ⟨?_, fun t ht hat => ?_⟩
  · rw [hcount, hbal.count, HostService.readers, HostService.readers, HostService.unfinished,
      HostService.unfinished, htransfers, List.countP_append, List.countP_singleton, haddress]
    simp [Transfer.sameFile]
  · rw [htransfers] at ht
    rw [hmapped]
    rcases List.mem_append.mp ht with hold | hnew
    · rw [hsame t.mapping (hbal.bodies t hold (haddress ▸ hat))]
    · rw [List.mem_singleton.mp hnew]

theorem HostFile.InBalance.finished {hf : HostFile} (hbal : hf.InBalance h i f) {t : Transfer}
    (ht : t ∈ h.transfers) (hat : Transfer.sameFile ⟨i, f, hf.address, 0⟩ t = true)
    (htransfers : h'.transfers = h.transfers.erase t) {hf' : HostFile}
    (hfile' : hf' = { hf with
      mappedCount := hf.mappedCount - 1
      mappedFile := if hf.mappedCount - 1 = 0 then none else hf.mappedFile }) :
    hf'.InBalance h' i f := by
  have hless := TransfersOk.unfinished_dropTransfer ht ⟨i, f, hf.address, 0⟩
  rw [if_pos hat] at hless
  have hcount := hbal.count
  rw [HostService.readers] at hcount
  have hreaders : h'.readers i f hf' = (h.dropTransfer t).unfinished ⟨i, f, hf.address, 0⟩ := by
    rw [HostService.readers, HostService.unfinished, htransfers, hfile']
    rfl
  refine ⟨?_, fun t' ht' hat' => ?_⟩
  · rw [hreaders, hfile']
    show hf.mappedCount - 1 = _
    omega
  · rw [htransfers] at ht'
    have hmem : t' ∈ (h.dropTransfer t).transfers := ht'
    have hpos : 0 < (h.dropTransfer t).unfinished ⟨i, f, hf.address, 0⟩ :=
      List.countP_pos_iff.mpr ⟨t', hmem, by simpa [hfile'] using hat'⟩
    have hmore : hf.mappedCount - 1 ≠ 0 := by omega
    rw [hfile']
    show (if hf.mappedCount - 1 = 0 then none else hf.mappedFile) = some t'.mapping
    rw [if_neg hmore]
    exact hbal.bodies t' (List.mem_of_mem_erase hmem) (by simpa [hfile'] using hat')

/-- A response of another file, or of a file that was freed, finishes. -/
theorem HostFile.InBalance.erase {hf : HostFile} (hbal : hf.InBalance h i f) {t : Transfer}
    (ht : t ∈ h.transfers) (hne : ¬Transfer.sameFile ⟨i, f, hf.address, 0⟩ t = true)
    (htransfers : h'.transfers = h.transfers.erase t) : hf.InBalance h' i f := by
  have hsame := TransfersOk.unfinished_dropTransfer ht ⟨i, f, hf.address, 0⟩
  rw [if_neg hne, Nat.add_zero] at hsame
  refine ⟨?_, fun t' ht' hat' => ?_⟩
  · rw [hbal.count, HostService.readers, hsame, HostService.readers, HostService.unfinished,
      HostService.unfinished, htransfers]
    rfl
  · rw [htransfers] at ht'
    exact hbal.bodies t' (List.mem_of_mem_erase ht') hat'

theorem HostFile.InBalance.leave (hbal : ∀ hf, h.file? i f = some hf → hf.InBalance h i f)
    (htransfers : h'.transfers = h.transfers) {c : String} {hf' : HostFile}
    (hbind : (h.file? i f).bind (HostFile.without c) = some hf') : hf'.InBalance h' i f := by
  obtain ⟨hf, hfile, hwithout⟩ := Option.bind_eq_some_iff.mp hbind
  exact (hbal hf hfile).keep htransfers (HostFile.without_same hwithout)

theorem inBalance_add (haddr : Addressed h) (env : HostEnvironment)
    (deviceIf client file : String) (hbal : ∀ hf, h.file? i f = some hf → hf.InBalance h i f) :
    ∀ hf, (rsuHostServiceAdd env deviceIf client file h).2.file? i f = some hf →
      hf.InBalance (rsuHostServiceAdd env deviceIf client file h).2 i f := by
  intro hf' hfile'
  obtain ⟨htransfers, -⟩ := ledger_add env deviceIf client file h
  cases hadd : rsuHostServiceAdd env deviceIf client file h with
  | mk result h' =>
      rw [hadd] at hfile' htransfers
      cases result with
      | error error =>
          rw [HostService.file?_add_failed hadd] at hfile'
          exact (hbal hf' hfile').keep htransfers ⟨rfl, rfl, rfl⟩
      | ok url =>
          obtain ⟨hf, hall, hadded, -⟩ := HostService.file?_add_ok hadd
          rw [hall] at hfile'
          split at hfile'
          next hat =>
            obtain rfl := Option.some.inj hfile'
            rw [← hat.1, ← hat.2] at hadded
            generalize hlookup : h.file? i f = old at hadded
            cases hadded with
            | known hf₀ => exact (hbal hf₀ hlookup).keep htransfers (hf₀.withClient_same client)
            | new _ _ hcount haddress => exact .new haddr htransfers haddress hcount
          · exact (hbal hf' hfile').keep htransfers ⟨rfl, rfl, rfl⟩

theorem inBalance_request (hmap : MappingsOk h) {mapped : Bool} {deviceIf : String}
    {msg : SoupMessage} (hgets : CountsGets i f h (.request mapped deviceIf msg))
    (hbal : ∀ hf, h.file? i f = some hf → hf.InBalance h i f) :
    ∀ hf, (prvSoupServerCb mapped deviceIf msg h).2.file? i f = some hf →
      hf.InBalance (prvSoupServerCb mapped deviceIf msg h).2 i f := by
  intro hf' hfile'
  have hrequests := prvSoupServerCb_requests mapped deviceIf msg h
  have hrefused : ∀ (server : HostServer) (g : String) (hf : HostFile),
      h.servers.lookup deviceIf = some server →
      prvHostServerFindFile server msg.path = some (g, hf) →
      ((msg.getContentFeatures.any fun hdr => hdr ≠ "1") = true ∨
        hf.mappedFile = none ∧ mapped = false) →
      (prvSoupServerCb mapped deviceIf msg h).2 = h :=
    fun server g hf => prvSoupServerCb_refused
  revert hrequests hrefused hfile'
  generalize prvSoupServerCb mapped deviceIf msg h = result
  intro hfile' hrequests hrefused
  cases hrequests with
  | refused _ => exact hbal hf' hfile'
  | @head _ server g hf hf₁ m h₁ hserver hfind href _ hmethod _ =>
      by_cases hat : deviceIf = i ∧ g = f
      · obtain ⟨rfl, rfl⟩ := hat
        -- a HEAD for the file is refused
        have hsame : h₁.setFile deviceIf g hf₁ = h :=
          hrefused server g hf hserver hfind (hgets.2 hmethod rfl server hf hserver hfind)
        have hfile : h.file? deviceIf g = some hf' := by
          rw [← hsame]
          exact hfile'
        show hf'.InBalance (h₁.setFile deviceIf g hf₁) deviceIf g
        rw [hsame]
        exact hbal hf' hfile
      · have hfile : (h₁.setFile deviceIf g hf₁).file? i f = some hf' := hfile'
        rw [MappingsOk.file?_refMapping hserver href,
          if_neg fun heq => hat ⟨heq.1.symm, heq.2.symm⟩] at hfile
        exact (hbal hf' hfile).keep (HostService.refMapping_same href).2.2.2 ⟨rfl, rfl, rfl⟩
  | @get _ server g hf hf₁ m h₁ hserver hfind href haccepted _ _ =>
      have htransfers := (HostService.refMapping_same href).2.2.2
      have hsnoc : h₁.transfers ++ [⟨deviceIf, g, hf₁.address, m⟩] =
          h.transfers ++ [⟨deviceIf, g, hf₁.address, m⟩] := by rw [htransfers]
      have hfile : (h₁.setFile deviceIf g hf₁).file? i f = some hf' := hfile'
      rw [MappingsOk.file?_refMapping hserver href] at hfile
      by_cases hat : deviceIf = i ∧ g = f
      · obtain ⟨rfl, rfl⟩ := hat
        rw [if_pos ⟨rfl, rfl⟩] at hfile
        obtain rfl := Option.some.inj hfile
        have hlookup : h.file? deviceIf g = some hf := by
          rw [HostService.file?_eq hserver, (prvHostServerFindFile_some hfind).1]
        have hlt := hgets.1 haccepted server g hf hserver hfind
        exact (hbal hf hlookup).get hmap hlookup href hlt hsnoc
      · rw [if_neg fun heq => hat ⟨heq.1.symm, heq.2.symm⟩] at hfile
        exact (hbal hf' hfile).snoc hsnoc hat

theorem inBalance_finished {t : Transfer} (ht : t ∈ h.transfers)
    (hfinish : prvSoupMessageFinishedCb t (h.dropTransfer t) = some h')
    (hbal : ∀ hf, h.file? i f = some hf → hf.InBalance h i f) :
    ∀ hf, h'.file? i f = some hf → hf.InBalance h' i f := by
  intro hf' hfile'
  obtain ⟨server, hf, hserver, hfile, haddress, hcases⟩ := prvSoupMessageFinishedCb_some hfinish
  have hfile? : h.file? t.deviceIf t.file = some hf :=
    (HostService.file?_eq (h := h) hserver t.file).trans hfile
  have hserver' : ((h.dropTransfer t).unrefMapping hf.mappedFile 1).servers.lookup
      t.deviceIf = some server := hserver
  by_cases hat : t.deviceIf = i ∧ t.file = f
  · obtain ⟨rfl, rfl⟩ := hat
    have hsame : Transfer.sameFile ⟨t.deviceIf, t.file, hf.address, 0⟩ t = true := by
      simp [Transfer.sameFile, haddress]
    have hcount := (hbal hf hfile?).count
    have hpos : 0 < h.readers t.deviceIf t.file hf := List.countP_pos_iff.mpr ⟨t, ht, hsame⟩
    rcases hcases with ⟨hzero, -⟩ | ⟨-, rfl⟩
    · omega
    · rw [HostService.file?_setFile hserver', if_pos ⟨rfl, rfl⟩] at hfile'
      obtain rfl := Option.some.inj hfile'
      exact (hbal hf hfile?).finished ht hsame rfl rfl
  · have hne : ∀ a, ¬Transfer.sameFile ⟨i, f, a, 0⟩ t = true := by
      intro a hsame
      simp only [Transfer.sameFile, decide_eq_true_eq] at hsame
      exact hat ⟨hsame.1, hsame.2.1⟩
    rcases hcases with ⟨-, rfl⟩ | ⟨-, rfl⟩
    · exact (hbal hf' hfile').erase ht (hne _) rfl
    · rw [HostService.file?_setFile hserver',
        if_neg fun heq => hat ⟨heq.1.symm, heq.2.symm⟩] at hfile'
      exact (hbal hf' hfile').erase ht (hne _) rfl

theorem HostStep.inBalance (hmap : MappingsOk h) (haddr : Addressed h)
    (hstep : HostStep h j h') (hgets : CountsGets i f h j)
    (hbal : ∀ hf, h.file? i f = some hf → hf.InBalance h i f) :
    ∀ hf, h'.file? i f = some hf → hf.InBalance h' i f := by
  cases hstep with
  | add env deviceIf client file => exact inBalance_add haddr env deviceIf client file hbal
  | remove deviceIf client file =>
      intro hf' hfile'
      have htransfers := HostService.transfers_remove deviceIf client file h
      rw [HostService.file?_remove] at hfile'
      split at hfile'
      next hat =>
        rw [← hat.1, ← hat.2] at hfile'
        exact .leave hbal htransfers hfile'
      · exact (hbal hf' hfile').keep htransfers ⟨rfl, rfl, rfl⟩
  | lostClient client =>
      intro hf' hfile'
      rw [HostService.file?_lostClient] at hfile'
      exact .leave hbal (HostService.transfers_lostClient client h) hfile'
  | request mapped deviceIf msg => exact inBalance_request hmap hgets hbal
  | finished ht hfinish => exact inBalance_finished ht hfinish hbal

end Balance

/-! ## Runs -/

/-- The count of a hosted file is that of its unfinished responses, and it is
mapped while there are any; the last of them releases the mapping, and the next
request maps the file again. -/
structure HostService.Balanced (h : HostService) (i f : String) : Prop where
  count : ∀ hf, h.file? i f = some hf →
    hf.mappedCount = h.readers i f hf ∧ (hf.mappedFile ≠ none ↔ 0 < h.readers i f hf)
  released : ∀ t h', hosting.step h (.finished t) h' → t.deviceIf = i → t.file = f →
    (∀ hf, h.file? i f = some hf → h.readers i f hf = 1) →
    h'.mappings t.mapping = 0 ∧ ∀ hf, h'.file? i f = some hf → hf.mappedFile = none
  remapped : ∀ mapped msg t,
    (prvSoupServerCb mapped i msg h).2.transfers = h.transfers ++ [t] → t.file = f →
    (∀ hf, h.file? i f = some hf → h.readers i f hf = 0) → t.mapping = h.nextMapping

section Balanced

variable {h : HostService} {i f : String}

theorem HostFile.InBalance.mapped {hf : HostFile} (hmap : MappingsOk h)
    (hbal : hf.InBalance h i f) (hfile : h.file? i f = some hf) :
    hf.mappedFile ≠ none ↔ 0 < h.readers i f hf := by
  rw [← hbal.count]
  cases hm : hf.mappedFile with
  | none => simp [hmap.unmapped i f hf hfile hm]
  | some m => simp [(hmap.mapped i f hf m hfile hm).2.1]

theorem refMapping_unmapped {mapped : Bool} {hf hf' : HostFile} {m : Nat} {h₁ : HostService}
    (hnone : hf.mappedFile = none) (href : h.refMapping mapped hf = some (m, hf', h₁)) :
    m = h.nextMapping := by
  unfold HostService.refMapping at href
  rw [hnone] at href
  cases mapped with
  | false => simp at href
  | true =>
      obtain ⟨rfl, -, -⟩ := by simpa using href
      rfl

theorem balanced_of_inBalance (hmap : MappingsOk h)
    (hbal : ∀ hf, h.file? i f = some hf → hf.InBalance h i f) : h.Balanced i f where
  count hf hfile := ⟨(hbal hf hfile).count, (hbal hf hfile).mapped hmap hfile⟩
  released t h' hstep hi hf' hone := by
    subst hi hf'
    cases hosting_step hstep with
    | finished ht hfinish =>
        obtain ⟨server, hf, hserver, hfile, haddress, hcases⟩ :=
          prvSoupMessageFinishedCb_some hfinish
        have hfile? : h.file? t.deviceIf t.file = some hf :=
          (HostService.file?_eq (h := h) hserver t.file).trans hfile
        have hserver' : ((h.dropTransfer t).unrefMapping hf.mappedFile 1).servers.lookup
            t.deviceIf = some server := hserver
        have hcount : hf.mappedCount = 1 := (hbal hf hfile?).count.trans (hone hf hfile?)
        have hmapped : hf.mappedFile = some t.mapping :=
          (hbal hf hfile?).bodies t ht (by simp [Transfer.sameFile, haddress])
        have href := (hmap.mapped _ _ hf t.mapping hfile? hmapped).2.2
        rcases hcases with ⟨hzero, -⟩ | ⟨-, rfl⟩
        · omega
        · refine ⟨?_, fun hf₁ hfile₁ => ?_⟩
          · show (if some t.mapping = hf.mappedFile then h.mappings t.mapping - 1
              else h.mappings t.mapping) = 0
            rw [if_pos hmapped.symm, href, hcount]
          · rw [HostService.file?_setFile hserver', if_pos ⟨rfl, rfl⟩] at hfile₁
            obtain rfl := Option.some.inj hfile₁
            simp [hcount]
  remapped mapped msg t htransfers hf' hzero := by
    have hrequests := prvSoupServerCb_requests mapped i msg h
    revert hrequests htransfers
    generalize prvSoupServerCb mapped i msg h = result
    intro htransfers hrequests
    cases hrequests with
    | refused _ => exact absurd htransfers (by simp)
    | head _ _ href _ _ _ =>
        have hsame := (HostService.refMapping_same href).2.2.2
        have hsnoc : h.transfers = h.transfers ++ [t] := hsame ▸ htransfers
        simp at hsnoc
    | @get _ server g hf _ m _ hserver hfind href _ _ _ =>
        have hsame := (HostService.refMapping_same href).2.2.2
        simp only [hsame, List.append_cancel_left_eq, List.cons.injEq, and_true] at htransfers
        subst htransfers
        obtain rfl : g = f := hf'
        have hlookup := (prvHostServerFindFile_some hfind).1
        have hfile : h.file? i g = some hf := by rw [HostService.file?_eq hserver, hlookup]
        have hnone : hf.mappedFile = none := by
          by_contra hne
          have hpos := ((hbal hf hfile).mapped hmap hfile).mp hne
          have hnot := hzero hf hfile
          omega
        exact refMapping_unmapped hnone href

end Balanced

/-- From the time a file is hosted on, its mapping is in balance as long as no HEAD
is answered from it and no counter overflows. -/
theorem hosting_balanced {is : List HostInput} {h₀ h : HostService} {i f : String}
    (hr : (hosting.restrict CountsReferences).Reaches is h₀) (hnew : h₀.file? i f = none)
    (hs : (hosting.restrict (CountsGets i f)).Steps h₀ h) : h.Balanced i f := by
  have hstart : MappingsOk h₀ ∧ Addressed h₀ ∧
      ∀ hf, h₀.file? i f = some hf → hf.InBalance h₀ i f := by
    refine ⟨?_, hosting_addressed hr.of_restrict, fun hf hfile => ?_⟩
    · refine hr.invariant (I := MappingsOk) (fun h hinit => ?_) fun h j h' hmap hstep =>
        (hosting_step hstep.2).mappingsOk hmap hstep.1
      obtain rfl : h = {} := hinit
      exact .init
    · rw [hnew] at hfile
      simp at hfile
  obtain ⟨hmap, -, hbal⟩ := hs.invariant
    (I := fun h => MappingsOk h ∧ Addressed h ∧ ∀ hf, h.file? i f = some hf → hf.InBalance h i f)
    hstart fun h j h' hok hstep =>
      ⟨(hosting_step hstep.2).mappingsOk hok.1 hstep.1.1,
        (hosting_step hstep.2).addressed hok.2.1,
        (hosting_step hstep.2).inBalance hok.1 hok.2.1 hstep.1 hok.2.2⟩
  exact balanced_of_inBalance hmap hbal

theorem hosting_balanced_oneTransfer : oneTransfer.transfers.length = 1 ∧
    oneTransfer.Balanced "192.168.1.2" "/home/user/a.mp3" := by
  have hadd : hosting.step {} oneFile oneHosted := rfl
  have hget : hosting.step oneHosted oneRequest oneTransfer := rfl
  have hfirst : CountsGets "192.168.1.2" "/home/user/a.mp3" {} oneFile := ⟨trivial, trivial⟩
  have hsecond : CountsGets "192.168.1.2" "/home/user/a.mp3" oneHosted oneRequest :=
    ⟨oneHosted_counts, fun hhead => by simp at hhead⟩
  have hs : (hosting.restrict (CountsGets "192.168.1.2" "/home/user/a.mp3")).Steps {} oneTransfer :=
    .head ⟨_, hfirst, hadd⟩ (.single ⟨_, hsecond, hget⟩)
  exact ⟨by decide +kernel, hosting_balanced (.init rfl) rfl hs⟩

def oneHead : HostInput := .request true "192.168.1.2" ⟨.head, "/rendererserviceupnp/0.mp3", none⟩

/-- The reference of a HEAD is never given back: the mapping stays after the last
response has finished. -/
theorem head_keeps_mapping :
    ∃ is h hf, hosting.Reaches is h ∧ h.file? "192.168.1.2" "/home/user/a.mp3" = some hf ∧
      h.transfers = [] ∧ h.readers "192.168.1.2" "/home/user/a.mp3" hf = 0 ∧
      hf.mappedCount = 1 ∧ hf.mappedFile = some 0 ∧ h.mappings 0 = 1 := by
  have hrun : ((runFrom hostStepFn [oneFile, oneHead, oneRequest,
      .finished ⟨"192.168.1.2", "/home/user/a.mp3", 0, 0⟩] {}).any fun h =>
        (h.file? "192.168.1.2" "/home/user/a.mp3").any fun hf => decide (h.transfers = [] ∧
          h.readers "192.168.1.2" "/home/user/a.mp3" hf = 0 ∧ hf.mappedCount = 1 ∧
          hf.mappedFile = some 0 ∧ h.mappings 0 = 1)) = true := by
    decide +kernel
  obtain ⟨h, hh, hany⟩ := (Option.any_eq_true _ _).mp hrun
  obtain ⟨hf, hfile, hfacts⟩ := (Option.any_eq_true _ _).mp hany
  exact ⟨_, h, hf, reaches_of_run hh, hfile, of_decide_eq_true hfacts⟩

end RendererService
