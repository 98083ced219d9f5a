import RendererService.Host.Operations
import RendererService.Lib.Transition

/-!
# The hosted files

What each operation of the host service does to the file of an interface and a
name, and what stays the same while requests are answered.
-/

namespace RendererService

/-! ## Adding and removing -/

theorem HostServer.lookup_kept (server : HostServer) (f : String) :
    (server.kept.bind fun server => server.files.lookup f) = server.files.lookup f := by
  unfold HostServer.kept
  split
  · next hempty => simp [Assoc.entries_eq_nil_iff.mp hempty f]
  · rfl

theorem HostServer.kept_some {server server' : HostServer} (h : server.kept = some server') :
    server' = server ∧ ∃ f hf, server.files.lookup f = some hf := by
  unfold HostServer.kept at h
  split at h
  · simp at h
  · next hfull =>
      obtain rfl := Option.some.inj h
      rw [Assoc.entries_eq_nil_iff, not_forall] at hfull
      obtain ⟨f, hf⟩ := hfull
      exact ⟨rfl, f, Option.ne_none_iff_exists'.mp hf⟩

namespace HostService

variable {h : HostService} {i f c : String}

theorem file?_setServer (h : HostService) (i j g : String) (server : HostServer) :
    (h.setServer i server).file? j g = if j = i then server.files.lookup g else h.file? j g := by
  unfold file? setServer
  rw [Assoc.lookup_insert_eq]
  split <;> rfl

theorem file?_remove (h : HostService) (i c f j g : String) :
    (rsuHostServiceRemove i c f h).2.file? j g =
      if j = i ∧ g = f then (h.file? i f).bind (HostFile.without c) else h.file? j g := by
  have hremoves := rsuHostServiceRemove_removes i c f h
  revert hremoves
  generalize rsuHostServiceRemove i c f h = result
  intro hremoves
  cases hremoves with
  | absent habsent =>
      split
      · next hat =>
          obtain ⟨rfl, rfl⟩ := hat
          cases hfile : h.file? j g with
          | none => simp
          | some hf =>
              have hmem : c ∉ hf.clients := fun hmem => habsent ⟨hf, hfile, hmem⟩
              simp [HostFile.without, hmem]
      · rfl
  | removed hserver hfile hmem =>
      rw [file?, lookup_dropped hserver hfile hmem]
      by_cases hj : j = i
      · subst hj
        rw [if_pos rfl, HostServer.drop, HostServer.lookup_kept, lookup_forgetClient, hfile,
          file?_eq hserver, file?_eq hserver, hfile]
        simp
      · simp [hj, file?]

theorem file?_lostClient (c : String) (h : HostService) (i f : String) :
    (rsuHostServiceLostClient c h).file? i f = (h.file? i f).bind (HostFile.without c) := by
  rw [file?, lookup_lostClient]
  cases hserver : h.servers.lookup i with
  | none => simp [file?, hserver]
  | some server =>
      rw [file?_eq hserver, Option.bind_some, HostServer.lookup_kept, HostServer.lookup_forget]

/-- The servers that an add works on have the files of the store. -/
theorem Opens.file? {env : HostEnvironment} {server : HostServer}
    (hopens : h.Opens env i server) (f : String) : server.files.lookup f = h.file? i f := by
  rcases hopens with hi | ⟨hnone, hnew⟩
  · rw [file?_eq hi]
  · obtain rfl := prvHostServerNew_ok hnew
    simp [HostService.file?, hnone]

theorem file?_add_failed {h' : HostService} {env : HostEnvironment} {error : GError}
    (hfail : rsuHostServiceAdd env i c f h = (.error error, h')) (j g : String) :
    h'.file? j g = h.file? j g := by
  have hadds := rsuHostServiceAdd_adds env i c f h
  rw [hfail] at hadds
  cases hadds with
  | refused _ _ => rfl
  | served hopens hfile =>
      cases hfile with
      | failed _ _ =>
          rw [file?_setServer]
          split
          · next hat =>
              subst hat
              exact hopens.file? g
          · rfl

end HostService

/-- The file that an add writes: the one that is hosted already, or a new one. -/
inductive HostFile.Added (client : String) (address : Nat) : Option HostFile → HostFile → Prop
  | known (hf : HostFile) : Added client address (some hf) (hf.withClient client)
  | new {hf : HostFile} :
      hf.clients = [client] → hf.mappedFile = none → hf.mappedCount = 0 → hf.address = address →
      Added client address none hf

theorem HostFile.Added.mem_clients {client : String} {address : Nat} {old : Option HostFile}
    {hf : HostFile} (h : HostFile.Added client address old hf) (c : String) :
    c ∈ hf.clients ↔ c = client ∨ ∃ hf₀, old = some hf₀ ∧ c ∈ hf₀.clients := by
  cases h with
  | known hf₀ =>
      rw [HostFile.withClient]
      split
      · next hmem =>
          constructor
          · exact fun hc => .inr ⟨hf₀, rfl, hc⟩
          · rintro (rfl | ⟨_, heq, hc⟩)
            · exact hmem
            · exact Option.some.inj heq ▸ hc
      · simp [or_comm]
  | new hclients _ _ _ => simp [hclients]

namespace HostService

variable {h h' : HostService} {i f c : String}

theorem file?_add_ok {env : HostEnvironment} {url : String}
    (hadd : rsuHostServiceAdd env i c f h = (.ok url, h')) :
    ∃ hf', (∀ j g, h'.file? j g = if j = i ∧ g = f then some hf' else h.file? j g) ∧
      HostFile.Added c h.nextFile (h.file? i f) hf' ∧
      ∃ server', h'.servers.lookup i = some server' ∧ url = server'.url i hf' := by
  have hadds := rsuHostServiceAdd_adds env i c f h
  rw [hadd] at hadds
  cases hadds with
  | @served server server' _ hopens hfile =>
      have hserver : (h.setServer i server').servers.lookup i = some server' :=
        AList.lookup_insert _
      have hfile? : ∀ hf', server'.files = server.files.insert f hf' → ∀ j g,
          (h.setServer i server').file? j g =
            if j = i ∧ g = f then some hf' else h.file? j g := by
        intro hf' hfiles j g
        rw [file?_setServer, hfiles, Assoc.lookup_insert_eq]
        by_cases hj : j = i
        · subst hj
          simp [hopens.file? g]
        · simp [hj]
      rw [← hopens.file? f]
      cases hfile with
      | @known hf hlookup =>
          rw [hlookup]
          exact ⟨hf.withClient c, hfile? _ rfl, .known hf, _, hserver, rfl⟩
      | new hf hlookup hnew =>
          rw [hlookup]
          obtain ⟨haddress, -, -, hmapped, hcount, -⟩ := prvHostFileNew_ok hnew
          exact ⟨{ hf with clients := [c] }, hfile? _ rfl, .new rfl hmapped hcount haddress, _,
            hserver, rfl⟩

/-! ## Answering requests -/

theorem lookup_setFile (h : HostService) (i f j : String) (hf : HostFile) :
    (h.setFile i f hf).servers.lookup j =
      if j = i then (h.servers.lookup i).map fun server => { server with
        files := server.files.insert f hf }
      else h.servers.lookup j :=
  lookup_modifyFiles h i j _

theorem file?_setFile {server : HostServer} (hi : h.servers.lookup i = some server)
    (j g : String) (hf : HostFile) :
    (h.setFile i f hf).file? j g = if j = i ∧ g = f then some hf else h.file? j g := by
  rw [file?, lookup_setFile]
  by_cases hj : j = i
  · subst hj
    simp [hi, Assoc.lookup_insert_eq, file?]
  · simp [hj, file?]

end HostService

def HostFile.entry (hf : HostFile) : HostFile :=
  { hf with mappedFile := none, mappedCount := 0 }

theorem HostFile.entry_eq {hf hf' : HostFile} (h : hf'.entry = hf.entry) :
    hf'.clients = hf.clients ∧ hf'.id = hf.id ∧ hf'.path = hf.path ∧
      hf'.address = hf.address := by
  simp only [HostFile.entry, HostFile.mk.injEq] at h
  exact ⟨h.2.2.1, h.2.1, h.2.2.2.2.2.2.1, h.1⟩

def HostServer.Serves (server server' : HostServer) : Prop :=
  server'.port = server.port ∧ server'.counter = server.counter ∧
    ∀ f, (server'.files.lookup f).map HostFile.entry = (server.files.lookup f).map HostFile.entry

/-- Requests are answered: only mappings and transfers change. -/
structure Serves (h h' : HostService) : Prop where
  server : ∀ i server', h'.servers.lookup i = some server' →
    ∃ server, h.servers.lookup i = some server ∧ server.Serves server'
  gone : ∀ i, h'.servers.lookup i = none → h.servers.lookup i = none
  nextFile : h'.nextFile = h.nextFile

theorem HostServer.Serves.refl {server : HostServer} : server.Serves server :=
  ⟨rfl, rfl, fun _ => rfl⟩

theorem HostServer.Serves.file {server server' : HostServer} (h : server.Serves server')
    {f : String} {hf' : HostFile} (hfile : server'.files.lookup f = some hf') :
    ∃ hf, server.files.lookup f = some hf ∧ hf'.entry = hf.entry := by
  have hentry := h.2.2 f
  rw [hfile] at hentry
  cases hf : server.files.lookup f with
  | none => simp [hf] at hentry
  | some hf₀ => exact ⟨hf₀, rfl, by simpa [hf] using hentry⟩

theorem Serves.refl {h : HostService} : Serves h h :=
  ⟨fun _ server' hi => ⟨server', hi, .refl⟩, fun _ hi => hi, rfl⟩

theorem Serves.file? {h h' : HostService} (hs : Serves h h') (i f : String) :
    (h'.file? i f).map HostFile.entry = (h.file? i f).map HostFile.entry := by
  cases hi : h'.servers.lookup i with
  | none => simp [HostService.file?, hi, hs.gone i hi]
  | some server' =>
      obtain ⟨server, hserver, hserves⟩ := hs.server i server' hi
      rw [HostService.file?_eq hi, HostService.file?_eq hserver, hserves.2.2 f]

theorem serves_setFile {h : HostService} {server : HostServer} {i f : String} {hf hf' : HostFile}
    (hi : h.servers.lookup i = some server) (hfile : server.files.lookup f = some hf)
    (hentry : hf'.entry = hf.entry) : Serves h (h.setFile i f hf') where
  server j server' hj := by
    rw [HostService.lookup_setFile] at hj
    split at hj
    · next heq =>
        subst heq
        rw [hi, Option.map_some] at hj
        obtain rfl := Option.some.inj hj
        refine ⟨server, hi, rfl, rfl, fun g => ?_⟩
        show ((server.files.insert f hf').lookup g).map HostFile.entry = _
        rw [Assoc.lookup_insert_eq]
        split
        · next hg =>
            subst hg
            simp [hfile, hentry]
        · rfl
    · exact ⟨server', hj, .refl⟩
  gone j hj := by
    rw [HostService.lookup_setFile] at hj
    split at hj
    · next heq => simp [hi] at hj
    · exact hj
  nextFile := rfl

theorem prvHostServerFindFile_some {server : HostServer} {url f : String} {hf : HostFile}
    (h : prvHostServerFindFile server url = some (f, hf)) :
    server.files.lookup f = some hf ∧ hf.path = url := by
  obtain ⟨e, he, heq⟩ := Option.map_eq_some_iff.mp h
  obtain ⟨rfl, rfl⟩ := Prod.mk.inj heq
  exact ⟨Assoc.lookup_of_mem_entries (List.mem_of_find?_eq_some he),
    by simpa using List.find?_some he⟩

/-- A request that the handler refuses neither for its method nor for its headers. -/
def SoupMessage.Accepted (msg : SoupMessage) : Prop :=
  msg.method ≠ .other ∧ (msg.getContentFeatures.any fun hdr => hdr ≠ "1") = false

inductive Requests (mapped : Bool) (deviceIf : String) (msg : SoupMessage) (h : HostService) :
    SoupResponse × HostService → Prop
  | refused {response : SoupResponse} :
      response.status ≠ .ok → Requests mapped deviceIf msg h (response, h)
  | head {response : SoupResponse} {server : HostServer} {f : String} {hf hf' : HostFile}
      {m : Nat} {h' : HostService} :
      h.servers.lookup deviceIf = some server →
      prvHostServerFindFile server msg.path = some (f, hf) →
      h.refMapping mapped hf = some (m, hf', h') → msg.Accepted → msg.method = .head →
      response.body = none →
      Requests mapped deviceIf msg h (response, h'.setFile deviceIf f hf')
  | get {response : SoupResponse} {server : HostServer} {f : String} {hf hf' : HostFile}
      {m : Nat} {h' : HostService} :
      h.servers.lookup deviceIf = some server →
      prvHostServerFindFile server msg.path = some (f, hf) →
      h.refMapping mapped hf = some (m, hf', h') → msg.Accepted → msg.method = .get →
      response.body = some m →
      Requests mapped deviceIf msg h (response, { h'.setFile deviceIf f hf' with
        transfers := h'.transfers ++ [⟨deviceIf, f, hf'.address, m⟩] })

theorem prvSoupServerCb_requests (mapped : Bool) (deviceIf : String) (msg : SoupMessage)
    (h : HostService) : Requests mapped deviceIf msg h (prvSoupServerCb mapped deviceIf msg h) := by
  unfold prvSoupServerCb
  split
  · exact .refused (by simp)
  · next hmethod =>
      cases hfind : (h.servers.lookup deviceIf).bind fun hs =>
          prvHostServerFindFile hs msg.path with
      | none => exact .refused (by simp)
      | some found =>
          obtain ⟨server, hserver, hfile⟩ := Option.bind_eq_some_iff.mp hfind
          dsimp only
          split
          · exact .refused (by simp)
          · next hheader =>
              have haccepted : msg.Accepted := ⟨hmethod, Bool.eq_false_iff.mpr hheader⟩
              cases href : h.refMapping mapped found.2 with
              | none => exact .refused (by simp)
              | some r =>
                  dsimp only
                  split
                  · next hget => exact .get hserver hfile href haccepted hget rfl
                  · next hget =>
                      have hhead : msg.method = .head := by
                        cases hm : msg.method <;> simp_all
                      exact .head hserver hfile href haccepted hhead rfl

/-- A reference taken is counted by the file and by the mapping. -/
theorem HostService.refMapping_same {h h' : HostService} {mapped : Bool} {hf hf' : HostFile}
    {m : Nat} (href : h.refMapping mapped hf = some (m, hf', h')) :
    hf'.entry = hf.entry ∧ h'.servers = h.servers ∧ h'.nextFile = h.nextFile ∧
      h'.transfers = h.transfers := by
  unfold HostService.refMapping at href
  split at href
  · obtain ⟨rfl, rfl, rfl⟩ := by simpa using href
    exact ⟨rfl, rfl, rfl, rfl⟩
  · split at href
    · obtain ⟨rfl, rfl, rfl⟩ := by simpa using href
      exact ⟨rfl, rfl, rfl, rfl⟩
    · simp at href

theorem serves_request (mapped : Bool) (deviceIf : String) (msg : SoupMessage)
    (h : HostService) : Serves h (prvSoupServerCb mapped deviceIf msg h).2 := by
  have hserve : ∀ {server : HostServer} {f : String} {hf hf' : HostFile} {m : Nat}
      {h' : HostService}, h.servers.lookup deviceIf = some server →
      prvHostServerFindFile server msg.path = some (f, hf) →
      h.refMapping mapped hf = some (m, hf', h') → Serves h (h'.setFile deviceIf f hf') := by
    intro server f hf hf' m h' hserver hfind href
    obtain ⟨hentry, hservers, hnext, -⟩ := HostService.refMapping_same href
    have hset := serves_setFile hserver (prvHostServerFindFile_some hfind).1 hentry
    refine ⟨fun i server' hi => hset.server i server' ?_, fun i hi => hset.gone i ?_, hnext⟩
    · rw [← hi, HostService.lookup_setFile, HostService.lookup_setFile, hservers]
    · rw [← hi, HostService.lookup_setFile, HostService.lookup_setFile, hservers]
  cases hresult : prvSoupServerCb mapped deviceIf msg h with
  | mk response h' =>
      have hrequests := prvSoupServerCb_requests mapped deviceIf msg h
      rw [hresult] at hrequests
      cases hrequests with
      | refused _ => exact .refl
      | head hserver hfind href _ _ _ => exact hserve hserver hfind href
      | get hserver hfind href _ _ _ =>
          have hset := hserve hserver hfind href
          exact ⟨hset.server, hset.gone, hset.nextFile⟩

/-- The file a finished transfer points to gives up one reference. -/
theorem prvSoupMessageFinishedCb_some {t : Transfer} {h h' : HostService}
    (hfinish : prvSoupMessageFinishedCb t h = some h') :
    ∃ server hf, h.servers.lookup t.deviceIf = some server ∧
      server.files.lookup t.file = some hf ∧ hf.address = t.address ∧
      (hf.mappedCount = 0 ∧ h' = h ∨ 0 < hf.mappedCount ∧
        h' = (h.unrefMapping hf.mappedFile 1).setFile t.deviceIf t.file { hf with
          mappedCount := hf.mappedCount - 1
          mappedFile := if hf.mappedCount - 1 = 0 then none else hf.mappedFile }) := by
  obtain ⟨hf, hfile, heq⟩ := Option.map_eq_some_iff.mp hfinish
  obtain ⟨hfile?, haddress⟩ := Option.filter_eq_some_iff.mp hfile
  obtain ⟨server, hserver, hlookup⟩ := Option.bind_eq_some_iff.mp hfile?
  refine ⟨server, hf, hserver, hlookup, by simpa using haddress, ?_⟩
  by_cases hcount : 0 < hf.mappedCount
  · exact .inr ⟨hcount, by rw [← heq, if_pos hcount]⟩
  · exact .inl ⟨by omega, by rw [← heq, if_neg hcount]⟩

theorem serves_finished {t : Transfer} {h h' : HostService}
    (hfinish : prvSoupMessageFinishedCb t h = some h') : Serves h h' := by
  obtain ⟨server, hf, hserver, hfile, -, ⟨-, rfl⟩ | ⟨-, rfl⟩⟩ :=
    prvSoupMessageFinishedCb_some hfinish
  · exact .refl
  · have hset : Serves (h.unrefMapping hf.mappedFile 1)
        ((h.unrefMapping hf.mappedFile 1).setFile t.deviceIf t.file { hf with
          mappedCount := hf.mappedCount - 1
          mappedFile := if hf.mappedCount - 1 = 0 then none else hf.mappedFile }) :=
      serves_setFile hserver hfile rfl
    exact ⟨hset.server, hset.gone, hset.nextFile⟩

/-! ## Runs -/

def hosting : Transition.System HostService HostInput := .ofFun {} hostStepFn

/-- The steps of the host service. -/
inductive HostStep (h : HostService) : HostInput → HostService → Prop
  | add (env : HostEnvironment) (deviceIf client file : String) :
      HostStep h (.add env deviceIf client file) (rsuHostServiceAdd env deviceIf client file h).2
  | remove (deviceIf client file : String) :
      HostStep h (.remove deviceIf client file) (rsuHostServiceRemove deviceIf client file h).2
  | lostClient (client : String) :
      HostStep h (.lostClient client) (rsuHostServiceLostClient client h)
  | request (mapped : Bool) (deviceIf : String) (msg : SoupMessage) :
      HostStep h (.request mapped deviceIf msg) (prvSoupServerCb mapped deviceIf msg h).2
  | finished {t : Transfer} {h' : HostService} :
      t ∈ h.transfers → prvSoupMessageFinishedCb t (h.dropTransfer t) = some h' →
      HostStep h (.finished t) h'

theorem hosting_step {h h' : HostService} {i : HostInput} (hstep : hosting.step h i h') :
    HostStep h i h' := by
  have hsome : hostStepFn h i = some h' := hstep
  cases i with
  | add env deviceIf client file =>
      obtain rfl := Option.some.inj hsome
      exact .add env deviceIf client file
  | remove deviceIf client file =>
      obtain rfl := Option.some.inj hsome
      exact .remove deviceIf client file
  | lostClient client =>
      obtain rfl := Option.some.inj hsome
      exact .lostClient client
  | request mapped deviceIf msg =>
      simp only [hostStepFn] at hsome
      split at hsome
      · obtain rfl := Option.some.inj hsome
        exact .request mapped deviceIf msg
      · simp at hsome
  | finished t =>
      simp only [hostStepFn] at hsome
      split at hsome
      · next hmem => exact .finished hmem hsome
      · simp at hsome

end RendererService
