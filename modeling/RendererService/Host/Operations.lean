import RendererService.Model.HostService

/-!
# What the operations of the host service do

One lookup equation for each operation, on the servers and on the files.  The
loops of `rsu_host_service_lost_client` come to a change of every file, and of
every server, by itself.
-/

namespace RendererService

/-! ## Files and servers -/

def HostFile.without (client : String) (hf : HostFile) : Option HostFile :=
  if client ∈ hf.clients then
    if hf.clients.erase client = [] then none
    else some { hf with clients := hf.clients.erase client }
  else some hf

def forgetClient (client : String) (files : Assoc.Table String HostFile) (file : String) :
    Assoc.Table String HostFile :=
  match files.lookup file with
  | none => files
  | some hf =>
      match hf.prvRemoveClient client with
      | none => files
      | some hf => if hf.clients = [] then files.erase file else files.insert file hf

theorem lookup_forgetClient (client : String) (files : Assoc.Table String HostFile)
    (file g : String) :
    (forgetClient client files file).lookup g =
      if g = file then (files.lookup file).bind (HostFile.without client)
      else files.lookup g := by
  unfold forgetClient
  cases hfile : files.lookup file with
  | none =>
      by_cases hg : g = file
      · subst hg
        simp [hfile]
      · simp [hg]
  | some hf =>
      by_cases hmem : client ∈ hf.clients
      · by_cases hempty : hf.clients.erase client = []
        · simp [HostFile.prvRemoveClient, HostFile.without, hmem, hempty,
            Assoc.lookup_erase_eq]
        · simp [HostFile.prvRemoveClient, HostFile.without, hmem, hempty,
            Assoc.lookup_insert_eq]
      · by_cases hg : g = file
        · subst hg
          simp [HostFile.prvRemoveClient, HostFile.without, hmem, hfile]
        · simp [HostFile.prvRemoveClient, hmem, hg]

def HostServer.forget (client : String) (server : HostServer) : HostServer :=
  { server with files := server.files.keys.foldl (forgetClient client) server.files }

theorem HostServer.lookup_forget (client : String) (server : HostServer) (file : String) :
    (server.forget client).files.lookup file =
      (server.files.lookup file).bind (HostFile.without client) := by
  have hvisit := Assoc.foldl_visit (fun files g => files.lookup g)
    (g := fun _ hf => hf.bind (HostFile.without client))
    (fun files f g => lookup_forgetClient client files f g) server.files.keys_nodup
    server.files file
  rw [HostServer.forget, hvisit]
  split
  · rfl
  · next hmem =>
      have hnone : server.files.lookup file = none := by
        rwa [AList.lookup_eq_none, AList.mem_keys]
      simp [hnone]

def HostServer.kept (server : HostServer) : Option HostServer :=
  if server.files.entries = [] then none else some server

/-! ## Steps on the store -/

namespace HostService

variable {h : HostService} {i : String} {server : HostServer}

theorem file?_eq (hi : h.servers.lookup i = some server) (f : String) :
    h.file? i f = server.files.lookup f := by
  simp [file?, hi]

theorem lookup_modifyFiles (h : HostService) (i j : String)
    (f : Assoc.Table String HostFile → Assoc.Table String HostFile) :
    (h.modifyFiles i f).servers.lookup j =
      if j = i then (h.servers.lookup i).map fun server => { server with files := f server.files }
      else h.servers.lookup j :=
  Assoc.lookup_modify _ _ _ _

theorem lookup_storeFile (h : HostService) (i f j : String) (hf : HostFile) :
    (h.storeFile i f hf).servers.lookup j =
      if j = i then
        (h.servers.lookup i).map fun server => { server with
          files := if hf.clients = [] then server.files.erase f else server.files.insert f hf }
      else h.servers.lookup j := by
  unfold storeFile
  split
  · exact lookup_modifyFiles h i j _
  · exact lookup_modifyFiles h i j _

theorem lookup_pruneServer (h : HostService) (i j : String) :
    (h.pruneServer i).servers.lookup j =
      if j = i then (h.servers.lookup i).bind HostServer.kept else h.servers.lookup j := by
  unfold pruneServer
  cases hi : h.servers.lookup i with
  | none =>
      by_cases hj : j = i
      · subst hj
        simp [hi]
      · simp [hj]
  | some server =>
      by_cases hempty : server.files.entries = []
      · simp [prvHostServerDelete, hempty, HostServer.kept, Assoc.lookup_erase_eq]
      · by_cases hj : j = i
        · subst hj
          simp [hempty, HostServer.kept, hi]
        · simp [hempty, hj]

end HostService

/-! ## rsu_host_service_add -/

def HostFile.withClient (hf : HostFile) (client : String) : HostFile :=
  if client ∈ hf.clients then hf else { hf with clients := hf.clients ++ [client] }

def HostServer.counted (server : HostServer) : HostServer :=
  { server with counter := (server.counter + 1) % 2 ^ 32 }

inductive AddsFile (env : HostEnvironment) (server : HostServer)
    (client deviceIf file : String) (address : Nat) : Except GError String × HostServer → Prop
  | known {hf : HostFile} :
      server.files.lookup file = some hf →
      AddsFile env server client deviceIf file address
        (.ok (server.url deviceIf (hf.withClient client)),
          { server with files := server.files.insert file (hf.withClient client) })
  | new (hf : HostFile) :
      server.files.lookup file = none →
      prvHostFileNew env file server.counter address = .ok hf →
      AddsFile env server client deviceIf file address
        (.ok (server.url deviceIf hf), { server.counted with
          files := server.files.insert file { hf with clients := [client] } })
  | failed {error : GError} :
      server.files.lookup file = none →
      prvHostFileNew env file server.counter address = .error error →
      AddsFile env server client deviceIf file address (.error error, server.counted)

theorem prvHostFileNew_ok {env : HostEnvironment} {file : String} {id address : Nat}
    {hf : HostFile} (h : prvHostFileNew env file id address = .ok hf) :
    hf.address = address ∧ hf.id = id ∧ hf.clients = [] ∧ hf.mappedFile = none ∧
      hf.mappedCount = 0 ∧ hf.path = hostPath id file := by
  unfold prvHostFileNew at h
  split at h
  · simp at h
  · split at h
    · simp at h
    · split at h
      · simp at h
      · obtain rfl := Except.ok.inj h
        exact ⟨rfl, rfl, rfl, rfl, rfl, rfl⟩

theorem prvAddNewFile_addsFile (env : HostEnvironment) (server : HostServer)
    (client deviceIf file : String) (address : Nat) :
    AddsFile env server client deviceIf file address
      (prvAddNewFile env server client deviceIf file address) := by
  unfold prvAddNewFile
  cases hfile : server.files.lookup file with
  | some hf => exact .known hfile
  | none =>
      cases hnew : prvHostFileNew env file server.counter address with
      | error error => exact .failed hfile hnew
      | ok hf =>
          have hclients : hf.clients ++ [client] = [client] := by
            rw [(prvHostFileNew_ok hnew).2.2.1]
            rfl
          dsimp only
          rw [hclients]
          exact .new hf hfile hnew

/-- The server that an add works on: the one that runs, else a new one. -/
def HostService.Opens (h : HostService) (env : HostEnvironment) (deviceIf : String)
    (server : HostServer) : Prop :=
  h.servers.lookup deviceIf = some server ∨
    h.servers.lookup deviceIf = none ∧ prvHostServerNew env deviceIf = .ok server

def HostService.setServer (h : HostService) (deviceIf : String) (server : HostServer) :
    HostService :=
  { h with
    servers := h.servers.insert deviceIf server
    nextFile := h.nextFile + 1 }

inductive Adds (env : HostEnvironment) (deviceIf client file : String) (h : HostService) :
    Except GError String × HostService → Prop
  | refused {error : GError} :
      h.servers.lookup deviceIf = none → prvHostServerNew env deviceIf = .error error →
      Adds env deviceIf client file h (.error error, h)
  | served {server server' : HostServer} {url : Except GError String} :
      h.Opens env deviceIf server →
      AddsFile env server client deviceIf file h.nextFile (url, server') →
      Adds env deviceIf client file h (url, h.setServer deviceIf server')

theorem rsuHostServiceAdd_adds (env : HostEnvironment) (deviceIf client file : String)
    (h : HostService) :
    Adds env deviceIf client file h (rsuHostServiceAdd env deviceIf client file h) := by
  have hadds : ∀ server, h.Opens env deviceIf server →
      Adds env deviceIf client file h
        ((prvAddNewFile env server client deviceIf file h.nextFile).1,
          h.setServer deviceIf (prvAddNewFile env server client deviceIf file h.nextFile).2) :=
    fun server hopens => .served hopens (prvAddNewFile_addsFile _ _ _ _ _ _)
  unfold rsuHostServiceAdd
  cases hserver : h.servers.lookup deviceIf with
  | some server => exact hadds server (.inl hserver)
  | none =>
      cases hnew : prvHostServerNew env deviceIf with
      | error error => exact .refused hserver hnew
      | ok server => exact hadds server (.inr ⟨hserver, hnew⟩)

theorem prvHostServerNew_ok {env : HostEnvironment} {deviceIf : String} {server : HostServer}
    (h : prvHostServerNew env deviceIf = .ok server) : server = { port := env.port } := by
  unfold prvHostServerNew at h
  split at h
  · exact (Except.ok.inj h).symm
  · simp at h

/-! ## rsu_host_service_remove -/

/-- The server after a file lost a client, unless it has no file left. -/
def HostServer.drop (client file : String) (server : HostServer) : Option HostServer :=
  HostServer.kept { server with files := forgetClient client server.files file }

def HostService.Hosts (h : HostService) (deviceIf file client : String) : Prop :=
  ∃ hf, h.file? deviceIf file = some hf ∧ client ∈ hf.clients

inductive Removes (deviceIf client file : String) (h : HostService) : Bool × HostService → Prop
  | absent : ¬h.Hosts deviceIf file client → Removes deviceIf client file h (false, h)
  | removed {server : HostServer} {hf : HostFile} :
      h.servers.lookup deviceIf = some server → server.files.lookup file = some hf →
      client ∈ hf.clients →
      Removes deviceIf client file h
        (true, (h.storeFile deviceIf file { hf with
          clients := hf.clients.erase client }).pruneServer deviceIf)

theorem rsuHostServiceRemove_removes (deviceIf client file : String) (h : HostService) :
    Removes deviceIf client file h (rsuHostServiceRemove deviceIf client file h) := by
  unfold rsuHostServiceRemove
  cases hserver : h.servers.lookup deviceIf with
  | none =>
      refine .absent ?_
      rintro ⟨hf, hfile, -⟩
      simp [HostService.file?, hserver] at hfile
  | some server =>
      have hfile? := HostService.file?_eq hserver file
      dsimp only
      cases hfile : server.files.lookup file with
      | none =>
          refine .absent ?_
          rintro ⟨hf, hfile', -⟩
          rw [hfile?, hfile] at hfile'
          simp at hfile'
      | some hf =>
          by_cases hmem : client ∈ hf.clients
          · simp only [HostFile.prvRemoveClient, if_pos hmem]
            exact .removed hserver hfile hmem
          · simp only [HostFile.prvRemoveClient, if_neg hmem]
            refine .absent ?_
            rintro ⟨hf', hfile', hmem'⟩
            rw [hfile?, hfile] at hfile'
            obtain rfl := Option.some.inj hfile'
            exact hmem hmem'

namespace HostService

variable {h : HostService} {i : String} {server : HostServer}

theorem lookup_dropped {f client : String} {hf : HostFile} (hi : h.servers.lookup i = some server)
    (hfile : server.files.lookup f = some hf) (hmem : client ∈ hf.clients) (j : String) :
    ((h.storeFile i f { hf with clients := hf.clients.erase client }).pruneServer i
      ).servers.lookup j = if j = i then server.drop client f else h.servers.lookup j := by
  rw [lookup_pruneServer, lookup_storeFile, lookup_storeFile, hi]
  by_cases hj : j = i
  · simp [hj, HostServer.drop, forgetClient, hfile, HostFile.prvRemoveClient, hmem]
  · simp [hj]

/-! ## rsu_host_service_lost_client -/

theorem lookup_lostClientFile (client i : String) (h : HostService) (f j : String) :
    (lostClientFile client i h f).servers.lookup j =
      if j = i then (h.servers.lookup i).map fun server =>
        { server with files := forgetClient client server.files f }
      else h.servers.lookup j := by
  have hsame : ∀ server, h.servers.lookup i = some server →
      forgetClient client server.files f = server.files → h.servers.lookup j =
        if j = i then (h.servers.lookup i).map fun server =>
          { server with files := forgetClient client server.files f }
        else h.servers.lookup j := by
    intro server hi hforget
    by_cases hj : j = i
    · subst hj
      simp [hi, hforget]
    · simp [hj]
  unfold lostClientFile
  cases hi : h.servers.lookup i with
  | none =>
      by_cases hj : j = i
      · subst hj
        simp [file?, hi]
      · simp [file?, hi, hj]
  | some server =>
      rw [file?_eq hi, ← hi]
      cases hfile : server.files.lookup f with
      | none => exact hsame server hi (by simp [forgetClient, hfile])
      | some hf =>
          by_cases hmem : client ∈ hf.clients
          · simp only [HostFile.prvRemoveClient, if_pos hmem]
            rw [lookup_storeFile]
            simp [hi, forgetClient, hfile, HostFile.prvRemoveClient, hmem]
          · simp only [HostFile.prvRemoveClient, if_neg hmem]
            exact hsame server hi (by simp [forgetClient, hfile, HostFile.prvRemoveClient, hmem])

theorem lookup_foldl_lostClientFile (client i : String) (fs : List String) (h : HostService)
    (j : String) :
    (fs.foldl (lostClientFile client i) h).servers.lookup j =
      if j = i then (h.servers.lookup i).map fun server =>
        { server with files := fs.foldl (forgetClient client) server.files }
      else h.servers.lookup j := by
  induction fs generalizing h with
  | nil =>
      by_cases hj : j = i
      · subst hj
        simp
      · simp [hj]
  | cons f fs ih =>
      rw [List.foldl_cons, ih, lookup_lostClientFile, lookup_lostClientFile]
      by_cases hj : j = i
      · simp only [hj, if_true, Option.map_map]
        rfl
      · simp [hj]

theorem lookup_lostClientServer (client : String) (h : HostService) (i j : String) :
    (lostClientServer client h i).servers.lookup j =
      if j = i then (h.servers.lookup i).bind fun server => (server.forget client).kept
      else h.servers.lookup j := by
  unfold lostClientServer
  cases hi : h.servers.lookup i with
  | none =>
      by_cases hj : j = i
      · subst hj
        simp [hi]
      · simp [hj]
  | some server =>
      dsimp only
      rw [lookup_pruneServer, lookup_foldl_lostClientFile, lookup_foldl_lostClientFile, hi]
      by_cases hj : j = i
      · simp [hj, HostServer.forget]
      · simp [hj]

theorem lookup_lostClient (client : String) (h : HostService) (i : String) :
    (rsuHostServiceLostClient client h).servers.lookup i =
      (h.servers.lookup i).bind fun server => (server.forget client).kept := by
  have hvisit := Assoc.foldl_visit (fun (h : HostService) j => h.servers.lookup j)
    (g := fun _ server => server.bind fun server => (server.forget client).kept)
    (fun h i j => lookup_lostClientServer client h i j) h.servers.keys_nodup h i
  rw [rsuHostServiceLostClient, hvisit]
  split
  · rfl
  · next hmem =>
      have hnone : h.servers.lookup i = none := by
        rwa [AList.lookup_eq_none, AList.mem_keys]
      simp [hnone]

/-! ## The ledger

Clients that leave take files and servers with them, and nothing else.
-/

/-- The unfinished responses, and the next address of a file and of a mapping. -/
def ledger (h : HostService) : List Transfer × Nat × Nat :=
  (h.transfers, h.nextFile, h.nextMapping)

theorem ledger_storeFile (h : HostService) (i f : String) (hf : HostFile) :
    (h.storeFile i f hf).ledger = h.ledger := by
  unfold storeFile
  split <;> rfl

theorem ledger_deleteFiles (l : List (Sigma fun _ : String => HostFile)) (h : HostService) :
    (l.foldl (fun h e => prvHostFileDelete e.2 h) h).ledger = h.ledger := by
  induction l generalizing h with
  | nil => rfl
  | cons e l ih => exact ih _

theorem ledger_pruneServer (h : HostService) (i : String) :
    (h.pruneServer i).ledger = h.ledger := by
  unfold pruneServer
  split
  · split
    · exact ledger_deleteFiles _ _
    · rfl
  · rfl

theorem ledger_remove (i c f : String) (h : HostService) :
    (rsuHostServiceRemove i c f h).2.ledger = h.ledger := by
  have hremoves := rsuHostServiceRemove_removes i c f h
  revert hremoves
  generalize rsuHostServiceRemove i c f h = result
  intro hremoves
  cases hremoves with
  | absent _ => rfl
  | removed _ _ _ => rw [ledger_pruneServer, ledger_storeFile]

theorem ledger_lostClientFile (c i f : String) (h : HostService) :
    (lostClientFile c i h f).ledger = h.ledger := by
  unfold lostClientFile
  split
  · rfl
  · split
    · rfl
    · exact ledger_storeFile h i f _

theorem ledger_lostClientServer (c i : String) (h : HostService) :
    (lostClientServer c h i).ledger = h.ledger := by
  have hfiles : ∀ (fs : List String) (h : HostService),
      (fs.foldl (lostClientFile c i) h).ledger = h.ledger := by
    intro fs
    induction fs with
    | nil => exact fun _ => rfl
    | cons f fs ih => exact fun h => (ih _).trans (ledger_lostClientFile c i f h)
  unfold lostClientServer
  split
  · rfl
  · rw [ledger_pruneServer, hfiles]

theorem ledger_lostClient (c : String) (h : HostService) :
    (rsuHostServiceLostClient c h).ledger = h.ledger := by
  have hservers : ∀ (is : List String) (h : HostService),
      (is.foldl (lostClientServer c) h).ledger = h.ledger := by
    intro is
    induction is with
    | nil => exact fun _ => rfl
    | cons i is ih => exact fun h => (ih _).trans (ledger_lostClientServer c i h)
  exact hservers h.servers.keys h

theorem transfers_remove (i c f : String) (h : HostService) :
    (rsuHostServiceRemove i c f h).2.transfers = h.transfers :=
  congrArg Prod.fst (ledger_remove i c f h)

theorem transfers_lostClient (c : String) (h : HostService) :
    (rsuHostServiceLostClient c h).transfers = h.transfers :=
  congrArg Prod.fst (ledger_lostClient c h)

end HostService

end RendererService
