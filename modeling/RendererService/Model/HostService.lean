import RendererService.Model.Types

/-!
# host-service.c

The web servers that host files for renderers, one for each interface, and the
requests they answer.  A pointer to a file is followed by the keys the file was
entered under; it is dangling unless the file found there has its address.
-/

namespace RendererService

/-! ## Files -/

/-- `strrchr`: what follows the last `c` of the string, with it. -/
def strrchr (c : Char) : List Char → Option (List Char)
  | [] => none
  | x :: xs =>
      match strrchr c xs with
      | some rest => some rest
      | none => if x = c then some (x :: xs) else none

/-- An `unsigned int` printed by `%d`. -/
def printInt (n : Nat) : String :=
  toString (if n < 2 ^ 31 then (n : Int) else (n : Int) - 2 ^ 32)

def hostServiceRoot : String := "/rendererserviceupnp"

def hostPath (id : Nat) (file : String) : String :=
  hostServiceRoot ++ "/" ++ printInt id ++
    String.ofList ((strrchr '.' file.toList).getD [])

def prvHostFileNew (env : HostEnvironment) (file : String) (id address : Nat) :
    Except GError HostFile :=
  if !env.regular then
    .error ⟨.objectNotFound, "File " ++ file ++ " does not exist or is not a regular file"⟩
  else
    match env.contentType with
    | none => .error ⟨.badMime, "Unable to determine Content Type for " ++ file⟩
    | some _ =>
        match env.mimeType with
        | none => .error ⟨.badMime, "Unable to determine MIME Type for " ++ file⟩
        | some mimeType => .ok {
            address := address
            id := id
            mimeType := mimeType
            path := hostPath id file
            dlnaHeader := env.dlnaHeader }

/-- `prv_remove_client`; `none` is FALSE. -/
def HostFile.prvRemoveClient (hf : HostFile) (client : String) : Option HostFile :=
  if client ∈ hf.clients then some { hf with clients := hf.clients.erase client } else none

namespace HostService

/-- The file hosted on an interface under a name. -/
def file? (h : HostService) (deviceIf file : String) : Option HostFile :=
  (h.servers.lookup deviceIf).bind fun server => server.files.lookup file

def modifyFiles (h : HostService) (deviceIf : String)
    (f : Assoc.Table String HostFile → Assoc.Table String HostFile) : HostService :=
  { h with
    servers := Assoc.modify h.servers deviceIf fun server =>
      { server with files := f server.files } }

def setFile (h : HostService) (deviceIf file : String) (hf : HostFile) : HostService :=
  h.modifyFiles deviceIf fun files => files.insert file hf

/-- `g_mapped_file_unref`, `count` times. -/
def unrefMapping (h : HostService) (mapping : Option Nat) (count : Nat) : HostService :=
  { h with
    mappings := fun m => if some m = mapping then h.mappings m - count else h.mappings m }

end HostService

/-- The references the file counted are dropped, and the file is freed. -/
def prvHostFileDelete (hf : HostFile) (h : HostService) : HostService :=
  h.unrefMapping hf.mappedFile hf.mappedCount

/-! ## Servers -/

def prvHostServerNew (env : HostEnvironment) (deviceIf : String) :
    Except GError HostServer :=
  if env.resolved then .ok { port := env.port }
  else .error ⟨.hostFailed, "Unable to create host server on " ++ deviceIf⟩

def prvHostServerDelete (server : HostServer) (h : HostService) : HostService :=
  server.files.entries.foldl (fun h e => prvHostFileDelete e.2 h) h

def prvHostServerFindFile (hs : HostServer) (url : String) : Option (String × HostFile) :=
  (hs.files.entries.find? fun e => e.2.path = url).map fun e => (e.1, e.2)

def HostServer.url (server : HostServer) (deviceIf : String) (hf : HostFile) : String :=
  "http://" ++ deviceIf ++ ":" ++ toString server.port ++ hf.path

/-- `address` is the address of the file if a new one is needed. -/
def prvAddNewFile (env : HostEnvironment) (server : HostServer)
    (client deviceIf file : String) (address : Nat) : Except GError String × HostServer :=
  match server.files.lookup file with
  | none =>
      let counted := { server with counter := (server.counter + 1) % 2 ^ 32 }
      match prvHostFileNew env file server.counter address with
      | .error error => (.error error, counted)
      | .ok hf =>
          let hf := { hf with clients := hf.clients ++ [client] }
          (.ok (counted.url deviceIf hf),
            { counted with files := counted.files.insert file hf })
  | some hf =>
      let hf :=
        if client ∈ hf.clients then hf else { hf with clients := hf.clients ++ [client] }
      (.ok (server.url deviceIf hf), { server with files := server.files.insert file hf })

def rsuHostServiceAdd (env : HostEnvironment) (deviceIf client file : String)
    (h : HostService) : Except GError String × HostService :=
  let addTo (server : HostServer) :=
    let (url, server) := prvAddNewFile env server client deviceIf file h.nextFile
    (url, { h with
      servers := h.servers.insert deviceIf server
      nextFile := h.nextFile + 1 })
  match h.servers.lookup deviceIf with
  | some server => addTo server
  | none =>
      match prvHostServerNew env deviceIf with
      | .error error => (.error error, h)
      | .ok server => addTo server

/-! ## Removing clients -/

namespace HostService

/-- After a client was removed, a file without clients is removed. -/
def storeFile (h : HostService) (deviceIf file : String) (hf : HostFile) : HostService :=
  if hf.clients = [] then
    prvHostFileDelete hf (h.modifyFiles deviceIf fun files => files.erase file)
  else h.setFile deviceIf file hf

/-- A server without files is removed. -/
def pruneServer (h : HostService) (deviceIf : String) : HostService :=
  match h.servers.lookup deviceIf with
  | some server =>
      if server.files.entries.length = 0 then
        prvHostServerDelete server { h with servers := h.servers.erase deviceIf }
      else h
  | none => h

end HostService

def rsuHostServiceRemove (deviceIf client file : String) (h : HostService) :
    Bool × HostService :=
  match h.servers.lookup deviceIf with
  | none => (false, h)
  | some server =>
      match server.files.lookup file with
      | none => (false, h)
      | some hf =>
          match hf.prvRemoveClient client with
          | none => (false, h)
          | some hf => (true, (h.storeFile deviceIf file hf).pruneServer deviceIf)

/-- One turn of the inner loop of `rsu_host_service_lost_client`. -/
def lostClientFile (client deviceIf : String) (h : HostService) (file : String) :
    HostService :=
  match h.file? deviceIf file with
  | none => h
  | some hf =>
      match hf.prvRemoveClient client with
      | none => h
      | some hf => h.storeFile deviceIf file hf

/-- One turn of its outer loop. -/
def lostClientServer (client : String) (h : HostService) (deviceIf : String) :
    HostService :=
  match h.servers.lookup deviceIf with
  | none => h
  | some server =>
      (server.files.keys.foldl (lostClientFile client deviceIf) h).pruneServer deviceIf

def rsuHostServiceLostClient (client : String) (h : HostService) : HostService :=
  h.servers.keys.foldl (lostClientServer client) h

def rsuHostServiceDelete (h : HostService) : HostService :=
  h.servers.entries.foldl (fun h e => prvHostServerDelete e.2 h) { h with servers := ∅ }

/-! ## Requests -/

inductive SoupMethod
  | get
  | head
  | other
deriving DecidableEq, Repr

/-- A `SoupMessage`: the method, the path and the header
"getContentFeatures.dlna.org" of the request. -/
structure SoupMessage where
  method : SoupMethod
  path : String
  getContentFeatures : Option String := none
deriving DecidableEq, Repr

inductive SoupStatus
  | ok
  | badRequest
  | notFound
  | notImplemented
deriving DecidableEq, Repr

/-- The status, the header "contentFeatures.dlna.org", the content type and the
mapping whose contents are the body. -/
structure SoupResponse where
  status : SoupStatus
  contentFeatures : Option String := none
  contentType : Option String := none
  body : Option Nat := none
deriving DecidableEq, Repr

namespace HostService

/-- `hf->mapped_file` after another reference was taken or, if there was none,
the file was mapped; `mapped` says whether `g_mapped_file_new` succeeds. -/
def refMapping (h : HostService) (mapped : Bool) (hf : HostFile) :
    Option (Nat × HostFile × HostService) :=
  match hf.mappedFile with
  | some m =>
      some (m, { hf with mappedCount := (hf.mappedCount + 1) % 2 ^ 32 },
        { h with mappings := fun n => if n = m then h.mappings n + 1 else h.mappings n })
  | none =>
      if mapped then
        let m := h.nextMapping
        some (m, { hf with mappedFile := some m, mappedCount := 1 }, { h with
          mappings := fun n => if n = m then 1 else h.mappings n
          nextMapping := m + 1 })
      else none

end HostService

/-- The handler of the server on `deviceIf`. -/
def prvSoupServerCb (mapped : Bool) (deviceIf : String) (msg : SoupMessage)
    (h : HostService) : SoupResponse × HostService :=
  if msg.method = .other then ({ status := .notImplemented }, h)
  else
    match (h.servers.lookup deviceIf).bind fun hs => prvHostServerFindFile hs msg.path with
    | none => ({ status := .notFound }, h)
    | some (file, hf) =>
        if msg.getContentFeatures.any fun hdr => hdr ≠ "1" then
          ({ status := .badRequest }, h)
        else
          let features :=
            if msg.getContentFeatures.isSome ∧ 0 < hf.dlnaHeader.length then
              some hf.dlnaHeader
            else none
          match h.refMapping mapped hf with
          | none => ({ status := .notFound, contentFeatures := features }, h)
          | some (m, hf, h) =>
              let h := h.setFile deviceIf file hf
              let ok : SoupResponse :=
                { status := .ok, contentFeatures := features, contentType := some hf.mimeType }
              if msg.method = .get then
                ({ ok with body := some m }, { h with
                  transfers := h.transfers ++ [⟨deviceIf, file, hf.address, m⟩] })
              else (ok, h)

/-- The file a transfer points to, unless it was freed. -/
def HostService.transferFile? (h : HostService) (t : Transfer) : Option HostFile :=
  (h.file? t.deviceIf t.file).filter fun hf => hf.address = t.address

/-- The handler of "finished"; `none` if the file it carries was freed. -/
def prvSoupMessageFinishedCb (t : Transfer) (h : HostService) : Option HostService :=
  (h.transferFile? t).map fun hf =>
    if 0 < hf.mappedCount then
      let h := h.unrefMapping hf.mappedFile 1
      let count := hf.mappedCount - 1
      h.setFile t.deviceIf t.file { hf with
        mappedCount := count
        mappedFile := if count = 0 then none else hf.mappedFile }
    else h

/-! ## The host service as a transition system -/

/-- The operations of the host service, the requests and their ends. -/
inductive HostInput
  | add (env : HostEnvironment) (deviceIf client file : String)
  | remove (deviceIf client file : String)
  | lostClient (client : String)
  | request (mapped : Bool) (deviceIf : String) (msg : SoupMessage)
  | finished (t : Transfer)

def HostService.dropTransfer (h : HostService) (t : Transfer) : HostService :=
  { h with transfers := h.transfers.erase t }

/-- What the code does with an input; `none` if the input cannot occur, or if a
file that was freed is read. -/
def hostStepFn (h : HostService) : HostInput → Option HostService
  | .add env deviceIf client file => some (rsuHostServiceAdd env deviceIf client file h).2
  | .remove deviceIf client file => some (rsuHostServiceRemove deviceIf client file h).2
  | .lostClient client => some (rsuHostServiceLostClient client h)
  | .request mapped deviceIf msg =>
      if (h.servers.lookup deviceIf).isSome then
        some (prvSoupServerCb mapped deviceIf msg h).2
      else none
  | .finished t =>
      if t ∈ h.transfers then prvSoupMessageFinishedCb t (h.dropTransfer t) else none

end RendererService
