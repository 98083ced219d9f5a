import RendererService.Host.Files

/-!
# The shape of the host service

Every hosted file has a client, and no client twice; the ids of the files of a
server tell them apart.  A server runs only while it has a file, but for one
case: an add that starts a server and then cannot host its file.
-/

namespace RendererService

/-! ## Files and servers -/

structure HostFile.Ok (hf : HostFile) : Prop where
  clients : hf.clients ≠ []
  nodup : hf.clients.Nodup

/-- The files of a server, after at most `n` attempts to add one. -/
structure HostServer.Ok (n : Nat) (server : HostServer) : Prop where
  counter : server.counter ≤ n
  files : ∀ f hf, server.files.lookup f = some hf → hf.Ok
  ids : ∀ f hf, server.files.lookup f = some hf → hf.id < server.counter
  paths : ∀ f hf, server.files.lookup f = some hf → hf.path = hostPath hf.id f
  distinct : ∀ f g hf hg, server.files.lookup f = some hf → server.files.lookup g = some hg →
    hf.id = hg.id → f = g

def HostService.Ok (n : Nat) (h : HostService) : Prop :=
  ∀ i server, h.servers.lookup i = some server → server.Ok n

theorem HostFile.Ok.withClient {hf : HostFile} (h : hf.Ok) (client : String) :
    (hf.withClient client).Ok := by
  unfold HostFile.withClient
  split
  · exact h
  · next hmem =>
      refine ⟨by simp, ?_⟩
      rw [List.nodup_append]
      refine ⟨h.nodup, List.nodup_singleton client, fun c hc c' hc' => ?_⟩
      obtain rfl := List.mem_singleton.mp hc'
      rintro rfl
      exact hmem hc

theorem HostFile.Ok.without {hf hf' : HostFile} {client : String} (h : hf.Ok)
    (hleft : hf.without client = some hf') :
    hf'.Ok ∧ hf'.id = hf.id ∧ hf'.path = hf.path := by
  unfold HostFile.without at hleft
  split at hleft
  · split at hleft
    · simp at hleft
    · next hsome =>
        obtain rfl := Option.some.inj hleft
        exact ⟨⟨hsome, h.nodup.erase client⟩, rfl, rfl⟩
  · obtain rfl := Option.some.inj hleft
    exact ⟨h, rfl, rfl⟩

namespace HostServer.Ok

variable {n m : Nat} {server server' : HostServer}

theorem mono (h : server.Ok n) (hle : n ≤ m) : server.Ok m :=
  { h with counter := Nat.le_trans h.counter hle }

/-- A server each of whose files was there before, under the same name, with the
same id and path. -/
theorem shrink (h : server.Ok n) (hcounter : server'.counter = server.counter)
    (hfiles : ∀ f hf', server'.files.lookup f = some hf' →
      ∃ hf, server.files.lookup f = some hf ∧ hf'.Ok ∧ hf'.id = hf.id ∧ hf'.path = hf.path) :
    server'.Ok n where
  counter := hcounter ▸ h.counter
  files f hf' hf := (hfiles f hf' hf).choose_spec.2.1
  ids f hf' hlookup := by
    obtain ⟨hf, hf₀, -, hid, -⟩ := hfiles f hf' hlookup
    rw [hid, hcounter]
    exact h.ids f hf hf₀
  paths f hf' hlookup := by
    obtain ⟨hf, hf₀, -, hid, hpath⟩ := hfiles f hf' hlookup
    rw [hpath, hid]
    exact h.paths f hf hf₀
  distinct f g hf' hg' hlookup hlookup' hid := by
    obtain ⟨hf, hf₀, -, hidf, -⟩ := hfiles f hf' hlookup
    obtain ⟨hg, hg₀, -, hidg, -⟩ := hfiles g hg' hlookup'
    exact h.distinct f g hf hg hf₀ hg₀ (by rw [← hidf, ← hidg, hid])

theorem serves (h : server.Ok n) (hserves : server.Serves server') : server'.Ok n := by
  refine h.shrink hserves.2.1 fun f hf' hlookup => ?_
  obtain ⟨hf, hfile, hentry⟩ := hserves.file hlookup
  obtain ⟨hclients, hid, hpath, -⟩ := HostFile.entry_eq hentry
  have hok := h.files f hf hfile
  exact ⟨hf, hfile, ⟨hclients ▸ hok.clients, hclients ▸ hok.nodup⟩, hid, hpath⟩

theorem forget (h : server.Ok n) (client : String) {files : Assoc.Table String HostFile}
    (hfiles : ∀ f, files.lookup f = server.files.lookup f ∨
      files.lookup f = (server.files.lookup f).bind (HostFile.without client)) :
    HostServer.Ok n { server with files := files } := by
  refine h.shrink rfl fun f hf' (hlookup : files.lookup f = some hf') => ?_
  rcases hfiles f with heq | heq
  · have hfile : server.files.lookup f = some hf' := heq ▸ hlookup
    exact ⟨hf', hfile, h.files f hf' hfile, rfl, rfl⟩
  · rw [heq] at hlookup
    obtain ⟨hf, hfile, hleft⟩ := Option.bind_eq_some_iff.mp hlookup
    exact ⟨hf, hfile, (h.files f hf hfile).without hleft⟩

theorem counted_counter (h : server.Ok n) (hn : n + 1 < 2 ^ 32) :
    server.counted.counter = server.counter + 1 := by
  have hcounter := h.counter
  exact Nat.mod_eq_of_lt (by omega)

theorem counted (h : server.Ok n) (hn : n + 1 < 2 ^ 32) : server.counted.Ok (n + 1) where
  counter := by
    rw [h.counted_counter hn]
    exact Nat.succ_le_succ h.counter
  files := h.files
  ids f hf hlookup := by
    rw [h.counted_counter hn]
    exact Nat.lt_succ_of_lt (h.ids f hf hlookup)
  paths := h.paths
  distinct := h.distinct

/-- The id of a new file is the counter, which no other file has. -/
theorem insert_new (h : server.Ok n) (hn : n + 1 < 2 ^ 32) {file : String} {hf : HostFile}
    (hok : hf.Ok) (hid : hf.id = server.counter) (hpath : hf.path = hostPath hf.id file) :
    HostServer.Ok (n + 1) { server.counted with files := server.files.insert file hf } := by
  have hcounted := h.counted hn
  have hcounter := h.counted_counter hn
  have hcases : ∀ g hg, (server.files.insert file hf).lookup g = some hg →
      g = file ∧ hg = hf ∨ g ≠ file ∧ server.files.lookup g = some hg := by
    intro g hg hlookup
    rw [Assoc.lookup_insert_eq] at hlookup
    split at hlookup
    · next hat => exact .inl ⟨hat, (Option.some.inj hlookup).symm⟩
    · next hat => exact .inr ⟨hat, hlookup⟩
  refine ⟨hcounted.counter, fun g hg hlookup => ?_, fun g hg hlookup => ?_,
    fun g hg hlookup => ?_, fun f g hf' hg hlookup hlookup' heq => ?_⟩
  · rcases hcases g hg hlookup with ⟨-, rfl⟩ | ⟨-, hold⟩
    · exact hok
    · exact h.files g hg hold
  · show hg.id < server.counted.counter
    rw [hcounter]
    rcases hcases g hg hlookup with ⟨-, rfl⟩ | ⟨-, hold⟩
    · omega
    · have := h.ids g hg hold
      omega
  · rcases hcases g hg hlookup with ⟨rfl, rfl⟩ | ⟨-, hold⟩
    · exact hpath
    · exact h.paths g hg hold
  · rcases hcases f hf' hlookup with ⟨rfl, rfl⟩ | ⟨-, hold⟩
    · rcases hcases g hg hlookup' with ⟨rfl, -⟩ | ⟨-, hold'⟩
      · rfl
      · have := h.ids g hg hold'
        omega
    · rcases hcases g hg hlookup' with ⟨-, rfl⟩ | ⟨-, hold'⟩
      · have := h.ids f hf' hold
        omega
      · exact h.distinct f g hf' hg hold hold' heq

theorem insert_known (h : server.Ok n) {file : String} {hf hf' : HostFile}
    (hfile : server.files.lookup file = some hf) (hok : hf'.Ok) (hid : hf'.id = hf.id)
    (hpath : hf'.path = hf.path) :
    HostServer.Ok n { server with files := server.files.insert file hf' } := by
  refine h.shrink rfl fun g hg (hlookup : (server.files.insert file hf').lookup g = some hg) => ?_
  rw [Assoc.lookup_insert_eq] at hlookup
  split at hlookup
  · next hat =>
      subst hat
      obtain rfl := Option.some.inj hlookup
      exact ⟨hf, hfile, hok, hid, hpath⟩
  · exact ⟨hg, hlookup, h.files g hg hlookup, rfl, rfl⟩

end HostServer.Ok

/-! ## The store -/

namespace HostService.Ok

variable {n m : Nat} {h h' : HostService}

theorem init : HostService.Ok 0 {} := fun _ _ hi => by simp at hi

theorem mono (hok : h.Ok n) (hle : n ≤ m) : h.Ok m := fun i server hi => (hok i server hi).mono hle

theorem serves (hok : h.Ok n) (hserves : Serves h h') : h'.Ok n := fun i server' hi => by
  obtain ⟨server, hserver, hs⟩ := hserves.server i server' hi
  exact (hok i server hserver).serves hs

theorem opens (hok : h.Ok n) {env : HostEnvironment} {i : String} {server : HostServer}
    (hopens : h.Opens env i server) : server.Ok n := by
  rcases hopens with hi | ⟨-, hnew⟩
  · exact hok i server hi
  · obtain rfl := prvHostServerNew_ok hnew
    exact ⟨Nat.zero_le _, by simp, by simp, by simp, by simp⟩

theorem addsFile {server : HostServer} (hok : server.Ok n) (hn : n + 1 < 2 ^ 32)
    {env : HostEnvironment} {client i file : String} {address : Nat}
    {result : Except GError String × HostServer}
    (hadds : AddsFile env server client i file address result) : result.2.Ok (n + 1) := by
  cases hadds with
  | known hfile =>
      have hf := hok.files file _ hfile
      have hsame : ∀ hf : HostFile, (hf.withClient client).id = hf.id ∧
          (hf.withClient client).path = hf.path := fun hf => by
        unfold HostFile.withClient
        split <;> exact ⟨rfl, rfl⟩
      exact (hok.insert_known hfile (hf.withClient client) (hsame _).1 (hsame _).2).mono
        (Nat.le_succ n)
  | new hf hfile hnew =>
      obtain ⟨-, hid, -, -, -, hpath⟩ := prvHostFileNew_ok hnew
      exact hok.insert_new hn ⟨by simp, by simp⟩ hid (by rw [hpath, ← hid])
  | failed _ _ => exact hok.counted hn

theorem add (hok : h.Ok n) (hn : n + 1 < 2 ^ 32) (env : HostEnvironment)
    (i client file : String) : (rsuHostServiceAdd env i client file h).2.Ok (n + 1) := by
  have hadds := rsuHostServiceAdd_adds env i client file h
  revert hadds
  generalize rsuHostServiceAdd env i client file h = result
  intro hadds
  cases hadds with
  | refused _ _ => exact hok.mono (Nat.le_succ n)
  | served hopens hfile =>
      intro j server hj
      simp only [setServer, Assoc.lookup_insert_eq] at hj
      split at hj
      · obtain rfl := Option.some.inj hj
        exact addsFile (hok.opens hopens) hn hfile
      · exact (hok j server hj).mono (Nat.le_succ n)

theorem kept {server server' : HostServer} (hok : server.Ok n)
    (hkept : server.kept = some server') : server'.Ok n :=
  (HostServer.kept_some hkept).1 ▸ hok

theorem remove (hok : h.Ok n) (i client file : String) :
    (rsuHostServiceRemove i client file h).2.Ok n := by
  have hremoves := rsuHostServiceRemove_removes i client file h
  revert hremoves
  generalize rsuHostServiceRemove i client file h = result
  intro hremoves
  cases hremoves with
  | absent _ => exact hok
  | @removed server hf hserver hfile hmem =>
      intro j server' hj
      rw [lookup_dropped hserver hfile hmem] at hj
      split at hj
      · refine kept ((hok i server hserver).forget client fun f => ?_) hj
        rw [lookup_forgetClient]
        split
        · next hat =>
            subst hat
            exact .inr rfl
        · exact .inl rfl
      · exact hok j server' hj

theorem lostClient (hok : h.Ok n) (client : String) :
    (rsuHostServiceLostClient client h).Ok n := by
  intro i server' hi
  rw [lookup_lostClient] at hi
  obtain ⟨server, hserver, hkept⟩ := Option.bind_eq_some_iff.mp hi
  exact kept ((hok i server hserver).forget client fun f => .inr (server.lookup_forget client f))
    hkept

end HostService.Ok

def HostInput.isAdd : HostInput → Bool
  | .add _ _ _ _ => true
  | _ => false

def attempts (is : List HostInput) : Nat := is.countP HostInput.isAdd

theorem HostStep.ok {n : Nat} {h h' : HostService} {i : HostInput} (hok : h.Ok n)
    (hstep : HostStep h i h') (hn : n + (if i.isAdd then 1 else 0) < 2 ^ 32) :
    h'.Ok (n + if i.isAdd then 1 else 0) := by
  cases hstep with
  | add env deviceIf client file => exact hok.add hn env deviceIf client file
  | remove deviceIf client file => exact hok.remove deviceIf client file
  | lostClient client => exact hok.lostClient client
  | request mapped deviceIf msg => exact hok.serves (serves_request mapped deviceIf msg h)
  | finished _ hfinish =>
      have hserves := serves_finished hfinish
      exact hok.serves ⟨hserves.server, hserves.gone, hserves.nextFile⟩

theorem attempts_snoc (is : List HostInput) (i : HostInput) :
    attempts (is ++ [i]) = attempts is + if i.isAdd then 1 else 0 := by
  rw [attempts, List.countP_append, List.countP_singleton]
  rfl

/-- In every run, while fewer attempts were made than the counters can count. -/
theorem hosting_ok {is : List HostInput} {h : HostService} (hr : hosting.Reaches is h)
    (hn : attempts is < 2 ^ 32) : h.Ok (attempts is) := by
  refine hr.trace_invariant (P := fun is h => attempts is < 2 ^ 32 → h.Ok (attempts is))
    ?_ ?_ hn
  · rintro h rfl _
    exact .init
  · intro is h i h' _ hok hstep hn'
    rw [attempts_snoc] at hn' ⊢
    exact (hosting_step hstep).ok (hok (by omega)) hn'

/-! ## Servers without files -/

def HostService.Occupied (h : HostService) : Prop :=
  ∀ i server, h.servers.lookup i = some server → ∃ f hf, server.files.lookup f = some hf

/-- The file can be hosted: it passes `g_file_test` and has a content and a MIME
type. -/
def HostEnvironment.hostable (env : HostEnvironment) : Bool :=
  env.regular && env.contentType.isSome && env.mimeType.isSome

/-- An add that starts a web server can host its file there. -/
def StartsWithFile (h : HostService) : HostInput → Prop
  | .add env deviceIf _ _ =>
      h.servers.lookup deviceIf = none → env.resolved = true → env.hostable = true
  | _ => True

theorem prvHostFileNew_hostable {env : HostEnvironment} (henv : env.hostable = true)
    (file : String) (id address : Nat) (error : GError) :
    prvHostFileNew env file id address ≠ .error error := by
  simp only [HostEnvironment.hostable, Bool.and_eq_true, Option.isSome_iff_exists] at henv
  obtain ⟨⟨hregular, contentType, hcontent⟩, mimeType, hmime⟩ := henv
  simp [prvHostFileNew, hregular, hcontent, hmime]

theorem prvHostServerNew_resolved {env : HostEnvironment} {deviceIf : String}
    {server : HostServer} (h : prvHostServerNew env deviceIf = .ok server) :
    env.resolved = true := by
  unfold prvHostServerNew at h
  split at h
  · assumption
  · simp at h

namespace HostService.Occupied

variable {h h' : HostService}

theorem serves (hocc : h.Occupied) (hserves : Serves h h') : h'.Occupied := by
  intro i server' hi
  obtain ⟨server, hserver, hs⟩ := hserves.server i server' hi
  obtain ⟨f, hf, hfile⟩ := hocc i server hserver
  have hentry := hs.2.2 f
  rw [hfile] at hentry
  cases hfile' : server'.files.lookup f with
  | none => simp [hfile'] at hentry
  | some hf' => exact ⟨f, hf', hfile'⟩

theorem add (hocc : h.Occupied) {env : HostEnvironment} {i client file : String}
    (hstart : StartsWithFile h (.add env i client file)) :
    (rsuHostServiceAdd env i client file h).2.Occupied := by
  have hadds := rsuHostServiceAdd_adds env i client file h
  revert hadds
  generalize rsuHostServiceAdd env i client file h = result
  intro hadds
  cases hadds with
  | refused _ _ => exact hocc
  | @served server server' url hopens hfile =>
      intro j server'' hj
      simp only [setServer, Assoc.lookup_insert_eq] at hj
      split at hj
      · obtain rfl := Option.some.inj hj
        cases hfile with
        | known _ => exact ⟨file, _, AList.lookup_insert _⟩
        | new hf _ _ => exact ⟨file, _, AList.lookup_insert _⟩
        | failed _ herror =>
            rcases hopens with hi | ⟨hnone, hnew⟩
            · exact hocc i server hi
            · have hhost := hstart hnone (prvHostServerNew_resolved hnew)
              exact absurd herror (prvHostFileNew_hostable hhost _ _ _ _)
      · exact hocc j server'' hj

theorem remove (hocc : h.Occupied) (i client file : String) :
    (rsuHostServiceRemove i client file h).2.Occupied := by
  have hremoves := rsuHostServiceRemove_removes i client file h
  revert hremoves
  generalize rsuHostServiceRemove i client file h = result
  intro hremoves
  cases hremoves with
  | absent _ => exact hocc
  | removed hserver hfile hmem =>
      intro j server' hj
      rw [lookup_dropped hserver hfile hmem] at hj
      split at hj
      · obtain ⟨rfl, hfull⟩ := HostServer.kept_some hj
        exact hfull
      · exact hocc j server' hj

end HostService.Occupied

theorem occupied_lostClient (client : String) (h : HostService) :
    (rsuHostServiceLostClient client h).Occupied := by
  intro i server' hi
  rw [HostService.lookup_lostClient] at hi
  obtain ⟨server, -, hkept⟩ := Option.bind_eq_some_iff.mp hi
  obtain ⟨rfl, hfull⟩ := HostServer.kept_some hkept
  exact hfull

theorem HostStep.occupied {h h' : HostService} {i : HostInput} (hocc : h.Occupied)
    (hstep : HostStep h i h') (hstart : StartsWithFile h i) : h'.Occupied := by
  cases hstep with
  | add env deviceIf client file => exact hocc.add hstart
  | remove deviceIf client file => exact hocc.remove deviceIf client file
  | lostClient client => exact occupied_lostClient client h
  | request mapped deviceIf msg => exact hocc.serves (serves_request mapped deviceIf msg h)
  | finished _ hfinish =>
      have hserves := serves_finished hfinish
      exact hocc.serves ⟨hserves.server, hserves.gone, hserves.nextFile⟩

theorem hosting_occupied {is : List HostInput} {h : HostService}
    (hr : (hosting.restrict StartsWithFile).Reaches is h) : h.Occupied := by
  refine hr.invariant ?_ ?_
  · rintro h rfl i server hi
    simp at hi
  · intro h i h' hocc hstep
    exact (hosting_step hstep.2).occupied hocc hstep.1

/-! ## The shape -/

/-- Every server has a file, every file a client; no client occurs twice, and
the ids of a server are distinct and below its counter. -/
structure HostService.Shaped (h : HostService) : Prop where
  occupied : h.Occupied
  clients : ∀ i f hf, h.file? i f = some hf → hf.clients ≠ [] ∧ hf.clients.Nodup
  ids : ∀ i server f hf, h.servers.lookup i = some server → server.files.lookup f = some hf →
    hf.id < server.counter
  distinct : ∀ i server f g hf hg, h.servers.lookup i = some server →
    server.files.lookup f = some hf → server.files.lookup g = some hg → hf.id = hg.id → f = g

def HostService.SameShape (h h' : HostService) : Prop :=
  ∀ i, (h'.servers.lookup i).isSome = (h.servers.lookup i).isSome ∧
    ∀ f, (h'.file? i f).map HostFile.clients = (h.file? i f).map HostFile.clients

theorem HostService.Ok.shaped {n : Nat} {h : HostService} (hok : h.Ok n)
    (hocc : h.Occupied) : h.Shaped where
  occupied := hocc
  clients i f hf hfile := by
    obtain ⟨server, hserver, hlookup⟩ := Option.bind_eq_some_iff.mp hfile
    have hf := (hok i server hserver).files f hf hlookup
    exact ⟨hf.clients, hf.nodup⟩
  ids i server f hf hserver hlookup := (hok i server hserver).ids f hf hlookup
  distinct i server f g hf hg hserver := (hok i server hserver).distinct f g hf hg

/-- An add that fails changes nothing but a counter, unless it started a server. -/
theorem rsuHostServiceAdd_failed {env : HostEnvironment} {i client file : String}
    {h h' : HostService} {error : GError} (hstart : StartsWithFile h (.add env i client file))
    (hfail : rsuHostServiceAdd env i client file h = (.error error, h')) : h.SameShape h' := by
  have hadds := rsuHostServiceAdd_adds env i client file h
  rw [hfail] at hadds
  cases hadds with
  | refused _ _ => exact fun _ => ⟨rfl, fun _ => rfl⟩
  | @served server server' url hopens hfile =>
      cases hfile with
      | failed hnone herror =>
          rcases hopens with hi | ⟨hnew, hserver⟩
          · intro j
            refine ⟨?_, fun f => ?_⟩
            · simp only [HostService.setServer, Assoc.lookup_insert_eq]
              split
              · next hat =>
                  subst hat
                  rw [hi]
                  rfl
              · rfl
            · rw [HostService.file?_setServer]
              split
              · next hat =>
                  subst hat
                  rw [HostService.file?_eq hi]
                  rfl
              · rfl
          · have hhost := hstart hnew (prvHostServerNew_resolved hserver)
            exact absurd herror (prvHostFileNew_hostable hhost _ _ _ _)

/-- While every web server is started with a file to host, the host service keeps
its shape, and an add that fails leaves the servers, files and clients alone. -/
theorem hosting_shaped {is : List HostInput} {h : HostService}
    (hr : (hosting.restrict StartsWithFile).Reaches is h) (hn : attempts is < 2 ^ 32) :
    h.Shaped ∧ ∀ env i client file error h', StartsWithFile h (.add env i client file) →
      rsuHostServiceAdd env i client file h = (.error error, h') → h.SameShape h' :=
  ⟨(hosting_ok hr.of_restrict hn).shaped (hosting_occupied hr),
    fun _ _ _ _ _ _ hstart hfail => rsuHostServiceAdd_failed hstart hfail⟩

def oneFile : HostInput := .add {} "192.168.1.2" ":1.7" "/home/user/a.mp3"

def oneHosted : HostService :=
  (rsuHostServiceAdd {} "192.168.1.2" ":1.7" "/home/user/a.mp3" {}).2

theorem hosting_shaped_oneHosted :
    oneHosted.Shaped ∧ oneHosted.SameShape
      (rsuHostServiceAdd { regular := false } "192.168.1.2" ":1.7" "/missing" oneHosted).2 := by
  have hstep : hosting.step {} oneFile oneHosted := rfl
  have hr : (hosting.restrict StartsWithFile).Reaches ([] ++ [oneFile]) oneHosted :=
    .step (.init rfl) ⟨fun _ _ => rfl, hstep⟩
  obtain ⟨hshaped, hfail⟩ := hosting_shaped hr (by decide)
  have hserver : (oneHosted.servers.lookup "192.168.1.2").isSome = true := rfl
  refine ⟨hshaped, ?_⟩
  exact hfail { regular := false } "192.168.1.2" ":1.7" "/missing"
    ⟨.objectNotFound, "File /missing does not exist or is not a regular file"⟩ _
    (fun hnone => by simp [hnone] at hserver) rfl

/-- An add that starts a web server and finds no file leaves the server running. -/
theorem barren_server :
    ∃ is h error, hosting.Reaches is h ∧ attempts is < 2 ^ 32 ∧
      rsuHostServiceAdd { regular := false } "192.168.1.2" ":1.7" "/missing" {} =
        (.error error, h) ∧ ¬h.Shaped ∧ ¬HostService.SameShape {} h := by
  let i : HostInput := .add { regular := false } "192.168.1.2" ":1.7" "/missing"
  let h : HostService :=
    (rsuHostServiceAdd { regular := false } "192.168.1.2" ":1.7" "/missing" {}).2
  have hstep : hosting.step {} i h := rfl
  refine ⟨[] ++ [i], h, ⟨.objectNotFound,
    "File /missing does not exist or is not a regular file"⟩, .step (.init rfl) hstep,
    by decide, rfl, fun hshaped => ?_, fun hsame => ?_⟩
  · obtain ⟨f, hf, hfile⟩ := hshaped.occupied "192.168.1.2" { port := 49152, counter := 1 } rfl
    simp at hfile
  · have hserver := (hsame "192.168.1.2").1
    exact absurd hserver (by decide)

end RendererService
