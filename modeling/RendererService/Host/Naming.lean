import RendererService.Host.Urls

/-!
# The names of hosted files

The path of a hosted file is its name while it is hosted, and is never given out
again while its server runs.  What the argument needs of a step is said once, by
`ServerStep`: the server of an interface adds a file, or keeps its counter and
loses files at most.
-/

namespace RendererService

open Transition

/-! ## Creations -/

/-- The input calls `prv_host_file_new` for a server on the interface. -/
def HostService.creates (h : HostService) (i : String) : HostInput → Bool
  | .add _ deviceIf _ file => deviceIf = i && (h.file? i file).isNone
  | _ => false

/-- The calls of `prv_host_file_new` on the server of an interface since it was
started, whether or not they succeeded. -/
def creations (i : String) (is : List HostInput) : Nat :=
  ghost {} hostStepFn (fun h j h' n =>
    if (h'.servers.lookup i).isSome then n + (if h.creates i j then 1 else 0) else 0) 0 is

section Step

variable {h h' : HostService} {i : String} {j : HostInput}

theorem creations_snoc {is : List HostInput} (hr : hosting.Reaches is h)
    (hstep : hosting.step h j h') (hruns : (h'.servers.lookup i).isSome) :
    creations i (is ++ [j]) = creations i is + if h.creates i j then 1 else 0 := by
  rw [creations, ghost_snoc hr hstep, if_pos hruns]
  rfl

/-! ## What a step does to a server -/

/-- What is left of a hosted file: only its clients and its mapping may change. -/
structure HostFile.Kept (hf hf' : HostFile) : Prop where
  ok : hf.Ok → hf'.Ok
  address : hf'.address = hf.address
  id : hf'.id = hf.id
  path : hf'.path = hf.path

inductive ServerStep (h : HostService) (i : String) (j : HostInput) (server' : HostServer) : Prop
  | keeps {server : HostServer} :
      h.creates i j = false → h.servers.lookup i = some server →
      server'.counter = server.counter →
      (∀ f hf', server'.files.lookup f = some hf' →
        ∃ hf, server.files.lookup f = some hf ∧ hf.Kept hf') →
      ServerStep h i j server'
  | creates {env : HostEnvironment} {server : HostServer} {file : String} {hf : HostFile} :
      h.creates i j = true → h.Opens env i server → server.files.lookup file = none →
      hf.Ok → hf.id = server.counter → hf.path = hostPath hf.id file →
      server' = { server.counted with files := server.files.insert file hf } →
      ServerStep h i j server'
  | fails {env : HostEnvironment} {server : HostServer} :
      h.creates i j = true → h.Opens env i server → server' = server.counted →
      ServerStep h i j server'

theorem HostFile.Kept.refl (hf : HostFile) : hf.Kept hf :=
  ⟨fun hok => hok, rfl, rfl, rfl⟩

theorem HostFile.kept_withClient (hf : HostFile) (client : String) :
    hf.Kept (hf.withClient client) := by
  refine ⟨fun hok => hok.withClient client, ?_, ?_, ?_⟩
  all_goals
    unfold HostFile.withClient
    split <;> rfl

theorem HostFile.kept_without {hf hf' : HostFile} {client : String}
    (hleft : hf.without client = some hf') : hf.Kept hf' := by
  unfold HostFile.without at hleft
  split at hleft
  · split at hleft
    · simp at hleft
    · next hsome =>
        obtain rfl := Option.some.inj hleft
        exact ⟨fun hok => ⟨hsome, hok.nodup.erase client⟩, rfl, rfl, rfl⟩
  · obtain rfl := Option.some.inj hleft
    exact .refl hf

theorem HostFile.kept_entry {hf hf' : HostFile} (hentry : hf'.entry = hf.entry) :
    hf.Kept hf' := by
  obtain ⟨hclients, hid, hpath, haddress⟩ := HostFile.entry_eq hentry
  exact ⟨fun hok => ⟨hclients ▸ hok.clients, hclients ▸ hok.nodup⟩, haddress, hid, hpath⟩

/-- An add comes to a file that is known, a file that is new, or no file. -/
theorem AddsFile.serverStep {env : HostEnvironment} {client file : String}
    {server server' : HostServer} {url : Except GError String} (hopens : h.Opens env i server)
    (hadds : AddsFile env server client i file h.nextFile (url, server')) :
    ServerStep h i (.add env i client file) server' := by
  have hcreates : h.creates i (.add env i client file) = (server.files.lookup file).isNone := by
    simp [HostService.creates, hopens.file? file]
  cases hadds with
  | @known hf hfile =>
      have hruns : h.servers.lookup i = some server := by
        rcases hopens with hruns | ⟨-, hnew⟩
        · exact hruns
        · obtain rfl := prvHostServerNew_ok hnew
          simp at hfile
      have hkept : h.creates i (.add env i client file) = false := by simp [hcreates, hfile]
      refine .keeps hkept hruns rfl fun g hg hlookup => ?_
      change (server.files.insert file (hf.withClient client)).lookup g = some hg at hlookup
      rw [Assoc.lookup_insert_eq] at hlookup
      split at hlookup
      next hat =>
        obtain rfl := Option.some.inj hlookup
        exact ⟨hf, hat ▸ hfile, hf.kept_withClient client⟩
      · exact ⟨hg, hlookup, .refl hg⟩
  | new hf hfile hnew =>
      obtain ⟨-, hid, -, -, -, hpath⟩ := prvHostFileNew_ok hnew
      have hone : ({ hf with clients := [client] } : HostFile).Ok := ⟨by simp, by simp⟩
      exact .creates (by simp [hcreates, hfile]) hopens hfile hone hid (by rw [hpath, ← hid]) rfl
  | failed hfile _ => exact .fails (by simp [hcreates, hfile]) hopens rfl

theorem HostFile.Kept.trans {hf hf' hf'' : HostFile} (h : hf.Kept hf') (h' : hf'.Kept hf'') :
    hf.Kept hf'' :=
  ⟨fun hok => h'.ok (h.ok hok), h'.address.trans h.address, h'.id.trans h.id,
    h'.path.trans h.path⟩

theorem HostService.Opens.running {env : HostEnvironment} {server opened : HostServer}
    (hopens : h.Opens env i opened) (hruns : h.servers.lookup i = some server) :
    opened = server := by
  rcases hopens with hopens | ⟨hnone, -⟩
  · exact Option.some.inj (hopens.symm.trans hruns)
  · simp [hruns] at hnone

theorem HostStep.server {server' : HostServer} (hstep : HostStep h j h')
    (hi' : h'.servers.lookup i = some server') : ServerStep h i j server' := by
  have hsame : h.creates i j = false → h.servers.lookup i = some server' →
      ServerStep h i j server' := fun hcreates hi =>
    .keeps hcreates hi rfl fun f hf' hlookup => ⟨hf', hlookup, .refl hf'⟩
  have hserves : h.creates i j = false → Serves h h' → ServerStep h i j server' := by
    intro hcreates hs
    obtain ⟨server, hserver, hserve⟩ := hs.server i server' hi'
    apply ServerStep.keeps hcreates hserver hserve.2.1
    intro f hf' hlookup
    obtain ⟨hf, hfile, hentry⟩ := hserve.file hlookup
    exact ⟨hf, hfile, HostFile.kept_entry hentry⟩
  cases hstep with
  | add env deviceIf client file =>
      have hadds := rsuHostServiceAdd_adds env deviceIf client file h
      revert hadds hi' hserves
      generalize rsuHostServiceAdd env deviceIf client file h = result
      intro hi' _ hadds
      cases hadds with
      | refused hnone _ =>
          apply hsame _ hi'
          have hne : deviceIf ≠ i := by
            intro heq
            rw [heq] at hnone
            simp [hnone] at hi'
          simp [HostService.creates, hne]
      | served hopens hfile =>
          simp only [HostService.setServer, Assoc.lookup_insert_eq] at hi'
          split at hi'
          next hat =>
            subst hat
            obtain rfl := Option.some.inj hi'
            exact hfile.serverStep hopens
          next hat =>
            apply hsame _ hi'
            simp [HostService.creates, Ne.symm hat]
  | remove deviceIf client file =>
      have hremoves := rsuHostServiceRemove_removes deviceIf client file h
      revert hremoves hi' hserves
      generalize rsuHostServiceRemove deviceIf client file h = result
      intro hi' _ hremoves
      cases hremoves with
      | absent _ => exact hsame rfl hi'
      | @removed server hf hserver hfile hmem =>
          rw [HostService.lookup_dropped hserver hfile hmem] at hi'
          split at hi'
          next hat =>
            subst hat
            obtain ⟨rfl, -⟩ := HostServer.kept_some hi'
            refine .keeps rfl hserver rfl fun f hf' hlookup => ?_
            rw [lookup_forgetClient] at hlookup
            split at hlookup
            next hat =>
              obtain ⟨hf₀, hfile₀, hleft⟩ := Option.bind_eq_some_iff.mp hlookup
              exact ⟨hf₀, hat ▸ hfile₀, HostFile.kept_without hleft⟩
            · exact ⟨hf', hlookup, .refl hf'⟩
          · exact hsame rfl hi'
  | lostClient client =>
      rw [HostService.lookup_lostClient] at hi'
      obtain ⟨server, hserver, hkept⟩ := Option.bind_eq_some_iff.mp hi'
      obtain ⟨rfl, -⟩ := HostServer.kept_some hkept
      refine .keeps rfl hserver rfl fun f hf' hlookup => ?_
      rw [HostServer.lookup_forget] at hlookup
      obtain ⟨hf, hfile, hleft⟩ := Option.bind_eq_some_iff.mp hlookup
      exact ⟨hf, hfile, HostFile.kept_without hleft⟩
  | request mapped deviceIf msg => exact hserves rfl (serves_request mapped deviceIf msg h)
  | finished _ hfinish =>
      have hs := serves_finished hfinish
      exact hserves rfl ⟨hs.server, hs.gone, hs.nextFile⟩

/-- The servers stay in shape while the creations of each are counted. -/
theorem ServerStep.ok {server' : HostServer} {n : Nat} (hstep : ServerStep h i j server')
    (hok : ∀ server, h.servers.lookup i = some server → server.Ok n)
    (hn : n + (if h.creates i j then 1 else 0) < 2 ^ 32) :
    server'.Ok (n + if h.creates i j then 1 else 0) := by
  have hopened : ∀ env server, h.Opens env i server → server.Ok n := by
    intro env server hopens
    rcases hopens with hruns | ⟨-, hnew⟩
    · exact hok server hruns
    · obtain rfl := prvHostServerNew_ok hnew
      exact ⟨Nat.zero_le _, by simp, by simp, by simp, by simp⟩
  cases hstep with
  | keeps hcreates hruns hcounter hfiles =>
      have hold := hok _ hruns
      simp only [hcreates, Bool.false_eq_true, if_false, Nat.add_zero]
      apply hold.shrink hcounter
      intro f hf' hlookup
      obtain ⟨hf, hfile, hkept⟩ := hfiles f hf' hlookup
      exact ⟨hf, hfile, hkept.ok (hold.files f hf hfile), hkept.id, hkept.path⟩
  | creates hcreates hopens _ hone hid hpath hserver =>
      subst hserver
      simp only [hcreates, if_true] at hn ⊢
      exact (hopened _ _ hopens).insert_new hn hone hid hpath
  | fails hcreates hopens hserver =>
      subst hserver
      simp only [hcreates, if_true] at hn ⊢
      exact (hopened _ _ hopens).counted hn

theorem ServerStep.file_kept {server server' : HostServer} {f : String} {hf hf' : HostFile}
    (hstep : ServerStep h i j server') (hruns : h.servers.lookup i = some server)
    (hfile : server.files.lookup f = some hf) (hfile' : server'.files.lookup f = some hf') :
    hf.Kept hf' := by
  have hopened : ∀ env opened, h.Opens env i opened → opened = server :=
    fun _ _ hopens => hopens.running hruns
  cases hstep with
  | keeps _ hold _ hfiles =>
      obtain rfl := Option.some.inj (hold.symm.trans hruns)
      obtain ⟨hf₀, hfile₀, hkept⟩ := hfiles f hf' hfile'
      rwa [← Option.some.inj (hfile.symm.trans hfile₀)] at hkept
  | @creates _ opened file added _ hopens hnew _ _ _ hserver =>
      obtain rfl := hopened _ _ hopens
      subst hserver
      have hne : f ≠ file := by
        rintro rfl
        simp [hfile] at hnew
      have hold : opened.files.lookup f = some hf' :=
        (AList.lookup_insert_ne hne).symm.trans hfile'
      rw [Option.some.inj (hold.symm.trans hfile)]
      exact .refl hf
  | fails _ hopens hserver =>
      obtain rfl := hopened _ _ hopens
      subst hserver
      have hold : hf' = hf := Option.some.inj (hfile'.symm.trans hfile)
      rw [hold]
      exact .refl hf

/-- The id was given out, and only a file with a name in `p` may have it. -/
def HostServer.Reserves (server : HostServer) (id : Nat) (p : String → Prop) : Prop :=
  id < server.counter ∧ ∀ f hf, server.files.lookup f = some hf → hf.id = id → p f

/-- An id that was given out is not given out again while the server runs. -/
theorem ServerStep.reserves {server server' : HostServer} {n id : Nat} {p : String → Prop}
    (hstep : ServerStep h i j server') (hruns : h.servers.lookup i = some server)
    (hok : server.Ok n) (hn : n + (if h.creates i j then 1 else 0) < 2 ^ 32)
    (hreserves : server.Reserves id p) : server'.Reserves id p := by
  have hopened : ∀ env opened, h.Opens env i opened → opened = server :=
    fun _ _ hopens => hopens.running hruns
  obtain ⟨hid, hnames⟩ := hreserves
  cases hstep with
  | @keeps old _ hold hcounter hfiles =>
      obtain rfl := Option.some.inj (hold.symm.trans hruns)
      refine ⟨hcounter ▸ hid, fun f hf' hlookup heq => ?_⟩
      obtain ⟨hf, hfile, hkept⟩ := hfiles f hf' hlookup
      exact hnames f hf hfile (hkept.id.symm.trans heq)
  | @creates _ opened file hf hcreates hopens _ _ hfresh _ hserver =>
      obtain rfl := hopened _ _ hopens
      subst hserver
      simp only [hcreates, if_true] at hn
      have hcounter := hok.counted_counter hn
      constructor
      · show id < opened.counted.counter
        omega
      · intro g hg (hlookup : (opened.files.insert file hf).lookup g = some hg) heq
        rw [Assoc.lookup_insert_eq] at hlookup
        split at hlookup
        · obtain rfl := Option.some.inj hlookup
          omega
        · exact hnames g hg hlookup heq
  | @fails _ opened hcreates hopens hserver =>
      obtain rfl := hopened _ _ hopens
      subst hserver
      simp only [hcreates, if_true] at hn
      have hcounter := hok.counted_counter hn
      exact ⟨by omega, hnames⟩

end Step

/-! ## Runs -/

section Runs

variable {h h' : HostService} {i : String} {is js : List HostInput}

/-- In every run, while fewer files were created than the counter of the server can
count. -/
theorem hosting_server_ok (hr : hosting.Reaches is h) (hn : creations i is < 2 ^ 32)
    (server : HostServer) (hi : h.servers.lookup i = some server) :
    server.Ok (creations i is) := by
  refine hr.trace_invariant (P := fun is h => creations i is < 2 ^ 32 →
    ∀ server, h.servers.lookup i = some server → server.Ok (creations i is)) ?_ ?_ hn server hi
  · rintro h rfl _ server hi
    simp at hi
  · intro is h j h' hr hok hstep hn server' hi'
    have hruns : (h'.servers.lookup i).isSome := by simp [hi']
    rw [creations_snoc hr hstep hruns] at hn ⊢
    exact ((hosting_step hstep).server hi').ok (hok (by omega)) hn

theorem creations_le {j : HostInput} (hr : hosting.Reaches is h) (hstep : hosting.step h j h')
    (hruns : (h'.servers.lookup i).isSome) : creations i is ≤ creations i (is ++ [j]) := by
  rw [creations_snoc hr hstep hruns]
  exact Nat.le_add_right _ _

theorem creations_le_through (hr : hosting.Reaches is h)
    (hthrough : hosting.Through (fun h => (h.servers.lookup i).isSome) h js h') :
    creations i is ≤ creations i (is ++ js) := by
  induction hthrough with
  | refl _ => rw [List.append_nil]
  | step hthrough hstep hruns ih =>
      rw [← List.append_assoc]
      exact ih.trans (creations_le (hthrough.reaches hr) hstep hruns)

theorem reserves_through {server server' : HostServer} {id : Nat} {p : String → Prop}
    (hr : hosting.Reaches is h)
    (hthrough : hosting.Through (fun h => (h.servers.lookup i).isSome) h js h')
    (hn : creations i (is ++ js) < 2 ^ 32) (hi : h.servers.lookup i = some server)
    (hi' : h'.servers.lookup i = some server') (hreserves : server.Reserves id p) :
    server'.Reserves id p := by
  induction hthrough generalizing server' with
  | refl _ =>
      obtain rfl := Option.some.inj (hi.symm.trans hi')
      exact hreserves
  | @step js h₁ h₂ j hthrough hstep hruns ih =>
      have hr₁ := hthrough.reaches hr
      obtain ⟨server₁, hserver₁⟩ := Option.isSome_iff_exists.mp hthrough.last
      rw [← List.append_assoc] at hn
      have hcounted := creations_snoc hr₁ hstep hruns
      have hn₁ : creations i (is ++ js) < 2 ^ 32 := by omega
      exact ((hosting_step hstep).server hi').reserves hserver₁
        (hosting_server_ok hr₁ hn₁ server₁ hserver₁) (hcounted ▸ hn) (ih hn₁ hserver₁)

/-- A file that stays hosted stays the same, on the same server. -/
theorem hosted_through {server : HostServer} {f : String} {hf : HostFile}
    (hthrough : hosting.Through (fun h => (h.file? i f).isSome) h js h')
    (hi : h.servers.lookup i = some server) (hfile : server.files.lookup f = some hf) :
    ∃ server' hf', h'.servers.lookup i = some server' ∧ server'.files.lookup f = some hf' ∧
      hf.Kept hf' ∧ server'.port = server.port := by
  induction hthrough with
  | refl _ => exact ⟨server, hf, hi, hfile, .refl hf, rfl⟩
  | @step js h₁ h₂ j hthrough hstep hhosted ih =>
      obtain ⟨server₁, hf₁, hserver₁, hfile₁, hkept, hport⟩ := ih
      obtain ⟨hf₂, hhosted⟩ := Option.isSome_iff_exists.mp hhosted
      obtain ⟨server₂, hserver₂, hfile₂⟩ := Option.bind_eq_some_iff.mp hhosted
      have hst := hosting_step hstep
      have hsame := (hst.server hserver₂).file_kept hserver₁ hfile₁ hfile₂
      exact ⟨server₂, hf₂, hserver₂, hfile₂, hkept.trans hsame,
        (hst.port hserver₁ hserver₂).trans hport⟩

/-- Hosting a file that is hosted returns its URL, whoever asks. -/
theorem rsuHostServiceAdd_hosted {server : HostServer} {f : String} {hf : HostFile}
    (hi : h.servers.lookup i = some server) (hfile : server.files.lookup f = some hf)
    (env : HostEnvironment) (client : String) :
    (rsuHostServiceAdd env i client f h).1 = .ok (server.url i hf) := by
  have hadds := rsuHostServiceAdd_adds env i client f h
  revert hadds
  generalize rsuHostServiceAdd env i client f h = result
  intro hadds
  cases hadds with
  | refused hnone _ => simp [hi] at hnone
  | @served opened _ _ hopens hadded =>
      obtain rfl := hopens.running hi
      cases hadded with
      | @known hf₀ hfile₀ =>
          obtain rfl := Option.some.inj (hfile.symm.trans hfile₀)
          show Except.ok (opened.url i (hf.withClient client)) = _
          rw [HostServer.url, (hf.kept_withClient client).path]
          rfl
      | new _ hnone _ => simp [hfile] at hnone
      | failed hnone _ => simp [hfile] at hnone

/-- The path of an id that was given out and that no file has leads nowhere. -/
theorem HostServer.Ok.find_retired {n id : Nat} {server : HostServer} (hok : server.Ok n)
    (hn : n < 2 ^ 32) (hreserves : server.Reserves id fun _ => False) (f : String) :
    prvHostServerFindFile server (hostPath id f) = none := by
  cases hfind : prvHostServerFindFile server (hostPath id f) with
  | none => rfl
  | some found =>
      obtain ⟨g, hg⟩ := found
      obtain ⟨hlookup, hpath⟩ := prvHostServerFindFile_some hfind
      have hcounter := hok.counter
      have hidg := hok.ids g hg hlookup
      have hid := hreserves.1
      rw [hok.paths g hg hlookup] at hpath
      have hsame := hostPath_injective (by omega) (by omega) hpath
      exact (hreserves.2 g hg hlookup hsame).elim

/-- The URLs of hosted files are unambiguous and stable: the paths of a server tell its
files apart; a path leads to its file as long as the file stays hosted, and every add of
it returns the URL that was returned before; once the file was dropped, its path leads
nowhere while the server runs. -/
theorem hosting_paths (hr : hosting.Reaches is h) :
    (∀ env c f url h₁ js h', rsuHostServiceAdd env i c f h = (.ok url, h₁) →
      hosting.Through (fun h => (h.file? i f).isSome) h₁ js h' →
      ∀ env' c', (rsuHostServiceAdd env' i c' f h').1 = .ok url) ∧
    ∀ server, h.servers.lookup i = some server → creations i is < 2 ^ 32 →
      (∀ f g hf hg, server.files.lookup f = some hf → server.files.lookup g = some hg →
        f ≠ g → hf.path ≠ hg.path) ∧
      ∀ f hf, server.files.lookup f = some hf →
        (∀ js h', hosting.Through (fun h => (h.file? i f).isSome) h js h' →
          creations i (is ++ js) < 2 ^ 32 →
          ∃ server' hf', h'.servers.lookup i = some server' ∧ hf'.address = hf.address ∧
            prvHostServerFindFile server' hf.path = some (f, hf')) ∧
        ∀ js h₁ js' h', hosting.Through (fun h => (h.servers.lookup i).isSome) h js h₁ →
          h₁.file? i f = none →
          hosting.Through (fun h => (h.servers.lookup i).isSome) h₁ js' h' →
          creations i (is ++ js ++ js') < 2 ^ 32 →
          ∃ server', h'.servers.lookup i = some server' ∧
            prvHostServerFindFile server' hf.path = none := by
  refine ⟨?_, fun server hi hn => ⟨?_, fun f hf hfile => ⟨?_, ?_⟩⟩⟩
  · intro env c f url h₁ js h' hadd hthrough env' c'
    obtain ⟨hf, hfiles, -, server, hserver, rfl⟩ := HostService.file?_add_ok hadd
    have hfile : h₁.file? i f = some hf := (hfiles i f).trans (if_pos ⟨rfl, rfl⟩)
    rw [HostService.file?_eq hserver] at hfile
    obtain ⟨server', hf', hserver', hfile', hkept, hport⟩ := hosted_through hthrough hserver hfile
    rw [rsuHostServiceAdd_hosted hserver' hfile', HostServer.url, HostServer.url, hkept.path, hport]
  · intro f g hf hg hfile hfile' hne hpath
    exact hne ((hosting_server_ok hr hn server hi).path_inj hn hfile hfile' hpath)
  · intro js h' hthrough hn'
    obtain ⟨server', hf', hserver', hfile', hkept, -⟩ := hosted_through hthrough hi hfile
    have hok' := hosting_server_ok (hthrough.reaches hr) hn' server' hserver'
    refine ⟨server', hf', hserver', hkept.address, ?_⟩
    rw [← hkept.path]
    exact hok'.find hn' hfile'
  · intro js h₁ js' h' hthrough hdropped hthrough' hn'
    have hok := hosting_server_ok hr hn server hi
    obtain ⟨server₁, hserver₁⟩ := Option.isSome_iff_exists.mp hthrough.last
    obtain ⟨server', hserver'⟩ := Option.isSome_iff_exists.mp hthrough'.last
    have hr₁ := hthrough.reaches hr
    have hn₁ : creations i (is ++ js) < 2 ^ 32 :=
      Nat.lt_of_le_of_lt (creations_le_through hr₁ hthrough') hn'
    have hnamed : server.Reserves hf.id (· = f) :=
      ⟨hok.ids f hf hfile, fun g hg hlookup hid => hok.distinct g f hg hf hlookup hfile hid⟩
    have hnamed₁ := reserves_through hr hthrough hn₁ hi hserver₁ hnamed
    have hretired₁ : server₁.Reserves hf.id fun _ => False := by
      refine ⟨hnamed₁.1, fun g hg hlookup hid => ?_⟩
      obtain rfl := hnamed₁.2 g hg hlookup hid
      rw [HostService.file?_eq hserver₁, hlookup] at hdropped
      simp at hdropped
    have hretired := reserves_through hr₁ hthrough' hn' hserver₁ hserver' hretired₁
    refine ⟨server', hserver', ?_⟩
    rw [hok.paths f hf hfile]
    exact (hosting_server_ok (hthrough'.reaches hr₁) hn' server' hserver').find_retired hn'
      hretired f

end Runs

/-- Another client hosts a second file; then the first file is dropped. -/
def secondFile : HostInput := .add {} "192.168.1.2" ":1.8" "/home/user/b.mp3"

def twoHosted : HostService :=
  (rsuHostServiceAdd {} "192.168.1.2" ":1.8" "/home/user/b.mp3" oneHosted).2

def firstDropped : HostService :=
  (rsuHostServiceRemove "192.168.1.2" ":1.7" "/home/user/a.mp3" twoHosted).2

theorem hosting_paths_firstDropped :
    (rsuHostServiceAdd {} "192.168.1.2" ":1.9" "/home/user/a.mp3" twoHosted).1 =
      .ok "http://192.168.1.2:49152/rendererserviceupnp/0.mp3" ∧
    (∃ server hf, twoHosted.servers.lookup "192.168.1.2" = some server ∧
      prvHostServerFindFile server "/rendererserviceupnp/0.mp3" =
        some ("/home/user/a.mp3", hf)) ∧
    ∃ server, firstDropped.servers.lookup "192.168.1.2" = some server ∧
      prvHostServerFindFile server "/rendererserviceupnp/0.mp3" = none := by
  have hfirst : hosting.step {} oneFile oneHosted := rfl
  have hsecond : hosting.step oneHosted secondFile twoHosted := rfl
  have hdrop : hosting.step twoHosted (.remove "192.168.1.2" ":1.7" "/home/user/a.mp3")
      firstDropped := rfl
  have hr : hosting.Reaches ([] ++ [oneFile]) oneHosted := .step (.init rfl) hfirst
  have hstays : hosting.Through (fun h => (h.file? "192.168.1.2" "/home/user/a.mp3").isSome)
      oneHosted ([] ++ [secondFile]) twoHosted := .step (.refl rfl) hsecond rfl
  have hruns : hosting.Through (fun h => (h.servers.lookup "192.168.1.2").isSome)
      oneHosted ([] ++ [secondFile] ++ [.remove "192.168.1.2" ":1.7" "/home/user/a.mp3"])
      firstDropped := .step (.step (.refl rfl) hsecond rfl) hdrop rfl
  have hadd : rsuHostServiceAdd {} "192.168.1.2" ":1.7" "/home/user/a.mp3" {} =
      (.ok "http://192.168.1.2:49152/rendererserviceupnp/0.mp3", oneHosted) :=
    Prod.ext (by decide +kernel) rfl
  have hpath : hostPath 0 "/home/user/a.mp3" = "/rendererserviceupnp/0.mp3" := by decide +kernel
  rw [← hpath]
  refine ⟨?_, ?_, ?_⟩
  · exact (hosting_paths (.init rfl)).1 _ _ _ _ _ _ _ hadd hstays _ _
  · obtain ⟨-, hfiles⟩ := (hosting_paths (i := "192.168.1.2") hr).2 _ rfl (by decide +kernel)
    obtain ⟨server, hf, hserver, -, hfind⟩ :=
      (hfiles "/home/user/a.mp3" _ rfl).1 _ _ hstays (by decide +kernel)
    exact ⟨server, hf, hserver, hfind⟩
  · obtain ⟨-, hfiles⟩ := (hosting_paths (i := "192.168.1.2") hr).2 _ rfl (by decide +kernel)
    exact (hfiles "/home/user/a.mp3" _ rfl).2 _ _ [] _ hruns rfl (.refl rfl) (by decide +kernel)

end RendererService
