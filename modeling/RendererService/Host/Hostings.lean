import RendererService.Host.Shape
import RendererService.Lib.Decimal
import Mathlib

/-!
# The host service as a set of hostings

Abstractly the host service is a set of triples of an interface, a file and a
client.  Every operation acts on the set as its name says, and a file is found
under its path as long as some client hosts it.
-/

namespace RendererService

/-! ## Paths -/

theorem printInt_injective {m n : Nat} (hm : m < 2 ^ 32) (hn : n < 2 ^ 32)
    (h : printInt m = printInt n) : m = n := by
  have hint := Int.repr_injective h
  split at hint <;> split at hint <;> omega

theorem dot_not_mem_printInt (n : Nat) : '.' ∉ (printInt n).toList := fun hmem => by
  rcases Decimal.mem_toString_int hmem with hdot | hdot
  · exact absurd hdot (by decide)
  · exact absurd hdot (by decide)

theorem head_strrchr (c : Char) (l : List Char) :
    ∀ a ∈ ((strrchr c l).getD []).head?, a = c := by
  induction l with
  | nil => simp [strrchr]
  | cons x xs ih =>
      rw [strrchr]
      cases hrest : strrchr c xs with
      | some rest => simpa [hrest] using ih
      | none =>
          by_cases hx : x = c
          · simp [hx]
          · simp [hx]

/-- The paths of two files differ if their ids do, whatever their names. -/
theorem hostPath_injective {m n : Nat} {f g : String} (hm : m < 2 ^ 32) (hn : n < 2 ^ 32)
    (h : hostPath m f = hostPath n g) : m = n := by
  have hlist := congrArg String.toList h
  simp only [hostPath, String.toList_append, List.append_assoc, String.toList_ofList,
    List.append_cancel_left_eq] at hlist
  have hprint := Decimal.append_left_inj_of_sep (dot_not_mem_printInt m)
    (dot_not_mem_printInt n) (head_strrchr '.' _) (head_strrchr '.' _) hlist
  exact printInt_injective hm hn (String.toList_injective hprint)

/-- In a server whose counter has not wrapped, a path belongs to one file. -/
theorem HostServer.Ok.path_inj {n : Nat} {server : HostServer} (hok : server.Ok n)
    (hn : n < 2 ^ 32) {f g : String} {hf hg : HostFile}
    (hfile : server.files.lookup f = some hf) (hfile' : server.files.lookup g = some hg)
    (hpath : hf.path = hg.path) : f = g := by
  have hcounter := hok.counter
  have hidf := hok.ids f hf hfile
  have hidg := hok.ids g hg hfile'
  rw [hok.paths f hf hfile, hok.paths g hg hfile'] at hpath
  exact hok.distinct f g hf hg hfile hfile' (hostPath_injective (by omega) (by omega) hpath)

theorem HostServer.Ok.find {n : Nat} {server : HostServer} (hok : server.Ok n)
    (hn : n < 2 ^ 32) {f : String} {hf : HostFile} (hfile : server.files.lookup f = some hf) :
    prvHostServerFindFile server hf.path = some (f, hf) := by
  have hmem : (⟨f, hf⟩ : Sigma fun _ : String => HostFile) ∈ server.files.entries :=
    AList.mem_lookup_iff.mp hfile
  cases hfind : prvHostServerFindFile server hf.path with
  | none =>
      rw [prvHostServerFindFile, Option.map_eq_none_iff, List.find?_eq_none] at hfind
      simpa using hfind _ hmem
  | some found =>
      obtain ⟨g, hg⟩ := found
      obtain ⟨hlookup, hpath⟩ := prvHostServerFindFile_some hfind
      obtain rfl := hok.path_inj hn hlookup hfile hpath
      obtain rfl := Option.some.inj (hlookup.symm.trans hfile)
      rfl

/-! ## The set of hostings -/

/-- An interface, a file hosted there, and a client that asked for it. -/
structure Hosting where
  deviceIf : String
  file : String
  client : String
deriving DecidableEq

def HostService.hostings (h : HostService) : Set Hosting :=
  { x | h.Hosts x.deviceIf x.file x.client }

theorem HostFile.mem_without {hf : HostFile} (hok : hf.Ok) (client c : String) :
    (∃ hf', hf.without client = some hf' ∧ c ∈ hf'.clients) ↔ c ∈ hf.clients ∧ c ≠ client := by
  unfold HostFile.without
  by_cases hmem : client ∈ hf.clients
  · have herase : c ∈ hf.clients.erase client ↔ c ≠ client ∧ c ∈ hf.clients :=
      hok.nodup.mem_erase_iff
    by_cases hempty : hf.clients.erase client = []
    · rw [hempty] at herase
      simp only [List.not_mem_nil, false_iff] at herase
      simpa [hmem, hempty, and_comm] using herase
    · simp [hmem, hempty, herase, and_comm]
  · simp only [if_neg hmem, Option.some.injEq, exists_eq_left']
    constructor
    · rintro hc
      exact ⟨hc, fun heq => hmem (heq ▸ hc)⟩
    · exact fun hc => hc.1

namespace HostService

variable {n : Nat} {h h' : HostService}

def FilesOk (h : HostService) : Prop := ∀ i f hf, h.file? i f = some hf → hf.Ok

theorem mem_hostings {x : Hosting} :
    x ∈ h.hostings ↔ ∃ hf, h.file? x.deviceIf x.file = some hf ∧ x.client ∈ hf.clients :=
  Iff.rfl

theorem FilesOk.hostings_lostClient (hok : h.FilesOk) (c : String) :
    (rsuHostServiceLostClient c h).hostings = { x ∈ h.hostings | x.client ≠ c } := by
  ext x
  rw [mem_hostings, Set.mem_ofPred_eq, mem_hostings, file?_lostClient]
  cases hfile : h.file? x.deviceIf x.file with
  | none => simp
  | some hf => simpa using HostFile.mem_without (hok _ _ hf hfile) c x.client

theorem FilesOk.hostings_remove (hok : h.FilesOk) (i c f : String) :
    (rsuHostServiceRemove i c f h).2.hostings = h.hostings \ {⟨i, f, c⟩} := by
  ext ⟨j, g, c'⟩
  rw [Set.mem_sdiff, Set.mem_singleton_iff, mem_hostings, mem_hostings, file?_remove]
  by_cases hat : j = i ∧ g = f
  · obtain ⟨rfl, rfl⟩ := hat
    cases hfile : h.file? j g with
    | none => simp
    | some hf => simpa using HostFile.mem_without (hok _ _ hf hfile) c c'
  · simp only [hat, if_false, Hosting.mk.injEq]
    constructor
    · exact fun hmem => ⟨hmem, fun heq => hat ⟨heq.1, heq.2.1⟩⟩
    · exact fun hmem => hmem.1

theorem remove_iff (i c f : String) :
    (rsuHostServiceRemove i c f h).1 = true ↔ ⟨i, f, c⟩ ∈ h.hostings := by
  have hremoves := rsuHostServiceRemove_removes i c f h
  revert hremoves
  generalize rsuHostServiceRemove i c f h = result
  intro hremoves
  cases hremoves with
  | absent habsent => exact ⟨fun htrue => by simp at htrue, fun hmem => absurd hmem habsent⟩
  | @removed server hf hserver hfile hmem =>
      have hfile? : h.file? i f = some hf := by rw [file?_eq hserver, hfile]
      exact ⟨fun _ => ⟨hf, hfile?, hmem⟩, fun _ => rfl⟩

theorem hostings_remove_failed {i c f : String}
    (hfail : (rsuHostServiceRemove i c f h).1 = false) :
    (rsuHostServiceRemove i c f h).2.hostings = h.hostings := by
  have hremoves := rsuHostServiceRemove_removes i c f h
  revert hremoves hfail
  generalize rsuHostServiceRemove i c f h = result
  intro hfail hremoves
  cases hremoves with
  | absent _ => rfl
  | removed _ _ _ => simp at hfail

theorem hostings_add_ok {env : HostEnvironment} {i c f url : String}
    (hadd : rsuHostServiceAdd env i c f h = (.ok url, h')) :
    h'.hostings = insert ⟨i, f, c⟩ h.hostings := by
  obtain ⟨hf', hfile?, hadded, -⟩ := file?_add_ok hadd
  ext ⟨j, g, c'⟩
  rw [Set.mem_insert_iff, mem_hostings, mem_hostings, hfile?]
  by_cases hat : j = i ∧ g = f
  · obtain ⟨rfl, rfl⟩ := hat
    simpa using hadded.mem_clients c'
  · simp only [hat, if_false, Hosting.mk.injEq]
    constructor
    · exact .inr
    · exact fun hor => hor.elim (fun heq => absurd ⟨heq.1, heq.2.1⟩ hat) id

theorem hostings_add_failed {env : HostEnvironment} {i c f : String} {error : GError}
    (hfail : rsuHostServiceAdd env i c f h = (.error error, h')) :
    h'.hostings = h.hostings := by
  ext x
  rw [mem_hostings, mem_hostings, file?_add_failed hfail]

theorem hostings_serves (hserves : Serves h h') : h'.hostings = h.hostings := by
  ext x
  have hentry := hserves.file? x.deviceIf x.file
  rw [mem_hostings, mem_hostings]
  cases hfile : h.file? x.deviceIf x.file with
  | none =>
      rw [hfile, Option.map_none, Option.map_eq_none_iff] at hentry
      simp [hentry]
  | some hf =>
      rw [hfile, Option.map_some, Option.map_eq_some_iff] at hentry
      obtain ⟨hf', hfile', heq⟩ := hentry
      simp [hfile', (HostFile.entry_eq heq).1]

theorem servers_prvHostServerDelete (server : HostServer) (h : HostService) :
    (prvHostServerDelete server h).servers = h.servers := by
  unfold prvHostServerDelete
  generalize server.files.entries = l
  induction l generalizing h with
  | nil => rfl
  | cons e l ih => exact (ih _).trans rfl

theorem servers_rsuHostServiceDelete (h : HostService) : (rsuHostServiceDelete h).servers = ∅ := by
  have hfold : ∀ (l : List (Sigma fun _ : String => HostServer)) (h : HostService),
      (l.foldl (fun h e => prvHostServerDelete e.2 h) h).servers = h.servers := by
    intro l
    induction l with
    | nil => exact fun h => rfl
    | cons e l ih => exact fun h => (ih _).trans (servers_prvHostServerDelete e.2 h)
  exact hfold h.servers.entries { h with servers := ∅ }

/-- A step hosts a file for nobody but the client that asks for it, and no longer
for a client that is lost. -/
theorem hostings_step {j : HostInput} {x : Hosting} (hok : h.FilesOk) (hstep : HostStep h j h')
    (hx : x ∈ h'.hostings) :
    (x ∈ h.hostings ∧ j ≠ .lostClient x.client) ∨
      ∃ env, j = .add env x.deviceIf x.client x.file := by
  cases hstep with
  | add env i c f =>
      cases hadd : rsuHostServiceAdd env i c f h with
      | mk result h' =>
          rw [hadd] at hx
          cases result with
          | error error =>
              rw [hostings_add_failed hadd] at hx
              exact .inl ⟨hx, by simp⟩
          | ok url =>
              rw [hostings_add_ok hadd] at hx
              rcases hx with rfl | hx
              · exact .inr ⟨env, rfl⟩
              · exact .inl ⟨hx, by simp⟩
  | remove i c f =>
      rw [hok.hostings_remove] at hx
      exact .inl ⟨hx.1, by simp⟩
  | lostClient c =>
      rw [hok.hostings_lostClient] at hx
      exact .inl ⟨hx.1, fun heq => hx.2 (HostInput.lostClient.inj heq).symm⟩
  | request mapped i msg =>
      rw [hostings_serves (serves_request mapped i msg h)] at hx
      exact .inl ⟨hx, by simp⟩
  | finished ht hfinish =>
      rw [hostings_serves (serves_finished hfinish)] at hx
      exact .inl ⟨hx, by simp⟩

/-- A file is found on an interface if and only if somebody hosts it there. -/
theorem Ok.find_iff (hok : h.Ok n) (hn : n < 2 ^ 32) (i f : String) :
    (∃ server url hf, h.servers.lookup i = some server ∧
      prvHostServerFindFile server url = some (f, hf)) ↔ ∃ c, ⟨i, f, c⟩ ∈ h.hostings := by
  constructor
  · rintro ⟨server, url, hf, hserver, hfind⟩
    have hlookup := (prvHostServerFindFile_some hfind).1
    obtain ⟨c, hc⟩ :=
      List.exists_mem_of_ne_nil _ ((hok i server hserver).files f hf hlookup).clients
    exact ⟨c, hf, by rw [file?_eq hserver, hlookup], hc⟩
  · rintro ⟨c, hf, hfile, -⟩
    obtain ⟨server, hserver, hlookup⟩ := Option.bind_eq_some_iff.mp hfile
    exact ⟨server, hf.path, hf, hserver, (hok i server hserver).find hn hlookup⟩

end HostService

/-- No operation leaves a file without clients, or with one twice. -/
theorem HostStep.filesOk {h h' : HostService} {j : HostInput} (hstep : HostStep h j h')
    (hok : h.FilesOk) : h'.FilesOk := by
  intro i f hf' hfile'
  have hold : h'.file? i f = h.file? i f → hf'.Ok := fun heq => hok i f hf' (heq ▸ hfile')
  have hleft : ∀ client, (h.file? i f).bind (HostFile.without client) = some hf' → hf'.Ok := by
    intro client hbind
    obtain ⟨hf, hfile, hwithout⟩ := Option.bind_eq_some_iff.mp hbind
    exact ((hok i f hf hfile).without hwithout).1
  have hserves : Serves h h' → hf'.Ok := by
    intro hs
    have hentry := hs.file? i f
    rw [hfile', Option.map_some] at hentry
    obtain ⟨hf, hfile, heq⟩ := Option.map_eq_some_iff.mp hentry.symm
    obtain ⟨hclients, -⟩ := HostFile.entry_eq heq
    have hf₀ := hok i f hf hfile
    exact ⟨hclients ▸ hf₀.clients, hclients ▸ hf₀.nodup⟩
  cases hstep with
  | add env deviceIf client file =>
      cases hadd : rsuHostServiceAdd env deviceIf client file h with
      | mk result h' =>
          rw [hadd] at hfile'
          cases result with
          | error error => exact hok i f hf' ((HostService.file?_add_failed hadd _ _) ▸ hfile')
          | ok url =>
              obtain ⟨hf, hall, hadded, -⟩ := HostService.file?_add_ok hadd
              rw [hall] at hfile'
              split at hfile'
              · obtain rfl := Option.some.inj hfile'
                cases hlookup : h.file? deviceIf file with
                | none =>
                    rw [hlookup] at hadded
                    cases hadded with
                    | new hclients _ _ _ => exact ⟨by simp [hclients], by simp [hclients]⟩
                | some hf₀ =>
                    rw [hlookup] at hadded
                    cases hadded with
                    | known _ => exact (hok _ _ hf₀ hlookup).withClient client
              · exact hok i f hf' hfile'
  | remove deviceIf client file =>
      rw [HostService.file?_remove] at hfile'
      split at hfile'
      next hat =>
        rw [← hat.1, ← hat.2] at hfile'
        exact hleft client hfile'
      · exact hok i f hf' hfile'
  | lostClient client =>
      rw [HostService.file?_lostClient] at hfile'
      exact hleft client hfile'
  | request mapped deviceIf msg => exact hserves (serves_request mapped deviceIf msg h)
  | finished _ hfinish =>
      have hs := serves_finished hfinish
      exact hserves ⟨hs.server, hs.gone, hs.nextFile⟩

theorem hosting_filesOk {is : List HostInput} {h : HostService} (hr : hosting.Reaches is h) :
    h.FilesOk := by
  refine hr.invariant (I := HostService.FilesOk) (fun h hinit i f hf hfile => ?_)
    fun h i h' hok hstep => (hosting_step hstep).filesOk hok
  obtain rfl : h = {} := hinit
  simp [HostService.file?] at hfile

/-- The host service is the set of its hostings; a file is found as long as fewer
attempts were made than the counters can count. -/
theorem hosting_hostings {is : List HostInput} {h : HostService} (hr : hosting.Reaches is h) :
    (∀ env i c f url h', rsuHostServiceAdd env i c f h = (.ok url, h') →
      h'.hostings = insert ⟨i, f, c⟩ h.hostings) ∧
    (∀ env i c f error h', rsuHostServiceAdd env i c f h = (.error error, h') →
      h'.hostings = h.hostings) ∧
    (∀ i c f, (rsuHostServiceRemove i c f h).2.hostings = h.hostings \ {⟨i, f, c⟩} ∧
      ((rsuHostServiceRemove i c f h).1 = true ↔ ⟨i, f, c⟩ ∈ h.hostings) ∧
      ((rsuHostServiceRemove i c f h).1 = false →
        (rsuHostServiceRemove i c f h).2.hostings = h.hostings)) ∧
    (∀ c, (rsuHostServiceLostClient c h).hostings = { x ∈ h.hostings | x.client ≠ c }) ∧
    (attempts is < 2 ^ 32 → ∀ i f, (∃ server url hf, h.servers.lookup i = some server ∧
      prvHostServerFindFile server url = some (f, hf)) ↔ ∃ c, ⟨i, f, c⟩ ∈ h.hostings) := by
  have hfiles : h.FilesOk := hosting_filesOk hr
  refine ⟨?_, ?_, fun i c f => ⟨?_, ?_, ?_⟩, ?_, fun hn => ?_⟩
  · exact fun _ _ _ _ _ _ hadd => HostService.hostings_add_ok hadd
  · exact fun _ _ _ _ _ _ hfail => HostService.hostings_add_failed hfail
  · exact hfiles.hostings_remove i c f
  · exact HostService.remove_iff i c f
  · exact HostService.hostings_remove_failed
  · exact hfiles.hostings_lostClient
  · exact (hosting_ok hr hn).find_iff hn

theorem hosting_hostings_oneHosted :
    (rsuHostServiceLostClient ":1.7" oneHosted).hostings =
        { x ∈ oneHosted.hostings | x.client ≠ ":1.7" } ∧
      ∀ i f, (∃ server url hf, oneHosted.servers.lookup i = some server ∧
        prvHostServerFindFile server url = some (f, hf)) ↔
          ∃ c, ⟨i, f, c⟩ ∈ oneHosted.hostings := by
  have hstep : hosting.step {} oneFile oneHosted := rfl
  have hr : hosting.Reaches ([] ++ [oneFile]) oneHosted := .step (.init rfl) hstep
  obtain ⟨-, -, -, hlost, hfind⟩ := hosting_hostings hr
  exact ⟨hlost ":1.7", hfind (by decide)⟩

/-! ## A counter that wraps -/

/-- The host service with one file, after `n` more attempts that failed. -/
def wornHost (n : Nat) : HostService where
  servers := AList.singleton "192.168.1.2" {
    files := AList.singleton "/home/user/a.mp3" {
      address := 0
      id := 0
      clients := [":1.7"]
      mimeType := "audio/mpeg"
      path := hostPath 0 "/home/user/a.mp3"
      dlnaHeader := "" }
    port := 49152
    counter := (n + 1) % 2 ^ 32 }
  nextFile := n + 1

def missingFile : HostInput := .add { regular := false } "192.168.1.2" ":1.7" "/missing"

theorem wornHost_step (n : Nat) : hosting.step (wornHost n) missingFile (wornHost (n + 1)) := by
  have hcounter : ((n + 1) % 2 ^ 32 + 1) % 2 ^ 32 = (n + 1 + 1) % 2 ^ 32 := Nat.mod_add_mod _ _ _
  show some (rsuHostServiceAdd { regular := false } "192.168.1.2" ":1.7" "/missing"
    (wornHost n)).2 = some (wornHost (n + 1))
  unfold wornHost
  rw [← hcounter]
  rfl

theorem wornHost_reached (n : Nat) : ∃ is, hosting.Reaches is (wornHost n) := by
  induction n with
  | zero =>
      have hstep : hosting.step {} oneFile (wornHost 0) := rfl
      exact ⟨_, .step (.init rfl) hstep⟩
  | succ n ih =>
      obtain ⟨is, his⟩ := ih
      exact ⟨_, his.step (wornHost_step n)⟩

def wrappedHost : HostService :=
  (rsuHostServiceAdd {} "192.168.1.2" ":1.7" "/home/user/b.mp3" (wornHost (2 ^ 32 - 1))).2

/-- After 2^32 attempts an id is given again, and of two files with one path only
one is found. -/
theorem wrapped_path :
    ∃ is h, hosting.Reaches is h ∧
      ¬∀ i f, (∃ server url hf, h.servers.lookup i = some server ∧
        prvHostServerFindFile server url = some (f, hf)) ↔ ∃ c, ⟨i, f, c⟩ ∈ h.hostings := by
  obtain ⟨is, his⟩ := wornHost_reached (2 ^ 32 - 1)
  have hstep : hosting.step (wornHost (2 ^ 32 - 1))
      (.add {} "192.168.1.2" ":1.7" "/home/user/b.mp3") wrappedHost := rfl
  refine ⟨_, wrappedHost, his.step hstep, fun hfind => ?_⟩
  obtain ⟨server, url, hf, hserver, hfound⟩ :=
    (hfind "192.168.1.2" "/home/user/a.mp3").mpr ⟨":1.7", _, rfl, by decide⟩
  obtain ⟨hlookup, hpath⟩ := prvHostServerFindFile_some hfound
  have hfile : wrappedHost.file? "192.168.1.2" "/home/user/a.mp3" = some hf := by
    rw [HostService.file?_eq hserver, hlookup]
  have hurl : (wrappedHost.file? "192.168.1.2" "/home/user/a.mp3").map HostFile.path =
      some "/rendererserviceupnp/0.mp3" := by decide +kernel
  have hother : ((wrappedHost.servers.lookup "192.168.1.2").bind fun server =>
      (prvHostServerFindFile server "/rendererserviceupnp/0.mp3").map Prod.fst) =
        some "/home/user/b.mp3" := by decide +kernel
  rw [hfile, Option.map_some, hpath, Option.some.injEq] at hurl
  rw [hserver, Option.bind_some, ← hurl, hfound, Option.map_some, Option.some.injEq] at hother
  have hname : "/home/user/a.mp3" ≠ "/home/user/b.mp3" := by decide
  exact hname hother

end RendererService
