import RendererService.Host.Hostings

/-!
# The URLs of hosted files

The URL that a client was given stays that of the file until the client removes
the file on the same interface or goes away: the server keeps its port and the
file its path, whatever other clients do.
-/

namespace RendererService

open Transition

/-- The client hosts the file on the interface, and `url` is its URL. -/
def HostService.HostsAt (h : HostService) (x : Hosting) (url : String) : Prop :=
  ∃ server hf, h.servers.lookup x.deviceIf = some server ∧
    server.files.lookup x.file = some hf ∧ x.client ∈ hf.clients ∧ url = server.url x.deviceIf hf

/-- The input ends the hosting: its client removes the file or goes away. -/
def HostInput.ends (x : Hosting) : HostInput → Bool
  | .remove deviceIf client file => ⟨deviceIf, file, client⟩ = x
  | .lostClient client => client = x.client
  | _ => false

section Files

variable {h h' : HostService} {j : HostInput} {x : Hosting} {url : String}

theorem HostService.HostsAt.hosting (hat : h.HostsAt x url) : x ∈ h.hostings := by
  obtain ⟨server, hf, hserver, hfile, hmem, -⟩ := hat
  exact ⟨hf, by rw [HostService.file?_eq hserver, hfile], hmem⟩

theorem hostsAt_add {env : HostEnvironment} {i c f : String}
    (hadd : rsuHostServiceAdd env i c f h = (.ok url, h')) : h'.HostsAt ⟨i, f, c⟩ url := by
  obtain ⟨hf, hfile, hadded, server, hserver, rfl⟩ := HostService.file?_add_ok hadd
  have hlookup : h'.file? i f = some hf := (hfile i f).trans (if_pos ⟨rfl, rfl⟩)
  rw [HostService.file?_eq hserver] at hlookup
  exact ⟨server, hf, hserver, hlookup, (hadded.mem_clients c).mpr (.inl rfl), rfl⟩

theorem HostFile.withClient_keeps (hf : HostFile) (client : String) :
    hf.clients ⊆ (hf.withClient client).clients ∧ (hf.withClient client).path = hf.path := by
  unfold HostFile.withClient
  split
  · exact ⟨fun _ hc => hc, rfl⟩
  · exact ⟨fun _ hc => List.mem_append_left _ hc, rfl⟩

theorem HostFile.without_keeps {hf : HostFile} {client c : String} (hmem : c ∈ hf.clients)
    (hne : client ≠ c) :
    ∃ hf', hf.without client = some hf' ∧ c ∈ hf'.clients ∧ hf'.path = hf.path := by
  unfold HostFile.without
  split
  · have hstays : c ∈ hf.clients.erase client := (List.mem_erase_of_ne hne.symm).mpr hmem
    rw [if_neg (List.ne_nil_of_mem hstays)]
    exact ⟨_, rfl, hstays, rfl⟩
  · exact ⟨hf, rfl, hmem, rfl⟩

theorem HostStep.file_keeps {hf : HostFile} (hstep : HostStep h j h') (hj : j.ends x = false)
    (hfile : h.file? x.deviceIf x.file = some hf) (hmem : x.client ∈ hf.clients) :
    ∃ hf', h'.file? x.deviceIf x.file = some hf' ∧ x.client ∈ hf'.clients ∧
      hf'.path = hf.path := by
  have hserves : Serves h h' → ∃ hf', h'.file? x.deviceIf x.file = some hf' ∧
      x.client ∈ hf'.clients ∧ hf'.path = hf.path := by
    intro hs
    have hentry := hs.file? x.deviceIf x.file
    rw [hfile, Option.map_some] at hentry
    obtain ⟨hf', hfile', heq⟩ := Option.map_eq_some_iff.mp hentry
    obtain ⟨hclients, -, hpath, -⟩ := HostFile.entry_eq heq
    exact ⟨hf', hfile', hclients ▸ hmem, hpath⟩
  cases hstep with
  | add env deviceIf client file =>
      cases hadd : rsuHostServiceAdd env deviceIf client file h with
      | mk result h' =>
          cases result with
          | error error =>
              exact ⟨hf, (HostService.file?_add_failed hadd _ _).trans hfile, hmem, rfl⟩
          | ok url =>
              obtain ⟨hf', hfile', hadded, -⟩ := HostService.file?_add_ok hadd
              show ∃ hf', h'.file? x.deviceIf x.file = some hf' ∧ _
              rw [hfile']
              split
              next hat =>
                rw [← hat.1, ← hat.2, hfile] at hadded
                cases hadded with
                | known _ =>
                    obtain ⟨hclients, hpath⟩ := hf.withClient_keeps client
                    exact ⟨_, rfl, hclients hmem, hpath⟩
              · exact ⟨hf, hfile, hmem, rfl⟩
  | remove deviceIf client file =>
      rw [HostService.file?_remove]
      split
      next hat =>
        obtain ⟨hi, hf'⟩ := hat
        rw [← hi, ← hf', hfile, Option.bind_some]
        refine HostFile.without_keeps hmem fun hclient => ?_
        simp [HostInput.ends, ← hi, ← hf', hclient] at hj
      · exact ⟨hf, hfile, hmem, rfl⟩
  | lostClient client =>
      rw [HostService.file?_lostClient, hfile, Option.bind_some]
      exact HostFile.without_keeps hmem (by simpa [HostInput.ends] using hj)
  | request mapped deviceIf msg => exact hserves (serves_request mapped deviceIf msg h)
  | finished _ hfinish =>
      have hs := serves_finished hfinish
      exact hserves ⟨hs.server, hs.gone, hs.nextFile⟩

theorem HostServer.kept_port {server server' : HostServer} (h : server.kept = some server') :
    server'.port = server.port := by
  rw [(HostServer.kept_some h).1]

theorem HostStep.port {i : String} {server server' : HostServer} (hstep : HostStep h j h')
    (hi : h.servers.lookup i = some server) (hi' : h'.servers.lookup i = some server') :
    server'.port = server.port := by
  have hsame : h'.servers.lookup i = h.servers.lookup i → server'.port = server.port := by
    intro heq
    rw [← Option.some.inj (hi.symm.trans (heq.symm.trans hi'))]
  have hserves : Serves h h' → server'.port = server.port := by
    intro hs
    obtain ⟨server₀, hserver₀, hport, -⟩ := hs.server i server' hi'
    rw [hport, ← Option.some.inj (hi.symm.trans hserver₀)]
  cases hstep with
  | add env deviceIf client file =>
      have hadds := rsuHostServiceAdd_adds env deviceIf client file h
      revert hadds hi' hsame
      generalize rsuHostServiceAdd env deviceIf client file h = result
      intro hi' hsame hadds
      cases hadds with
      | refused _ _ => exact hsame rfl
      | @served opened stored _ hopens hfile =>
          simp only [HostService.setServer, Assoc.lookup_insert_eq] at hi' hsame
          split at hi'
          next hat =>
            subst hat
            obtain rfl := Option.some.inj hi'
            have hopened : opened = server := by
              rcases hopens with hrunning | ⟨hnone, -⟩
              · exact Option.some.inj (hrunning.symm.trans hi)
              · simp [hi] at hnone
            subst hopened
            cases hfile <;> rfl
          next hat => exact hsame (if_neg hat)
  | remove deviceIf client file =>
      have hremoves := rsuHostServiceRemove_removes deviceIf client file h
      revert hremoves hi' hsame
      generalize rsuHostServiceRemove deviceIf client file h = result
      intro hi' hsame hremoves
      cases hremoves with
      | absent _ => exact hsame rfl
      | @removed dropped hf hserver hfile hmem =>
          have hlookup := HostService.lookup_dropped hserver hfile hmem i
          rw [hi'] at hlookup
          split at hlookup
          next hat =>
            subst hat
            rw [← Option.some.inj (hserver.symm.trans hi)]
            have hport := HostServer.kept_port hlookup.symm
            exact hport
          · exact hsame (hi'.trans hlookup)
  | lostClient client =>
      rw [HostService.lookup_lostClient, hi, Option.bind_some] at hi'
      have hport := HostServer.kept_port hi'
      exact hport
  | request mapped deviceIf msg => exact hserves (serves_request mapped deviceIf msg h)
  | finished _ hfinish =>
      have hs := serves_finished hfinish
      exact hserves ⟨hs.server, hs.gone, hs.nextFile⟩

theorem HostStep.hostsAt (hstep : HostStep h j h') (hj : j.ends x = false)
    (hat : h.HostsAt x url) : h'.HostsAt x url := by
  obtain ⟨server, hf, hserver, hfile, hmem, rfl⟩ := hat
  have hfile? : h.file? x.deviceIf x.file = some hf := by
    rw [HostService.file?_eq hserver, hfile]
  obtain ⟨hf', hfile', hmem', hpath⟩ := hstep.file_keeps hj hfile? hmem
  obtain ⟨server', hserver', hlookup'⟩ := Option.bind_eq_some_iff.mp hfile'
  refine ⟨server', hf', hserver', hlookup', hmem', ?_⟩
  rw [HostServer.url, HostServer.url, hpath, hstep.port hserver hserver']

end Files

namespace HostService

variable {h : HostService} {i j f c : String} {url : String}

theorem FilesOk.hostsAt_remove (hok : h.FilesOk) (hat : h.HostsAt ⟨i, f, c⟩ url) :
    (rsuHostServiceRemove j c f h).2.HostsAt ⟨i, f, c⟩ url ↔ ¬j = i := by
  constructor
  · rintro hat' rfl
    have hmem := hat'.hosting
    rw [hok.hostings_remove] at hmem
    exact hmem.2 rfl
  · intro hne
    exact (HostStep.remove j c f).hostsAt (by simp [HostInput.ends, hne]) hat

/-- The clients of a file on one interface have one URL for it. -/
theorem HostsAt.of_hosting {c' : String} (hat : h.HostsAt ⟨i, f, c⟩ url)
    (hmem : ⟨i, f, c'⟩ ∈ h.hostings) : h.HostsAt ⟨i, f, c'⟩ url := by
  obtain ⟨server, hf, hserver, hfile, -, hurl⟩ := hat
  obtain ⟨hf', hfile', hclient⟩ := hmem
  rw [file?_eq hserver, hfile] at hfile'
  obtain rfl := Option.some.inj hfile'
  exact ⟨server, hf, hserver, hfile, hclient, hurl⟩

theorem FilesOk.hostsAt_remove_any (hok : h.FilesOk) (hat : h.HostsAt ⟨i, f, c⟩ url) :
    (∃ c', (rsuHostServiceRemove j c f h).2.HostsAt ⟨i, f, c'⟩ url) ↔
      ¬j = i ∨ ∃ c', c' ≠ c ∧ ⟨i, f, c'⟩ ∈ h.hostings := by
  constructor
  · rintro ⟨c', hat'⟩
    have hmem := hat'.hosting
    rw [hok.hostings_remove] at hmem
    by_cases hij : j = i
    · subst hij
      exact .inr ⟨c', fun heq => hmem.2 (by rw [heq]; rfl), hmem.1⟩
    · exact .inl hij
  · rintro (hne | ⟨c', hne, hmem⟩)
    · exact ⟨c, (hok.hostsAt_remove hat).mpr hne⟩
    · have hother : (HostInput.remove j c f).ends ⟨i, f, c'⟩ = false := by
        simp [HostInput.ends, hne.symm]
      exact ⟨c', (HostStep.remove j c f).hostsAt hother (hat.of_hosting hmem)⟩

end HostService

/-- A request for the URL of a hosting finds its file, while the counters of the
servers have not wrapped. -/
theorem HostService.HostsAt.find {h : HostService} {x : Hosting} {url : String} {n : Nat}
    (hat : h.HostsAt x url) (hok : h.Ok n) (hn : n < 2 ^ 32) :
    ∃ server hf, h.servers.lookup x.deviceIf = some server ∧ url = server.url x.deviceIf hf ∧
      prvHostServerFindFile server hf.path = some (x.file, hf) := by
  obtain ⟨server, hf, hserver, hfile, -, hurl⟩ := hat
  exact ⟨server, hf, hserver, hurl, (hok _ server hserver).find hn hfile⟩

end RendererService
