import RendererService.Host.Naming
import RendererService.Model.Device
import RendererService.Lib.Url

/-!
# The URLs that renderers are given

Whether the URL of a hosted file leads back to the file, when a renderer takes it
apart and asks the web server for its path.  The code prints the address and the
extension of the file as they are.
-/

namespace RendererService

open Transition

/-! ## Paths -/

def extension (file : String) : List Char := (strrchr '.' file.toList).getD []

theorem hosting_path {is : List HostInput} {h : HostService} (hr : hosting.Reaches is h)
    {i f : String} {server : HostServer} {hf : HostFile} (hi : h.servers.lookup i = some server)
    (hfile : server.files.lookup f = some hf) : hf.path = hostPath hf.id f := by
  have hpaths : ∀ server, h.servers.lookup i = some server →
      ∀ f hf, server.files.lookup f = some hf → hf.path = hostPath hf.id f := by
    refine hr.invariant (I := fun h => ∀ server, h.servers.lookup i = some server →
      ∀ f hf, server.files.lookup f = some hf → hf.path = hostPath hf.id f) ?_ ?_
    · rintro h rfl server hi
      simp at hi
    · intro h j h' hpaths hstep server' hi' f hf hfile
      have hopened : ∀ env opened, h.Opens env i opened → ∀ g hg,
          opened.files.lookup g = some hg → hg.path = hostPath hg.id g := by
        intro env opened hopens g hg hlookup
        rcases hopens with hruns | ⟨-, hnew⟩
        · exact hpaths opened hruns g hg hlookup
        · obtain rfl := prvHostServerNew_ok hnew
          simp at hlookup
      cases (hosting_step hstep).server hi' with
      | keeps _ hold _ hfiles =>
          obtain ⟨hf₀, hfile₀, hkept⟩ := hfiles f hf hfile
          rw [hkept.path, hkept.id]
          exact hpaths _ hold f hf₀ hfile₀
      | @creates _ opened file added _ hopens _ _ _ hpath hserver =>
          subst hserver
          change (opened.files.insert file added).lookup f = some hf at hfile
          rw [Assoc.lookup_insert_eq] at hfile
          split at hfile
          next hat =>
            obtain rfl := Option.some.inj hfile
            rw [hpath, hat]
          · exact hopened _ opened hopens f hf hfile
      | @fails _ opened _ hopens hserver =>
          subst hserver
          exact hopened _ opened hopens f hf hfile
  exact hpaths server hi f hf hfile

def pathStem (id : Nat) : List Char := '/' :: ("rendererserviceupnp/" ++ printInt id).toList

theorem toList_hostPath (id : Nat) (f : String) :
    (hostPath id f).toList = pathStem id ++ extension f := by
  simp [hostPath, hostServiceRoot, pathStem, extension, String.toList_append]

theorem not_mem_pathStem {c : Char} (hroot : c ∉ "/rendererserviceupnp/".toList)
    (hsign : c ≠ '-') (hdigit : c.isDigit = false) (id : Nat) : c ∉ pathStem id := by
  have hstem : pathStem id = "/rendererserviceupnp/".toList ++ (printInt id).toList := by
    simp [pathStem, String.toList_append]
  rw [hstem, List.mem_append, not_or]
  refine ⟨hroot, fun hmem => ?_⟩
  rcases Decimal.mem_toString_int hmem with hc | hc
  · exact hsign hc
  · simp [hdigit] at hc

/-- The extension has no reserved character and nothing that reads as an escape. -/
def PlainExtension (file : String) : Prop :=
  '?' ∉ extension file ∧ '#' ∉ extension file ∧ Url.hasEscape (extension file) = false

theorem requestPath_hostPath (id : Nat) (f : String) :
    Url.requestPath (hostPath id f).toList = (hostPath id f).toList ↔ PlainExtension f := by
  have hplain : ∀ c, c ∈ ['?', '#', '%'] → c ∉ pathStem id := by
    intro c hc
    simp only [List.mem_cons, List.not_mem_nil, or_false] at hc
    rcases hc with rfl | rfl | rfl
    · exact not_mem_pathStem (by decide) (by decide) (by decide) id
    · exact not_mem_pathStem (by decide) (by decide) (by decide) id
    · exact not_mem_pathStem (by decide) (by decide) (by decide) id
  rw [Url.requestPath_eq_self_iff, toList_hostPath, PlainExtension,
    Url.hasEscape_append (hplain '%' (by decide)), List.mem_append, List.mem_append]
  simp [hplain '?' (by decide), hplain '#' (by decide)]

/-! ## Finding the file -/

/-- No file that the table of the server lists before this one has its path. -/
def HostServer.First (server : HostServer) (f : String) (hf : HostFile) : Prop :=
  ∃ before after, server.files.entries = before ++ ⟨f, hf⟩ :: after ∧
    ∀ e ∈ before, e.2.path ≠ hf.path

theorem prvHostServerFindFile_iff (server : HostServer) (f : String) (hf : HostFile) :
    prvHostServerFindFile server hf.path = some (f, hf) ↔ server.First f hf := by
  constructor
  · intro hfind
    obtain ⟨⟨g, hg⟩, he, heq⟩ := Option.map_eq_some_iff.mp hfind
    obtain ⟨rfl, rfl⟩ := Prod.mk.inj heq
    obtain ⟨-, before, after, hentries, hbefore⟩ := List.find?_eq_some_iff_append.mp he
    exact ⟨before, after, hentries, fun e he => by simpa using hbefore e he⟩
  · rintro ⟨before, after, hentries, hbefore⟩
    apply Option.map_eq_some_iff.mpr
    refine ⟨⟨f, hf⟩, List.find?_eq_some_iff_append.mpr ⟨by simp, before, after, hentries, ?_⟩, rfl⟩
    exact fun e he => by simpa using hbefore e he

/-- A renderer that takes the URL of the file apart comes to the address, the port and
the path of the file, and the server finds the file there. -/
def HostServer.LeadsBack (server : HostServer) (i f : String) (hf : HostFile) : Prop :=
  ∃ path, Url.split (server.url i hf) = some ⟨i, server.port, path⟩ ∧ path = hf.path ∧
    prvHostServerFindFile server path = some (f, hf)

theorem split_url {server : HostServer} {i f : String} {hf : HostFile}
    (hpath : hf.path = hostPath hf.id f) (hliteral : Url.Ipv4 i ∨ Url.Ipv6 i) :
    Url.split (server.url i hf) = (Url.hostOf i.toList).map fun address => {
      host := String.ofList address
      port := server.port
      path := String.ofList (Url.requestPath hf.path.toList) } := by
  have hslash : '/' ∉ i.toList := by
    rcases hliteral with h | h
    · exact h.not_mem (by decide) (by decide)
    · exact h.not_mem (by decide) (by decide) (by decide)
  have hlist : hf.path.toList =
      '/' :: (("rendererserviceupnp/" ++ printInt hf.id).toList ++ extension f) := by
    rw [hpath, toList_hostPath, pathStem, List.cons_append]
  exact Url.split_print hslash server.port hlist

/-- The URL of a hosted file leads back to it exactly if the address is an IPv4 one, the
extension of the file is plain and the file is the first with its path, as it is until the
counter of the server wraps. -/
theorem hosting_leadsBack {is : List HostInput} {h : HostService} (hr : hosting.Reaches is h)
    {i f : String} {server : HostServer} {hf : HostFile} (hi : h.servers.lookup i = some server)
    (hfile : server.files.lookup f = some hf) (hliteral : Url.Ipv4 i ∨ Url.Ipv6 i) :
    (server.LeadsBack i f hf ↔ Url.Ipv4 i ∧ PlainExtension f ∧ server.First f hf) ∧
      (creations i is < 2 ^ 32 → server.First f hf) := by
  have hpath := hosting_path hr hi hfile
  have hrequest := requestPath_hostPath hf.id f
  rw [← hpath] at hrequest
  have hbracket : '[' ∉ i.toList := by
    rcases hliteral with h | h
    · exact h.not_mem (by decide) (by decide)
    · exact h.not_mem (by decide) (by decide) (by decide)
  constructor
  · rw [← prvHostServerFindFile_iff, ← hrequest, HostServer.LeadsBack, split_url hpath hliteral,
      Url.hostOf_eq hbracket]
    rcases hliteral with hipv4 | hipv6
    · rw [if_neg (hipv4.not_mem (by decide) (by decide)), Option.map_some, String.ofList_toList]
      constructor
      · rintro ⟨path, hsplit, rfl, hfind⟩
        have htarget := Url.Target.mk.inj (Option.some.inj hsplit)
        refine ⟨hipv4, ?_, hfind⟩
        have hlist := congrArg String.toList htarget.2.2
        rwa [String.toList_ofList] at hlist
      · rintro ⟨-, hrequest, hfind⟩
        exact ⟨hf.path, by rw [hrequest, String.ofList_toList], rfl, hfind⟩
    · rw [if_pos hipv6.colon_mem, Option.map_none]
      constructor
      · rintro ⟨path, hsplit, -⟩
        simp at hsplit
      · rintro ⟨hipv4, -⟩
        exact absurd hipv6 hipv4.not_ipv6
  · intro hn
    rw [← prvHostServerFindFile_iff]
    exact (hosting_server_ok hr hn server hi).find hn hfile

theorem hosting_leadsBack_oneHosted :
    ∃ server hf, oneHosted.servers.lookup "192.168.1.2" = some server ∧
      server.files.lookup "/home/user/a.mp3" = some hf ∧
      server.LeadsBack "192.168.1.2" "/home/user/a.mp3" hf := by
  have hstep : hosting.step {} oneFile oneHosted := rfl
  have hr : hosting.Reaches ([] ++ [oneFile]) oneHosted := .step (.init rfl) hstep
  have hipv4 : Url.Ipv4 "192.168.1.2" :=
    ⟨192, 168, 1, 2, by decide, by decide, by decide, by decide, by decide +kernel⟩
  have hplain : PlainExtension "/home/user/a.mp3" :=
    ⟨by decide +kernel, by decide +kernel, by decide +kernel⟩
  have hback := hosting_leadsBack hr (i := "192.168.1.2") (f := "/home/user/a.mp3") rfl rfl
    (.inl hipv4)
  exact ⟨_, _, rfl, rfl, hback.1.mpr ⟨hipv4, hplain, hback.2 (by decide +kernel)⟩⟩

/-- A device that is seen on a network and on the loopback interface. -/
def loopbackDevice : Device where
  path := "/com/intel/RendererServiceUPnP/server/0"
  contexts := [
    { id := 0, ipAddress := "192.168.1.2", serviceProxies := ⟨none, none, none⟩ },
    { id := 1, ipAddress := "::1", serviceProxies := ⟨none, none, none⟩ }]

def hostOne (i f : String) : HostService := (rsuHostServiceAdd {} i ":1.7" f {}).2

/-- The IPv6 loopback address, which is preferred, is printed without brackets; a question
mark in an extension starts a query. -/
theorem loopback_leadsNowhere :
    (rsuDeviceGetContext loopbackDevice).map DeviceContext.ipAddress = some "::1" ∧
    (∃ is server hf, hosting.Reaches is (hostOne "::1" "/home/user/a.mp3") ∧
      (hostOne "::1" "/home/user/a.mp3").servers.lookup "::1" = some server ∧
      server.files.lookup "/home/user/a.mp3" = some hf ∧
      server.url "::1" hf = "http://::1:49152/rendererserviceupnp/0.mp3" ∧
      ¬server.LeadsBack "::1" "/home/user/a.mp3" hf) ∧
    ∃ is server hf, hosting.Reaches is (hostOne "192.168.1.2" "/home/user/a.mp3?b") ∧
      (hostOne "192.168.1.2" "/home/user/a.mp3?b").servers.lookup "192.168.1.2" = some server ∧
      server.files.lookup "/home/user/a.mp3?b" = some hf ∧
      server.url "192.168.1.2" hf = "http://192.168.1.2:49152/rendererserviceupnp/0.mp3?b" ∧
      ¬server.LeadsBack "192.168.1.2" "/home/user/a.mp3?b" hf := by
  have hreached : ∀ i f, hosting.Reaches ([] ++ [.add {} i ":1.7" f]) (hostOne i f) :=
    fun i f => .step (.init rfl) rfl
  refine ⟨by decide +kernel, ?_, ?_⟩
  · refine ⟨_, _, _, hreached _ _, rfl, rfl, by decide +kernel, ?_⟩
    rintro ⟨path, hsplit, rfl, -⟩
    revert hsplit
    decide +kernel
  · refine ⟨_, _, _, hreached _ _, rfl, rfl, by decide +kernel, ?_⟩
    rintro ⟨path, hsplit, rfl, -⟩
    revert hsplit
    decide +kernel

end RendererService
