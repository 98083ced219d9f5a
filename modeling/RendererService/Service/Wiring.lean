import RendererService.Service.Registrations

/-!
# How the loss of a subscription is wired

Every attempt on a context connects the same handlers to its proxies, so the
handlers of a context are a number of copies of one list: its wiring.
-/

namespace RendererService

open Transition

variable {w w' : World} {d : Nat} {y : ContextCore}

/-! ## The handlers of a context -/

def ContextCore.present (y : ContextCore) (kind : ServiceKind) : Bool :=
  (y.serviceProxies.get kind).isSome

/-- The handlers that an attempt on the context connects. -/
def ContextCore.wiring (y : ContextCore) (d : Nat) : List ProxyHandler :=
  DeviceContext.wiring ⟨y.id, y.ipAddress, y.serviceProxies, false, false, false, false, false,
    false⟩ d

theorem wiring_core (x : DeviceContext) (d : Nat) : x.core.wiring d = x.wiring d := rfl

/-- A service that is subscribed is one that its context offers, and was attempted. -/
structure WiredTimes (w : World) (d : Nat) (y : ContextCore) (n : Nat) : Prop where
  wired : w.wired y.id = (List.replicate n (y.wiring d)).flatten
  subscribed : ∀ kind, (w.service d y.id kind).subscribed = true →
    y.present kind = true ∧ 1 ≤ n

/-- The handlers of every context are copies of its wiring. -/
def WiringOk (w : World) : Prop :=
  ∀ d k, w.core d = some k → ∀ y ∈ k.contexts, ∃ n, WiredTimes w d y n

theorem ContextsOk.live_core {k : DeviceCore} (hd : w.core d = some k) (hy : y ∈ k.contexts) :
    (w.context? d y.id).isSome := by
  rw [context?_isSome, hd, Option.any_some]
  exact List.any_eq_true.mpr ⟨y, hy, decide_eq_true rfl⟩

theorem ContextsOk.dead_next (hok : ContextsOk w) (d : Nat) :
    w.context? d w.gupnp.nextContext = none := by
  by_contra hne
  obtain ⟨x, hx⟩ := Option.ne_none_iff_exists'.mp hne
  obtain ⟨dev, hdev, hmem, hid⟩ := context?_some hx
  have hcore : w.core d = some dev.core := core_of_device hdev
  have hbound := hok.devices.bound d _ x.core hcore (List.mem_map_of_mem hmem)
  have hid' : x.core.id = w.gupnp.nextContext := hid
  omega

theorem WiringOk.same (h : WiringOk w) (hok : ContextsOk w) (hstay : ServicesStay w w')
    (hfrom : ContextsFrom w w') : WiringOk w' := by
  intro d k hk y hy
  have hlive := ContextsOk.live_core hk hy
  rcases hfrom d k hk y hy with ⟨k₀, hk₀, hy₀⟩ | hnew
  · obtain ⟨n, hwired, hsubscribed⟩ := h d k₀ hk₀ y hy₀
    refine ⟨n, (hstay.wired d y.id hlive).trans hwired, fun kind htrue => ?_⟩
    rw [hstay.service d y.id kind hlive] at htrue
    exact hsubscribed kind htrue
  · have hdead := hok.dead_next
    refine ⟨0, ?_, fun kind htrue => ?_⟩
    · rw [hstay.wired d y.id hlive, hnew, hok.wired_of_dead hdead]
      rfl
    · rw [hstay.service d y.id kind hlive, hnew, (hok.service_of_none (hdead d) kind).1] at htrue
      simp at htrue

theorem ServiceState.Gives.subscribed {s s' : ServiceState} (hs : s.Gives s')
    (h : s'.subscribed = true) : s.subscribed = true := by
  cases hs with
  | same => exact h
  | unsubscribe =>
      rw [ServiceState.unsubscribe_subscribed] at h
      simp at h
  | expire _ => exact h
  | lost n => exact lost_iterate_subscribed n s h
  | drop n => exact lost_iterate_subscribed n s.drop h

theorem WiringOk.fewer (h : WiringOk w) (hgive : GivesUp w w') : WiringOk w' := by
  intro d k hk y hy
  rw [hgive.core] at hk
  obtain ⟨n, hwired, hsubscribed⟩ := h d k hk y hy
  refine ⟨n, ?_, fun kind htrue => hsubscribed kind ?_⟩
  · rw [World.wired, hgive.lostHandlers]
    exact hwired
  · exact (hgive.service d y.id kind (ContextsOk.live_core hk hy)).subscribed htrue

theorem WiringOk.attempts {x : DeviceContext} (h : WiringOk w) (hok : ContextsOk w)
    (hcore : ∀ d, w'.core d = w.core d) (hx : w.context? d x.id = some x)
    (hspec : Attempts d x w w') : WiringOk w' := by
  intro e k hk y hy
  rw [hcore] at hk
  have hlive := ContextsOk.live_core hk hy
  obtain ⟨n, hwired, hsubscribed⟩ := h e k hk y hy
  have hwired' : w'.wired y.id = w.wired y.id ++ (x.wiring d).filter fun h => h.context = y.id := by
    rw [World.wired, hspec.lostHandlers, List.filter_append]
    rfl
  have hcontext := context_wiring hok hx
  by_cases hid : y.id = x.id
  · -- The context is the one that was subscribed: its flags are set where it offers a service.
    rw [hid] at hlive
    obtain rfl : e = d := hok.owner (Option.isSome_of_eq_some hx) hlive
    obtain ⟨dev, hdev, hmem, -⟩ := context?_some hx
    have hd : w.core e = some dev.core := core_of_device hdev
    obtain rfl : k = dev.core := Option.some.inj (hk.symm.trans hd)
    have hsame : y = x.core :=
      List.inj_on_of_nodup_map (hok.devices.nodup e _ hk) hy (List.mem_map_of_mem hmem) hid
    subst hsame
    refine ⟨n + 1, ?_, fun kind htrue => ?_⟩
    · have hall : ((x.wiring e).filter fun h => h.context = x.core.id) = x.wiring e :=
        List.filter_eq_self.mpr fun h hmem => decide_eq_true (hcontext h hmem)
      rw [hwired', hall, hwired, List.replicate_succ', List.flatten_append, List.flatten_singleton]
      rfl
    · have hown := hspec.own kind
      cases hpresent : x.present kind with
      | true => exact ⟨hpresent, Nat.le_add_left 1 n⟩
      | false =>
          rw [hpresent, if_neg (by simp)] at hown
          have hold : (w.service e x.core.id kind).subscribed = true :=
            (congrArg ServiceState.subscribed hown).symm.trans htrue
          exact ⟨(hsubscribed kind hold).1, Nat.le_add_left 1 n⟩
  · have hnone : ((x.wiring d).filter fun h => h.context = y.id) = [] :=
      List.filter_eq_nil_iff.mpr fun h hmem hc =>
        hid ((of_decide_eq_true hc).symm.trans (hcontext h hmem))
    refine ⟨n, by rw [hwired', hnone, List.append_nil, hwired], fun kind htrue => ?_⟩
    rcases hspec.others e y.id kind hlive hid with hsame | hstop
    · rw [hsame] at htrue
      exact hsubscribed kind htrue
    · rw [hstop, ServiceState.unsubscribe_subscribed] at htrue
      simp at htrue

theorem WiringOk.connects {act : ConnectAct} (h : WiringOk w) (hok : ContextsOk w)
    (hstep : Connects w act w') : WiringOk w' := by
  obtain ⟨w₁, hok₁, hstay, hfrom, hmoves⟩ := hstep.moves hok
  have h₁ := h.same hok hstay hfrom
  cases hmoves with
  | stay => exact h₁
  | giveUp hgive => exact h₁.fewer hgive
  | attempt _ _ hx hcore hspec => exact h₁.attempts hok₁ hcore hx hspec

/-! ## Timers that are set -/

def ServiceState.Armed (s : ServiceState) : Prop := s.timers = s.timeoutId.toNat

namespace ServiceState

variable {s s' : ServiceState}

theorem Armed.unsubscribe (h : s.Armed) : s.unsubscribe.Armed := by
  have hretry : s.stopRetry.Armed := by
    unfold stopRetry
    split
    next htimeout =>
      have hone : s.timers = 1 := by rw [h, htimeout]; rfl
      exact congrArg (· - 1) hone
    · exact h
  unfold ServiceState.unsubscribe stopNotify
  split <;> exact hretry

theorem Armed.lost (h : s.Armed) : s.lost.Armed := by
  unfold ServiceState.lost
  split
  next htimeout =>
    have hone : s.timers = 1 := by rw [h, htimeout]; rfl
    exact congrArg (· - 1) hone
  next htimeout =>
    have hclear : s.timeoutId = false := by simpa using htimeout
    have hzero : s.timers = 0 := by rw [h, hclear]; rfl
    exact congrArg (· + 1) hzero

theorem Armed.lost_iterate (n : Nat) (h : s.Armed) : (ServiceState.lost^[n] s).Armed := by
  induction n generalizing s with
  | zero => exact h
  | succ n ih =>
      rw [Function.iterate_succ_apply]
      exact ih h.lost

theorem Armed.gives (h : s.Armed) (hs : s.Gives s') : s'.Armed := by
  cases hs with
  | same => exact h
  | unsubscribe => exact h.unsubscribe
  | expire hpending =>
      have hle : s.timers ≤ 1 := h ▸ Bool.toNat_le s.timeoutId
      show s.timers - 1 = 0
      omega
  | lost n => exact h.lost_iterate n
  | drop n => exact Armed.lost_iterate n h

end ServiceState

/-- Every timer that is kept is pending. -/
def TimersOk (w : World) : Prop := ∀ d c kind, (w.service d c kind).Armed

theorem TimersOk.connects {act : ConnectAct} (h : TimersOk w) (hok : ContextsOk w)
    (hstep : Connects w act w') : TimersOk w' := by
  have hok' := hok.connects hstep
  obtain ⟨w₁, hok₁, hstay, -, hmoves⟩ := hstep.moves hok
  have hnone : ∀ {w : World}, ContextsOk w → ∀ d c kind, w.context? d c = none →
      (w.service d c kind).Armed := by
    intro w hok d c kind hx
    obtain ⟨-, htimeout, -, htimers⟩ := hok.service_of_none hx kind
    rw [ServiceState.Armed, htimeout, htimers]
    rfl
  have hlive : (∀ d, w'.core d = w₁.core d) → ∀ d c, (w'.context? d c).isSome →
      (w₁.context? d c).isSome := by
    intro hcore d c hsome
    rwa [context?_isSome, hcore, ← context?_isSome] at hsome
  have h₁ : TimersOk w₁ := by
    intro d c kind
    cases hx : w₁.context? d c with
    | none => exact hnone hok₁ d c kind hx
    | some x =>
        rw [hstay.service d c kind (Option.isSome_of_eq_some hx)]
        exact h d c kind
  intro d c kind
  cases hx' : w'.context? d c with
  | none => exact hnone hok' d c kind hx'
  | some x' =>
      have hsome := Option.isSome_of_eq_some hx'
      cases hmoves with
      | stay => exact h₁ d c kind
      | giveUp hgive =>
          exact (h₁ d c kind).gives (hgive.service d c kind (hlive hgive.core d c hsome))
      | @attempt _ e x _ _ hx hcore hspec =>
          have hsome₁ := hlive hcore d c hsome
          by_cases hc : c = x.id
          · subst hc
            obtain rfl : d = e := hok₁.owner (Option.isSome_of_eq_some hx) hsome₁
            rw [hspec.own]
            split <;> exact h₁ d x.id kind
          · rcases hspec.others d c kind hsome₁ hc with hsame | hstop
            · rw [hsame]
              exact h₁ d c kind
            · rw [hstop]
              exact (h₁ d c kind).unsubscribe

section Runs

variable {neverQuit : Bool} {is : List Input}

theorem service_wiringOk (hr : (service neverQuit).Reaches is w) : WiringOk w := by
  refine service_contexts hr (fun d k hk => ?_) fun w act w' hok h hstep => h.connects hok hstep
  simp [World.core, start] at hk

theorem service_timersOk (hr : (service neverQuit).Reaches is w) : TimersOk w := by
  refine service_contexts hr ?_ fun w act w' hok h hstep => h.connects hok hstep
  exact fun d c kind => rfl

end Runs

end RendererService
