import RendererService.Service.ServiceSteps
import RendererService.Model.Schedules

/-!
# Only the preferred context is subscribed

The preferred context is found from the order and the addresses of the contexts,
the subscribed one is remembered by flags.  Every change keeps the two in step.
-/

namespace RendererService

open Transition

variable {w w' : World} {d e c : Nat} {x : DeviceContext} {kind : ServiceKind}

/-- A subscribed service belongs to the preferred context of its device. -/
def OnlyPreferred (w : World) : Prop :=
  ∀ d c kind, (w.service d c kind).subscribed = true → w.preferred? d = some c

theorem isSome_of_subscribed (h : (w.service d c kind).subscribed = true) :
    (w.context? d c).isSome := by
  have hany : (w.context? d c).any (fun context => context.subscribed kind) = true := h
  cases hx : w.context? d c with
  | none => simp [hx] at hany
  | some x => rfl

/-! ## Lists of contexts -/

/-- An element that is not the chosen one goes, and the choice stays. -/
theorem find?_or_head?_erase {α : Type} {p : α → Bool} {a b : α} {l₁ l₂ : List α} (hne : a ≠ b)
    (h : ((l₁ ++ b :: l₂).find? p).or (l₁ ++ b :: l₂).head? = some a) :
    ((l₁ ++ l₂).find? p).or (l₁ ++ l₂).head? = some a := by
  rw [List.find?_append] at h ⊢
  cases h₁ : l₁.find? p with
  | some a' => rwa [h₁, Option.some_or, Option.some_or] at h
  | none =>
      rw [h₁, Option.none_or, List.find?_cons] at h
      rw [Option.none_or]
      cases hp : p b with
      | true =>
          rw [hp] at h
          exact absurd (Option.some.inj h).symm hne
      | false =>
          rw [hp] at h
          dsimp only at h
          cases h₂ : l₂.find? p with
          | some a' => rwa [h₂, Option.some_or] at h
          | none =>
              rw [h₂, Option.none_or] at h
              cases l₁ with
              | nil => exact absurd (Option.some.inj h).symm hne
              | cons a' l₁ => exact h

theorem preferred_erase {core : DeviceCore} {y z : ContextCore} {l₁ l₂ : List ContextCore}
    (hl : core.contexts = l₁ ++ y :: l₂) (hz : core.preferred = some z) (hne : z ≠ y) :
    DeviceCore.preferred { core with contexts := l₁ ++ l₂ } = some z := by
  unfold DeviceCore.preferred at hz ⊢
  rw [hl] at hz
  exact find?_or_head?_erase hne hz

/-! ## Steps -/

theorem OnlyPreferred.fewer (h : OnlyPreferred w)
    (hpreferred : ∀ d, w'.preferred? d = w.preferred? d)
    (hfewer : ∀ e c kind, (w'.service e c kind).subscribed = true →
      (w.service e c kind).subscribed = true) : OnlyPreferred w' := by
  intro e c kind hsubscribed
  rw [hpreferred]
  exact h e c kind (hfewer e c kind hsubscribed)

theorem OnlyPreferred.calm {act : ConnectAct} (hok : ContextsOk w) (h : OnlyPreferred w)
    (hstep : Connects w act w') (hcalm : act.isCalm = true) : OnlyPreferred w' := by
  have hstay := hstep.servicesStay hok hcalm
  have hold : ∀ e c kind, (w'.service e c kind).subscribed = true →
      (w.service e c kind).subscribed = true := by
    intro e c kind hsubscribed
    rwa [hstay.service e c kind (isSome_of_subscribed hsubscribed)] at hsubscribed
  have hcore : ∀ e, w'.core e = w.core e → w'.preferred? e = w.preferred? e :=
    fun e heq => by rw [World.preferred?, World.preferred?, heq]
  intro e c kind hsubscribed
  have hpreferred := h e c kind (hold e c kind hsubscribed)
  cases hstep with
  | stay hstay =>
      rwa [hcore e (by rw [World.core, World.core, hstay.devices])]
  | @construct d ipAddress offered hd _ =>
      have hne : e ≠ d := by
        rintro rfl
        simp [World.preferred?, World.core, hd] at hpreferred
      rwa [hcore e]
      rw [(gains_blankDevice w d ipAddress offered).core, World.blankDevice, core_setDevice,
        if_neg hne, if_neg hne]
  | @remove d dev x ipAddress hdev hfind =>
      have hlive := isSome_of_subscribed hsubscribed
      have hne := removeContext_ne hok hdev hfind hlive
      have hcores := (frees_removeContext (w := w) d dev x (dev.contexts.eraseP fun context =>
        context.ipAddress = ipAddress)).2
      by_cases he : e = d
      · subst he
        obtain ⟨l₁, l₂, hl, herase⟩ := eraseP_of_find? hfind
        have hd : w.core e = some dev.core := core_of_device hdev
        rw [World.preferred?, hd, Option.bind_some] at hpreferred
        obtain ⟨z, hz, rfl⟩ := Option.map_eq_some_iff.mp hpreferred
        have hsplit : dev.core.contexts =
            l₁.map DeviceContext.core ++ x.core :: l₂.map DeviceContext.core := by
          rw [Device.core, hl, List.map_append, List.map_cons]
        have hstill := preferred_erase hsplit hz fun heq => hne (congrArg ContextCore.id heq)
        rw [World.preferred?, World.removeContext, hcores, if_pos rfl, Option.bind_some, herase,
          List.map_append]
        exact congrArg (Option.map ContextCore.id) hstill
      · rwa [hcore e]
        rw [World.removeContext, hcores, if_neg he]
  | later hdev _ _ => rwa [(cosmetic_subscribeLater _).preferred?]
  | @delete d dev hdev =>
      have hd : w.core d = some dev.core := core_of_device hdev
      have hne : e ≠ d := by
        rintro rfl
        have hlive := isSome_of_subscribed hsubscribed
        rw [context?_isSome, (frees_rsuDeviceDelete hd).2, if_pos rfl] at hlive
        simp at hlive
      rwa [hcore e]
      rw [(frees_rsuDeviceDelete hd).2, if_neg hne]
  | @declare d dev ids hdev =>
      have hsame : Cosmetic w (w.setDevice d (some { dev with ids := ids })) :=
        cosmetic_setDevice hdev rfl
      rwa [hsame.preferred?]
  | _ => simp [ConnectAct.isCalm] at hcalm

/-- At most one context of the device is subscribed. -/
def World.Lone (w : World) (d : Nat) : Prop :=
  ∀ c c' kind kind', (w.service d c kind).subscribed = true →
    (w.service d c' kind').subscribed = true → c = c'

theorem OnlyPreferred.lone (h : OnlyPreferred w) (d : Nat) : w.Lone d :=
  fun c c' kind kind' hc hc' => Option.some.inj ((h d c kind hc).symm.trans (h d c' kind' hc'))

theorem rsuDeviceGetContext_isSome {dev : Device} (hx : x ∈ dev.contexts) :
    (rsuDeviceGetContext dev).isSome := by
  unfold rsuDeviceGetContext
  split
  · rfl
  · rw [List.isSome_head?]
    exact List.ne_nil_of_mem hx

/-- A device is left alone when its subscribed context is the preferred one. -/
theorem attempt_none (hok : ContextsOk w) (hnone : w.attempt d = none) (hlone : w.Lone d)
    (hsubscribed : (w.service d c kind).subscribed = true) : w.preferred? d = some c := by
  obtain ⟨x, hx⟩ := Option.isSome_iff_exists.mp (isSome_of_subscribed hsubscribed)
  obtain ⟨dev, hdev, hmem, -⟩ := context?_some hx
  have hattempt : dev.attempt = none := by simpa [World.attempt, hdev] using hnone
  rw [preferred?_eq hdev]
  unfold Device.attempt at hattempt
  split at hattempt
  next preferred y hpreferred hy =>
    split at hattempt
    next hsame =>
      obtain ⟨hmem', kind', hkind'⟩ := prvDeviceGetSubscribedContext_some hy
      have hy' := (service_of_context (hok.context? hdev hmem') kind').1.trans hkind'
      rw [hpreferred, Option.map_some, hlone c y.id kind kind' hsubscribed hy', hsame]
    · simp at hattempt
  · have hsome := rsuDeviceGetContext_isSome hmem
    rw [hattempt] at hsome
    simp at hsome

/-- The construction and a new context settle which context is subscribed. -/
theorem onlyPreferred_settle (hok : ContextsOk w) (hlone : w.Lone d)
    (hothers : ∀ e c kind, e ≠ d → (w.service e c kind).subscribed = true →
      w.preferred? e = some c) : OnlyPreferred (prvDeviceSubscribeContext d w) := by
  have hcosmetic : Cosmetic w (prvDeviceSubscribeContext d w) :=
    cosmetic_prvDeviceSubscribeContext d
  intro e c kind hsubscribed
  have hlive : (w.context? e c).isSome := by
    rw [← hcosmetic.context?_isSome]
    exact isSome_of_subscribed hsubscribed
  rw [hcosmetic.preferred?]
  cases hattempt : w.attempt d with
  | none =>
      rw [(prvDeviceSubscribeContext_none hattempt).service e c kind
        (isSome_of_subscribed hsubscribed)] at hsubscribed
      by_cases he : e = d
      · subst he
        exact attempt_none hok hattempt hlone hsubscribed
      · exact hothers e c kind he hsubscribed
  | some found =>
      obtain ⟨d', x⟩ := found
      obtain ⟨rfl, dev, hdev, hpreferred, hother⟩ := attempt_some hattempt
      obtain ⟨hspec, hswitch⟩ := attempts_prvDeviceSubscribeContext hok hdev hpreferred hother
      by_cases hc : c = x.id
      · subst hc
        have hx := hok.context? hdev (rsuDeviceGetContext_mem hpreferred)
        obtain rfl : e = d' := hok.owner (Option.isSome_of_eq_some hx) hlive
        rw [preferred?_eq hdev, hpreferred, Option.map_some]
      · have hold : (w.service e c kind).subscribed = true := by
          rcases hspec.others e c kind hlive hc with hsame | hstop
          · rwa [hsame] at hsubscribed
          · rw [hstop, ServiceState.unsubscribe_subscribed] at hsubscribed
            simp at hsubscribed
        by_cases he : e = d'
        · subst he
          obtain ⟨c', kind', hne, hc'⟩ := hswitch c kind hlive hc hsubscribed
          exact absurd (hlone c' c kind' kind hc' hold) hne
        · exact hothers e c kind he hold

theorem lost_iterate_subscribed (n : Nat) (s : ServiceState)
    (h : (ServiceState.lost^[n] s).subscribed = true) : s.subscribed = true := by
  induction n generalizing s with
  | zero => exact h
  | succ n ih =>
      rw [Function.iterate_succ_apply] at h
      have hlost := ih _ h
      unfold ServiceState.lost at hlost
      split at hlost
      · simp at hlost
      · exact hlost

theorem OnlyPreferred.connects {act : ConnectAct} (hok : ContextsOk w) (h : OnlyPreferred w)
    (hstep : Connects w act w') : OnlyPreferred w' := by
  have hlive' : Cosmetic w w' → ∀ e c kind, (w'.service e c kind).subscribed = true →
      (w.context? e c).isSome := by
    intro hcosmetic e c kind hsubscribed
    rw [← hcosmetic.context?_isSome]
    exact isSome_of_subscribed hsubscribed
  have hstep' := hstep
  cases hstep with
  | @extend d dev ipAddress offered hdev =>
      have hok₁ : ContextsOk (prvDeviceAppendNewContext d ipAddress offered w) :=
        hok.append hdev ipAddress offered
      have hsame := service_prvDeviceAppendNewContext hdev ipAddress offered
      refine onlyPreferred_settle hok₁ (fun c c' kind kind' hc hc' => ?_)
        fun e c kind he hsubscribed => ?_
      · rw [hsame] at hc hc'
        exact h.lone d c c' kind kind' hc hc'
      · rw [hsame] at hsubscribed
        have hd : w.core d = some dev.core := core_of_device hdev
        rw [World.preferred?, (gains_prvDeviceAppendNewContext ipAddress offered hd).core,
          if_neg he]
        exact h e c kind hsubscribed
  | settle d => exact onlyPreferred_settle hok (h.lone d) fun e c kind _ => h e c kind
  | @fire id d hmem =>
      obtain ⟨dev, hdev, -⟩ := Option.map_eq_some_iff.mp (hok.attached.subscribe _ hmem).2
      have htimer : Cosmetic w (w.setSubscribeTimers (w.loop.subscribeTimers.erase (id, d))) :=
        cosmetic_setSubscribeTimers _
      have hcosmetic : Cosmetic w (exec w (.subscribeTimer id d)) :=
        htimer.trans (cosmetic_prvSubscribeToServiceChanges d)
      cases hpreferred : rsuDeviceGetContext dev with
      | none =>
          refine h.fewer (fun d => hcosmetic.preferred? d) fun e c kind hsubscribed => ?_
          rwa [(fire_none hdev hpreferred).service e c kind
            (isSome_of_subscribed hsubscribed)] at hsubscribed
      | some x =>
          intro e c kind hsubscribed
          rw [hcosmetic.preferred?]
          by_cases hc : c = x.id
          · subst hc
            have hx := hok.context? hdev (rsuDeviceGetContext_mem hpreferred)
            obtain rfl : e = d := hok.owner (Option.isSome_of_eq_some hx)
              (hlive' hcosmetic e x.id kind hsubscribed)
            rw [preferred?_eq hdev, hpreferred, Option.map_some]
          · rw [(attempts_fire hok hdev hpreferred).2 e c kind hc] at hsubscribed
            exact h e c kind hsubscribed
  | lose proxy =>
      have hcosmetic : Cosmetic w (exec w (.subscriptionLost proxy)) :=
        cosmetic_subscriptionLost proxy w
      refine h.fewer (fun d => hcosmetic.preferred? d) fun e c kind hsubscribed => ?_
      rw [service_subscriptionLost hok (hlive' hcosmetic e c kind hsubscribed)] at hsubscribed
      have hold := lost_iterate_subscribed _ _ hsubscribed
      split at hold <;> exact hold
  | @expire r hmem =>
      have htimer : Cosmetic w (w.setRetryTimers (w.loop.retryTimers.erase r)) :=
        cosmetic_setRetryTimers _
      have hcosmetic : Cosmetic w (exec w (.retryTimer r)) :=
        htimer.trans (cosmetic_prvReEnableSubscription r)
      refine h.fewer (fun d => hcosmetic.preferred? d) fun e c kind hsubscribed => ?_
      rw [service_retryTimer hok hmem (hlive' hcosmetic e c kind hsubscribed)] at hsubscribed
      split at hsubscribed <;> exact hsubscribed
  | unsubscribe d =>
      have hcosmetic : Cosmetic w (rsuDeviceUnsubscribe d w) := cosmetic_rsuDeviceUnsubscribe d
      refine h.fewer (fun d => hcosmetic.preferred? d) fun e c kind hsubscribed => ?_
      rw [service_rsuDeviceUnsubscribe hok (hlive' hcosmetic e c kind hsubscribed)] at hsubscribed
      split at hsubscribed
      · rw [ServiceState.unsubscribe_subscribed] at hsubscribed
        simp at hsubscribed
      · exact hsubscribed
  | _ => exact h.calm hok hstep' rfl

/-! ## Runs -/

section Runs

variable {neverQuit : Bool} {is : List Input}

theorem service_contextsOk (hr : (service neverQuit).Reaches is w) : ContextsOk w := by
  have hstart : (service neverQuit).Reaches [] (start neverQuit) := .init rfl
  refine service_contexts hr ?_ fun w act w' hok _ hstep => hok.connects hstep
  exact ⟨(service_ok hstart rfl).outer.devices, (service_holdersOk hstart rfl).attached⟩

theorem service_onlyPreferred (hr : (service neverQuit).Reaches is w) : OnlyPreferred w := by
  refine service_contexts hr ?_ fun w act w' hok h hstep => h.connects hok hstep
  intro d c kind hsubscribed
  exact absurd (isSome_of_subscribed hsubscribed) (by simp [World.context?, start])

/-- In every reachable state at most one context of a device is subscribed, and it is
the preferred one. -/
theorem service_subscribedContext {dev : Device} (hr : (service neverQuit).Reaches is w)
    (hdev : w.devices d = some dev) :
    (dev.contexts.countP fun context => context.subscribedCm || context.subscribedAv ||
        context.subscribedRc) ≤ 1 ∧
      ∀ x ∈ dev.contexts, (x.subscribedCm || x.subscribedAv || x.subscribedRc) = true →
        rsuDeviceGetContext dev = some x := by
  have hok := service_contextsOk hr
  have hpreferred : ∀ x ∈ dev.contexts,
      (x.subscribedCm || x.subscribedAv || x.subscribedRc) = true →
        rsuDeviceGetContext dev = some x := by
    intro x hx hany
    have hflags := service_of_context (hok.context? hdev hx)
    have hid : w.preferred? d = some x.id := by
      rw [Bool.or_eq_true, Bool.or_eq_true] at hany
      obtain (hcm | hav) | hrc := hany
      · exact service_onlyPreferred hr d x.id .cm ((hflags .cm).1.trans hcm)
      · exact service_onlyPreferred hr d x.id .av ((hflags .av).1.trans hav)
      · exact service_onlyPreferred hr d x.id .rc ((hflags .rc).1.trans hrc)
    rw [preferred?_eq hdev] at hid
    obtain ⟨y, hy, hsame⟩ := Option.map_eq_some_iff.mp hid
    have hyx : y = x :=
      List.inj_on_of_nodup_map (hok.nodup hdev) (rsuDeviceGetContext_mem hy) hx hsame
    rw [hy, hyx]
  refine ⟨?_, hpreferred⟩
  cases hget : rsuDeviceGetContext dev with
  | none =>
      refine le_of_eq_of_le (List.countP_eq_zero.mpr fun x hx hany => ?_) (Nat.zero_le 1)
      rw [hpreferred x hx hany] at hget
      simp at hget
  | some y =>
      calc (dev.contexts.countP fun context => context.subscribedCm || context.subscribedAv ||
            context.subscribedRc) ≤ dev.contexts.count y := by
            refine List.countP_mono_left fun x hx hany => ?_
            rw [hpreferred x hx hany] at hget
            exact beq_iff_eq.mpr (Option.some.inj hget)
        _ ≤ 1 := List.nodup_iff_count_le_one.mp (hok.nodup hdev).of_map y

end Runs

/-- The second address of a renderer is a local one, and takes over. -/
theorem service_subscribedContext_twoAddresses :
    ∃ is w dev, (service true).Reaches is w ∧ w.devices 0 = some dev ∧
      dev.contexts.map DeviceContext.subscribedAv = [false, true] ∧
      (dev.contexts.countP fun context => context.subscribedCm || context.subscribedAv ||
        context.subscribedRc) ≤ 1 ∧
      ∀ x ∈ dev.contexts, (x.subscribedCm || x.subscribedAv || x.subscribedRc) = true →
        rsuDeviceGetContext dev = some x := by
  obtain ⟨is, w, hreaches, hflags⟩ := service_reaches_of_schedule true
    (oneRenderer ++ [.input (.available "uuid:r" "127.0.0.1" ⟨true, true, true⟩)])
    (p := fun w => (w.devices 0).map (fun dev => dev.contexts.map DeviceContext.subscribedAv) =
      some [false, true]) (by decide +kernel)
  obtain ⟨dev, hdev, hmap⟩ := Option.map_eq_some_iff.mp hflags
  exact ⟨is, w, dev, hreaches, hdev, hmap, service_subscribedContext hreaches hdev⟩

end RendererService
