import Mathlib.Algebra.GroupWithZero.Nat
import RendererService.Lib.Transition

/-!
# Paying for steps in advance

A potential pays for the work of a system: every input may raise it by what the
input costs, and every step that counts as work lowers it.  Then the work of a
run is bounded by its inputs, and without inputs the system comes to rest.
-/

namespace Transition

variable {σ ι : Type*}

/-- The potential `μ` pays for the steps of `T` whose labels are `work`, and `cost` is what
a label may add to it. -/
structure System.Pays (T : System σ ι) (J : σ → Prop) (work : ι → Bool) (cost : ι → Nat)
    (μ : σ → Nat) : Prop where
  step : ∀ s i s', J s → T.step s i s' →
    J s' ∧ μ s' + (if work i then 1 else 0) ≤ μ s + cost i

namespace System

variable {T : System σ ι} {J p : σ → Prop} {work : ι → Bool} {cost : ι → Nat} {μ : σ → Nat}
  {is js : List ι} {s s' : σ}

theorem Pays.through (hpays : T.Pays J work cost μ) (hs : J s) (h : T.Through p s js s') :
    J s' ∧ js.countP work + μ s' ≤ μ s + (js.map cost).sum := by
  induction h with
  | refl _ => simpa using hs
  | @step js s₁ s₂ i _ hst _ ih =>
      obtain ⟨hJ, hbound⟩ := ih
      obtain ⟨hJ', hstep⟩ := hpays.step s₁ i s₂ hJ hst
      refine ⟨hJ', ?_⟩
      rw [List.countP_append, List.countP_singleton, List.map_append, List.sum_append,
        List.map_singleton, List.sum_singleton]
      omega

theorem Reaches.through (h : T.Reaches is s) :
    ∃ s₀, T.init s₀ ∧ T.Through (fun _ => True) s₀ is s := by
  induction h with
  | init h0 => exact ⟨_, h0, .refl trivial⟩
  | step _ hst ih =>
      obtain ⟨s₀, h0, hthrough⟩ := ih
      exact ⟨s₀, h0, hthrough.step hst trivial⟩

/-- The work of a run is bounded by what its inputs cost. -/
theorem Pays.reaches (hpays : T.Pays J work cost μ) (hinit : ∀ s, T.init s → J s ∧ μ s = 0)
    (h : T.Reaches is s) : is.countP work + μ s ≤ (is.map cost).sum := by
  obtain ⟨s₀, h0, hthrough⟩ := h.through
  obtain ⟨hJ, hzero⟩ := hinit s₀ h0
  have hbound := (hpays.through hJ hthrough).2
  omega

/-- Steps that cost nothing and are all work are at most as many as the potential pays for. -/
theorem Pays.length_le (hpays : T.Pays J work cost μ) (hs : J s) (h : T.Through p s js s')
    (hwork : ∀ i ∈ js, work i = true) (hfree : ∀ i ∈ js, cost i = 0) :
    js.length + μ s' ≤ μ s := by
  have hbound := (hpays.through hs h).2
  have hcount : js.countP work = js.length := List.countP_eq_length.mpr hwork
  have hcost : (js.map cost).sum = 0 := by
    rw [List.sum_eq_zero_iff_forall_eq_nat]
    intro n hn
    obtain ⟨i, hi, rfl⟩ := List.mem_map.mp hn
    exact hfree i hi
  omega

theorem Through.cons {i : ι} {s₁ : σ} (hs : p s) (hst : T.step s i s₁)
    (h : T.Through p s₁ js s') : T.Through p s (i :: js) s' := by
  induction h with
  | refl hp => exact (Through.refl hs).step hst hp
  | step _ hst' hp ih => exact ih.step hst' hp

/-- Work goes on until none is left that could be done. -/
theorem Pays.comes_to_rest (hpays : T.Pays J work cost μ) (hfree : ∀ i, work i = true → cost i = 0)
    (hs : J s) :
    ∃ js s', T.Through (fun _ => True) s js s' ∧ (∀ i ∈ js, work i = true) ∧
      ∀ i s'', work i = true → ¬T.step s' i s'' := by
  induction hn : μ s using Nat.strongRecOn generalizing s with
  | ind n ih =>
      by_cases hrest : ∀ i s'', work i = true → ¬T.step s i s''
      · exact ⟨[], s, .refl trivial, by simp, hrest⟩
      · obtain ⟨i, s₁, hwork, hst⟩ : ∃ i s₁, work i = true ∧ T.step s i s₁ := by
          simpa only [Classical.not_forall, Classical.not_not, exists_prop] using hrest
        obtain ⟨hJ, hstep⟩ := hpays.step s i s₁ hs hst
        rw [if_pos hwork, hfree i hwork] at hstep
        obtain ⟨js, s', hthrough, hall, hlast⟩ := ih (μ s₁) (by omega) hJ rfl
        exact ⟨i :: js, s', hthrough.cons trivial hst,
          List.forall_mem_cons.mpr ⟨hwork, hall⟩, hlast⟩

end System

end Transition
