import Mathlib.Logic.Relation

/-!
# Labelled transition systems and their runs

A run records the labels it performed, so that a property may speak of the
inputs a system was given as well as of the state it ended in.  Two rules carry
every safety proof: `Reaches.invariant` for all runs, and `Reaches.restrict`
for the runs whose steps all meet a side condition.
-/

namespace Transition

variable {σ ι : Type*}

/-- A transition system: the states a run may start in and the labelled steps. -/
structure System (σ ι : Type*) where
  init : σ → Prop
  step : σ → ι → σ → Prop

/-- `T.Reaches is s`: some run of `T` performs the labels `is` and ends in `s`. -/
inductive System.Reaches (T : System σ ι) : List ι → σ → Prop
  | init {s : σ} : T.init s → T.Reaches [] s
  | step {is : List ι} {s s' : σ} {i : ι} :
      T.Reaches is s → T.step s i s' → T.Reaches (is ++ [i]) s'

/-- The runs of `T` whose steps all meet `C`. -/
def System.restrict (T : System σ ι) (C : σ → ι → Prop) : System σ ι where
  init := T.init
  step s i s' := C s i ∧ T.step s i s'

def System.Step (T : System σ ι) (s s' : σ) : Prop := ∃ i, T.step s i s'

abbrev System.Steps (T : System σ ι) : σ → σ → Prop :=
  Relation.ReflTransGen T.Step

namespace System

variable {T : System σ ι} {C D : σ → ι → Prop} {I J : σ → Prop}

theorem Reaches.invariant {is : List ι} {s : σ} (h : T.Reaches is s)
    (hinit : ∀ s, T.init s → I s)
    (hstep : ∀ s i s', I s → T.step s i s' → I s') : I s := by
  induction h with
  | init h0 => exact hinit _ h0
  | step _ hst ih => exact hstep _ _ _ ih hst

/-- An invariant that is preserved relative to one already known. -/
theorem Reaches.invariant_of {is : List ι} {s : σ} (h : T.Reaches is s)
    (hJ : ∀ is s, T.Reaches is s → J s)
    (hinit : ∀ s, T.init s → I s)
    (hstep : ∀ s i s', J s → I s → T.step s i s' → I s') : I s := by
  induction h with
  | init h0 => exact hinit _ h0
  | step hr hst ih => exact hstep _ _ _ (hJ _ _ hr) ih hst

/-- An invariant of the labels performed together with the state reached. -/
theorem Reaches.trace_invariant {P : List ι → σ → Prop} {is : List ι} {s : σ}
    (h : T.Reaches is s) (hinit : ∀ s, T.init s → P [] s)
    (hstep : ∀ is s i s', T.Reaches is s → P is s → T.step s i s' →
      P (is ++ [i]) s') : P is s := by
  induction h with
  | init h0 => exact hinit _ h0
  | step hr hst ih => exact hstep _ _ _ _ hr ih hst

theorem Reaches.of_restrict {is : List ι} {s : σ}
    (h : (T.restrict C).Reaches is s) : T.Reaches is s := by
  induction h with
  | init h0 => exact .init h0
  | step _ hst ih => exact ih.step hst.2

/-- A condition that always holds leaves every run. -/
theorem Reaches.restrict_of_forall {is : List ι} {s : σ} (h : T.Reaches is s)
    (hC : ∀ s i, C s i) : (T.restrict C).Reaches is s := by
  induction h with
  | init h0 => exact .init h0
  | step _ hst ih => exact ih.step ⟨hC _ _, hst⟩

/-- A weaker condition leaves the runs of a stronger one. -/
theorem Reaches.restrict_mono {is : List ι} {s : σ} (h : (T.restrict C).Reaches is s)
    (hC : ∀ s i, C s i → D s i) : (T.restrict D).Reaches is s := by
  induction h with
  | init h0 => exact .init h0
  | step _ hst ih => exact ih.step ⟨hC _ _ hst.1, hst.2⟩

theorem Reaches.steps {is : List ι} {s s' : σ} (h : T.Reaches is s)
    (hs : T.Steps s s') : ∃ js, T.Reaches (is ++ js) s' := by
  induction hs with
  | refl => exact ⟨[], by simpa using h⟩
  | tail _ hst ih =>
      obtain ⟨js, hjs⟩ := ih
      obtain ⟨i, hi⟩ := hst
      exact ⟨js ++ [i], by simpa [List.append_assoc] using hjs.step hi⟩

theorem Steps.single {s s' : σ} {i : ι} (h : T.step s i s') : T.Steps s s' :=
  Relation.ReflTransGen.single ⟨i, h⟩

theorem Steps.invariant {s s' : σ} (h : T.Steps s s') (hs : I s)
    (hstep : ∀ s i s', I s → T.step s i s' → I s') : I s' := by
  induction h with
  | refl => exact hs
  | tail _ hst ih =>
      obtain ⟨i, hi⟩ := hst
      exact hstep _ _ _ ih hi

/-- `T.Through p s is s'`: a run of `T` from `s` performs the labels `is`, passes only
states with `p`, and ends in `s'`. -/
inductive Through (T : System σ ι) (p : σ → Prop) (s : σ) : List ι → σ → Prop
  | refl : p s → Through T p s [] s
  | step {is : List ι} {s' s'' : σ} {i : ι} :
      Through T p s is s' → T.step s' i s'' → p s'' → Through T p s (is ++ [i]) s''

theorem Through.reaches {p : σ → Prop} {is js : List ι} {s s' : σ}
    (hthrough : T.Through p s js s') (h : T.Reaches is s) : T.Reaches (is ++ js) s' := by
  induction hthrough with
  | refl _ => rwa [List.append_nil]
  | step _ hst _ ih =>
      rw [← List.append_assoc]
      exact ih.step hst

theorem Through.last {p : σ → Prop} {is : List ι} {s s' : σ} (h : T.Through p s is s') :
    p s' := by
  cases h with
  | refl hp => exact hp
  | step _ _ hp => exact hp

end System

/-! ## Systems given by an executable step function -/

/-- The system that starts in `s₀` and steps by a partial function. -/
def System.ofFun (s₀ : σ) (f : σ → ι → Option σ) : System σ ι where
  init s := s = s₀
  step s i s' := f s i = some s'

/-- Perform a list of labels, if all of them are enabled. -/
def runFrom (f : σ → ι → Option σ) : List ι → σ → Option σ
  | [], s => some s
  | i :: is, s => (f s i).bind (runFrom f is)

theorem reaches_runFrom {s₀ : σ} {f : σ → ι → Option σ} (js : List ι) :
    ∀ {is : List ι} {s s' : σ}, (System.ofFun s₀ f).Reaches is s →
      runFrom f js s = some s' → (System.ofFun s₀ f).Reaches (is ++ js) s' := by
  induction js with
  | nil =>
      intro is s s' h hrun
      cases hrun
      simpa using h
  | cons j js ih =>
      intro is s s' h hrun
      obtain ⟨t, ht, hrest⟩ := Option.bind_eq_some_iff.mp hrun
      have hstep : (System.ofFun s₀ f).Reaches (is ++ [j]) t := h.step ht
      simpa [List.append_assoc] using ih hstep hrest

/-- What an execution from the initial state computes is reached by a run. -/
theorem reaches_of_run {s₀ s : σ} {f : σ → ι → Option σ} {is : List ι}
    (h : runFrom f is s₀ = some s) : (System.ofFun s₀ f).Reaches is s := by
  simpa using reaches_runFrom is (System.Reaches.init rfl) h

/-- A list of labels that is performed is a sequence of steps. -/
theorem steps_runFrom {T : System σ ι} {f : σ → ι → Option σ}
    (hf : ∀ s i s', f s i = some s' → T.step s i s') (is : List ι) {s s' : σ}
    (h : runFrom f is s = some s') : T.Steps s s' := by
  induction is generalizing s with
  | nil =>
      obtain rfl := Option.some.inj h
      exact .refl
  | cons i is ih =>
      obtain ⟨t, ht, hrest⟩ := Option.bind_eq_some_iff.mp h
      exact Relation.ReflTransGen.head ⟨i, hf s i t ht⟩ (ih hrest)

/-- What a run wrote down beside its state: `g` is told every step. -/
def ghost {γ : Type*} (s₀ : σ) (f : σ → ι → Option σ) (g : σ → ι → σ → γ → γ) (c₀ : γ)
    (is : List ι) : γ :=
  (is.foldl (fun sc i => ((f sc.1 i).getD sc.1, g sc.1 i ((f sc.1 i).getD sc.1) sc.2))
    (s₀, c₀)).2

theorem ghost_snoc {γ : Type*} {s₀ s s' : σ} {f : σ → ι → Option σ} {g : σ → ι → σ → γ → γ}
    {c₀ : γ} {is : List ι} {i : ι} (h : (System.ofFun s₀ f).Reaches is s)
    (hst : (System.ofFun s₀ f).step s i s') :
    ghost s₀ f g c₀ (is ++ [i]) = g s i s' (ghost s₀ f g c₀ is) := by
  have hstate : ∀ {is : List ι} {s : σ}, (System.ofFun s₀ f).Reaches is s →
      (is.foldl (fun sc i => ((f sc.1 i).getD sc.1, g sc.1 i ((f sc.1 i).getD sc.1) sc.2))
        (s₀, c₀)).1 = s := by
    intro is s h
    induction h with
    | init h0 => exact h0.symm
    | @step is s s' i _ hst ih =>
        have hsome : f s i = some s' := hst
        simp [ih, hsome]
  have hsome : f s i = some s' := hst
  simp [ghost, hstate h, hsome]

/-- Perform the labels that a schedule picks, each from the state reached so far. -/
def runSchedule (f : σ → ι → Option σ) : List (σ → Option ι) → σ → Option σ
  | [], s => some s
  | c :: cs, s => (c s).bind fun i => (f s i).bind (runSchedule f cs)

theorem runFrom_of_runSchedule {f : σ → ι → Option σ} (cs : List (σ → Option ι)) :
    ∀ {s s' : σ}, runSchedule f cs s = some s' → ∃ is, runFrom f is s = some s' := by
  induction cs with
  | nil =>
      intro s s' h
      exact ⟨[], h⟩
  | cons c cs ih =>
      intro s s' h
      obtain ⟨i, -, hi⟩ := Option.bind_eq_some_iff.mp h
      obtain ⟨t, ht, hrest⟩ := Option.bind_eq_some_iff.mp hi
      obtain ⟨is, his⟩ := ih hrest
      exact ⟨i :: is, Option.bind_eq_some_iff.mpr ⟨t, ht, his⟩⟩

/-- A schedule that ends in a state with `p` is a run to such a state. -/
theorem reaches_of_schedule {s₀ : σ} {f : σ → ι → Option σ} (cs : List (σ → Option ι))
    {p : σ → Prop} [DecidablePred p]
    (h : ((runSchedule f cs s₀).any fun s => decide (p s)) = true) :
    ∃ is s, (System.ofFun s₀ f).Reaches is s ∧ p s := by
  obtain ⟨s, hs, hp⟩ := (Option.any_eq_true _ _).mp h
  obtain ⟨is, his⟩ := runFrom_of_runSchedule cs hs
  exact ⟨is, s, reaches_of_run his, of_decide_eq_true hp⟩

/-- A step function whose steps all meet a side condition. -/
def guarded (C : σ → ι → Prop) [∀ s i, Decidable (C s i)] (f : σ → ι → Option σ) :
    σ → ι → Option σ :=
  fun s i => if C s i then f s i else none

theorem step_guarded {s₀ s s' : σ} {i : ι} {f : σ → ι → Option σ} {C : σ → ι → Prop}
    [∀ s i, Decidable (C s i)] (h : guarded C f s i = some s') :
    ((System.ofFun s₀ f).restrict C).step s i s' := by
  unfold guarded at h
  split at h
  next hC => exact ⟨hC, h⟩
  · simp at h

theorem reaches_guarded {s₀ : σ} {f : σ → ι → Option σ} {C : σ → ι → Prop}
    [∀ s i, Decidable (C s i)] {is : List ι} {s : σ}
    (h : (System.ofFun s₀ (guarded C f)).Reaches is s) :
    ((System.ofFun s₀ f).restrict C).Reaches is s := by
  induction h with
  | init h0 => exact .init h0
  | step _ hst ih => exact ih.step (step_guarded hst)

/-- A run whose steps all meet the side condition. -/
theorem reaches_of_guarded {s₀ : σ} {f : σ → ι → Option σ} {C : σ → ι → Prop}
    [∀ s i, Decidable (C s i)] (is : List ι) {p : σ → Prop} [DecidablePred p]
    (h : ((runFrom (guarded C f) is s₀).any fun s => decide (p s)) = true) :
    ∃ s, ((System.ofFun s₀ f).restrict C).Reaches is s ∧ p s := by
  obtain ⟨s, hrun, hp⟩ := (Option.any_eq_true _ _).mp h
  exact ⟨s, reaches_guarded (reaches_of_run hrun), of_decide_eq_true hp⟩

/-- A list of labels whose steps all meet the side condition, and where it leads. -/
theorem steps_guarded {s₀ s : σ} {f : σ → ι → Option σ} {C : σ → ι → Prop}
    [∀ s i, Decidable (C s i)] (is : List ι) {p : σ → Prop} [DecidablePred p]
    (h : ((runFrom (guarded C f) is s).any fun s' => decide (p s')) = true) :
    ∃ s', ((System.ofFun s₀ f).restrict C).Steps s s' ∧ p s' := by
  obtain ⟨s', hrun, hp⟩ := (Option.any_eq_true _ _).mp h
  exact ⟨s', steps_runFrom (fun _ _ _ => step_guarded) is hrun, of_decide_eq_true hp⟩

end Transition
