import Mathlib

/-!
# Machines and their runs

A component with hidden state is a `Machine`: each call takes an input and the current state to a
new state and an output.  Everything the environment decides (results of system calls, bytes a
device delivers) is part of the input, so a run is a list of inputs and "for every run" is a
quantifier over lists.

Three rules carry the arguments of the components built on it:

* `run_keeps` — an invariant that every step meeting a condition keeps is kept by a run of such
  steps;
* `trace_forall_iff` — where an invariant makes a condition on a step equivalent to a property of
  it, and the property restores the invariant, all steps of a run meet the condition exactly when
  all have the property;
* `run_simulation` — related states that step to related states with matching outputs give runs
  with matching outputs; `run_simulation_of` asks this only of the steps that meet a condition.
-/

/-- A deterministic transition system with inputs in `ι` and outputs in `ω`. -/
structure Machine (σ ι ω : Type*) where
  step : σ → ι → σ × ω

namespace Machine

variable {σ τ ι ω ω' : Type*} (M : Machine σ ι ω) (N : Machine τ ι ω')

/-- The final state of a run and its outputs in order. -/
def run : σ → List ι → σ × List ω
  | s, [] => (s, [])
  | s, i :: is => ((run (M.step s i).1 is).1, (M.step s i).2 :: (run (M.step s i).1 is).2)

/-- The steps of a run: each input with the state it met. -/
def trace : σ → List ι → List (σ × ι)
  | _, [] => []
  | s, i :: is => (s, i) :: trace (M.step s i).1 is

/-- The machine that gets its inputs through `f`. -/
def comap {ι' : Type*} (f : ι' → ι) : Machine σ ι' ω := ⟨fun s i => M.step s (f i)⟩

variable {M N} {s : σ} {t : τ} {is : List ι}

lemma run_map {ι' : Type*} {f : ι' → ι} {js : List ι'} :
    M.run s (js.map f) = (M.comap f).run s js := by
  induction js generalizing s with
  | nil => rfl
  | cons j js ih => simp only [List.map_cons, run, ih, comap]

/-- The output of a step is that of the state which the steps before it have left. -/
lemma run_output {i : ι} {js : List ι} :
    (M.run s (is ++ i :: js)).2[is.length]? = some (M.step (M.run s is).1 i).2 := by
  induction is generalizing s with
  | nil => simp [run]
  | cons i' is ih => simp [run, ih]

/-- **The invariant rule.**  What steps under a condition keep, a run of such steps keeps. -/
theorem run_keeps {Inv : σ → Prop} {P : σ → ι → Prop}
    (hstep : ∀ s i, Inv s → P s i → Inv (M.step s i).1) (h : Inv s)
    (hall : ∀ p ∈ M.trace s is, P p.1 p.2) : Inv (M.run s is).1 := by
  induction is generalizing s with
  | nil => exact h
  | cons i is ih =>
      simp only [trace, List.forall_mem_cons] at hall
      exact ih (hstep s i h hall.1) hall.2

/-- **The exactness rule.**  A condition on steps that an invariant makes equivalent to a property
of them is, over a whole run, equivalent to that property, provided the property restores the
invariant. -/
theorem trace_forall_iff {Inv : σ → Prop} {C P : σ → ι → Prop}
    (hiff : ∀ s i, Inv s → (C s i ↔ P s i)) (hstep : ∀ s i, Inv s → P s i → Inv (M.step s i).1)
    (h : Inv s) : (∀ p ∈ M.trace s is, C p.1 p.2) ↔ ∀ p ∈ M.trace s is, P p.1 p.2 := by
  induction is generalizing s with
  | nil => simp [trace]
  | cons i is ih =>
      simp only [trace, List.forall_mem_cons]
      constructor
      · rintro ⟨hC, hrest⟩
        have hP := (hiff s i h).mp hC
        exact ⟨hP, (ih (hstep s i h hP)).mp hrest⟩
      · rintro ⟨hP, hrest⟩
        exact ⟨(hiff s i h).mpr hP, (ih (hstep s i h hP)).mpr hrest⟩

/-- **The simulation rule**, for a run whose steps meet a condition.  `obs` is what of the outputs
of `M` is compared with those of `N`. -/
theorem run_simulation_of {R : σ → τ → Prop} {P : σ → ι → Prop} {obs : ω → ω'}
    (hstep : ∀ s t i, R s t → P s i →
      R (M.step s i).1 (N.step t i).1 ∧ obs (M.step s i).2 = (N.step t i).2)
    (h : R s t) (hall : ∀ p ∈ M.trace s is, P p.1 p.2) :
    R (M.run s is).1 (N.run t is).1 ∧ (M.run s is).2.map obs = (N.run t is).2 := by
  induction is generalizing s t with
  | nil => exact ⟨h, rfl⟩
  | cons i is ih =>
      simp only [trace, List.forall_mem_cons] at hall
      obtain ⟨hR, hout⟩ := hstep s t i h hall.1
      obtain ⟨hlast, hmap⟩ := ih hR hall.2
      exact ⟨hlast, by simp only [run, List.map_cons, hout, hmap]⟩

/-- The simulation rule for every run. -/
theorem run_simulation {R : σ → τ → Prop} {obs : ω → ω'}
    (hstep : ∀ s t i, R s t →
      R (M.step s i).1 (N.step t i).1 ∧ obs (M.step s i).2 = (N.step t i).2)
    (h : R s t) : R (M.run s is).1 (N.run t is).1 ∧ (M.run s is).2.map obs = (N.run t is).2 :=
  run_simulation_of (P := fun _ _ => True) (fun s t i hR _ => hstep s t i hR) h
    fun _ _ => trivial

end Machine
