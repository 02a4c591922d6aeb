/-
Runs of a step relation whose steps may be observed, with what was observed of
them, newest first.

* `Run.invariant`: what the first state satisfies and every step keeps holds
  after every run.
* `Run.split`: before each thing observed there is the step that showed it.
* `RunWhere`: the runs whose steps all meet a condition, with the same rules.
-/
import Mathlib.Data.List.Basic

namespace Trace

variable {σ ω : Type}

/-- The states a run from `s₀` reaches, with what it let be observed. -/
inductive Run (step : σ → Option ω → σ → Prop) (s₀ : σ) : List ω → σ → Prop where
  | refl : Run step s₀ [] s₀
  | step {h s o s'} (hr : Run step s₀ h s) (hs : step s o s') : Run step s₀ (o.toList ++ h) s'

namespace Run

variable {step : σ → Option ω → σ → Prop} {s₀ s s' : σ} {h h' : List ω}

theorem quiet (hr : Run step s₀ h s) (hs : step s .none s') : Run step s₀ h s' := hr.step hs

theorem shows {x : ω} (hr : Run step s₀ h s) (hs : step s (.some x) s') :
    Run step s₀ (x :: h) s' := hr.step hs

theorem trans (hr : Run step s₀ h s) (hr' : Run step s h' s') : Run step s₀ (h' ++ h) s' := by
  induction hr' with
  | refl => exact hr
  | step _ hs ih =>
    rw [List.append_assoc]
    exact ih.step hs

/-- **Invariants.** A property of the history and the state that holds at
first and that each step keeps. -/
theorem invariant {P : List ω → σ → Prop} (hr : Run step s₀ h s) (h0 : P [] s₀)
    (hstep : ∀ {h s o s'}, P h s → step s o s' → P (o.toList ++ h) s') : P h s := by
  induction hr with
  | refl => exact h0
  | step _ hs ih => exact hstep ih hs

theorem invariant_with {P Q : List ω → σ → Prop} (hr : Run step s₀ h s)
    (hP : ∀ {h s}, Run step s₀ h s → P h s) (h0 : Q [] s₀)
    (hstep : ∀ {h s o s'}, P h s → Q h s → step s o s' → Q (o.toList ++ h) s') : Q h s := by
  induction hr with
  | refl => exact h0
  | step hr hs ih => exact hstep (hP hr) ih hs

/-- **The step that showed `x`**, in the middle of a run. -/
theorem split {later earlier : List ω} {x : ω} (hr : Run step s₀ h s)
    (he : h = later ++ x :: earlier) :
    ∃ s₁ s₂, Run step s₀ earlier s₁ ∧ step s₁ (.some x) s₂ ∧ Run step s₂ later s := by
  induction hr generalizing later with
  | refl => simp at he
  | @step h s o s' hr hs ih =>
    cases o with
    | none =>
      obtain ⟨s₁, s₂, h₁, h₂, h₃⟩ := ih he
      exact ⟨s₁, s₂, h₁, h₂, h₃.quiet hs⟩
    | some y =>
      cases later with
      | nil =>
        cases he
        exact ⟨s, s', hr, hs, .refl⟩
      | cons z later =>
        simp only [Option.toList_some, List.cons_append, List.nil_append, List.cons.injEq] at he
        obtain ⟨rfl, he⟩ := he
        obtain ⟨s₁, s₂, h₁, h₂, h₃⟩ := ih he
        exact ⟨s₁, s₂, h₁, h₂, h₃.shows hs⟩

end Run

/-- The runs each of whose steps meets `C`, a condition on what was observed
before, on the state before, and on what the step shows. -/
inductive RunWhere (step : σ → Option ω → σ → Prop) (C : List ω → σ → Option ω → Prop) (s₀ : σ) :
    List ω → σ → Prop where
  | refl : RunWhere step C s₀ [] s₀
  | step {h s o s'} (hr : RunWhere step C s₀ h s) (hs : step s o s') (hc : C h s o) :
    RunWhere step C s₀ (o.toList ++ h) s'

namespace RunWhere

variable {step : σ → Option ω → σ → Prop} {C : List ω → σ → Option ω → Prop} {s₀ s s' : σ}
  {h : List ω}

theorem run (hr : RunWhere step C s₀ h s) : Run step s₀ h s := by
  induction hr with
  | refl => exact .refl
  | step _ hs _ ih => exact ih.step hs

theorem quiet (hr : RunWhere step C s₀ h s) (hs : step s .none s') (hc : C h s .none) :
    RunWhere step C s₀ h s' := hr.step hs hc

theorem shows {x : ω} (hr : RunWhere step C s₀ h s) (hs : step s (.some x) s')
    (hc : C h s (.some x)) : RunWhere step C s₀ (x :: h) s' := hr.step hs hc

theorem invariant {P : List ω → σ → Prop} (hr : RunWhere step C s₀ h s) (h0 : P [] s₀)
    (hstep : ∀ {h s o s'}, P h s → step s o s' → C h s o → P (o.toList ++ h) s') : P h s := by
  induction hr with
  | refl => exact h0
  | step _ hs hc ih => exact hstep ih hs hc

theorem split {later earlier : List ω} {x : ω} (hr : RunWhere step C s₀ h s)
    (he : h = later ++ x :: earlier) :
    ∃ s₁ s₂, RunWhere step C s₀ earlier s₁ ∧ step s₁ (.some x) s₂ ∧ C earlier s₁ (.some x) := by
  induction hr generalizing later with
  | refl => simp at he
  | @step h s o s' hr hs hc ih =>
    cases o with
    | none => exact ih he
    | some y =>
      cases later with
      | nil =>
        cases he
        exact ⟨s, s', hr, hs, hc⟩
      | cons z later =>
        simp only [Option.toList_some, List.cons_append, List.nil_append, List.cons.injEq] at he
        exact ih he.2

end RunWhere

end Trace
