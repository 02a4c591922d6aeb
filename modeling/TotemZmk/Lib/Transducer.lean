/-
Transducers: a step takes a state and an input to the next state and to what
it puts out, and a run feeds it inputs one after the other.

* `run_append`, `runEach_eq`: where the inputs are cut makes no difference.
* `Alongside.eq`: two that keep a relation and put out the same at each step do
  so over whole runs.
* `run_latch`: what some inputs set and others clear holds exactly when it was
  set and not cleared since.
-/
import Mathlib.Data.List.Induction

namespace Transducer

variable {σ τ ι κ ω : Type} {step : σ → ι → σ × List ω} {s : σ}

/-- Feed the inputs: the last state, and all that was put out. -/
def run (step : σ → ι → σ × List ω) : σ → List ι → σ × List ω
  | s, [] => (s, [])
  | s, i :: is =>
    let next := step s i
    let rest := run step next.1 is
    (rest.1, next.2 ++ rest.2)

@[simp] theorem run_nil (s : σ) : run step s [] = (s, []) := rfl

theorem run_cons (s : σ) (i : ι) (is : List ι) : run step s (i :: is) =
    ((run step (step s i).1 is).1, (step s i).2 ++ (run step (step s i).1 is).2) := rfl

theorem run_append (s : σ) (is is' : List ι) : run step s (is ++ is') =
    ((run step (run step s is).1 is').1, (run step s is).2 ++ (run step (run step s is).1 is').2) := by
  induction is generalizing s with
  | nil => rfl
  | cons i is ih => rw [List.cons_append, run_cons, ih, run_cons, List.append_assoc]

theorem run_concat (s : σ) (is : List ι) (i : ι) :
    (run step s (is ++ [i])).1 = (step (run step s is).1 i).1 := by
  rw [run_append]
  rfl

/-- Feed inputs that come in chunks. -/
def runEach (step : σ → ι → σ × List ω) : σ → List (List ι) → σ × List ω
  | s, [] => (s, [])
  | s, chunk :: chunks =>
    let next := run step s chunk
    let rest := runEach step next.1 chunks
    (rest.1, next.2 ++ rest.2)

/-- **Chunks are fed as their inputs are.** -/
theorem runEach_eq (s : σ) (chunks : List (List ι)) :
    runEach step s chunks = run step s chunks.flatten := by
  induction chunks generalizing s with
  | nil => rfl
  | cons chunk chunks ih =>
    rw [List.flatten_cons, run_append]
    unfold runEach
    dsimp only
    rw [ih]

/-! ## Two runs -/

/-- Two runs whose inputs meet `C` at each step, in the states they have then. -/
inductive Alongside (step : σ → ι → σ × List ω) (step' : τ → κ → τ × List ω)
    (C : σ → τ → ι → κ → Prop) : σ → τ → List ι → List κ → Prop where
  | nil {s t} : Alongside step step' C s t [] []
  | cons {s t i k is ks} (hc : C s t i k)
      (h : Alongside step step' C (step s i).1 (step' t k).1 is ks) :
    Alongside step step' C s t (i :: is) (k :: ks)

/-- **Two transducers put out the same** where each step keeps a relation of the states
and puts out the same. -/
theorem Alongside.eq {step' : τ → κ → τ × List ω} {C : σ → τ → ι → κ → Prop} {R : σ → τ → Prop}
    {t : τ} {is : List ι} {ks : List κ} (h : Alongside step step' C s t is ks) (hR : R s t)
    (hstep : ∀ s t i k, R s t → C s t i k →
      R (step s i).1 (step' t k).1 ∧ (step s i).2 = (step' t k).2) :
    R (run step s is).1 (run step' t ks).1 ∧ (run step s is).2 = (run step' t ks).2 := by
  induction h with
  | nil => exact ⟨hR, rfl⟩
  | @cons s t i k is ks hc h ih =>
    obtain ⟨hnext, hout⟩ := hstep s t i k hR hc
    obtain ⟨hlast, hrest⟩ := ih hnext
    rw [run_cons, run_cons]
    exact ⟨hlast, by rw [hout, hrest]⟩

/-- Two runs of the same inputs, if `C` holds wherever they are cut. -/
theorem Alongside.same {step' : τ → ι → τ × List ω} {C : σ → τ → ι → ι → Prop} {t : τ} (is : List ι)
    (h : ∀ before i after, is = before ++ i :: after →
      C (run step s before).1 (run step' t before).1 i i) : Alongside step step' C s t is is := by
  induction is generalizing s t with
  | nil => exact .nil
  | cons i is ih =>
    refine .cons (h [] i is rfl) (ih fun before j after he => ?_)
    exact h (i :: before) j after (congrArg (i :: ·) he)

/-! ## Latches -/

/-- **What some inputs set and others clear** holds after a run exactly when one
set it and all later ones left it. -/
theorem run_latch {P : σ → Prop} {sets : σ → ι → Prop} {keeps : ι → Prop} (h0 : ¬P s)
    (hstep : ∀ s i, P (step s i).1 ↔ sets s i ∨ P s ∧ keeps i) (is : List ι) :
    P (run step s is).1 ↔ ∃ before i after, is = before ++ i :: after ∧
      sets (run step s before).1 i ∧ ∀ x ∈ after, keeps x := by
  induction is using List.reverseRecOn with
  | nil =>
    refine ⟨fun h => absurd h h0, ?_⟩
    intro hx
    obtain ⟨before, i, after, he, -⟩ := hx
    simp at he
  | append_singleton is i ih =>
    rw [run_concat, hstep, ih]
    refine ⟨?_, ?_⟩
    · rintro (hset | ⟨⟨before, j, after, rfl, hset, hkeeps⟩, hkeep⟩)
      · exact ⟨is, i, [], rfl, hset, fun x hx => absurd hx List.not_mem_nil⟩
      · refine ⟨before, j, after ++ [i], by simp, hset, fun x hx => ?_⟩
        rcases List.mem_append.mp hx with hx | hx
        · exact hkeeps x hx
        · rw [List.mem_singleton.mp hx]
          exact hkeep
    · intro hx
      obtain ⟨before, j, after, he, hset, hkeeps⟩ := hx
      rcases List.eq_nil_or_concat after with rfl | ⟨after, x, rfl⟩
      · obtain ⟨rfl, hlast⟩ := List.append_inj' he rfl
        cases hlast
        exact .inl hset
      · rw [List.concat_eq_append] at he hkeeps
        rw [← List.cons_append, ← List.append_assoc] at he
        obtain ⟨rfl, hlast⟩ := List.append_inj' he rfl
        cases hlast
        refine .inr ⟨⟨before, j, after, rfl, hset, fun y hy => hkeeps y ?_⟩, hkeeps _ ?_⟩
        · exact List.mem_append_left _ hy
        · exact List.mem_append_right _ (List.mem_singleton.mpr rfl)

end Transducer
