/-
An atomic flag that any number of contexts test and set, and clear: the
operations made on it, newest first, each with the value it found.

* `Coherent.wins_eq`: every win but the last was undone.
* `Coherent.wins_le_one`: between two clears there is at most one.
-/
import Mathlib.Data.List.Basic

namespace Flags

/-- `atomic_test_and_set_bit` and `atomic_clear_bit`, with the value before. -/
inductive Op where
  | testAndSet (was : Bool)
  | clear (was : Bool)
deriving DecidableEq, Repr

/-- The operations go together: each found the value the one before left. -/
inductive Coherent : List Op → Bool → Prop where
  | nil : Coherent [] false
  | testAndSet {ops value} (h : Coherent ops value) : Coherent (.testAndSet value :: ops) true
  | clear {ops value} (h : Coherent ops value) : Coherent (.clear value :: ops) false

/-- How often the flag was found clear and set. -/
def wins (ops : List Op) : Nat := ops.countP (· = .testAndSet false)

/-- How often the flag was found set and cleared. -/
def resets (ops : List Op) : Nat := ops.countP (· = .clear true)

/-- The operation clears the flag. -/
def Op.clears : Op → Bool
  | .testAndSet _ => false
  | .clear _ => true

variable {ops later earlier : List Op} {value : Bool}

@[simp] theorem wins_nil : wins [] = 0 := rfl

@[simp] theorem resets_nil : resets [] = 0 := rfl

@[simp] theorem wins_append : wins (later ++ earlier) = wins later + wins earlier :=
  List.countP_append

@[simp] theorem resets_append : resets (later ++ earlier) = resets later + resets earlier :=
  List.countP_append

/-- **Each win is undone before the next.** -/
theorem Coherent.wins_eq (h : Coherent ops value) : wins ops = resets ops + value.toNat := by
  induction h with
  | nil => rfl
  | @testAndSet ops value h ih =>
    cases value <;> simp_all [wins, resets]
  | @clear ops value h ih =>
    cases value <;> simp_all [wins, resets]

theorem Coherent.split (h : Coherent (later ++ earlier) value) : ∃ value', Coherent earlier value' := by
  induction later generalizing value with
  | nil => exact ⟨value, h⟩
  | cons op later ih =>
    cases h with
    | testAndSet h => exact ih h
    | clear h => exact ih h

theorem resets_eq_zero (h : ∀ op ∈ ops, op.clears = false) : resets ops = 0 := by
  refine List.countP_eq_zero.mpr fun op hop heq => ?_
  have hclear := h op hop
  rw [of_decide_eq_true heq] at hclear
  cases hclear

theorem resets_le_clears (ops : List Op) : resets ops ≤ ops.countP Op.clears := by
  refine List.countP_mono_left fun op _ h => ?_
  rw [of_decide_eq_true h]
  rfl

/-- **Between two clears the flag is won at most once.** -/
theorem Coherent.wins_le_one (h : Coherent (later ++ earlier) value)
    (hno : ∀ op ∈ later, op.clears = false) : wins later ≤ 1 := by
  obtain ⟨value', hearlier⟩ := h.split
  have hall := h.wins_eq
  have hpart := hearlier.wins_eq
  have hzero := resets_eq_zero hno
  have hvalue : value.toNat ≤ 1 := Bool.toNat_le value
  rw [wins_append, resets_append] at hall
  omega

end Flags
