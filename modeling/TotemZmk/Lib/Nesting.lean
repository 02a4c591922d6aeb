/-
Marks that open and close, newest first: what is open after them, the last
opened first, if each close was of that.

* `opened_cons`: an item goes on from what was open.
* `count_opens`: each mark that opens is open still, or closed.
-/
import Mathlib.Data.List.Basic

namespace Nesting

/-- What an item marks. -/
inductive Mark (κ : Type) where
  | none
  | opens (k : κ)
  | closes (k : κ)
deriving DecidableEq, Repr

variable {α κ : Type} [DecidableEq κ]

/-- What is open after a mark. -/
def Mark.next : Mark κ → List κ → Option (List κ)
  | .none, stack => .some stack
  | .opens k, stack => .some (k :: stack)
  | .closes _, [] => Option.none
  | .closes k, k' :: stack => if k = k' then .some stack else Option.none

/-- What is open after the items. -/
def opened (mark : α → Mark κ) : List α → Option (List κ)
  | [] => .some []
  | a :: items => (opened mark items).bind (mark a).next

/-- How often `k` was opened, and closed. -/
def opens (mark : α → Mark κ) (k : κ) (items : List α) : Nat :=
  items.countP fun a => mark a = .opens k

def closes (mark : α → Mark κ) (k : κ) (items : List α) : Nat :=
  items.countP fun a => mark a = .closes k

variable {mark : α → Mark κ} {items : List α} {stack : List κ}

@[simp] theorem opened_nil : opened mark [] = .some [] := rfl

theorem opened_cons {a : α} (h : opened mark items = .some stack) :
    opened mark (a :: items) = (mark a).next stack := by
  simp [opened, h]

theorem opened_quiet {later : List α} (hquiet : ∀ a ∈ later, mark a = .none)
    (h : opened mark items = .some stack) : opened mark (later ++ items) = .some stack := by
  induction later with
  | nil => exact h
  | cons a later ih =>
    have hlater := ih fun a' ha => hquiet a' (List.mem_cons_of_mem _ ha)
    rw [List.cons_append, opened_cons hlater, hquiet a List.mem_cons_self]
    rfl

theorem next_closes {k : κ} {stack' : List κ} (h : (Mark.closes k).next stack = .some stack') :
    stack = k :: stack' := by
  cases stack with
  | nil => cases h
  | cons k' rest =>
    simp only [Mark.next] at h
    split at h
    · rename_i he
      cases h
      rw [he]
    · cases h

/-- **Each mark that opens is open still, or closed.** -/
theorem count_opens (h : opened mark items = .some stack) (k : κ) :
    opens mark k items = closes mark k items + stack.count k := by
  induction items generalizing stack with
  | nil =>
    cases h
    rfl
  | cons a items ih =>
    obtain ⟨before, hbefore, hnext⟩ := Option.bind_eq_some_iff.mp h
    have hcount := ih hbefore
    cases ha : mark a with
    | none =>
      rw [ha] at hnext
      cases hnext
      simpa [opens, closes, ha] using hcount
    | opens k' =>
      rw [ha] at hnext
      cases hnext
      by_cases he : k' = k
      · simp [opens, closes, ha, he] at hcount ⊢
        omega
      · simpa [opens, closes, ha, he, List.count_cons_of_ne he] using hcount
    | closes k' =>
      rw [ha] at hnext
      rw [next_closes hnext] at hcount
      by_cases he : k' = k
      · simp [opens, closes, ha, he] at hcount ⊢
        omega
      · simpa [opens, closes, ha, he, List.count_cons_of_ne he] using hcount

end Nesting
