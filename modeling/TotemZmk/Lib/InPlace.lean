/-
Loops that rewrite an array in place, one checked access at a time: a step that
would leave the array answers `.none`.

* `compact_eq`: keeping what satisfies a test, in the cells before it.
* `shiftDown_eq`: moving cells one place down.
-/
import Mathlib.Data.List.Basic

namespace InPlace

variable {α : Type} {cap : Nat}

/-- Write a cell, if there is one. -/
def store (i : Nat) (x : α) (cells : Vector α cap) : Option (Vector α cap) :=
  if h : i < cap then .some (cells.set i x h) else .none

theorem store_eq {i : Nat} (h : i < cap) (x : α) (cells : Vector α cap) :
    store i x cells = .some (cells.set i x h) := dif_pos h

theorem take_set {i : Nat} (h : i < cap) (x : α) (cells : Vector α cap) :
    (cells.set i x h).toList.take (i + 1) = cells.toList.take i ++ [x] := by
  rw [Vector.toList_set, List.take_add_one, List.getElem?_set_self (by simpa using h),
    List.take_set_of_le (Nat.le_refl i)]
  rfl

theorem drop_set {i j : Nat} (h : i < cap) (hlt : i < j) (x : α) (cells : Vector α cap) :
    (cells.set i x h).toList.drop j = cells.toList.drop j := by
  rw [Vector.toList_set, List.drop_set_of_lt hlt]

theorem drop_eq_cons {i : Nat} (h : i < cap) (cells : Vector α cap) :
    cells.toList.drop i = cells[i] :: cells.toList.drop (i + 1) := by
  rw [List.drop_eq_getElem_cons (by simpa using h)]
  simp

/-- A loop that keeps the cells which satisfy `p`, moved down to close the gaps:
`todo` rounds from the `i`-th cell on, `kept` so far. -/
def compact (p : α → Bool) : Nat → Nat → Nat → Vector α cap → Option (Vector α cap × Nat)
  | 0, _, kept, cells => .some (cells, kept)
  | todo + 1, i, kept, cells => do
    let x ← cells[i]?
    if p x then
      let cells ← store kept x cells
      compact p todo (i + 1) (kept + 1) cells
    else compact p todo (i + 1) kept cells

/-- **`compact` filters**, and stays inside the array. -/
theorem compact_eq (p : α → Bool) {todo i kept : Nat} (cells : Vector α cap)
    (h : i + todo ≤ cap) (hk : kept ≤ i) :
    let found := ((cells.toList.drop i).take todo).filter p
    ∃ cells', compact p todo i kept cells = .some (cells', kept + found.length) ∧
      cells'.toList.take (kept + found.length) = cells.toList.take kept ++ found := by
  induction todo generalizing i kept cells with
  | zero => exact ⟨cells, by simp [compact]⟩
  | succ todo ih =>
    have hi : i < cap := by omega
    have hread : cells[i]? = .some cells[i] := by simp [hi]
    have hnext : i + 1 + todo ≤ cap := by omega
    rw [drop_eq_cons hi, List.take_succ_cons]
    unfold compact
    rw [hread]
    by_cases hp : p cells[i] = true
    · have hk' : kept < cap := by omega
      obtain ⟨cells', hrun, htake⟩ :=
        ih (cells.set kept cells[i] hk') hnext (Nat.succ_le_succ hk)
      rw [drop_set hk' (by omega)] at hrun htake
      have hlength : kept + (((cells.toList.drop (i + 1)).take todo).filter p).length.succ =
          kept + 1 + (((cells.toList.drop (i + 1)).take todo).filter p).length := by omega
      rw [List.filter_cons_of_pos hp]
      dsimp only [List.length_cons]
      rw [hlength]
      refine ⟨cells', ?_, ?_⟩
      · simp [hp, store_eq hk', hrun]
      · rw [htake, take_set]
        simp
    · obtain ⟨cells', hrun, htake⟩ := ih cells hnext (Nat.le_succ_of_le hk)
      rw [List.filter_cons_of_neg hp]
      exact ⟨cells', by simpa [hp] using hrun, htake⟩

/-- A loop that moves each cell one place down: `todo` rounds from the `i`-th
cell on. -/
def shiftDown : Nat → Nat → Vector α cap → Option (Vector α cap)
  | 0, _, cells => .some cells
  | todo + 1, i, cells => do
    let x ← cells[i]?
    let cells ← store (i - 1) x cells
    shiftDown todo (i + 1) cells

/-- **`shiftDown` drops the cell before the first**, and stays inside the array. -/
theorem shiftDown_eq {todo i : Nat} (cells : Vector α cap) (h : i + 1 + todo ≤ cap) :
    ∃ cells', shiftDown todo (i + 1) cells = .some cells' ∧
      cells'.toList.take (i + todo) =
        cells.toList.take i ++ (cells.toList.drop (i + 1)).take todo := by
  induction todo generalizing i cells with
  | zero => exact ⟨cells, by simp [shiftDown]⟩
  | succ todo ih =>
    have hi : i < cap := by omega
    have hi' : i + 1 < cap := by omega
    have hread : cells[i + 1]? = .some cells[i + 1] := by simp [hi']
    have hnext : i + 1 + 1 + todo ≤ cap := by omega
    obtain ⟨cells', hrun, htake⟩ := ih (cells.set i cells[i + 1] hi) hnext
    rw [drop_set hi (by omega), take_set] at htake
    refine ⟨cells', ?_, ?_⟩
    · unfold shiftDown
      rw [hread]
      simp [store_eq hi, hrun]
    · have hindex : i + (todo + 1) = i + 1 + todo := by omega
      rw [hindex, htake, drop_eq_cons hi', List.take_succ_cons]
      simp

end InPlace
