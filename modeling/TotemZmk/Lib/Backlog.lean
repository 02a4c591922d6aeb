/-
A writer whose writes make work for it.

It takes up to `batch` of the items that are ready, and each write adds `cost`
items to those that may become ready later; the first write may add some more.
After a write that left ready items it runs again; otherwise it runs only as
often as it is still due to.

* `State.Step.writes_le`: a potential that every write lowers.
* `State.potential_le`: how many writes are left at most.
* `eventually_zero`: a rank that does not grow, and falls while it is not
  zero, is zero from some point on.
-/
import Mathlib.Order.OrderIsoNat

namespace Backlog

/-- What the writer has before it: `ready` items, `later` ones that may become
ready, `first` more items that its next write adds, and how many runs it is
`due`. -/
structure State where
  ready : Nat
  later : Nat
  first : Nat
  due : Nat

namespace State

/-- All items there are. -/
def items (s : State) : Nat := s.ready + s.later

/-- One step, and the number of writes in it. -/
inductive Step (batch cost : Nat) (s s' : State) : Nat → Prop where
  /-- Items become ready or are lost, and the writer may have run without a
  write. -/
  | move (hi : s'.items ≤ s.items) (hf : s'.first = s.first) (hd : s'.due ≤ s.due) : Step batch cost s s' 0
  | write (hd : 0 < s.due) (hr : 0 < s.ready)
    (hi : s'.items + min s.ready batch ≤ s.items + cost + s.first) (hf : s'.first = 0)
    (hd' : s'.due ≤ if batch < s.ready then 1 else s.due - 1) : Step batch cost s s' 1

/-- The writes still to come at most, when at most two runs are due. -/
def potential (batch : Nat) (s : State) : Nat :=
  if s.items = 0 ∨ s.due = 0 then 0
  else if s.due = 1 then 1 + (s.items + s.first - 3) / (batch - 2)
  else 2 + (s.items + s.first - 2) / (batch - 2)

variable {batch : Nat} {s s' : State}

theorem potential_none (h : s.items = 0 ∨ s.due = 0) : s.potential batch = 0 := if_pos h

theorem potential_once (hi : s.items ≠ 0) (hd : s.due = 1) :
    s.potential batch = 1 + (s.items + s.first - 3) / (batch - 2) := by
  rw [potential, if_neg (by omega), if_pos hd]

theorem potential_twice (hi : s.items ≠ 0) (hd : 1 < s.due) :
    s.potential batch = 2 + (s.items + s.first - 2) / (batch - 2) := by
  rw [potential, if_neg (by omega), if_neg (by omega)]

theorem potential_le_once (hd : s.due ≤ 1) :
    s.potential batch ≤ 1 + (s.items + s.first - 3) / (batch - 2) := by
  by_cases h : s.items = 0 ∨ s.due = 0
  · rw [potential_none h]
    exact Nat.zero_le _
  · rw [potential_once (by omega) (by omega)]

theorem once_le_potential (hi : s.items ≠ 0) (hd : 0 < s.due) :
    1 + (s.items + s.first - 3) / (batch - 2) ≤ s.potential batch := by
  by_cases h : s.due = 1
  · rw [potential_once hi h]
  · have hle : (s.items + s.first - 3) / (batch - 2) ≤ (s.items + s.first - 2) / (batch - 2) :=
      Nat.div_le_div_right (by omega)
    rw [potential_twice hi (by omega)]
    omega

theorem potential_mono (hi : s'.items ≤ s.items) (hf : s'.first = s.first) (hd : s'.due ≤ s.due) :
    s'.potential batch ≤ s.potential batch := by
  by_cases h : s'.items = 0 ∨ s'.due = 0
  · rw [potential_none h]
    exact Nat.zero_le _
  · by_cases h1 : s'.due ≤ 1
    · refine (potential_le_once h1).trans (Nat.le_trans ?_ (once_le_potential (by omega) (by omega)))
      exact Nat.add_le_add_left (Nat.div_le_div_right (by omega)) 1
    · rw [potential_twice (by omega) (by omega), potential_twice (by omega) (by omega)]
      exact Nat.add_le_add_left (Nat.div_le_div_right (by omega)) 2

/-- A write that leaves ready items takes a whole batch. -/
theorem potential_write_more (hb : 2 < batch) (hm : batch < s.ready)
    (hi : s'.items + batch ≤ s.items + 2 + s.first) (hf : s'.first = 0) (hdue : 0 < s.due)
    (hd : s'.due ≤ 1) : 1 + s'.potential batch ≤ s.potential batch := by
  have hready : s.ready ≤ s.items := Nat.le_add_right _ _
  -- One batch less the two items the write adds.
  have hstep : (s'.items + s'.first - 3) / (batch - 2) + 1 ≤ (s.items + s.first - 3) / (batch - 2) := by
    rw [← Nat.add_div_right _ (by omega)]
    exact Nat.div_le_div_right (by omega)
  have hafter := @potential_le_once batch s' hd
  have hbefore := @once_le_potential batch s (by omega) hdue
  omega

theorem potential_write_all (hr : 0 < s.ready)
    (hi : s'.items + s.ready ≤ s.items + 2 + s.first) (hf : s'.first = 0) (hdue : 0 < s.due)
    (hdue' : s.due ≤ 2) (hd : s'.due ≤ s.due - 1) : 1 + s'.potential batch ≤ s.potential batch := by
  have hready : s.ready ≤ s.items := Nat.le_add_right _ _
  by_cases h1 : s.due = 1
  · have hnone : s'.potential batch = 0 := potential_none (.inr (by omega))
    rw [hnone]
    exact Nat.le_trans (Nat.le_add_right 1 _) (@once_le_potential batch s (by omega) hdue)
  · have hle : (s'.items + s'.first - 3) / (batch - 2) ≤ (s.items + s.first - 2) / (batch - 2) :=
      Nat.div_le_div_right (by omega)
    have hafter := @potential_le_once batch s' (by omega)
    rw [@potential_twice batch s (by omega) (by omega)]
    omega

/-- **Every write lowers the potential**, and no step raises it. -/
theorem Step.writes_le {n : Nat} (hb : 2 < batch) (hdue : s.due ≤ 2) (h : Step batch 2 s s' n) :
    n + s'.potential batch ≤ s.potential batch := by
  cases h with
  | move hi hf hd =>
    rw [Nat.zero_add]
    exact potential_mono hi hf hd
  | write hd hr hi hf hd' =>
    by_cases hm : batch < s.ready
    · rw [if_pos hm] at hd'
      rw [Nat.min_eq_right (by omega)] at hi
      exact potential_write_more hb hm hi hf hd hd'
    · rw [if_neg hm] at hd'
      rw [Nat.min_eq_left (by omega)] at hi
      exact potential_write_all hr hi hf hd hdue hd'

/-- **How many writes are left** at most. -/
theorem potential_le (hb : 4 < batch) (hf : s.first ≤ 2) :
    s.potential batch ≤ s.items / (batch - 4) + 2 := by
  have h2 : (s.items + s.first - 2) / (batch - 2) ≤ s.items / (batch - 4) :=
    Nat.div_le_div (by omega) (by omega) (by omega)
  have h1 : (s.items + s.first - 3) / (batch - 2) ≤ s.items / (batch - 4) :=
    Nat.div_le_div (by omega) (by omega) (by omega)
  unfold potential
  split
  · exact Nat.zero_le _
  · split <;> omega

end State

/-! ## Ranks along a run -/

theorem eventually_const {rank : Nat → Nat} (h : ∀ n, rank (n + 1) ≤ rank n) :
    ∃ n, ∀ m ≥ n, rank m = rank n := by
  obtain ⟨n, hn⟩ := WellFounded.has_min wellFounded_lt (Set.range rank) ⟨rank 0, 0, rfl⟩
  obtain ⟨⟨k, rfl⟩, hmin⟩ := hn
  refine ⟨k, fun m hm => ?_⟩
  have hle : rank m ≤ rank k := antitone_nat_of_succ_le h hm
  have hge : ¬ rank m < rank k := hmin (rank m) ⟨m, rfl⟩
  omega

/-- **A rank that keeps falling while it is not zero** is zero in the end. -/
theorem eventually_zero {rank : Nat → Nat} {start : Nat}
    (h : ∀ n ≥ start, rank (n + 1) ≤ rank n)
    (hfall : ∀ n ≥ start, rank n ≠ 0 → ∃ m ≥ n, rank (m + 1) < rank m) :
    ∃ n ≥ start, ∀ m ≥ n, rank m = 0 := by
  obtain ⟨n, hn⟩ := @eventually_const (fun n => rank (start + n)) fun n => h _ (Nat.le_add_right _ _)
  refine ⟨start + n, by omega, fun m hm => ?_⟩
  have hconst : ∀ m ≥ start + n, rank m = rank (start + n) := by
    intro m hm
    obtain ⟨k, rfl⟩ : ∃ k, m = start + k := ⟨m - start, by omega⟩
    exact hn k (by omega)
  by_contra hne
  obtain ⟨k, hk, hlt⟩ := hfall m (by omega) hne
  rw [hconst k (by omega), hconst (k + 1) (by omega)] at hlt
  omega

end Backlog
