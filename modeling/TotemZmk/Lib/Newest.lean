/-
The newest of the elements that qualify: what a scan finds that keeps an
element when its number is above the one it has.

* `newest_scan`: from below every number, in whatever order.
* `Newest.unique`, `Newest.congr`: the order does not matter.
-/
import Mathlib.Data.List.Basic

namespace Scan

variable {α β : Type} {num : α → Nat} {P : α → Prop} {f : α → β} {d : β}

/-- `v` is `f` of the element with the greatest number that qualifies, or `d`
when none does. -/
inductive Newest (num : α → Nat) (P : α → Prop) (f : α → β) (d : β) (xs : List α) : β → Prop where
  | found {x} (hx : x ∈ xs) (hp : P x) (hmax : ∀ y ∈ xs, P y → num y ≤ num x) :
    Newest num P f d xs (f x)
  | none (hno : ∀ y ∈ xs, ¬P y) : Newest num P f d xs d

/-- One step of the scan: the number and the value kept so far, and `x`. -/
def keep (num : α → Nat) (P : α → Prop) [DecidablePred P] (f : α → β) (acc : Nat × β) (x : α) :
    Nat × β :=
  if P x ∧ acc.1 < num x then (num x, f x) else acc

/-- What the scan has after some of the elements. -/
def Kept (num : α → Nat) (P : α → Prop) (f : α → β) (d : β) (xs : List α) (acc : Nat × β) : Prop :=
  (∃ x ∈ xs, P x ∧ acc = (num x, f x) ∧ ∀ y ∈ xs, P y → num y ≤ num x) ∨
    (acc = (0, d) ∧ ∀ y ∈ xs, ¬P y)

theorem Kept.keep [DecidablePred P] {xs : List α} {acc : Nat × β} (h : Kept num P f d xs acc) {x : α}
    (hx : 0 < num x) : Kept num P f d (xs ++ [x]) (keep num P f acc x) := by
  unfold Scan.keep
  by_cases hp : P x
  · rcases h with ⟨y, hy, hpy, rfl, hmax⟩ | ⟨rfl, hno⟩
    · by_cases hlt : num y < num x
      · rw [if_pos ⟨hp, hlt⟩]
        refine .inl ⟨x, by simp, hp, rfl, ?_⟩
        intro z hz hpz
        rcases List.mem_append.mp hz with hz | hz
        · exact Nat.le_trans (hmax z hz hpz) (Nat.le_of_lt hlt)
        · exact Nat.le_of_eq (by rw [List.mem_singleton.mp hz])
      · rw [if_neg fun hc => hlt hc.2]
        refine .inl ⟨y, by simp [hy], hpy, rfl, ?_⟩
        intro z hz hpz
        rcases List.mem_append.mp hz with hz | hz
        · exact hmax z hz hpz
        · rw [List.mem_singleton.mp hz]
          omega
    · rw [if_pos ⟨hp, hx⟩]
      refine .inl ⟨x, by simp, hp, rfl, ?_⟩
      intro z hz hpz
      rcases List.mem_append.mp hz with hz | hz
      · exact absurd hpz (hno z hz)
      · exact Nat.le_of_eq (by rw [List.mem_singleton.mp hz])
  · rw [if_neg fun hc => hp hc.1]
    have hz : ∀ z ∈ xs ++ [x], P z → z ∈ xs := by
      intro z hz hpz
      rcases List.mem_append.mp hz with hz | hz
      · exact hz
      · exact absurd (List.mem_singleton.mp hz ▸ hpz) hp
    rcases h with ⟨y, hy, hpy, rfl, hmax⟩ | ⟨rfl, hno⟩
    · exact .inl ⟨y, by simp [hy], hpy, rfl, fun z hm hpz => hmax z (hz z hm hpz) hpz⟩
    · exact .inr ⟨rfl, fun z hm hpz => hno z (hz z hm hpz) hpz⟩

theorem kept_foldl [DecidablePred P] {xs ys : List α} {acc : Nat × β} (h : Kept num P f d xs acc)
    (hpos : ∀ y ∈ ys, 0 < num y) : Kept num P f d (xs ++ ys) (ys.foldl (keep num P f) acc) := by
  induction ys generalizing xs acc with
  | nil => simpa using h
  | cons y ys ih =>
    have hy := h.keep (hpos y (by simp))
    have hys := ih hy fun z hz => hpos z (by simp [hz])
    rw [List.append_assoc] at hys
    exact hys

/-- **The scan finds the newest**, in whatever order the elements come. -/
theorem newest_scan [DecidablePred P] {xs : List α} (hpos : ∀ x ∈ xs, 0 < num x) :
    Newest num P f d xs (xs.foldl (keep num P f) (0, d)).2 := by
  have hstart : Kept num P f d [] (0, d) := .inr ⟨rfl, by simp⟩
  have hend := kept_foldl hstart hpos
  rw [List.nil_append] at hend
  rcases hend with ⟨x, hx, hp, he, hmax⟩ | ⟨he, hno⟩
  · rw [he]
    exact .found hx hp hmax
  · rw [he]
    exact .none hno

theorem Newest.congr {xs ys : List α} {v : β} (h : Newest num P f d xs v)
    (hmem : ∀ x, x ∈ xs ↔ x ∈ ys) : Newest num P f d ys v := by
  cases h with
  | found hx hp hmax =>
    exact .found ((hmem _).mp hx) hp fun y hy => hmax y ((hmem y).mpr hy)
  | none hno => exact .none fun y hy => hno y ((hmem y).mpr hy)

theorem Newest.unique {xs : List α} {v w : β} (hv : Newest num P f d xs v)
    (hw : Newest num P f d xs w) (hinj : ∀ x ∈ xs, ∀ y ∈ xs, num x = num y → x = y) : v = w := by
  cases hv with
  | found hx hp hmax =>
    cases hw with
    | found hy hq hmax' =>
      have hle := hmax _ hy hq
      have hge := hmax' _ hx hp
      rw [hinj _ hx _ hy (by omega)]
    | none hno => exact absurd hp (hno _ hx)
  | none hno =>
    cases hw with
    | found hy hq _ => exact absurd hq (hno _ hy)
    | none _ => rfl

end Scan
