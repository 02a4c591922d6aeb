/-
A store of `n` slots written in rotation: each write goes to the slot `next`
and moves `next` on, so it replaces the oldest value kept. A slot may also
lose its value (a torn write).

Slots are counted from `next` on: offset `0` is the slot written next,
offset `n - 1` the one written last.

* `Ordered.write`, `Ordered.erase`: values stay in order along the offsets,
  and the slots in use stay together at the end, whatever is written or lost.
* `Ordered.oldest`, `Ordered.newest`: the value at offset `0` comes before
  every other, the one at offset `n - 1` after every other.
* `Within.write`, `Within.erase`: a value is kept through the next `n - 1` of
  them.
-/
import Mathlib.Data.List.Rotate
import Mathlib.Logic.Function.Basic

namespace Rotation

variable {β : Type} {R : β → β → Prop} {slots : Nat → Option β} {n next : Nat}

/-- The slot at an offset from `next`. -/
def slotAt (n next off : Nat) : Nat := (next + off) % n

theorem slotAt_lt (h : next < n) (off : Nat) : slotAt n next off < n := Nat.mod_lt _ (by omega)

theorem slotAt_zero (h : next < n) : slotAt n next 0 = next := Nat.mod_eq_of_lt h

theorem slotAt_succ (n next off : Nat) : slotAt n ((next + 1) % n) off = slotAt n next (off + 1) := by
  simp only [slotAt, Nat.mod_add_mod]
  congr 1
  omega

theorem slotAt_last (h : next < n) : slotAt n ((next + 1) % n) (n - 1) = next := by
  rw [slotAt_succ, slotAt, show next + (n - 1 + 1) = next + n by omega, Nat.add_mod_right,
    Nat.mod_eq_of_lt h]

theorem slotAt_inj {i j : Nat} (hi : i < n) (hj : j < n)
    (he : slotAt n next i = slotAt n next j) : i = j := by
  unfold slotAt at he
  rcases Nat.lt_trichotomy i j with hij | hij | hij
  · have hd : n ∣ (next + j) - (next + i) :=
      Nat.dvd_of_mod_eq_zero (Nat.sub_mod_eq_zero_of_mod_eq he.symm)
    have := Nat.eq_zero_of_dvd_of_lt hd (by omega)
    omega
  · exact hij
  · have hd : n ∣ (next + i) - (next + j) :=
      Nat.dvd_of_mod_eq_zero (Nat.sub_mod_eq_zero_of_mod_eq he)
    have := Nat.eq_zero_of_dvd_of_lt hd (by omega)
    omega

theorem exists_offset (h : next < n) {k : Nat} (hk : k < n) : ∃ off, off < n ∧ slotAt n next off = k := by
  refine ⟨(k + n - next) % n, Nat.mod_lt _ (by omega), ?_⟩
  simp only [slotAt, Nat.add_mod_mod]
  rw [show next + (k + n - next) = k + n by omega, Nat.add_mod_right, Nat.mod_eq_of_lt hk]

theorem slotAt_perm (n next : Nat) : ((List.range n).map (slotAt n next)).Perm (List.range n) := by
  have hrotate : (List.range n).map (slotAt n next) = (List.range n).rotate next := by
    refine List.ext_getElem (by simp) fun i h₁ h₂ => ?_
    simp only [List.getElem_map, List.getElem_range, List.getElem_rotate, List.length_range, slotAt,
      Nat.add_comm next]
  rw [hrotate]
  exact List.rotate_perm _ _

theorem slotAt_ne_next (h : next < n) {off : Nat} (h₀ : 0 < off) (hn : off < n) :
    slotAt n next off ≠ next := by
  intro he
  have := slotAt_inj hn (by omega : 0 < n) (he.trans (slotAt_zero h).symm)
  omega

/-- The values are in order along the offsets, and the slots in use are the
ones written last. -/
structure Ordered (R : β → β → Prop) (slots : Nat → Option β) (n next : Nat) : Prop where
  next_lt : next < n
  ordered : ∀ i j a b, i < j → j < n → slots (slotAt n next i) = .some a →
    slots (slotAt n next j) = .some b → R a b
  together : ∀ i j, i < j → j < n → (slots (slotAt n next i)).isSome →
    (slots (slotAt n next j)).isSome

theorem Ordered.nil (h : 0 < n) : Ordered R (fun _ => Option.none) n 0 :=
  ⟨h, by simp, by simp⟩

/-- The slot at an offset after a write to `next`. -/
theorem update_slotAt (h : next < n) (x : Option β) {off : Nat} (hoff : off < n) :
    Function.update slots next x (slotAt n ((next + 1) % n) off) =
      if off + 1 = n then x else slots (slotAt n next (off + 1)) := by
  split
  · have he : off = n - 1 := by omega
    subst he
    rw [slotAt_last h, Function.update_self]
  · rw [slotAt_succ, Function.update_of_ne (slotAt_ne_next h (by omega) (by omega))]

/-- **A write** of a value after every one stored keeps the order. -/
theorem Ordered.write (h : Ordered R slots n next) {x : β}
    (hx : ∀ k < n, ∀ a, slots k = .some a → R a x) :
    Ordered R (Function.update slots next (.some x)) n ((next + 1) % n) where
  next_lt := Nat.mod_lt _ (by have := h.next_lt; omega)
  ordered i j a b hij hj hi hj' := by
    rw [update_slotAt h.next_lt _ (by omega)] at hi hj'
    rw [if_neg (by omega)] at hi
    split at hj'
    · cases hj'
      exact hx _ (slotAt_lt h.next_lt _) a hi
    · exact h.ordered _ _ a b (by omega) (by omega) hi hj'
  together i j hij hj hi := by
    rw [update_slotAt h.next_lt _ (by omega)] at hi ⊢
    rw [if_neg (by omega)] at hi
    split
    · rfl
    · exact h.together _ _ (by omega) (by omega) hi

/-- **A torn write** loses the value at `next` and keeps the order. -/
theorem Ordered.erase (h : Ordered R slots n next) :
    Ordered R (Function.update slots next .none) n next := by
  have hz : ∀ off < n, off ≠ 0 →
      Function.update slots next .none (slotAt n next off) = slots (slotAt n next off) :=
    fun off hoff h0 => Function.update_of_ne (slotAt_ne_next h.next_lt (by omega) hoff) ..
  have h0 : Function.update slots next .none (slotAt n next 0) = .none := by
    rw [slotAt_zero h.next_lt, Function.update_self]
  refine ⟨h.next_lt, fun i j a b hij hj hi hj' => ?_, fun i j hij hj hi => ?_⟩
  · rcases Nat.eq_zero_or_pos i with rfl | hi0
    · rw [h0] at hi; cases hi
    · rw [hz _ (by omega) (by omega)] at hi
      rw [hz _ hj (by omega)] at hj'
      exact h.ordered i j a b hij hj hi hj'
  · rcases Nat.eq_zero_or_pos i with rfl | hi0
    · rw [h0] at hi; cases hi
    · rw [hz _ (by omega) (by omega)] at hi
      rw [hz _ hj (by omega)]
      exact h.together i j hij hj hi

/-- **The oldest value.** When the slot to be written holds a value, every
slot does, and every other value comes after it. -/
theorem Ordered.oldest (h : Ordered R slots n next) {a : β} (ha : slots next = .some a) {k : Nat}
    (hk : k < n) (hne : k ≠ next) : ∃ b, slots k = .some b ∧ R a b := by
  obtain ⟨off, hoff, rfl⟩ := exists_offset h.next_lt hk
  have h0 : off ≠ 0 := fun h0 => hne (h0 ▸ slotAt_zero h.next_lt)
  have ha' : slots (slotAt n next 0) = .some a := by rwa [slotAt_zero h.next_lt]
  have hs := h.together 0 off (by omega) hoff (by rw [ha']; rfl)
  obtain ⟨b, hb⟩ := Option.isSome_iff_exists.mp hs
  exact ⟨b, hb, h.ordered 0 off a b (by omega) hoff ha' hb⟩

/-- The slot written last. -/
def back (n next : Nat) : Nat := slotAt n next (n - 1)

theorem back_succ (h : next < n) : (back n next + 1) % n = next := by
  rw [back, slotAt, Nat.mod_add_mod, show next + (n - 1) + 1 = next + n by omega, Nat.add_mod_right,
    Nat.mod_eq_of_lt h]

/-- **The newest value.** When any slot holds a value the one written last
does, and it comes after every other. -/
theorem Ordered.newest (h : Ordered R slots n next) {k : Nat} {a : β} (hk : k < n)
    (ha : slots k = .some a) : ∃ b, slots (back n next) = .some b ∧ (k = back n next ∨ R a b) := by
  obtain ⟨off, hoff, rfl⟩ := exists_offset h.next_lt hk
  rcases Nat.lt_or_ge off (n - 1) with hlt | hge
  · have hs := h.together off (n - 1) hlt (by omega) (by rw [ha]; rfl)
    obtain ⟨b, hb⟩ := Option.isSome_iff_exists.mp hs
    exact ⟨b, hb, .inr (h.ordered off (n - 1) a b hlt (by omega) ha hb)⟩
  · have he : off = n - 1 := by omega
    subst he
    exact ⟨a, ha, .inl rfl⟩

/-! ## How long a value is kept -/

/-- A value is kept at most so many writes from the one written last. -/
def Within (slots : Nat → Option β) (n next age : Nat) (b : β) : Prop :=
  ∃ off, off < n ∧ n ≤ off + age + 1 ∧ slots (slotAt n next off) = .some b

namespace Within

variable {age : Nat} {b : β} {x : Option β}

theorem written (slots : Nat → Option β) (h : next < n) (b : β) :
    Within (Function.update slots next (.some b)) n ((next + 1) % n) 0 b := by
  refine ⟨n - 1, by omega, by omega, ?_⟩
  rw [slotAt_last h, Function.update_self]

/-- **A write** takes it one on. -/
theorem write (hw : Within slots n next age b) (h : next < n) (hage : age + 1 < n) :
    Within (Function.update slots next x) n ((next + 1) % n) (age + 1) b := by
  obtain ⟨off, hoff, hold, hb⟩ := hw
  refine ⟨off - 1, by omega, by omega, ?_⟩
  have hoff' : off - 1 + 1 = off := by omega
  rw [update_slotAt h x (by omega), hoff', if_neg (by omega), hb]

/-- **A torn write** is of another slot. -/
theorem erase (hw : Within slots n next age b) (h : next < n) (hage : age + 1 < n) :
    Within (Function.update slots next .none) n next (age + 1) b := by
  obtain ⟨off, hoff, hold, hb⟩ := hw
  refine ⟨off, hoff, by omega, ?_⟩
  rw [Function.update_of_ne (slotAt_ne_next h (by omega) hoff), hb]

theorem mono {age' : Nat} (hw : Within slots n next age b) (hage : age ≤ age') :
    Within slots n next age' b := by
  obtain ⟨off, hoff, hold, hb⟩ := hw
  exact ⟨off, hoff, by omega, hb⟩

end Within

end Rotation
