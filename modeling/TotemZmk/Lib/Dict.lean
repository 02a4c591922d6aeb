/-
A dictionary with its keys in the order they came, and what a row of assignments
makes of it.

* `get_set`: an assignment changes one key.
* `get_foldl`: of a row of them the last counts.
-/
import Mathlib.Data.List.Basic

/-- The entries, in the order of the keys. -/
abbrev Dict (κ α : Type) := List (κ × α)

namespace Dict

variable {κ α β : Type} [DecidableEq κ] {d : Dict κ α} {k k' : κ}

/-- `d[k]` -/
def get (d : Dict κ α) (k : κ) : Option α := (d.find? fun entry => entry.1 = k).map Prod.snd

/-- `d[k] = a` -/
def set (d : Dict κ α) (k : κ) (a : α) : Dict κ α :=
  if d.any fun entry => entry.1 = k then
    d.map fun entry => if entry.1 = k then (k, a) else entry
  else d ++ [(k, a)]

@[simp] theorem get_nil : get ([] : Dict κ α) k = .none := rfl

theorem get_cons (entry : κ × α) :
    get (entry :: d) k = if entry.1 = k then .some entry.2 else get d k := by
  unfold get
  by_cases h : entry.1 = k <;> simp [h]

theorem eq_nil_of_get (h : ∀ k, get d k = .none) : d = [] := by
  cases d with
  | nil => rfl
  | cons entry d =>
    have hkey := h entry.1
    rw [get_cons, if_pos rfl] at hkey
    exact absurd hkey (Option.some_ne_none _)

theorem get_append (d' : Dict κ α) : get (d ++ d') k = (get d k).or (get d' k) := by
  induction d with
  | nil => rfl
  | cons entry d ih =>
    rw [List.cons_append, get_cons, get_cons, ih]
    split <;> rfl

theorem get_eq_none (h : d.any (fun entry => entry.1 = k) = false) : get d k = .none := by
  induction d with
  | nil => rfl
  | cons entry d ih =>
    simp only [List.any_cons, Bool.or_eq_false_iff, decide_eq_false_iff_not] at h
    rw [get_cons, if_neg h.1, ih h.2]

theorem get_map (a : α) :
    get (d.map fun entry => if entry.1 = k then (k, a) else entry) k' =
      if k' = k then (get d k).map fun _ => a else get d k' := by
  induction d with
  | nil => simp
  | cons entry d ih =>
    rw [List.map_cons, get_cons, get_cons, get_cons, ih]
    by_cases hk : k' = k
    · subst hk
      by_cases he : entry.1 = k' <;> simp [he]
    · by_cases he : entry.1 = k
      · simp [he, hk, Ne.symm hk]
      · simp [he, hk]

/-- **An assignment** changes one key. -/
theorem get_set (a : α) : get (set d k a) k' = if k' = k then .some a else get d k' := by
  unfold set
  split
  · rename_i hany
    rw [get_map]
    by_cases hk : k' = k
    · rw [if_pos hk, if_pos hk]
      obtain ⟨value, hvalue⟩ : ∃ value, get d k = .some value := by
        cases hget : get d k with
        | some value => exact ⟨value, rfl⟩
        | none =>
          unfold get at hget
          rw [Option.map_eq_none_iff, List.find?_eq_none] at hget
          obtain ⟨entry, hm, he⟩ := List.any_eq_true.mp hany
          exact absurd he (hget entry hm)
      rw [hvalue]
      rfl
    · rw [if_neg hk, if_neg hk]
  · rename_i hany
    rw [get_append, get_cons, get_nil]
    by_cases hk : k' = k
    · subst hk
      simp [get_eq_none (Bool.eq_false_iff.mpr hany)]
    · simp [hk, Ne.symm hk]

/-- **Of a row of assignments** the last to a key counts. -/
theorem get_foldl {assign : Dict κ α → β → Dict κ α} {key : β → Option κ} {value : β → α}
    (hassign : ∀ d b, get (assign d b) k = if key b = .some k then .some (value b) else get d k)
    (bs : List β) :
    get (bs.foldl assign d) k =
      (((bs.filter fun b => key b = .some k).map value).getLast?).or (get d k) := by
  induction bs generalizing d with
  | nil => rfl
  | cons b bs ih =>
    rw [List.foldl_cons, ih, hassign]
    by_cases hb : key b = .some k
    · simp [hb, List.getLast?_cons]
    · simp [hb]

end Dict
