/-
Times in a list, newest first: how many are at most so old, the scan for them
that stops at the first one too old, and what a cap on them says of every
interval.

* `length_takeWhile_take`: the scan, over the first entries only, counts right.
* `filter_latest`, `latest_tail`: the last few of them, kept up to date.
* `countP_interval_le`: if no time found more than `cap` times that recent,
  itself included, then no interval of that length holds more.
-/
import Mathlib.Data.List.Basic

namespace Window

/-- The times no later one precedes. -/
def Falling (ts : List Int) : Prop := ts.Pairwise fun later earlier => earlier ≤ later

/-- How many of the times are at most `age` before `now`. -/
def recent (age now : Int) (ts : List Int) : Nat := ts.countP fun t => now - t ≤ age

variable {age now : Int} {ts : List Int}

theorem recent_cons (t : Int) :
    recent age now (t :: ts) = recent age now ts + if now - t ≤ age then 1 else 0 := by
  simp [recent, List.countP_cons]

theorem recent_le_of_le {now' : Int} (h : now ≤ now') : recent age now' ts ≤ recent age now ts := by
  refine List.countP_mono_left fun t _ ht => ?_
  simp only [decide_eq_true_eq] at ht ⊢
  omega

theorem filter_eq_takeWhile (h : Falling ts) :
    (ts.filter fun t => now - t ≤ age) = ts.takeWhile fun t => now - t ≤ age := by
  induction ts with
  | nil => rfl
  | cons t ts ih =>
    obtain ⟨hle, hts⟩ := List.pairwise_cons.mp h
    by_cases ht : now - t ≤ age
    · rw [List.filter_cons_of_pos (by simpa using ht),
        List.takeWhile_cons_of_pos (by simpa using ht), ih hts]
    · have hnone : (ts.filter fun t => now - t ≤ age) = [] := by
        refine List.filter_eq_nil_iff.mpr fun u hu => ?_
        have := hle u hu
        simp only [decide_eq_true_eq]
        omega
      rw [List.filter_cons_of_neg (by simpa using ht),
        List.takeWhile_cons_of_neg (by simpa using ht), hnone]

/-- **The scan that stops at the first time too old** counts them all. -/
theorem length_takeWhile (h : Falling ts) :
    (ts.takeWhile fun t => now - t ≤ age).length = recent age now ts := by
  rw [← filter_eq_takeWhile h, recent, List.countP_eq_length_filter]

theorem length_takeWhile_take (h : Falling ts) (n : Nat) :
    ((ts.take n).takeWhile fun t => now - t ≤ age).length = min n (recent age now ts) := by
  rw [← List.take_takeWhile, List.length_take, length_takeWhile h]

/-! ## The last few -/

/-- The `n` newest of the recent times, oldest first. -/
def latest (age now : Int) (n : Nat) (ts : List Int) : List Int :=
  ((ts.filter fun t => now - t ≤ age).take n).reverse

/-- **As time passes**, the `n` newest of the recent times are kept as long as they are recent. -/
theorem filter_latest {now' : Int} (h : Falling ts) (hle : now ≤ now') (n : Nat) :
    (latest age now n ts).filter (fun t => now' - t ≤ age) = latest age now' n ts := by
  have hrecent : Falling (ts.filter fun t => now - t ≤ age) := h.filter _
  have htake : Falling ((ts.filter fun t => now - t ≤ age).take n) :=
    hrecent.sublist (List.take_sublist n _)
  have hboth : ((ts.filter fun t => now - t ≤ age).filter fun t => now' - t ≤ age) =
      ts.filter fun t => now' - t ≤ age := by
    rw [List.filter_filter]
    refine List.filter_congr fun t _ => ?_
    simp only [Bool.and_eq_left_iff_imp, decide_eq_true_eq]
    omega
  rw [latest, latest, List.filter_reverse, filter_eq_takeWhile htake, ← List.take_takeWhile,
    ← filter_eq_takeWhile hrecent, hboth]

theorem latest_cons_now (hage : 0 ≤ age) (n : Nat) :
    latest age now (n + 1) (now :: ts) = latest age now n ts ++ [now] := by
  rw [latest, List.filter_cons_of_pos (by simpa using hage), List.take_succ_cons,
    List.reverse_cons]
  rfl

/-- To make room for one more, the oldest of `n + 1` goes. -/
theorem latest_tail (n : Nat) :
    (if (latest age now (n + 1) ts).length < n + 1 then latest age now (n + 1) ts
      else (latest age now (n + 1) ts).tail) = latest age now n ts := by
  unfold latest
  generalize (ts.filter fun t => now - t ≤ age) = found
  have hlength : (found.take (n + 1)).reverse.length = min (n + 1) found.length := by simp
  by_cases hshort : found.length ≤ n
  · rw [if_pos (by omega), List.take_of_length_le hshort,
      List.take_of_length_le (Nat.le_succ_of_le hshort)]
  · have hroom : min ((found.take (n + 1)).length - 1) (n + 1) = n := by simp; omega
    rw [if_neg (by omega), List.tail_reverse, List.dropLast_eq_take, List.take_take, hroom]

/-! ## A cap -/

/-- Each time found at most `cap` times that recent, itself included. -/
def Capped (age : Int) (cap : Nat) : List Int → Prop
  | [] => True
  | t :: ts => recent age t (t :: ts) ≤ cap ∧ Capped age cap ts

/-- **No interval holds more than the cap.** -/
theorem countP_interval_le {cap : Nat} (hf : Falling ts) (hc : Capped age cap ts) (from_ : Int) :
    (ts.countP fun t => from_ ≤ t ∧ t ≤ from_ + age) ≤ cap := by
  induction ts with
  | nil => exact Nat.zero_le _
  | cons t ts ih =>
    obtain ⟨hle, hts⟩ := List.pairwise_cons.mp hf
    obtain ⟨hcap, hrest⟩ := hc
    by_cases ht : from_ ≤ t ∧ t ≤ from_ + age
    · -- The interval holds the newest; what else it holds is recent as of that.
      refine Nat.le_trans (List.countP_mono_left fun u hu hin => ?_) hcap
      simp only [decide_eq_true_eq] at hin ⊢
      omega
    · rw [List.countP_cons_of_neg (by simpa using ht)]
      exact ih hts hrest

end Window
