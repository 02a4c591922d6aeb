/-
`LowBatteryAlerts` of `totem_battery_windows.py`: which readings of a half give
a warning.

* `low_battery_warnings`: a reading warns of the lowest threshold it is at or
  below that is armed, and what arms one again.
* `mem_fired`: what the stored set says of all the readings before.
-/
import TotemZmk.Lib.Transducer
import Mathlib.Data.Finset.Basic
import Mathlib.Order.Bounds.Defs

namespace TotemZmk

open Transducer (run)

/-- `LOW_AT` -/
def lowAt : Int := 20

/-- `CRITICAL_AT` -/
def criticalAt : Int := 10

/-- `THRESHOLDS` -/
def thresholds : List Int := [lowAt, criticalAt]

/-- `HYSTERESIS` -/
def hysteresis : Int := 5

/-- The arguments of `crossed`. -/
structure Reading (α : Type) where
  half : α
  percent : Int
  charging : Bool
deriving DecidableEq, Repr

/-- `LowBatteryAlerts`. A half that `fired` does not hold yet has no thresholds
there. -/
structure LowBatteryAlerts (α : Type) where
  fired : α → Finset Int

namespace LowBatteryAlerts

variable {α : Type}

def new : LowBatteryAlerts α := ⟨fun _ => ∅⟩

variable [DecidableEq α]

/-- `crossed` -/
def crossed (s : LowBatteryAlerts α) (r : Reading α) : LowBatteryAlerts α × Option Int :=
  let done := s.fired r.half
  if r.charging then (⟨Function.update s.fired r.half ∅⟩, .none)
  else
    let done := done.filter fun t => r.percent ≤ t + hysteresis
    let newly := thresholds.filter fun t => r.percent ≤ t ∧ t ∉ done
    (⟨Function.update s.fired r.half (done ∪ newly.toFinset)⟩, newly.min?)

/-- One call of `crossed`, and its answer. -/
def step (s : LowBatteryAlerts α) (r : Reading α) : LowBatteryAlerts α × List (Option Int) :=
  ((s.crossed r).1, [(s.crossed r).2])

/-- The state the readings lead to. -/
def after (readings : List (Reading α)) : LowBatteryAlerts α := (run step new readings).1

/-- The warning that `r` gives after the readings. -/
def warning (readings : List (Reading α)) (r : Reading α) : Option Int :=
  ((after readings).crossed r).2

/-! ## The law -/

/-- A reading that disarms a threshold of the half. -/
def Disarms (half : α) (t : Int) (r : Reading α) : Prop :=
  r.half = half ∧ r.charging = false ∧ r.percent ≤ t

/-- A reading that leaves it so: of the other half, or not charging and not far
above the threshold. -/
def Leaves (half : α) (t : Int) (r : Reading α) : Prop :=
  r.half = half → r.charging = false ∧ r.percent ≤ t + hysteresis

/-- A threshold is armed unless a reading disarmed it that all later ones left. -/
def Armed (readings : List (Reading α)) (half : α) (t : Int) : Prop :=
  ¬∃ before r later, readings = before ++ r :: later ∧ Disarms half t r ∧
    ∀ x ∈ later, Leaves half t x

/-! ## What a reading does -/

variable {s s' : LowBatteryAlerts α} {r : Reading α} {half : α} {t : Int}

theorem fired_other (h : r.half ≠ half) : (s.crossed r).1.fired half = s.fired half := by
  unfold crossed
  dsimp only
  split
  · exact Function.update_of_ne h.symm _ _
  · exact Function.update_of_ne h.symm _ _

theorem crossed_charging (hc : r.charging = true) :
    s.crossed r = (⟨Function.update s.fired r.half ∅⟩, .none) := by
  unfold crossed
  rw [if_pos hc]

/-- The thresholds that a reading crosses for the first time. -/
def newly (s : LowBatteryAlerts α) (r : Reading α) : List Int :=
  thresholds.filter fun t =>
    r.percent ≤ t ∧ t ∉ (s.fired r.half).filter fun t => r.percent ≤ t + hysteresis

theorem crossed_discharging (hc : r.charging = false) : s.crossed r =
    (⟨Function.update s.fired r.half
      ((s.fired r.half).filter (fun t => r.percent ≤ t + hysteresis) ∪ (s.newly r).toFinset)⟩,
      (s.newly r).min?) := by
  unfold crossed
  rw [hc]
  rfl

omit [DecidableEq α] in
/-- What is stored and at or above the reading stays. -/
theorem le_add_hysteresis (h : r.percent ≤ t) : r.percent ≤ t + hysteresis := by
  unfold hysteresis
  omega

omit [DecidableEq α] in
theorem mem_newly :
    t ∈ s.newly r ↔ t ∈ thresholds ∧ r.percent ≤ t ∧ t ∉ s.fired r.half := by
  have hstays : r.percent ≤ t → r.percent ≤ t + hysteresis := le_add_hysteresis
  simp only [newly, List.mem_filter, Finset.mem_filter, decide_eq_true_eq]
  grind

/-- **What is stored after a reading.** -/
theorem mem_fired_step (ht : t ∈ thresholds) :
    t ∈ (s.step r).1.fired half ↔ Disarms half t r ∨ t ∈ s.fired half ∧ Leaves half t r := by
  show t ∈ (s.crossed r).1.fired half ↔ _
  by_cases hhalf : r.half = half
  · subst hhalf
    cases hc : r.charging with
    | true =>
      rw [crossed_charging hc]
      simp [Disarms, Leaves, hc]
    | false =>
      have hstays : r.percent ≤ t → r.percent ≤ t + hysteresis := le_add_hysteresis
      rw [crossed_discharging hc]
      simp only [Function.update_self, Finset.mem_union, Finset.mem_filter, List.mem_toFinset,
        mem_newly, Disarms, Leaves, hc]
      grind
  · rw [fired_other hhalf]
    simp [Disarms, Leaves, hhalf]

/-- **What is stored after all of them** is what is not armed. -/
theorem mem_fired (ht : t ∈ thresholds) (readings : List (Reading α)) (half : α) :
    t ∈ (after readings).fired half ↔ ¬Armed readings half t := by
  have hnew : t ∉ (new : LowBatteryAlerts α).fired half := Finset.notMem_empty t
  have hstep : ∀ (s : LowBatteryAlerts α) (r : Reading α), t ∈ (s.step r).1.fired half ↔
      Disarms half t r ∨ t ∈ s.fired half ∧ Leaves half t r := fun _ _ => mem_fired_step ht
  unfold after Armed
  rw [not_not]
  exact Transducer.run_latch (P := fun s : LowBatteryAlerts α => t ∈ s.fired half) hnew hstep
    readings

theorem fired_filter (readings : List (Reading α)) (hsame : s.fired half = s'.fired half) :
    (run step s readings).1.fired half =
      (run step s' (readings.filter fun r => r.half = half)).1.fired half := by
  induction readings generalizing s s' with
  | nil => exact hsame
  | cons r readings ih =>
    by_cases hhalf : r.half = half
    · subst hhalf
      rw [List.filter_cons_of_pos (by simp)]
      refine ih ?_
      show (s.crossed r).1.fired r.half = (s'.crossed r).1.fired r.half
      unfold crossed
      rw [hsame]
      dsimp only
      split <;> simp
    · rw [List.filter_cons_of_neg (by simpa using hhalf)]
      exact ih ((fired_other hhalf).trans hsame)

theorem warning_discharging {readings : List (Reading α)} (hc : r.charging = false) :
    warning readings r = .some t ↔
      IsLeast {t | t ∈ thresholds ∧ Armed readings r.half t ∧ r.percent ≤ t} t := by
  have hnewly : ∀ t, t ∈ (after readings).newly r ↔
      t ∈ thresholds ∧ Armed readings r.half t ∧ r.percent ≤ t := by
    intro t
    rw [mem_newly]
    refine and_congr_right fun ht => ?_
    rw [mem_fired ht, not_not]
    exact and_comm
  unfold warning
  rw [crossed_discharging hc]
  dsimp only
  rw [List.min?_eq_some_iff]
  simp only [IsLeast, lowerBounds, Set.mem_ofPred_eq, hnewly]

end LowBatteryAlerts

open LowBatteryAlerts in
/-- **Low-battery warnings follow the hysteresis law.** After any readings, a
charging one gives no warning, and another the lowest threshold that is armed for
its half and that it is at or below. So between two warnings of one threshold on
a half there is a reading of that half which was charging, or more than
`HYSTERESIS` above it; and readings of other halves make no difference. -/
theorem low_battery_warnings {α : Type} [DecidableEq α] (readings : List (Reading α))
    (r : Reading α) :
    (r.charging = true → warning readings r = .none) ∧
    (r.charging = false → ∀ t, warning readings r = .some t ↔
      IsLeast {t | t ∈ thresholds ∧ Armed readings r.half t ∧ r.percent ≤ t} t) ∧
    (∀ before r₁ between t, readings = before ++ r₁ :: between → r₁.half = r.half →
      warning before r₁ = .some t → warning readings r = .some t →
      ∃ x ∈ between, x.half = r.half ∧ (x.charging = true ∨ t + hysteresis < x.percent)) ∧
    warning readings r = warning (readings.filter fun x => x.half = r.half) r := by
  have hcharging : ∀ readings (r : Reading α), r.charging = true → warning readings r = .none := by
    intro readings r hc
    unfold warning
    rw [crossed_charging hc]
  have hdischarging : ∀ {readings} {r : Reading α} {t}, warning readings r = .some t →
      r.charging = false := by
    intro readings r t hw
    refine Bool.eq_false_iff.mpr fun hc => ?_
    rw [hcharging readings r hc] at hw
    cases hw
  refine ⟨hcharging readings r, fun hc t => warning_discharging hc, ?_, ?_⟩
  · intro before r₁ between t he hhalf hfirst hsecond
    have hc₁ := hdischarging hfirst
    obtain ⟨⟨-, -, hle₁⟩, -⟩ := (warning_discharging hc₁).mp hfirst
    obtain ⟨⟨-, harmed, -⟩, -⟩ := (warning_discharging (hdischarging hsecond)).mp hsecond
    -- Were there none, the first warning would still be what disarmed it.
    by_contra hnone
    refine harmed ⟨before, r₁, between, he, ⟨hhalf, hc₁, hle₁⟩, fun x hx hxhalf => ?_⟩
    have hx' : ¬(x.half = r.half ∧ (x.charging = true ∨ t + hysteresis < x.percent)) :=
      fun h => hnone ⟨x, hx, h⟩
    simp only [hxhalf, true_and, not_or, Bool.not_eq_true, Int.not_lt] at hx'
    exact hx'
  · unfold warning crossed after
    rw [fired_filter readings rfl]
    dsimp only
    split <;> rfl

open LowBatteryAlerts in
/-- A half warns at 19, wobbles without, and warns again after it was above 25. -/
theorem low_battery_warnings_wobble :
    ∃ x ∈ [(⟨0, 23, false⟩ : Reading Nat), ⟨1, 9, false⟩, ⟨0, 26, false⟩],
      x.half = 0 ∧ (x.charging = true ∨ 20 + hysteresis < x.percent) :=
  (low_battery_warnings [⟨0, 19, false⟩, ⟨0, 23, false⟩, ⟨1, 9, false⟩, ⟨0, 26, false⟩]
    ⟨0, 20, false⟩).2.2.1 [] _ _ 20 rfl rfl (by decide) (by decide)

end TotemZmk
