/-
A work item whose handler puts itself off by a period each time it runs.

* `Inv.step`: it is due one period after it ran last, and at no other time.
* `Apart.pairwise`: no two runs are closer than that.
* `Inv.fresh`: while the queue is late by no more than `slack`, the last run is no
  older than a period and that.
* `Once.start`: an item scheduled once runs once.
-/
import TotemZmk.Lib.Run
import TotemZmk.Lib.Work

namespace Periodic

open Trace (Run)
open Zephyr (Work)

/-- The item and the clock. -/
structure Timer where
  work : Work
  now : Int

/-- First scheduled at `t₀`, to run after `first`. -/
def boot₀ (first t₀ : Int) : Timer := ⟨Work.idle.schedule t₀ first, t₀⟩

/-- The clock passes, the handler runs and puts itself off, or it returns. -/
inductive Step (period : Int) : Timer → Option Int → Timer → Prop where
  | pass {s} (t : Int) (h : s.now ≤ t) : Step period s .none ⟨s.work.expire t, t⟩
  | run {s} (hq : s.work.queued.isSome) (hr : s.work.running = false) :
    Step period s (.some s.now) ⟨s.work.start.reschedule s.now period, s.now⟩
  | finish {s} (hr : s.work.running = true) : Step period s .none ⟨s.work.finish, s.now⟩

/-- When the next run is due, from the times of those before. -/
def dueAfter (first period t₀ : Int) : List Int → Int
  | [] => t₀ + first
  | t :: _ => t + period

/-- Times a period apart, the first not before `t₀ + first`. -/
def Apart (first period t₀ : Int) : List Int → Prop
  | [] => True
  | t :: ts => dueAfter first period t₀ ts ≤ t ∧ Apart first period t₀ ts

/-- The item is late by no more than `slack`. -/
def OnTime (slack : Int) (s : Timer) : Prop := ∀ d, s.work.due = .some d → s.now ≤ d + slack

structure Inv (first period t₀ : Int) (ts : List Int) (s : Timer) : Prop where
  due : s.work.due = .some (dueAfter first period t₀ ts)
  cancelling : s.work.cancelling = false
  timely : s.work.Timely s.now
  apart : Apart first period t₀ ts
  past : ∀ t ∈ ts, t ≤ s.now

variable {first period t₀ slack : Int} {ts : List Int} {s s' : Timer} {o : Option Int}

theorem due_scheduleFor {w : Work} {now delay : Int} (hd : 0 < delay) (hq : w.queued = .none) :
    (w.scheduleFor now delay).due = .some (now + delay) := by
  unfold Work.scheduleFor Work.due
  rw [if_neg (by omega)]
  simp [hq]

theorem inv_boot₀ (hfirst : 0 < first) : Inv first period t₀ [] (boot₀ first t₀) where
  due := due_scheduleFor hfirst rfl
  cancelling := Work.cancelling_schedule
  timely := Work.Timely.idle.schedule (by omega)
  apart := trivial
  past := by simp

theorem Inv.step (hperiod : 0 < period) (hi : Inv first period t₀ ts s) (hs : Step period s o s') :
    Inv first period t₀ (o.toList ++ ts) s' := by
  cases hs with
  | pass t h =>
    refine ⟨?_, ?_, hi.timely.expire h, hi.apart, fun u hu => Int.le_trans (hi.past u hu) h⟩
    · rw [Work.due_expire hi.cancelling]
      exact hi.due
    · rw [Work.cancelling_expire]
      exact hi.cancelling
  | run hq hr =>
    obtain ⟨d, hd⟩ := Option.isSome_iff_exists.mp hq
    have hdue : s.work.due = .some d := by simp [Work.due, hd]
    have hlate := hi.timely.queued d hd
    rw [hi.due, Option.some.injEq] at hdue
    refine ⟨due_scheduleFor hperiod rfl, ?_, hi.timely.start.reschedule (by omega), ?_, ?_⟩
    · rw [Work.cancelling_reschedule]
      exact hi.cancelling
    · have hdue' : dueAfter first period t₀ ts ≤ s.now := by omega
      exact ⟨hdue', hi.apart⟩
    · intro u hu
      rcases List.mem_cons.mp hu with hnow | hu
      · exact Int.le_of_eq hnow
      · exact hi.past u hu
  | finish hr => exact ⟨hi.due, rfl, hi.timely.finish, hi.apart, hi.past⟩

theorem Inv.run (hfirst : 0 < first) (hperiod : 0 < period)
    (hr : Run (Step period) (boot₀ first t₀) ts s) : Inv first period t₀ ts s :=
  hr.invariant (inv_boot₀ hfirst) fun hi hs => hi.step hperiod hs

/-- **While the queue is on time** the last run is no older than a period and what the
queue may be late. -/
theorem Inv.fresh (hi : Inv first period t₀ ts s) (htime : OnTime slack s) :
    s.now ≤ dueAfter first period t₀ ts + slack := htime _ hi.due

/-- **Any two runs** are a period apart. -/
theorem Apart.pairwise (hperiod : 0 ≤ period) (h : Apart first period t₀ ts) :
    ts.Pairwise fun t u => u + period ≤ t := by
  induction ts with
  | nil => exact .nil
  | cons t ts ih =>
    obtain ⟨hdue, hrest⟩ := h
    refine List.pairwise_cons.mpr ⟨?_, ih hrest⟩
    intro u hu
    cases ts with
    | nil => cases hu
    | cons v ts =>
      have hv : v + period ≤ t := hdue
      rcases List.mem_cons.mp hu with rfl | hu
      · exact hv
      · have huv : u + period ≤ v := (List.pairwise_cons.mp (ih hrest)).1 u hu
        omega

/-! ## An item that nothing schedules again -/

/-- An item that ran `n` times, and will no more than once in all. -/
structure Once (n : Nat) (w : Work) : Prop where
  single : w.delayed = .none ∨ w.queued = .none
  cancelling : w.cancelling = false
  count : n + w.armed.toNat ≤ 1

variable {n : Nat} {w : Work}

theorem Once.schedule (now delay : Int) : Once 0 (Work.idle.schedule now delay) where
  single := by
    by_cases h : delay = 0
    · exact .inl (by simp [Work.schedule, Work.scheduleFor, Work.submit, Work.idle, h])
    · exact .inr (by simp [Work.schedule, Work.scheduleFor, Work.idle, h])
  cancelling := Work.cancelling_schedule
  count := by
    have := Bool.toNat_le (Work.idle.schedule now delay).armed
    omega

theorem Once.expire (h : Once n w) (now : Int) : Once n (w.expire now) where
  single := by
    have hc := h.cancelling
    unfold Work.expire Work.submit
    rcases h.single with hd | hq
    · simp [hd]
    · cases hd : w.delayed with
      | none => simp [hd]
      | some d => by_cases hle : d ≤ now <;> simp [hle, hc, hq]
  cancelling := by
    rw [Work.cancelling_expire]
    exact h.cancelling
  count := by
    rw [Work.armed_expire h.cancelling]
    exact h.count

/-- **Once it starts** it is through. -/
theorem Once.start (h : Once n w) (hq : w.queued.isSome) : Once (n + 1) w.start where
  single := .inr rfl
  cancelling := h.cancelling
  count := by
    have hd : w.delayed = .none := by
      rcases h.single with hd | hnone
      · exact hd
      · rw [hnone] at hq
        cases hq
    have harmed : w.armed = true := by simp [Work.armed, hq]
    have hstart : w.start.armed = false := by simp [Work.armed, Work.start, hd]
    have hcount := h.count
    rw [harmed, Bool.toNat_true] at hcount
    rw [hstart, Bool.toNat_false]
    omega

theorem Once.finish (h : Once n w) : Once n w.finish := ⟨h.single, rfl, h.count⟩

end Periodic
