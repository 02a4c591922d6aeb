/-
Zephyr work items (`struct k_work`, `struct k_work_delayable`): where an
item is, and what the kernel calls on it do.

An item may sit on its queue, wait for a timeout, and have its handler
running, all at once. As the kernel documents them: `k_work_schedule` does
nothing to an item that is delayed, queued or being cancelled;
`k_work_reschedule` replaces a pending timeout but does not take an item off
its queue; cancelling an item whose handler runs marks it cancelling until
that handler returns, and such an item takes no submission.

* `Work.Timely`: no timeout is overdue, and every call on an item keeps it so.
-/
namespace Zephyr

/-- A work item. `queued` carries the time at which the item became due. -/
structure Work where
  delayed : Option Int
  queued : Option Int
  running : Bool
  cancelling : Bool
deriving DecidableEq, Repr

namespace Work

/-- An item at rest (`K_WORK_DEFINE`, `K_WORK_DELAYABLE_DEFINE`). -/
def idle : Work := ⟨.none, .none, false, false⟩

/-- `k_work_submit`. -/
def submit (w : Work) (now : Int) : Work :=
  if w.cancelling || w.queued.isSome then w else { w with queued := .some now }

/-- The common end of `k_work_schedule` and `k_work_reschedule`. -/
def scheduleFor (w : Work) (now delay : Int) : Work :=
  if delay = 0 then w.submit now else { w with delayed := .some (now + delay) }

/-- `k_work_schedule`. -/
def schedule (w : Work) (now delay : Int) : Work :=
  if w.delayed.isSome || w.queued.isSome || w.cancelling then w else w.scheduleFor now delay

/-- `k_work_reschedule`. -/
def reschedule (w : Work) (now delay : Int) : Work :=
  ({ w with delayed := .none } : Work).scheduleFor now delay

/-- `k_work_cancel_delayable`. -/
def cancel (w : Work) : Work :=
  { w with delayed := .none, queued := .none, cancelling := w.running }

/-- The kernel's timeout handler, run with the clock at `now`. -/
def expire (w : Work) (now : Int) : Work :=
  match w.delayed with
  | .some d => if d ≤ now then ({ w with delayed := .none } : Work).submit d else w
  | .none => w

/-- The queue's thread takes the item and enters its handler. -/
def start (w : Work) : Work := { w with queued := .none, running := true }

/-- The handler returns. -/
def finish (w : Work) : Work := { w with running := false, cancelling := false }

/-- Scheduled or queued. -/
def armed (w : Work) : Bool := w.delayed.isSome || w.queued.isSome

/-- When an armed item is, or became, due. -/
def due (w : Work) : Option Int := w.queued <|> w.delayed

@[simp] theorem armed_idle : idle.armed = false := rfl

@[simp] theorem armed_cancel (w : Work) : w.cancel.armed = false := rfl

theorem armed_eq_due (w : Work) : w.armed = w.due.isSome := by
  cases w with
  | mk d q r c => cases d <;> cases q <;> rfl

/-- No timeout is overdue, and a queued item became due in the past. -/
structure Timely (w : Work) (now : Int) : Prop where
  delayed : ∀ d, w.delayed = .some d → now < d
  queued : ∀ q, w.queued = .some q → q ≤ now

theorem Timely.idle {now : Int} : Timely idle now := ⟨by simp [Work.idle], by simp [Work.idle]⟩

theorem Timely.submit {w : Work} {now : Int} (h : Timely w now) : Timely (w.submit now) now := by
  unfold Work.submit
  split
  · exact h
  · exact ⟨h.delayed, by simp⟩

theorem Timely.scheduleFor {w : Work} {now delay : Int} (h : Timely w now) (hd : 0 ≤ delay) :
    Timely (w.scheduleFor now delay) now := by
  unfold Work.scheduleFor
  split
  · exact h.submit
  · refine ⟨fun d hd' => ?_, h.queued⟩
    simp only [Option.some.injEq] at hd'
    omega

theorem Timely.schedule {w : Work} {now delay : Int} (h : Timely w now) (hd : 0 ≤ delay) :
    Timely (w.schedule now delay) now := by
  unfold Work.schedule
  split
  · exact h
  · exact h.scheduleFor hd

theorem Timely.reschedule {w : Work} {now delay : Int} (h : Timely w now) (hd : 0 ≤ delay) :
    Timely (w.reschedule now delay) now :=
  Timely.scheduleFor (w := { w with delayed := .none }) ⟨by simp, h.queued⟩ hd

theorem Timely.start {w : Work} {now : Int} (h : Timely w now) : Timely w.start now :=
  ⟨h.delayed, by simp [Work.start]⟩

theorem Timely.finish {w : Work} {now : Int} (h : Timely w now) : Timely w.finish now :=
  ⟨h.delayed, h.queued⟩

/-- Running the timeout handler keeps up with the clock. -/
theorem Timely.expire {w : Work} {now t : Int} (h : Timely w now) (ht : now ≤ t) :
    Timely (w.expire t) t := by
  have hq : ∀ q, w.queued = .some q → q ≤ t := fun q hq => Int.le_trans (h.queued q hq) ht
  unfold Work.expire
  split
  next d hd =>
    split
    next hle =>
      unfold Work.submit
      split
      · exact ⟨by simp, hq⟩
      · exact ⟨by simp, fun q hq' => by simp only [Option.some.injEq] at hq'; omega⟩
    next hgt =>
      refine ⟨fun d' hd' => ?_, hq⟩
      rw [hd, Option.some.injEq] at hd'
      omega
  next hd =>
    refine ⟨fun d hd' => ?_, hq⟩
    rw [hd] at hd'
    cases hd'

/-! ## What the calls do to the due time -/

section

variable {w : Work} {now delay : Int}

@[simp] theorem cancelling_submit : (w.submit now).cancelling = w.cancelling := by
  unfold submit; split <;> rfl

@[simp] theorem cancelling_scheduleFor : (w.scheduleFor now delay).cancelling = w.cancelling := by
  unfold scheduleFor; split
  · exact cancelling_submit
  · rfl

@[simp] theorem cancelling_schedule : (w.schedule now delay).cancelling = w.cancelling := by
  unfold schedule; split
  · rfl
  · exact cancelling_scheduleFor

@[simp] theorem cancelling_reschedule : (w.reschedule now delay).cancelling = w.cancelling :=
  cancelling_scheduleFor

@[simp] theorem cancelling_expire : (w.expire now).cancelling = w.cancelling := by
  unfold expire
  split
  · split
    · exact cancelling_submit
    · rfl
  · rfl

@[simp] theorem running_submit : (w.submit now).running = w.running := by
  unfold submit; split <;> rfl

@[simp] theorem running_scheduleFor : (w.scheduleFor now delay).running = w.running := by
  unfold scheduleFor; split
  · exact running_submit
  · rfl

@[simp] theorem running_schedule : (w.schedule now delay).running = w.running := by
  unfold schedule; split
  · rfl
  · exact running_scheduleFor

@[simp] theorem running_reschedule : (w.reschedule now delay).running = w.running :=
  running_scheduleFor

@[simp] theorem running_expire : (w.expire now).running = w.running := by
  unfold expire
  split
  · split
    · exact running_submit
    · rfl
  · rfl

/-- The clock's passing does not change when an item is due. -/
theorem due_expire (hc : w.cancelling = false) (now : Int) :
    (w.expire now).due = w.due := by
  unfold expire
  split
  next d hd =>
    split
    · cases hq : w.queued with
      | none => simp [submit, due, hc, hq, hd]
      | some q => simp [submit, due, hc, hq]
    · rfl
  · rfl

theorem armed_expire (hc : w.cancelling = false) (now : Int) :
    (w.expire now).armed = w.armed := by
  rw [armed_eq_due, armed_eq_due, due_expire hc]

theorem delayed_submit : (w.submit now).delayed = w.delayed := by
  unfold submit; split <;> rfl

theorem delayed_scheduleFor {d : Int} (h : (w.scheduleFor now delay).delayed = .some d) :
    w.delayed = .some d ∨ d = now + delay := by
  unfold scheduleFor at h
  split at h
  · exact .inl (delayed_submit ▸ h)
  · cases h
    exact .inr rfl

/-- A timeout after `k_work_schedule` is the one before, or the one asked for. -/
theorem delayed_schedule {d : Int} (h : (w.schedule now delay).delayed = .some d) :
    w.delayed = .some d ∨ d = now + delay := by
  unfold schedule at h
  split at h
  · exact .inl h
  · exact delayed_scheduleFor h

theorem delayed_reschedule {d : Int} (h : (w.reschedule now delay).delayed = .some d) :
    d = now + delay := by
  rcases delayed_scheduleFor h with h | h
  · cases h
  · exact h

theorem delayed_expire {d : Int} (h : (w.expire now).delayed = .some d) : w.delayed = .some d := by
  unfold expire at h
  split at h
  · split at h
    · rw [delayed_submit] at h
      cases h
    · exact h
  · exact h

/-- What a timeout put onto the queue became due when the timeout was. -/
theorem queued_of_expire {d : Int} (h : (w.expire now).queued = .some d) :
    w.queued = .some d ∨ w.delayed = .some d := by
  unfold expire submit at h
  split at h
  · rename_i hd
    split at h
    · split at h
      · exact .inl h
      · exact .inr (hd.trans h)
    · exact .inl h
  · exact .inl h

theorem queued_expire (h : w.queued.isSome) : (w.expire now).queued = w.queued := by
  unfold expire
  split
  · split
    · rw [submit, if_pos (by simp [h])]
    · rfl
  · rfl

/-- A timeout that expired puts the item onto its queue. -/
theorem queued_of_expired {d : Int} (hd : w.delayed = .some d) (hle : d ≤ now)
    (hc : w.cancelling = false) : (w.expire now).queued.isSome := by
  unfold expire submit
  rw [hd]
  dsimp only
  rw [if_pos hle, hc, Bool.false_or]
  split
  · assumption
  · rfl

/-- With a delay, `k_work_reschedule` sets the timeout and nothing else. -/
theorem reschedule_eq (h : delay ≠ 0) :
    w.reschedule now delay = { w with delayed := .some (now + delay) } := by
  unfold reschedule scheduleFor
  rw [if_neg h]

/-- After `k_work_reschedule` the item is due no later than asked for. -/
theorem due_reschedule (hc : w.cancelling = false) (ht : Timely w now) (hd : 0 ≤ delay) :
    ∃ e, (w.reschedule now delay).due = .some e ∧ e ≤ now + delay := by
  unfold reschedule scheduleFor submit
  cases hq : w.queued with
  | none => by_cases h0 : delay = 0 <;> simp [hc, h0, due]
  | some q =>
    have := ht.queued q hq
    by_cases h0 : delay = 0 <;> simp [hc, h0, due] <;> omega

/-- With no delay, an armed item is due no later than before. -/
theorem due_reschedule_now {d e : Int} (hc : w.cancelling = false) (ht : Timely w now)
    (hd : w.due = .some d) (he : (w.reschedule now 0).due = .some e) : e ≤ d := by
  unfold reschedule scheduleFor submit at he
  cases hq : w.queued with
  | none =>
    have hdl : w.delayed = .some d := by simpa [due, hq] using hd
    have hlt := ht.delayed d hdl
    have he' : now = e := by simpa [due, hc, hq] using he
    omega
  | some q =>
    have hdq : q = d := by simpa [due, hq] using hd
    have heq : q = e := by simpa [due, hq] using he
    omega

/-- `k_work_schedule` leaves an armed item alone. -/
theorem schedule_armed (h : w.armed = true) : w.schedule now delay = w := by
  unfold schedule
  rw [← armed, h, Bool.true_or, if_pos rfl]

/-- After `k_work_schedule` the item is due no later than asked for, or as it
was due before. -/
theorem due_schedule (hc : w.cancelling = false) :
    ∃ e, (w.schedule now delay).due = .some e ∧ (e ≤ now + delay ∨ w.due = .some e) := by
  unfold schedule scheduleFor submit
  cases hq : w.queued <;> cases hdl : w.delayed <;> by_cases h0 : delay = 0 <;>
    simp [hc, h0, due, hq, hdl]

/-- After `k_work_schedule` an item is armed, unless it is being cancelled. -/
theorem armed_schedule (hc : w.cancelling = false) : (w.schedule now delay).armed = true := by
  have hdue : ∃ e, (w.schedule now delay).due = .some e ∧ _ := due_schedule hc
  obtain ⟨e, he, -⟩ := hdue
  rw [armed_eq_due, he, Option.isSome_some]

theorem armed_reschedule (hc : w.cancelling = false) (ht : Timely w now) (hd : 0 ≤ delay) :
    (w.reschedule now delay).armed = true := by
  obtain ⟨e, he, -⟩ := due_reschedule hc ht hd
  rw [armed_eq_due, he, Option.isSome_some]

/-- An item that is cancelled while its handler does not run is at rest. -/
theorem cancel_of_not_running (hr : w.running = false) : w.cancel = idle := by
  simp [cancel, idle, hr]

theorem finish_cancel : w.cancel.finish = idle := rfl

/-- How often the handler will run if nothing more is asked for. -/
def runs (w : Work) : Nat := (if w.delayed.isSome then 1 else 0) + if w.queued.isSome then 1 else 0

theorem runs_le_two : w.runs ≤ 2 := by
  unfold runs
  split <;> split <;> omega

theorem runs_eq_zero : w.runs = 0 ↔ w.armed = false := by
  unfold runs armed
  cases w.delayed <;> cases w.queued <;> simp

theorem runs_expire_le : (w.expire now).runs ≤ w.runs := by
  unfold expire submit runs
  split
  · rename_i d hd
    split
    · split <;> simp_all
    · exact Nat.le_refl _
  · exact Nat.le_refl _

theorem runs_reschedule_le : (w.reschedule now delay).runs ≤ w.runs + 1 := by
  unfold reschedule scheduleFor submit runs
  cases w.delayed <;> cases w.queued <;> by_cases h0 : delay = 0 <;> cases w.cancelling <;>
    simp [h0]

theorem runs_start (h : w.queued.isSome) : w.start.runs + 1 = w.runs := by
  unfold runs start
  rw [if_pos h]
  rfl

/-- How far an item is from rest: a timeout leads to the queue, and the queue
to the handler. -/
def toGo (w : Work) : Nat := (if w.delayed.isSome then 2 else 0) + if w.queued.isSome then 1 else 0

theorem toGo_eq_zero : w.toGo = 0 ↔ w.armed = false := by
  unfold toGo armed
  cases w.delayed <;> cases w.queued <;> simp

theorem toGo_start (h : w.queued.isSome) : w.start.toGo < w.toGo := by
  unfold toGo start
  rw [if_pos h]
  simp

/-- Time that passes leaves an item alone, or brings it closer to rest. -/
theorem expire_toGo (w : Work) (now : Int) : w.expire now = w ∨ (w.expire now).toGo < w.toGo := by
  unfold expire
  split
  · rename_i d hd
    split
    · refine .inr ?_
      unfold submit toGo
      split <;> simp_all
    · exact .inl rfl
  · exact .inl rfl

end

end Work

end Zephyr
