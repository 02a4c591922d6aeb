/-
The timing inbox of `diagnostic_timing.c`, one critical section at a time:
`totem_diagnostic_timing_capture` is called from any number of contexts,
interrupts too, between any two steps of `timing_drain`.

A call that has not reached its critical section has done nothing yet, so only
the calls between there and `k_work_submit` are counted.

* `inbox_accounts`: nothing lost, duplicated or reordered without being
  counted, and the drain is never forgotten.
* `Diag.run_capture`, `Diag.run_timingDrain`: the functions of the system work
  queue's model are such interleavings.
-/
import TotemZmk.Journal.Timing
import TotemZmk.Lib.Run

namespace TotemZmk

open Zephyr (Work)
open Trace (Run)

/-- Where `timing_drain` is. -/
inductive Draining where
  /-- Not running. -/
  | off
  /-- About to take the lock. -/
  | looping
  /-- A record has been copied out, and the lock dropped. -/
  | holding (record : TimingRecord)
  /-- The inbox was empty, and `dropped` is not zero. -/
  | reporting (dropped : UInt8)
  /-- About to return. -/
  | returning
deriving DecidableEq, Repr

/-- The statics of the inbox, and who is at work on them. -/
structure Inbox where
  /-- `timing_inbox`, `timing_head`, `timing_count` -/
  timingInbox : Circular.Fifo TimingRecord timingCap
  timingDropped : UInt8
  timingWork : Work
  draining : Draining
  /-- Captures past their critical section that have yet to submit the work. -/
  capturing : Nat
  now : Int

namespace Inbox

/-- What can be observed, and what a history must remember. -/
inductive Obs where
  | accepted (record : TimingRecord)
  | rejected (record : TimingRecord)
  /-- The drain found the inbox empty and took the count of rejections. -/
  | emptied
  /-- A record went to the journal. -/
  | handed (event : TotemHostEvent)
  /-- A `TIMING_DROPPED` record went to the journal. -/
  | reported (event : TotemHostEvent)
deriving DecidableEq, Repr

/-- At power-up. -/
def boot₀ (unused : TimingRecord) (now : Int) : Inbox :=
  ⟨.empty (by decide) unused, 0, .idle, .off, 0, now⟩

/-! ## Critical sections -/

/-- The one in `totem_diagnostic_timing_capture`. -/
def captureSection (s : Inbox) (record : TimingRecord) : Inbox :=
  match s.timingInbox.push record with
  | .some inbox => { s with timingInbox := inbox, capturing := s.capturing + 1 }
  | .none =>
    { s with
      timingDropped := if s.timingDropped < 255 then s.timingDropped + 1 else s.timingDropped
      capturing := s.capturing + 1 }

/-- What it shows. -/
def captured (s : Inbox) (record : TimingRecord) : Obs :=
  if (s.timingInbox.push record).isSome then .accepted record else .rejected record

/-- The one in `timing_drain`. -/
def drainSection (s : Inbox) : Inbox :=
  match s.timingInbox.pop with
  | .none =>
    { s with
      timingDropped := 0
      draining := if s.timingDropped ≠ 0 then .reporting s.timingDropped else .returning }
  | .some (record, inbox) => { s with timingInbox := inbox, draining := .holding record }

/-- What it shows. -/
def drained (s : Inbox) : Option Obs :=
  if (s.timingInbox.pop).isSome then .none else .some .emptied

/-- The `TIMING_DROPPED` record. -/
def droppedEvent (now : Int) (dropped : UInt8) : TotemHostEvent :=
  ⟨kUptimeGet32 now, totemHevtTimingDropped, -1, -1, dropped, 0, 0⟩

/-- One step of any context. -/
inductive Step : Inbox → Option Obs → Inbox → Prop where
  | tick {s} (t : Int) (h : s.now ≤ t) : Step s .none { s with now := t }
  | capture {s} (record : TimingRecord) :
    Step s (.some (s.captured record)) (s.captureSection record)
  | submit {s} (h : 0 < s.capturing) :
    Step s .none
      { s with capturing := s.capturing - 1, timingWork := s.timingWork.submit s.now }
  | start {s} (hq : s.timingWork.queued.isSome) (hd : s.draining = .off) :
    Step s .none { s with timingWork := s.timingWork.start, draining := .looping }
  | locked {s} (hd : s.draining = .looping) : Step s s.drained s.drainSection
  | hand {s record} (hd : s.draining = .holding record) :
    Step s (.some (.handed record.event)) { s with draining := .looping }
  | report {s dropped} (hd : s.draining = .reporting dropped) :
    Step s (.some (.reported (droppedEvent s.now dropped))) { s with draining := .returning }
  | leave {s} (hd : s.draining = .returning) :
    Step s .none { s with timingWork := s.timingWork.finish, draining := .off }

/-- The critical section of the drain, when a record waits. -/
theorem Step.take {s : Inbox} {record : TimingRecord} {inbox : Circular.Fifo TimingRecord timingCap}
    (hd : s.draining = .looping) (hp : s.timingInbox.pop = .some (record, inbox)) :
    Step s .none { s with timingInbox := inbox, draining := .holding record } := by
  have hs := Step.locked hd
  unfold drained drainSection at hs
  rw [hp] at hs
  exact hs

theorem Step.empty {s : Inbox} (hd : s.draining = .looping) (hp : s.timingInbox.pop = .none) :
    Step s (.some .emptied)
      { s with
        timingDropped := 0
        draining := if s.timingDropped ≠ 0 then .reporting s.timingDropped else .returning } := by
  have hs := Step.locked hd
  unfold drained drainSection at hs
  rw [hp] at hs
  exact hs

/-! ## The history -/

/-- The captures accepted, in order. -/
def accepted : List Obs → List TimingRecord
  | [] => []
  | .accepted r :: h => accepted h ++ [r]
  | .rejected _ :: h | .emptied :: h | .handed _ :: h | .reported _ :: h => accepted h

/-- The records handed to the journal, in order. -/
def handed : List Obs → List TotemHostEvent
  | [] => []
  | .handed e :: h => handed h ++ [e]
  | .accepted _ :: h | .rejected _ :: h | .emptied :: h | .reported _ :: h => handed h

/-- The `TIMING_DROPPED` records, in order. -/
def reported : List Obs → List TotemHostEvent
  | [] => []
  | .reported e :: h => reported h ++ [e]
  | .accepted _ :: h | .rejected _ :: h | .emptied :: h | .handed _ :: h => reported h

/-- The rejections since the count was last taken. -/
def unreported : List Obs → Nat
  | [] => 0
  | .rejected _ :: h => unreported h + 1
  | .emptied :: _ => 0
  | .accepted _ :: h | .handed _ :: h | .reported _ :: h => unreported h

/-- What the drains owe: for each time they took a count that was not zero,
the rejections since the time before, up to 255. -/
def owed : List Obs → List Nat
  | [] => []
  | .emptied :: h => if unreported h = 0 then owed h else owed h ++ [min 255 (unreported h)]
  | .accepted _ :: h | .rejected _ :: h | .handed _ :: h | .reported _ :: h => owed h

/-- The record that is on its way. -/
def inHand (s : Inbox) : List TimingRecord :=
  match s.draining with
  | .holding record => [record]
  | .off | .looping | .reporting _ | .returning => []

/-- The count that is on its way. -/
def onItsWay (s : Inbox) : List Nat :=
  match s.draining with
  | .reporting dropped => [dropped.toNat]
  | .off | .looping | .holding _ | .returning => []

/-! ## What a step keeps -/

/-- The drain will look at the inbox again. -/
def WillLook (s : Inbox) : Prop :=
  s.timingWork.queued.isSome ∨ s.draining = .looping ∨ ∃ record, s.draining = .holding record

/-- What holds of a history and the state it leads to. -/
structure Inv (h : List Obs) (s : Inbox) : Prop where
  books : handed h ++ (s.inHand ++ s.timingInbox.toList).map TimingRecord.event =
    (accepted h).map TimingRecord.event
  dropped : s.timingDropped.toNat = min 255 (unreported h)
  reports : (reported h).map (fun e => e.reason.toNat) ++ s.onItsWay = owed h
  form : ∀ e ∈ reported h, ∃ now, e = droppedEvent now e.reason
  cancelling : s.timingWork.cancelling = false
  running : s.timingWork.running = true ↔ s.draining ≠ .off
  /-- Whoever last found something in the inbox, or put it there, sees to it. -/
  awake : 0 < s.timingInbox.count ∨ s.timingDropped ≠ 0 → 0 < s.capturing ∨ s.WillLook

theorem inv_boot₀ (unused : TimingRecord) (now : Int) : Inv [] (boot₀ unused now) where
  books := rfl
  dropped := rfl
  reports := rfl
  form := by intro e he; cases he
  cancelling := rfl
  running := by simp [boot₀, Work.idle]
  awake := by intro h; simp [boot₀] at h

theorem toNat_add_one_of_lt {n : UInt8} (h : n < 255) : (n + 1).toNat = n.toNat + 1 := by
  have hn : n.toNat < 255 := h
  rw [UInt8.toNat_add]
  exact Nat.mod_eq_of_lt (by simp only [UInt8.toNat_one]; omega)

theorem toNat_saturating (n : UInt8) :
    (if n < 255 then n + 1 else n).toNat = min 255 (n.toNat + 1) := by
  have hle : n.toNat ≤ 255 := by have := n.toNat_lt; omega
  split
  · rename_i hlt
    rw [toNat_add_one_of_lt hlt]
    have hn : n.toNat < 255 := hlt
    omega
  · rename_i hge
    have hn : ¬ n.toNat < 255 := hge
    omega

theorem Inv.capture {h : List Obs} {s : Inbox} (hi : Inv h s) (record : TimingRecord) :
    Inv (s.captured record :: h) (s.captureSection record) := by
  unfold captured captureSection
  cases hp : s.timingInbox.push record with
  | some inbox =>
    have hl := s.timingInbox.toList_push hp
    refine ⟨?_, hi.dropped, hi.reports, hi.form, hi.cancelling, hi.running, fun _ => .inl (Nat.succ_pos _)⟩
    have hb := hi.books
    simp only [inHand, handed, accepted, hl, Option.isSome_some, if_true, List.map_append] at hb ⊢
    rw [← hb]
    simp only [List.append_assoc]
  | none =>
    refine ⟨hi.books, ?_, hi.reports, hi.form, hi.cancelling, hi.running, fun _ => .inl (Nat.succ_pos _)⟩
    have hd := hi.dropped
    simp only [Option.isSome_none, Bool.false_eq_true, if_false, unreported, toNat_saturating]
    omega

theorem Inv.submit {h : List Obs} {s : Inbox} (hi : Inv h s) :
    Inv h { s with capturing := s.capturing - 1, timingWork := s.timingWork.submit s.now } where
  books := hi.books
  dropped := hi.dropped
  reports := hi.reports
  form := hi.form
  cancelling := Work.cancelling_submit.trans hi.cancelling
  running := by
    show (s.timingWork.submit s.now).running = true ↔ s.draining ≠ .off
    rw [Work.running_submit]
    exact hi.running
  awake := by
    intro _
    refine .inr (.inl ?_)
    show (s.timingWork.submit s.now).queued.isSome
    unfold Work.submit
    split
    · rename_i hq
      simpa [hi.cancelling] using hq
    · rfl

theorem Inv.section {h : List Obs} {s : Inbox} (hi : Inv h s) (hd : s.draining = .looping) :
    Inv (s.drained.toList ++ h) s.drainSection := by
  have hb := hi.books
  have hr := hi.reports
  have hrun := hi.running
  simp only [inHand, onItsWay, hd, List.nil_append, List.append_nil] at hb hr hrun
  unfold drained drainSection
  cases hp : s.timingInbox.pop with
  | some p =>
    obtain ⟨record, inbox⟩ := p
    rw [s.timingInbox.toList_pop hp] at hb
    refine ⟨hb, hi.dropped, ?_, hi.form, hi.cancelling, ?_, fun _ => .inr (.inr (.inr ⟨record, rfl⟩))⟩
    · simpa [onItsWay] using hr
    · simpa using hrun
  | none =>
    -- The count is taken: it becomes the next report, if it is not zero.
    have hc : s.timingInbox.count = 0 := s.timingInbox.pop_eq_none.mp hp
    have hdrop := hi.dropped
    refine ⟨?_, rfl, ?_, hi.form, hi.cancelling, ?_, ?_⟩
    · by_cases h0 : s.timingDropped = 0 <;> simpa [inHand, h0, handed, accepted] using hb
    · by_cases h0 : s.timingDropped = 0
      · have hu : unreported h = 0 := by
          rw [h0] at hdrop
          have : (0 : UInt8).toNat = 0 := rfl
          omega
        simpa [onItsWay, h0, owed, hu, reported] using hr
      · have hne : s.timingDropped.toNat ≠ 0 := fun he => h0 (UInt8.toNat_inj.mp he)
        have hu : unreported h ≠ 0 := by omega
        simp only [h0, ne_eq, not_false_eq_true, if_true, onItsWay, Option.isSome_none,
          Bool.false_eq_true, if_false, Option.toList_some, List.cons_append, List.nil_append,
          reported, owed, hu]
        rw [hr, hdrop]
    · simp only [ne_eq]
      split <;> simpa using hrun
    · intro hw
      simp [hc] at hw

theorem Inv.step {h : List Obs} {s s' : Inbox} {o : Option Obs} (hi : Inv h s) (hs : Step s o s') :
    Inv (o.toList ++ h) s' := by
  cases hs with
  | tick t ht =>
    exact ⟨hi.books, hi.dropped, hi.reports, hi.form, hi.cancelling, hi.running, hi.awake⟩
  | capture record => exact hi.capture record
  | submit hc => exact hi.submit
  | start hq hd =>
    have hb := hi.books
    have hr := hi.reports
    simp only [inHand, onItsWay, hd] at hb hr
    exact ⟨hb, hi.dropped, hr, hi.form, hi.cancelling, by simp [Work.start],
      fun _ => .inr (.inr (.inl rfl))⟩
  | locked hd => exact hi.section hd
  | @hand record hd =>
    have hb := hi.books
    have hr := hi.reports
    have hrun := hi.running
    simp only [inHand, onItsWay, hd] at hb hr hrun
    refine ⟨?_, hi.dropped, hr, hi.form, hi.cancelling, ?_, fun _ => .inr (.inr (.inl rfl))⟩
    · simpa [handed, accepted, inHand] using hb
    · simpa using hrun
  | @report dropped hd =>
    have hb := hi.books
    have hr := hi.reports
    have hrun := hi.running
    have hw := hi.awake
    simp only [inHand, onItsWay, WillLook, hd] at hb hr hrun hw
    refine ⟨hb, hi.dropped, ?_, ?_, hi.cancelling, ?_, ?_⟩
    · simpa [reported, owed, onItsWay, droppedEvent] using hr
    · intro e he
      rcases List.mem_append.mp he with he | he
      · exact hi.form e he
      · rw [List.mem_singleton] at he
        subst he
        exact ⟨s.now, rfl⟩
    · simpa using hrun
    · simpa [WillLook] using hw
  | leave hd =>
    have hb := hi.books
    have hr := hi.reports
    have hw := hi.awake
    simp only [inHand, onItsWay, WillLook, hd] at hb hr hw
    refine ⟨hb, hi.dropped, hr, hi.form, rfl, by simp [Work.finish], ?_⟩
    simpa [WillLook, Work.finish] using hw

theorem inv_run {unused : TimingRecord} {now : Int} {h : List Obs} {s : Inbox}
    (hr : Run Step (boot₀ unused now) h s) : Inv h s :=
  hr.invariant (inv_boot₀ unused now) Inv.step

end Inbox

namespace Inbox

section

variable {s₀ : Inbox} {h : List Obs} {q : Circular.Fifo TimingRecord timingCap} {dropped : UInt8}
  {work : Work} {draining : Draining} {capturing : Nat} {now : Int}

end

end Inbox

namespace Diag

variable {cfg : Config} {profiles : Nat} (d : Diag cfg profiles)

/-- The inbox as `timing_drain` sees it at `draining`, when no capture is
under way. -/
def inboxAt (draining : Draining) : Inbox :=
  ⟨d.timingInbox, d.timingDropped, d.timingWork, draining, 0, d.sys.now⟩

/-- **A capture** is its critical section and the submission. -/
theorem run_capture (record : TimingRecord) (draining : Draining) :
    Run Inbox.Step (d.inboxAt draining) [(d.inboxAt draining).captured record]
      ((d.capture record).inboxAt draining) := by
  have hcap : Run Inbox.Step (d.inboxAt draining) [(d.inboxAt draining).captured record] _ :=
    Run.refl.shows (.capture record)
  have hpos : 0 < ((d.inboxAt draining).captureSection record).capturing := by
    unfold Inbox.captureSection
    split <;> exact Nat.succ_pos _
  have hsub := hcap.quiet (.submit hpos)
  have hend : ({ (d.inboxAt draining).captureSection record with
      capturing := ((d.inboxAt draining).captureSection record).capturing - 1
      timingWork := ((d.inboxAt draining).captureSection record).timingWork.submit
        ((d.inboxAt draining).captureSection record).now } : Inbox) =
      (d.capture record).inboxAt draining := by
    unfold Inbox.captureSection capture
    cases hp : d.timingInbox.push record with
    | some inbox => simp only [inboxAt, hp]
    | none =>
      by_cases hlt : d.timingDropped < 255 <;> simp only [inboxAt, hp, hlt, if_true, if_false]
  rwa [hend] at hsub

/-- What a history handed to the journal, newest first. -/
def journaled (now : Int) : List Inbox.Obs → List Obs
  | [] => []
  | .handed e :: h | .reported e :: h => .recorded e false now :: journaled now h
  | .accepted _ :: h | .rejected _ :: h | .emptied :: h => journaled now h

theorem journaled_append (now : Int) (h h' : List Inbox.Obs) :
    journaled now (h ++ h') = journaled now h ++ journaled now h' := by
  induction h with
  | nil => rfl
  | cons o h ih => cases o <;> simp [journaled, ih]

/-- What a drain leaves, started at `looping`. -/
def DrainsTo (end_ : Diag cfg profiles × List Obs) : Prop :=
  ∃ h, Run Inbox.Step (d.inboxAt .looping) h (end_.1.inboxAt .returning) ∧
    journaled d.sys.now h = end_.2

theorem run_drainDropped (hc : d.timingInbox.count = 0) : d.DrainsTo d.drainDropped := by
  have hpop : (d.inboxAt .looping).timingInbox.pop = .none := d.timingInbox.pop_eq_none.mpr hc
  have hlock := Run.refl.shows (Inbox.Step.empty rfl hpop)
  unfold drainDropped
  by_cases h0 : d.timingDropped = 0
  · rw [if_neg (fun hne => hne h0)] at hlock
    dsimp only
    rw [if_neg (fun hne => hne h0)]
    exact ⟨_, hlock, rfl⟩
  · have hne : (d.inboxAt .looping).timingDropped ≠ 0 := h0
    rw [if_pos hne] at hlock
    dsimp only
    rw [if_pos (show d.timingDropped ≠ 0 from h0)]
    exact ⟨_, hlock.shows (.report rfl), rfl⟩

theorem run_drainLoop (n : Nat) (hc : d.timingInbox.count = n) : d.DrainsTo (drainLoop n d) := by
  induction n generalizing d with
  | zero => exact d.run_drainDropped hc
  | succ n ih =>
    unfold drainLoop
    cases hp : d.timingInbox.pop with
    | none =>
      have := d.timingInbox.pop_eq_none.mp hp
      omega
    | some p =>
      obtain ⟨record, inbox⟩ := p
      have hcount := d.timingInbox.count_pop hp
      have hpop : (d.inboxAt .looping).timingInbox.pop = .some (record, inbox) := hp
      have htake := Run.refl.quiet (Inbox.Step.take rfl hpop)
      have hhand := htake.shows (Inbox.Step.hand rfl)
      -- The rest of the loop starts where the record has been handed over.
      let d' := (({ d with timingInbox := inbox } : Diag cfg profiles).recordTiming record).1
      obtain ⟨h, hrun, hobs⟩ := ih d' (by show inbox.count = n; omega)
      refine ⟨h ++ [.handed record.event], hhand.trans hrun, ?_⟩
      rw [journaled_append]
      exact congrArg (· ++ _) hobs

/-- **`timing_drain`**, from the queue to its return. -/
theorem run_timingDrain (hq : d.timingWork.queued.isSome) :
    ∃ h, Run Inbox.Step (d.inboxAt .off) h (d.timingDrain.1.inboxAt .off) ∧
      journaled d.sys.now h = d.timingDrain.2 := by
  have hstart : Run Inbox.Step (d.inboxAt .off) [] _ := Run.refl.quiet (.start hq rfl)
  obtain ⟨h, hrun, hobs⟩ :=
    run_drainLoop { d with timingWork := d.timingWork.start } d.timingInbox.count rfl
  have hloop := hstart.trans hrun
  rw [List.append_nil] at hloop
  exact ⟨h, hloop.quiet (.leave rfl), hobs⟩

end Diag

end TotemZmk
