/-
The journal comes to rest: the records its own saves make never keep it
writing.

A save makes two timing records, or four when the boot counter is saved too, but takes
a whole block of events, and `timing_drain` cannot run inside it. So once
nothing else happens, at most `p / (BLOCK_EVENTS - 4) + 2` blocks are written for `p`
unsaved events, and then `persist_work` stays off. Past the last event
number saved events are written again, and more blocks than that
(`rewritten_past_last_number`).

* `Quiet`: what the system work queue does when nothing else happens.
* `Quiet.backlog`: a quiet step is one of a writer whose writes make work.
* `journal_comes_to_rest`: the theorem about the keyboard.
-/
import TotemZmk.Lib.Backlog
import TotemZmk.Journal.Timing

namespace TotemZmk

open Zephyr (Work)

variable {cfg : Config} {profiles : Nat} {tr : List Obs}

/-- No call of the journal's functions is in progress. -/
structure Sys.Idle (s : Sys cfg) : Prop where
  inflight : s.inflight = .none
  handlerWaiting : s.handlerWaiting = false
  loadCall : s.loadCall = .none

/-! ## The work item's handler -/

namespace HostEventLog

variable (j : HostEventLog cfg) (now : Int)

theorem running_schedulePersistCoalesced (urgent : Bool) :
    (j.schedulePersistCoalesced now urgent).persistWork.running = j.persistWork.running := by
  unfold schedulePersistCoalesced
  split
  · rfl
  · split
    · exact Work.running_reschedule
    · exact Work.running_schedule

theorem running_recordEvent (e : TotemHostEvent) (persist : Bool) :
    (j.recordEvent now e persist).persistWork.running = j.persistWork.running := by
  cases persist with
  | false => rfl
  | true =>
    obtain ⟨j₁, urgent, he, hw, -, -⟩ := j.recordEvent_persist now e
    rw [he, running_schedulePersistCoalesced, hw]

theorem running_persistForm :
    (j.persistForm now).1.persistWork.running = j.persistWork.running := by
  unfold persistForm
  split
  · rfl
  · split
    · exact j.running_schedulePersistCoalesced now true
    · split <;> rfl

theorem running_persistFinish (call : PersistCall) (err : Int) :
    (j.persistFinish now call err).persistWork.running = j.persistWork.running := by
  obtain ⟨j₁, hw, -, -, hor⟩ := j.persistFinish_cases now call err
  rcases hor with he | ⟨he, -⟩
  · rw [he, running_schedulePersistCoalesced, hw]
  · rw [he, hw]

end HostEventLog

theorem Reach.running {flash : Flash} {s : Sys cfg} (h : Reach cfg flash tr s)
    (hr : s.j.persistWork.running = true) :
    s.handlerWaiting = true ∨ ∃ call, s.inflight = .some (call, true) := by
  induction h with
  | boot => cases hr
  | @step tr s obs s' _ hs ih =>
    cases hs with
    | tick t ht => exact ih (Work.running_expire.symm.trans hr)
    | record r => exact ih ((s.j.running_recordEvent s.now _ true).symm.trans hr)
    | recordTiming e => exact ih ((s.j.running_recordEvent s.now e false).symm.trans hr)
    | settingsSet slot bytes _ _ _ _ =>
      rw [(s.j.settingsSetStored_work slot bytes).1] at hr
      exact ih hr
    | load _ _ =>
      rw [s.j.zmkSettingsLoaded_work.1] at hr
      exact ih hr
    | bootRecord _ => exact ih ((s.j.running_recordEvent s.now _ true).symm.trans hr)
    | @loadReturn p _ =>
      cases p
      · exact ih hr
      · exact ih ((s.j.running_schedulePersistCoalesced s.now true).symm.trans hr)
    | workRun _ _ => exact .inl rfl
    | persistSkip byHandler hi _ hf =>
      have hform := s.j.running_persistForm s.now
      rw [hf] at hform
      cases byHandler
      · exact ih (hform.symm.trans hr)
      · cases hr
    | @persistForm byHandler j' call hi _ hf =>
      have hform := s.j.running_persistForm s.now
      rw [hf] at hform
      cases byHandler
      · rcases ih (hform.symm.trans hr) with hw | ⟨call', hc⟩
        · exact .inl hw
        · rw [hi] at hc
          cases hc
      · exact .inr ⟨call, rfl⟩
    | @persistEnd call byHandler counterErr err hi =>
      have hfinish := s.j.running_persistFinish s.now call err
      cases byHandler
      · rcases ih (hfinish.symm.trans hr) with hw | ⟨call', hc⟩
        · exact .inl hw
        · rw [hi] at hc
          cases hc
      · cases hr
    | reboot bd _ _ => cases hr

/-! ## What is not saved -/

/-- The events in the ring that are not saved. -/
def HostEventLog.unsaved (j : HostEventLog cfg) : Nat :=
  min (j.ringSeq.toNat - j.persistedEventSeq.toNat) j.ring.count

namespace HostEventLog

variable {j : HostEventLog cfg} {now : Int} {call : PersistCall}

/-- A call that comes too soon is deferred until the rate limit allows it. -/
theorem persistForm_soon (hr : j.journalReady = true)
    (hsoon : j.lastPersistUptimeMs ≠ 0 ∧ now - j.lastPersistUptimeMs < cfg.persistMinIntervalMs) :
    j.persistForm now = ({ j with
      persistRequested := true
      persistWork := { j.persistWork with
        delayed := .some (j.lastPersistUptimeMs + cfg.persistMinIntervalMs) } }, .none) := by
  rw [persistForm, if_neg (by simp [hr]), if_pos hsoon, schedulePersistCoalesced]
  simp only [hr, Bool.not_true, Bool.false_eq_true, if_false, if_true, persistWait]
  rw [if_pos hsoon, Work.reschedule, Work.scheduleFor, if_neg (by omega)]
  have hdue : now + (cfg.persistMinIntervalMs - (now - j.lastPersistUptimeMs)) =
      j.lastPersistUptimeMs + cfg.persistMinIntervalMs := by omega
  rw [hdue]

/-- What a save that succeeds leaves: the next one is requested exactly when
events are left. -/
theorem persistFinish_ok (hr : j.journalReady = true) (hp : j.persistRequested = false) :
    (j.persistFinish now call 0).ring = j.ring ∧ (j.persistFinish now call 0).ringSeq = j.ringSeq ∧
      (j.persistFinish now call 0).persistedEventSeq = call.lastCopiedSeq ∧
      (j.persistFinish now call 0).lastPersistUptimeMs = now ∧
      (j.persistFinish now call 0).journalReady = true ∧
      (j.persistFinish now call 0).persistWork =
        if call.lastCopiedSeq < j.ringSeq then
          j.persistWork.reschedule now (if now = 0 then 0 else cfg.persistMinIntervalMs)
        else j.persistWork := by
  unfold persistFinish
  simp only [ne_eq, not_true_eq_false, if_false, hp, Bool.false_eq_true, false_or]
  split
  · refine ⟨rfl, rfl, rfl, rfl, hr, ?_⟩
    simp only [schedulePersistCoalesced, hr, Bool.not_true, Bool.false_eq_true, if_false, if_true,
      persistWait]
    congr 1
    have := cfg.persistMin_pos
    by_cases hn : now = 0
    · rw [if_pos hn, if_neg (fun h => h.1 hn)]
    · rw [if_neg hn, if_pos ⟨hn, by omega⟩]
      omega
  · exact ⟨rfl, rfl, rfl, rfl, hr, rfl⟩

/-- The block takes the oldest unsaved events, as many as it has room for. -/
theorem unsaved_form (hc : Counts j.ring.count j.ringSeq j.persistedEventSeq)
    (hf : Formed cfg j.ring j.ringSeq j.persistedEventSeq call) :
    min (j.ringSeq.toNat - call.lastCopiedSeq.toNat) j.ring.count + min j.unsaved cfg.blockEvents =
      j.unsaved := by
  have hunsaved : j.unsaved = j.ringSeq.toNat + 1 - call.block.first := by
    have := hc.count_le
    have := hc.persisted_le
    rw [unsaved, hf.first_eq]
    omega
  have htaken : call.block.count.toNat = min j.unsaved cfg.blockEvents := by
    rw [hunsaved, hf.count_eq]
  have hleft : j.ringSeq.toNat - call.lastCopiedSeq.toNat = j.unsaved - call.block.count.toNat := by
    have := hf.first_le
    have := hf.count_pos
    rw [hf.last_eq, TotemDiagBlock.last, hunsaved]
    omega
  have hle : j.unsaved ≤ j.ring.count := Nat.min_le_right _ _
  rw [hleft, ← htaken]
  omega

theorem unsaved_pos (hc : Counts j.ring.count j.ringSeq j.persistedEventSeq) :
    0 < j.unsaved ↔ ¬ j.ringSeq < j.firstNew := by
  have := hc.persisted_le
  rw [ringSeq_lt_firstNew hc, unsaved, ← UInt32.toNat_inj]
  omega

/-- How often the handler will run and may write: when the item is on its
queue and waits for the end of the rate limit, its first run is deferred. -/
def runsDue (j : HostEventLog cfg) : Nat :=
  if j.persistWork.queued.isSome ∧ j.lastPersistUptimeMs ≠ 0 ∧
      j.persistWork.delayed = .some (j.lastPersistUptimeMs + cfg.persistMinIntervalMs) then 1
  else j.persistWork.runs

theorem runsDue_le_runs (j : HostEventLog cfg) : j.runsDue ≤ j.persistWork.runs := by
  unfold runsDue
  split
  · rename_i h
    rw [Work.runs, if_pos h.1]
    omega
  · exact Nat.le_refl _

theorem runsDue_le_one {j : HostEventLog cfg} (h : j.persistWork.queued = .none) : j.runsDue ≤ 1 := by
  refine Nat.le_trans j.runsDue_le_runs ?_
  rw [Work.runs, h]
  split <;> simp

theorem runsDue_le_two (j : HostEventLog cfg) : j.runsDue ≤ 2 := j.runsDue_le_runs.trans Work.runs_le_two

theorem runsDue_eq_zero : j.runsDue = 0 ↔ j.persistWork.armed = false := by
  rw [← Work.runs_eq_zero]
  unfold runsDue
  split
  · rename_i h
    have : j.persistWork.runs ≠ 0 := by
      rw [Work.runs, if_pos h.1]
      omega
    omega
  · exact Iff.rfl

theorem runsDue_pos (h : j.persistWork.queued.isSome) : 0 < j.runsDue := by
  have : j.runsDue ≠ 0 := by
    rw [Ne, runsDue_eq_zero, Work.armed, h, Bool.or_true]
    simp
  omega

theorem runsDue_expire (j : HostEventLog cfg) (t : Int) :
    runsDue { j with persistWork := j.persistWork.expire t } ≤ j.runsDue := by
  have hle : runsDue { j with persistWork := j.persistWork.expire t } ≤ (j.persistWork.expire t).runs :=
    runsDue_le_runs _
  have hruns : (j.persistWork.expire t).runs ≤ j.persistWork.runs := Work.runs_expire_le
  by_cases h : j.persistWork.queued.isSome ∧ j.lastPersistUptimeMs ≠ 0 ∧
      j.persistWork.delayed = .some (j.lastPersistUptimeMs + cfg.persistMinIntervalMs)
  · have hold : j.runsDue = 1 := if_pos h
    rw [hold]
    -- The timeout is still pending, or has found the item on its queue.
    by_cases hd : (j.persistWork.expire t).delayed = .none
    · refine hle.trans ?_
      rw [Work.runs, hd]
      split <;> split <;> simp_all
    · obtain ⟨d, hd⟩ := Option.ne_none_iff_exists'.mp hd
      have hsame := Work.delayed_expire hd
      have hexp : j.persistWork.expire t = j.persistWork := by
        unfold Work.expire at hd ⊢
        rw [hsame] at hd ⊢
        dsimp only at hd ⊢
        split
        · rename_i hdue
          rw [if_pos hdue, Work.delayed_submit] at hd
          cases hd
        · rfl
      rw [hexp]
      exact Nat.le_of_eq hold
  · have hold : j.runsDue = j.persistWork.runs := if_neg h
    omega

end HostEventLog

namespace Diag

/-- The events the next `timing_drain` records. -/
def waiting (d : Diag cfg profiles) : Nat :=
  d.timingInbox.count + if d.timingDropped = 0 then 0 else 1

/-- The events that are not saved, in the ring or on their way there. -/
def unpersisted (d : Diag cfg profiles) : Nat := d.sys.j.unsaved + d.waiting

@[simp] theorem waiting_tick (d : Diag cfg profiles) (t : Int) : (d.tick t).waiting = d.waiting := rfl

section

variable (d : Diag cfg profiles)

theorem waiting_capture (r : TimingRecord) : (d.capture r).waiting ≤ d.waiting + 1 := by
  unfold capture waiting
  cases hpush : d.timingInbox.push r with
  | some inbox =>
    have := d.timingInbox.count_push hpush
    dsimp only
    omega
  | none =>
    by_cases hd : d.timingDropped < 255
    · simp only [if_pos hd]
      split <;> split <;> omega
    · simp only [if_neg hd]
      omega

theorem waiting_wrapSettingsSaveOne (name : List Char) (save : Save) :
    (d.wrapSettingsSaveOne name save).waiting ≤ d.waiting + 2 := by
  unfold wrapSettingsSaveOne timingCapture
  refine (waiting_capture _ _).trans ?_
  exact Nat.succ_le_succ (waiting_capture { d with writeSequence := d.writeSequence + 1 } _)

theorem waiting_bootDiagnosticsPersist (counter : Save) :
    (d.bootDiagnosticsPersist counter).waiting ≤
      d.waiting + if d.sys.boot.counterPending then 2 else 0 := by
  unfold bootDiagnosticsPersist
  split
  · exact d.waiting_wrapSettingsSaveOne _ counter
  · exact Nat.le_refl _

end

/-! ## `timing_drain` -/

/-- What the drain does to the journal: it records `n` events. -/
structure Drained (d d' : Diag cfg profiles) (obs : List Obs) (n : Nat) : Prop where
  sys : ∃ ring, ring.count ≤ d.sys.j.ring.count + n ∧
    d'.sys = { d.sys with j := { d.sys.j with
      ring := ring
      ringSeq := d.sys.j.ringSeq + UInt32.ofNat n } }
  waiting : d'.waiting = 0
  length_obs : obs.length = n
  recorded : ∀ o ∈ obs, ∃ e, o = .recorded e false d.sys.now

theorem drained_drainDropped (d : Diag cfg profiles) (h : d.timingInbox.count = 0) :
    Drained d d.drainDropped.1 d.drainDropped.2 d.waiting := by
  unfold drainDropped waiting
  dsimp only
  by_cases hd : d.timingDropped = 0
  · rw [if_neg (by simp [hd]), if_pos hd, h]
    refine ⟨⟨d.sys.j.ring, by omega, ?_⟩, ?_, rfl, by simp⟩
    · simp
    · simp [Diag.waiting, h]
  · rw [if_pos hd, if_neg hd, h]
    refine ⟨⟨d.sys.j.ring.push _, ?_, rfl⟩, ?_, rfl, ?_⟩
    · rw [Circular.Ring.count_push]
      omega
    · simp [recordTiming, withJournal, Diag.waiting, h]
    · intro o ho
      exact ⟨_, List.mem_singleton.mp ho⟩

theorem Drained.cons {d d' : Diag cfg profiles} {obs : List Obs} {n : Nat} (r : TimingRecord)
    (h : Drained (d.recordTiming r).1 d' obs n) : Drained d d' (obs ++ (d.recordTiming r).2) (n + 1) := by
  obtain ⟨ring, hring, hsys⟩ := h.sys
  refine ⟨⟨ring, ?_, ?_⟩, h.waiting, ?_, ?_⟩
  · have hpush : (d.recordTiming r).1.sys.j.ring.count ≤ d.sys.j.ring.count + 1 := by
      show (d.sys.j.ring.push r.event).count ≤ _
      rw [Circular.Ring.count_push]
      omega
    omega
  · have hseq : d.sys.j.ringSeq + UInt32.ofNat (n + 1) = d.sys.j.ringSeq + 1 + UInt32.ofNat n := by
      rw [UInt32.ofNat_add, UInt32.add_comm (UInt32.ofNat n), UInt32.add_assoc]
      rfl
    rw [hsys, hseq]
    rfl
  · rw [List.length_append, h.length_obs]
    rfl
  · intro o ho
    rcases List.mem_append.mp ho with ho | ho
    · exact h.recorded o ho
    · exact ⟨r.event, List.mem_singleton.mp ho⟩

theorem drained_drainLoop (d : Diag cfg profiles) (n : Nat) (h : d.timingInbox.count = n) :
    Drained d (drainLoop n d).1 (drainLoop n d).2 d.waiting := by
  induction n generalizing d with
  | zero => exact d.drained_drainDropped h
  | succ n ih =>
    unfold drainLoop
    cases hpop : d.timingInbox.pop with
    | none =>
      rw [Circular.Fifo.pop_eq_none] at hpop
      omega
    | some rest =>
      obtain ⟨record, inbox⟩ := rest
      have hcount := d.timingInbox.count_pop hpop
      have hrest := ih (({ d with timingInbox := inbox } : Diag cfg profiles).recordTiming record).1
        (show inbox.count = n by omega)
      have hwaiting : (({ d with timingInbox := inbox } : Diag cfg profiles).recordTiming record).1.waiting + 1 =
          d.waiting := by
        show (inbox.count + if d.timingDropped = 0 then 0 else 1) + 1 = d.waiting
        rw [Diag.waiting, hcount]
        omega
      rw [← hwaiting]
      have hcons := hrest.cons record
      exact ⟨hcons.sys, hcons.waiting, hcons.length_obs, hcons.recorded⟩

/-- **`timing_drain` records what waits, and requests nothing.** -/
theorem drained_timingDrain (d : Diag cfg profiles) :
    Drained d d.timingDrain.1 d.timingDrain.2 d.waiting := by
  have hloop := drained_drainLoop { d with timingWork := d.timingWork.start } _ rfl
  exact ⟨hloop.sys, hloop.waiting, hloop.length_obs, hloop.recorded⟩

/-! ## `persist_work_handler` -/

section

variable {d : Diag cfg profiles} {counter block : Save}

theorem persistWorkHandler_soon (hr : d.sys.j.journalReady = true)
    (hsoon : d.sys.j.lastPersistUptimeMs ≠ 0 ∧
      d.sys.now - d.sys.j.lastPersistUptimeMs < cfg.persistMinIntervalMs) :
    d.persistWorkHandler counter block = ({ d with sys := { d.sys with
      j := { d.sys.j with
        persistRequested := true
        persistWork :=
          ⟨.some (d.sys.j.lastPersistUptimeMs + cfg.persistMinIntervalMs), .none, false, false⟩ }
      handlerWaiting := false } }, []) := by
  unfold persistWorkHandler totemHostEventLogPersist
  dsimp only
  rw [HostEventLog.persistForm_soon (by exact hr) (by exact hsoon)]
  rfl

theorem persistWorkHandler_done (hr : d.sys.j.journalReady = true)
    (hsoon : ¬ (d.sys.j.lastPersistUptimeMs ≠ 0 ∧
      d.sys.now - d.sys.j.lastPersistUptimeMs < cfg.persistMinIntervalMs))
    (hnew : d.sys.j.ringSeq < d.sys.j.firstNew) :
    d.persistWorkHandler counter block = ({ d with sys := { d.sys with
      j := { d.sys.j with
        persistRequested := false
        persistWork := ⟨d.sys.j.persistWork.delayed, .none, false, false⟩ }
      handlerWaiting := false } }, []) := by
  unfold persistWorkHandler totemHostEventLogPersist
  dsimp only
  have hform : HostEventLog.persistForm { d.sys.j with persistWork := d.sys.j.persistWork.start }
      d.sys.now = ({ d.sys.j with
        persistWork := d.sys.j.persistWork.start
        persistRequested := false }, .none) := by
    rw [HostEventLog.persistForm, if_neg (by simp [hr]), if_neg hsoon]
    exact if_pos hnew
  rw [hform]
  rfl

/-- Once the counter is saved it is not pending; the journal only waits. -/
theorem bootDiagnosticsPersist_ok (d : Diag cfg profiles) (hc : counter.err = 0) :
    d.sys.now ≤ (d.bootDiagnosticsPersist counter).sys.now ∧
      (∃ w : Work, w.runs ≤ d.sys.j.persistWork.runs ∧
        (d.bootDiagnosticsPersist counter).sys.j = { d.sys.j with persistWork := w }) ∧
      (d.bootDiagnosticsPersist counter).sys.boot.counterPending = false := by
  unfold bootDiagnosticsPersist
  split
  · rename_i hp
    simp only [sys_wrapSettingsSaveOne, tick]
    refine ⟨Int.le_add_of_nonneg_right (by omega), ⟨_, Work.runs_expire_le, rfl⟩, ?_⟩
    rw [totemBootDiagnosticsPersist, if_pos ⟨hp, hc⟩]
  · rename_i hp
    exact ⟨Int.le_refl _, ⟨_, Nat.le_refl _, rfl⟩, by simpa using hp⟩

/-- What a save that succeeds leaves of the keyboard, with the work item as
`w` when the flash is written. -/
structure Wrote (d d' : Diag cfg profiles) (obs : List Obs) (call : PersistCall) (w : Work) : Prop where
  now_le : d.sys.now ≤ d'.sys.now
  ring : d'.sys.j.ring = d.sys.j.ring
  ringSeq : d'.sys.j.ringSeq = d.sys.j.ringSeq
  persisted : d'.sys.j.persistedEventSeq = call.lastCopiedSeq
  last : d'.sys.j.lastPersistUptimeMs = d'.sys.now
  work : d'.sys.j.persistWork = (if call.lastCopiedSeq < d.sys.j.ringSeq then
      w.reschedule d'.sys.now (if d'.sys.now = 0 then 0 else cfg.persistMinIntervalMs)
    else w).finish
  runs : w.runs + 1 ≤ d.sys.j.persistWork.runs
  ready : d'.sys.j.journalReady = true
  counterPending : d'.sys.boot.counterPending = false
  waiting : d'.waiting ≤ d.waiting + 2 + if d.sys.boot.counterPending then 2 else 0
  obs : obs = [.saved call.block true d'.sys.now, .formed call.block d.sys.now]

theorem wrote_persistWorkHandler (hr : d.sys.j.journalReady = true)
    (hq : d.sys.j.persistWork.queued.isSome)
    (hsoon : ¬ (d.sys.j.lastPersistUptimeMs ≠ 0 ∧
      d.sys.now - d.sys.j.lastPersistUptimeMs < cfg.persistMinIntervalMs))
    (hnew : ¬ d.sys.j.ringSeq < d.sys.j.firstNew) (hc : counter.err = 0) (hb : block.err = 0) :
    ∃ w, Wrote d (d.persistWorkHandler counter block).1 (d.persistWorkHandler counter block).2
      ⟨d.sys.j.persistBlock, d.sys.j.nextSlot,
        d.sys.j.firstNew + UInt32.ofNat d.sys.j.blockCount - 1⟩ w := by
  unfold persistWorkHandler totemHostEventLogPersist
  dsimp only
  have hform : HostEventLog.persistForm { d.sys.j with persistWork := d.sys.j.persistWork.start }
      d.sys.now = ({ d.sys.j with
        persistWork := d.sys.j.persistWork.start
        journalSeq := d.sys.j.journalSeq + 1
        persistRequested := false }, .some ⟨d.sys.j.persistBlock, d.sys.j.nextSlot,
          d.sys.j.firstNew + UInt32.ofNat d.sys.j.blockCount - 1⟩) :=
    HostEventLog.persistForm_eq hr hsoon hnew
  generalize PersistCall.mk _ _ _ = call at hform ⊢
  rw [hform]
  dsimp only
  -- The counter's save, then the block's.
  generalize hd₁ : Diag.withJournal _ _ = d₁
  have hwaiting := (waiting_wrapSettingsSaveOne (d₁.bootDiagnosticsPersist counter) (slotKey call.slot)
    block).trans (Nat.add_le_add_right (d₁.waiting_bootDiagnosticsPersist counter) 2)
  obtain ⟨hnow, ⟨w, hw, hj⟩, hpending⟩ := d₁.bootDiagnosticsPersist_ok hc
  generalize d₁.bootDiagnosticsPersist counter = d₂ at *
  have hsys := d₂.sys_wrapSettingsSaveOne (slotKey call.slot) block
  generalize d₂.wrapSettingsSaveOne (slotKey call.slot) block = d₃ at *
  have hj₃ : d₃.sys.j = { d₁.sys.j with persistWork := w.expire (d₂.sys.now + block.ms) } := by
    rw [hsys, tick, hj]
  have hnow₃ : d₃.sys.now = d₂.sys.now + block.ms := by rw [hsys, tick]
  subst hd₁
  obtain ⟨hring, hseq, hpers, hlast, hready, hwork⟩ := @HostEventLog.persistFinish_ok cfg d₃.sys.j
    d₃.sys.now call (by rw [hj₃]; exact hr) (by rw [hj₃]; rfl)
  refine ⟨w.expire (d₂.sys.now + block.ms), ?_⟩
  rw [hb]
  exact
    { now_le := by
        show d.sys.now ≤ d₃.sys.now
        rw [hnow₃]
        exact Int.le_trans hnow (Int.le_add_of_nonneg_right (by omega))
      ring := hring.trans (by rw [hj₃]; rfl)
      ringSeq := hseq.trans (by rw [hj₃]; rfl)
      persisted := hpers
      last := hlast
      work := by
        refine (congrArg Work.finish hwork).trans ?_
        rw [hj₃]
        rfl
      runs := by
        have hstart := Work.runs_start hq
        have hexp : (w.expire (d₂.sys.now + block.ms)).runs ≤ w.runs := Work.runs_expire_le
        have hw' : w.runs ≤ d.sys.j.persistWork.start.runs := hw
        omega
      ready := hready
      counterPending := by
        show d₃.sys.boot.counterPending = false
        rw [hsys]
        exact hpending
      waiting := by
        refine hwaiting.trans ?_
        show d.waiting + (if d.sys.boot.counterPending then 2 else 0) + 2 ≤ _
        omega
      obs := rfl }

end

/-- Saving the counter starts and ends no call of the journal's. -/
theorem calls_bootDiagnosticsPersist (d : Diag cfg profiles) (counter : Save) :
    (d.bootDiagnosticsPersist counter).sys.inflight = d.sys.inflight ∧
      (d.bootDiagnosticsPersist counter).sys.loadCall = d.sys.loadCall := by
  unfold bootDiagnosticsPersist
  split
  · simp only [sys_wrapSettingsSaveOne, tick, and_self]
  · exact ⟨rfl, rfl⟩

/-- The handler leaves the calls in progress as they were. -/
theorem calls_persistWorkHandler (d : Diag cfg profiles) (counter block : Save) :
    (d.persistWorkHandler counter block).1.sys.inflight = d.sys.inflight ∧
      (d.persistWorkHandler counter block).1.sys.handlerWaiting = false ∧
      (d.persistWorkHandler counter block).1.sys.loadCall = d.sys.loadCall := by
  unfold persistWorkHandler totemHostEventLogPersist
  dsimp only
  split
  · exact ⟨rfl, rfl, rfl⟩
  · generalize hd₁ : Diag.withJournal _ _ = d₁
    obtain ⟨hin, hl⟩ := d₁.calls_bootDiagnosticsPersist counter
    generalize d₁.bootDiagnosticsPersist counter = d₂ at *
    subst hd₁
    dsimp only [returned]
    rw [sys_wrapSettingsSaveOne, tick]
    exact ⟨hin, rfl, hl⟩

/-! ## `flush_counts` -/

theorem foldl_flushCount_clean (cells : List (Fin profiles × Fin hidStageCount))
    (d : Diag cfg profiles) (h : ∀ p s, (d.counts p s).dirty = false) :
    ∃ counts, (∀ p s, (counts p s).dirty = false) ∧
      cells.foldl flushCount (d, [], false) = ({ d with counts := counts }, [], false) := by
  induction cells generalizing d with
  | nil => exact ⟨d.counts, h, rfl⟩
  | cons cell cells ih =>
    obtain ⟨profile, stage⟩ := cell
    have hclean : flushCount (d, [], false) (profile, stage) = (d.clearCount profile stage, [], false) := by
      rw [flushCount]
      exact if_pos (by rw [h]; rfl)
    obtain ⟨counts, hcounts, hfold⟩ := ih (d.clearCount profile stage) fun p s => by
      unfold clearCount
      dsimp only
      split
      · rfl
      · exact h p s
    refine ⟨counts, hcounts, ?_⟩
    rw [List.foldl_cons, hclean, hfold]
    rfl

/-- With no dirty count, `flush_counts` records and saves nothing. -/
theorem flushCounts_clean (d : Diag cfg profiles) (h : ∀ p s, (d.counts p s).dirty = false)
    (counter block : Save) :
    (d.flushCounts counter block).1.sys = d.sys ∧
      (d.flushCounts counter block).1.waiting = d.waiting ∧ (d.flushCounts counter block).2 = [] := by
  unfold flushCounts
  dsimp only
  obtain ⟨counts, -, hfold⟩ := foldl_flushCount_clean
    ((List.finRange profiles).flatMap fun profile => (List.finRange hidStageCount).map fun stage =>
      (profile, stage)) { d with summaryWork := d.summaryWork.start } h
  rw [hfold]
  exact ⟨rfl, rfl, rfl⟩

end Diag

/-! ## Quiet runs -/

/-- What the keyboard does when nothing else happens. -/
inductive Act where
  | tick
  | persistWork
  | timingDrain
  | flushCounts
deriving DecidableEq, Repr

/-- A step of the clock or of the system work queue: every save succeeds, and
`flush_counts` finds no dirty count. -/
inductive Quiet (d : Diag cfg profiles) : Act → List Obs → Diag cfg profiles → Prop where
  | tick (t : Int) (ht : d.sys.now ≤ t) : Quiet d .tick [] (d.tick t)
  | persistWork (counter block : Save) (hq : d.sys.j.persistWork.queued.isSome)
    (hc : counter.err = 0) (hb : block.err = 0) :
    Quiet d .persistWork (d.persistWorkHandler counter block).2 (d.persistWorkHandler counter block).1
  | timingDrain (hq : d.timingWork.queued.isSome) :
    Quiet d .timingDrain d.timingDrain.2 d.timingDrain.1
  | flushCounts (counter block : Save) (hq : d.summaryWork.queued.isSome)
    (h : ∀ p s, (d.counts p s).dirty = false) :
    Quiet d .flushCounts (d.flushCounts counter block).2 (d.flushCounts counter block).1

/-- How many blocks were saved. -/
def savedBlocks (obs : List Obs) : Nat :=
  obs.countP fun
    | .saved _ ok _ => ok
    | _ => false

/-- A run of quiet steps. -/
structure QuietRun (d : Diag cfg profiles) where
  state : Nat → Diag cfg profiles
  act : Nat → Act
  obs : Nat → List Obs
  start : state 0 = d
  step : ∀ n, Quiet (state n) (act n) (obs n) (state (n + 1))

namespace QuietRun

variable {d : Diag cfg profiles} (run : QuietRun d)

/-- What the first `n` steps let be observed, newest first. -/
def trace : Nat → List Obs
  | 0 => []
  | n + 1 => run.obs n ++ trace n

/-- The clock goes on, and the system work queue gets to `persist_work`. -/
structure Fair : Prop where
  clock : ∀ t, ∃ n, t ≤ (run.state n).sys.now
  served : ∀ n, (run.state n).sys.j.persistWork.queued.isSome → ∃ m ≥ n, run.act m = .persistWork

end QuietRun

/-- A quiet step is a run of the journal's keyboard between two calls. -/
theorem Quiet.reach {flash : Flash} {d d' : Diag cfg profiles} {act : Act} {obs : List Obs}
    (h : Quiet d act obs d') (hreach : Reach cfg flash tr d.sys) (hi : d.sys.Idle) :
    Reach cfg flash (obs ++ tr) d'.sys ∧ d'.sys.Idle := by
  cases h with
  | tick t ht => exact ⟨hreach.steps (d.steps_tick ht), hi.inflight, hi.handlerWaiting, hi.loadCall⟩
  | persistWork counter block hq hc hb =>
    have hrunning : d.sys.j.persistWork.running = false := by
      by_contra hr
      rcases hreach.running (by simpa using hr) with hw | ⟨call, hcall⟩
      · rw [hi.handlerWaiting] at hw
        cases hw
      · rw [hi.inflight] at hcall
        cases hcall
    obtain ⟨hin, hw, hl⟩ := d.calls_persistWorkHandler counter block
    exact ⟨hreach.steps (d.steps_persistWorkHandler hi.inflight hq hrunning counter block),
      hin.trans hi.inflight, hw, hl.trans hi.loadCall⟩
  | timingDrain hq =>
    obtain ⟨ring, -, hsys⟩ := d.drained_timingDrain.sys
    refine ⟨hreach.steps d.steps_timingDrain, ?_⟩
    rw [hsys]
    exact ⟨hi.inflight, hi.handlerWaiting, hi.loadCall⟩
  | flushCounts counter block hq h =>
    obtain ⟨hsys, -, hobs⟩ := d.flushCounts_clean h counter block
    rw [hsys, hobs]
    exact ⟨hreach, hi⟩

/-! ## A writer whose writes make work -/

/-- The keyboard as such a writer. -/
def Diag.backlog (d : Diag cfg profiles) : Backlog.State where
  ready := d.sys.j.unsaved
  later := d.waiting
  first := if d.sys.boot.counterPending then 2 else 0
  due := d.sys.j.runsDue

theorem Diag.due_backlog_le_one {d : Diag cfg profiles} (h : d.sys.j.persistWork.queued = .none) :
    d.backlog.due ≤ 1 := HostEventLog.runsDue_le_one h

/-- What a reachable keyboard that is ready and has numbers left satisfies. -/
structure Diag.Sound (d : Diag cfg profiles) : Prop where
  ready : d.sys.j.journalReady = true
  counts : Counts d.sys.j.ring.count d.sys.j.ringSeq d.sys.j.persistedEventSeq
  timely : d.sys.j.persistWork.Timely d.sys.now

theorem Diag.sound {flash : Flash} {d : Diag cfg profiles} (h : Reach cfg flash tr d.sys)
    (hr : d.sys.j.journalReady = true) (hb : total cfg tr + 1 < 2 ^ 32) : d.Sound :=
  ⟨hr, h.view.inv.numbered.counts (h.view.inv.journaled hr hb) hr hb, h.alarm.punctual.timely⟩

section

variable {d d' : Diag cfg profiles} {act : Act} {obs : List Obs}

/-- A save leaves the item due once when events are left, and else one run
less than before. -/
theorem Diag.Wrote.runsDue_le {call : PersistCall} {w : Work} (h : Wrote d d' obs call w)
    (hs : d.Sound) (hsoon : ¬ (d.sys.j.lastPersistUptimeMs ≠ 0 ∧
      d.sys.now - d.sys.j.lastPersistUptimeMs < cfg.persistMinIntervalMs)) :
    d'.sys.j.runsDue ≤ if call.lastCopiedSeq < d.sys.j.ringSeq then 1 else d.sys.j.runsDue - 1 := by
  have hwork := h.work
  split
  · rename_i hmore
    rw [if_pos hmore] at hwork
    by_cases h0 : d'.sys.now = 0
    · -- The clock stands at zero: the item goes onto its queue.
      rw [if_pos h0] at hwork
      refine Nat.le_trans d'.sys.j.runsDue_le_runs ?_
      have hd : d'.sys.j.persistWork.delayed = .none := by
        rw [hwork]
        show ((({ w with delayed := .none } : Work).scheduleFor _ 0)).delayed = _
        rw [Work.scheduleFor, if_pos rfl, Work.delayed_submit]
      rw [Work.runs, hd]
      split <;> split <;> simp_all
    · have hpos := cfg.persistMin_pos
      rw [if_neg h0] at hwork
      have hd : d'.sys.j.persistWork.delayed =
          .some (d'.sys.j.lastPersistUptimeMs + cfg.persistMinIntervalMs) := by
        rw [hwork, h.last]
        show ((({ w with delayed := .none } : Work).scheduleFor _ _)).delayed = _
        rw [Work.scheduleFor, if_neg (by omega)]
      unfold HostEventLog.runsDue
      split
      · exact Nat.le_refl _
      · rename_i hnot
        have hq : ¬ d'.sys.j.persistWork.queued.isSome := fun hq => hnot ⟨hq, by rw [h.last]; exact h0, hd⟩
        rw [Work.runs, if_neg hq]
        split <;> simp
  · rename_i hdone
    rw [if_neg hdone] at hwork
    have hruns := h.runs
    have hold : d.sys.j.runsDue = d.sys.j.persistWork.runs := by
      refine if_neg fun hboth => ?_
      -- A timeout at the end of the rate limit is still pending: too soon.
      have hlt := hs.timely.delayed _ hboth.2.2
      exact hsoon ⟨hboth.2.1, by omega⟩
    have hle := d'.sys.j.runsDue_le_runs
    rw [hwork] at hle
    have hfinish : w.finish.runs = w.runs := rfl
    omega

theorem Diag.Wrote.backlog {call : PersistCall} {w : Work} (h : Wrote d d' obs call w) (hs : d.Sound)
    (hf : Formed cfg d.sys.j.ring d.sys.j.ringSeq d.sys.j.persistedEventSeq call)
    (hq : d.sys.j.persistWork.queued.isSome)
    (hsoon : ¬ (d.sys.j.lastPersistUptimeMs ≠ 0 ∧
      d.sys.now - d.sys.j.lastPersistUptimeMs < cfg.persistMinIntervalMs))
    (hnew : ¬ d.sys.j.ringSeq < d.sys.j.firstNew) :
    Backlog.State.Step cfg.blockEvents 2 d.backlog d'.backlog (savedBlocks obs) := by
  have hunsaved := HostEventLog.unsaved_form hs.counts hf
  have hdue := h.runsDue_le hs hsoon
  have hwaiting := h.waiting
  have hafter : d'.sys.j.unsaved =
      min (d.sys.j.ringSeq.toNat - call.lastCopiedSeq.toNat) d.sys.j.ring.count := by
    rw [HostEventLog.unsaved, h.ring, h.ringSeq, h.persisted]
  have hpos := (HostEventLog.unsaved_pos hs.counts).mpr hnew
  have hmore : call.lastCopiedSeq < d.sys.j.ringSeq ↔ cfg.blockEvents < d.sys.j.unsaved := by
    have := hf.first_eq
    have := hf.count_pos
    have hlast := hf.last_eq
    rw [TotemDiagBlock.last] at hlast
    rw [UInt32.lt_iff_toNat_lt]
    omega
  have hruns := HostEventLog.runsDue_pos hq
  rw [h.obs]
  refine .write hruns hpos ?_ ?_ ?_
  · simp only [Backlog.State.items, Diag.backlog]
    omega
  · simp only [Diag.backlog, h.counterPending, Bool.false_eq_true, if_false]
  · show d'.sys.j.runsDue ≤ if cfg.blockEvents < d.sys.j.unsaved then 1 else d.sys.j.runsDue - 1
    simp only [← hmore]
    exact hdue

theorem Diag.Drained.backlog {n : Nat} (h : Drained d d' obs n) (hn : n = d.waiting) :
    Backlog.State.Step cfg.blockEvents 2 d.backlog d'.backlog (savedBlocks obs) := by
  obtain ⟨ring, hring, hsys⟩ := h.sys
  have hobs : savedBlocks obs = 0 := by
    unfold savedBlocks
    rw [List.countP_eq_zero]
    intro o ho
    obtain ⟨e, rfl⟩ := h.recorded o ho
    simp
  rw [hobs]
  refine .move ?_ (by simp only [Diag.backlog, hsys]) (by simp only [Diag.backlog, hsys]; exact Nat.le_refl _)
  have hseq : (d.sys.j.ringSeq + UInt32.ofNat n).toNat ≤ d.sys.j.ringSeq.toNat + n := by
    rw [UInt32.toNat_add, UInt32.toNat_ofNat']
    omega
  simp only [Backlog.State.items, Diag.backlog, h.waiting, hsys, HostEventLog.unsaved]
  omega

/-- **A quiet step is one of the writer.** -/
theorem Quiet.backlog (h : Quiet d act obs d') (hs : d.Sound) :
    Backlog.State.Step cfg.blockEvents 2 d.backlog d'.backlog (savedBlocks obs) := by
  cases h with
  | tick t ht =>
    exact .move (Nat.le_refl _) rfl (d.sys.j.runsDue_expire t)
  | persistWork counter block hq hc hb =>
    by_cases hsoon : d.sys.j.lastPersistUptimeMs ≠ 0 ∧
        d.sys.now - d.sys.j.lastPersistUptimeMs < cfg.persistMinIntervalMs
    · rw [d.persistWorkHandler_soon hs.ready hsoon]
      refine .move (Nat.le_refl _) rfl ?_
      exact Nat.le_trans (Diag.due_backlog_le_one rfl) (HostEventLog.runsDue_pos hq)
    · by_cases hnew : d.sys.j.ringSeq < d.sys.j.firstNew
      · rw [d.persistWorkHandler_done hs.ready hsoon hnew]
        refine .move (Nat.le_refl _) rfl ?_
        exact Nat.le_trans (Diag.due_backlog_le_one rfl) (HostEventLog.runsDue_pos hq)
      · obtain ⟨w, hw⟩ := d.wrote_persistWorkHandler hs.ready hq hsoon hnew hc hb
        exact hw.backlog hs (HostEventLog.formed_of_persistForm hs.counts
          (HostEventLog.persistForm_eq hs.ready hsoon hnew)) hq hsoon hnew
  | timingDrain hq =>
    exact d.drained_timingDrain.backlog rfl
  | flushCounts counter block hq h =>
    obtain ⟨hsys, hwaiting, hobs⟩ := d.flushCounts_clean h counter block
    rw [hobs]
    refine .move ?_ ?_ ?_
    · simp only [Backlog.State.items, Diag.backlog, hsys, hwaiting, Nat.le_refl]
    · simp only [Diag.backlog, hsys]
    · simp only [Diag.backlog, hsys, Nat.le_refl]

/-- The journal stays ready, and the clock never goes back. -/
theorem Quiet.ready (h : Quiet d act obs d') (hs : d.Sound) :
    d'.sys.j.journalReady = true ∧ d.sys.now ≤ d'.sys.now := by
  cases h with
  | tick t ht => exact ⟨hs.ready, ht⟩
  | persistWork counter block hq hc hb =>
    by_cases hsoon : d.sys.j.lastPersistUptimeMs ≠ 0 ∧
        d.sys.now - d.sys.j.lastPersistUptimeMs < cfg.persistMinIntervalMs
    · rw [d.persistWorkHandler_soon hs.ready hsoon]
      exact ⟨hs.ready, Int.le_refl _⟩
    · by_cases hnew : d.sys.j.ringSeq < d.sys.j.firstNew
      · rw [d.persistWorkHandler_done hs.ready hsoon hnew]
        exact ⟨hs.ready, Int.le_refl _⟩
      · obtain ⟨w, hw⟩ := d.wrote_persistWorkHandler hs.ready hq hsoon hnew hc hb
        exact ⟨hw.ready, hw.now_le⟩
  | timingDrain hq =>
    obtain ⟨ring, -, hsys⟩ := d.drained_timingDrain.sys
    rw [hsys]
    exact ⟨hs.ready, Int.le_refl _⟩
  | flushCounts counter block hq h =>
    rw [(d.flushCounts_clean h counter block).1]
    exact ⟨hs.ready, Int.le_refl _⟩

/-- A step without a save leaves the time of the last one. Once that lies far
enough back, the work item only moves on towards rest. -/
theorem Quiet.settles (h : Quiet d act obs d') (hs : d.Sound) (h0 : savedBlocks obs = 0) :
    d'.sys.j.lastPersistUptimeMs = d.sys.j.lastPersistUptimeMs ∧
      (¬ (d.sys.j.lastPersistUptimeMs ≠ 0 ∧
          d.sys.now - d.sys.j.lastPersistUptimeMs < cfg.persistMinIntervalMs) →
        act ≠ .persistWork ∧ d'.sys.j.persistWork = d.sys.j.persistWork ∨
          d'.sys.j.persistWork.toGo < d.sys.j.persistWork.toGo) := by
  cases h with
  | tick t ht => exact ⟨rfl, fun _ => (Work.expire_toGo _ t).imp (fun he => ⟨by simp, he⟩) id⟩
  | persistWork counter block hq hc hb =>
    by_cases hsoon : d.sys.j.lastPersistUptimeMs ≠ 0 ∧
        d.sys.now - d.sys.j.lastPersistUptimeMs < cfg.persistMinIntervalMs
    · rw [d.persistWorkHandler_soon hs.ready hsoon]
      exact ⟨rfl, fun hnot => absurd hsoon hnot⟩
    · by_cases hnew : d.sys.j.ringSeq < d.sys.j.firstNew
      · rw [d.persistWorkHandler_done hs.ready hsoon hnew]
        refine ⟨rfl, fun _ => .inr ?_⟩
        have hstart := Work.toGo_start hq
        have hsame : (Work.mk d.sys.j.persistWork.delayed .none false false).toGo =
            d.sys.j.persistWork.start.toGo := rfl
        show (Work.mk d.sys.j.persistWork.delayed .none false false).toGo < _
        omega
      · obtain ⟨w, hw⟩ := d.wrote_persistWorkHandler hs.ready hq hsoon hnew hc hb
        rw [hw.obs] at h0
        cases h0
  | timingDrain hq =>
    obtain ⟨ring, -, hsys⟩ := d.drained_timingDrain.sys
    rw [hsys]
    exact ⟨rfl, fun _ => .inl ⟨by simp, rfl⟩⟩
  | flushCounts counter block hq h =>
    rw [(d.flushCounts_clean h counter block).1]
    exact ⟨rfl, fun _ => .inl ⟨by simp, rfl⟩⟩

end

namespace QuietRun

variable {flash : Flash} {d : Diag cfg profiles} (run : QuietRun d)

/-- Numbers are left all along the run. -/
def Numbered (tr : List Obs) : Prop := ∀ n, total cfg (run.trace n ++ tr) + 1 < 2 ^ 32

/-- Along a quiet run the keyboard stays reachable, idle and sound. -/
theorem reach (h : Reach cfg flash tr d.sys) (hi : d.sys.Idle) (hr : d.sys.j.journalReady = true)
    (hn : run.Numbered tr) (n : Nat) :
    Reach cfg flash (run.trace n ++ tr) (run.state n).sys ∧ (run.state n).sys.Idle ∧
      (run.state n).Sound := by
  induction n with
  | zero =>
    rw [run.start]
    exact ⟨h, hi, Diag.sound h hr (hn 0)⟩
  | succ n ih =>
    obtain ⟨hreach, hidle, hsound⟩ := ih
    obtain ⟨hreach', hidle'⟩ := (run.step n).reach hreach hidle
    rw [← List.append_assoc] at hreach'
    exact ⟨hreach', hidle', Diag.sound hreach' ((run.step n).ready hsound).1 (hn (n + 1))⟩

/-- **Every save lowers the potential**: along the run. -/
theorem savedBlocks_le (hb : 2 < cfg.blockEvents) (hs : ∀ n, (run.state n).Sound) (n : Nat) :
    savedBlocks (run.trace n) + (run.state n).backlog.potential cfg.blockEvents ≤
      d.backlog.potential cfg.blockEvents := by
  induction n with
  | zero =>
    rw [run.start]
    exact Nat.le_of_eq (Nat.zero_add _)
  | succ n ih =>
    have hstep := ((run.step n).backlog (hs n)).writes_le hb (run.state n).sys.j.runsDue_le_two
    have hsum : savedBlocks (run.trace (n + 1)) = savedBlocks (run.obs n) + savedBlocks (run.trace n) := by
      rw [trace, savedBlocks, List.countP_append]
      rfl
    omega

theorem now_mono (hs : ∀ n, (run.state n).Sound) {n m : Nat} (h : n ≤ m) :
    (run.state n).sys.now ≤ (run.state m).sys.now := by
  induction m, h using Nat.le_induction with
  | base => exact Int.le_refl _
  | succ m hm ih => exact Int.le_trans ih ((run.step m).ready (hs m)).2

theorem eventually_unsaved (hb : 2 < cfg.blockEvents) (hs : ∀ n, (run.state n).Sound) :
    ∃ n, ∀ m ≥ n, savedBlocks (run.obs m) = 0 := by
  have hstep (n : Nat) : savedBlocks (run.obs n) + (run.state (n + 1)).backlog.potential cfg.blockEvents ≤
      (run.state n).backlog.potential cfg.blockEvents :=
    ((run.step n).backlog (hs n)).writes_le hb (run.state n).sys.j.runsDue_le_two
  obtain ⟨n, hn⟩ := @Backlog.eventually_const
    (fun n => (run.state n).backlog.potential cfg.blockEvents)
    fun n => Nat.le_trans (Nat.le_add_left _ _) (hstep n)
  refine ⟨n, fun m hm => ?_⟩
  have hm₀ : (run.state m).backlog.potential cfg.blockEvents = _ := hn m hm
  have hm₁ : (run.state (m + 1)).backlog.potential cfg.blockEvents = _ := hn (m + 1) (by omega)
  have := hstep m
  omega

theorem eventually_due (hs : ∀ n, (run.state n).Sound) {start : Nat} (hfair : run.Fair)
    (h0 : ∀ m ≥ start, savedBlocks (run.obs m) = 0) :
    ∃ n ≥ start, ∀ m ≥ n, ¬ ((run.state m).sys.j.lastPersistUptimeMs ≠ 0 ∧
      (run.state m).sys.now - (run.state m).sys.j.lastPersistUptimeMs < cfg.persistMinIntervalMs) := by
  have hkeep : ∀ k, (run.state (start + k)).sys.j.lastPersistUptimeMs =
      (run.state start).sys.j.lastPersistUptimeMs := by
    intro k
    induction k with
    | zero => rfl
    | succ k ih =>
      exact ((run.step (start + k)).settles (hs _) (h0 _ (Nat.le_add_right _ _))).1.trans ih
  obtain ⟨n, hn⟩ := hfair.clock ((run.state start).sys.j.lastPersistUptimeMs + cfg.persistMinIntervalMs)
  refine ⟨max start n, Nat.le_max_left _ _, ?_⟩
  intro m hm hsoon
  obtain ⟨k, rfl⟩ : ∃ k, m = start + k := ⟨m - start, by omega⟩
  rw [hkeep] at hsoon
  have := run.now_mono hs (show n ≤ start + k by omega)
  omega

/-- **The journal comes to rest** when the clock goes on and the system work
queue gets to `persist_work`. -/
theorem eventually_rest (hb : 2 < cfg.blockEvents) (hs : ∀ n, (run.state n).Sound) (hfair : run.Fair) :
    ∃ n, ∀ m ≥ n, (run.state m).sys.j.persistWork.armed = false := by
  obtain ⟨start, h0⟩ := run.eventually_unsaved hb hs
  obtain ⟨start', hle, hdue⟩ := run.eventually_due hs hfair h0
  have hstep : ∀ n ≥ start', run.act n ≠ .persistWork ∧
      (run.state (n + 1)).sys.j.persistWork = (run.state n).sys.j.persistWork ∨
      (run.state (n + 1)).sys.j.persistWork.toGo < (run.state n).sys.j.persistWork.toGo := by
    intro n hn
    exact ((run.step n).settles (hs n) (h0 n (by omega))).2 (hdue n hn)
  suffices hzero : ∃ n ≥ start', ∀ m ≥ n, (run.state m).sys.j.persistWork.toGo = 0 by
    obtain ⟨n, -, hn⟩ := hzero
    exact ⟨n, fun m hm => Work.toGo_eq_zero.mp (hn m hm)⟩
  refine @Backlog.eventually_zero (fun n => (run.state n).sys.j.persistWork.toGo) start' ?_ ?_
  · intro n hn
    rcases hstep n hn with ⟨-, he⟩ | hlt
    · exact Nat.le_of_eq (congrArg Work.toGo he)
    · exact Nat.le_of_lt hlt
  · intro n hn hne
    by_contra hnot
    simp only [not_exists, not_and] at hnot
    -- Then the item stays as it is, and its handler never runs.
    have hsame : ∀ m ≥ n, run.act m ≠ .persistWork ∧
        (run.state m).sys.j.persistWork = (run.state n).sys.j.persistWork := by
      intro m hm
      have hact : ∀ m ≥ n, run.act m ≠ .persistWork ∧
          (run.state (m + 1)).sys.j.persistWork = (run.state m).sys.j.persistWork := by
        intro m hm
        exact (hstep m (by omega)).resolve_right (hnot m hm)
      refine ⟨(hact m hm).1, ?_⟩
      induction m, hm using Nat.le_induction with
      | base => rfl
      | succ m hm ih => exact (hact m hm).2.trans ih
    cases hq : (run.state n).sys.j.persistWork.queued with
    | some q =>
      obtain ⟨m, hm, hact⟩ := hfair.served n (by rw [hq]; rfl)
      exact (hsame m hm).1 hact
    | none =>
      cases hd : (run.state n).sys.j.persistWork.delayed with
      | none => exact hne (by simp [Work.toGo, hq, hd])
      | some due =>
        obtain ⟨k, hk⟩ := hfair.clock due
        have hpending : (run.state (max n k)).sys.j.persistWork.delayed = .some due := by
          rw [(hsame _ (Nat.le_max_left n k)).2, hd]
        have hlt := (hs (max n k)).timely.delayed due hpending
        have := run.now_mono hs (Nat.le_max_right n k)
        omega

end QuietRun

/-! ## The theorem -/

/-- **The journal's own records never keep it writing.** From every reachable
state that is ready and in which no call is in progress, with `p` unsaved
events in the ring and on their way there, when nothing else happens and every
save succeeds: as long as event numbers stay below 2³² - 1, at most
`p / (BLOCK_EVENTS - 4) + 2` blocks are saved, whenever `timing_drain` runs; and if
the clock goes on and the queue gets to `persist_work`, that item is off from
some step on. -/
theorem journal_comes_to_rest {flash : Flash} {d : Diag cfg profiles} (h : Reach cfg flash tr d.sys)
    (hi : d.sys.Idle) (hr : d.sys.j.journalReady = true) (hb : 8 ≤ cfg.blockEvents) (run : QuietRun d)
    (hn : run.Numbered tr) :
    (∀ n, savedBlocks (run.trace n) ≤ d.unpersisted / (cfg.blockEvents - 4) + 2) ∧
    (run.Fair → ∃ n, ∀ m ≥ n, (run.state m).sys.j.persistWork.armed = false) := by
  have hs : ∀ n, (run.state n).Sound := fun n => (run.reach h hi hr hn n).2.2
  refine ⟨fun n => ?_, run.eventually_rest (by omega) hs⟩
  have hsaved := run.savedBlocks_le (by omega) hs n
  have hbound : d.backlog.potential cfg.blockEvents ≤ d.unpersisted / (cfg.blockEvents - 4) + 2 := by
    refine Backlog.State.potential_le (by omega) ?_
    dsimp only [Diag.backlog]
    split <;> omega
  omega

/-! ## A fair run

The queue serves its items in turn. With enough numbers left they do not run
out. -/

theorem total_recordings {obs : List Obs} {t : Int} (h : ∀ o ∈ obs, ∃ e, o = .recorded e false t) :
    total cfg (obs ++ tr) = total cfg tr + obs.length := by
  induction obs with
  | nil => rfl
  | cons o obs ih =>
    obtain ⟨e, rfl⟩ := h o List.mem_cons_self
    rw [List.cons_append, total_recorded, ih fun o ho => h o (List.mem_cons_of_mem _ ho)]
    rfl

/-- A quiet step gives numbers to events that waited for them; new ones wait
only after a save. -/
theorem Quiet.numbers {d d' : Diag cfg profiles} {act : Act} {obs : List Obs} (h : Quiet d act obs d')
    (hs : d.Sound) : total cfg (obs ++ tr) ≤ total cfg tr + d.waiting ∧
      total cfg (obs ++ tr) + d'.waiting + d'.backlog.first ≤
        total cfg tr + d.waiting + d.backlog.first + 2 * savedBlocks obs := by
  cases h with
  | tick t ht => exact ⟨Nat.le_add_right _ _, Nat.le_refl _⟩
  | persistWork counter block hq hc hb =>
    by_cases hsoon : d.sys.j.lastPersistUptimeMs ≠ 0 ∧
        d.sys.now - d.sys.j.lastPersistUptimeMs < cfg.persistMinIntervalMs
    · rw [d.persistWorkHandler_soon hs.ready hsoon]
      exact ⟨Nat.le_add_right _ _, Nat.le_refl _⟩
    · by_cases hnew : d.sys.j.ringSeq < d.sys.j.firstNew
      · rw [d.persistWorkHandler_done hs.ready hsoon hnew]
        exact ⟨Nat.le_add_right _ _, Nat.le_refl _⟩
      · obtain ⟨w, hw⟩ := d.wrote_persistWorkHandler hs.ready hq hsoon hnew hc hb
        have hwaiting := hw.waiting
        have hpending := hw.counterPending
        rw [hw.obs]
        refine ⟨Nat.le_add_right (total cfg tr) _, ?_⟩
        simp only [Diag.backlog, hpending, Bool.false_eq_true, if_false]
        show total cfg tr + _ + 0 ≤ total cfg tr + _ + _ + 2 * 1
        omega
  | timingDrain hq =>
    have hdrain := d.drained_timingDrain
    obtain ⟨ring, -, hsys⟩ := hdrain.sys
    have hfirst : d.timingDrain.1.backlog.first = d.backlog.first := by
      simp only [Diag.backlog, hsys]
    rw [total_recordings hdrain.recorded, hdrain.length_obs, hdrain.waiting, hfirst]
    exact ⟨Nat.le_refl _, Nat.le_add_right _ _⟩
  | flushCounts counter block hq h =>
    obtain ⟨hsys, hwaiting, hobs⟩ := d.flushCounts_clean h counter block
    have hfirst : (d.flushCounts counter block).1.backlog.first = d.backlog.first := by
      simp only [Diag.backlog, hsys]
    rw [hobs, hwaiting, hfirst]
    exact ⟨Nat.le_add_right _ _, Nat.le_refl _⟩

/-- **Numbers do not run out** when enough are left at the start. -/
theorem QuietRun.numbered {flash : Flash} {d : Diag cfg profiles} (run : QuietRun d)
    (h : Reach cfg flash tr d.sys) (hi : d.sys.Idle) (hr : d.sys.j.journalReady = true)
    (hb : 8 ≤ cfg.blockEvents) (hleft : total cfg tr + 2 * d.unpersisted + 8 < 2 ^ 32) :
    run.Numbered tr := by
  have hfirst : d.backlog.first ≤ 2 := by
    dsimp only [Diag.backlog]
    split <;> omega
  have hbound : d.backlog.potential cfg.blockEvents ≤ d.unpersisted / (cfg.blockEvents - 4) + 2 :=
    Backlog.State.potential_le (by omega) hfirst
  have hdiv : d.unpersisted / (cfg.blockEvents - 4) ≤ d.unpersisted / 4 :=
    Nat.div_le_div (Nat.le_refl _) (by omega) (by omega)
  have hwaiting : d.waiting ≤ d.unpersisted := Nat.le_add_left _ _
  suffices hall : ∀ n, (Reach cfg flash (run.trace n ++ tr) (run.state n).sys ∧
      (run.state n).sys.Idle ∧ (run.state n).Sound) ∧
      total cfg (run.trace n ++ tr) + (run.state n).waiting + (run.state n).backlog.first +
          2 * (run.state n).backlog.potential cfg.blockEvents ≤
        total cfg tr + d.waiting + d.backlog.first + 2 * d.backlog.potential cfg.blockEvents by
    intro n
    have := (hall n).2
    omega
  intro n
  induction n with
  | zero =>
    rw [run.start]
    exact ⟨⟨h, hi, Diag.sound h hr (show total cfg tr + 1 < 2 ^ 32 by omega)⟩, Nat.le_refl _⟩
  | succ n ih =>
    obtain ⟨⟨hreach, hidle, hsound⟩, hsum⟩ := ih
    obtain ⟨hle, hstep⟩ := @Quiet.numbers cfg profiles (run.trace n ++ tr) _ _ _ _ (run.step n) hsound
    have hsaved := ((run.step n).backlog hsound).writes_le (by omega) (run.state n).sys.j.runsDue_le_two
    obtain ⟨hreach', hidle'⟩ := (run.step n).reach hreach hidle
    rw [← List.append_assoc] at hreach' hle hstep
    have hn : total cfg (run.trace (n + 1) ++ tr) + 1 < 2 ^ 32 := by
      show total cfg (run.obs n ++ run.trace n ++ tr) + 1 < 2 ^ 32
      omega
    refine ⟨⟨hreach', hidle', Diag.sound hreach' ((run.step n).ready hsound).1 hn⟩, ?_⟩
    show total cfg (run.obs n ++ run.trace n ++ tr) + _ + _ + _ ≤ _
    omega

/-- A save that takes a millisecond. -/
def Save.quick : Save := ⟨0, 1, 0⟩

namespace Diag

/-- The `n`-th turn: the clock, `persist_work` and `timing_work` in rotation. -/
def turn (d : Diag cfg profiles) (n : Nat) : Act × List Obs × Diag cfg profiles :=
  if n % 3 = 1 ∧ d.sys.j.persistWork.queued.isSome then
    (.persistWork, (d.persistWorkHandler .quick .quick).2, (d.persistWorkHandler .quick .quick).1)
  else if n % 3 = 2 ∧ d.timingWork.queued.isSome then
    (.timingDrain, d.timingDrain.2, d.timingDrain.1)
  else (.tick, [], d.tick (d.sys.now + if n % 3 = 0 then 1 else 0))

theorem quiet_turn (d : Diag cfg profiles) (n : Nat) :
    Quiet d (d.turn n).1 (d.turn n).2.1 (d.turn n).2.2 := by
  unfold turn
  split
  · rename_i h
    exact .persistWork .quick .quick h.2 rfl rfl
  · split
    · rename_i h
      exact .timingDrain h.2
    · exact .tick _ (Int.le_add_of_nonneg_right (by split <;> decide))

/-- The state before the `n`-th turn. -/
def turns (d : Diag cfg profiles) : Nat → Diag cfg profiles
  | 0 => d
  | n + 1 => ((turns d n).turn n).2.2

/-- The run of all turns. -/
def roundRobin (d : Diag cfg profiles) : QuietRun d where
  state := d.turns
  act n := ((d.turns n).turn n).1
  obs n := ((d.turns n).turn n).2.1
  start := rfl
  step n := (d.turns n).quiet_turn n

theorem clock_roundRobin (d : Diag cfg profiles) (hs : ∀ n, (d.roundRobin.state n).Sound) (k : Nat) :
    d.sys.now + k ≤ (d.turns (3 * k)).sys.now := by
  induction k with
  | zero => exact Int.le_of_eq (Int.add_zero _)
  | succ k ih =>
    have htick : (d.turns (3 * k + 1)).sys.now = (d.turns (3 * k)).sys.now + 1 := by
      rw [turns, turn, if_neg (by omega), if_neg (by omega), if_pos (by omega)]
      rfl
    have hmono : (d.turns (3 * k + 1)).sys.now ≤ (d.turns (3 * (k + 1))).sys.now :=
      d.roundRobin.now_mono hs (show 3 * k + 1 ≤ 3 * (k + 1) by omega)
    omega

theorem queued_turn (d : Diag cfg profiles) (n : Nat) (h : d.sys.j.persistWork.queued.isSome)
    (hn : n % 3 ≠ 1) : (d.turn n).2.2.sys.j.persistWork.queued.isSome := by
  unfold turn
  rw [if_neg (fun h => hn h.1)]
  split
  · obtain ⟨ring, -, hsys⟩ := d.drained_timingDrain.sys
    rw [hsys]
    exact h
  · show (d.sys.j.persistWork.expire _).queued.isSome = true
    rw [Work.queued_expire h]
    exact h

/-- **The rotation is fair.** -/
theorem fair_roundRobin (d : Diag cfg profiles) (hs : ∀ n, (d.roundRobin.state n).Sound) :
    d.roundRobin.Fair where
  clock t := by
    obtain ⟨k, hk⟩ : ∃ k : Nat, t ≤ d.sys.now + k := ⟨(t - d.sys.now).toNat, by omega⟩
    exact ⟨3 * k, Int.le_trans hk (d.clock_roundRobin hs k)⟩
  served n hq := by
    have hact : ∀ m, m % 3 = 1 → (d.turns m).sys.j.persistWork.queued.isSome →
        d.roundRobin.act m = .persistWork := by
      intro m hm hq
      show ((d.turns m).turn m).1 = _
      rw [turn, if_pos ⟨hm, hq⟩]
    have hnext : ∀ m, m % 3 ≠ 1 → (d.turns m).sys.j.persistWork.queued.isSome →
        (d.turns (m + 1)).sys.j.persistWork.queued.isSome := by
      intro m hm hq
      exact queued_turn (d.turns m) m hq hm
    rcases (by omega : n % 3 = 0 ∨ n % 3 = 1 ∨ n % 3 = 2) with h | h | h
    · exact ⟨n + 1, by omega, hact _ (by omega) (hnext n (by omega) hq)⟩
    · exact ⟨n, Nat.le_refl n, hact n h hq⟩
    · exact ⟨n + 2, by omega, hact _ (by omega) (hnext (n + 1) (by omega) (hnext n (by omega) hq))⟩

end Diag

/-- A build with a ring of six blocks. -/
def sixBlocks : Config where
  ringCap := 48
  persistEvery := 32
  blockEvents := 8
  journalSlots := 4
  persistMinIntervalMs := 5000
  crc32Ieee := Crc.crc32Ieee
  ringCap_pos := by decide
  ringCap_lt := by decide
  blockEvents_pos := Nat.succ_pos _
  blockEvents_lt := by decide
  journalSlots_pos := Nat.succ_pos _
  journalSlots_le := smallConfig.journalSlots_le
  persistMin_pos := smallConfig.persistMin_pos

/-- A keyboard with an empty inbox and no HID count. -/
def Sys.diag (s : Sys cfg) : Diag cfg 5 where
  sys := s
  timingInbox := .empty (Nat.succ_pos _) ⟨0, 0, 0, 0, 0, 0, 0⟩
  timingDropped := 0
  timingWork := .idle
  writeSequence := 0
  counts := fun _ _ => ⟨0, 0, 0, false⟩
  summaryWork := .idle

theorem journal_comes_to_rest_loaded :
    (∀ n, savedBlocks ((loadedSys sixBlocks).diag.roundRobin.trace n) ≤ 5 / (8 - 4) + 2) ∧
    ∃ n, ∀ m ≥ n, ((loadedSys sixBlocks).diag.roundRobin.state m).sys.j.persistWork.armed = false := by
  have hreach := reach_loadedSys sixBlocks
  have hidle : (loadedSys sixBlocks).Idle := ⟨rfl, rfl, rfl⟩
  have hnumbered : (loadedSys sixBlocks).diag.roundRobin.Numbered (loadedTrace sixBlocks) :=
    QuietRun.numbered _ hreach hidle rfl (by decide)
      (by rw [total_loadedTrace]; exact (by decide : 5 + 2 * 5 + 8 < 2 ^ 32))
  obtain ⟨hsaved, hrest⟩ := @journal_comes_to_rest sixBlocks 5 _ _ (loadedSys sixBlocks).diag hreach
    hidle rfl (by decide) _ hnumbered
  refine ⟨hsaved, hrest (Diag.fair_roundRobin _ ?_)⟩
  exact fun n => (QuietRun.reach _ hreach hidle rfl hnumbered n).2.2

/-! ## Past the last number

When the last event number there is, 2³² - 1, is saved, the next number to
save wraps to 0 and the whole ring is written again. -/

/-- Where the saved numbers stand after a block of the ring's 48 last numbers. -/
def nextPersisted (persisted : UInt32) : UInt32 :=
  if persisted + 1 < 0xFFFFFFD0 then 0xFFFFFFD7 else persisted + 8

/-- The keyboard at the last number, about to save. -/
structure AtLast (persisted : UInt32) (d : Diag sixBlocks 5) : Prop where
  idle : d.sys.Idle
  ready : d.sys.j.journalReady = true
  now_pos : 0 < d.sys.now
  queued : d.sys.j.persistWork.queued.isSome
  due : ¬ (d.sys.j.lastPersistUptimeMs ≠ 0 ∧
    d.sys.now - d.sys.j.lastPersistUptimeMs < sixBlocks.persistMinIntervalMs)
  count : d.sys.j.ring.count = 48
  ringSeq : d.sys.j.ringSeq = 0xFFFFFFFF
  persisted : d.sys.j.persistedEventSeq = persisted

/-- The saved numbers a build with six blocks goes through. -/
def stops : List UInt32 := [0, 0xFFFFFFD7, 0xFFFFFFDF, 0xFFFFFFE7, 0xFFFFFFEF, 0xFFFFFFF7, 0xFFFFFFFF]

namespace AtLast

variable {persisted : UInt32} {d : Diag sixBlocks 5}

theorem block (h : AtLast persisted d) (hp : persisted ∈ stops) :
    ¬ d.sys.j.ringSeq < d.sys.j.firstNew ∧
      d.sys.j.firstNew + UInt32.ofNat d.sys.j.blockCount - 1 = nextPersisted persisted := by
  unfold HostEventLog.blockCount HostEventLog.firstNew HostEventLog.firstAvailable
  rw [h.count, h.ringSeq, h.persisted]
  clear h
  simp only [stops, List.mem_cons, List.not_mem_nil, or_false] at hp
  rcases hp with rfl | rfl | rfl | rfl | rfl | rfl | rfl <;> decide

theorem wrote (h : AtLast persisted d) (hp : persisted ∈ stops) :
    ∃ call w, call.lastCopiedSeq = nextPersisted persisted ∧
      Diag.Wrote d (d.persistWorkHandler .quick .quick).1 (d.persistWorkHandler .quick .quick).2 call w := by
  obtain ⟨hnew, hlast⟩ := h.block hp
  obtain ⟨w, hw⟩ := @Diag.wrote_persistWorkHandler _ _ d .quick .quick h.ready h.queued h.due hnew rfl rfl
  exact ⟨_, w, hlast, hw⟩

/-- The handler, and then the wait for the next save. -/
def round (d : Diag sixBlocks 5) : Diag sixBlocks 5 :=
  let d' := (d.persistWorkHandler .quick .quick).1
  d'.tick (d'.sys.now + 5000)

theorem waiting_round (h : AtLast persisted d) (hp : persisted ∈ stops) :
    (round d).waiting ≤ d.waiting + 2 + (if d.sys.boot.counterPending then 2 else 0) ∧
      (round d).sys.boot.counterPending = false ∧
      savedBlocks (d.persistWorkHandler .quick .quick).2 = 1 := by
  obtain ⟨call, w, -, hw⟩ := h.wrote hp
  refine ⟨hw.waiting, hw.counterPending, ?_⟩
  rw [hw.obs]
  rfl

/-- While events are left, the item is on its queue again. -/
theorem round_next (h : AtLast persisted d) (hp : persisted ∈ stops)
    (hnext : nextPersisted persisted < 0xFFFFFFFF) : AtLast (nextPersisted persisted) (round d) := by
  obtain ⟨call, w, hlast, hw⟩ := h.wrote hp
  have hidle : (round d).sys.Idle := by
    obtain ⟨hin, hhandler, hload⟩ := d.calls_persistWorkHandler .quick .quick
    exact ⟨hin.trans h.idle.inflight, hhandler, hload.trans h.idle.loadCall⟩
  have hnow := hw.now_le
  have hpos := h.now_pos
  have hwork := hw.work
  rw [hlast, h.ringSeq, if_pos hnext, if_neg (by omega)] at hwork
  unfold round at hidle ⊢
  generalize (d.persistWorkHandler .quick .quick).1 = d' at *
  have hdelayed : d'.sys.j.persistWork.delayed = .some (d'.sys.now + 5000) ∧
      d'.sys.j.persistWork.cancelling = false := by
    rw [hwork]
    exact ⟨rfl, rfl⟩
  exact
    { idle := hidle
      ready := hw.ready
      now_pos := by
        show 0 < d'.sys.now + 5000
        omega
      queued := by
        exact Work.queued_of_expired hdelayed.1 (Int.le_refl _) hdelayed.2
      due := by
        show ¬ (d'.sys.j.lastPersistUptimeMs ≠ 0 ∧
          d'.sys.now + 5000 - d'.sys.j.lastPersistUptimeMs < (5000 : Nat))
        rw [hw.last]
        omega
      count := (congrArg Circular.Ring.count hw.ring).trans h.count
      ringSeq := hw.ringSeq.trans h.ringSeq
      persisted := hw.persisted.trans hlast }

/-- A direct call with a last block of events left: the work item stays on its queue. -/
theorem direct (h : AtLast 0xFFFFFFF7 d) (hc : d.sys.boot.counterPending = false) :
    let d' := (d.totemHostEventLogPersist .quick .quick).1
    AtLast 0xFFFFFFFF (d'.tick (d'.sys.now + 5000)) ∧ d'.waiting ≤ d.waiting + 2 ∧
      d'.sys.boot.counterPending = false := by
  obtain ⟨hnew, hlast⟩ := h.block (by decide)
  have hform := HostEventLog.persistForm_eq h.ready h.due hnew
  unfold Diag.totemHostEventLogPersist
  dsimp only
  rw [hlast] at hform
  generalize hcall : PersistCall.mk _ _ (nextPersisted 0xFFFFFFF7) = call at hform
  have hcopied : call.lastCopiedSeq = 0xFFFFFFFF := by
    rw [← hcall]
    show nextPersisted 0xFFFFFFF7 = 0xFFFFFFFF
    decide
  rw [hform]
  dsimp only
  generalize hd₁ : Diag.withJournal _ _ = d₁
  have hboot : d₁.bootDiagnosticsPersist .quick = d₁ := by
    unfold Diag.bootDiagnosticsPersist
    rw [if_neg]
    subst hd₁
    simpa using hc
  have hwaiting := d₁.waiting_wrapSettingsSaveOne (slotKey call.slot) .quick
  have hsys := d₁.sys_wrapSettingsSaveOne (slotKey call.slot) .quick
  rw [hboot]
  generalize d₁.wrapSettingsSaveOne (slotKey call.slot) .quick = d₂ at *
  have hnow : d₂.sys.now = d.sys.now + 1 := by
    rw [hsys, ← hd₁]
    rfl
  have hj : d₂.sys.j = { d₁.sys.j with
      persistWork := d.sys.j.persistWork.expire (d.sys.now + 1) } := by
    rw [hsys, ← hd₁]
    rfl
  have hqueued : (d.sys.j.persistWork.expire (d.sys.now + 1)).queued.isSome := by
    rw [Work.queued_expire h.queued]
    exact h.queued
  subst hd₁
  obtain ⟨hring, hseq, hpers, hsaved, hready, hwork⟩ := @HostEventLog.persistFinish_ok sixBlocks d₂.sys.j
    d₂.sys.now call (by rw [hj]; exact h.ready) (by rw [hj]; rfl)
  have hpos := h.now_pos
  refine ⟨?_, hwaiting, ?_⟩
  · exact
      { idle := by
          refine ⟨?_, ?_, ?_⟩
          · show d₂.sys.inflight = .none
            rw [hsys]
            exact h.idle.inflight
          · show d₂.sys.handlerWaiting = false
            rw [hsys]
            exact h.idle.handlerWaiting
          · show d₂.sys.loadCall = .none
            rw [hsys]
            exact h.idle.loadCall
        ready := hready
        now_pos := by
          show 0 < d₂.sys.now + 5000
          omega
        queued := by
          have hkeep : (d₂.sys.j.persistFinish d₂.sys.now call 0).persistWork.queued.isSome := by
            rw [hwork, hcopied, hj]
            show (if (0xFFFFFFFF : UInt32) < d.sys.j.ringSeq then _ else _ : Work).queued.isSome = true
            rw [h.ringSeq, if_neg (by decide)]
            exact hqueued
          show ((d₂.sys.j.persistFinish d₂.sys.now call 0).persistWork.expire _).queued.isSome = true
          rw [Work.queued_expire hkeep]
          exact hkeep
        due := by
          show ¬ ((d₂.sys.j.persistFinish d₂.sys.now call 0).lastPersistUptimeMs ≠ 0 ∧
            d₂.sys.now + 5000 - (d₂.sys.j.persistFinish d₂.sys.now call 0).lastPersistUptimeMs <
              (5000 : Nat))
          rw [hsaved]
          omega
        count := (congrArg Circular.Ring.count hring).trans (by rw [hj]; exact h.count)
        ringSeq := hseq.trans (by rw [hj]; exact h.ringSeq)
        persisted := hpers.trans hcopied }
  · show d₂.sys.boot.counterPending = false
    rw [hsys]
    exact hc

theorem reach_round {flash : Flash} {tr : List Obs} (h : AtLast persisted d)
    (hreach : Reach sixBlocks flash tr d.sys) : ∃ tr', Reach sixBlocks flash tr' (round d).sys := by
  have hstep := Quiet.reach (.persistWork .quick .quick h.queued rfl rfl) hreach h.idle
  exact ⟨_, (Quiet.reach (.tick _ (Int.le_add_of_nonneg_right (by decide))) hstep.1 hstep.2).1⟩

theorem reach_direct {flash : Flash} {tr : List Obs} (h : AtLast persisted d)
    (hreach : Reach sixBlocks flash tr d.sys) : ∃ tr', Reach sixBlocks flash tr'
      ((d.totemHostEventLogPersist .quick .quick).1.tick
        ((d.totemHostEventLogPersist .quick .quick).1.sys.now + 5000)).sys := by
  have hcall := hreach.steps (d.steps_persist false h.idle.inflight (by simp) .quick .quick)
  exact ⟨_, hcall.step (.tick _ (Int.le_add_of_nonneg_right (by decide)))⟩

end AtLast

namespace QuietRun

variable {d d' : Diag cfg profiles} {act : Act} {obs : List Obs}

/-- A run with a step before it. -/
def cons (h : Quiet d act obs d') (run : QuietRun d') : QuietRun d where
  state
    | 0 => d
    | n + 1 => run.state n
  act
    | 0 => act
    | n + 1 => run.act n
  obs
    | 0 => obs
    | n + 1 => run.obs n
  start := rfl
  step
    | 0 => by
      show Quiet d act obs (run.state 0)
      rw [run.start]
      exact h
    | n + 1 => run.step n

theorem trace_cons (h : Quiet d act obs d') (run : QuietRun d') (n : Nat) :
    (cons h run).trace (n + 1) = run.trace n ++ obs := by
  induction n with
  | zero => exact List.append_nil obs
  | succ n ih =>
    rw [trace, ih, trace, List.append_assoc]
    rfl

end QuietRun

/-- A quiet run saves `n` blocks. -/
def Saves (d : Diag cfg profiles) (n : Nat) : Prop :=
  ∃ (run : QuietRun d) (k : Nat), savedBlocks (run.trace k) = n

theorem Saves.cons {d d' : Diag cfg profiles} {act : Act} {obs : List Obs} {n : Nat}
    (h : Quiet d act obs d') (hs : Saves d' n) : Saves d (n + savedBlocks obs) := by
  obtain ⟨run, k, hk⟩ := hs
  refine ⟨.cons h run, k + 1, ?_⟩
  rw [QuietRun.trace_cons, savedBlocks, List.countP_append, ← savedBlocks, ← savedBlocks, hk]

theorem Saves.round {persisted : UInt32} {d : Diag sixBlocks 5} {n : Nat} (h : AtLast persisted d)
    (hp : persisted ∈ stops) (hs : Saves (AtLast.round d) n) : Saves d (n + 1) := by
  obtain ⟨-, -, hsaved⟩ := h.waiting_round hp
  have htick := hs.cons (.tick _ (Int.le_add_of_nonneg_right (by decide)))
  have hhandler := htick.cons (.persistWork .quick .quick h.queued rfl rfl)
  rw [hsaved] at hhandler
  exact hhandler

/-- From the last number on, with everything saved, six blocks are saved. -/
theorem AtLast.saves {d : Diag sixBlocks 5} (h : AtLast 0xFFFFFFFF d) : Saves d 6 := by
  have h₁ := h.round_next (by decide) (by decide)
  have h₂ := h₁.round_next (by decide) (by decide)
  have h₃ := h₂.round_next (by decide) (by decide)
  have h₄ := h₃.round_next (by decide) (by decide)
  have h₅ := h₄.round_next (by decide) (by decide)
  have hrest : Saves (round (round (round (round (round (round d)))))) 0 := ⟨Diag.roundRobin _, 0, rfl⟩
  refine .round h (by decide) ?_
  refine .round h₁ (by decide) ?_
  refine .round h₂ (by decide) ?_
  refine .round h₃ (by decide) ?_
  refine .round h₄ (by decide) ?_
  exact .round h₅ (by decide) hrest

/-- A round while events are left, with what it adds to the inbox. -/
theorem AtLast.reach_next {flash : Flash} {persisted next : UInt32} {d : Diag sixBlocks 5} {n : Nat}
    (h : AtLast persisted d) (hp : persisted ∈ stops) (hn : nextPersisted persisted = next)
    (hlt : next < 0xFFFFFFFF) (hreach : ∃ tr, Reach sixBlocks flash tr d.sys)
    (hw : d.waiting + (if d.sys.boot.counterPending then 2 else 0) ≤ n) :
    ∃ d', AtLast next d' ∧ (∃ tr, Reach sixBlocks flash tr d'.sys) ∧
      d'.waiting + (if d'.sys.boot.counterPending then 2 else 0) ≤ n + 2 ∧
      d'.sys.boot.counterPending = false := by
  obtain ⟨tr, hreach⟩ := hreach
  obtain ⟨hwaiting, hpending, -⟩ := h.waiting_round hp
  subst hn
  refine ⟨AtLast.round d, h.round_next hp hlt, h.reach_round hreach, ?_, hpending⟩
  rw [hpending]
  simp only [Bool.false_eq_true, if_false]
  omega

theorem reach_atLast : ∃ (tr : List Obs) (d : Diag sixBlocks 5),
    Reach sixBlocks emptyFlash tr d.sys ∧ AtLast 0xFFFFFFFF d ∧ d.waiting ≤ 14 := by
  obtain ⟨tr, ring, h, hc, -, -, -⟩ := reach_lastNumberSys sixBlocks
  have hstart := h.step (.tick 5000 (show (1 : Int) ≤ 5000 by decide))
  have h₀ : AtLast 0 (Sys.diag { lastNumberSys sixBlocks ring with
      now := 5000
      j := { (lastNumberSys sixBlocks ring).j with
        persistWork := (lastNumberSys sixBlocks ring).j.persistWork.expire 5000 } }) :=
    { idle := ⟨rfl, rfl, rfl⟩
      ready := rfl
      now_pos := show (0 : Int) < 5000 by decide
      queued := rfl
      due := fun hsoon => hsoon.1 rfl
      count := hc
      ringSeq := rfl
      persisted := rfl }
  have hnext₀ : nextPersisted 0 = 0xFFFFFFD7 := by decide
  have hnext₁ : nextPersisted 0xFFFFFFD7 = 0xFFFFFFDF := by decide
  have hnext₂ : nextPersisted 0xFFFFFFDF = 0xFFFFFFE7 := by decide
  have hnext₃ : nextPersisted 0xFFFFFFE7 = 0xFFFFFFEF := by decide
  have hnext₄ : nextPersisted 0xFFFFFFEF = 0xFFFFFFF7 := by decide
  obtain ⟨d₁, h₁, hr₁, hw₁, -⟩ :=
    h₀.reach_next (by decide) hnext₀ (by decide) ⟨_, hstart⟩ (Nat.le_refl 2)
  obtain ⟨d₂, h₂, hr₂, hw₂, -⟩ := h₁.reach_next (by decide) hnext₁ (by decide) hr₁ hw₁
  obtain ⟨d₃, h₃, hr₃, hw₃, -⟩ := h₂.reach_next (by decide) hnext₂ (by decide) hr₂ hw₂
  obtain ⟨d₄, h₄, hr₄, hw₄, -⟩ := h₃.reach_next (by decide) hnext₃ (by decide) hr₃ hw₃
  obtain ⟨d₅, h₅, ⟨tr₅, hr₅⟩, hw₅, hc₅⟩ :=
    h₄.reach_next (by decide) hnext₄ (by decide) hr₄ hw₄
  obtain ⟨h₆, hw₆, -⟩ := h₅.direct hc₅
  obtain ⟨tr₆, hr₆⟩ := h₅.reach_direct hr₅
  refine ⟨tr₆, _, hr₆, h₆, ?_⟩
  show (d₅.totemHostEventLogPersist .quick .quick).1.waiting ≤ 14
  omega

/-- **Past the last number the ring is written again**: six blocks for
fourteen events. -/
theorem rewritten_past_last_number : ¬ ∀ (cfg : Config) (flash : Flash) (tr : List Obs) (d : Diag cfg 5),
    Reach cfg flash tr d.sys → d.sys.Idle → d.sys.j.journalReady = true → 8 ≤ cfg.blockEvents →
    ∀ (run : QuietRun d) (n : Nat),
      savedBlocks (run.trace n) ≤ d.unpersisted / (cfg.blockEvents - 4) + 2 := by
  intro hall
  obtain ⟨tr, d, hreach, hlast, hwaiting⟩ := reach_atLast
  obtain ⟨run, k, hsaved⟩ := hlast.saves
  have hle := hall sixBlocks emptyFlash tr d hreach hlast.idle hlast.ready (by decide) run k
  have hunsaved : d.sys.j.unsaved = 0 := by
    rw [HostEventLog.unsaved, hlast.ringSeq, hlast.persisted, Nat.sub_self, Nat.zero_min]
  have hp : d.unpersisted ≤ 14 := by
    rw [Diag.unpersisted, hunsaved]
    omega
  rw [hsaved] at hle
  have hdiv : d.unpersisted / (8 - 4) ≤ 14 / (8 - 4) := Nat.div_le_div_right hp
  change 6 ≤ d.unpersisted / (8 - 4) + 2 at hle
  omega

end TotemZmk
