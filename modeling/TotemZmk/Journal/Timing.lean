/-
`diagnostic_timing.c` and the summaries of `hid_report_diagnostics.c`: the
timing records that saving makes, and the handlers of the system work queue
that move them into the journal.

The queue runs `persist_work`, `timing_work` and `summary_work` one at a time,
so each handler is one step here, and `timing_drain` never runs inside a save.

* `Diag.totemHostEventLogPersist`: a call with its saves and their records.
* `Diag.steps_persist`, `Diag.steps_persistWorkHandler`, `Diag.steps_timingDrain`:
  what the handlers do to the journal are steps of the journal's keyboard.
-/
import TotemZmk.Journal.RateLimit

namespace TotemZmk

open Zephyr (Work)

/-- `struct timing_record` -/
structure TimingRecord where
  uptimeMs : UInt32
  type : UInt8
  idx : Int8
  active : Int8
  reason : UInt8
  pair : UInt8
  extra : UInt8
deriving DecidableEq, Repr

/-- The event `totem_host_event_log_record_timing` makes of a record. -/
def TimingRecord.event (r : TimingRecord) : TotemHostEvent :=
  ⟨r.uptimeMs, r.type, r.idx, r.active, r.reason, r.pair, r.extra⟩

/-- `TIMING_CAP` -/
def timingCap : Nat := 24

/-- `HID_STAGE_COUNT` -/
def hidStageCount : Nat := 14

def totemHevtHidCount : UInt8 := 31
def totemHevtHidError : UInt8 := 32

/-- `struct hid_count` -/
structure HidCount where
  lastMs : UInt32
  total : UInt16
  error : UInt8
  dirty : Bool
deriving DecidableEq, Repr

/-- What a save meets: the active profile, how long the flash takes, and its
answer. -/
structure Save where
  active : Int8
  ms : Nat
  err : Int
deriving DecidableEq, Repr

/-- `category` -/
def settingsCategory (name : List Char) : UInt8 :=
  if "th/dlog/".toList.isPrefixOf name then 1
  else if name = "ble/active_profile".toList then 2
  else if "ble/profiles/".toList.isPrefixOf name then 3
  else if "bt/".toList.isPrefixOf name then 4
  else 5

/-- The settings name a slot is saved under. -/
def slotKey (slot : Nat) : List Char := "th/".toList ++ HostEventLog.dlogName slot

/-- The keyboard with its timing inbox and its HID counts, one row for each of
`ZMK_BLE_PROFILE_COUNT` profiles. -/
structure Diag (cfg : Config) (profiles : Nat) where
  sys : Sys cfg
  /-- `timing_inbox`, `timing_head`, `timing_count` -/
  timingInbox : Circular.Fifo TimingRecord timingCap
  timingDropped : UInt8
  timingWork : Work
  writeSequence : UInt32
  counts : Fin profiles → Fin hidStageCount → HidCount
  summaryWork : Work

namespace Diag

variable {cfg : Config} {profiles : Nat}

/-- The journal's state replaced. -/
def withJournal (d : Diag cfg profiles) (j : HostEventLog cfg) : Diag cfg profiles :=
  { d with sys := { d.sys with j := j } }

/-- Time passes, and timeouts may expire. -/
def tick (d : Diag cfg profiles) (t : Int) : Diag cfg profiles :=
  { d with
    sys := { d.sys with now := t, j := { d.sys.j with persistWork := d.sys.j.persistWork.expire t } }
    summaryWork := d.summaryWork.expire t }

/-! ## Capturing -/

/-- `totem_diagnostic_timing_capture` -/
def capture (d : Diag cfg profiles) (record : TimingRecord) : Diag cfg profiles :=
  let d :=
    match d.timingInbox.push record with
    | .some inbox => { d with timingInbox := inbox }
    | .none =>
      if d.timingDropped < 255 then { d with timingDropped := d.timingDropped + 1 } else d
  { d with timingWork := d.timingWork.submit d.sys.now }

/-- `timing_capture` -/
def timingCapture (d : Diag cfg profiles) (type : UInt8) (idx active : Int8)
    (reason pair extra : UInt8) : Diag cfg profiles :=
  d.capture ⟨kUptimeGet32 d.sys.now, type, idx, active, reason, pair, extra⟩

/-- `__wrap_settings_save_one` -/
def wrapSettingsSaveOne (d : Diag cfg profiles) (name : List Char) (save : Save) :
    Diag cfg profiles :=
  let category := settingsCategory name
  let pair := d.writeSequence.toUInt8
  let d := { d with writeSequence := d.writeSequence + 1 }
  let d := d.timingCapture totemHevtFlashBegin (-1) save.active category pair 0
  -- `__real_settings_save_one`
  let d := d.tick (d.sys.now + save.ms)
  d.timingCapture totemHevtFlashEnd (-1) save.active category pair
    (UInt8.ofNat (min save.err.natAbs 255))

/-! ## Handlers

Each returns what it lets be observed, newest first. -/

/-- `totem_host_event_log_record_timing` -/
def recordTiming (d : Diag cfg profiles) (r : TimingRecord) : Diag cfg profiles × List Obs :=
  (d.withJournal (d.sys.j.totemHostEventLogRecordTiming d.sys.now r.event),
    [.recorded r.event false d.sys.now])

/-- The last round of `timing_drain`, which finds the inbox empty. -/
def drainDropped (d : Diag cfg profiles) : Diag cfg profiles × List Obs :=
  let dropped := d.timingDropped
  let d := { d with timingDropped := 0 }
  if dropped ≠ 0 then
    d.recordTiming ⟨kUptimeGet32 d.sys.now, totemHevtTimingDropped, -1, -1, dropped, 0, 0⟩
  else (d, [])

/-- The rounds of `timing_drain`: one for each record in the inbox, and the
last. -/
def drainLoop : Nat → Diag cfg profiles → Diag cfg profiles × List Obs
  | 0, d => d.drainDropped
  | n + 1, d =>
    match d.timingInbox.pop with
    | .none => d.drainDropped
    | .some (record, inbox) =>
      let (d, obs) := ({ d with timingInbox := inbox } : Diag cfg profiles).recordTiming record
      let (d, obs') := drainLoop n d
      (d, obs' ++ obs)

/-- `timing_drain` -/
def timingDrain (d : Diag cfg profiles) : Diag cfg profiles × List Obs :=
  let (d, obs) := drainLoop d.timingInbox.count { d with timingWork := d.timingWork.start }
  ({ d with timingWork := d.timingWork.finish }, obs)

/-- `totem_boot_diagnostics_persist` -/
def bootDiagnosticsPersist (d : Diag cfg profiles) (counter : Save) : Diag cfg profiles :=
  if d.sys.boot.counterPending then
    let d := d.wrapSettingsSaveOne "tboot/count".toList counter
    { d with sys := { d.sys with boot := totemBootDiagnosticsPersist d.sys.boot counter.err } }
  else d

/-- `totem_host_event_log_persist`, its saves included. -/
def totemHostEventLogPersist (d : Diag cfg profiles) (counter block : Save) :
    Diag cfg profiles × List Obs :=
  match d.sys.j.persistForm d.sys.now with
  | (j, .none) => (d.withJournal j, [])
  | (j, .some call) =>
    let formed := Obs.formed call.block d.sys.now
    let d := (d.withJournal j).bootDiagnosticsPersist counter
    let d := d.wrapSettingsSaveOne (slotKey call.slot) block
    ({ d with sys := { d.sys with
        flash :=
          if block.err = 0 then Function.update d.sys.flash call.slot (.some call.block.encode)
          else d.sys.flash
        j := d.sys.j.persistFinish d.sys.now call block.err } },
      [.saved call.block (decide (block.err = 0)) d.sys.now, formed])

/-- What the return of a call leaves, when `persist_work_handler` made it. -/
def returned (s : Sys cfg) (byHandler : Bool) : Sys cfg :=
  { s with
    j := if byHandler then { s.j with persistWork := s.j.persistWork.finish } else s.j
    handlerWaiting := if byHandler then false else s.handlerWaiting }

/-- `persist_work_handler`, as the system work queue runs it. -/
def persistWorkHandler (d : Diag cfg profiles) (counter block : Save) :
    Diag cfg profiles × List Obs :=
  let d := { d with sys := { d.sys with
    j := { d.sys.j with persistWork := d.sys.j.persistWork.start }
    handlerWaiting := true } }
  let (d, obs) := d.totemHostEventLogPersist counter block
  ({ d with sys := returned d.sys true }, obs)

/-- The counts with `dirty` and `error` cleared in one cell. -/
def clearCount (d : Diag cfg profiles) (profile : Fin profiles) (stage : Fin hidStageCount) :
    Diag cfg profiles :=
  { d with counts := fun p s =>
      if p = profile ∧ s = stage then { d.counts p s with dirty := false, error := 0 }
      else d.counts p s }

/-- One round of `flush_counts`, with `changed`. -/
def flushCount (acc : Diag cfg profiles × List Obs × Bool)
    (cell : Fin profiles × Fin hidStageCount) : Diag cfg profiles × List Obs × Bool :=
  let (d, obs, changed) := acc
  let (profile, stage) := cell
  let count := d.counts profile stage
  let d := d.clearCount profile stage
  if !count.dirty then (d, obs, changed)
  else
    let (d, obs₁) := d.recordTiming ⟨count.lastMs, totemHevtHidCount, Int8.ofNat profile, -1,
      UInt8.ofNat stage, count.total.toUInt8, (count.total >>> 8).toUInt8⟩
    let (d, obs₂) :=
      if count.error ≠ 0 then
        d.recordTiming ⟨count.lastMs, totemHevtHidError, Int8.ofNat profile, -1, UInt8.ofNat stage,
          count.error, 0⟩
      else (d, [])
    (d, obs₂ ++ obs₁ ++ obs, true)

/-- `flush_counts` -/
def flushCounts (d : Diag cfg profiles) (counter block : Save) : Diag cfg profiles × List Obs :=
  let d := { d with summaryWork := d.summaryWork.start }
  let cells := (List.finRange profiles).flatMap fun profile =>
    (List.finRange hidStageCount).map fun stage => (profile, stage)
  let (d, obs, changed) := cells.foldl flushCount (d, [], false)
  let (d, obs') := if changed then d.totemHostEventLogPersist counter block else (d, [])
  ({ d with summaryWork := d.summaryWork.finish }, obs' ++ obs)

/-! ## Handlers as steps of the journal -/

section

variable (d : Diag cfg profiles)

@[simp] theorem sys_withJournal (j : HostEventLog cfg) :
    (d.withJournal j).sys = { d.sys with j := j } := rfl

@[simp] theorem sys_capture (r : TimingRecord) : (d.capture r).sys = d.sys := by
  unfold capture
  split
  · rfl
  · split <;> rfl

@[simp] theorem sys_timingCapture (type : UInt8) (idx active : Int8) (reason pair extra : UInt8) :
    (d.timingCapture type idx active reason pair extra).sys = d.sys := d.sys_capture _

theorem sys_wrapSettingsSaveOne (name : List Char) (save : Save) :
    (d.wrapSettingsSaveOne name save).sys = (d.tick (d.sys.now + save.ms)).sys := by
  unfold wrapSettingsSaveOne
  simp only [sys_timingCapture, tick]

theorem steps_tick {t : Int} (ht : d.sys.now ≤ t) : Steps d.sys [] (d.tick t).sys :=
  (Step.tick t ht).steps

theorem steps_recordTiming (r : TimingRecord) :
    Steps d.sys (d.recordTiming r).2 (d.recordTiming r).1.sys :=
  (Step.recordTiming r.event).steps

theorem steps_drainDropped : Steps d.sys d.drainDropped.2 d.drainDropped.1.sys := by
  unfold drainDropped
  dsimp only
  split
  · exact steps_recordTiming { d with timingDropped := 0 } _
  · exact .refl _

theorem steps_drainLoop (n : Nat) : Steps d.sys (drainLoop n d).2 (drainLoop n d).1.sys := by
  induction n generalizing d with
  | zero => exact d.steps_drainDropped
  | succ n ih =>
    unfold drainLoop
    split
    · exact d.steps_drainDropped
    · rename_i record inbox hpop
      exact (steps_recordTiming { d with timingInbox := inbox } record).trans (ih _)

/-- **`timing_drain` is a run of records.** -/
theorem steps_timingDrain : Steps d.sys d.timingDrain.2 d.timingDrain.1.sys :=
  steps_drainLoop { d with timingWork := d.timingWork.start } _

end

/-- **A call with its saves** is a run of the journal's keyboard. -/
theorem steps_persist (d : Diag cfg profiles) (byHandler : Bool) (hi : d.sys.inflight = .none)
    (hh : byHandler = true → d.sys.handlerWaiting = true) (counter block : Save) :
    Steps d.sys (d.totemHostEventLogPersist counter block).2
      (returned (d.totemHostEventLogPersist counter block).1.sys byHandler) := by
  unfold totemHostEventLogPersist
  split
  · rename_i j' hf
    have hskip := (Step.persistSkip byHandler hi hh hf).steps
    cases byHandler <;> exact hskip
  · rename_i j' call hf
    have hform := (Step.persistForm byHandler hi hh hf).steps
    by_cases hp : d.sys.boot.counterPending = true
    · -- The counter is saved first.
      have hcounter := hform.step (.tick (d.sys.now + counter.ms) (Int.le_add_of_nonneg_right (by omega)))
      have hblock := hcounter.step
        (.tick (d.sys.now + counter.ms + block.ms) (Int.le_add_of_nonneg_right (by omega)))
      have hend := hblock.step (.persistEnd counter.err block.err rfl)
      have hboot : (d.withJournal j').bootDiagnosticsPersist counter =
          let d' := (d.withJournal j').wrapSettingsSaveOne "tboot/count".toList counter
          { d' with sys := { d'.sys with
              boot := totemBootDiagnosticsPersist d'.sys.boot counter.err } } := by
        unfold bootDiagnosticsPersist
        exact if_pos hp
      dsimp only
      rw [hboot]
      simp only [sys_wrapSettingsSaveOne, tick, sys_withJournal]
      rw [hi]
      cases byHandler <;> exact hend
    · have hblock := hform.step (.tick (d.sys.now + block.ms) (Int.le_add_of_nonneg_right (by omega)))
      have hend := hblock.step (.persistEnd counter.err block.err rfl)
      have hboot : (d.withJournal j').bootDiagnosticsPersist counter = d.withJournal j' := by
        unfold bootDiagnosticsPersist
        exact if_neg hp
      have hnot : totemBootDiagnosticsPersist d.sys.boot counter.err = d.sys.boot := by
        unfold totemBootDiagnosticsPersist
        exact if_neg fun h => hp h.1
      dsimp only at hend
      rw [hnot] at hend
      dsimp only
      rw [hboot]
      simp only [sys_wrapSettingsSaveOne, tick, sys_withJournal]
      rw [hi]
      cases byHandler <;> exact hend

/-- **The work item's handler** too. -/
theorem steps_persistWorkHandler (d : Diag cfg profiles) (hi : d.sys.inflight = .none)
    (hq : d.sys.j.persistWork.queued.isSome) (hr : d.sys.j.persistWork.running = false)
    (counter block : Save) :
    Steps d.sys (d.persistWorkHandler counter block).2
      (d.persistWorkHandler counter block).1.sys := by
  have hrun := (Step.workRun hq hr).steps
  have hcall := steps_persist { d with sys := { d.sys with
    j := { d.sys.j with persistWork := d.sys.j.persistWork.start }
    handlerWaiting := true } } true hi (fun _ => rfl) counter block
  have hboth := hrun.trans hcall
  rw [List.append_nil] at hboth
  unfold persistWorkHandler
  dsimp only
  exact hboth

end Diag

end TotemZmk
