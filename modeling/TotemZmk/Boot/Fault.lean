/-
The post-mortem record of `totem_fault.c`, over any number of boots. It lies
in RAM that a reset keeps and a power cut fills with anything; a hang is noted
in it, the crash the studio-log module offers is imported into it, and each
boot reports it once. (The Studio image, where
`CONFIG_ZMK_STUDIO_LOG_FAULT_CAPTURE` is set.)

* `fault_reported_once`: each boot reports the last hang of the boot before, or
  else the module's crash, and nothing twice.
-/
import TotemZmk.Dump.Firmware

namespace TotemZmk

open Bytes

/-- `fault_rec`: the record with its envelope and the fields no dump prints;
`label` is its twenty bytes. -/
structure FaultRec extends TotemFaultRecord where
  magic : UInt32
  crc : UInt32
  channel : Int8
  label : List UInt8
deriving DecidableEq, Repr

/-- `TOTEM_FAULT_CRASH` -/
def totemFaultCrash : UInt8 := 1

/-- `TOTEM_FAULT_TASK_WDT` -/
def totemFaultTaskWdt : UInt8 := 2

/-- `TOTEM_FAULT_MAGIC`, "TOFT" -/
def totemFaultMagic : UInt32 := 0x544F4654

def totemHevtFault : UInt8 := 15
def totemHevtBootFaultStatus : UInt8 := 42

namespace FaultRec

/-- `memset(&fault_rec, 0, sizeof(fault_rec))` -/
def zero : FaultRec := ⟨⟨0, 0, 0, 0, 0, 0⟩, 0, 0, 0, List.replicate 20 0⟩

/-- The bytes from `kind` on. -/
def body (r : FaultRec) : List UInt8 :=
  putU8 r.kind ++ putI8 r.channel ++ putU16 r.reason ++ putU32 r.pc ++ putU32 r.lr ++
    putU32 r.uptimeMs ++ putU32 r.thread ++ r.label

/-- `fault_crc` -/
def faultCrc (cfg : Config) (r : FaultRec) : UInt32 := cfg.crc32Ieee r.body

/-- `fault_valid` -/
def faultValid (cfg : Config) (r : FaultRec) : Bool :=
  r.magic == totemFaultMagic && r.crc == r.faultCrc cfg

/-- `fault_seal` -/
def faultSeal (cfg : Config) (r : FaultRec) : FaultRec :=
  { r with magic := totemFaultMagic, crc := r.faultCrc cfg }

end FaultRec

/-- `strncpy` of a string into a label that is zero, which stays terminated. -/
def copyLabel (s : List UInt8) : List UInt8 :=
  let s := (s.takeWhile (· ≠ 0)).take 19
  s ++ List.replicate (20 - s.length) 0

/-- The arguments of `totem_fault_note_task_wdt`, and what it asks the kernel:
the time, and the interrupted thread with its name. -/
structure Hang where
  channelId : Int
  label : Option (List UInt8)
  uptimeMs : UInt32
  thread : UInt32
  threadName : Option (List UInt8)
deriving DecidableEq, Repr

/-- `struct zmk_studio_log_fault` -/
structure ZmkStudioLogFault where
  reason : UInt32
  pc : UInt32
  lr : UInt32
  uptimeMs : UInt32
  thread : UInt32
  threadName : List UInt8
deriving DecidableEq, Repr

/-- `fault_fill_thread` -/
def faultFillThread (r : FaultRec) (thread : UInt32) (name : Option (List UInt8)) :
    FaultRec :=
  let r := { r with thread := thread, label := r.label.set 0 0 }
  match name with
  | .none => r
  | .some name => if name.head?.getD 0 ≠ 0 then { r with label := copyLabel name } else r

/-- `totem_fault_note_task_wdt` -/
def totemFaultNoteTaskWdt (cfg : Config) (hang : Hang) : FaultRec :=
  let r : FaultRec := { FaultRec.zero with
    kind := totemFaultTaskWdt
    channel := Int8.ofInt hang.channelId
    reason := 0
    uptimeMs := hang.uptimeMs }
  let r := faultFillThread r hang.thread hang.threadName
  let r :=
    match hang.label with
    | .none => r
    | .some label => { r with label := copyLabel label }
  r.faultSeal cfg

/-- `fault_import_module_crash`, where `zmk_studio_log_boot_fault` offers
`crash`, or nothing. -/
def faultImportModuleCrash (cfg : Config) (r : FaultRec) (crash : Option ZmkStudioLogFault) :
    FaultRec :=
  if r.faultValid cfg then r
  else
    match crash with
    | .none => r
    | .some crash =>
      ({ FaultRec.zero with
        kind := totemFaultCrash
        channel := -1
        reason := crash.reason.toUInt16
        pc := crash.pc
        lr := crash.lr
        uptimeMs := crash.uptimeMs
        thread := crash.thread
        label := copyLabel crash.threadName } : FaultRec).faultSeal cfg

/-- What `totem_fault_report_and_clear` tells: the status it passes to
`totem_boot_diagnostics_fault_status`, its journal records in order, and what
it leaves in `last_fault`. -/
structure FaultReport where
  status : UInt8
  records : List RecordArgs
  lastFault : Option TotemFaultRecord
deriving DecidableEq, Repr

/-- The status of a record. -/
def faultStatus (cfg : Config) (r : FaultRec) : UInt8 :=
  if r.magic = 0 then 0 else if r.magic ≠ totemFaultMagic then 1 else if r.faultValid cfg then 3 else 2

/-- The `FAULT` event of a record. -/
def faultEvent (r : FaultRec) : RecordArgs :=
  ⟨totemHevtFault, r.channel, -1, r.reason.toUInt8, 0, r.kind⟩

/-- `totem_fault_report_and_clear` -/
def totemFaultReportAndClear (cfg : Config) (r : FaultRec)
    (crash : Option ZmkStudioLogFault) : FaultRec × FaultReport :=
  let r := faultImportModuleCrash cfg r crash
  let status := faultStatus cfg r
  let record : RecordArgs :=
    ⟨totemHevtBootFaultStatus, -1, -1, status, if status = 3 then r.kind else 0, 0⟩
  if !r.faultValid cfg then (r, ⟨status, [record], .none⟩)
  else ({ r with magic := 0, crc := 0 }, ⟨status, [record, faultEvent r], .some r.toTotemFaultRecord⟩)

/-- The `FAULT` events of a report. -/
def FaultReport.faults (report : FaultReport) : List RecordArgs :=
  report.records.filter fun r => r.type = totemHevtFault

/-! ## Boots -/

/-- A boot: the crash the module offers, and the hangs noted after the report. -/
structure FaultBoot where
  crash : Option ZmkStudioLogFault
  hangs : List Hang
deriving DecidableEq, Repr

/-- The record after the hangs of a boot. -/
def noteHangs (cfg : Config) (r : FaultRec) (hangs : List Hang) : FaultRec :=
  hangs.foldl (fun _ hang => totemFaultNoteTaskWdt cfg hang) r

/-- The reports of a row of boots, from what RAM holds at the first. -/
def faultReports (cfg : Config) : FaultRec → List FaultBoot → List FaultReport
  | _, [] => []
  | r, boot :: boots =>
    (totemFaultReportAndClear cfg r boot.crash).2 ::
      faultReports cfg (noteHangs cfg (totemFaultReportAndClear cfg r boot.crash).1 boot.hangs) boots

/-! ## What one boot reports -/

/-- The event that reports a hang. -/
def hangEvent (hang : Hang) : RecordArgs :=
  ⟨totemHevtFault, Int8.ofInt hang.channelId, -1, 0, 0, totemFaultTaskWdt⟩

/-- The event that reports the module's crash. -/
def crashEvent (crash : ZmkStudioLogFault) : RecordArgs :=
  ⟨totemHevtFault, -1, -1, crash.reason.toUInt16.toUInt8, 0, totemFaultCrash⟩

section

variable {cfg : Config} {r : FaultRec}

theorem faultValid_faultSeal (r : FaultRec) : (r.faultSeal cfg).faultValid cfg = true := by
  have hcrc : (r.faultSeal cfg).faultCrc cfg = r.faultCrc cfg := rfl
  unfold FaultRec.faultValid
  rw [hcrc]
  simp [FaultRec.faultSeal]

theorem faultValid_note (hang : Hang) : (totemFaultNoteTaskWdt cfg hang).faultValid cfg = true :=
  faultValid_faultSeal _

theorem faultEvent_note (hang : Hang) : faultEvent (totemFaultNoteTaskWdt cfg hang) = hangEvent hang := by
  unfold totemFaultNoteTaskWdt faultFillThread
  dsimp only
  split <;> split <;> (try split) <;> rfl

theorem faultValid_of_magic (h : r.magic ≠ totemFaultMagic) : r.faultValid cfg = false := by
  simp [FaultRec.faultValid, h]

/-- The status is 3 for the valid records, and for no others. -/
theorem faultStatus_eq : faultStatus cfg r = 3 ↔ r.faultValid cfg = true := by
  unfold faultStatus
  by_cases h0 : r.magic = 0
  · have hv : r.faultValid cfg = false := faultValid_of_magic (by rw [h0]; decide)
    simp [h0, hv]
  · by_cases hm : r.magic = totemFaultMagic
    · rw [if_neg h0, if_neg (fun hne => hne hm)]
      cases hv : r.faultValid cfg <;> simp
    · have hv : r.faultValid cfg = false := faultValid_of_magic hm
      simp [h0, hm, hv]

theorem import_valid (h : r.faultValid cfg = true) (crash : Option ZmkStudioLogFault) :
    faultImportModuleCrash cfg r crash = r := if_pos h

theorem import_crash (h : r.faultValid cfg = false) (crash : ZmkStudioLogFault) :
    (faultImportModuleCrash cfg r (.some crash)).faultValid cfg = true ∧
      faultEvent (faultImportModuleCrash cfg r (.some crash)) = crashEvent crash := by
  unfold faultImportModuleCrash
  rw [if_neg (by simp [h])]
  exact ⟨faultValid_faultSeal _, rfl⟩

theorem import_none (h : r.faultValid cfg = false) : faultImportModuleCrash cfg r .none = r := by
  unfold faultImportModuleCrash
  rw [if_neg (by simp [h])]

/-- The one event a boot reports, if it reports one. -/
def reported (cfg : Config) (r : FaultRec) (crash : Option ZmkStudioLogFault) :
    List RecordArgs :=
  if r.faultValid cfg then [faultEvent r] else (crash.map crashEvent).toList

/-- **One report**: its event, its status, and nothing left to report again. -/
theorem report_spec (r : FaultRec) (crash : Option ZmkStudioLogFault) :
    (totemFaultReportAndClear cfg r crash).2.faults = reported cfg r crash ∧
    ((totemFaultReportAndClear cfg r crash).2.status = 3 ↔ reported cfg r crash ≠ []) ∧
    (totemFaultReportAndClear cfg r crash).1.faultValid cfg = false := by
  have hevent : (faultImportModuleCrash cfg r crash).faultValid cfg = true →
      reported cfg r crash = [faultEvent (faultImportModuleCrash cfg r crash)] := by
    intro hv
    unfold reported
    cases hr : r.faultValid cfg with
    | true => rw [if_pos rfl, import_valid hr]
    | false =>
      rw [if_neg (by simp)]
      cases crash with
      | none =>
        rw [import_none hr, hr] at hv
        cases hv
      | some crash =>
        rw [(import_crash hr crash).2]
        rfl
  have hnone : (faultImportModuleCrash cfg r crash).faultValid cfg = false →
      reported cfg r crash = [] := by
    intro hv
    unfold reported
    cases hr : r.faultValid cfg with
    | true =>
      rw [import_valid hr, hr] at hv
      cases hv
    | false =>
      rw [if_neg (by simp)]
      cases crash with
      | none => rfl
      | some crash =>
        rw [(import_crash hr crash).1] at hv
        cases hv
  unfold totemFaultReportAndClear
  dsimp only
  cases hv : (faultImportModuleCrash cfg r crash).faultValid cfg with
  | true =>
    have hstatus := faultStatus_eq.mpr hv
    rw [hevent hv, if_neg (by simp)]
    refine ⟨by simp [FaultReport.faults, faultEvent, totemHevtBootFaultStatus, totemHevtFault], ?_, ?_⟩
    · simp [hstatus]
    · exact faultValid_of_magic (by show (0 : UInt32) ≠ totemFaultMagic; decide)
  | false =>
    have hstatus : faultStatus cfg (faultImportModuleCrash cfg r crash) ≠ 3 := by
      rw [ne_eq, faultStatus_eq, hv]
      simp
    rw [hnone hv, if_pos (by simp)]
    refine ⟨by simp [FaultReport.faults, totemHevtBootFaultStatus, totemHevtFault], ?_, hv⟩
    simp [hstatus]

/-- What the next boot must report: the last hang, or else the crash. -/
def expected (hangs : List Hang) (crash : Option ZmkStudioLogFault) : List RecordArgs :=
  match hangs.getLast? with
  | .some hang => [hangEvent hang]
  | .none => (crash.map crashEvent).toList

/-- The hangs of a boot that reported leave the last one for the next. -/
theorem reported_noteHangs (h : r.faultValid cfg = false) (hangs : List Hang)
    (crash : Option ZmkStudioLogFault) :
    reported cfg (noteHangs cfg r hangs) crash = expected hangs crash := by
  unfold reported expected noteHangs
  obtain rfl | ⟨hangs, hang, rfl⟩ := List.eq_nil_or_concat hangs
  · rw [List.foldl_nil, h]
    rfl
  · rw [List.concat_eq_append, List.foldl_append, List.foldl_cons, List.foldl_nil, List.getLast?_concat,
      if_pos (faultValid_note hang), faultEvent_note]

theorem faultReports_next (boots : List FaultBoot) (r : FaultRec) (n : Nat)
    {boot next : FaultBoot} (hb : boots[n]? = .some boot) (hn : boots[n + 1]? = .some next) :
    ∃ report, (faultReports cfg r boots)[n + 1]? = .some report ∧
      report.faults = expected boot.hangs next.crash := by
  induction n generalizing r boots with
  | zero =>
    match boots with
    | first :: second :: rest =>
      cases hb
      cases hn
      refine ⟨_, rfl, ?_⟩
      rw [(report_spec _ _).1, reported_noteHangs (report_spec r boot.crash).2.2]
  | succ n ih =>
    match boots with
    | first :: rest => exact ih rest _ hb hn

theorem faultReports_mem {report : FaultReport} {boots : List FaultBoot}
    (h : report ∈ faultReports cfg r boots) :
    ∃ r' crash, report = (totemFaultReportAndClear cfg r' crash).2 := by
  induction boots generalizing r with
  | nil => cases h
  | cons boot boots ih =>
    rcases List.mem_cons.mp h with h | h
    · exact ⟨r, boot.crash, h⟩
    · exact ih h

theorem length_reported (r : FaultRec) (crash : Option ZmkStudioLogFault) :
    (reported cfg r crash).length = if r.faultValid cfg = true ∨ crash.isSome then 1 else 0 := by
  unfold reported
  cases r.faultValid cfg <;> cases crash <;> rfl

end

/-- **Each fault is reported exactly once, in the next boot.** A report has one
`FAULT` event when the retained record is sealed or a crash is offered and
none otherwise, and leaves nothing to report again; its status is 3 exactly
when it has one. From the second boot on the event is that of the last hang of
the boot before, or else of the crash. -/
theorem fault_reported_once (cfg : Config) (r : FaultRec) (boots : List FaultBoot) :
    (∀ r' crash,
      (totemFaultReportAndClear cfg r' crash).2.faults.length =
        (if r'.faultValid cfg = true ∨ crash.isSome then 1 else 0) ∧
      (totemFaultReportAndClear cfg r' crash).1.faultValid cfg = false) ∧
    (∀ n boot next, boots[n]? = .some boot → boots[n + 1]? = .some next →
      ∃ report, (faultReports cfg r boots)[n + 1]? = .some report ∧
        report.faults = expected boot.hangs next.crash) ∧
    ∀ report ∈ faultReports cfg r boots, report.status = 3 ↔ report.faults ≠ [] := by
  refine ⟨?_, ?_, ?_⟩
  · intro r' crash
    obtain ⟨hfaults, -, hclear⟩ := @report_spec cfg r' crash
    rw [hfaults]
    exact ⟨length_reported r' crash, hclear⟩
  · intro n boot next hb hn
    exact faultReports_next boots r n hb hn
  · intro report hm
    obtain ⟨r', crash, rfl⟩ := faultReports_mem hm
    obtain ⟨hfaults, hstatus, -⟩ := @report_spec cfg r' crash
    rw [hfaults]
    exact hstatus

end TotemZmk
