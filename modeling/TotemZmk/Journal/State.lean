/-
The journal of `host_event_log.c`: its state, and its functions, each split
where the code releases `ring_mu`.

* `recordEvent`: an event enters the ring.
* `persistForm`, `persistFinish`: the two locked parts of
  `totem_host_event_log_persist`, before and after the write to flash.
* `hevtSettingsSet`: a stored block is read back.
* `zmkSettingsLoaded`: the ring is placed after the saved tail.
-/
import TotemZmk.Lib.Circular
import TotemZmk.Lib.Work
import TotemZmk.Journal.Boot
import Mathlib.Logic.Function.Basic

namespace TotemZmk

open Zephyr (Work)

/-- The statics of `host_event_log.c`. -/
structure HostEventLog (cfg : Config) where
  /-- `ring`, `ring_head`, `ring_count` -/
  ring : Circular.Ring TotemHostEvent cfg.ringCap
  ringSeq : UInt32
  persistedEventSeq : UInt32
  journalSeq : UInt32
  nextSlot : Nat
  eventsSincePersist : UInt16
  lastPersistUptimeMs : Int
  persistRequested : Bool
  journalReady : Bool
  restoredBlocks : Nat → TotemDiagBlock
  restoredValid : Nat → Bool
  persistWork : Work

/-- What a `totem_host_event_log_persist` call keeps while it writes to flash:
`persist_block`, `slot` and `last_copied_seq`. -/
structure PersistCall where
  block : TotemDiagBlock
  slot : Nat
  lastCopiedSeq : UInt32
deriving DecidableEq, Repr

/-- What `zmk_settings_loaded` gathers about the boot before. -/
structure Previous where
  uptime : UInt32
  seq : UInt32
  profileSeq : UInt32
  endpointSeq : UInt32
  profile : Int8
  endpoint : Int8
deriving DecidableEq, Repr

/-- `k_uptime_get_32` -/
def kUptimeGet32 (now : Int) : UInt32 := UInt32.ofNat now.toNat

/-- One restored event, as `zmk_settings_loaded` inspects it. -/
def Previous.inspect (p : Previous) (seq : UInt32) (event : TotemHostEvent) : Previous :=
  let p := if p.seq < seq then { p with uptime := event.uptimeMs, seq := seq } else p
  let hasProfile := (totemHevtDisc ≤ event.type ∧ event.type ≤ totemHevtThrashWin) ∨
    (totemHevtHidSubscribed ≤ event.type ∧ event.type ≤ totemHevtFlashEnd)
  let p :=
    if hasProfile ∧ 0 ≤ event.active ∧ p.profileSeq < seq then
      { p with profile := event.active, profileSeq := seq }
    else p
  if event.type = totemHevtUsb ∧ event.reason = 255 ∧ p.endpointSeq < seq then
    { p with endpoint := event.extra.toInt8, endpointSeq := seq }
  else p

namespace HostEventLog

variable {cfg : Config}

/-- The statics at boot. -/
def init (cfg : Config) : HostEventLog cfg where
  ring := .empty cfg.ringCap_pos .zero
  ringSeq := 0
  persistedEventSeq := 0
  journalSeq := 0
  nextSlot := 0
  eventsSincePersist := 0
  lastPersistUptimeMs := 0
  persistRequested := false
  journalReady := false
  restoredBlocks := fun _ => .zero
  restoredValid := fun _ => false
  persistWork := .idle

/-- `ring_get_ordered`: the ring's events, oldest first. -/
def ringGetOrdered (j : HostEventLog cfg) : List TotemHostEvent := j.ring.toList

/-- The block a slot is marked to hold. -/
def restored (j : HostEventLog cfg) (slot : Nat) : Option TotemDiagBlock :=
  if j.restoredValid slot then .some (j.restoredBlocks slot) else .none

/-! ## Recording -/

/-- `wait_ms` -/
def persistWait (j : HostEventLog cfg) (now : Int) (urgent : Bool) : Int :=
  let elapsed := now - j.lastPersistUptimeMs
  if j.lastPersistUptimeMs ≠ 0 ∧ elapsed < cfg.persistMinIntervalMs then
    cfg.persistMinIntervalMs - elapsed
  else if urgent then 0 else cfg.persistMinIntervalMs

/-- `schedule_persist_coalesced` -/
def schedulePersistCoalesced (j : HostEventLog cfg) (now : Int) (urgent : Bool) : HostEventLog cfg :=
  { j with
    persistRequested := true
    persistWork :=
      if !j.journalReady then j.persistWork
      else if urgent then j.persistWork.reschedule now (j.persistWait now urgent)
      else j.persistWork.schedule now (j.persistWait now urgent) }

/-- The part of `record_event` under `ring_mu`, and whether it asks for an
urgent write (`need_persist`). -/
def ringPut (j : HostEventLog cfg) (e : TotemHostEvent) (persist : Bool) : HostEventLog cfg × Bool :=
  let since := if persist then j.eventsSincePersist + 1 else j.eventsSincePersist
  let needPersist := persist && decide (cfg.persistEvery ≤ since.toNat)
  ({ j with
      ring := j.ring.push e
      ringSeq := j.ringSeq + 1
      eventsSincePersist := if needPersist then 0 else since }, needPersist)

/-- `record_event` -/
def recordEvent (j : HostEventLog cfg) (now : Int) (e : TotemHostEvent) (persist : Bool) :
    HostEventLog cfg :=
  let (j, needPersist) := j.ringPut e persist
  if persist then j.schedulePersistCoalesced now needPersist else j

/-- `totem_host_event_log_record` -/
def totemHostEventLogRecord (j : HostEventLog cfg) (now : Int) (r : RecordArgs) : HostEventLog cfg :=
  j.recordEvent now (r.event (kUptimeGet32 now)) true

/-- `totem_host_event_log_record_timing` -/
def totemHostEventLogRecordTiming (j : HostEventLog cfg) (now : Int) (e : TotemHostEvent) :
    HostEventLog cfg :=
  j.recordEvent now e false

/-! ## Persisting -/

/-- `first_available` -/
def firstAvailable (j : HostEventLog cfg) : UInt32 :=
  if j.ring.count ≠ 0 then j.ringSeq - UInt32.ofNat j.ring.count + 1 else j.ringSeq + 1

/-- `first_new` -/
def firstNew (j : HostEventLog cfg) : UInt32 :=
  if j.persistedEventSeq + 1 < j.firstAvailable then j.firstAvailable else j.persistedEventSeq + 1

/-- `count`: how many pending events the block takes. -/
def blockCount (j : HostEventLog cfg) : Nat := min (j.ringSeq - j.firstNew + 1).toNat cfg.blockEvents

/-- The event `persist_block.ev[i]` is copied from. -/
def blockSource (j : HostEventLog cfg) (i : Nat) : TotemHostEvent :=
  let eventSeq := j.firstNew + UInt32.ofNat i
  let offset := (eventSeq - j.firstAvailable).toUInt16
  Circular.cell j.ring.pos j.ring.slots (j.ring.start + offset.toNat)

/-- `persist_block` -/
def persistBlock (j : HostEventLog cfg) : TotemDiagBlock :=
  let block : TotemDiagBlock := {
    magic := blockMagic
    version := blockVersion
    slot := UInt8.ofNat j.nextSlot
    count := UInt8.ofNat j.blockCount
    journalSeq := j.journalSeq + 1
    firstEventSeq := j.firstNew
    ev := (List.range cfg.blockEvents).map fun i => if i < j.blockCount then j.blockSource i else .zero
    crc := 0 }
  { block with crc := cfg.crc32Ieee block.body }

/-- `totem_host_event_log_persist` up to its write to flash, which follows
when a call is returned. -/
def persistForm (j : HostEventLog cfg) (now : Int) : HostEventLog cfg × Option PersistCall :=
  if !j.journalReady then (j, .none)
  else if j.lastPersistUptimeMs ≠ 0 ∧ now - j.lastPersistUptimeMs < cfg.persistMinIntervalMs then
    -- Too soon: deferred.
    (j.schedulePersistCoalesced now true, .none)
  else if j.ringSeq < j.firstNew then ({ j with persistRequested := false }, .none)
  else
    ({ j with journalSeq := j.journalSeq + 1, persistRequested := false },
      .some {
        block := j.persistBlock
        slot := j.nextSlot
        lastCopiedSeq := j.firstNew + UInt32.ofNat j.blockCount - 1 })

/-- `totem_host_event_log_persist` after its write to flash answered `err`. -/
def persistFinish (j : HostEventLog cfg) (now : Int) (call : PersistCall) (err : Int) :
    HostEventLog cfg :=
  let j := { j with lastPersistUptimeMs := now }
  let j :=
    if err ≠ 0 then { j with persistRequested := true }
    else
      { j with
        persistedEventSeq := call.lastCopiedSeq
        restoredBlocks := Function.update j.restoredBlocks call.slot call.block
        restoredValid := Function.update j.restoredValid call.slot true
        nextSlot := (call.slot + 1) % cfg.journalSlots }
  if j.persistRequested ∨ j.persistedEventSeq < j.ringSeq then j.schedulePersistCoalesced now true
  else j

/-! ## Loading -/

/-- The slot a settings name stands for: `dlog/` and one digit. -/
def slotOfName : List Char → Option Nat
  | ['d', 'l', 'o', 'g', '/', c] =>
    if '0' ≤ c ∧ c ≤ '9' then .some (c.toNat - '0'.toNat) else .none
  | _ => .none

/-- A valid block takes its slot, and the newest state seen so far. -/
def restore (j : HostEventLog cfg) (slot : Nat) (block : TotemDiagBlock) : HostEventLog cfg :=
  let j := { j with
    restoredBlocks := Function.update j.restoredBlocks slot block
    restoredValid := Function.update j.restoredValid slot true }
  let j :=
    if j.journalSeq ≤ block.journalSeq then
      { j with journalSeq := block.journalSeq, nextSlot := (slot + 1) % cfg.journalSlots }
    else j
  if j.persistedEventSeq < block.lastEventSeq then { j with persistedEventSeq := block.lastEventSeq }
  else j

/-- `hevt_settings_set`, where `read_cb` answers `rc` after it put `data` into
the cleared block. -/
def hevtSettingsSet (j : HostEventLog cfg) (name : List Char) (len : Nat) (rc : Int)
    (data : List UInt8) : HostEventLog cfg × Int :=
  match slotOfName name with
  | .none => (j, -2) -- `-ENOENT`
  | .some slot =>
    if cfg.journalSlots ≤ slot ∨ len ≠ blockSize cfg then (j, 0)
    else
      let bytes := data.take len ++ List.replicate (len - data.length) 0
      let block := TotemDiagBlock.decode cfg bytes
      let cleared := { j with restoredBlocks := Function.update j.restoredBlocks slot block }
      if rc < 0 then (cleared, rc)
      else
        let crc := cfg.crc32Ieee (bytes.take (crcOffset cfg))
        if blockChecks cfg slot block crc ∧ rc = blockSize cfg then (j.restore slot block, 0)
        else (cleared, 0)

/-- The slot's settings name. -/
def dlogName (slot : Nat) : List Char := "dlog/".toList ++ [Char.ofNat ('0'.toNat + slot)]

/-- The call for a slot whose stored bytes are read without an error. -/
def settingsSetStored (j : HostEventLog cfg) (slot : Nat) (bytes : List UInt8) : HostEventLog cfg :=
  (j.hevtSettingsSet (dlogName slot) bytes.length bytes.length bytes).1

/-- `previous_uptime`, `previous_profile` and `previous_endpoint`. -/
def previous (j : HostEventLog cfg) : Previous :=
  let none : Previous := ⟨0, 0, 0, 0, -1, -1⟩
  if j.journalReady then none
  else
    (List.range cfg.journalSlots).foldl (fun p slot =>
      if j.restoredValid slot then
        let block := j.restoredBlocks slot
        (List.range block.count.toNat).foldl (fun p n =>
          p.inspect (block.firstEventSeq + UInt32.ofNat n) (block.event n)) p
      else p) none

/-- The part of `zmk_settings_loaded` under `ring_mu`. -/
def zmkSettingsLoaded (j : HostEventLog cfg) : HostEventLog cfg :=
  if j.journalReady then j
  else
    { j with
      ringSeq := j.persistedEventSeq + UInt32.ofNat j.ring.count
      journalReady := true }

theorem zmkSettingsLoaded_eq {j : HostEventLog cfg} (hr : j.journalReady = false) :
    j.zmkSettingsLoaded =
      { j with
        ringSeq := j.persistedEventSeq + UInt32.ofNat j.ring.count
        journalReady := true } := by
  rw [zmkSettingsLoaded, if_neg (by simp [hr])]

/-- Whether events wait to be saved (`pending`). -/
def pending (j : HostEventLog cfg) : Bool := decide (j.persistedEventSeq < j.ringSeq)

end HostEventLog

end TotemZmk
