/-
`boot_diagnostics.c`: what this boot records about itself once the settings
are loaded, and the boot counter it saves with the first journal block.

* `totemBootDiagnosticsLoaded`: the five boot records, once per boot.
* `totemBootDiagnosticsPersist`: the counter stays pending until it is saved.
-/
import TotemZmk.Journal.Block

namespace TotemZmk

open Bytes

/-- The arguments of `totem_host_event_log_record`. -/
structure RecordArgs where
  type : UInt8
  idx : Int8
  active : Int8
  reason : UInt8
  thrashWin : UInt8
  extra : UInt8
deriving DecidableEq, Repr

/-- The event those arguments make at an uptime. -/
def RecordArgs.event (r : RecordArgs) (uptimeMs : UInt32) : TotemHostEvent :=
  ⟨uptimeMs, r.type, r.idx, r.active, r.reason, r.thrashWin, r.extra⟩

/-! ## `enum totem_host_evt` -/

def totemHevtDisc : UInt8 := 1
def totemHevtThrashWin : UInt8 := 13
def totemHevtUsb : UInt8 := 16
def totemHevtHidSubscribed : UInt8 := 20
def totemHevtFlashBegin : UInt8 := 26
def totemHevtFlashEnd : UInt8 := 27
def totemHevtTimingDropped : UInt8 := 30
def totemHevtBootRaw : UInt8 := 40
def totemHevtBootCounter : UInt8 := 43
def totemHevtBootPreviousUptime : UInt8 := 44
def totemHevtBootPreviousState : UInt8 := 45
def totemHevtBootRamStatus : UInt8 := 46

/-! ## The boot's own state -/

/-- The statics of `boot_diagnostics.c`, those fixed before the kernel starts
included (`raw_reset`, `raw_available`, `ram_survived`). -/
structure BootDiagnostics where
  count : UInt32
  crc : UInt32
  rawReset : UInt32
  rawAvailable : UInt8
  ramSurvived : UInt8
  counterStatus : UInt8
  counterPending : Bool
  bootLoaded : Bool
  savedPreviousUptime : UInt32
  savedPreviousProfile : Int8
  savedPreviousEndpoint : Int8
  resetReadResult : Int
  faultStatus : UInt8
deriving DecidableEq, Repr

/-- `boot_record_word` -/
def bootRecordWord (kind : UInt8) (value : UInt32) (status : UInt8) : RecordArgs :=
  ⟨kind, value.toUInt8.toInt8, (value >>> 8).toUInt8.toInt8, status, (value >>> 16).toUInt8,
    (value >>> 24).toUInt8⟩

/-- `counter_crc` -/
def counterCrc (cfg : Config) (count : UInt32) : UInt32 := cfg.crc32Ieee (putU32 count)

/-- `totem_boot_diagnostics_loaded`, with the records it makes in order. -/
def totemBootDiagnosticsLoaded (cfg : Config) (bd : BootDiagnostics) (previousUptime : UInt32)
    (previousProfile previousEndpoint : Int8) : BootDiagnostics × List RecordArgs :=
  if bd.bootLoaded then (bd, [])
  else
    let count := bd.count + 1
    ({ bd with
        bootLoaded := true
        savedPreviousUptime := previousUptime
        savedPreviousProfile := previousProfile
        savedPreviousEndpoint := previousEndpoint
        count := count
        crc := counterCrc cfg count
        counterPending := true },
      [bootRecordWord totemHevtBootRaw bd.rawReset bd.rawAvailable,
        bootRecordWord totemHevtBootCounter count bd.counterStatus,
        bootRecordWord totemHevtBootPreviousUptime previousUptime 0,
        ⟨totemHevtBootPreviousState, previousProfile, previousEndpoint, 0, 0, 0⟩,
        ⟨totemHevtBootRamStatus, -1, -1, bd.ramSurvived, 0, 0⟩])

/-- `totem_boot_diagnostics_persist`, where saving the counter answers `err`. -/
def totemBootDiagnosticsPersist (bd : BootDiagnostics) (err : Int) : BootDiagnostics :=
  if bd.counterPending ∧ err = 0 then { bd with counterPending := false } else bd

end TotemZmk
