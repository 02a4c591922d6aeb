/-
Journal events and blocks: the structures of `host_event_log.c`, their bytes
in flash, and the validation a stored block must pass.

* `TotemDiagBlock.decode_encode`: a block reads back as it was written.
* `readBlock_encode`: the block the writer forms is a valid one.
-/
import TotemZmk.Lib.Bytes

namespace TotemZmk

open Bytes

/-- The build's configuration, and the CRC `<zephyr/sys/crc.h>` provides.
The bounds are those the code's types put on the options (a `uint16_t` ring
index, a `uint8_t` event count, a slot named by one digit); Kconfig's ranges
lie within them. -/
structure Config where
  /-- `RING_CAP` -/
  ringCap : Nat
  /-- `PERSIST_EVERY` -/
  persistEvery : Nat
  /-- `BLOCK_EVENTS` -/
  blockEvents : Nat
  /-- `JOURNAL_SLOTS` -/
  journalSlots : Nat
  /-- `PERSIST_MIN_INTERVAL_MS` -/
  persistMinIntervalMs : Nat
  crc32Ieee : List UInt8 → UInt32
  ringCap_pos : 0 < ringCap
  ringCap_lt : ringCap < 65536
  blockEvents_pos : 0 < blockEvents
  blockEvents_lt : blockEvents < 256
  journalSlots_pos : 0 < journalSlots
  journalSlots_le : journalSlots ≤ 10
  persistMin_pos : 0 < persistMinIntervalMs

/-- `struct totem_host_event` -/
structure TotemHostEvent where
  uptimeMs : UInt32
  type : UInt8
  idx : Int8
  active : Int8
  reason : UInt8
  thrashWin : UInt8
  extra : UInt8
deriving DecidableEq, Repr

/-- A cleared event. -/
def TotemHostEvent.zero : TotemHostEvent := ⟨0, 0, 0, 0, 0, 0, 0⟩

/-- `struct totem_diag_block` -/
structure TotemDiagBlock where
  magic : UInt32
  version : UInt16
  slot : UInt8
  count : UInt8
  journalSeq : UInt32
  firstEventSeq : UInt32
  ev : List TotemHostEvent
  crc : UInt32
deriving DecidableEq, Repr

def TotemDiagBlock.zero : TotemDiagBlock := ⟨0, 0, 0, 0, 0, 0, [], 0⟩

/-- `BLOCK_MAGIC`, 'TDLG' -/
def blockMagic : UInt32 := 0x54444C47

/-- `BLOCK_VERSION` -/
def blockVersion : UInt16 := 1

/-- `ev[i]` -/
def TotemDiagBlock.event (b : TotemDiagBlock) (i : Nat) : TotemHostEvent := b.ev.getD i .zero

/-- The number of the last event in a block. -/
def TotemDiagBlock.lastEventSeq (b : TotemDiagBlock) : UInt32 :=
  b.firstEventSeq + b.count.toUInt32 - 1

/-! ## Bytes -/

/-- The packed event: 10 bytes. -/
def TotemHostEvent.encode (e : TotemHostEvent) : List UInt8 :=
  putU32 e.uptimeMs ++ putU8 e.type ++ putI8 e.idx ++ putI8 e.active ++ putU8 e.reason ++
    putU8 e.thrashWin ++ putU8 e.extra

def TotemHostEvent.read : Reader TotemHostEvent := fun bs =>
  let (uptimeMs, bs) := readU32 bs
  let (type, bs) := readU8 bs
  let (idx, bs) := readI8 bs
  let (active, bs) := readI8 bs
  let (reason, bs) := readU8 bs
  let (thrashWin, bs) := readU8 bs
  let (extra, bs) := readU8 bs
  (⟨uptimeMs, type, idx, active, reason, thrashWin, extra⟩, bs)

theorem TotemHostEvent.read_encode (e : TotemHostEvent) (bs : List UInt8) :
    TotemHostEvent.read (e.encode ++ bs) = (e, bs) := by
  simp only [TotemHostEvent.encode, TotemHostEvent.read, List.append_assoc, readU32_putU32,
    readU8_putU8, readI8_putI8]

theorem TotemHostEvent.length_encode (e : TotemHostEvent) : e.encode.length = 10 := by
  simp [TotemHostEvent.encode]

/-- The bytes the CRC covers: everything up to `crc`. -/
def TotemDiagBlock.body (b : TotemDiagBlock) : List UInt8 :=
  putU32 b.magic ++ putU16 b.version ++ putU8 b.slot ++ putU8 b.count ++ putU32 b.journalSeq ++
    putU32 b.firstEventSeq ++ b.ev.flatMap TotemHostEvent.encode

/-- The packed block. -/
def TotemDiagBlock.encode (b : TotemDiagBlock) : List UInt8 := b.body ++ putU32 b.crc

/-- `offsetof(struct totem_diag_block, crc)` -/
def crcOffset (cfg : Config) : Nat := 16 + 10 * cfg.blockEvents

/-- `sizeof(struct totem_diag_block)` -/
def blockSize (cfg : Config) : Nat := crcOffset cfg + 4

/-- The block a buffer holds. -/
def TotemDiagBlock.decode (cfg : Config) (bs : List UInt8) : TotemDiagBlock :=
  let (magic, bs) := readU32 bs
  let (version, bs) := readU16 bs
  let (slot, bs) := readU8 bs
  let (count, bs) := readU8 bs
  let (journalSeq, bs) := readU32 bs
  let (firstEventSeq, bs) := readU32 bs
  let (ev, bs) := readList TotemHostEvent.read cfg.blockEvents bs
  let (crc, _) := readU32 bs
  ⟨magic, version, slot, count, journalSeq, firstEventSeq, ev, crc⟩

theorem TotemDiagBlock.length_body {cfg : Config} {b : TotemDiagBlock}
    (h : b.ev.length = cfg.blockEvents) : b.body.length = crcOffset cfg := by
  simp [body, crcOffset, length_putList TotemHostEvent.length_encode, h]
  omega

theorem TotemDiagBlock.length_encode {cfg : Config} {b : TotemDiagBlock}
    (h : b.ev.length = cfg.blockEvents) : b.encode.length = blockSize cfg := by
  simp [encode, length_body h, blockSize]

/-- **A block reads back as it was written.** -/
theorem TotemDiagBlock.decode_encode {cfg : Config} {b : TotemDiagBlock}
    (h : b.ev.length = cfg.blockEvents) : decode cfg b.encode = b := by
  simp only [encode, body, decode, List.append_assoc, readU32_putU32, readU16_putU16, readU8_putU8,
    ← h, readList_putList TotemHostEvent.read_encode]
  rw [← List.append_nil (putU32 b.crc), readU32_putU32]

theorem TotemDiagBlock.length_ev_decode (cfg : Config) (bs : List UInt8) :
    (decode cfg bs).ev.length = cfg.blockEvents := by
  simp only [decode, length_readList]

theorem TotemHostEvent.exact_read : Exact TotemHostEvent.read TotemHostEvent.encode 10 := by
  intro bs h
  obtain ⟨uptimeMs, bs₁, e₁, h₁, l₁⟩ := exact_readU32.split bs (by omega)
  obtain ⟨type, bs₂, e₂, h₂, l₂⟩ := exact_readU8.split bs₁ (by omega)
  obtain ⟨idx, bs₃, e₃, h₃, l₃⟩ := exact_readI8.split bs₂ (by omega)
  obtain ⟨active, bs₄, e₄, h₄, l₄⟩ := exact_readI8.split bs₃ (by omega)
  obtain ⟨reason, bs₅, e₅, h₅, l₅⟩ := exact_readU8.split bs₄ (by omega)
  obtain ⟨thrashWin, bs₆, e₆, h₆, l₆⟩ := exact_readU8.split bs₅ (by omega)
  obtain ⟨extra, bs₇, e₇, h₇, l₇⟩ := exact_readU8.split bs₆ (by omega)
  have hread : TotemHostEvent.read bs =
      (⟨uptimeMs, type, idx, active, reason, thrashWin, extra⟩, bs₇) := by
    simp only [TotemHostEvent.read, e₁, e₂, e₃, e₄, e₅, e₆, e₇]
  rw [hread]
  refine ⟨?_, by show bs₇.length + 10 = _; omega⟩
  simp only [TotemHostEvent.encode, List.append_assoc, ← h₇, ← h₆, ← h₅, ← h₄, ← h₃, ← h₂, ← h₁]

/-- **A full buffer is the block it decodes to.** -/
theorem TotemDiagBlock.encode_decode {cfg : Config} {bs : List UInt8}
    (h : bs.length = blockSize cfg) : (decode cfg bs).encode = bs := by
  simp only [blockSize, crcOffset] at h
  obtain ⟨magic, bs₁, e₁, h₁, l₁⟩ := exact_readU32.split bs (by omega)
  obtain ⟨version, bs₂, e₂, h₂, l₂⟩ := exact_readU16.split bs₁ (by omega)
  obtain ⟨slot, bs₃, e₃, h₃, l₃⟩ := exact_readU8.split bs₂ (by omega)
  obtain ⟨count, bs₄, e₄, h₄, l₄⟩ := exact_readU8.split bs₃ (by omega)
  obtain ⟨journalSeq, bs₅, e₅, h₅, l₅⟩ := exact_readU32.split bs₄ (by omega)
  obtain ⟨firstEventSeq, bs₆, e₆, h₆, l₆⟩ := exact_readU32.split bs₅ (by omega)
  obtain ⟨ev, bs₇, e₇, h₇, l₇⟩ :=
    (exact_readList TotemHostEvent.exact_read cfg.blockEvents).split bs₆ (by omega)
  obtain ⟨crc, bs₈, e₈, h₈, l₈⟩ := exact_readU32.split bs₇ (by omega)
  -- Nothing is left behind the CRC.
  have hrest : bs₈ = [] := List.eq_nil_of_length_eq_zero (by omega)
  rw [hrest, List.append_nil] at h₈
  have hdecode : decode cfg bs =
      ⟨magic, version, slot, count, journalSeq, firstEventSeq, ev, crc⟩ := by
    simp only [decode, e₁, e₂, e₃, e₄, e₅, e₆, e₇, e₈]
  rw [hdecode]
  simp only [encode, body, List.append_assoc, ← h₈, ← h₇, ← h₆, ← h₅, ← h₄, ← h₃, ← h₂, ← h₁]

theorem TotemDiagBlock.body_decode {cfg : Config} {bs : List UInt8} (h : bs.length = blockSize cfg) :
    (decode cfg bs).body = bs.take (crcOffset cfg) := by
  have henc := congrArg (List.take (crcOffset cfg)) (encode_decode h)
  rw [encode, ← length_body (length_ev_decode cfg bs), List.take_left' rfl] at henc
  rw [henc, length_body (length_ev_decode cfg bs)]

/-! ## Validation -/

/-- `block->crc` and the checks of `hevt_settings_set`, all but the one on the
number of bytes read. -/
def blockChecks (cfg : Config) (slot : Nat) (block : TotemDiagBlock) (crc : UInt32) : Bool :=
  block.magic == blockMagic && block.version == blockVersion && block.slot.toNat == slot &&
    block.count != 0 && block.count.toNat ≤ cfg.blockEvents && block.crc == crc

/-- The valid block a slot's stored bytes hold, if they hold one. -/
def readBlock (cfg : Config) (slot : Nat) (bs : List UInt8) : Option TotemDiagBlock :=
  let block := TotemDiagBlock.decode cfg bs
  if bs.length = blockSize cfg ∧
      blockChecks cfg slot block (cfg.crc32Ieee (bs.take (crcOffset cfg))) then .some block
  else .none

/-- What the checks say of a valid block. -/
structure BlockOK (cfg : Config) (slot : Nat) (b : TotemDiagBlock) : Prop where
  magic : b.magic = blockMagic
  version : b.version = blockVersion
  slot_eq : b.slot.toNat = slot
  count_pos : 0 < b.count.toNat
  count_le : b.count.toNat ≤ cfg.blockEvents
  length_ev : b.ev.length = cfg.blockEvents
  crc : b.crc = cfg.crc32Ieee b.body

theorem blockChecks_iff {cfg : Config} {slot : Nat} {b : TotemDiagBlock} {crc : UInt32} :
    blockChecks cfg slot b crc = true ↔ b.magic = blockMagic ∧ b.version = blockVersion ∧
      b.slot.toNat = slot ∧ 0 < b.count.toNat ∧ b.count.toNat ≤ cfg.blockEvents ∧ b.crc = crc := by
  have hz : b.count ≠ 0 ↔ 0 < b.count.toNat := by
    rw [Nat.pos_iff_ne_zero, ne_eq, ne_eq, ← UInt8.toNat_inj]; rfl
  simp [blockChecks, hz, and_assoc]

/-- **A formed block is valid** once it is in flash. -/
theorem readBlock_encode {cfg : Config} {slot : Nat} {b : TotemDiagBlock} (h : BlockOK cfg slot b) :
    readBlock cfg slot b.encode = .some b := by
  have hbody : b.encode.take (crcOffset cfg) = b.body := by
    rw [TotemDiagBlock.encode, ← TotemDiagBlock.length_body h.length_ev, List.take_left']
    rfl
  unfold readBlock
  rw [TotemDiagBlock.decode_encode h.length_ev, hbody]
  refine if_pos ⟨TotemDiagBlock.length_encode h.length_ev, ?_⟩
  exact blockChecks_iff.mpr
    ⟨h.magic, h.version, h.slot_eq, h.count_pos, h.count_le, h.crc⟩

theorem length_of_readBlock {cfg : Config} {slot : Nat} {bs : List UInt8} {b : TotemDiagBlock}
    (h : readBlock cfg slot bs = .some b) : bs.length = blockSize cfg := by
  simp only [readBlock] at h
  split at h
  · rename_i hc; exact hc.1
  · cases h

end TotemZmk
