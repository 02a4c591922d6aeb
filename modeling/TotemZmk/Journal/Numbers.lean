/-
The numbers of `totem_host_event_log_persist`, free of machine arithmetic.

Event numbers are 32 bits wide. As long as the ring's last number is below
2³² - 1 nothing in the block's arithmetic wraps: the block starts at the
oldest event that is neither saved nor overwritten, and copies events in order
from the ring.

* `Formed`: what a block takes from the ring. `formed_of_persistForm`: what
  the code forms is that.
-/
import TotemZmk.Journal.State
import Mathlib.Algebra.Group.Nat.Defs

namespace TotemZmk

/-- The number of a block's first event. -/
def TotemDiagBlock.first (b : TotemDiagBlock) : Nat := b.firstEventSeq.toNat

/-- The number of a block's last event. -/
def TotemDiagBlock.last (b : TotemDiagBlock) : Nat := b.first + b.count.toNat - 1

/-- The numbering of the ring's events: 32 bits suffice, the ring's events
are among those numbered, and so is the last saved one. -/
structure Counts (count : Nat) (ringSeq persistedEventSeq : UInt32) : Prop where
  lt : ringSeq.toNat + 1 < 2 ^ 32
  count_le : count ≤ ringSeq.toNat
  persisted_le : persistedEventSeq.toNat ≤ ringSeq.toNat

/-- What a block takes: the oldest events of the ring that are not saved. -/
structure Formed (cfg : Config) (ring : Circular.Ring TotemHostEvent cfg.ringCap)
    (ringSeq persistedEventSeq : UInt32) (call : PersistCall) : Prop where
  first_eq : call.block.first =
    max (persistedEventSeq.toNat + 1) (ringSeq.toNat - ring.count + 1)
  count_eq : call.block.count.toNat =
    min (ringSeq.toNat + 1 - call.block.first) cfg.blockEvents
  first_le : call.block.first ≤ ringSeq.toNat
  last_eq : call.lastCopiedSeq.toNat = call.block.last
  event_eq : ∀ i < call.block.count.toNat,
    call.block.event i = ring.read (call.block.first + i - (ringSeq.toNat - ring.count + 1))

namespace Formed

variable {cfg : Config} {ring : Circular.Ring TotemHostEvent cfg.ringCap}
  {ringSeq persistedEventSeq : UInt32} {call : PersistCall}

theorem count_pos (h : Formed cfg ring ringSeq persistedEventSeq call) :
    0 < call.block.count.toNat := by
  have := h.count_eq
  have := h.first_le
  have := cfg.blockEvents_pos
  omega

theorem last_le (h : Formed cfg ring ringSeq persistedEventSeq call) :
    call.block.last ≤ ringSeq.toNat := by
  have := h.count_eq
  have := h.count_pos
  simp only [TotemDiagBlock.last]
  omega

theorem first_le_last (h : Formed cfg ring ringSeq persistedEventSeq call) :
    call.block.first ≤ call.block.last := by
  have := h.count_pos
  simp only [TotemDiagBlock.last]
  omega

theorem persisted_lt (h : Formed cfg ring ringSeq persistedEventSeq call) :
    persistedEventSeq.toNat < call.block.first := by
  have := h.first_eq
  omega

end Formed

namespace HostEventLog

variable {cfg : Config} {j : HostEventLog cfg}

/-! ## Machine numbers -/

theorem firstAvailable_toNat (h : Counts j.ring.count j.ringSeq j.persistedEventSeq) :
    j.firstAvailable.toNat = j.ringSeq.toNat - j.ring.count + 1 := by
  have := h.lt
  have := h.count_le
  have := j.ring.count_le
  have := cfg.ringCap_lt
  unfold firstAvailable
  split
  · simp only [UInt32.toNat_add, UInt32.toNat_sub, UInt32.toNat_ofNat', UInt32.reduceToNat]
    omega
  · simp only [UInt32.toNat_add, UInt32.reduceToNat]
    omega

theorem firstNew_toNat (h : Counts j.ring.count j.ringSeq j.persistedEventSeq) :
    j.firstNew.toNat =
      max (j.persistedEventSeq.toNat + 1) (j.ringSeq.toNat - j.ring.count + 1) := by
  have hs : (j.persistedEventSeq + 1).toNat = j.persistedEventSeq.toNat + 1 := by
    have := h.lt
    have := h.persisted_le
    simp only [UInt32.toNat_add, UInt32.reduceToNat]
    omega
  unfold firstNew
  split
  · rename_i hlt
    rw [UInt32.lt_iff_toNat_lt, hs, firstAvailable_toNat h] at hlt
    rw [firstAvailable_toNat h]
    omega
  · rename_i hge
    rw [UInt32.lt_iff_toNat_lt, hs, firstAvailable_toNat h] at hge
    rw [hs]
    omega

/-- Nothing is left to save exactly when the last event is. -/
theorem ringSeq_lt_firstNew (h : Counts j.ring.count j.ringSeq j.persistedEventSeq) :
    j.ringSeq < j.firstNew ↔ j.ring.count = 0 ∨ j.persistedEventSeq = j.ringSeq := by
  have := h.count_le
  have := h.persisted_le
  rw [UInt32.lt_iff_toNat_lt, firstNew_toNat h, ← UInt32.toNat_inj]
  omega

theorem blockCount_eq (h : Counts j.ring.count j.ringSeq j.persistedEventSeq)
    (hn : ¬ j.ringSeq < j.firstNew) :
    j.blockCount = min (j.ringSeq.toNat + 1 - j.firstNew.toNat) cfg.blockEvents := by
  have := h.lt
  rw [UInt32.lt_iff_toNat_lt] at hn
  have := firstNew_toNat h
  simp only [blockCount, UInt32.toNat_add, UInt32.toNat_sub, UInt32.reduceToNat]
  congr 1
  omega

theorem blockSource_eq (h : Counts j.ring.count j.ringSeq j.persistedEventSeq)
    (hn : ¬ j.ringSeq < j.firstNew) {i : Nat} (hi : i < j.blockCount) :
    j.blockSource i =
      j.ring.read (j.firstNew.toNat + i - (j.ringSeq.toNat - j.ring.count + 1)) := by
  have := h.lt
  have := j.ring.count_le
  have := cfg.ringCap_lt
  have hc := blockCount_eq h hn
  have hf := firstNew_toNat h
  have ha := firstAvailable_toNat h
  have hoff : (j.firstNew + UInt32.ofNat i - j.firstAvailable).toUInt16.toNat =
      j.firstNew.toNat + i - (j.ringSeq.toNat - j.ring.count + 1) := by
    simp only [UInt32.toNat_toUInt16, UInt32.toNat_sub, UInt32.toNat_add, UInt32.toNat_ofNat']
    rw [UInt32.lt_iff_toNat_lt] at hn
    omega
  simp only [blockSource, hoff, Circular.Ring.read]

/-! ## The block -/

/-- What `totem_host_event_log_persist` did when it formed a block. -/
theorem persistForm_some {now : Int} {j' : HostEventLog cfg} {call : PersistCall}
    (h : j.persistForm now = (j', .some call)) :
    j.journalReady = true ∧ ¬ j.ringSeq < j.firstNew ∧
      ¬ (j.lastPersistUptimeMs ≠ 0 ∧ now - j.lastPersistUptimeMs < cfg.persistMinIntervalMs) ∧
      j' = { j with journalSeq := j.journalSeq + 1, persistRequested := false } ∧
      call = ⟨j.persistBlock, j.nextSlot, j.firstNew + UInt32.ofNat j.blockCount - 1⟩ := by
  unfold persistForm at h
  split at h
  · cases h
  · rename_i hr
    split at h
    · cases h
    · rename_i hsoon
      split at h
      · cases h
      · rename_i hn
        cases h
        exact ⟨by simpa using hr, hn, hsoon, rfl, rfl⟩

theorem persistForm_eq {now : Int} (hr : j.journalReady = true)
    (hsoon : ¬ (j.lastPersistUptimeMs ≠ 0 ∧ now - j.lastPersistUptimeMs < cfg.persistMinIntervalMs))
    (hn : ¬ j.ringSeq < j.firstNew) :
    j.persistForm now = ({ j with journalSeq := j.journalSeq + 1, persistRequested := false },
      .some ⟨j.persistBlock, j.nextSlot, j.firstNew + UInt32.ofNat j.blockCount - 1⟩) := by
  rw [persistForm, if_neg (by simp [hr]), if_neg hsoon, if_neg hn]

/-- When no block was formed, only the work item and its request flag changed. -/
theorem persistForm_none {now : Int} {j' : HostEventLog cfg}
    (h : j.persistForm now = (j', .none)) :
    ∃ pr w, j' = { j with persistRequested := pr, persistWork := w } := by
  unfold persistForm at h
  split at h
  · cases h; exact ⟨_, _, rfl⟩
  · split at h
    · cases h; exact ⟨_, _, rfl⟩
    · split at h
      · cases h; exact ⟨_, _, rfl⟩
      · cases h

theorem event_persistBlock {i : Nat} (hi : i < j.blockCount) :
    j.persistBlock.event i = j.blockSource i := by
  have : j.blockCount ≤ cfg.blockEvents := Nat.min_le_right _ _
  have hib : i < cfg.blockEvents := by omega
  simp [persistBlock, TotemDiagBlock.event, hi, hib]

theorem count_persistBlock : j.persistBlock.count.toNat = j.blockCount := by
  have : j.blockCount ≤ cfg.blockEvents := Nat.min_le_right _ _
  have := cfg.blockEvents_lt
  simp only [persistBlock, UInt8.toNat_ofNat']
  omega

/-- **A formed block takes the oldest events that are not saved.** -/
theorem formed_of_persistForm {now : Int} {j' : HostEventLog cfg} {call : PersistCall}
    (hc : Counts j.ring.count j.ringSeq j.persistedEventSeq)
    (h : j.persistForm now = (j', .some call)) :
    Formed cfg j.ring j.ringSeq j.persistedEventSeq call := by
  obtain ⟨-, hn, -, -, rfl⟩ := persistForm_some h
  have hcount := blockCount_eq hc hn
  have hfirst := firstNew_toNat hc
  have hlt := hc.lt
  have hpos := cfg.blockEvents_pos
  have hn' := hn
  rw [UInt32.lt_iff_toNat_lt] at hn'
  refine ⟨hfirst, ?_, by simp only [TotemDiagBlock.first, persistBlock]; omega, ?_, ?_⟩
  · rw [count_persistBlock, hcount]
    rfl
  · simp only [TotemDiagBlock.last, count_persistBlock, TotemDiagBlock.first]
    simp only [persistBlock, UInt32.toNat_sub, UInt32.toNat_add, UInt32.toNat_ofNat',
      UInt32.reduceToNat]
    omega
  · intro i hi
    rw [count_persistBlock] at hi
    rw [event_persistBlock hi, blockSource_eq hc hn hi]
    rfl

/-- **A formed block passes validation** in the slot it is written to. -/
theorem blockOK_persistBlock (hs : j.nextSlot < cfg.journalSlots) (hpos : 0 < j.blockCount) :
    BlockOK cfg j.nextSlot j.persistBlock where
  magic := rfl
  version := rfl
  slot_eq := by
    have := cfg.journalSlots_le
    simp only [persistBlock, UInt8.toNat_ofNat']
    omega
  count_pos := by rw [count_persistBlock]; exact hpos
  count_le := by rw [count_persistBlock]; exact Nat.min_le_right _ _
  length_ev := by simp [persistBlock]
  crc := rfl

end HostEventLog

end TotemZmk
