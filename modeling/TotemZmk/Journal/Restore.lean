/-
What a settings callback leaves of the journal.

`hevt_settings_set` reads into the slot's live block and checks it afterwards,
and `restored_valid` is a flag beside it. So a record that is rejected changes
nothing, unless the slot was restored before: then the flag stays and the
block is what was read.

* `restore_atomic_iff`: exactly when a call is atomic, and that calls which
  are keep every valid slot validated.
* `restore_overwrites`: a second record for a slot that breaks both.
-/
import TotemZmk.Journal.View
import TotemZmk.Lib.Crc

namespace TotemZmk

/-- A call of `hevt_settings_set`: the key behind the prefix, the length of
the stored value, and what `read_cb` answers and puts into the buffer. -/
structure SettingsCall where
  name : List Char
  len : Nat
  rc : Int
  data : List UInt8
deriving DecidableEq, Repr

namespace SettingsCall

variable (cfg : Config) (c : SettingsCall)

/-- The slot the call reads into, if it comes to that. -/
def target : Option Nat :=
  match HostEventLog.slotOfName c.name with
  | .none => .none
  | .some slot => if cfg.journalSlots ≤ slot ∨ c.len ≠ blockSize cfg then .none else .some slot

/-- The buffer after the read: it was cleared first. -/
def bytes : List UInt8 := c.data.take c.len ++ List.replicate (c.len - c.data.length) 0

/-- The block the buffer holds. -/
def block : TotemDiagBlock := TotemDiagBlock.decode cfg c.bytes

/-- The checks on what was read into `slot`. -/
def Passes (slot : Nat) : Prop :=
  ¬c.rc < 0 ∧ blockChecks cfg slot (c.block cfg) (cfg.crc32Ieee (c.bytes.take (crcOffset cfg))) = true ∧
    c.rc = blockSize cfg

/-- The call restores its record. -/
def Accepted : Prop := ∃ slot, c.target cfg = .some slot ∧ c.Passes cfg slot

/-- The call reads into a slot that was restored before, rejects the record,
and what it read is not the block that was there. -/
def Overwrites {cfg : Config} (c : SettingsCall) (j : HostEventLog cfg) : Prop :=
  ∃ slot, c.target cfg = .some slot ∧ j.restoredValid slot = true ∧ ¬c.Passes cfg slot ∧
    c.block cfg ≠ j.restoredBlocks slot

theorem length_bytes : c.bytes.length = c.len := by
  simp only [bytes, List.length_append, List.length_take, List.length_replicate]
  omega

variable {cfg c} in
theorem not_accepted {slot : Nat} (ht : c.target cfg = .some slot) (hfails : ¬c.Passes cfg slot) :
    ¬c.Accepted cfg := by
  rintro ⟨slot', ht', hp⟩
  rw [ht, Option.some.injEq] at ht'
  exact hfails (ht' ▸ hp)

end SettingsCall

namespace HostEventLog

variable {cfg : Config} {j : HostEventLog cfg} {c : SettingsCall} {slot : Nat}

/-- The state after a call. -/
def settingsCall (j : HostEventLog cfg) (c : SettingsCall) : HostEventLog cfg :=
  (j.hevtSettingsSet c.name c.len c.rc c.data).1

/-! ## What a call does -/

theorem settingsCall_none (h : c.target cfg = .none) : j.settingsCall c = j := by
  unfold SettingsCall.target at h
  unfold settingsCall hevtSettingsSet
  cases hs : slotOfName c.name with
  | none => rfl
  | some slot =>
    rw [hs] at h
    dsimp only at h ⊢
    split at h
    · rename_i hc
      rw [if_pos hc]
    · cases h

theorem slot_lt_of_target (h : c.target cfg = .some slot) :
    slotOfName c.name = .some slot ∧ ¬(cfg.journalSlots ≤ slot ∨ c.len ≠ blockSize cfg) := by
  unfold SettingsCall.target at h
  cases hs : slotOfName c.name with
  | none =>
    rw [hs] at h
    cases h
  | some slot' =>
    rw [hs] at h
    dsimp only at h
    split at h
    · cases h
    · rename_i hc
      cases h
      exact ⟨rfl, hc⟩

theorem settingsCall_passes (h : c.target cfg = .some slot) (hp : c.Passes cfg slot) :
    j.settingsCall c = j.restore slot (c.block cfg) := by
  obtain ⟨hs, hc⟩ := slot_lt_of_target h
  obtain ⟨hrc, hchecks, hlen⟩ := hp
  unfold settingsCall hevtSettingsSet
  rw [hs]
  dsimp only
  rw [if_neg hc, if_neg hrc, if_pos ⟨hchecks, hlen⟩]
  rfl

theorem settingsCall_fails (h : c.target cfg = .some slot) (hp : ¬c.Passes cfg slot) :
    j.settingsCall c =
      { j with restoredBlocks := Function.update j.restoredBlocks slot (c.block cfg) } := by
  obtain ⟨hs, hc⟩ := slot_lt_of_target h
  unfold settingsCall hevtSettingsSet
  rw [hs]
  dsimp only
  rw [if_neg hc]
  split
  · rfl
  · rename_i hrc
    rw [if_neg fun hq => hp ⟨hrc, hq.1, hq.2⟩]
    rfl

@[simp] theorem restoredValid_restore (b : TotemDiagBlock) :
    (j.restore slot b).restoredValid = Function.update j.restoredValid slot true := by
  unfold restore
  dsimp only
  split <;> split <;> rfl

@[simp] theorem restoredBlocks_restore (b : TotemDiagBlock) :
    (j.restore slot b).restoredBlocks = Function.update j.restoredBlocks slot b := by
  unfold restore
  dsimp only
  split <;> split <;> rfl

/-- **What passes the checks is a validated block.** -/
theorem blockOK_of_passes (h : c.target cfg = .some slot) (hp : c.Passes cfg slot) :
    BlockOK cfg slot (c.block cfg) := by
  obtain ⟨-, hc⟩ := slot_lt_of_target h
  have hlen : c.bytes.length = blockSize cfg := by
    rw [c.length_bytes]
    omega
  obtain ⟨hmagic, hversion, hslot, hpos, hle, hcrc⟩ := blockChecks_iff.mp hp.2.1
  refine ⟨hmagic, hversion, hslot, hpos, hle, TotemDiagBlock.length_ev_decode cfg _, ?_⟩
  rw [hcrc, SettingsCall.block, TotemDiagBlock.body_decode hlen]

/-! ## Atomicity -/

/-- Each slot marked valid holds a block that passes validation. -/
def Validated (j : HostEventLog cfg) : Prop :=
  ∀ slot < cfg.journalSlots, j.restoredValid slot = true → BlockOK cfg slot (j.restoredBlocks slot)

theorem Validated.init : Validated (init cfg) := by
  intro slot hlt hv
  cases hv

/-- What a rejected record must leave as it was. -/
structure Unchanged (j j' : HostEventLog cfg) : Prop where
  valid : j'.restoredValid = j.restoredValid
  blocks : ∀ slot, j.restoredValid slot = true → j'.restoredBlocks slot = j.restoredBlocks slot
  journalSeq : j'.journalSeq = j.journalSeq
  nextSlot : j'.nextSlot = j.nextSlot
  persistedEventSeq : j'.persistedEventSeq = j.persistedEventSeq

/-- Only `slot` changed, and it holds a validated block. -/
structure Restored (slot : Nat) (j j' : HostEventLog cfg) : Prop where
  valid : j'.restoredValid slot = true
  block : BlockOK cfg slot (j'.restoredBlocks slot)
  others : ∀ other, other ≠ slot → j'.restoredValid other = j.restoredValid other ∧
    j'.restoredBlocks other = j.restoredBlocks other

/-- The call is all or nothing. -/
def Atomic (j : HostEventLog cfg) (c : SettingsCall) : Prop :=
  (¬c.Accepted cfg → Unchanged j (j.settingsCall c)) ∧
    ∀ slot, c.target cfg = .some slot → c.Passes cfg slot → Restored slot j (j.settingsCall c)

theorem Unchanged.refl : Unchanged j j := ⟨rfl, fun _ _ => rfl, rfl, rfl, rfl⟩

theorem restored_of_passes (h : c.target cfg = .some slot) (hp : c.Passes cfg slot) :
    Restored slot j (j.settingsCall c) := by
  rw [settingsCall_passes h hp]
  refine ⟨by simp, by simpa using blockOK_of_passes h hp, ?_⟩
  intro other hne
  simp [hne]

theorem atomic_iff : Atomic j c ↔ ¬c.Overwrites j := by
  constructor
  · rintro ⟨hrejected, -⟩ ⟨slot, ht, hv, hp, hne⟩
    have hblock := (hrejected (SettingsCall.not_accepted ht hp)).blocks slot hv
    rw [settingsCall_fails ht hp] at hblock
    exact hne (by simpa using hblock)
  · intro hno
    refine ⟨fun hna => ?_, fun slot ht hp => restored_of_passes ht hp⟩
    cases ht : c.target cfg with
    | none =>
      rw [settingsCall_none ht]
      exact .refl
    | some slot =>
      have hp : ¬c.Passes cfg slot := fun hp => hna ⟨slot, ht, hp⟩
      rw [settingsCall_fails ht hp]
      refine ⟨rfl, ?_, rfl, rfl, rfl⟩
      intro other hv
      by_cases ho : other = slot
      · -- The slot was restored before, so what was read is what was there.
        subst ho
        have hsame : c.block cfg = j.restoredBlocks other := by
          by_contra hne
          exact hno ⟨other, ht, hv, hp, hne⟩
        simpa using hsame
      · simp [ho]

theorem Validated.settingsCall (hj : Validated j) (ha : Atomic j c) :
    Validated (j.settingsCall c) := by
  intro slot hlt hv
  by_cases hacc : c.Accepted cfg
  · obtain ⟨slot', ht, hp⟩ := hacc
    have hr := ha.2 slot' ht hp
    by_cases hs : slot = slot'
    · exact hs ▸ hr.block
    · obtain ⟨hvalid, hblock⟩ := hr.others slot hs
      rw [hvalid] at hv
      rw [hblock]
      exact hj slot hlt hv
  · have hu := ha.1 hacc
    rw [hu.valid] at hv
    rw [hu.blocks slot hv]
    exact hj slot hlt hv

/-- No call of the sequence overwrites, in the state it meets. -/
def Undamaged (j : HostEventLog cfg) : List SettingsCall → Prop
  | [] => True
  | c :: cs => ¬c.Overwrites j ∧ Undamaged (j.settingsCall c) cs

theorem Validated.settingsCalls (hj : Validated j) {cs : List SettingsCall} (h : Undamaged j cs) :
    Validated (cs.foldl HostEventLog.settingsCall j) := by
  induction cs generalizing j with
  | nil => exact hj
  | cons c cs ih => exact ih (hj.settingsCall (atomic_iff.mpr h.1)) h.2

/-- The loops over `block->count` stay within the block. -/
theorem Validated.in_block (hj : Validated j) (hlt : slot < cfg.journalSlots)
    (hv : j.restoredValid slot = true) {n : Nat} (hn : n < (j.restoredBlocks slot).count.toNat) :
    n < (j.restoredBlocks slot).ev.length ∧ n < cfg.blockEvents := by
  have hok := hj slot hlt hv
  have hle := hok.count_le
  have hlen := hok.length_ev
  omega

end HostEventLog

/-- **A rejected record changes nothing**, and an accepted one only its slot,
exactly when the call does not overwrite a slot that was restored before. From
a validated state, calls that do not keep every valid slot validated, and the
loops over it inside the block. -/
theorem restore_atomic_iff {cfg : Config} {j : HostEventLog cfg} (hj : j.Validated) :
    (∀ c : SettingsCall, j.Atomic c ↔ ¬c.Overwrites j) ∧
    ∀ cs : List SettingsCall, j.Undamaged cs →
      (cs.foldl HostEventLog.settingsCall j).Validated ∧
      ∀ slot < cfg.journalSlots,
        (cs.foldl HostEventLog.settingsCall j).restoredValid slot = true →
        ∀ n < ((cs.foldl HostEventLog.settingsCall j).restoredBlocks slot).count.toNat,
          n < cfg.blockEvents := by
  refine ⟨fun c => HostEventLog.atomic_iff, ?_⟩
  intro cs hcs
  have hvalid := hj.settingsCalls hcs
  refine ⟨hvalid, ?_⟩
  intro slot hlt hv n hn
  exact (hvalid.in_block hlt hv hn).2

/-! ## A second record for a slot -/

section

variable {cfg : Config} {slot : Nat} {b : TotemDiagBlock}

/-- The call for a slot that reads the bytes of `b` in full. -/
def SettingsCall.stored (cfg : Config) (slot : Nat) (b : TotemDiagBlock) : SettingsCall :=
  ⟨HostEventLog.dlogName slot, blockSize cfg, blockSize cfg, b.encode⟩

theorem SettingsCall.target_stored (h : slot < cfg.journalSlots) :
    (stored cfg slot b).target cfg = .some slot := by
  have hle := cfg.journalSlots_le
  unfold target stored
  rw [slotOfName_dlogName (show slot < 10 by omega)]
  exact if_neg (by simp; omega)

theorem SettingsCall.bytes_stored (h : b.ev.length = cfg.blockEvents) :
    (stored cfg slot b).bytes = b.encode := by
  have hlen := TotemDiagBlock.length_encode h
  unfold bytes stored
  rw [← hlen, List.take_length, Nat.sub_self, List.replicate_zero, List.append_nil]

theorem SettingsCall.block_stored (h : b.ev.length = cfg.blockEvents) :
    (stored cfg slot b).block cfg = b := by
  rw [block, bytes_stored h, TotemDiagBlock.decode_encode h]

theorem SettingsCall.passes_stored (h : BlockOK cfg slot b) : (stored cfg slot b).Passes cfg slot := by
  refine ⟨by simp [stored], ?_, rfl⟩
  have hbody : b.encode.take (crcOffset cfg) = b.body := by
    rw [TotemDiagBlock.encode, ← TotemDiagBlock.length_body h.length_ev, List.take_left' rfl]
  rw [block_stored h.length_ev, bytes_stored h.length_ev, hbody]
  exact blockChecks_iff.mpr ⟨h.magic, h.version, h.slot_eq, h.count_pos, h.count_le, h.crc⟩

theorem settingsCall_stored (j : HostEventLog cfg) (hlt : slot < cfg.journalSlots)
    (hb : BlockOK cfg slot b) : j.settingsCall (.stored cfg slot b) = j.restore slot b := by
  rw [HostEventLog.settingsCall_passes (SettingsCall.target_stored hlt)
    (SettingsCall.passes_stored hb), SettingsCall.block_stored hb.length_ev]

theorem validated_stored {j : HostEventLog cfg} (hj : j.Validated) (hlt : slot < cfg.journalSlots)
    (hb : BlockOK cfg slot b) : (j.settingsCall (.stored cfg slot b)).Validated := by
  refine hj.settingsCall (HostEventLog.atomic_iff.mpr fun hx => ?_)
  obtain ⟨slot', ht, -, hfails, -⟩ := hx
  rw [SettingsCall.target_stored hlt, Option.some.injEq] at ht
  exact hfails (ht ▸ SettingsCall.passes_stored hb)

/-- A block that fails the checks takes the place of the one restored before. -/
theorem stored_overwrites {b' : TotemDiagBlock} {j : HostEventLog cfg} {second : SettingsCall}
    (hlt : slot < cfg.journalSlots) (hb : BlockOK cfg slot b)
    (hlen : b'.ev.length = cfg.blockEvents)
    (hfails : ¬(SettingsCall.stored cfg slot b').Passes cfg slot) (hne : b' ≠ b)
    (hj : j = (HostEventLog.init cfg).settingsCall (.stored cfg slot b))
    (hc : second = .stored cfg slot b') :
    j.Validated ∧ ¬second.Accepted cfg ∧ ¬j.Atomic second ∧
      (j.settingsCall second).restoredValid slot = true ∧
      (j.settingsCall second).restoredBlocks slot = b' := by
  subst hc
  have hsecond : (SettingsCall.stored cfg slot b').target cfg = .some slot :=
    SettingsCall.target_stored hlt
  have hok : j.Validated := hj ▸ validated_stored HostEventLog.Validated.init hlt hb
  rw [settingsCall_stored _ hlt hb] at hj
  have hafter := HostEventLog.settingsCall_fails (j := j) hsecond hfails
  rw [SettingsCall.block_stored hlen] at hafter
  have hvalid : j.restoredValid slot = true := by
    rw [hj, HostEventLog.restoredValid_restore, Function.update_self]
  refine ⟨hok, SettingsCall.not_accepted hsecond hfails, ?_, ?_, ?_⟩
  · rw [HostEventLog.atomic_iff, not_not]
    refine ⟨slot, hsecond, hvalid, hfails, ?_⟩
    rw [SettingsCall.block_stored hlen, hj, HostEventLog.restoredBlocks_restore, Function.update_self]
    exact hne
  · rw [hafter]
    exact hvalid
  · rw [hafter]
    exact Function.update_self ..

end

/-- The journal of the shipped build. -/
def shippedConfig : Config where
  ringCap := 1024
  persistEvery := 64
  blockEvents := 16
  journalSlots := 8
  persistMinIntervalMs := 300000
  crc32Ieee := Crc.crc32Ieee
  ringCap_pos := by decide
  ringCap_lt := by decide
  blockEvents_pos := by decide
  blockEvents_lt := by decide
  journalSlots_pos := by decide
  journalSlots_le := by decide
  persistMin_pos := by decide

/-- A block with its CRC. -/
def sealed (cfg : Config) (b : TotemDiagBlock) : TotemDiagBlock := { b with crc := cfg.crc32Ieee b.body }

theorem crc_sealed (cfg : Config) (b : TotemDiagBlock) :
    (sealed cfg b).crc = cfg.crc32Ieee (sealed cfg b).body := rfl

/-- A record of slot 0 with one event. -/
def savedRecord : TotemDiagBlock :=
  sealed shippedConfig ⟨blockMagic, blockVersion, 0, 1, 1, 1, List.replicate 16 .zero, 0⟩

/-- The same record, but for a count no block has. -/
def damagedRecord : TotemDiagBlock := { savedRecord with count := 255 }

theorem blockOK_savedRecord : BlockOK shippedConfig 0 savedRecord :=
  ⟨rfl, rfl, rfl, by decide, by decide, rfl, crc_sealed shippedConfig _⟩

theorem damagedRecord_fails (slot : Nat) :
    ¬(SettingsCall.stored shippedConfig slot damagedRecord).Passes shippedConfig slot := by
  intro hx
  obtain ⟨-, hchecks, -⟩ := hx
  rw [SettingsCall.block_stored rfl] at hchecks
  have hle : (255 : Nat) ≤ 16 := (blockChecks_iff.mp hchecks).2.2.2.2.1
  omega

/-- With slot 0 restored, the damaged record comes for slot 1, and the record of slot 0
once more, with an error: both are rejected and do no harm. -/
theorem restore_atomic_iff_damaged :
    let j := (HostEventLog.init shippedConfig).settingsCall (.stored shippedConfig 0 savedRecord)
    let other := SettingsCall.stored shippedConfig 1 damagedRecord
    let again := { SettingsCall.stored shippedConfig 0 savedRecord with rc := -5 }
    let after := [other, again].foldl HostEventLog.settingsCall j
    ¬other.Accepted shippedConfig ∧ j.Atomic other ∧ ¬again.Accepted shippedConfig ∧
      (j.settingsCall other).Atomic again ∧ after.Validated ∧ after.restoredValid 0 = true ∧
      ∀ n < (after.restoredBlocks 0).count.toNat, n < 16 := by
  intro j other again after
  have hok : j.Validated :=
    validated_stored HostEventLog.Validated.init (show 0 < 8 by decide) blockOK_savedRecord
  have hj : j = (HostEventLog.init shippedConfig).restore 0 savedRecord :=
    settingsCall_stored _ (show 0 < 8 by decide) blockOK_savedRecord
  have hother : other.target shippedConfig = .some 1 := SettingsCall.target_stored (by decide)
  have hagain : (SettingsCall.stored shippedConfig 0 savedRecord).target shippedConfig = .some 0 :=
    SettingsCall.target_stored (by decide)
  have hnegative : ¬again.Passes shippedConfig 0 := fun hp => hp.1 (by decide)
  have hharmless : ¬other.Overwrites j := by
    rintro ⟨slot, ht, hv, -⟩
    rw [hother, Option.some.injEq] at ht
    subst ht
    rw [hj, HostEventLog.restoredValid_restore] at hv
    cases hv
  have hrejected := SettingsCall.not_accepted hother (damagedRecord_fails 1)
  have hatomic := ((restore_atomic_iff hok).1 other).mpr hharmless
  have hsame := hatomic.1 hrejected
  have hvalid : j.restoredValid 0 = true := by
    rw [hj, HostEventLog.restoredValid_restore, Function.update_self]
  have hharmless' : ¬again.Overwrites (j.settingsCall other) := by
    rintro ⟨slot, ht, -, -, hne⟩
    have hslot : 0 = slot := Option.some.inj (hagain.symm.trans ht)
    subst hslot
    have hblock : (SettingsCall.stored shippedConfig 0 savedRecord).block shippedConfig = savedRecord :=
      SettingsCall.block_stored rfl
    rw [hsame.blocks 0 hvalid, hj, HostEventLog.restoredBlocks_restore, Function.update_self] at hne
    exact hne hblock
  have hatomic' := ((restore_atomic_iff (hok.settingsCall hatomic)).1 again).mpr hharmless'
  have hrejected' : ¬again.Accepted shippedConfig := SettingsCall.not_accepted hagain hnegative
  obtain ⟨hok', hbound⟩ := (restore_atomic_iff hok).2 [other, again]
    ⟨hharmless, hharmless', trivial⟩
  have hvalid' : after.restoredValid 0 = true := by
    rw [show after = (j.settingsCall other).settingsCall again from rfl, (hatomic'.1 hrejected').valid,
      hsame.valid]
    exact hvalid
  exact ⟨hrejected, hatomic, hrejected', hatomic', hok', hvalid', hbound 0 (by decide) hvalid'⟩

/-- **A rejected record overwrites the block before it**: slot 0 is restored,
a second record for it with a count of 255 is read and rejected, and the slot
stays marked valid with that count. -/
theorem restore_overwrites :
    let j := (HostEventLog.init shippedConfig).settingsCall (.stored shippedConfig 0 savedRecord)
    let second := SettingsCall.stored shippedConfig 0 damagedRecord
    j.Validated ∧ ¬second.Accepted shippedConfig ∧ ¬j.Atomic second ∧
      (j.settingsCall second).restoredValid 0 = true ∧
      ((j.settingsCall second).restoredBlocks 0).count = 255 := by
  intro j second
  have hne : damagedRecord ≠ savedRecord := by
    intro he
    have hcount : damagedRecord.count = savedRecord.count := by rw [he]
    exact absurd hcount (by decide)
  obtain ⟨hok, hacc, hatomic, hvalid, hblock⟩ :=
    @stored_overwrites _ _ _ _ j second (by decide) blockOK_savedRecord rfl (damagedRecord_fails 0)
      hne rfl rfl
  exact ⟨hok, hacc, hatomic, hvalid, by rw [hblock]; rfl⟩

end TotemZmk
