/-
What a boot learns of the one before: `zmk_settings_loaded` looks through the
restored blocks for the newest event, the newest that carries the active
profile, and the newest USB event that carries the endpoint.

* `previous_boot_facts`: each is the one with the greatest number, wherever the
  blocks lie, and a second call changes nothing.
-/
import TotemZmk.Journal.Restore
import TotemZmk.Lib.Newest

namespace TotemZmk

open Scan (Newest)

/-- An event with its number. -/
abbrev NumberedEvent := UInt32 × TotemHostEvent

/-- The type carries a profile in `active`, and there is one. -/
def TotemHostEvent.HasProfile (e : TotemHostEvent) : Prop :=
  ((totemHevtDisc ≤ e.type ∧ e.type ≤ totemHevtThrashWin) ∨
    (totemHevtHidSubscribed ≤ e.type ∧ e.type ≤ totemHevtFlashEnd)) ∧ 0 ≤ e.active

/-- The USB event that carries the endpoint in `extra`. -/
def TotemHostEvent.HasEndpoint (e : TotemHostEvent) : Prop :=
  e.type = totemHevtUsb ∧ e.reason = 255

instance (e : TotemHostEvent) : Decidable e.HasProfile := by
  unfold TotemHostEvent.HasProfile
  infer_instance

instance (e : TotemHostEvent) : Decidable e.HasEndpoint := by
  unfold TotemHostEvent.HasEndpoint
  infer_instance

namespace HostEventLog

variable {cfg : Config}

/-- The events of a block, with the numbers `zmk_settings_loaded` gives them. -/
def blockEventList (b : TotemDiagBlock) : List NumberedEvent :=
  (List.range b.count.toNat).map fun n => (b.firstEventSeq + UInt32.ofNat n, b.event n)

/-- The restored events, slot by slot. -/
def restoredEvents (j : HostEventLog cfg) : List NumberedEvent :=
  (List.range cfg.journalSlots).flatMap fun slot =>
    if j.restoredValid slot then blockEventList (j.restoredBlocks slot) else []

/-- The restored blocks' numbers start at 1 or more, and no two blocks share
one. -/
structure Disjoint (j : HostEventLog cfg) : Prop where
  pos : ∀ slot < cfg.journalSlots, ∀ b, j.restored slot = .some b →
    ∀ x ∈ blockEventList b, 0 < x.1.toNat
  apart : ∀ slot < cfg.journalSlots, ∀ slot' < cfg.journalSlots, slot ≠ slot' →
    ∀ b b', j.restored slot = .some b → j.restored slot' = .some b' →
    ∀ x ∈ blockEventList b, ∀ y ∈ blockEventList b', x.1 ≠ y.1

/-- A call of `zmk_settings_loaded` up to its boot records: what it leaves, and
the records `totem_boot_diagnostics_loaded` makes. -/
def settingsLoaded (j : HostEventLog cfg) (bd : BootDiagnostics) :
    HostEventLog cfg × BootDiagnostics × List RecordArgs :=
  (j.zmkSettingsLoaded,
    totemBootDiagnosticsLoaded cfg bd j.previous.uptime j.previous.profile j.previous.endpoint)

/-! ## The scan -/

/-- The number of an event, as a natural number. -/
def num (x : NumberedEvent) : Nat := x.1.toNat

/-- The start of the scan. -/
def noPrevious : Previous := ⟨0, 0, 0, 0, -1, -1⟩

theorem previous_eq (j : HostEventLog cfg) (hr : j.journalReady = false) :
    j.previous = j.restoredEvents.foldl (fun p x => p.inspect x.1 x.2) noPrevious := by
  unfold previous restoredEvents
  rw [List.foldl_flatMap]
  simp only [hr, Bool.false_eq_true, if_false]
  congr 1
  funext p slot
  split
  · rw [blockEventList, List.foldl_map]
  · rfl

theorem inspect_uptime (p : Previous) (x : NumberedEvent) :
    Scan.keep num (fun _ => True) (fun x => x.2.uptimeMs)
      (p.seq.toNat, p.uptime) x =
    ((p.inspect x.1 x.2).seq.toNat, (p.inspect x.1 x.2).uptime) := by
  unfold Scan.keep num Previous.inspect
  simp only [true_and, ← UInt32.lt_iff_toNat_lt]
  split_ifs <;> rfl

theorem inspect_profile (p : Previous) (x : NumberedEvent) :
    Scan.keep num (fun x => x.2.HasProfile) (fun x => x.2.active)
      (p.profileSeq.toNat, p.profile) x =
    ((p.inspect x.1 x.2).profileSeq.toNat, (p.inspect x.1 x.2).profile) := by
  unfold Scan.keep num Previous.inspect TotemHostEvent.HasProfile
  simp only [and_assoc, ← UInt32.lt_iff_toNat_lt]
  split_ifs <;> rfl

theorem inspect_endpoint (p : Previous) (x : NumberedEvent) :
    Scan.keep num (fun x => x.2.HasEndpoint) (fun x => x.2.extra.toInt8)
      (p.endpointSeq.toNat, p.endpoint) x =
    ((p.inspect x.1 x.2).endpointSeq.toNat, (p.inspect x.1 x.2).endpoint) := by
  unfold Scan.keep num Previous.inspect TotemHostEvent.HasEndpoint
  simp only [and_assoc, ← UInt32.lt_iff_toNat_lt]
  split_ifs <;> rfl

section

variable {j j' : HostEventLog cfg}

theorem mem_restoredEvents {x : NumberedEvent} :
    x ∈ j.restoredEvents ↔
      ∃ slot < cfg.journalSlots, ∃ b, j.restored slot = .some b ∧ x ∈ blockEventList b := by
  simp only [restoredEvents, List.mem_flatMap, List.mem_range, restored]
  constructor
  · intro hx
    obtain ⟨slot, hlt, hx⟩ := hx
    split at hx
    · rename_i hv
      exact ⟨slot, hlt, j.restoredBlocks slot, by rw [if_pos hv], hx⟩
    · cases hx
  · intro hx
    obtain ⟨slot, hlt, b, hb, hx⟩ := hx
    split at hb
    · rename_i hv
      cases hb
      exact ⟨slot, hlt, by rwa [if_pos hv]⟩
    · cases hb

theorem blockEventList_inj {b : TotemDiagBlock} {x y : NumberedEvent} (hx : x ∈ blockEventList b)
    (hy : y ∈ blockEventList b) (h : x.1 = y.1) : x = y := by
  simp only [blockEventList, List.mem_map, List.mem_range] at hx hy
  obtain ⟨n, hn, rfl⟩ := hx
  obtain ⟨m, hm, rfl⟩ := hy
  have hb := b.count.toNat_lt
  have heq : UInt32.ofNat n = UInt32.ofNat m := UInt32.add_right_inj b.firstEventSeq |>.mp h
  have hnum := congrArg UInt32.toNat heq
  simp only [UInt32.toNat_ofNat'] at hnum
  rw [show n = m by omega]

theorem Disjoint.num_pos (hd : j.Disjoint) : ∀ x ∈ j.restoredEvents, 0 < num x := by
  intro x hx
  obtain ⟨slot, hlt, b, hb, hx⟩ := mem_restoredEvents.mp hx
  exact hd.pos slot hlt b hb x hx

theorem Disjoint.num_inj (hd : j.Disjoint) :
    ∀ x ∈ j.restoredEvents, ∀ y ∈ j.restoredEvents, num x = num y → x = y := by
  intro x hx y hy he
  obtain ⟨slot, hlt, b, hb, hx⟩ := mem_restoredEvents.mp hx
  obtain ⟨slot', hlt', b', hb', hy⟩ := mem_restoredEvents.mp hy
  have hnum : x.1 = y.1 := UInt32.toNat_inj.mp he
  by_cases hs : slot = slot'
  · subst hs
    rw [hb, Option.some.injEq] at hb'
    exact blockEventList_inj hx (hb' ▸ hy) hnum
  · exact absurd hnum (hd.apart slot hlt slot' hlt' hs b b' hb hb' x hx y hy)

/-- The values `zmk_settings_loaded` passes on: each of the newest restored
event that qualifies. -/
structure Facts (events : List NumberedEvent) (p : Previous) : Prop where
  uptime : Newest num (fun _ => True) (fun x => x.2.uptimeMs) 0 events p.uptime
  profile : Newest num (fun x => x.2.HasProfile) (fun x => x.2.active) (-1) events p.profile
  endpoint : Newest num (fun x => x.2.HasEndpoint) (fun x => x.2.extra.toInt8) (-1) events p.endpoint

theorem facts_previous (hr : j.journalReady = false) (hpos : ∀ x ∈ j.restoredEvents, 0 < num x) :
    Facts j.restoredEvents j.previous := by
  rw [previous_eq j hr]
  refine ⟨?_, ?_, ?_⟩
  · have hscan := Scan.newest_scan (P := fun _ => True) (f := fun x => x.2.uptimeMs)
      (d := (0 : UInt32)) hpos
    have hhom := @List.foldl_hom _ _ _ (fun p : Previous => (p.seq.toNat, p.uptime)) _ _
      j.restoredEvents noPrevious inspect_uptime
    rw [show (0, (0 : UInt32)) = (noPrevious.seq.toNat, noPrevious.uptime) from rfl, hhom] at hscan
    exact hscan
  · have hscan := Scan.newest_scan (P := fun x => x.2.HasProfile) (f := fun x => x.2.active)
      (d := (-1 : Int8)) hpos
    have hhom := @List.foldl_hom _ _ _ (fun p : Previous => (p.profileSeq.toNat, p.profile)) _ _
      j.restoredEvents noPrevious inspect_profile
    rw [show (0, (-1 : Int8)) = (noPrevious.profileSeq.toNat, noPrevious.profile) from rfl, hhom] at hscan
    exact hscan
  · have hscan := Scan.newest_scan (P := fun x => x.2.HasEndpoint) (f := fun x => x.2.extra.toInt8)
      (d := (-1 : Int8)) hpos
    have hhom := @List.foldl_hom _ _ _ (fun p : Previous => (p.endpointSeq.toNat, p.endpoint)) _ _
      j.restoredEvents noPrevious inspect_endpoint
    rw [show (0, (-1 : Int8)) = (noPrevious.endpointSeq.toNat, noPrevious.endpoint) from rfl,
      hhom] at hscan
    exact hscan

/-- The same blocks are restored, in whatever slots. -/
def SameBlocks (j j' : HostEventLog cfg) : Prop :=
  ∀ b, (∃ slot < cfg.journalSlots, j.restored slot = .some b) ↔
    ∃ slot < cfg.journalSlots, j'.restored slot = .some b

theorem SameBlocks.mem (h : SameBlocks j j') (x : NumberedEvent) :
    x ∈ j.restoredEvents ↔ x ∈ j'.restoredEvents := by
  simp only [mem_restoredEvents]
  constructor
  · intro hx
    obtain ⟨slot, hlt, b, hb, hx⟩ := hx
    obtain ⟨slot', hlt', hb'⟩ := (h b).mp ⟨slot, hlt, hb⟩
    exact ⟨slot', hlt', b, hb', hx⟩
  · intro hx
    obtain ⟨slot, hlt, b, hb, hx⟩ := hx
    obtain ⟨slot', hlt', hb'⟩ := (h b).mpr ⟨slot, hlt, hb⟩
    exact ⟨slot', hlt', b, hb', hx⟩

theorem SameBlocks.previous (h : SameBlocks j j') (hr : j.journalReady = false)
    (hr' : j'.journalReady = false) (hd : j.Disjoint) :
    j'.previous.uptime = j.previous.uptime ∧ j'.previous.profile = j.previous.profile ∧
      j'.previous.endpoint = j.previous.endpoint := by
  have hfacts := facts_previous hr hd.num_pos
  have hfacts' := facts_previous hr' fun x hx => hd.num_pos x ((h.mem x).mpr hx)
  have hback := fun x => (h.mem x).symm
  exact ⟨(hfacts'.uptime.congr hback).unique hfacts.uptime hd.num_inj,
    (hfacts'.profile.congr hback).unique hfacts.profile hd.num_inj,
    (hfacts'.endpoint.congr hback).unique hfacts.endpoint hd.num_inj⟩

end

/-! ## Once per boot -/

theorem bootLoaded_loaded (bd : BootDiagnostics) (u : UInt32) (p e : Int8) :
    (totemBootDiagnosticsLoaded cfg bd u p e).1.bootLoaded = true := by
  unfold totemBootDiagnosticsLoaded
  split
  · assumption
  · rfl

/-- The journal is ready, and the boot records are made. -/
def Loaded (j : HostEventLog cfg) (bd : BootDiagnostics) : Prop :=
  j.journalReady = true ∧ bd.bootLoaded = true

theorem loaded_settingsLoaded (j : HostEventLog cfg) (bd : BootDiagnostics) :
    Loaded (j.settingsLoaded bd).1 (j.settingsLoaded bd).2.1 := by
  refine ⟨?_, bootLoaded_loaded bd _ _ _⟩
  unfold settingsLoaded zmkSettingsLoaded
  dsimp only
  split
  · assumption
  · rfl

/-- A call after the first changes nothing and makes no record. -/
theorem Loaded.again {j : HostEventLog cfg} {bd : BootDiagnostics} (h : Loaded j bd) :
    j.settingsLoaded bd = (j, bd, []) := by
  unfold settingsLoaded zmkSettingsLoaded totemBootDiagnosticsLoaded
  rw [if_pos h.1, if_pos h.2]

end HostEventLog

open HostEventLog (Loaded)

theorem Step.loaded {cfg : Config} {s s' : Sys cfg} {obs : List Obs} (hs : Step s obs s')
    (hb : .boot ∉ obs) (h : Loaded s.j s.boot) : Loaded s'.j s'.boot := by
  cases hs with
  | tick t ht => exact h
  | record r => exact ⟨(s.j.same_recordEvent s.now _ true).journalReady.trans h.1, h.2⟩
  | recordTiming e => exact ⟨(s.j.same_recordEvent s.now e false).journalReady.trans h.1, h.2⟩
  | settingsSet slot bytes hr | load hr =>
    rw [h.1] at hr
    cases hr
  | bootRecord hl => exact ⟨(s.j.same_recordEvent s.now _ true).journalReady.trans h.1, h.2⟩
  | @loadReturn p hl => cases p <;> exact h
  | workRun hq hr => exact h
  | persistSkip byHandler hi hh hf =>
    have hready := (HostEventLog.same_persistForm_none hf).journalReady.trans h.1
    cases byHandler <;> exact ⟨hready, h.2⟩
  | persistForm byHandler hi hh hf =>
    obtain ⟨hready, -, -, rfl, -⟩ := HostEventLog.persistForm_some hf
    exact ⟨hready, h.2⟩
  | @persistEnd call byHandler counterErr err hi =>
    have hboot : (totemBootDiagnosticsPersist s.boot counterErr).bootLoaded = true := by
      unfold totemBootDiagnosticsPersist
      split <;> exact h.2
    refine ⟨?_, hboot⟩
    have hready : (s.j.persistFinish s.now call err).journalReady = true := by
      by_cases he : err = 0
      · subst he
        exact (s.j.same_persistFinish_ok s.now call).journalReady.trans h.1
      · exact (s.j.same_persistFinish_err s.now call he).journalReady.trans h.1
    cases byHandler <;> exact hready
  | reboot bd hbd hf => exact absurd (List.mem_singleton.mpr rfl) hb

theorem Steps.loaded {cfg : Config} {s s' : Sys cfg} {tr : List Obs} (hs : Steps s tr s')
    (hb : .boot ∉ tr) (h : Loaded s.j s.boot) : Loaded s'.j s'.boot := by
  induction hs with
  | refl => exact h
  | step _ hstep ih =>
    simp only [List.mem_append, not_or] at hb
    exact hstep.loaded hb.1 (ih hb.2)

/-- **What a boot learns of the one before** comes from the newest saved
events: the uptime from the newest, the profile from the newest that carries
one, the endpoint from the newest USB event that does. It does not depend on
the slots the blocks lie in. The first call passes it on, and later in the
same boot a second call changes nothing and makes no record. -/
theorem previous_boot_facts {cfg : Config} {j : HostEventLog cfg} (hr : j.journalReady = false)
    (hd : j.Disjoint) :
    HostEventLog.Facts j.restoredEvents j.previous ∧
    (∀ j' : HostEventLog cfg, j'.journalReady = false → HostEventLog.SameBlocks j j' →
      j'.previous.uptime = j.previous.uptime ∧ j'.previous.profile = j.previous.profile ∧
        j'.previous.endpoint = j.previous.endpoint) ∧
    ∀ bd : BootDiagnostics, bd.bootLoaded = false →
      (j.settingsLoaded bd).2.1.savedPreviousUptime = j.previous.uptime ∧
      (j.settingsLoaded bd).2.1.savedPreviousProfile = j.previous.profile ∧
      (j.settingsLoaded bd).2.1.savedPreviousEndpoint = j.previous.endpoint ∧
      ∀ s tr s', s.j = (j.settingsLoaded bd).1 → s.boot = (j.settingsLoaded bd).2.1 →
        Steps s tr s' → .boot ∉ tr → s'.j.settingsLoaded s'.boot = (s'.j, s'.boot, []) := by
  refine ⟨HostEventLog.facts_previous hr hd.num_pos, fun j' hr' h => h.previous hr hr' hd, ?_⟩
  intro bd hbd
  have hfirst : (j.settingsLoaded bd).2.1 = { bd with
      bootLoaded := true
      savedPreviousUptime := j.previous.uptime
      savedPreviousProfile := j.previous.profile
      savedPreviousEndpoint := j.previous.endpoint
      count := bd.count + 1
      crc := counterCrc cfg (bd.count + 1)
      counterPending := true } := by
    unfold HostEventLog.settingsLoaded totemBootDiagnosticsLoaded
    simp [hbd]
  refine ⟨by rw [hfirst], by rw [hfirst], by rw [hfirst], ?_⟩
  intro s tr s' hj hboot hs hb
  have hloaded := HostEventLog.loaded_settingsLoaded j bd
  rw [← hj, ← hboot] at hloaded
  exact (hs.loaded hb hloaded).again

/-- Two events of the boot before; the clock of the second one is behind. -/
def newerBlock : TotemDiagBlock :=
  sealed shippedConfig ⟨blockMagic, blockVersion, 1, 2, 2, 3,
    [⟨900, 1, 0, 2, 0x13, 0, 0⟩, ⟨100, 37, 0, 0, 0, 0, 0⟩] ++ List.replicate 14 .zero, 0⟩

/-- The two before them, with the endpoint. -/
def olderBlock : TotemDiagBlock :=
  sealed shippedConfig ⟨blockMagic, blockVersion, 6, 2, 1, 1,
    [⟨500, 16, -1, 0, 255, 0, 1⟩, ⟨700, 10, -1, 1, 0, 0, 0⟩] ++ List.replicate 14 .zero, 0⟩

/-- The slots are in the opposite order. -/
def lateJournal : HostEventLog shippedConfig :=
  ((HostEventLog.init shippedConfig).restore 1 newerBlock).restore 6 olderBlock

theorem restored_lateJournal {slot : Nat} {b : TotemDiagBlock}
    (h : lateJournal.restored slot = .some b) :
    slot = 1 ∧ b = newerBlock ∨ slot = 6 ∧ b = olderBlock := by
  unfold HostEventLog.restored lateJournal at h
  simp only [HostEventLog.restoredValid_restore, HostEventLog.restoredBlocks_restore,
    Function.update_apply] at h
  by_cases h6 : slot = 6
  · simp [h6] at h
    exact .inr ⟨h6, h.symm⟩
  · by_cases h1 : slot = 1
    · simp [h1] at h
      exact .inl ⟨h1, h.symm⟩
    · simp [h6, h1, HostEventLog.init] at h

theorem apart_lateJournal : ∀ x ∈ HostEventLog.blockEventList newerBlock,
    ∀ y ∈ HostEventLog.blockEventList olderBlock, x.1 ≠ y.1 := by
  decide

theorem disjoint_lateJournal : lateJournal.Disjoint where
  pos := by
    intro slot hlt b hb
    rcases restored_lateJournal hb with ⟨-, rfl⟩ | ⟨-, rfl⟩
    · decide
    · decide
  apart := by
    intro slot hlt slot' hlt' hne b b' hb hb' x hx y hy
    rcases restored_lateJournal hb with ⟨rfl, rfl⟩ | ⟨rfl, rfl⟩ <;>
      rcases restored_lateJournal hb' with ⟨rfl, rfl⟩ | ⟨rfl, rfl⟩
    · exact absurd rfl hne
    · exact apart_lateJournal x hx y hy
    · exact (apart_lateJournal y hy x hx).symm
    · exact absurd rfl hne

/-- The uptime is that of the newest event, which is neither the greatest nor in the last
slot; the profile and the endpoint are those of events before it. -/
theorem previous_boot_facts_lateJournal :
    let loaded := lateJournal.settingsLoaded ⟨7, 0, 0, 0, 0, 0, false, false, 0, 0, 0, 0, 0⟩
    lateJournal.previous.uptime = 100 ∧ loaded.2.1.savedPreviousUptime = 100 ∧
      loaded.2.1.savedPreviousProfile = 2 ∧ loaded.2.1.savedPreviousEndpoint = 1 := by
  intro loaded
  obtain ⟨hfacts, -, hsaved⟩ := previous_boot_facts rfl disjoint_lateJournal
  obtain ⟨huptime, hprofile, hendpoint, -⟩ := hsaved
    ⟨7, 0, 0, 0, 0, 0, false, false, 0, 0, 0, 0, 0⟩ rfl
  have hnewest : Newest HostEventLog.num (fun _ => True) (fun x => x.2.uptimeMs) 0
      lateJournal.restoredEvents 100 :=
    .found (show (4, ⟨100, 37, 0, 0, 0, 0, 0⟩) ∈ lateJournal.restoredEvents by decide) trivial
      (by decide)
  have hactive : Newest HostEventLog.num (fun x => x.2.HasProfile) (fun x => x.2.active) (-1)
      lateJournal.restoredEvents 2 :=
    .found (show (3, ⟨900, 1, 0, 2, 0x13, 0, 0⟩) ∈ lateJournal.restoredEvents by decide)
      (by decide) (by decide)
  have husb : Newest HostEventLog.num (fun x => x.2.HasEndpoint) (fun x => x.2.extra.toInt8) (-1)
      lateJournal.restoredEvents 1 :=
    .found (show (1, ⟨500, 16, -1, 0, 255, 0, 1⟩) ∈ lateJournal.restoredEvents by decide)
      (by decide) (by decide)
  have heq := hfacts.uptime.unique hnewest disjoint_lateJournal.num_inj
  exact ⟨heq, huptime.trans heq,
    hprofile.trans (hfacts.profile.unique hactive disjoint_lateJournal.num_inj),
    hendpoint.trans (hfacts.endpoint.unique husb disjoint_lateJournal.num_inj)⟩

end TotemZmk
