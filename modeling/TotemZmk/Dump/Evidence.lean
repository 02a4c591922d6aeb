/-
How long evidence lasts. A block once saved is in every dump after it, through
failed saves, torn ones and any number of boots, until as many saves have gone
round the slots; and if the tool on the computer says a dump is complete, it has
printed the block's events.

* `View.Step.retained`, `View.Reach.retained`: a stored block grows older by one
  save, or one reboot that may hide a save, at a time.
* `evidence_lasts`: the theorem, from the save to the printed line.
-/
import TotemZmk.Dump.EventNumbers
import TotemZmk.Dump.Reader

namespace TotemZmk

open Text

variable {cfg : Config} {obs tr : List Obs}

/-- A block may have taken a slot: a save that succeeded, or a reboot, during
which one may have been written or torn. -/
def mayReplace : Obs → Bool
  | .saved _ ok _ => ok
  | .boot => true
  | .recorded _ _ _ | .ready _ | .loaded _ | .formed _ _ => false

/-- How many blocks may have taken a slot. -/
def replacements (tr : List Obs) : Nat := tr.countP mayReplace

@[simp] theorem replacements_nil : replacements [] = 0 := rfl

@[simp] theorem replacements_append (obs tr : List Obs) :
    replacements (obs ++ tr) = replacements obs + replacements tr := List.countP_append

/-- A block is stored, and so many may have followed it. -/
def Retained (cfg : Config) (stored : Nat → Option TotemDiagBlock) (b : TotemDiagBlock) (age : Nat) :
    Prop :=
  ∃ next, Kept cfg stored next ∧ Rotation.Within stored cfg.journalSlots next age b

/-- The slot written next is determined by the stored blocks. -/
theorem Kept.unique {stored : Nat → Option TotemDiagBlock} {next next' : Nat}
    (h : Kept cfg stored next) (h' : Kept cfg stored next') : next = next' := by
  obtain ⟨tl, seq, htip⟩ := h.tip
  obtain ⟨tl', seq', htip'⟩ := h'.tip
  exact (htip.unique htip').1

namespace Retained

variable {v : View cfg} {b : TotemDiagBlock} {age : Nat} {call : PersistCall}

theorem written (hc : Consistent cfg tr v) (hr : v.ready = true) (hi : v.inflight = .some call) :
    Retained cfg (Function.update v.stored call.slot (readBlock cfg call.slot call.block.encode))
      call.block 0 := by
  have hw := hc.inflight call hi
  have hk := hc.kept_nextSlot hr
  rw [hw.valid, hw.slot]
  exact ⟨_, hk.write hw.sound hw.after, .written _ hk.ordered.next_lt _⟩

theorem write (h : Retained cfg v.stored b age) (hc : Consistent cfg tr v) (hr : v.ready = true)
    (hi : v.inflight = .some call) (hage : age + 1 < cfg.journalSlots) :
    Retained cfg (Function.update v.stored call.slot (readBlock cfg call.slot call.block.encode)) b
      (age + 1) := by
  obtain ⟨next, hk, hwithin⟩ := h
  have hw := hc.inflight call hi
  have hnext : next = v.nextSlot := hk.unique (hc.kept_nextSlot hr)
  subst hnext
  rw [hw.valid, hw.slot]
  exact ⟨_, hk.write hw.sound hw.after, hwithin.write hk.ordered.next_lt hage⟩

theorem erase (h : Retained cfg v.stored b age) (hc : Consistent cfg tr v) (hr : v.ready = true)
    (hi : v.inflight = .some call) (hage : age + 1 < cfg.journalSlots) :
    Retained cfg (Function.update v.stored call.slot .none) b (age + 1) := by
  obtain ⟨next, hk, hwithin⟩ := h
  have hnext : next = v.nextSlot := hk.unique (hc.kept_nextSlot hr)
  subst hnext
  rw [(hc.inflight call hi).slot]
  exact ⟨_, hk.erase, hwithin.erase hk.ordered.next_lt hage⟩

theorem mono {age' : Nat} {stored : Nat → Option TotemDiagBlock} (h : Retained cfg stored b age)
    (hage : age ≤ age') : Retained cfg stored b age' := by
  obtain ⟨next, hk, hwithin⟩ := h
  exact ⟨next, hk, hwithin.mono hage⟩

end Retained

namespace View

variable {v v' : View cfg} {b : TotemDiagBlock} {age : Nat}

theorem Step.shows (hs : Step v obs v') : obs = [] ∨ ∃ o, obs = [o] := by
  cases hs with
  | quiet => exact .inl rfl
  | reject slot hr hn hd => exact .inl rfl
  | restore slot b hr hb hd => exact .inl rfl
  | _ => exact .inr ⟨_, rfl⟩

/-- **A stored block stays**, a little older, while it is young enough. -/
theorem Step.retained (hs : Step v obs v') (hc : Consistent cfg tr v) (hin : v.InRange)
    (h : Retained cfg v.stored b age) (hage : age + replacements obs < cfg.journalSlots) :
    Retained cfg v'.stored b (age + replacements obs) := by
  cases hs with
  | save call t hi => exact h.write hc (hin.inflight call hi).2 hi hage
  | reboot hl =>
    cases hl with
    | old => exact h.mono (Nat.le_add_right _ _)
    | new hi => exact h.write hc (hin.inflight _ hi).2 hi hage
    | torn hi => exact h.erase hc (hin.inflight _ hi).2 hi hage
  | _ => exact h

/-- **A block once saved stays** until as many as there are slots may have
followed it. -/
theorem Reach.retained {stored : Nat → Option TotemDiagBlock} (h : Reach cfg stored tr v)
    (hempty : ∀ slot, stored slot = .none) (hw : NoWrap cfg tr) {later earlier : List Obs} {t : Int}
    (htr : tr = later ++ .saved b true t :: earlier) (hfew : replacements later < cfg.journalSlots) :
    Retained cfg v.stored b (replacements later) := by
  induction h generalizing later with
  | boot =>
    have hmem : Obs.saved b true t ∈ [Obs.boot] := by rw [htr]; simp
    simp at hmem
  | @step tr v obs v' hreach hs ih =>
    have hc := hreach.consistent hempty hw.of_append
    have hin := hreach.inRange
    rcases hs.shows with rfl | ⟨o, rfl⟩
    · have hold := ih hw.of_append htr hfew
      exact hs.retained hc hin hold hfew
    · cases later with
      | nil =>
        -- the save itself
        cases htr
        cases hs with
        | save call t hi => exact .written hc (hin.inflight call hi).2 hi
      | cons o' later =>
        cases htr
        have hcount : replacements (o :: later) = replacements later + replacements [o] := by
          rw [← List.singleton_append, replacements_append, Nat.add_comm]
        rw [hcount] at hfew ⊢
        exact hs.retained hc hin (ih hw.of_append rfl (by omega)) hfew

end View

/-! ## From the save to the printed line -/

/-- The block a dump takes its lines from is among those stored. -/
theorem restored_of_retained {s : Sys cfg} {b : TotemDiagBlock} {age : Nat}
    (hc : Consistent cfg tr s.view) (hready : s.j.journalReady = true)
    (h : Retained cfg s.view.stored b age) :
    ∃ slot, slot < cfg.journalSlots ∧ s.j.restored slot = .some b := by
  obtain ⟨next, hk, off, hoff, -, hb⟩ := h
  obtain ⟨hrest, -⟩ := hc.running hready
  have hrest : s.j.restored = s.view.stored := hrest
  exact ⟨_, Rotation.slotAt_lt hk.ordered.next_lt off, by rw [hrest]; exact hb⟩

theorem Snapshot.mem_details (snap : Snapshot) (hstart : snap.startSlot < snap.journalSlots)
    {slot : Nat} (hslot : slot < snap.journalSlots) {d : List Char} (hd : d ∈ snap.slotDetails slot) :
    d ∈ snap.details := by
  obtain ⟨off, hoff, rfl⟩ := Rotation.exists_offset hstart hslot
  unfold Snapshot.details
  exact List.mem_append_left _ (List.mem_flatMap.mpr ⟨off, List.mem_range.mpr hoff, hd⟩)

theorem mem_dataLines (id ordinal : UInt32) {d : List Char} {ds : List (List Char)} (hd : d ∈ ds) :
    ∃ n, dataLine id n d ∈ dataLines id ordinal ds := by
  induction ds generalizing ordinal with
  | nil => cases hd
  | cons d' ds ih =>
    rw [dataLines]
    obtain rfl | hd := List.mem_cons.mp hd
    · exact ⟨ordinal, List.mem_cons_self⟩
    · obtain ⟨n, hn⟩ := ih (ordinal + 1) hd
      exact ⟨n, List.mem_cons_of_mem _ hn⟩

/-- The lines of a block and of its events. -/
def blockLines (slot : Nat) (b : TotemDiagBlock) : List (List Char) :=
  blockDetail slot b :: (List.range b.count.toNat).map fun i =>
    eventDetail (b.event i) 'p' slot (b.firstEventSeq + UInt32.ofNat i)

/-- **Evidence lasts.** In every run over any number of boots, from flash without
a valid block and as long as no counter wraps: a block that was saved, with fewer
than `JOURNAL_SLOTS` saves and reboots since, is one of the blocks of the journal
once the settings are loaded. Dump it then, and let the tool read what arrives:
if it says that the dump is complete, it has printed the block and each of its
events, with their numbers. -/
theorem evidence_lasts {flash : Flash} {s : Sys cfg} {later earlier : List Obs}
    {b : TotemDiagBlock} {t : Int} (hempty : ∀ slot, flash.stored cfg slot = .none)
    (h : Reach cfg flash (later ++ .saved b true t :: earlier) s)
    (hw : NoWrap cfg (later ++ .saved b true t :: earlier)) (hready : s.j.journalReady = true)
    (hfew : replacements later < cfg.journalSlots) :
    ∃ slot, slot < cfg.journalSlots ∧ s.j.restored slot = .some b ∧
      ∀ (dg : Digits) (id : UInt32) (answer : Nat → Int) (bd : BootDiagnostics)
        (fault : TotemFaultRecord) (cut : List UInt8) (before ps chunks : List (List UInt8)),
        chunks.flatten = cut ++ (before ++ ps).flatMap frame → sof ∉ cut →
        (∀ p ∈ before ++ ps, p.length ≤ 512) →
        (∀ p ∈ before, ∀ line, lineOf p = .some line → matchBegin dg line = .none) →
        (ps.filter (carriesDump dg)).Sublist
          ((totemHostEventLogDump answer id bd fault s.j.snapshot).1.sent.map linePayload) →
        (readDiagDump dg chunks).code = .some 0 →
        ∀ d ∈ blockLines slot b, ∃ n, dataLine id n d ∈ (readDiagDump dg chunks).stdout := by
  have hview := h.view
  have hretained := hview.retained hempty hw rfl hfew
  obtain ⟨slot, hslot, hb⟩ := restored_of_retained (hview.consistent hempty hw) hready hretained
  refine ⟨slot, hslot, hb, ?_⟩
  intro dg id answer bd fault cut before ps chunks hchunks hcut hlong hbefore hps hcode d hd
  obtain ⟨hprinted, -⟩ := printed_of_code hchunks hcut hlong hbefore hps hcode
  have hslots : d ∈ s.j.snapshot.slotDetails slot := by
    have hblock : s.j.snapshot.blocks slot = .some b := hb
    rw [Snapshot.slotDetails, hblock]
    exact hd
  have hstart : s.j.snapshot.startSlot < s.j.snapshot.journalSlots := hview.inRange.next
  obtain ⟨n, hn⟩ := mem_dataLines id 0 (s.j.snapshot.mem_details hstart hslot hslots)
  refine ⟨n, ?_⟩
  have hscript : dataLine id n d ∈ s.j.snapshot.script id :=
    List.mem_cons_of_mem _ (List.mem_append_left _ hn)
  rw [← hprinted] at hscript
  exact (List.mem_filter.mp hscript).1

/-- The first block of a first boot is dumped and read. -/
theorem evidence_lasts_saved :
    let s := (loadedSys smallConfig).persistNow 0
    let sent := (totemHostEventLogDump (fun _ => 0) 7 bareBoot ⟨0, 0, 0, 0, 0, 0⟩ s.j.snapshot).1.sent
    ∃ slot n, dataLine 7 n (blockDetail slot (loadedSys smallConfig).j.persistBlock) ∈
      (readDiagDump asciiDigits [(sent.map linePayload).flatMap frame]).stdout := by
  intro s sent
  have hreach := (reach_loadedSys smallConfig).persistNow rfl rfl (by decide) (by decide) 0
  have hempty (slot : Nat) : emptyFlash.stored smallConfig slot = .none := by
    simp [Flash.stored, Flash.block, emptyFlash]
  obtain ⟨slot, -, -, hread⟩ := @evidence_lasts smallConfig emptyFlash s [] _ _ _ hempty hreach
    ⟨by decide, by decide, trivial⟩ rfl smallConfig.journalSlots_pos
  have hsends := sends_dump (fun _ => 0) 7 bareBoot ⟨0, 0, 0, 0, 0, 0⟩ s.j.snapshot
  have hsent : sent = preamble bareBoot ⟨0, 0, 0, 0, 0, 0⟩ ++ s.j.snapshot.script 7 :=
    (hsends.all (hsends.ok fun _ => rfl)).1.trans (List.nil_append _)
  have hchunks : [(sent.map linePayload).flatMap frame].flatten =
      [] ++ ([] ++ sent.map linePayload).flatMap frame := by simp
  have hlong : ∀ p ∈ [] ++ sent.map linePayload, p.length ≤ 512 := by
    intro p hp
    obtain ⟨line, hline, rfl⟩ := List.mem_map.mp hp
    have hlen := length_lines _ _ _ _ line (hsent ▸ hline)
    simp [linePayload, Utf8.encodeAscii]
    omega
  have hps : ((sent.map linePayload).filter (carriesDump asciiDigits)).Sublist
      (sent.map linePayload) := List.filter_sublist
  have hcode : (readDiagDump asciiDigits [(sent.map linePayload).flatMap frame]).code = .some 0 := by
    rw [code_iff_script hchunks List.not_mem_nil hlong (by simp) hps, script_arrived_iff hps]
    intro line hline
    refine List.mem_map_of_mem ?_
    rw [hsent]
    exact List.mem_append_right _ hline
  have hblock := hread asciiDigits 7 (fun _ => 0) bareBoot ⟨0, 0, 0, 0, 0, 0⟩ [] []
    (sent.map linePayload) _ hchunks List.not_mem_nil hlong (by simp) hps hcode _ List.mem_cons_self
  exact ⟨slot, hblock⟩

end TotemZmk
