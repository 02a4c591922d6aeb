/-
The event numbers of a dump: a number names one event, whether its line comes
from RAM or from a block, and the blocks' lines come in the order of their
numbers.

RAM numbers are counted back from `ring_seq`, the others from the block's
header, which an earlier boot may have written. What ties them together is
where a restored block comes from (`Origin`): this boot wrote it, or it lies
at or below the tail this boot's numbers follow.

* `details_events`: the event lines of a dump.
* `View.Reach.origin`: the invariant along every run.
* `dump_numbers_identify`: the theorem about the keyboard.
-/
import TotemZmk.Journal.Reboot
import TotemZmk.Dump.Firmware

namespace TotemZmk

variable {cfg : Config} {tr : List Obs}

/-! ## The event lines -/

/-- What an event line of a dump says: `s`, `q` and the event. -/
structure DumpedEvent where
  slot : Nat
  seq : UInt32
  event : TotemHostEvent

def DumpedEvent.detail (source : Char) (e : DumpedEvent) : List Char :=
  eventDetail e.event source e.slot e.seq

/-- A block's line starts with `b`, an event's with `e`. -/
def isEventDetail (d : List Char) : Bool := d.head? = .some 'e'

namespace Snapshot

variable (snap : Snapshot)

/-- The events of a slot's block. -/
def slotEvents (slot : Nat) : List DumpedEvent :=
  match snap.blocks slot with
  | .none => []
  | .some b => (List.range b.count.toNat).map fun i =>
    ⟨slot, b.firstEventSeq + UInt32.ofNat i, b.event i⟩

/-- The persistent lines, in the order printed. -/
def persistentEvents : List DumpedEvent :=
  (List.range snap.journalSlots).flatMap fun off =>
    snap.slotEvents (Rotation.slotAt snap.journalSlots snap.startSlot off)

/-- The RAM lines, in the order printed. -/
def ramEvents : List DumpedEvent :=
  (List.range snap.ram.length).map fun i => ⟨0, snap.ramSeq i, snap.ram.getD i .zero⟩

theorem isEventDetail_blockDetail (slot : Nat) (b : TotemDiagBlock) :
    isEventDetail (blockDetail slot b) = false := by
  unfold isEventDetail blockDetail
  simp

theorem isEventDetail_eventDetail (e : TotemHostEvent) (source : Char) (slot : Nat) (seq : UInt32) :
    isEventDetail (eventDetail e source slot seq) = true := by
  unfold isEventDetail eventDetail
  simp

theorem slotDetails_events (slot : Nat) : (snap.slotDetails slot).filter isEventDetail =
    (snap.slotEvents slot).map fun e => e.detail 'p' := by
  unfold slotDetails slotEvents
  cases snap.blocks slot with
  | none => rfl
  | some b =>
    dsimp only
    rw [List.filter_cons_of_neg (by rw [isEventDetail_blockDetail]; decide), List.map_map,
      List.filter_eq_self.mpr]
    · simp only [Function.comp_def, DumpedEvent.detail]
    · intro d hd
      obtain ⟨i, -, rfl⟩ := List.mem_map.mp hd
      exact isEventDetail_eventDetail ..

/-- The event lines of a dump are those of the blocks, then those of RAM. -/
theorem details_events : snap.details.filter isEventDetail =
    (snap.persistentEvents.map fun e => e.detail 'p') ++ snap.ramEvents.map fun e => e.detail 'r' := by
  have hram : ∀ d ∈ snap.ramEvents.map fun e => e.detail 'r', isEventDetail d = true := by
    intro d hd
    obtain ⟨e, -, rfl⟩ := List.mem_map.mp hd
    exact isEventDetail_eventDetail ..
  have hdetails : snap.details = ((List.range snap.journalSlots).flatMap fun off =>
      snap.slotDetails (Rotation.slotAt snap.journalSlots snap.startSlot off)) ++
        snap.ramEvents.map fun e => e.detail 'r' := by
    simp only [details, ramEvents, List.map_map, Function.comp_def, DumpedEvent.detail]
  rw [hdetails, List.filter_append, List.filter_eq_self.mpr hram, List.filter_flatMap,
    persistentEvents, List.map_flatMap]
  simp only [slotDetails_events]

end Snapshot

/-! ## Where restored blocks come from -/

/-- A restored block was written in this boot, or its numbers are not above
the tail this boot's numbers follow. -/
def Origin (cfg : Config) (tr : List Obs) (v : View cfg) : Prop :=
  v.ready = true → ∀ k b, v.restored k = .some b →
    (∃ w ∈ written cfg tr, w.block = b) ∨ b.last ≤ tail tr

theorem Origin.step {v v' : View cfg} {obs : List Obs} (h : Origin cfg tr v)
    (hc : Consistent cfg tr v) (hs : View.Step v obs v') : Origin cfg (obs ++ tr) v' := by
  cases hs with
  | quiet => exact h
  | loaded t => exact h
  | record e p t => exact h
  | reject slot hr hn hd =>
    intro hr'
    exact absurd (hr.symm.trans hr') (by decide)
  | restore slot b hr hb hd =>
    intro hr'
    exact absurd (hr.symm.trans hr') (by decide)
  | load hr hd =>
    intro _ k b hb
    obtain ⟨hrest, htip⟩ := hc.loading hr
    have hsound : ∀ k b, v.restored k = .some b → Sound b := by
      intro k b hb
      rw [hrest] at hb
      split at hb
      · exact hc.sound k b hb
      · cases hb
    exact .inr (htip.le hsound hb).2
  | form call t hr hi hslot hseq hok hf => exact h
  | fail call t hi => exact h
  | save call t hi =>
    intro hr k b hb
    by_cases hk : k = call.slot
    · subst hk
      simp only [Function.update_self, Option.some.injEq] at hb
      exact .inl ⟨_, List.mem_cons_self, hb⟩
    · simp only [Function.update_of_ne hk] at hb
      rcases h hr k b hb with ⟨w, hw, rfl⟩ | hle
      · exact .inl ⟨w, List.mem_cons_of_mem _ hw, rfl⟩
      · exact .inr hle
  | reboot hl =>
    intro hr
    cases hr

/-- **Restored blocks are of this boot or from before its tail**, along every
run from flash without a valid block. -/
theorem View.Reach.origin {stored : Nat → Option TotemDiagBlock} {v : View cfg}
    (h : View.Reach cfg stored tr v) (hempty : ∀ slot, stored slot = .none) (hw : NoWrap cfg tr) :
    Origin cfg tr v := by
  induction h with
  | boot =>
    intro hr
    cases hr
  | step hreach hs ih =>
    exact (ih hw.of_append).step (hreach.consistent hempty hw.of_append) hs

/-! ## The events of this boot -/

/-- The events recorded in this boot, oldest first. -/
def bootEvents : List Obs → List TotemHostEvent
  | [] => []
  | .boot :: _ => []
  | .recorded e _ _ :: tr => bootEvents tr ++ [e]
  | .ready _ :: tr => bootEvents tr
  | .loaded _ :: tr => bootEvents tr
  | .formed _ _ :: tr => bootEvents tr
  | .saved _ _ _ :: tr => bootEvents tr

theorem rtake_recorded (tr : List Obs) :
    ((recorded cfg tr).map Recorded.event).rtake cfg.ringCap = (bootEvents tr).rtake cfg.ringCap := by
  induction tr with
  | nil => rfl
  | cons o tr ih =>
    cases o with
    | boot => rfl
    | ready n =>
      rw [recorded, bootEvents, Circular.map_rtake, ih]
      exact Circular.rtake_of_length_le (by rw [Circular.length_rtake]; omega)
    | recorded e p t =>
      rw [recorded, bootEvents, List.map_append, List.map_singleton, ← Circular.rtake_append_rtake,
        ih, Circular.rtake_append_rtake]
    | loaded t => exact ih
    | formed b t => exact ih
    | saved b ok t => exact ih

/-! ## The theorem -/

/-- The lines of a dump identify events by their numbers. -/
structure DumpIdentifies (cfg : Config) (tr : List Obs) (snap : Snapshot) : Prop where
  /-- The RAM lines are the last events recorded in this boot. -/
  ram : snap.ramEvents.map DumpedEvent.event = (bootEvents tr).rtake cfg.ringCap
  /-- Each has its number: the last one that of the last event. -/
  ramNumber : ∀ i, ∀ h : i < snap.ramEvents.length,
    (snap.ramEvents[i]).seq.toNat + snap.ramEvents.length = total cfg tr + i + 1
  increasing : snap.persistentEvents.Pairwise fun a b => a.seq < b.seq
  /-- A number names one event. -/
  same : ∀ p ∈ snap.persistentEvents, ∀ r ∈ snap.ramEvents, p.seq = r.seq → p.event = r.event

namespace Snapshot

variable (snap : Snapshot)

theorem map_event_ramEvents : snap.ramEvents.map DumpedEvent.event = snap.ram := by
  refine List.ext_getElem (by simp [ramEvents]) ?_
  intro i h₁ h₂
  simp [ramEvents, List.getD_eq_getElem?_getD, h₂]

theorem ramSeq_toNat {i n : Nat} (hseq : snap.seq.toNat = n) (hi : i < snap.ram.length)
    (hle : snap.ram.length ≤ n) (hlt : n + 1 < 2 ^ 32) :
    (snap.ramSeq i).toNat + snap.ram.length = n + i + 1 := by
  have hone : (1 : UInt32).toNat = 1 := rfl
  simp only [ramSeq, UInt32.toNat_add, UInt32.toNat_sub, UInt32.toNat_ofNat', hseq, hone]
  omega

theorem slotEvents_toNat {slot : Nat} {b : TotemDiagBlock} (hb : snap.blocks slot = .some b)
    (hs : Sound b) {e : DumpedEvent} (he : e ∈ snap.slotEvents slot) :
    ∃ i < b.count.toNat, e.seq.toNat = b.first + i ∧ e.event = b.event i := by
  rw [slotEvents, hb] at he
  obtain ⟨i, hi, rfl⟩ := List.mem_map.mp he
  have hi := List.mem_range.mp hi
  refine ⟨i, hi, ?_, rfl⟩
  have hlast := b.lastEventSeq.toNat_lt
  have hcount := b.count.toNat_lt
  rw [hs.lastEventSeq] at hlast
  simp only [TotemDiagBlock.last, TotemDiagBlock.first, UInt32.toNat_add,
    UInt32.toNat_ofNat'] at hlast ⊢
  omega

theorem slotEvents_none {slot : Nat} (hb : snap.blocks slot = .none) : snap.slotEvents slot = [] := by
  rw [slotEvents, hb]

theorem slotEvents_increasing {slot : Nat} (hs : ∀ b, snap.blocks slot = .some b → Sound b) :
    (snap.slotEvents slot).Pairwise fun a b => a.seq < b.seq := by
  cases hb : snap.blocks slot with
  | none =>
    rw [slotEvents_none _ hb]
    exact .nil
  | some b =>
    have hsound := hs b hb
    have hlast := b.lastEventSeq.toNat_lt
    have hcount := b.count.toNat_lt
    rw [hsound.lastEventSeq, TotemDiagBlock.last, TotemDiagBlock.first] at hlast
    simp only [slotEvents, hb, List.pairwise_map]
    refine List.pairwise_lt_range.imp_of_mem ?_
    intro i j hi hj hij
    have hj := List.mem_range.mp hj
    simp only [UInt32.lt_iff_toNat_lt, UInt32.toNat_add, UInt32.toNat_ofNat']
    omega

theorem persistentEvents_increasing
    (h : Rotation.Ordered Before snap.blocks snap.journalSlots snap.startSlot)
    (hs : ∀ slot b, snap.blocks slot = .some b → Sound b) :
    snap.persistentEvents.Pairwise fun a b => a.seq < b.seq := by
  rw [persistentEvents, List.pairwise_flatMap]
  refine ⟨fun off _ => snap.slotEvents_increasing (hs _), List.pairwise_lt_range.imp_of_mem ?_⟩
  intro i j hi hj hij a ha b hb
  have hj := List.mem_range.mp hj
  cases hbi : snap.blocks (Rotation.slotAt snap.journalSlots snap.startSlot i) with
  | none =>
    rw [slotEvents_none _ hbi] at ha
    cases ha
  | some bi =>
    cases hbj : snap.blocks (Rotation.slotAt snap.journalSlots snap.startSlot j) with
    | none =>
      rw [slotEvents_none _ hbj] at hb
      cases hb
    | some bj =>
      obtain ⟨m, hm, ham, -⟩ := snap.slotEvents_toNat hbi (hs _ bi hbi) ha
      obtain ⟨n, -, hbn, -⟩ := snap.slotEvents_toNat hbj (hs _ bj hbj) hb
      have hlast := (h.ordered i j bi bj hij hj hbi hbj).last
      rw [UInt32.lt_iff_toNat_lt, ham, hbn]
      simp only [TotemDiagBlock.last] at hlast
      omega

end Snapshot

/-- **A number of a dump names one event.** In every run over any number of
boots, from flash without a valid block and as long as no counter wraps, once
the journal is ready: the event lines of a dump are those of the blocks and
then those of RAM; the RAM lines are the last events recorded in this boot, each
with its number; the persistent lines come in the order of their numbers; and
lines with the same number carry the same event. -/
theorem dump_numbers_identify {flash : Flash} {s : Sys cfg}
    (hempty : ∀ slot, flash.stored cfg slot = .none) (h : Reach cfg flash tr s) (hw : NoWrap cfg tr)
    (hr : s.j.journalReady = true) (hb : total cfg tr + 1 < 2 ^ 32) :
    s.j.snapshot.details.filter isEventDetail =
      (s.j.snapshot.persistentEvents.map fun e => e.detail 'p') ++
        (s.j.snapshot.ramEvents.map fun e => e.detail 'r') ∧
    DumpIdentifies cfg tr s.j.snapshot := by
  have hinv := h.view.inv
  have hc := h.view.consistent hempty hw
  have hj := hinv.journaled hr hb
  have hram : s.j.snapshot.ram = ((recorded cfg tr).map Recorded.event).rtake cfg.ringCap :=
    hinv.numbered.ring
  have hseq : s.j.snapshot.seq.toNat = total cfg tr := hinv.numbered.ringSeq_toNat hr hb
  have hlen : s.j.snapshot.ram.length = s.j.ring.count := s.j.ring.length_toList
  have hle : s.j.ring.count ≤ total cfg tr := hinv.numbered.count_le
  have hsound : ∀ slot b, s.j.snapshot.blocks slot = .some b → Sound b := by
    intro slot b hbs
    refine hc.sound slot b ?_
    rw [← (hc.running hr).1]
    exact hbs
  refine ⟨s.j.snapshot.details_events, ?_, ?_, ?_, ?_⟩
  · rw [Snapshot.map_event_ramEvents, hram, rtake_recorded]
  · intro i hi
    simp only [Snapshot.ramEvents, List.length_map, List.length_range, List.getElem_map,
      List.getElem_range] at hi ⊢
    exact s.j.snapshot.ramSeq_toNat hseq hi (by omega) hb
  · refine s.j.snapshot.persistentEvents_increasing ?_ hsound
    have hkept := (hc.kept_nextSlot hr).ordered
    rwa [← (hc.running hr).1] at hkept
  · intro p hp r hr' heq
    rw [Snapshot.persistentEvents, List.mem_flatMap] at hp
    obtain ⟨off, -, hp⟩ := hp
    obtain ⟨i, hi, rfl⟩ := List.mem_map.mp hr'
    have hi := List.mem_range.mp hi
    have hnum := s.j.snapshot.ramSeq_toNat hseq hi (by omega) hb
    -- The RAM line carries the event with its number.
    have hring := eventAt_ring hinv.numbered.ring (show i < s.view.ring.count from hlen ▸ hi)
    have hget : s.j.snapshot.ram.getD i .zero = s.j.ring.read i := by
      rw [List.getD_eq_getElem?_getD, List.getElem?_eq_getElem hi, Option.getD_some]
      exact s.j.ring.getElem_toList i hi
    cases hbs : s.j.snapshot.blocks (Rotation.slotAt s.j.snapshot.journalSlots
        s.j.snapshot.startSlot off) with
    | none =>
      rw [Snapshot.slotEvents_none _ hbs] at hp
      cases hp
    | some b =>
      obtain ⟨m, hm, hpm, hpe⟩ := s.j.snapshot.slotEvents_toNat hbs (hsound _ b hbs) hp
      have hsame : total cfg tr - s.view.ring.count + 1 + i = b.first + m := by
        have hview : s.view.ring.count = s.j.ring.count := rfl
        have : p.seq.toNat = (s.j.snapshot.ramSeq i).toNat := congrArg UInt32.toNat heq
        omega
      rw [hsame] at hring
      rw [hpe]
      rcases h.view.origin hempty hw hr _ b hbs with ⟨w, hwmem, rfl⟩ | hold
      · have hblock := hj.once.holds w hwmem m hm
        rw [hring, Option.some.injEq] at hblock
        exact (hget.trans hblock).symm
      · -- A block from before the tail has no number of this boot.
        have htail := (eventAt_le hring).1
        simp only [TotemDiagBlock.last] at hold
        omega

theorem dump_numbers_identify_savedTrace :
    DumpIdentifies smallConfig savedTrace ((loadedSys smallConfig).persistNow 0).j.snapshot :=
  (@dump_numbers_identify smallConfig savedTrace _ _
    (fun slot => by simp [Flash.stored, Flash.block, emptyFlash])
    ((reach_loadedSys smallConfig).persistNow rfl rfl (by decide) (by decide) 0)
    ⟨by decide, by decide, trivial⟩ rfl (by decide)).2

/-! ## When a counter wraps -/

/-- Events of a slot printed earlier have smaller numbers. -/
theorem DumpIdentifies.slot_lt {snap : Snapshot} (h : DumpIdentifies cfg tr snap) {i j k l : Nat}
    (hij : i < j) (hj : j < snap.journalSlots)
    (hk : Rotation.slotAt snap.journalSlots snap.startSlot i = k)
    (hl : Rotation.slotAt snap.journalSlots snap.startSlot j = l) {a b : DumpedEvent}
    (ha : a ∈ snap.slotEvents k) (hb : b ∈ snap.slotEvents l) : a.seq < b.seq := by
  subst hk hl
  have hinc := h.increasing
  rw [Snapshot.persistentEvents, List.pairwise_flatMap] at hinc
  have hslots := List.pairwise_iff_getElem.mp hinc.2 i j (by simp; omega) (by simpa using hj) hij
  simp only [List.getElem_range] at hslots
  exact hslots a ha b hb

theorem mem_slotEvents (snap : Snapshot) {slot i : Nat} {b : TotemDiagBlock}
    (hb : snap.blocks slot = .some b) (hi : i < b.count.toNat) :
    ⟨slot, b.firstEventSeq + UInt32.ofNat i, b.event i⟩ ∈ snap.slotEvents slot := by
  rw [Snapshot.slotEvents, hb]
  exact List.mem_map_of_mem (List.mem_range.mpr hi)

/-- **Past the last number a dump has lines with the same number twice**, and
they come in no order. -/
theorem dump_numbers_wrapped : ¬ ∀ (cfg : Config) (flash : Flash) (tr : List Obs) (s : Sys cfg),
    (∀ slot, flash.stored cfg slot = .none) → Reach cfg flash tr s → s.j.journalReady = true →
      total cfg tr < 2 ^ 32 → DumpIdentifies cfg tr s.j.snapshot := by
  intro hall
  obtain ⟨tr, s, w, w', h, hr, htotal, hn, hb, hb', -, hlast, hfirst, hlast'⟩ := reach_savedTwice
  have hdump := hall smallConfig emptyFlash tr s
    (fun slot => by simp [Flash.stored, Flash.block, emptyFlash]) h hr (by rw [htotal]; decide)
  have hat₁ : Rotation.slotAt 4 s.j.nextSlot 2 = 0 := by rw [hn]; rfl
  have hat₂ : Rotation.slotAt 4 s.j.nextSlot 3 = 1 := by rw [hn]; rfl
  have hlt := w.block.firstEventSeq.toNat_lt
  simp only [TotemDiagBlock.last, TotemDiagBlock.first] at hlast hfirst hlast'
  -- The last event of slot 0 and the first of slot 1.
  have ha := mem_slotEvents s.j.snapshot hb (show w.block.count.toNat - 1 < _ by omega)
  have hb := mem_slotEvents s.j.snapshot hb' (show 0 < _ by omega)
  have hord := hdump.slot_lt (show 2 < 3 by decide) (show 3 < 4 by decide) hat₁ hat₂ ha hb
  simp only [UInt32.lt_iff_toNat_lt, UInt32.toNat_add, UInt32.toNat_ofNat'] at hord
  omega

/-- **After `journal_seq` wraps and a reload** the newest block is printed
first, however few events there are. -/
theorem dump_disordered : ¬ ∀ (cfg : Config) (flash : Flash) (tr : List Obs) (s : Sys cfg),
    (∀ slot, flash.stored cfg slot = .none) → Reach cfg flash tr s → s.j.journalReady = true →
      total cfg tr + 1 < 2 ^ 32 → DumpIdentifies cfg tr s.j.snapshot := by
  intro hall
  obtain ⟨tr, s, b, h, -, -, -, hseq, hfirst, hcount, hread, hflash⟩ := reach_wrapped
  have hlast : b.lastEventSeq = 6 := by
    rw [TotemDiagBlock.lastEventSeq, hfirst, hcount]
    rfl
  obtain ⟨tr', s', hreload, hnext, hb, hb', htotal⟩ := reload_wrapped hseq hlast hread hflash
  obtain ⟨s₁, hboot, hrun⟩ := hreload.run
  have hdump := hall smallConfig emptyFlash _ s'
    (fun slot => by simp [Flash.stored, Flash.block, emptyFlash]) ((h.step hboot).steps hrun)
    hreload.ready (by rw [List.singleton_append, htotal]; decide)
  have hat₀ : Rotation.slotAt 4 s'.j.nextSlot 0 = 1 := by rw [hnext]; rfl
  have hat₃ : Rotation.slotAt 4 s'.j.nextSlot 3 = 0 := by rw [hnext]; rfl
  have ha := mem_slotEvents s'.j.snapshot hb' (show 0 < b.count.toNat by rw [hcount]; decide)
  have hb := mem_slotEvents s'.j.snapshot hb (show 0 < firstBlock.count.toNat by decide)
  have hord := hdump.slot_lt (show 0 < 3 by decide) (show 3 < 4 by decide) hat₀ hat₃ ha hb
  dsimp only at hord
  rw [hfirst] at hord
  exact absurd hord (by decide)

end TotemZmk
