/-
Exactly-once, in-order journaling within one boot.

The blocks saved hold each event at its number; their numbers increase from
one block to the next; and a number no block holds belongs to an event the
ring had already lost. The invariant that carries this says what the ring
holds (`Numbered`) and what a block being written holds (`Copied`).

Event numbers are 32 bits wide: when the number 2³² - 1 itself is reached and
saved, the next number to save wraps to 0 and saved events are written again
(`saved_again_past_last_number`).

* `View.Reach.journaled`: the invariant along every run.
* `journaled_exactly_once`: the theorem about the keyboard.
-/
import TotemZmk.Journal.View
import TotemZmk.Lib.Crc

namespace TotemZmk

variable {cfg : Config} {tr : List Obs}

/-! ## Numbers along a run -/

theorem eventAt_le {n : Nat} {e : TotemHostEvent} (h : eventAt cfg tr n = .some e) :
    tail tr < n ∧ n ≤ total cfg tr := by
  unfold eventAt at h
  split at h
  · rename_i hlt
    refine ⟨hlt, ?_⟩
    obtain ⟨r, hr, -⟩ := Option.map_eq_some_iff.mp h
    have := List.getElem?_eq_some_iff.mp hr
    obtain ⟨hlen, -⟩ := this
    unfold total
    omega
  · cases h

/-- A record leaves the events before it their numbers. -/
theorem eventAt_recorded {n : Nat} {e e' : TotemHostEvent} {p : Bool} {t : Int}
    (h : eventAt cfg tr n = .some e) : eventAt cfg (.recorded e' p t :: tr) n = .some e := by
  obtain ⟨hlt, hle⟩ := eventAt_le h
  unfold total at hle
  rw [eventAt, if_pos hlt] at h
  rw [eventAt, tail, if_pos hlt, recorded, List.getElem?_append_left (by omega)]
  exact h

/-- The ring's `i`-th oldest event and its number. -/
theorem eventAt_ring {ring : Circular.Ring TotemHostEvent cfg.ringCap}
    (h : ring.toList = ((recorded cfg tr).map Recorded.event).rtake cfg.ringCap) {i : Nat}
    (hi : i < ring.count) :
    eventAt cfg tr (total cfg tr - ring.count + 1 + i) = .some (ring.read i) := by
  have hc := Circular.Ring.count_of_history h
  have hg := Circular.Ring.getElem?_history h hi
  rw [List.length_map] at hc
  rw [List.length_map, List.getElem?_map] at hg
  unfold eventAt total
  rw [if_pos (by omega), ← hg]
  congr 2
  omega

@[simp] theorem total_saved (b : TotemDiagBlock) (ok : Bool) (t : Int) :
    total cfg (.saved b ok t :: tr) = total cfg tr := rfl

@[simp] theorem total_formed (b : TotemDiagBlock) (t : Int) :
    total cfg (.formed b t :: tr) = total cfg tr := rfl

/-! ## What a run keeps -/

/-- The ring holds the last events recorded, and counts them. -/
structure Numbered (cfg : Config) (tr : List Obs) (v : View cfg) : Prop where
  ring : v.ring.toList = ((recorded cfg tr).map Recorded.event).rtake cfg.ringCap
  seq : v.ready = true → v.ringSeq = UInt32.ofNat (total cfg tr)
  idle : v.ready = false → written cfg tr = [] ∧ v.inflight = .none

/-- A block being written holds events at their numbers, starting with the
oldest that is neither saved nor lost. -/
structure Copied (cfg : Config) (tr : List Obs) (call : PersistCall) : Prop where
  last_eq : call.lastCopiedSeq.toNat = call.block.last
  first_le_last : call.block.first ≤ call.block.last
  fresh : lastSaved cfg tr < call.block.first
  last_le : call.block.last ≤ formedTotal cfg tr
  formed_le : formedTotal cfg tr ≤ total cfg tr
  later : ∀ w ∈ written cfg tr, w.formedTotal ≤ formedTotal cfg tr
  holds : ∀ i < call.block.count.toNat,
    eventAt cfg tr (call.block.first + i) = .some (call.block.event i)
  gap : ∀ n, lastSaved cfg tr < n → n < call.block.first → n + cfg.ringCap ≤ formedTotal cfg tr

/-- **Exactly once.** Every saved block holds the events with its numbers,
the numbers increase from block to block, and a number before a block that no
block holds is that of an event the ring had lost when the block was formed. -/
structure ExactlyOnce (cfg : Config) (tr : List Obs) : Prop where
  holds : ∀ w ∈ written cfg tr, ∀ i < w.block.count.toNat,
    eventAt cfg tr (w.block.first + i) = .some (w.block.event i)
  nonempty : ∀ w ∈ written cfg tr, w.block.first ≤ w.block.last
  increasing : (written cfg tr).Pairwise fun later earlier => earlier.block.last < later.block.first
  gap : ∀ w ∈ written cfg tr, ∀ n, tail tr < n → n < w.block.first →
    (∃ w' ∈ written cfg tr, w'.block.first ≤ n ∧ n ≤ w'.block.last) ∨
      n + cfg.ringCap ≤ w.formedTotal

/-- What holds once the journal is ready, as long as numbers fit. -/
structure Journaled (cfg : Config) (tr : List Obs) (v : View cfg) : Prop where
  persisted : v.persistedEventSeq.toNat = lastSaved cfg tr
  tail_le : tail tr ≤ lastSaved cfg tr
  saved_le : lastSaved cfg tr ≤ total cfg tr
  formed_le : ∀ w ∈ written cfg tr, w.formedTotal ≤ total cfg tr
  inflight : ∀ call, v.inflight = .some call → Copied cfg tr call
  once : ExactlyOnce cfg tr

/-- The invariant. Before the journal is ready its numbers mean nothing. -/
structure Inv (cfg : Config) (tr : List Obs) (v : View cfg) : Prop where
  numbered : Numbered cfg tr v
  journaled : v.ready = true → total cfg tr + 1 < 2 ^ 32 → Journaled cfg tr v

section

variable {v : View cfg} {tr' : List Obs} {call : PersistCall}

/-- Nothing the theorem speaks of depends on other observations. -/
theorem ExactlyOnce.congr (h : ExactlyOnce cfg tr) (hr : recorded cfg tr' = recorded cfg tr)
    (ht : tail tr' = tail tr) (hw : written cfg tr' = written cfg tr) : ExactlyOnce cfg tr' where
  holds := by simpa only [hw, eventAt, hr, ht] using h.holds
  nonempty := hw ▸ h.nonempty
  increasing := hw ▸ h.increasing
  gap := by rw [hw, ht]; exact h.gap

theorem ExactlyOnce.nil (h : written cfg tr = []) : ExactlyOnce cfg tr := by
  constructor <;> simp [h]

/-! ## A record -/

theorem total_recorded (e : TotemHostEvent) (p : Bool) (t : Int) :
    total cfg (.recorded e p t :: tr) = total cfg tr + 1 := by
  simp only [total, tail, recorded, List.length_append, List.length_singleton]
  omega

theorem ExactlyOnce.record (h : ExactlyOnce cfg tr) (e : TotemHostEvent) (p : Bool) (t : Int) :
    ExactlyOnce cfg (.recorded e p t :: tr) :=
  ⟨fun w hw i hi => eventAt_recorded (h.holds w hw i hi), h.nonempty, h.increasing, h.gap⟩

theorem Copied.record (h : Copied cfg tr call) (e : TotemHostEvent) (p : Bool) (t : Int) :
    Copied cfg (.recorded e p t :: tr) call where
  last_eq := h.last_eq
  first_le_last := h.first_le_last
  fresh := h.fresh
  last_le := h.last_le
  formed_le := by rw [total_recorded]; exact Nat.le_succ_of_le h.formed_le
  later := h.later
  holds i hi := eventAt_recorded (h.holds i hi)
  gap := h.gap

theorem Numbered.record (h : Numbered cfg tr v) (e : TotemHostEvent) (p : Bool) (t : Int) :
    Numbered cfg (.recorded e p t :: tr)
      { v with ring := v.ring.push e, ringSeq := v.ringSeq + 1 } where
  ring := by
    rw [v.ring.toList_push_history h.ring, recorded, List.map_append, List.map_singleton]
  seq hr := by
    rw [total_recorded]
    simp only [h.seq hr]
    apply UInt32.toNat.inj
    simp
  idle := h.idle

theorem Journaled.record (h : Journaled cfg tr v) (e : TotemHostEvent) (p : Bool) (t : Int) :
    Journaled cfg (.recorded e p t :: tr)
      { v with ring := v.ring.push e, ringSeq := v.ringSeq + 1 } where
  persisted := h.persisted
  tail_le := h.tail_le
  saved_le := by rw [total_recorded]; exact Nat.le_succ_of_le h.saved_le
  formed_le w hw := by rw [total_recorded]; exact Nat.le_succ_of_le (h.formed_le w hw)
  inflight call hc := (h.inflight call hc).record e p t
  once := h.once.record e p t

/-! ## A block is formed -/

theorem Numbered.count_le (h : Numbered cfg tr v) : v.ring.count ≤ total cfg tr := by
  have := Circular.Ring.count_of_history h.ring
  rw [List.length_map] at this
  unfold total
  omega

theorem Numbered.ringSeq_toNat (h : Numbered cfg tr v) (hr : v.ready = true)
    (hb : total cfg tr + 1 < 2 ^ 32) : v.ringSeq.toNat = total cfg tr := by
  rw [h.seq hr, UInt32.toNat_ofNat']
  omega

theorem Numbered.counts (h : Numbered cfg tr v) (hj : Journaled cfg tr v) (hr : v.ready = true)
    (hb : total cfg tr + 1 < 2 ^ 32) : Counts v.ring.count v.ringSeq v.persistedEventSeq := by
  have hseq := h.ringSeq_toNat hr hb
  refine ⟨hseq ▸ hb, hseq ▸ h.count_le, ?_⟩
  rw [hseq, hj.persisted]
  exact hj.saved_le

/-- What the code forms is what the theorem asks for. -/
theorem Copied.of_formed (h : Numbered cfg tr v) (hj : Journaled cfg tr v) (hr : v.ready = true)
    (hb : total cfg tr + 1 < 2 ^ 32) (hf : Formed cfg v.ring v.ringSeq v.persistedEventSeq call)
    (t : Int) : Copied cfg (.formed call.block t :: tr) call := by
  have hseq := h.ringSeq_toNat hr hb
  have hcount := Circular.Ring.count_of_history h.ring
  have hfirst := hf.first_eq
  rw [List.length_map] at hcount
  rw [hseq, hj.persisted] at hfirst
  have hcle := h.count_le
  refine ⟨hf.last_eq, hf.first_le_last, ?_, ?_, Nat.le_refl _, hj.formed_le, fun i hi => ?_,
    fun n hn hlt => ?_⟩
  · show lastSaved cfg tr < call.block.first
    omega
  · show call.block.last ≤ total cfg tr
    rw [← hseq]
    exact hf.last_le
  · have hle := hf.last_le
    rw [hseq] at hle
    simp only [TotemDiagBlock.last] at hle
    rw [hf.event_eq i hi, hseq]
    show eventAt cfg tr _ = _
    rw [← eventAt_ring h.ring (by omega)]
    congr 1
    omega
  · -- The ring was full, or nothing before its first event had a number.
    have hn' : lastSaved cfg tr < n := hn
    have := hj.tail_le
    show n + cfg.ringCap ≤ total cfg tr
    unfold total at *
    omega

theorem Journaled.form (h : Numbered cfg tr v) (hj : Journaled cfg tr v) (hr : v.ready = true)
    (hb : total cfg tr + 1 < 2 ^ 32) (hf : Formed cfg v.ring v.ringSeq v.persistedEventSeq call)
    (t : Int) : Journaled cfg (.formed call.block t :: tr)
      { v with journalSeq := v.journalSeq + 1, inflight := .some call } where
  persisted := hj.persisted
  tail_le := hj.tail_le
  saved_le := hj.saved_le
  formed_le := hj.formed_le
  inflight c hc := by cases hc; exact .of_formed h hj hr hb hf t
  once := hj.once.congr rfl rfl rfl

/-! ## A block is saved -/

/-- No saved block reaches past the last number saved. -/
theorem ExactlyOnce.last_le (h : ExactlyOnce cfg tr) {w : Written} (hw : w ∈ written cfg tr) :
    w.block.last ≤ lastSaved cfg tr := by
  have hinc := h.increasing
  have hne := h.nonempty
  unfold lastSaved
  cases hws : written cfg tr with
  | nil => rw [hws] at hw; cases hw
  | cons w₀ ws =>
    rw [hws] at hw hinc hne
    rcases List.mem_cons.mp hw with rfl | hw
    · exact Nat.le_refl _
    · have := List.rel_of_pairwise_cons hinc hw
      have := hne w₀ List.mem_cons_self
      show w.block.last ≤ w₀.block.last
      omega

/-- Up to the last number saved, an event is in a block or was lost. -/
theorem ExactlyOnce.saved_or_lost (h : ExactlyOnce cfg tr) {n : Nat} (hn : tail tr < n)
    (hle : n ≤ lastSaved cfg tr) :
    (∃ w ∈ written cfg tr, w.block.first ≤ n ∧ n ≤ w.block.last) ∨
      ∃ w ∈ written cfg tr, n + cfg.ringCap ≤ w.formedTotal := by
  have hgap := h.gap
  unfold lastSaved at hle
  cases hws : written cfg tr with
  | nil =>
    rw [hws] at hle
    have : n ≤ tail tr := hle
    omega
  | cons w ws =>
    rw [hws] at hle hgap
    have hmem : w ∈ w :: ws := List.mem_cons_self
    by_cases hf : w.block.first ≤ n
    · exact .inl ⟨w, hmem, hf, hle⟩
    · rcases hgap w hmem n hn (by omega) with hin | hlost
      · exact .inl hin
      · exact .inr ⟨w, hmem, hlost⟩

theorem ExactlyOnce.save (h : ExactlyOnce cfg tr) (hc : Copied cfg tr call) (t : Int) :
    ExactlyOnce cfg (.saved call.block true t :: tr) where
  holds w hw i hi := by
    rcases List.mem_cons.mp hw with rfl | hw
    · exact hc.holds i hi
    · exact h.holds w hw i hi
  nonempty w hw := by
    rcases List.mem_cons.mp hw with rfl | hw
    · exact hc.first_le_last
    · exact h.nonempty w hw
  increasing := by
    refine List.pairwise_cons.mpr ⟨fun w hw => ?_, h.increasing⟩
    exact Nat.lt_of_le_of_lt (h.last_le hw) hc.fresh
  gap w hw n hn hlt := by
    have hn' : tail tr < n := hn
    rcases List.mem_cons.mp hw with rfl | hw
    · have hlt' : n < call.block.first := hlt
      by_cases hle : n ≤ lastSaved cfg tr
      · rcases h.saved_or_lost hn' hle with ⟨w', hw', hin⟩ | ⟨w', hw', hlost⟩
        · exact .inl ⟨w', List.mem_cons_of_mem _ hw', hin⟩
        · exact .inr (Nat.le_trans hlost (hc.later w' hw'))
      · exact .inr (hc.gap n (by omega) hlt')
    · rcases h.gap w hw n hn' hlt with ⟨w', hw', hin⟩ | hlost
      · exact .inl ⟨w', List.mem_cons_of_mem _ hw', hin⟩
      · exact .inr hlost

theorem Journaled.save (h : Journaled cfg tr v) (hi : v.inflight = .some call) (t : Int)
    {v' : View cfg} (hp : v'.persistedEventSeq = call.lastCopiedSeq) (hi' : v'.inflight = .none) :
    Journaled cfg (.saved call.block true t :: tr) v' := by
  have hc := h.inflight call hi
  refine ⟨by rw [hp, hc.last_eq]; rfl, ?_, Nat.le_trans hc.last_le hc.formed_le, fun w hw => ?_,
    by simp [hi'], h.once.save hc t⟩
  · have := h.tail_le
    have := hc.fresh
    have := hc.first_le_last
    show tail tr ≤ call.block.last
    omega
  · rcases List.mem_cons.mp hw with rfl | hw
    · exact hc.formed_le
    · exact h.formed_le w hw

theorem Journaled.fail (h : Journaled cfg tr v) (t : Int) :
    Journaled cfg (.saved call.block false t :: tr) { v with inflight := .none } :=
  ⟨h.persisted, h.tail_le, h.saved_le, h.formed_le, by simp, h.once.congr rfl rfl rfl⟩

/-! ## Other steps -/

theorem Copied.congr (h : Copied cfg tr call) (hr : recorded cfg tr' = recorded cfg tr)
    (ht : tail tr' = tail tr) (hw : written cfg tr' = written cfg tr)
    (hf : formedTotal cfg tr' = formedTotal cfg tr) : Copied cfg tr' call := by
  have htot : total cfg tr' = total cfg tr := by rw [total, total, hr, ht]
  have hl : lastSaved cfg tr' = lastSaved cfg tr := by rw [lastSaved, lastSaved, hw, ht]
  constructor
  · exact h.last_eq
  · exact h.first_le_last
  · rw [hl]; exact h.fresh
  · rw [hf]; exact h.last_le
  · rw [hf, htot]; exact h.formed_le
  · rw [hw, hf]; exact h.later
  · simpa only [eventAt, hr, ht] using h.holds
  · rw [hl, hf]; exact h.gap

/-- The journal becomes ready: its numbers follow the saved tail. -/
theorem Inv.load (h : Inv cfg tr v) (hr : v.ready = false) :
    Inv cfg (.ready v.persistedEventSeq.toNat :: tr)
      { v with ringSeq := v.persistedEventSeq + UInt32.ofNat v.ring.count, ready := true } := by
  obtain ⟨hw, hi⟩ := h.numbered.idle hr
  have hcount := Circular.Ring.count_of_history h.numbered.ring
  rw [List.length_map] at hcount
  have hlen : ((recorded cfg tr).rtake cfg.ringCap).length = v.ring.count := by
    rw [Circular.length_rtake, hcount]
  have hsaved : lastSaved cfg (.ready v.persistedEventSeq.toNat :: tr) = v.persistedEventSeq.toNat := by
    simp only [lastSaved, written, hw, tail]
  refine ⟨⟨?_, fun _ => ?_, by simp⟩, fun _ _ => ⟨hsaved.symm, ?_, ?_, ?_, ?_, ?_⟩⟩
  · rw [recorded, Circular.map_rtake, h.numbered.ring, Circular.rtake_of_length_le (l := List.rtake _ _)]
    rw [Circular.length_rtake]
    omega
  · apply UInt32.toNat.inj
    simp only [total, tail, recorded, hlen, UInt32.toNat_add, UInt32.toNat_ofNat']
    omega
  · rw [hsaved]
    exact Nat.le_refl _
  · rw [hsaved]
    exact Nat.le_add_right _ _
  · simp [written, hw]
  · simp [hi]
  · exact .nil hw

theorem Inv.boot₀ (stored : Nat → Option TotemDiagBlock) :
    Inv cfg (.boot :: tr) (.boot₀ cfg stored) := by
  refine ⟨⟨?_, by simp [View.boot₀], by simp [View.boot₀, written]⟩, by simp [View.boot₀]⟩
  simp [View.boot₀, recorded, List.rtake]

/-- **Every step keeps the invariant.** -/
theorem Inv.step {v' : View cfg} {obs : List Obs} (h : Inv cfg tr v) (hs : View.Step v obs v') :
    Inv cfg (obs ++ tr) v' := by
  have hn := h.numbered
  cases hs with
  | quiet => exact h
  | loaded t =>
    refine ⟨⟨hn.ring, hn.seq, hn.idle⟩, fun hr hb => ?_⟩
    have hj := h.journaled hr hb
    exact ⟨hj.persisted, hj.tail_le, hj.saved_le, hj.formed_le,
      fun call hc => (hj.inflight call hc).congr rfl rfl rfl rfl, hj.once.congr rfl rfl rfl⟩
  | record e p t =>
    refine ⟨hn.record e p t, fun hr hb => ?_⟩
    rw [List.singleton_append, total_recorded] at hb
    exact (h.journaled hr (by omega)).record e p t
  | reject slot hr _ _ => exact ⟨⟨hn.ring, hn.seq, hn.idle⟩, fun hr' => by simp [hr] at hr'⟩
  | restore slot b hr _ _ =>
    exact ⟨⟨hn.ring, hn.seq, hn.idle⟩, fun hr' => by simp [View.restore, hr] at hr'⟩
  | load hr hd => exact h.load hr
  | form call t hr hi _ _ _ hf =>
    refine ⟨⟨hn.ring, hn.seq, fun hr' => by simp [hr] at hr'⟩, fun _ hb => ?_⟩
    have hb' : total cfg tr + 1 < 2 ^ 32 := hb
    have hj := h.journaled hr hb'
    exact hj.form hn hr hb' (hf (hn.counts hj hr hb')) t
  | fail call t hi =>
    refine ⟨⟨hn.ring, hn.seq, fun hr => ⟨(hn.idle hr).1, rfl⟩⟩, fun hr hb => ?_⟩
    exact (h.journaled hr hb).fail t
  | save call t hi =>
    refine ⟨⟨hn.ring, hn.seq, fun hr => ?_⟩, fun hr hb => (h.journaled hr hb).save hi t rfl rfl⟩
    have := (hn.idle hr).2
    rw [hi] at this
    cases this
  | reboot hl => exact .boot₀ _

end

/-- **The invariant holds along every run.** -/
theorem View.Reach.inv {stored : Nat → Option TotemDiagBlock} {v : View cfg}
    (h : View.Reach cfg stored tr v) : Inv cfg tr v := by
  induction h with
  | boot => exact .boot₀ _
  | step _ hs ih => exact ih.step hs

/-- **Exactly-once, in-order journaling.** In every run, once the journal is
ready and as long as event numbers stay below 2³² - 1, the blocks saved hold
each event at its number, in order and once, and miss only events the ring had
lost; `persisted_event_seq` is the last number saved, and a failed save moves
neither it nor the rotation. -/
theorem journaled_exactly_once {flash : Flash} {s : Sys cfg} (h : Reach cfg flash tr s)
    (hr : s.j.journalReady = true) (hb : total cfg tr + 1 < 2 ^ 32) :
    ExactlyOnce cfg tr ∧ s.j.persistedEventSeq.toNat = lastSaved cfg tr ∧
      ∀ s' b t, Step s [.saved b false t] s' →
        s'.j.persistedEventSeq = s.j.persistedEventSeq ∧ s'.j.nextSlot = s.j.nextSlot ∧
          s'.j.restored = s.j.restored ∧ s'.flash.stored cfg = s.flash.stored cfg := by
  have hv := h.view
  have hj := hv.inv.journaled hr hb
  refine ⟨hj.once, hj.persisted, fun s' b t hs => ?_⟩
  have hview : s'.view = { s.view with inflight := .none } := by
    have := hs.view hv.inRange
    generalize s'.view = v' at this
    cases this
    rfl
  exact ⟨congrArg View.persistedEventSeq hview, congrArg View.nextSlot hview,
    congrArg View.restored hview, congrArg View.stored hview⟩

/-! ## The last number

A run on empty flash that records every number there is. -/

/-- The least ring, which one block holds, and the fewest slots. -/
def smallConfig : Config where
  ringCap := 32
  persistEvery := 10
  blockEvents := 32
  journalSlots := 4
  persistMinIntervalMs := 5000
  crc32Ieee := Crc.crc32Ieee
  ringCap_pos := by decide
  ringCap_lt := by decide
  blockEvents_pos := by decide
  blockEvents_lt := by decide
  journalSlots_pos := by decide
  journalSlots_le := by decide
  persistMin_pos := by decide

/-- Nothing is stored. -/
def emptyFlash : Flash := fun _ => .none

/-- A boot with nothing to report. -/
def bareBoot : BootDiagnostics := ⟨0, 0, 0, 0, 0, 0, false, false, 0, 0, 0, 0, 0⟩

/-- The boot records, made one after the other. -/
def HostEventLog.recordAll (j : HostEventLog cfg) (now : Int) (rs : List RecordArgs) :
    HostEventLog cfg :=
  rs.foldl (fun j r => j.totemHostEventLogRecord now r) j

theorem Reach.bootRecords {flash : Flash} {s : Sys cfg} {rs : List RecordArgs} {p : Bool}
    (h : Reach cfg flash tr s) (hl : s.loadCall = .some ⟨rs, p⟩) :
    Reach cfg flash
      ((rs.map fun r => .recorded (r.event (kUptimeGet32 s.now)) true s.now).reverse ++ tr)
      { s with j := s.j.recordAll s.now rs, loadCall := .some ⟨[], p⟩ } := by
  induction rs generalizing tr s with
  | nil => rw [← hl]; exact h
  | cons r rs ih =>
    have := ih (h.step (.bootRecord hl)) rfl
    simpa [HostEventLog.recordAll] using this

theorem Reach.timing {flash : Flash} {s : Sys cfg} (h : Reach cfg flash tr s) (e : TotemHostEvent)
    (n : Nat) : ∃ ring q, Reach cfg flash (List.replicate n (.recorded e false s.now) ++ tr)
      { s with j := { s.j with ring := ring, ringSeq := q } } := by
  induction n with
  | zero => exact ⟨_, _, h⟩
  | succ n ih =>
    obtain ⟨ring, q, hn⟩ := ih
    exact ⟨_, _, hn.step (.recordTiming e)⟩

theorem total_replicate (e : TotemHostEvent) (p : Bool) (t : Int) (n : Nat) :
    total cfg (List.replicate n (.recorded e p t) ++ tr) = total cfg tr + n := by
  induction n with
  | zero => rfl
  | succ n ih => rw [List.replicate_succ, List.cons_append, total_recorded, ih]; rfl

theorem tail_replicate (e : TotemHostEvent) (p : Bool) (t : Int) (n : Nat) :
    tail (List.replicate n (.recorded e p t) ++ tr) = tail tr := by
  induction n with
  | zero => rfl
  | succ n ih => rw [List.replicate_succ, List.cons_append, tail, ih]

theorem written_replicate (e : TotemHostEvent) (p : Bool) (t : Int) (n : Nat) :
    written cfg (List.replicate n (.recorded e p t) ++ tr) = written cfg tr := by
  induction n with
  | zero => rfl
  | succ n ih => rw [List.replicate_succ, List.cons_append, written, ih]

/-- The state after a direct call of `totem_host_event_log_persist` whose save
answers `err` at once. -/
def Sys.persistNow (s : Sys cfg) (err : Int) : Sys cfg :=
  let call : PersistCall :=
    ⟨s.j.persistBlock, s.j.nextSlot, s.j.firstNew + UInt32.ofNat s.j.blockCount - 1⟩
  { s with
    flash := if err = 0 then Function.update s.flash call.slot (.some call.block.encode) else s.flash
    j := { s.j with journalSeq := s.j.journalSeq + 1, persistRequested := false }.persistFinish
      s.now call err
    boot := totemBootDiagnosticsPersist s.boot 0
    inflight := .none }

theorem Reach.persistNow {flash : Flash} {s : Sys cfg} (h : Reach cfg flash tr s)
    (hr : s.j.journalReady = true) (hi : s.inflight = .none)
    (hsoon : ¬ (s.j.lastPersistUptimeMs ≠ 0 ∧
      s.now - s.j.lastPersistUptimeMs < cfg.persistMinIntervalMs))
    (hn : ¬ s.j.ringSeq < s.j.firstNew) (err : Int) :
    Reach cfg flash
      (.saved s.j.persistBlock (decide (err = 0)) s.now :: .formed s.j.persistBlock s.now :: tr)
      (s.persistNow err) :=
  (h.step (.persistForm false hi (by simp) (HostEventLog.persistForm_eq hr hsoon hn))).step
    (.persistEnd 0 err rfl)

/-- A failed save takes a `journal_seq` and leaves all else. -/
theorem Sys.same_persistNow_err (s : Sys cfg) {err : Int} (h : err ≠ 0) :
    HostEventLog.Same { s.j with journalSeq := s.j.journalSeq + 1 } (s.persistNow err).j := by
  have := HostEventLog.same_persistFinish_err
    { s.j with journalSeq := s.j.journalSeq + 1, persistRequested := false } s.now
    ⟨s.j.persistBlock, s.j.nextSlot, s.j.firstNew + UInt32.ofNat s.j.blockCount - 1⟩ h
  exact ⟨this.1, this.2, this.3, this.4, this.5, this.6, this.7⟩

/-- Time passes until the rate limit allows a save. -/
def Sys.wait (s : Sys cfg) : Sys cfg :=
  let t := max s.now (s.j.lastPersistUptimeMs + cfg.persistMinIntervalMs)
  { s with now := t, j := { s.j with persistWork := s.j.persistWork.expire t } }

theorem Reach.wait {flash : Flash} {s : Sys cfg} (h : Reach cfg flash tr s) :
    Reach cfg flash tr s.wait :=
  h.step (.tick _ (Int.le_max_left ..))

theorem Sys.same_wait (s : Sys cfg) : HostEventLog.Same s.j s.wait.j :=
  (.refl s.j : HostEventLog.Same s.j s.j).work _

theorem Sys.wait_not_soon (s : Sys cfg) : ¬ (s.wait.j.lastPersistUptimeMs ≠ 0 ∧
    s.wait.now - s.wait.j.lastPersistUptimeMs < cfg.persistMinIntervalMs) := fun h => by
  have := h.2
  simp only [wait] at this
  omega

/-- The keyboard once `zmk_settings_loaded` returned, at a first boot. -/
def loadedSys (cfg : Config) : Sys cfg :=
  let load := totemBootDiagnosticsLoaded cfg bareBoot 0 (-1) (-1)
  { now := 0
    flash := emptyFlash
    j := (HostEventLog.init cfg).zmkSettingsLoaded.recordAll 0 load.2
    boot := load.1
    inflight := .none
    handlerWaiting := false
    loadCall := .none
    delivered := [] }

/-- What is observed until then. -/
def loadedTrace (cfg : Config) : List Obs :=
  .loaded 0 :: (((totemBootDiagnosticsLoaded cfg bareBoot 0 (-1) (-1)).2.map fun r =>
    .recorded (r.event 0) true 0).reverse ++ [.ready 0, .boot])

theorem reach_loadedSys (cfg : Config) : Reach cfg emptyFlash (loadedTrace cfg) (loadedSys cfg) := by
  have hboot : Reach cfg emptyFlash [.boot] (.boot₀ cfg emptyFlash bareBoot) :=
    .boot _ ⟨rfl, rfl⟩
  have hload := hboot.step (.load rfl (by simp [Sys.boot₀, emptyFlash]))
  have hprev : (Sys.boot₀ cfg emptyFlash bareBoot).j.previous = ⟨0, 0, 0, 0, -1, -1⟩ := by
    simp [HostEventLog.previous, Sys.boot₀, HostEventLog.init]
  rw [hprev] at hload
  have hrec := hload.bootRecords rfl
  exact hrec.step (.loadReturn rfl)

theorem total_loadedTrace (cfg : Config) : total cfg (loadedTrace cfg) = 5 := by
  simp [loadedTrace, totemBootDiagnosticsLoaded, bareBoot, total, tail, recorded, List.rtake]

/-- A first block is saved. -/
def savedTrace : List Obs :=
  .saved (loadedSys smallConfig).j.persistBlock true 0 ::
    .formed (loadedSys smallConfig).j.persistBlock 0 :: loadedTrace smallConfig

theorem journaled_exactly_once_savedTrace :
    (written smallConfig savedTrace).length = 1 ∧ ExactlyOnce smallConfig savedTrace ∧
      ((loadedSys smallConfig).persistNow 0).j.persistedEventSeq.toNat = lastSaved smallConfig savedTrace ∧
        ∀ s' b t, Step ((loadedSys smallConfig).persistNow 0) [.saved b false t] s' →
          s'.j.persistedEventSeq = ((loadedSys smallConfig).persistNow 0).j.persistedEventSeq ∧
            s'.j.nextSlot = ((loadedSys smallConfig).persistNow 0).j.nextSlot ∧
            s'.j.restored = ((loadedSys smallConfig).persistNow 0).j.restored ∧
            s'.flash.stored smallConfig = ((loadedSys smallConfig).persistNow 0).flash.stored smallConfig :=
  ⟨by decide, @journaled_exactly_once smallConfig savedTrace _ _
    ((reach_loadedSys smallConfig).persistNow rfl rfl (by decide) (by decide) 0) rfl (by decide)⟩

/-- The keyboard when the last number is reached, with nothing saved. -/
def lastNumberSys (cfg : Config) (ring : Circular.Ring TotemHostEvent cfg.ringCap) : Sys cfg :=
  { loadedSys cfg with
    now := 1
    j := { (loadedSys cfg).j with
      ring := ring
      ringSeq := 0xFFFFFFFF
      persistWork := (loadedSys cfg).j.persistWork.expire 1 } }

theorem reach_lastNumberSys (cfg : Config) : ∃ tr ring,
    Reach cfg emptyFlash tr (lastNumberSys cfg ring) ∧
    ring.count = cfg.ringCap ∧ total cfg tr = 2 ^ 32 - 1 ∧ tail tr = 0 ∧ written cfg tr = [] := by
  obtain ⟨n, hn⟩ : ∃ n, 5 + n = 2 ^ 32 - 1 := ⟨4294967290, by decide⟩
  obtain ⟨ring, q, h⟩ := (reach_loadedSys cfg).timing .zero n
  replace h : Reach cfg emptyFlash (List.replicate n (.recorded .zero false 0) ++ loadedTrace cfg) _ := h
  have htotal := @total_replicate cfg (loadedTrace cfg) .zero false 0 n
  have htail := @tail_replicate (loadedTrace cfg) .zero false 0 n
  have hwritten := @written_replicate cfg (loadedTrace cfg) .zero false 0 n
  generalize hrun : List.replicate n (Obs.recorded .zero false 0) ++ loadedTrace cfg = run at *
  rw [total_loadedTrace, hn] at htotal
  have hq : q = 0xFFFFFFFF := by
    have hseq : q = UInt32.ofNat (total cfg run) := h.view.inv.numbered.seq rfl
    rw [hseq, htotal]
    rfl
  have hcount := Circular.Ring.count_of_history h.view.inv.numbered.ring
  subst hq
  refine ⟨run, ring, h.step (.tick 1 (show (0 : Int) ≤ 1 by decide)), ?_, htotal, htail, hwritten⟩
  have htail' : tail run = 0 := htail
  have := cfg.ringCap_lt
  rw [total, htail'] at htotal
  rw [List.length_map] at hcount
  change ring.count = _ at hcount
  omega

/-- What the small build makes of its ring at the last number, whether
nothing or everything is saved: a block of the same 32 events. -/
theorem persistBlock_lastNumber {j : HostEventLog smallConfig} (hq : j.ringSeq = 0xFFFFFFFF)
    (hc : j.ring.count = 32) (hp : j.persistedEventSeq = 0 ∨ j.persistedEventSeq = 0xFFFFFFFF) :
    ¬ j.ringSeq < j.firstNew ∧ j.persistBlock.first = 2 ^ 32 - 32 ∧
      j.persistBlock.last = 2 ^ 32 - 1 ∧ j.firstNew + UInt32.ofNat j.blockCount - 1 = 0xFFFFFFFF := by
  have hfirst : j.firstNew = 0xFFFFFFE0 := by
    unfold HostEventLog.firstNew HostEventLog.firstAvailable
    rcases hp with hp | hp <;> rw [hq, hc, hp] <;> decide
  have hcount : j.blockCount = 32 := by
    unfold HostEventLog.blockCount
    rw [hq, hfirst]
    decide
  have hpf : j.persistBlock.first = 2 ^ 32 - 32 := by
    show j.firstNew.toNat = _
    rw [hfirst]
    rfl
  refine ⟨by rw [hq, hfirst]; decide, hpf, ?_, by rw [hfirst, hcount]; decide⟩
  rw [TotemDiagBlock.last, HostEventLog.count_persistBlock, hcount]
  omega

theorem Sys.persistNow_last {s : Sys cfg}
    (h : s.j.firstNew + UInt32.ofNat s.j.blockCount - 1 = s.j.ringSeq) :
    (s.persistNow 0).j = { s.j with
      journalSeq := s.j.journalSeq + 1
      persistRequested := false
      lastPersistUptimeMs := s.now
      persistedEventSeq := s.j.ringSeq
      restoredBlocks := Function.update s.j.restoredBlocks s.j.nextSlot s.j.persistBlock
      restoredValid := Function.update s.j.restoredValid s.j.nextSlot true
      nextSlot := (s.j.nextSlot + 1) % cfg.journalSlots } := by
  simp [persistNow, HostEventLog.persistFinish, h]

theorem reach_lastSaved : ∃ tr s, Reach smallConfig emptyFlash tr s ∧ s.now = 1 ∧
    s.inflight = .none ∧ s.handlerWaiting = false ∧ s.loadCall = .none ∧
    s.j.journalReady = true ∧ s.j.ring.count = 32 ∧ s.j.ringSeq = 0xFFFFFFFF ∧
    s.j.persistedEventSeq = 0xFFFFFFFF ∧ s.j.nextSlot = 1 ∧ s.j.lastPersistUptimeMs = 1 ∧
    s.j.persistWork = ⟨.some 5000, .none, false, false⟩ ∧ s.j.eventsSincePersist = 5 ∧
    total smallConfig tr = 2 ^ 32 - 1 ∧
    ∃ w, written smallConfig tr = [w] ∧ s.j.restored 0 = .some w.block ∧
      w.block.last = 2 ^ 32 - 1 := by
  obtain ⟨tr, ring, h, hc, htotal, htail, hw⟩ := reach_lastNumberSys smallConfig
  obtain ⟨hn, -, hlast, hcopied⟩ :=
    persistBlock_lastNumber (j := (lastNumberSys smallConfig ring).j) rfl hc (.inl rfl)
  have hsave := h.persistNow rfl rfl (fun hsoon => hsoon.1 rfl) hn 0
  have hj := Sys.persistNow_last (s := lastNumberSys smallConfig ring) hcopied
  refine ⟨_, _, hsave, rfl, rfl, rfl, rfl, ?_, ?_, ?_, ?_, ?_, ?_, ?_, ?_, ?_,
    ⟨(lastNumberSys smallConfig ring).j.persistBlock, total smallConfig tr⟩, ?_, ?_, hlast⟩
  · rw [hj]; rfl
  · rw [hj]; exact hc
  · rw [hj]; rfl
  · rw [hj]; rfl
  · rw [hj]; rfl
  · rw [hj]; rfl
  · rw [hj]; rfl
  · rw [hj]; rfl
  · rw [total_saved, total_formed, htotal]
  · show written smallConfig (.saved _ true _ :: .formed _ _ :: tr) = _
    rw [written, written, hw]
    rfl
  · rw [hj]; rfl

theorem reach_savedTwice : ∃ tr s w w', Reach smallConfig emptyFlash tr s ∧
    s.j.journalReady = true ∧ total smallConfig tr = 2 ^ 32 - 1 ∧ s.j.nextSlot = 2 ∧
    s.j.restored 0 = .some w.block ∧ s.j.restored 1 = .some w'.block ∧
    written smallConfig tr = [w', w] ∧ w.block.last = 2 ^ 32 - 1 ∧
    w'.block.first = 2 ^ 32 - 32 ∧ w'.block.last = 2 ^ 32 - 1 := by
  obtain ⟨tr, s, h, hnow, hi, -, -, hr, hc, hq, hp, hn, hlp, -, -, htotal, w, hw, hrest, hwlast⟩ :=
    reach_lastSaved
  have hwait := s.same_wait
  have hq' : s.wait.j.ringSeq = 0xFFFFFFFF := hwait.ringSeq.trans hq
  have hn' : s.wait.j.nextSlot = 1 := hwait.nextSlot.trans hn
  obtain ⟨hnew, hfirst, hlast, hcopied⟩ := persistBlock_lastNumber hq'
    ((congrArg Circular.Ring.count hwait.ring).trans hc) (.inr (hwait.persistedEventSeq.trans hp))
  have hsave := h.wait.persistNow (hwait.journalReady.trans hr) hi s.wait_not_soon hnew 0
  have hj := Sys.persistNow_last (hcopied.trans hq'.symm)
  refine ⟨_, _, w, ⟨s.wait.j.persistBlock, total smallConfig tr⟩, hsave, ?_, ?_, ?_, ?_, ?_, ?_, hwlast,
    hfirst, hlast⟩
  · rw [hj]
    exact hwait.journalReady.trans hr
  · rw [total_saved, total_formed, htotal]
  · rw [hj, hn']
    rfl
  · rw [hj, hn']
    exact hrest
  · rw [hj, hn']
    rfl
  · rw [decide_eq_true rfl, written, written, hw]
    rfl

/-- **Past the last number saved events are written again**: the blocks of
this run are in no order. -/
theorem saved_again_past_last_number : ¬ ∀ (cfg : Config) (flash : Flash) (tr : List Obs) (s : Sys cfg),
    Reach cfg flash tr s → s.j.journalReady = true → total cfg tr < 2 ^ 32 → ExactlyOnce cfg tr := by
  intro hall
  obtain ⟨tr, s, w, w', h, hr, htotal, -, -, -, hw, hlast, hfirst, -⟩ := reach_savedTwice
  have honce := hall smallConfig emptyFlash tr s h hr (by rw [htotal]; decide)
  have hinc := honce.increasing
  rw [hw] at hinc
  have hlt := List.rel_of_pairwise_cons hinc List.mem_cons_self
  rw [hlast, hfirst] at hlt
  omega

end TotemZmk
