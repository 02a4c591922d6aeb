/-
What the journal is for: numbered events in a ring, blocks in a rotating
store, and the transfer from one to the other.

`View` keeps of the keyboard's state what the numbering and the rotation
depend on, with blocks for bytes and no clock, work item or configuration
check; `View.Step` says what a step may do to it.

* `Step.view`: every step of the keyboard is one of the view.
* `Reach.view`: so the view of a reachable state is reachable.
-/
import TotemZmk.Journal.System

namespace TotemZmk

/-- The numbering and the store. -/
structure View (cfg : Config) where
  ring : Circular.Ring TotemHostEvent cfg.ringCap
  ringSeq : UInt32
  persistedEventSeq : UInt32
  journalSeq : UInt32
  nextSlot : Nat
  ready : Bool
  /-- The blocks marked valid in RAM. -/
  restored : Nat → Option TotemDiagBlock
  /-- The valid blocks in flash. -/
  stored : Nat → Option TotemDiagBlock
  inflight : Option PersistCall
  delivered : List Nat

namespace View

variable {cfg : Config}

/-- The view right after a boot. -/
def boot₀ (cfg : Config) (stored : Nat → Option TotemDiagBlock) : View cfg where
  ring := .empty cfg.ringCap_pos .zero
  ringSeq := 0
  persistedEventSeq := 0
  journalSeq := 0
  nextSlot := 0
  ready := false
  restored := fun _ => .none
  stored := stored
  inflight := .none
  delivered := []

/-- A block read back takes its slot and moves the newest state seen on. -/
def restore (v : View cfg) (slot : Nat) (b : TotemDiagBlock) : View cfg where
  ring := v.ring
  ringSeq := v.ringSeq
  persistedEventSeq :=
    if v.persistedEventSeq < b.lastEventSeq then b.lastEventSeq else v.persistedEventSeq
  journalSeq := if v.journalSeq ≤ b.journalSeq then b.journalSeq else v.journalSeq
  nextSlot := if v.journalSeq ≤ b.journalSeq then (slot + 1) % cfg.journalSlots else v.nextSlot
  ready := v.ready
  restored := Function.update v.restored slot (.some b)
  stored := v.stored
  inflight := v.inflight
  delivered := slot :: v.delivered

/-- The valid blocks a reboot leaves. -/
inductive Left (v : View cfg) : (Nat → Option TotemDiagBlock) → Prop where
  | old : Left v v.stored
  | new {call} (hi : v.inflight = .some call) :
    Left v (Function.update v.stored call.slot (readBlock cfg call.slot call.block.encode))
  | torn {call} (hi : v.inflight = .some call) : Left v (Function.update v.stored call.slot .none)

/-- One step of the view. -/
inductive Step (v : View cfg) : List Obs → View cfg → Prop where
  | quiet : Step v [] v
  | loaded (t : Int) : Step v [.loaded t] v
  | record (e : TotemHostEvent) (persist : Bool) (t : Int) :
    Step v [.recorded e persist t] { v with ring := v.ring.push e, ringSeq := v.ringSeq + 1 }
  | reject (slot : Nat) (hr : v.ready = false) (hn : v.stored slot = .none)
    (hd : slot ∉ v.delivered) : Step v [] { v with delivered := slot :: v.delivered }
  | restore (slot : Nat) (b : TotemDiagBlock) (hr : v.ready = false) (hb : v.stored slot = .some b)
    (hd : slot ∉ v.delivered) : Step v [] (v.restore slot b)
  | load (hr : v.ready = false) (hd : ∀ slot, (v.stored slot).isSome → slot ∈ v.delivered) :
    Step v [.ready v.persistedEventSeq.toNat]
      { v with ringSeq := v.persistedEventSeq + UInt32.ofNat v.ring.count, ready := true }
  | form (call : PersistCall) (t : Int) (hr : v.ready = true) (hi : v.inflight = .none)
    (hslot : call.slot = v.nextSlot) (hseq : call.block.journalSeq = v.journalSeq + 1)
    (hok : 0 < call.block.count.toNat → BlockOK cfg call.slot call.block)
    (hf : Counts v.ring.count v.ringSeq v.persistedEventSeq →
      Formed cfg v.ring v.ringSeq v.persistedEventSeq call) :
    Step v [.formed call.block t]
      { v with journalSeq := v.journalSeq + 1, inflight := .some call }
  | fail (call : PersistCall) (t : Int) (hi : v.inflight = .some call) :
    Step v [.saved call.block false t] { v with inflight := .none }
  | save (call : PersistCall) (t : Int) (hi : v.inflight = .some call) :
    Step v [.saved call.block true t]
      { v with
        inflight := .none
        persistedEventSeq := call.lastCopiedSeq
        nextSlot := (call.slot + 1) % cfg.journalSlots
        restored := Function.update v.restored call.slot (.some call.block)
        stored :=
          Function.update v.stored call.slot (readBlock cfg call.slot call.block.encode) }
  | reboot {stored} (hl : v.Left stored) : Step v [.boot] (.boot₀ cfg stored)

/-- The reachable views. -/
inductive Reach (cfg : Config) (stored : Nat → Option TotemDiagBlock) : List Obs → View cfg → Prop where
  | boot : Reach cfg stored [.boot] (.boot₀ cfg stored)
  | step {tr v obs v'} (h : Reach cfg stored tr v) (hs : Step v obs v') :
    Reach cfg stored (obs ++ tr) v'

end View

/-- The valid blocks of the journal's slots. -/
def Flash.stored (cfg : Config) (flash : Flash) (slot : Nat) : Option TotemDiagBlock :=
  if slot < cfg.journalSlots then flash.block cfg slot else .none

/-- What a state shows. -/
def Sys.view {cfg : Config} (s : Sys cfg) : View cfg where
  ring := s.j.ring
  ringSeq := s.j.ringSeq
  persistedEventSeq := s.j.persistedEventSeq
  journalSeq := s.j.journalSeq
  nextSlot := s.j.nextSlot
  ready := s.j.journalReady
  restored := s.j.restored
  stored := s.flash.stored cfg
  inflight := s.inflight.map Prod.fst
  delivered := s.delivered

/-! ## Stored blocks -/

section

variable {cfg : Config} {flash : Flash} {slot : Nat}

theorem Flash.stored_update (h : slot < cfg.journalSlots) (bytes : Option (List UInt8)) :
    Flash.stored cfg (Function.update flash slot bytes) =
      Function.update (flash.stored cfg) slot (bytes.bind (readBlock cfg slot)) := by
  funext k
  by_cases hk : k = slot
  · subst hk
    simp [Flash.stored, Flash.block, h]
  · simp [Flash.stored, Flash.block, hk]

theorem HostEventLog.restored_update (j : HostEventLog cfg) (slot : Nat) (b : TotemDiagBlock)
    (j' : HostEventLog cfg) (hb : j'.restoredBlocks = Function.update j.restoredBlocks slot b)
    (hv : j'.restoredValid = Function.update j.restoredValid slot true) :
    j'.restored = Function.update j.restored slot (.some b) := by
  funext k
  by_cases hk : k = slot
  · subst hk
    simp [HostEventLog.restored, hb, hv]
  · simp [HostEventLog.restored, hb, hv, hk]

theorem slotOfName_dlogName (h : slot < 10) :
    HostEventLog.slotOfName (HostEventLog.dlogName slot) = .some slot := by
  revert slot
  decide

/-- **A stored block that passes validation** is restored. -/
theorem settingsSetStored_valid {j : HostEventLog cfg} {bytes : List UInt8} {b : TotemDiagBlock}
    (h : slot < cfg.journalSlots) (hb : readBlock cfg slot bytes = .some b) :
    j.settingsSetStored slot bytes = j.restore slot b := by
  have := cfg.journalSlots_le
  have hlen := length_of_readBlock hb
  simp only [readBlock] at hb
  split at hb
  · rename_i hc
    cases hb
    simp only [HostEventLog.settingsSetStored, HostEventLog.hevtSettingsSet,
      slotOfName_dlogName (show slot < 10 by omega), List.take_length, Nat.sub_self,
      List.replicate_zero, List.append_nil]
    rw [if_neg (by simp [hlen]; omega), if_neg (by omega), if_pos ⟨hc.2, by rw [hlen]⟩]
  · cases hb

theorem settingsSetStored_invalid {j : HostEventLog cfg} {bytes : List UInt8} (hs : slot < 10)
    (hb : slot < cfg.journalSlots → readBlock cfg slot bytes = .none) :
    j.settingsSetStored slot bytes = j ∨ slot < cfg.journalSlots ∧
      ∃ b, j.settingsSetStored slot bytes =
        { j with restoredBlocks := Function.update j.restoredBlocks slot b } := by
  simp only [HostEventLog.settingsSetStored, HostEventLog.hevtSettingsSet, slotOfName_dlogName hs,
    List.take_length, Nat.sub_self, List.replicate_zero, List.append_nil]
  by_cases hc : cfg.journalSlots ≤ slot ∨ bytes.length ≠ blockSize cfg
  · rw [if_pos hc]
    exact .inl rfl
  · have hlt : slot < cfg.journalSlots := by omega
    have hlen : bytes.length = blockSize cfg := by omega
    rw [if_neg hc, if_neg (by omega)]
    have hb := hb hlt
    simp only [readBlock] at hb
    split at hb
    · cases hb
    · rename_i hn
      rw [if_neg (fun h => hn ⟨hlen, h.1⟩)]
      exact .inr ⟨hlt, _, rfl⟩

end

/-! ## What the calls show -/

namespace HostEventLog

variable {cfg : Config} {j j' : HostEventLog cfg} {now : Int}

/-- Loading leaves the work item and the rate limit alone. -/
theorem restore_work (j : HostEventLog cfg) (slot : Nat) (b : TotemDiagBlock) :
    (j.restore slot b).persistWork = j.persistWork ∧
      (j.restore slot b).lastPersistUptimeMs = j.lastPersistUptimeMs ∧
      (j.restore slot b).journalReady = j.journalReady := by
  simp only [restore]
  split <;> split <;> exact ⟨rfl, rfl, rfl⟩

theorem settingsSetStored_work (j : HostEventLog cfg) (slot : Nat) (bytes : List UInt8) :
    (j.settingsSetStored slot bytes).persistWork = j.persistWork ∧
      (j.settingsSetStored slot bytes).lastPersistUptimeMs = j.lastPersistUptimeMs ∧
      (j.settingsSetStored slot bytes).journalReady = j.journalReady := by
  unfold settingsSetStored hevtSettingsSet
  split
  · exact ⟨rfl, rfl, rfl⟩
  · split
    · exact ⟨rfl, rfl, rfl⟩
    · dsimp only
      split
      · exact ⟨rfl, rfl, rfl⟩
      · split
        · exact j.restore_work _ _
        · exact ⟨rfl, rfl, rfl⟩

/-- The parts of the journal's state a view is made of are the same. -/
structure Same (j j' : HostEventLog cfg) : Prop where
  ring : j'.ring = j.ring
  ringSeq : j'.ringSeq = j.ringSeq
  persistedEventSeq : j'.persistedEventSeq = j.persistedEventSeq
  journalSeq : j'.journalSeq = j.journalSeq
  nextSlot : j'.nextSlot = j.nextSlot
  journalReady : j'.journalReady = j.journalReady
  restored : j'.restored = j.restored

theorem Same.refl (j : HostEventLog cfg) : Same j j := ⟨rfl, rfl, rfl, rfl, rfl, rfl, rfl⟩

/-- Nothing a view is made of depends on the work item. -/
theorem Same.work (h : Same j j') (w : Zephyr.Work) : Same j { j' with persistWork := w } :=
  ⟨h.1, h.2, h.3, h.4, h.5, h.6, h.7⟩

theorem same_schedulePersistCoalesced (j : HostEventLog cfg) (now : Int) (urgent : Bool) :
    Same j (j.schedulePersistCoalesced now urgent) := ⟨rfl, rfl, rfl, rfl, rfl, rfl, rfl⟩

/-- `record_event` puts one event into the ring. -/
theorem same_recordEvent (j : HostEventLog cfg) (now : Int) (e : TotemHostEvent) (persist : Bool) :
    Same { j with ring := j.ring.push e, ringSeq := j.ringSeq + 1 } (j.recordEvent now e persist) := by
  cases persist <;> exact ⟨rfl, rfl, rfl, rfl, rfl, rfl, rfl⟩

/-- A successful `totem_host_event_log_persist` moves the saved tail and the
rotation. -/
theorem same_persistFinish_ok (j : HostEventLog cfg) (now : Int) (call : PersistCall) :
    Same { j with
        persistedEventSeq := call.lastCopiedSeq
        nextSlot := (call.slot + 1) % cfg.journalSlots
        restoredBlocks := Function.update j.restoredBlocks call.slot call.block
        restoredValid := Function.update j.restoredValid call.slot true }
      (j.persistFinish now call 0) := by
  simp only [persistFinish, ne_eq, not_true_eq_false, if_false]
  split <;> exact ⟨rfl, rfl, rfl, rfl, rfl, rfl, rfl⟩

theorem same_persistFinish_err (j : HostEventLog cfg) (now : Int) (call : PersistCall) {err : Int}
    (h : err ≠ 0) : Same j (j.persistFinish now call err) := by
  simp only [persistFinish, if_pos h]
  split <;> exact ⟨rfl, rfl, rfl, rfl, rfl, rfl, rfl⟩

theorem same_persistForm_none (h : j.persistForm now = (j', .none)) : Same j j' := by
  obtain ⟨pr, w, rfl⟩ := persistForm_none h
  exact ⟨rfl, rfl, rfl, rfl, rfl, rfl, rfl⟩

end HostEventLog

/-! ## Slots in range -/

/-- Slots stay in range, and before the journal is ready nothing is written
and only delivered slots are restored. -/
structure View.InRange {cfg : Config} (v : View cfg) : Prop where
  next : v.nextSlot < cfg.journalSlots
  inflight : ∀ call, v.inflight = .some call → call.slot < cfg.journalSlots ∧ v.ready = true
  delivered : v.ready = false → ∀ slot, (v.restored slot).isSome → slot ∈ v.delivered

variable {cfg : Config} {obs : List Obs}

theorem View.inRange_boot₀ (stored : Nat → Option TotemDiagBlock) : (View.boot₀ cfg stored).InRange :=
  ⟨cfg.journalSlots_pos, by simp [boot₀], by simp [boot₀]⟩

theorem View.InRange.step {v v' : View cfg} (h : v.InRange) (hs : View.Step v obs v') : v'.InRange := by
  cases hs with
  | quiet => exact h
  | loaded t => exact h
  | record e persist t => exact ⟨h.next, h.inflight, h.delivered⟩
  | reject slot hr hn hd =>
    exact ⟨h.next, h.inflight, fun hr k hk => List.mem_cons_of_mem _ (h.delivered hr k hk)⟩
  | restore slot b hr hb hd =>
    refine ⟨?_, h.inflight, fun _ k hk => ?_⟩
    · simp only [View.restore]
      split
      · exact Nat.mod_lt _ cfg.journalSlots_pos
      · exact h.next
    · simp only [View.restore] at hk ⊢
      by_cases hks : k = slot
      · exact hks ▸ List.mem_cons_self
      · rw [Function.update_of_ne hks] at hk
        exact List.mem_cons_of_mem _ (h.delivered hr k hk)
  | load hr hd =>
    refine ⟨h.next, fun c hc => ?_, by simp⟩
    have := (h.inflight c hc).2
    rw [hr] at this
    cases this
  | form call t hr hi hslot hseq hok hf =>
    refine ⟨h.next, fun c hc => ?_, h.delivered⟩
    cases hc
    exact ⟨hslot ▸ h.next, hr⟩
  | fail call t hi => exact ⟨h.next, by simp, h.delivered⟩
  | save call t hi =>
    refine ⟨Nat.mod_lt _ cfg.journalSlots_pos, by simp, fun hr => ?_⟩
    rw [show v.ready = true from (h.inflight call hi).2] at hr
    cases hr
  | reboot hl => exact View.inRange_boot₀ _

theorem View.Reach.inRange {stored : Nat → Option TotemDiagBlock} {tr : List Obs} {v : View cfg}
    (h : View.Reach cfg stored tr v) : v.InRange := by
  induction h with
  | boot => exact View.inRange_boot₀ _
  | step _ hs ih => exact ih.step hs

/-! ## Every step shows -/

variable {s s' : Sys cfg}

/-- States with the same journal, flash and calls show the same. -/
theorem Sys.view_congr (hj : s.j.Same s'.j) (hf : s'.flash = s.flash) (hi : s'.inflight = s.inflight)
    (hd : s'.delivered = s.delivered) : s'.view = s.view := by
  simp only [Sys.view, hj.ring, hj.ringSeq, hj.persistedEventSeq, hj.journalSeq, hj.nextSlot,
    hj.journalReady, hj.restored, hf, hi, hd]

theorem Sys.view_quiet (hj : s.j.Same s'.j) (hf : s'.flash = s.flash) (hi : s'.inflight = s.inflight)
    (hd : s'.delivered = s.delivered) : View.Step s.view [] s'.view :=
  Sys.view_congr hj hf hi hd ▸ .quiet

theorem Sys.view_loaded {t : Int} (hj : s.j.Same s'.j) (hf : s'.flash = s.flash)
    (hi : s'.inflight = s.inflight) (hd : s'.delivered = s.delivered) :
    View.Step s.view [.loaded t] s'.view :=
  Sys.view_congr hj hf hi hd ▸ .loaded t

theorem Sys.view_record (e : TotemHostEvent) (persist : Bool)
    (hj : s'.j = s.j.recordEvent s.now e persist) (hf : s'.flash = s.flash)
    (hi : s'.inflight = s.inflight) (hd : s'.delivered = s.delivered) :
    View.Step s.view [.recorded e persist s.now] s'.view := by
  have h := HostEventLog.same_recordEvent s.j s.now e persist
  rw [← hj] at h
  have hv : s'.view = { s.view with ring := s.view.ring.push e, ringSeq := s.view.ringSeq + 1 } := by
    simp only [Sys.view, h.ring, h.ringSeq, h.persistedEventSeq, h.journalSeq, h.nextSlot,
      h.journalReady, h.restored, hf, hi, hd]
    rfl
  exact hv ▸ .record e persist s.now

theorem Sys.view_restore {slot : Nat} {b : TotemDiagBlock} (hj : s'.j = s.j.restore slot b)
    (hf : s'.flash = s.flash) (hi : s'.inflight = s.inflight)
    (hd : s'.delivered = slot :: s.delivered) : s'.view = s.view.restore slot b := by
  have hr : s'.j.restored = Function.update s.j.restored slot (.some b) := by
    refine HostEventLog.restored_update s.j slot b s'.j ?_ ?_ <;>
    · rw [hj, HostEventLog.restore]; split <;> split <;> rfl
  simp only [Sys.view, View.restore, hr, hf, hi, hd]
  by_cases hseq : s.j.journalSeq ≤ b.journalSeq <;>
    by_cases hlast : s.j.persistedEventSeq < b.lastEventSeq <;>
    simp only [hj, HostEventLog.restore, hseq, hlast, if_true, if_false]

theorem Sys.view_settingsSet {slot : Nat} {bytes : List UInt8} (h : s.view.InRange)
    (hr : s.j.journalReady = false) (hs : slot < 10) (hb : s.flash slot = .some bytes)
    (hd : slot ∉ s.delivered) (hj : s'.j = s.j.settingsSetStored slot bytes)
    (hf : s'.flash = s.flash) (hi : s'.inflight = s.inflight)
    (hd' : s'.delivered = slot :: s.delivered) : View.Step s.view [] s'.view := by
  have hstored : s.view.stored slot =
      if slot < cfg.journalSlots then readBlock cfg slot bytes else .none := by
    simp [Sys.view, Flash.stored, Flash.block, hb]
  cases hv : s.view.stored slot with
  | some b =>
    rw [hstored] at hv
    split at hv
    · rename_i hlt
      rw [settingsSetStored_valid hlt hv] at hj
      rw [Sys.view_restore hj hf hi hd']
      exact .restore slot b hr (by rw [hstored, if_pos hlt, hv]) hd
    · cases hv
  | none =>
    have hinv : slot < cfg.journalSlots → readBlock cfg slot bytes = .none := fun hlt => by
      rwa [hstored, if_pos hlt] at hv
    have hsame : s.j.Same s'.j := by
      rcases settingsSetStored_invalid (j := s.j) hs hinv with he | ⟨_, b, he⟩
      · rw [hj, he]; exact .refl _
      · -- The slot is not yet delivered, so it was not marked valid.
        have hnv : s.j.restoredValid slot = false := by
          have := fun hs => hd (h.delivered hr slot hs)
          simpa [Sys.view, HostEventLog.restored, Option.isSome_iff_ne_none] using this
        rw [hj, he]
        refine ⟨rfl, rfl, rfl, rfl, rfl, rfl, ?_⟩
        funext k
        by_cases hk : k = slot
        · subst hk; simp [HostEventLog.restored, hnv]
        · simp [HostEventLog.restored, hk]
    have hview : s'.view = { s.view with delivered := slot :: s.view.delivered } := by
      simp only [Sys.view, hsame.ring, hsame.ringSeq, hsame.persistedEventSeq, hsame.journalSeq,
        hsame.nextSlot, hsame.journalReady, hsame.restored, hf, hi, hd']
    exact hview ▸ .reject slot hr hv hd

theorem Sys.view_persistEnd {call : PersistCall} {byHandler : Bool} {err : Int} (h : s.view.InRange)
    (hi : s.inflight = .some (call, byHandler))
    (hj : HostEventLog.Same (s.j.persistFinish s.now call err) s'.j)
    (hf : s'.flash =
      if err = 0 then Function.update s.flash call.slot (.some call.block.encode) else s.flash)
    (hi' : s'.inflight = .none) (hd : s'.delivered = s.delivered) :
    View.Step s.view [.saved call.block (decide (err = 0)) s.now] s'.view := by
  have hvi : s.view.inflight = .some call := by simp [Sys.view, hi]
  by_cases he : err = 0
  · subst he
    have hok := HostEventLog.same_persistFinish_ok s.j s.now call
    have hrest : s'.j.restored = Function.update s.j.restored call.slot (.some call.block) := by
      rw [hj.restored, hok.restored]
      exact HostEventLog.restored_update s.j _ _ _ rfl rfl
    have hv : s'.view = { s.view with
        inflight := .none
        persistedEventSeq := call.lastCopiedSeq
        nextSlot := (call.slot + 1) % cfg.journalSlots
        restored := Function.update s.view.restored call.slot (.some call.block)
        stored := Function.update s.view.stored call.slot
          (readBlock cfg call.slot call.block.encode) } := by
      simp only [Sys.view, hj.ring, hj.ringSeq, hj.persistedEventSeq, hj.journalSeq, hj.nextSlot,
        hj.journalReady, hrest, hok.ring, hok.ringSeq, hok.persistedEventSeq, hok.journalSeq,
        hok.nextSlot, hok.journalReady, hf, if_true, hi', hd,
        Flash.stored_update (h.inflight call hvi).1]
      rfl
    rw [hv, decide_eq_true rfl]
    exact .save call s.now hvi
  · have herr := HostEventLog.same_persistFinish_err s.j s.now call he
    have hv : s'.view = { s.view with inflight := .none } := by
      simp only [Sys.view, hj.ring, hj.ringSeq, hj.persistedEventSeq, hj.journalSeq, hj.nextSlot,
        hj.journalReady, hj.restored, herr.ring, herr.ringSeq, herr.persistedEventSeq,
        herr.journalSeq, herr.nextSlot, herr.journalReady, herr.restored, hf, if_neg he, hi', hd]
      rfl
    rw [hv, decide_eq_false he]
    exact .fail call s.now hvi

theorem Sys.Left.view {flash : Flash} (h : s.view.InRange) (hl : s.Left flash) :
    s.view.Left (flash.stored cfg) := by
  cases hl with
  | old => exact .old
  | @new call byHandler hi =>
    have hvi : s.view.inflight = .some call := by simp [Sys.view, hi]
    rw [Flash.stored_update (h.inflight _ hvi).1]
    exact .new hvi
  | @torn call byHandler hi bytes hbad =>
    have hvi : s.view.inflight = .some call := by simp [Sys.view, hi]
    rw [Flash.stored_update (h.inflight _ hvi).1, hbad]
    exact .torn hvi

/-- **Every step of the keyboard is one of the view.** -/
theorem Step.view (h : s.view.InRange) (hs : Step s obs s') : View.Step s.view obs s'.view := by
  cases hs with
  | tick t ht => exact Sys.view_quiet ((HostEventLog.Same.refl s.j).work _) rfl rfl rfl
  | record r => exact Sys.view_record (r.event _) true rfl rfl rfl rfl
  | recordTiming e => exact Sys.view_record e false rfl rfl rfl rfl
  | settingsSet slot bytes hr hs hb hd => exact Sys.view_settingsSet h hr hs hb hd rfl rfl rfl rfl
  | load hr hd =>
    rw [HostEventLog.zmkSettingsLoaded_eq hr]
    refine .load (v := s.view) hr fun slot hs => ?_
    have hlt : slot < cfg.journalSlots := by
      by_contra hc
      simp [Sys.view, Flash.stored, hc] at hs
    refine hd slot (by have := cfg.journalSlots_le; omega) ?_
    cases hf : s.flash slot with
    | some bytes => rfl
    | none => simp [Sys.view, Flash.stored, Flash.block, hf] at hs
  | bootRecord hl => exact Sys.view_record _ true rfl rfl rfl rfl
  | @loadReturn p hl =>
    cases p
    · exact Sys.view_loaded (.refl s.j) rfl rfl rfl
    · exact Sys.view_loaded (HostEventLog.same_schedulePersistCoalesced s.j s.now true) rfl rfl rfl
  | workRun hq hr => exact Sys.view_quiet ((HostEventLog.Same.refl s.j).work _) rfl rfl rfl
  | persistSkip byHandler hi hh hf =>
    have hsame := HostEventLog.same_persistForm_none hf
    cases byHandler
    · exact Sys.view_quiet hsame rfl rfl rfl
    · exact Sys.view_quiet (hsame.work _) rfl rfl rfl
  | @persistForm byHandler j' call hi hh hf =>
    obtain ⟨hr, hn, -, hj', hcall⟩ := HostEventLog.persistForm_some hf
    subst hj'
    refine .form (v := s.view) call s.now hr (by simp [Sys.view, hi]) (by rw [hcall]; rfl)
      (by rw [hcall]; rfl) (fun hpos => ?_) (fun hc => HostEventLog.formed_of_persistForm hc hf)
    rw [hcall] at hpos ⊢
    exact HostEventLog.blockOK_persistBlock h.next (by rwa [HostEventLog.count_persistBlock] at hpos)
  | @persistEnd call byHandler counterErr err hi =>
    refine Sys.view_persistEnd h hi ?_ rfl rfl rfl
    cases byHandler
    · exact .refl _
    · exact (HostEventLog.Same.refl _).work _
  | reboot bd hb hf => exact .reboot (hf.view h)

/-- **The view of a reachable state is reachable.** -/
theorem Reach.view {flash : Flash} {tr : List Obs} (h : Reach cfg flash tr s) :
    View.Reach cfg (flash.stored cfg) tr s.view := by
  induction h with
  | boot bd hb => exact .boot
  | step _ hs ih => exact ih.step (hs.view ih.inRange)

end TotemZmk
