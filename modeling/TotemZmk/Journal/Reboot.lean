/-
Reboot and crash consistency of the rotating journal.

Started on flash without a valid block, the journal keeps its valid blocks in
the order of its slots from `next_slot` on, oldest first, through failed
saves, torn saves and any number of boots. So the settings callbacks find the
same newest block in whatever order they run, a reload restores the state
before the reboot, and a write replaces nothing but the oldest block.

Both counters a block carries are 32 bits wide, and failed saves use up values
of `journal_seq` too. `NoWrap` asks that neither wraps when a block is formed;
`reload_misplaced` is a run whose `journal_seq` does.

* `Tip.unique`: what a load finds depends on the stored blocks only.
* `Consistent.step`, `View.Reach.consistent`: the invariant of every run.
* `reboot_consistent`: the theorem about the keyboard.
-/
import TotemZmk.Lib.Rotation
import TotemZmk.Journal.ExactlyOnce

namespace TotemZmk

variable {cfg : Config}

/-- No counter wraps when a block is formed: the last event's number is below
2³² - 1, and `journal_seq` has not come back to 0. -/
def NoWrap (cfg : Config) : List Obs → Prop
  | [] => True
  | .formed b _ :: tr => total cfg tr + 1 < 2 ^ 32 ∧ b.journalSeq ≠ 0 ∧ NoWrap cfg tr
  | .boot :: tr => NoWrap cfg tr
  | .ready _ :: tr => NoWrap cfg tr
  | .recorded _ _ _ :: tr => NoWrap cfg tr
  | .loaded _ :: tr => NoWrap cfg tr
  | .saved _ _ _ :: tr => NoWrap cfg tr

theorem NoWrap.of_append {obs tr : List Obs} (h : NoWrap cfg (obs ++ tr)) : NoWrap cfg tr := by
  induction obs with
  | nil => exact h
  | cons o obs ih =>
    cases o with
    | formed b t => exact ih h.2.2
    | _ => exact ih h

/-- No save was tried in this boot. -/
def Untried : List Obs → Prop
  | [] => True
  | .boot :: _ => True
  | .formed _ _ :: _ => False
  | .ready _ :: tr => Untried tr
  | .recorded _ _ _ :: tr => Untried tr
  | .loaded _ :: tr => Untried tr
  | .saved _ _ _ :: tr => Untried tr

/-- One block was written before another. -/
structure Before (a b : TotemDiagBlock) : Prop where
  journalSeq : a.journalSeq < b.journalSeq
  last : a.last < b.first

theorem Before.asymm {a b : TotemDiagBlock} (h : Before a b) : ¬ Before b a := fun h' => by
  have := UInt32.lt_iff_toNat_lt.mp h.journalSeq
  have := UInt32.lt_iff_toNat_lt.mp h'.journalSeq
  omega

/-- A block's numbers are those of some events, and do not wrap. -/
structure Sound (b : TotemDiagBlock) : Prop where
  first_pos : 0 < b.first
  first_le_last : b.first ≤ b.last
  lastEventSeq : b.lastEventSeq.toNat = b.last

/-! ## The newest block -/

/-- The slot to write next, the saved tail and the newest `journal_seq`, as
the newest block gives them. -/
inductive Tip (n : Nat) (blocks : Nat → Option TotemDiagBlock) : Nat → Nat → UInt32 → Prop where
  | none (h : ∀ k, blocks k = Option.none) : Tip n blocks 0 0 0
  | newest (k : Nat) (b : TotemDiagBlock) (hb : blocks k = .some b)
    (hmax : ∀ k' b', blocks k' = .some b' → k' = k ∨ Before b' b) :
    Tip n blocks ((k + 1) % n) b.last b.journalSeq

/-- **What a load finds depends on the stored blocks only.** -/
theorem Tip.unique {n : Nat} {blocks : Nat → Option TotemDiagBlock} {next next' tl tl' : Nat}
    {seq seq' : UInt32} (h : Tip n blocks next tl seq) (h' : Tip n blocks next' tl' seq') :
    next = next' ∧ tl = tl' ∧ seq = seq' := by
  cases h with
  | none h =>
    cases h' with
    | none => exact ⟨rfl, rfl, rfl⟩
    | newest k b hb => rw [h] at hb; cases hb
  | newest k b hb hmax =>
    cases h' with
    | none h => rw [h] at hb; cases hb
    | newest k' b' hb' hmax' =>
      rcases hmax k' b' hb' with rfl | hlt
      · rw [hb] at hb'
        cases hb'
        exact ⟨rfl, rfl, rfl⟩
      · rcases hmax' k b hb with rfl | hlt'
        · rw [hb] at hb'
          cases hb'
          exact ⟨rfl, rfl, rfl⟩
        · exact absurd hlt' hlt.asymm

theorem Tip.le {n : Nat} {blocks : Nat → Option TotemDiagBlock} {next tl : Nat} {seq : UInt32}
    (h : Tip n blocks next tl seq) (hs : ∀ k b, blocks k = .some b → Sound b) {k : Nat}
    {b : TotemDiagBlock} (hb : blocks k = .some b) : b.journalSeq ≤ seq ∧ b.last ≤ tl := by
  cases h with
  | none h => rw [h] at hb; cases hb
  | newest k' b' hb' hmax =>
    rcases hmax k b hb with rfl | hlt
    · rw [hb] at hb'
      cases hb'
      exact ⟨UInt32.le_refl _, Nat.le_refl _⟩
    · have := (hs k' b' hb').first_le_last
      have := hlt.last
      exact ⟨UInt32.le_of_lt hlt.journalSeq, by omega⟩

/-- **A block read back** moves the tip as the code moves its counters: any
two stored blocks were written one before the other. -/
theorem Tip.restore {n : Nat} {blocks : Nat → Option TotemDiagBlock} {next tl : Nat} {seq : UInt32}
    {k : Nat} {b : TotemDiagBlock} (h : Tip n blocks next tl seq) (hk : blocks k = .none)
    (hsb : Sound b) (hs : ∀ k' b', blocks k' = .some b' → Sound b')
    (hcmp : ∀ k' b', blocks k' = .some b' → Before b' b ∨ Before b b') :
    Tip n (Function.update blocks k (.some b))
      (if seq ≤ b.journalSeq then (k + 1) % n else next) (if tl < b.last then b.last else tl)
      (if seq ≤ b.journalSeq then b.journalSeq else seq) := by
  have hself : Function.update blocks k (.some b) k = .some b := Function.update_self ..
  have hother : ∀ k' b', Function.update blocks k (.some b) k' = .some b' → k' ≠ k →
      blocks k' = .some b' := fun k' b' hb' hne => by rwa [Function.update_of_ne hne] at hb'
  cases h with
  | none hnone =>
    have := hsb.first_pos
    have := hsb.first_le_last
    rw [if_pos (UInt32.zero_le), if_pos (show 0 < b.last by omega), if_pos (UInt32.zero_le)]
    refine .newest k b hself fun k' b' hb' => ?_
    by_cases hne : k' = k
    · exact .inl hne
    · have := hother k' b' hb' hne
      rw [hnone] at this
      cases this
  | newest k₀ b₀ hb₀ hmax =>
    rcases hcmp k₀ b₀ hb₀ with hnew | hold
    · -- The block read back is the newest so far.
      have := hnew.last
      have := hsb.first_le_last
      rw [if_pos (UInt32.le_of_lt hnew.journalSeq), if_pos (show b₀.last < b.last by omega),
        if_pos (UInt32.le_of_lt hnew.journalSeq)]
      refine .newest k b hself fun k' b' hb' => ?_
      by_cases hne : k' = k
      · exact .inl hne
      · have hb'' := hother k' b' hb' hne
        rcases hcmp k' b' hb'' with hlt | hgt
        · exact .inr hlt
        · rcases hmax k' b' hb'' with rfl | hlt
          · rw [hb₀] at hb''
            cases hb''
            exact absurd hgt hnew.asymm
          · have := UInt32.lt_iff_toNat_lt.mp hgt.journalSeq
            have := UInt32.lt_iff_toNat_lt.mp hlt.journalSeq
            have := UInt32.lt_iff_toNat_lt.mp hnew.journalSeq
            omega
    · have := hold.last
      have := (hs k₀ b₀ hb₀).first_le_last
      have hseq : ¬ b₀.journalSeq ≤ b.journalSeq := UInt32.not_le.mpr hold.journalSeq
      rw [if_neg hseq, if_neg (show ¬ b₀.last < b.last by omega), if_neg hseq]
      have hne₀ : k₀ ≠ k := fun he => by rw [he, hk] at hb₀; cases hb₀
      refine .newest k₀ b₀ (by rw [Function.update_of_ne hne₀, hb₀]) fun k' b' hb' => ?_
      by_cases hne : k' = k
      · subst hne
        rw [hself] at hb'
        cases hb'
        exact .inr hold
      · exact hmax k' b' (hother k' b' hb' hne)

/-! ## The rotation -/

/-- The valid blocks in flash: in order from `next` on. -/
structure Kept (cfg : Config) (stored : Nat → Option TotemDiagBlock) (next : Nat) : Prop where
  ordered : Rotation.Ordered Before stored cfg.journalSlots next
  empty : (∀ k, stored k = .none) → next = 0
  range : ∀ k b, stored k = .some b → k < cfg.journalSlots
  sound : ∀ k b, stored k = .some b → Sound b

namespace Kept

variable {stored : Nat → Option TotemDiagBlock} {next : Nat}

theorem nil (h : ∀ k, stored k = .none) : Kept cfg stored 0 where
  ordered := by
    rw [show stored = fun _ => .none from funext h]
    exact .nil cfg.journalSlots_pos
  empty _ := rfl
  range k b hb := by rw [h] at hb; cases hb
  sound k b hb := by rw [h] at hb; cases hb

theorem compare (h : Kept cfg stored next) {k k' : Nat} {b b' : TotemDiagBlock}
    (hb : stored k = .some b) (hb' : stored k' = .some b') (hne : k ≠ k') :
    Before b b' ∨ Before b' b := by
  obtain ⟨i, hi, rfl⟩ := Rotation.exists_offset h.ordered.next_lt (h.range k b hb)
  obtain ⟨j, hj, rfl⟩ := Rotation.exists_offset h.ordered.next_lt (h.range k' b' hb')
  rcases Nat.lt_trichotomy i j with hij | rfl | hij
  · exact .inl (h.ordered.ordered i j b b' hij hj hb hb')
  · exact absurd rfl hne
  · exact .inr (h.ordered.ordered j i b' b hij hi hb' hb)

/-- The tip of the stored blocks is the slot the rotation writes next. -/
theorem tip (h : Kept cfg stored next) : ∃ tl seq, Tip cfg.journalSlots stored next tl seq := by
  by_cases hnone : ∀ k, stored k = .none
  · rw [h.empty hnone]
    exact ⟨0, 0, .none hnone⟩
  · obtain ⟨k, hk⟩ := not_forall.mp hnone
    obtain ⟨b, hb⟩ := Option.ne_none_iff_exists'.mp hk
    obtain ⟨b', hb', -⟩ := h.ordered.newest (h.range k b hb) hb
    refine ⟨b'.last, b'.journalSeq, ?_⟩
    have := Tip.newest (n := cfg.journalSlots) _ b' hb' fun k'' b'' hb'' => by
      obtain ⟨b₁, hb₁, hor⟩ := h.ordered.newest (h.range k'' b'' hb'') hb''
      rw [hb'] at hb₁
      cases hb₁
      exact hor
    rwa [Rotation.back_succ h.ordered.next_lt] at this

theorem write (h : Kept cfg stored next) {b : TotemDiagBlock} (hs : Sound b)
    (hafter : ∀ k a, stored k = .some a → Before a b) :
    Kept cfg (Function.update stored next (.some b)) ((next + 1) % cfg.journalSlots) where
  ordered := h.ordered.write fun k _ a ha => hafter k a ha
  empty hnone := by
    have := hnone next
    rw [Function.update_self] at this
    cases this
  range k a ha := by
    by_cases hk : k = next
    · exact hk ▸ h.ordered.next_lt
    · rw [Function.update_of_ne hk] at ha
      exact h.range k a ha
  sound k a ha := by
    by_cases hk : k = next
    · subst hk
      rw [Function.update_self] at ha
      cases ha
      exact hs
    · rw [Function.update_of_ne hk] at ha
      exact h.sound k a ha

theorem erase (h : Kept cfg stored next) :
    Kept cfg (Function.update stored next .none) next where
  ordered := h.ordered.erase
  empty hnone := by
    have hlt := h.ordered.next_lt
    by_cases hn : cfg.journalSlots = 1
    · omega
    · -- With a second slot, the erased one was not the last that held a block.
      refine h.empty fun k => ?_
      by_cases hk : k = next
      · subst hk
        by_contra hsome
        obtain ⟨a, ha⟩ := Option.ne_none_iff_exists'.mp hsome
        have hne : (k + 1) % cfg.journalSlots ≠ k := by
          have := Rotation.slotAt_ne_next hlt Nat.one_pos (by omega)
          exact this
        obtain ⟨b, hb, -⟩ := h.ordered.oldest ha (Nat.mod_lt _ cfg.journalSlots_pos) hne
        have := hnone ((k + 1) % cfg.journalSlots)
        rw [Function.update_of_ne hne, hb] at this
        cases this
      · have := hnone k
        rwa [Function.update_of_ne hk] at this
  range k a ha := by
    by_cases hk : k = next
    · exact hk ▸ h.ordered.next_lt
    · rw [Function.update_of_ne hk] at ha
      exact h.range k a ha
  sound k a ha := by
    by_cases hk : k = next
    · subst hk
      rw [Function.update_self] at ha
      cases ha
    · rw [Function.update_of_ne hk] at ha
      exact h.sound k a ha

end Kept

/-! ## The invariant -/

/-- What the block being written is to the blocks stored. -/
structure Writing (cfg : Config) (v : View cfg) (call : PersistCall) : Prop where
  slot : call.slot = v.nextSlot
  journalSeq : call.block.journalSeq = v.journalSeq
  after : ∀ k a, v.stored k = .some a → Before a call.block
  sound : Sound call.block
  lastCopied : call.lastCopiedSeq.toNat = call.block.last
  valid : readBlock cfg call.slot call.block.encode = .some call.block

/-- The stored blocks are in rotation; while the settings load, the state is
that of the blocks delivered; then it follows the stored blocks. -/
structure Consistent (cfg : Config) (tr : List Obs) (v : View cfg) : Prop where
  kept : ∃ next, Kept cfg v.stored next
  loading : v.ready = false →
    (∀ k, v.restored k = if k ∈ v.delivered then v.stored k else .none) ∧
      Tip cfg.journalSlots v.restored v.nextSlot v.persistedEventSeq.toNat v.journalSeq
  running : v.ready = true → v.restored = v.stored ∧
    ∃ seq, seq ≤ v.journalSeq ∧ (Untried tr → seq = v.journalSeq) ∧
      Tip cfg.journalSlots v.stored v.nextSlot v.persistedEventSeq.toNat seq
  inflight : ∀ call, v.inflight = .some call → Writing cfg v call

namespace Consistent

variable {v v' : View cfg} {tr obs : List Obs}

theorem sound (h : Consistent cfg tr v) (k : Nat) (b : TotemDiagBlock) (hb : v.stored k = .some b) :
    Sound b := by
  obtain ⟨next, hk⟩ := h.kept
  exact hk.sound k b hb

/-- Once the journal is ready, `next_slot` is the slot the rotation writes
next. -/
theorem kept_nextSlot (h : Consistent cfg tr v) (hr : v.ready = true) : Kept cfg v.stored v.nextSlot := by
  obtain ⟨next, hk⟩ := h.kept
  obtain ⟨-, seq, -, -, htip⟩ := h.running hr
  obtain ⟨tl, seq', htip'⟩ := hk.tip
  rw [(htip.unique htip').1]
  exact hk

theorem boot₀ {stored : Nat → Option TotemDiagBlock} (h : ∃ next, Kept cfg stored next) :
    Consistent cfg (.boot :: tr) (.boot₀ cfg stored) where
  kept := h
  loading _ := ⟨by simp [View.boot₀], .none fun _ => rfl⟩
  running hr := by simp [View.boot₀] at hr
  inflight call hc := by simp [View.boot₀] at hc

theorem restore (h : Consistent cfg tr v) {slot : Nat} {b : TotemDiagBlock} (hr : v.ready = false)
    (hi : v.inflight = .none) (hb : v.stored slot = .some b) (hd : slot ∉ v.delivered) :
    Consistent cfg tr (v.restore slot b) := by
  obtain ⟨hrest, htip⟩ := h.loading hr
  obtain ⟨next, hk⟩ := h.kept
  have hnone : v.restored slot = .none := by rw [hrest, if_neg hd]
  have hstored : ∀ k a, v.restored k = .some a → v.stored k = .some a := fun k a ha => by
    rw [hrest] at ha
    split at ha
    · exact ha
    · cases ha
  have hsb := h.sound slot b hb
  have hlast : (v.restore slot b).persistedEventSeq.toNat =
      if v.persistedEventSeq.toNat < b.last then b.last else v.persistedEventSeq.toNat := by
    simp only [View.restore, UInt32.lt_iff_toNat_lt, hsb.lastEventSeq]
    split
    · exact hsb.lastEventSeq
    · rfl
  refine ⟨h.kept, fun _ => ⟨fun k => ?_, ?_⟩, fun hr' => ?_, fun call hc => ?_⟩
  · simp only [View.restore]
    by_cases hks : k = slot
    · subst hks
      simp [hb]
    · simp [hks, hrest]
  · rw [hlast]
    refine htip.restore hnone hsb (fun k a ha => h.sound k a (hstored k a ha)) fun k a ha => ?_
    have hne : k ≠ slot := fun he => by rw [he, hnone] at ha; cases ha
    exact hk.compare (hstored k a ha) hb hne
  · simp [View.restore, hr] at hr'
  · simp [View.restore, hi] at hc

theorem form (h : Consistent cfg tr v) {call : PersistCall} (hr : v.ready = true)
    (hslot : call.slot = v.nextSlot) (hseq : call.block.journalSeq = v.journalSeq + 1)
    (hok : 0 < call.block.count.toNat → BlockOK cfg call.slot call.block)
    (hc : Counts v.ring.count v.ringSeq v.persistedEventSeq)
    (hf : Formed cfg v.ring v.ringSeq v.persistedEventSeq call)
    (hwrap : call.block.journalSeq ≠ 0) (t : Int) :
    Consistent cfg (.formed call.block t :: tr)
      { v with journalSeq := v.journalSeq + 1, inflight := .some call } := by
  obtain ⟨hrest, seq, hle, -, htip⟩ := h.running hr
  have hnext : (v.journalSeq + 1).toNat = v.journalSeq.toNat + 1 := by
    have hne : (v.journalSeq + 1).toNat ≠ 0 := fun h0 =>
      hwrap (by rw [hseq]; exact UInt32.toNat.inj h0)
    have := v.journalSeq.toNat_lt
    simp only [UInt32.toNat_add, UInt32.reduceToNat] at hne ⊢
    omega
  have hlt : v.journalSeq < v.journalSeq + 1 := by
    rw [UInt32.lt_iff_toNat_lt, hnext]
    omega
  refine ⟨h.kept, fun hr' => ?_, fun _ => ⟨hrest, seq, ?_, False.elim, htip⟩, fun c hc' => ?_⟩
  · simp [hr] at hr'
  · exact UInt32.le_trans hle (UInt32.le_of_lt hlt)
  · cases hc'
    refine ⟨hslot, hseq, fun k a ha => ?_, ⟨?_, hf.first_le_last, ?_⟩, hf.last_eq,
      readBlock_encode (hok hf.count_pos)⟩
    · obtain ⟨haseq, halast⟩ := htip.le h.sound ha
      have := hf.persisted_lt
      refine ⟨?_, by omega⟩
      rw [hseq]
      exact UInt32.lt_of_le_of_lt (UInt32.le_trans haseq hle) hlt
    · have := hf.persisted_lt
      omega
    · have := hf.last_le
      have := hf.count_pos
      have := hc.lt
      simp only [TotemDiagBlock.last, TotemDiagBlock.first, TotemDiagBlock.lastEventSeq,
        UInt32.toNat_sub, UInt32.toNat_add, UInt8.toNat_toUInt32, UInt32.reduceToNat] at *
      omega

theorem save (h : Consistent cfg tr v) {call : PersistCall} (hr : v.ready = true)
    (hi : v.inflight = .some call) (t : Int) :
    Consistent cfg (.saved call.block true t :: tr) { v with
        inflight := .none
        persistedEventSeq := call.lastCopiedSeq
        nextSlot := (call.slot + 1) % cfg.journalSlots
        restored := Function.update v.restored call.slot (.some call.block)
        stored :=
          Function.update v.stored call.slot (readBlock cfg call.slot call.block.encode) } := by
  have hw := h.inflight call hi
  have hk := (h.kept_nextSlot hr).write hw.sound hw.after
  rw [← hw.slot] at hk
  refine ⟨⟨_, by rw [hw.valid]; exact hk⟩, fun hr' => ?_, fun _ => ⟨?_, ?_⟩, by simp⟩
  · simp [hr] at hr'
  · rw [(h.running hr).1, hw.valid]
  · refine ⟨call.block.journalSeq, by rw [hw.journalSeq]; exact UInt32.le_refl _,
      fun _ => hw.journalSeq, ?_⟩
    simp only [hw.valid, hw.lastCopied]
    refine .newest call.slot call.block (Function.update_self ..) fun k b hb => ?_
    by_cases hks : k = call.slot
    · exact .inl hks
    · rw [Function.update_of_ne hks] at hb
      exact .inr (hw.after k b hb)

theorem reboot (h : Consistent cfg tr v) (hin : v.InRange) {stored : Nat → Option TotemDiagBlock}
    (hl : v.Left stored) : Consistent cfg (.boot :: tr) (.boot₀ cfg stored) := by
  refine boot₀ ?_
  cases hl with
  | old => exact h.kept
  | @new call hi =>
    have hw := h.inflight call hi
    have hk := (h.kept_nextSlot (hin.inflight call hi).2).write hw.sound hw.after
    rw [← hw.slot] at hk
    exact ⟨_, by rw [hw.valid]; exact hk⟩
  | @torn call hi =>
    have hw := h.inflight call hi
    have hk := (h.kept_nextSlot (hin.inflight call hi).2).erase
    rw [← hw.slot] at hk
    exact ⟨_, hk⟩

theorem load (h : Consistent cfg tr v) (hr : v.ready = false) (hi : v.inflight = .none)
    (hd : ∀ slot, (v.stored slot).isSome → slot ∈ v.delivered) {t : Nat} :
    Consistent cfg (.ready t :: tr)
      { v with ringSeq := v.persistedEventSeq + UInt32.ofNat v.ring.count, ready := true } := by
  obtain ⟨hrest, htip⟩ := h.loading hr
  have heq : v.restored = v.stored := funext fun k => by
    rw [hrest]
    split
    · rfl
    · rename_i hk
      exact (Option.not_isSome_iff_eq_none.mp fun hs => hk (hd k hs)).symm
  refine ⟨h.kept, by simp, fun _ => ⟨heq, v.journalSeq, UInt32.le_refl _, fun _ => rfl, ?_⟩, ?_⟩
  · rw [heq] at htip
    exact htip
  · simp [hi]

theorem congr (h : Consistent cfg tr v) {tr' : List Obs} (hu : Untried tr' → Untried tr)
    (hr : v'.restored = v.restored) (hs : v'.stored = v.stored) (hn : v'.nextSlot = v.nextSlot)
    (hp : v'.persistedEventSeq = v.persistedEventSeq) (hj : v'.journalSeq = v.journalSeq)
    (hy : v'.ready = v.ready) (hd : v'.delivered = v.delivered)
    (hi : ∀ call, v'.inflight = .some call → v.inflight = .some call) : Consistent cfg tr' v' where
  kept := by rw [hs]; exact h.kept
  loading := by rw [hy, hr, hd, hs, hn, hp, hj]; exact h.loading
  running := by
    rw [hy, hr, hs, hn, hp, hj]
    intro hready
    obtain ⟨heq, seq, hle, huntried, htip⟩ := h.running hready
    exact ⟨heq, seq, hle, fun hu' => huntried (hu hu'), htip⟩
  inflight call hc := by
    have hw := h.inflight call (hi call hc)
    exact ⟨by rw [hn]; exact hw.slot, by rw [hj]; exact hw.journalSeq, by rw [hs]; exact hw.after,
      hw.sound, hw.lastCopied, hw.valid⟩

/-- **Every step keeps the invariant.** -/
theorem step (h : Consistent cfg tr v) (hinv : Inv cfg tr v) (hin : v.InRange)
    (hw : NoWrap cfg (obs ++ tr)) (hs : View.Step v obs v') : Consistent cfg (obs ++ tr) v' := by
  cases hs with
  | quiet => exact h
  | loaded t => exact h.congr id rfl rfl rfl rfl rfl rfl rfl fun _ hc => hc
  | record e p t => exact h.congr id rfl rfl rfl rfl rfl rfl rfl fun _ hc => hc
  | reject slot hr hn hd =>
    obtain ⟨hrest, htip⟩ := h.loading hr
    refine ⟨h.kept, fun _ => ⟨fun k => ?_, htip⟩, h.running, fun c hc => ?_⟩
    · by_cases hk : k = slot
      · subst hk
        simp [hrest, hn]
      · simp [hrest, hk]
    · have := (hinv.numbered.idle hr).2
      simp [this] at hc
  | restore slot b hr hb hd => exact h.restore hr (hinv.numbered.idle hr).2 hb hd
  | load hr hd => exact h.load hr (hinv.numbered.idle hr).2 hd
  | form call t hr hi hslot hseq hok hf =>
    have hc := hinv.numbered.counts (hinv.journaled hr hw.1) hr hw.1
    exact h.form hr hslot hseq hok hc (hf hc) hw.2.1 t
  | fail call t hi => exact h.congr id rfl rfl rfl rfl rfl rfl rfl (by simp)
  | save call t hi => exact h.save (hin.inflight call hi).2 hi t
  | reboot hl => exact h.reboot hin hl

end Consistent

/-- **The invariant holds along every run** from flash without a valid block. -/
theorem View.Reach.consistent {stored : Nat → Option TotemDiagBlock} {tr : List Obs} {v : View cfg}
    (h : View.Reach cfg stored tr v) (hempty : ∀ slot, stored slot = .none) (hw : NoWrap cfg tr) :
    Consistent cfg tr v := by
  induction h with
  | boot => exact .boot₀ ⟨0, .nil hempty⟩
  | step hreach hs ih => exact (ih hw.of_append).step hreach.inv hreach.inRange hw hs

/-! ## The theorem -/

/-- The newest of the stored blocks is the one with the largest `journal_seq`:
the next slot, the saved tail and the newest `journal_seq` are as it says. -/
structure FollowsNewest (cfg : Config) (stored : Nat → Option TotemDiagBlock) (next tl : Nat)
    (seq : UInt32) : Prop where
  none : (∀ k, stored k = .none) → next = 0 ∧ tl = 0 ∧ seq = 0
  newest : ∀ k b, stored k = .some b →
    (∀ k' b', stored k' = .some b' → b'.journalSeq ≤ b.journalSeq) →
      next = (k + 1) % cfg.journalSlots ∧ tl = b.last ∧ seq = b.journalSeq

/-- A reboot, and the boot that follows it as long as it saves nothing, once
it has loaded the settings. -/
structure Reload {cfg : Config} (s : Sys cfg) (tr : List Obs) (s' : Sys cfg) : Prop where
  run : ∃ s₁, Step s [.boot] s₁ ∧ Steps s₁ tr s'
  boot : .boot ∉ tr
  formed : ∀ b t, .formed b t ∉ tr
  ready : s'.j.journalReady = true

/-- Reboot and crash consistency of one state of the keyboard. -/
structure RebootConsistent (cfg : Config) (tr : List Obs) (s : Sys cfg) : Prop where
  /-- Once the settings are loaded, and until a save is tried. -/
  loaded : s.j.journalReady = true → Untried tr → s.j.restored = s.flash.stored cfg ∧
    FollowsNewest cfg (s.flash.stored cfg) s.j.nextSlot s.j.persistedEventSeq.toNat s.j.journalSeq
  /-- A reboot outside a save. -/
  reloaded : s.j.journalReady = true → s.inflight = .none → ∀ tr' s', Reload s tr' s' →
    s'.j.nextSlot = s.j.nextSlot ∧ s'.j.persistedEventSeq = s.j.persistedEventSeq ∧
      s'.j.restored = s.j.restored
  /-- A save leaves every other slot alone. -/
  others : ∀ obs s', Step s obs s' → ∀ k,
    (∀ call byHandler, s.inflight = .some (call, byHandler) → k ≠ call.slot) → s'.flash k = s.flash k
  /-- It goes to a slot without a valid block while there is one. -/
  unused : ∀ call byHandler, s.inflight = .some (call, byHandler) → ∀ k < cfg.journalSlots,
    s.flash.stored cfg k = .none → s.flash.stored cfg call.slot = .none
  /-- And else to that of the oldest block. -/
  oldest : ∀ call byHandler, s.inflight = .some (call, byHandler) → ∀ a,
    s.flash.stored cfg call.slot = .some a → ∀ k b, s.flash.stored cfg k = .some b →
      k = call.slot ∨ (a.journalSeq < b.journalSeq ∧ a.last < b.first)

section

variable {s s' : Sys cfg} {obs tr : List Obs} {flash : Flash}

theorem Tip.followsNewest {stored : Nat → Option TotemDiagBlock} {next tl : Nat} {seq : UInt32}
    (h : Tip cfg.journalSlots stored next tl seq) : FollowsNewest cfg stored next tl seq := by
  cases h with
  | none h => exact ⟨fun _ => ⟨rfl, rfl, rfl⟩, fun k b hb => by rw [h] at hb; cases hb⟩
  | newest k b hb hmax =>
    refine ⟨fun h => absurd hb (by simp [h]), fun k' b' hb' hle => ?_⟩
    rcases hmax k' b' hb' with rfl | hlt
    · rw [hb] at hb'
      cases hb'
      exact ⟨rfl, rfl, rfl⟩
    · exact absurd (hle k b hb) (UInt32.not_le.mpr hlt.journalSeq)

theorem Step.flash_eq (hs : Step s obs s') {k : Nat}
    (hk : ∀ call byHandler, s.inflight = .some (call, byHandler) → k ≠ call.slot) :
    s'.flash k = s.flash k := by
  cases hs with
  | persistEnd counterErr err hi =>
    show (if err = 0 then Function.update s.flash _ _ else s.flash) k = s.flash k
    split
    · exact Function.update_of_ne (hk _ _ hi) ..
    · rfl
  | reboot bd hb hf =>
    cases hf with
    | old => rfl
    | new hi => exact Function.update_of_ne (hk _ _ hi) ..
    | torn hi bytes hbad => exact Function.update_of_ne (hk _ _ hi) ..
  | _ => rfl

/-- Without a save in progress it takes a block to be formed for one. -/
theorem Step.inflight_none (hs : Step s obs s') (hi : s.inflight = .none)
    (hf : ∀ b t, .formed b t ∉ obs) : s'.inflight = .none := by
  cases hs with
  | persistForm byHandler _ hh hform => exact absurd List.mem_cons_self (hf _ _)
  | persistEnd counterErr err hi' => rfl
  | reboot bd hb hl => rfl
  | _ => exact hi

theorem Steps.flash_eq {tr' : List Obs} (h : Steps s tr' s') (hi : s.inflight = .none)
    (hf : ∀ b t, .formed b t ∉ tr') : s'.flash = s.flash ∧ s'.inflight = .none := by
  induction h with
  | refl => exact ⟨rfl, hi⟩
  | step _ hs ih =>
    obtain ⟨hflash, hnone⟩ := ih fun b t hm => hf b t (List.mem_append_right _ hm)
    refine ⟨?_, hs.inflight_none hnone fun b t hm => hf b t (List.mem_append_left _ hm)⟩
    rw [← hflash]
    exact funext fun k => hs.flash_eq (by simp [hnone])

theorem NoWrap.append {tr' : List Obs} (h : NoWrap cfg tr) (hf : ∀ b t, .formed b t ∉ tr') :
    NoWrap cfg (tr' ++ tr) := by
  induction tr' with
  | nil => exact h
  | cons o tr' ih =>
    have ih := ih fun b t hm => hf b t (List.mem_cons_of_mem _ hm)
    cases o with
    | formed b t => exact absurd List.mem_cons_self (hf b t)
    | _ => exact ih

theorem reload_same (hempty : ∀ slot, flash.stored cfg slot = .none) (h : Reach cfg flash tr s)
    (hw : NoWrap cfg tr) (hr : s.j.journalReady = true) (hi : s.inflight = .none) {tr' : List Obs}
    (hl : Reload s tr' s') : s'.j.nextSlot = s.j.nextSlot ∧
      s'.j.persistedEventSeq = s.j.persistedEventSeq ∧ s'.j.restored = s.j.restored := by
  obtain ⟨s₁, hboot, hrun⟩ := hl.run
  have hreach := (h.step hboot).steps hrun
  have hw' : NoWrap cfg (tr' ++ ([.boot] ++ tr)) := NoWrap.append hw hl.formed
  have hflash₁ : s₁.flash = s.flash := funext fun k => hboot.flash_eq (by simp [hi])
  have hinfl₁ : s₁.inflight = .none := hboot.inflight_none hi (by simp)
  have hflash : s'.flash = s.flash := (hrun.flash_eq hinfl₁ hl.formed).1.trans hflash₁
  obtain ⟨heq, seq, -, -, htip⟩ := (h.view.consistent hempty hw).running hr
  obtain ⟨heq', seq', -, -, htip'⟩ := (hreach.view.consistent hempty hw').running hl.ready
  have hstored : s'.view.stored = s.view.stored := congrArg (Flash.stored cfg) hflash
  rw [hstored] at htip' heq'
  obtain ⟨hnext, htl, -⟩ := htip'.unique htip
  exact ⟨hnext, UInt32.toNat.inj htl, heq'.trans heq.symm⟩

/-- **Reboot and crash consistency of the rotating journal.** In every run
over any number of boots, from flash without a valid block, with reboots at any
moment and as long as no counter wraps: what a load finds is what is stored,
whatever the order it is delivered in; a reload outside a save restores the
state before it; and a save touches one slot, an unused one while there is
one and else the oldest block's. -/
theorem reboot_consistent (hempty : ∀ slot, flash.stored cfg slot = .none) (h : Reach cfg flash tr s)
    (hw : NoWrap cfg tr) : RebootConsistent cfg tr s := by
  have hc := h.view.consistent hempty hw
  have hin := h.view.inRange
  refine ⟨fun hr hu => ?_, fun hr hi tr' s' hl => reload_same hempty h hw hr hi hl,
    fun obs s' hs k hk => hs.flash_eq hk, fun call byHandler hi k hk hnone => ?_,
    fun call byHandler hi a ha k b hb => ?_⟩
  · obtain ⟨heq, seq, -, huntried, htip⟩ := hc.running hr
    refine ⟨heq, Tip.followsNewest ?_⟩
    rw [huntried hu] at htip
    exact htip
  · have hvi : s.view.inflight = .some call := by simp [Sys.view, hi]
    have hkept := hc.kept_nextSlot (hin.inflight call hvi).2
    have hslot := (hc.inflight call hvi).slot
    by_contra hsome
    obtain ⟨a, ha⟩ := Option.ne_none_iff_exists'.mp hsome
    rw [hslot] at ha
    by_cases hne : k = s.view.nextSlot
    · subst hne
      have : s.view.stored s.view.nextSlot = .none := hnone
      rw [show s.view.stored s.view.nextSlot = .some a from ha] at this
      cases this
    · obtain ⟨b, hb, -⟩ := hkept.ordered.oldest ha hk hne
      have : s.view.stored k = .none := hnone
      rw [hb] at this
      cases this
  · have hvi : s.view.inflight = .some call := by simp [Sys.view, hi]
    have hkept := hc.kept_nextSlot (hin.inflight call hvi).2
    have hslot := (hc.inflight call hvi).slot
    by_cases hne : k = call.slot
    · exact .inl hne
    · rw [hslot] at ha hne
      obtain ⟨b', hb', hbefore⟩ := hkept.ordered.oldest ha (hkept.range k b hb) hne
      have : s.view.stored k = .some b := hb
      rw [hb'] at this
      cases this
      exact .inr ⟨hbefore.journalSeq, hbefore.last⟩

end

/-! ## A reload -/

theorem Step.deliver {s : Sys cfg} {slot : Nat} {bytes : List UInt8}
    (hr : s.j.journalReady = false) (hs : slot < cfg.journalSlots)
    (hf : s.flash slot = .some bytes) (hd : slot ∉ s.delivered) :
    ∃ s', Step s [] s' ∧ s'.j.journalReady = false ∧ s'.flash = s.flash ∧
      s'.delivered = slot :: s.delivered ∧
      ∀ b, readBlock cfg slot bytes = .some b → s'.view = s.view.restore slot b := by
  refine ⟨_, .settingsSet slot bytes hr (hs.trans_le cfg.journalSlots_le) hf hd,
    (s.j.settingsSetStored_work slot bytes).2.2.trans hr, rfl, rfl, fun b hb => ?_⟩
  exact Sys.view_restore (settingsSetStored_valid hs hb) rfl rfl rfl

theorem Steps.deliver (order : List Nat) {s : Sys cfg} (hr : s.j.journalReady = false)
    (hnd : order.Nodup) (hfresh : ∀ slot ∈ order, slot ∉ s.delivered)
    (hs : ∀ slot ∈ order, slot < cfg.journalSlots ∧ (s.flash slot).isSome) :
    ∃ s', Steps s [] s' ∧ s'.j.journalReady = false ∧ s'.flash = s.flash ∧
      ∀ slot, slot ∈ order ∨ slot ∈ s.delivered → slot ∈ s'.delivered := by
  induction order generalizing s with
  | nil => exact ⟨s, .refl s, hr, rfl, fun slot h => h.resolve_left List.not_mem_nil⟩
  | cons slot order ih =>
    rw [List.nodup_cons] at hnd
    rw [List.forall_mem_cons] at hfresh hs
    obtain ⟨bytes, hf⟩ := Option.isSome_iff_exists.mp hs.1.2
    obtain ⟨s₁, h₁, hr₁, hf₁, hd₁, -⟩ := Step.deliver hr hs.1.1 hf hfresh.1
    obtain ⟨s₂, h₂, hr₂, hf₂, hd₂⟩ := ih hr₁ hnd.2
      (fun k hk => by
        rw [hd₁, List.mem_cons, not_or]
        exact ⟨fun he => hnd.1 (he ▸ hk), hfresh.2 k hk⟩)
      (by rw [hf₁]; exact hs.2)
    refine ⟨s₂, h₁.steps.trans h₂, hr₂, hf₂.trans hf₁, fun k hk => hd₂ k ?_⟩
    rw [hd₁, List.mem_cons]
    rcases hk with hk | hk
    · rcases List.mem_cons.mp hk with rfl | hk
      · exact .inr (.inl rfl)
      · exact .inl hk
    · exact .inr (.inr hk)

/-- A reboot can deliver the stored slots in any order. -/
theorem exists_reload (order : List Nat) (s : Sys cfg) (hnd : order.Nodup)
    (hs : ∀ slot ∈ order, slot < cfg.journalSlots ∧ (s.flash slot).isSome)
    (hall : ∀ slot < 10, (s.flash slot).isSome → slot ∈ order) : ∃ n s', Reload s [.ready n] s' := by
  have hboot : Step s [.boot] (.boot₀ cfg s.flash bareBoot) := .reboot bareBoot ⟨rfl, rfl⟩ .old
  obtain ⟨s₁, hdelivered, hr, hf, hd⟩ := Steps.deliver order
    (show (Sys.boot₀ cfg s.flash bareBoot).j.journalReady = false from rfl) hnd
    (fun _ _ => List.not_mem_nil) hs
  have hload := Step.load hr fun slot hlt hsome =>
    hd slot (.inl (hall slot hlt (by rwa [hf] at hsome)))
  refine ⟨_, _, ⟨_, hboot, hdelivered.step hload⟩, by simp, by simp, ?_⟩
  show s₁.j.zmkSettingsLoaded.journalReady = true
  rw [HostEventLog.zmkSettingsLoaded_eq hr]

/-- One more event, and time for a save. -/
def Sys.nextEvent (s : Sys cfg) : Sys cfg :=
  ({ s with j := s.j.totemHostEventLogRecordTiming s.now .zero } : Sys cfg).wait

theorem Reach.saveNext {flash : Flash} {tr : List Obs} {s : Sys cfg} (h : Reach cfg flash tr s)
    (hr : s.j.journalReady = true) (hi : s.inflight = .none)
    (hn : ¬ s.nextEvent.j.ringSeq < s.nextEvent.j.firstNew) :
    Reach cfg flash
      (.saved s.nextEvent.j.persistBlock true s.nextEvent.now ::
        .formed s.nextEvent.j.persistBlock s.nextEvent.now :: .recorded .zero false s.now :: tr)
      (s.nextEvent.persistNow 0) :=
  (h.step (.recordTiming .zero)).wait.persistNow hr hi (Sys.wait_not_soon _) hn 0

/-- Four slots are full, and the first of them is written again. -/
def fiveBlocks : Sys smallConfig :=
  let s := (loadedSys smallConfig).persistNow 0
  let s := s.nextEvent.persistNow 0
  let s := s.nextEvent.persistNow 0
  let s := s.nextEvent.persistNow 0
  s.nextEvent.persistNow 0

theorem reach_fiveBlocks : ∃ tr, Reach smallConfig emptyFlash tr fiveBlocks ∧
    NoWrap smallConfig tr ∧ (written smallConfig tr).length = 5 := by
  have hfull := (reach_loadedSys smallConfig).persistNow rfl rfl (by decide) (by decide) 0
    |>.saveNext rfl rfl (by decide) |>.saveNext rfl rfl (by decide)
    |>.saveNext rfl rfl (by decide) |>.saveNext rfl rfl (by decide)
  refine ⟨_, hfull, ?_, by decide⟩
  exact ⟨by decide, by decide, by decide, by decide, by decide, by decide, by decide, by decide,
    by decide, by decide, trivial⟩

/-- A reboot then delivers the slots in an order of its own. -/
theorem reboot_consistent_savedTrace :
    ∃ tr s, Reach smallConfig emptyFlash tr s ∧ (written smallConfig tr).length = 5 ∧
      ∃ n s', Reload s [.ready n] s' ∧ s'.j.nextSlot = 1 ∧ s'.j.persistedEventSeq = 9 ∧
        s'.j.restored = s.j.restored ∧
        RebootConsistent smallConfig ([.ready n] ++ ([.boot] ++ tr)) s' := by
  have hempty : ∀ slot, Flash.stored smallConfig emptyFlash slot = .none := fun slot => by
    simp [Flash.stored, Flash.block, emptyFlash]
  obtain ⟨tr, h, hw, hwritten⟩ := reach_fiveBlocks
  obtain ⟨n, s', hreload⟩ := exists_reload [2, 0, 3, 1] fiveBlocks (by decide) (by decide)
    (by decide)
  obtain ⟨hnext, hpersisted, hrestored⟩ :=
    (reboot_consistent hempty h hw).reloaded rfl rfl _ _ hreload
  obtain ⟨s₁, hboot, hrun⟩ := hreload.run
  have hafter := reboot_consistent hempty ((h.step hboot).steps hrun)
    (NoWrap.append (show NoWrap smallConfig ([.boot] ++ tr) from hw) hreload.formed)
  exact ⟨tr, fiveBlocks, h, hwritten, n, s', hreload, hnext.trans (by decide),
    hpersisted.trans (by decide), hrestored, hafter⟩

/-! ## The last `journal_seq`

A run on empty flash that fails to save until `journal_seq` wraps. -/

theorem HostEventLog.Same.firstNew {j j' : HostEventLog cfg} (h : j.Same j') :
    j'.firstNew = j.firstNew := by
  unfold HostEventLog.firstNew HostEventLog.firstAvailable
  rw [h.ring, h.ringSeq, h.persistedEventSeq]

/-- Saves may fail any number of times, and each takes a `journal_seq`. -/
theorem Reach.failing {flash : Flash} {tr : List Obs} {s : Sys cfg} (h : Reach cfg flash tr s)
    (hr : s.j.journalReady = true) (hi : s.inflight = .none) (hn : ¬ s.j.ringSeq < s.j.firstNew)
    (n : Nat) : ∃ tr' s', Reach cfg flash tr' s' ∧ s'.inflight = .none ∧ s'.flash = s.flash ∧
      HostEventLog.Same { s.j with journalSeq := s.j.journalSeq + UInt32.ofNat n } s'.j := by
  induction n with
  | zero => exact ⟨tr, s, h, hi, rfl, by simpa using .refl s.j⟩
  | succ n ih =>
    obtain ⟨tr', s', h', hi', hf', hsame⟩ := ih
    have hwait := s'.same_wait
    have hfail := h'.wait.persistNow (hwait.journalReady.trans (hsame.journalReady.trans hr)) hi'
      s'.wait_not_soon (by
        rw [hwait.firstNew, hsame.firstNew, hwait.ringSeq, hsame.ringSeq]
        exact hn) (-5)
    have herr := s'.wait.same_persistNow_err (by decide : (-5 : Int) ≠ 0)
    refine ⟨_, _, hfail, rfl, hf', herr.ring.trans hsame.ring, herr.ringSeq.trans hsame.ringSeq,
      herr.persistedEventSeq.trans hsame.persistedEventSeq, ?_,
      herr.nextSlot.trans hsame.nextSlot, herr.journalReady.trans hsame.journalReady,
      herr.restored.trans hsame.restored⟩
    refine herr.journalSeq.trans ?_
    simp only [hwait.journalSeq, hsame.journalSeq, UInt32.ofNat_add, UInt32.add_assoc]
    rfl

/-- One block is saved, and one more event waits. -/
def firstBlockSys : Sys smallConfig :=
  let s := (loadedSys smallConfig).persistNow 0
  { s with j := s.j.totemHostEventLogRecordTiming s.now .zero }

theorem reach_firstBlockSys : ∃ tr, Reach smallConfig emptyFlash tr firstBlockSys :=
  ⟨_, ((reach_loadedSys smallConfig).persistNow rfl rfl (by decide) (by decide) 0).step
    (.recordTiming .zero)⟩

/-- The block of `firstBlockSys`. -/
def firstBlock : TotemDiagBlock := (loadedSys smallConfig).j.persistBlock

theorem readBlock_firstBlock : readBlock smallConfig 0 firstBlock.encode = .some firstBlock :=
  readBlock_encode (HostEventLog.blockOK_persistBlock (j := (loadedSys smallConfig).j) (by decide)
    (by decide))

theorem reach_wrapped : ∃ tr s b, Reach smallConfig emptyFlash tr s ∧ s.j.journalReady = true ∧
    s.inflight = .none ∧ s.j.nextSlot = 2 ∧ b.journalSeq = 0 ∧ b.firstEventSeq = 6 ∧ b.count = 1 ∧
    readBlock smallConfig 1 b.encode = .some b ∧
    s.flash = Function.update (Function.update emptyFlash 0 (.some firstBlock.encode)) 1
      (.some b.encode) := by
  obtain ⟨tr, h⟩ := reach_firstBlockSys
  obtain ⟨n, hn⟩ : ∃ n, 1 + UInt32.ofNat n = 0xFFFFFFFF := ⟨4294967294, by decide⟩
  have hnew : ¬ firstBlockSys.j.ringSeq < firstBlockSys.j.firstNew := by decide
  obtain ⟨tr', s, h', hi, hflash, hsame⟩ := h.failing rfl rfl hnew n
  have hsame' : HostEventLog.Same { firstBlockSys.j with journalSeq := 0xFFFFFFFF } s.wait.j := by
    have hwait := s.same_wait
    refine ⟨hwait.ring.trans hsame.ring, hwait.ringSeq.trans hsame.ringSeq,
      hwait.persistedEventSeq.trans hsame.persistedEventSeq, ?_,
      hwait.nextSlot.trans hsame.nextSlot, hwait.journalReady.trans hsame.journalReady,
      hwait.restored.trans hsame.restored⟩
    rw [hwait.journalSeq, hsame.journalSeq]
    exact hn
  have hnew' : ¬ s.wait.j.ringSeq < s.wait.j.firstNew := by
    rw [hsame'.firstNew, hsame'.ringSeq]
    exact hnew
  have hsave := h'.wait.persistNow (hsame'.journalReady.trans rfl) hi s.wait_not_soon hnew' 0
  have hok := HostEventLog.same_persistFinish_ok
    { s.wait.j with journalSeq := s.wait.j.journalSeq + 1, persistRequested := false } s.wait.now
    ⟨s.wait.j.persistBlock, s.wait.j.nextSlot,
      s.wait.j.firstNew + UInt32.ofNat s.wait.j.blockCount - 1⟩
  have hnext : s.wait.j.nextSlot = 1 := hsame'.nextSlot
  have hfirst : s.wait.j.firstNew = 6 := hsame'.firstNew
  have hcount : s.wait.j.blockCount = 1 := by
    unfold HostEventLog.blockCount
    rw [hsame'.firstNew, hsame'.ringSeq]
    rfl
  refine ⟨_, _, s.wait.j.persistBlock, hsave, hok.journalReady.trans hsame'.journalReady, rfl, ?_, ?_,
    hfirst, by rw [HostEventLog.persistBlock, hcount]; rfl, ?_, ?_⟩
  · refine hok.nextSlot.trans ?_
    rw [hnext]
    rfl
  · show s.wait.j.journalSeq + 1 = 0
    rw [hsame'.journalSeq]
    rfl
  · rw [← hnext]
    refine readBlock_encode (HostEventLog.blockOK_persistBlock (by rw [hnext]; decide) ?_)
    rw [hcount]
    decide
  · show Function.update s.flash s.wait.j.nextSlot _ = _
    rw [hnext, hflash]
    rfl

theorem deliver_wrapped {s : Sys smallConfig} {b : TotemDiagBlock} (hseq : b.journalSeq = 0)
    (hlast : b.lastEventSeq = 6) (hread : readBlock smallConfig 1 b.encode = .some b)
    (hflash : s.flash = Function.update (Function.update emptyFlash 0 (.some firstBlock.encode)) 1
      (.some b.encode)) : ∃ s₁ s₃, Step s [.boot] s₁ ∧ Steps s₁ [] s₃ ∧
      s₃.j.journalReady = false ∧ s₃.flash = s.flash ∧ s₃.delivered = [1, 0] ∧
      s₃.view.nextSlot = 1 ∧ s₃.view.persistedEventSeq = 6 ∧
      s₃.view.restored 0 = .some firstBlock ∧ s₃.view.restored 1 = .some b := by
  have hf₀ : s.flash 0 = .some firstBlock.encode := by simp [hflash]
  have hf₁ : s.flash 1 = .some b.encode := by simp [hflash]
  let s₁ : Sys smallConfig := .boot₀ smallConfig s.flash bareBoot
  have h₁ : Step s [.boot] s₁ := .reboot bareBoot ⟨rfl, rfl⟩ .old
  -- The older block first; the wrapped number of the newer one does not count as newer.
  obtain ⟨s₂, h₂, hr₂, hf₂, hd₂, hv₂⟩ :=
    Step.deliver (s := s₁) rfl (by decide) hf₀ List.not_mem_nil
  obtain ⟨s₃, h₃, hr₃, hf₃, hd₃, hv₃⟩ :=
    Step.deliver hr₂ (by decide) ((congrFun hf₂ 1).trans hf₁) (by simp [hd₂, s₁, Sys.boot₀])
  have hv₂ := hv₂ firstBlock readBlock_firstBlock
  have hv₃ := hv₃ b hread
  refine ⟨s₁, s₃, h₁, ((Steps.refl s₁).step h₂).step h₃, hr₃, hf₃.trans hf₂,
    by rw [hd₃, hd₂]; rfl, ?_⟩
  have hq₂ : s₂.view.journalSeq = 1 := by rw [hv₂]; rfl
  have hn₂ : s₂.view.nextSlot = 1 := by rw [hv₂]; rfl
  have hp₂ : s₂.view.persistedEventSeq = 5 := by rw [hv₂]; rfl
  have hb₂ : s₂.view.restored 0 = .some firstBlock := by rw [hv₂]; rfl
  rw [hv₃, View.restore, hq₂, hseq, hn₂, hp₂, hlast]
  exact ⟨rfl, rfl, hb₂, rfl⟩

theorem reload_wrapped {s : Sys smallConfig} {b : TotemDiagBlock} (hseq : b.journalSeq = 0)
    (hlast : b.lastEventSeq = 6) (hread : readBlock smallConfig 1 b.encode = .some b)
    (hflash : s.flash = Function.update (Function.update emptyFlash 0 (.some firstBlock.encode)) 1
      (.some b.encode)) : ∃ tr s', Reload s tr s' ∧ s'.j.nextSlot = 1 ∧
      s'.j.restored 0 = .some firstBlock ∧ s'.j.restored 1 = .some b ∧
      ∀ tr₀, total smallConfig (tr ++ (.boot :: tr₀)) = 6 := by
  obtain ⟨s₁, s₃, h₁, hrun, hr₃, hf₃, hd₃, hn₃, hp₃, hb₃, hb₃'⟩ :=
    deliver_wrapped hseq hlast hread hflash
  have hload := Step.load hr₃ fun slot _ hs => by
    rw [hf₃, hflash] at hs
    rw [hd₃]
    by_cases h1 : slot = 1
    · simp [h1]
    · by_cases h0 : slot = 0
      · simp [h0]
      · simp [h1, h0, emptyFlash] at hs
  have hready := HostEventLog.zmkSettingsLoaded_eq hr₃
  refine ⟨_, _, ⟨⟨s₁, h₁, hrun.step hload⟩, by simp, by simp, ?_⟩, ?_, ?_, ?_, ?_⟩
  · show s₃.j.zmkSettingsLoaded.journalReady = true
    rw [hready]
  · show s₃.j.zmkSettingsLoaded.nextSlot = 1
    rw [hready]
    exact hn₃
  · show s₃.j.zmkSettingsLoaded.restored 0 = _
    rw [hready]
    exact hb₃
  · show s₃.j.zmkSettingsLoaded.restored 1 = _
    rw [hready]
    exact hb₃'
  · intro tr₀
    show s₃.view.persistedEventSeq.toNat + 0 = 6
    rw [hp₃]
    rfl

/-- **When `journal_seq` wraps a reload goes wrong**: it finds the next slot
after the older of two blocks, where the newer one is. -/
theorem reload_misplaced : ¬ ∀ (cfg : Config) (flash : Flash) (tr : List Obs) (s : Sys cfg),
    (∀ slot, flash.stored cfg slot = .none) → Reach cfg flash tr s → RebootConsistent cfg tr s := by
  intro hall
  obtain ⟨tr, s, b, h, hr, hi, hnext, hseq, hfirst, hcount, hread, hflash⟩ := reach_wrapped
  have hc := hall smallConfig emptyFlash tr s
    (fun slot => by simp [Flash.stored, Flash.block, emptyFlash]) h
  have hlast : b.lastEventSeq = 6 := by
    rw [TotemDiagBlock.lastEventSeq, hfirst, hcount]
    rfl
  obtain ⟨tr', s', hreload, hnext', -⟩ := reload_wrapped hseq hlast hread hflash
  have hsame := (hc.reloaded hr hi tr' s' hreload).1
  rw [hnext, hnext'] at hsame
  exact absurd hsame (by decide)

end TotemZmk
