/-
The counts of `hid_report_diagnostics.c`, one critical section at a time:
`count_event` is called from any number of contexts between any two steps of
`flush_counts`, which visits the cells one by one.

* `hid_summary_loses_no_update`: at rest the journal has the newest count of
  each cell, each window with an error left one record of its last, and
  counting moves no flush later.
* `Diag.run_flushCounts`: the handler of the system work queue's model is such
  an interleaving.
-/
import TotemZmk.Journal.Timing
import TotemZmk.Lib.Run

namespace TotemZmk

open Zephyr (Work)
open Trace (Run)

/-- A profile and a stage. -/
abbrev Cell (profiles : Nat) := Fin profiles × Fin hidStageCount

/-- Where `flush_counts` is. -/
inductive Flushing (profiles : Nat) where
  /-- Not running. -/
  | off
  /-- About to take the lock for the first of the cells left. -/
  | visiting (cells : List (Cell profiles)) (changed : Bool)
  /-- A dirty cell has been copied, and the lock dropped. -/
  | copied (cell : Cell profiles) (count : HidCount) (cells : List (Cell profiles))
  /-- Its `HID_COUNT` is written, and it has an error. -/
  | erring (cell : Cell profiles) (count : HidCount) (cells : List (Cell profiles))
  /-- About to return. -/
  | returning
deriving DecidableEq, Repr

/-- The statics of the summary, and who is at work on them. -/
structure Summary (profiles : Nat) where
  counts : Cell profiles → HidCount
  summaryWork : Work
  flushing : Flushing profiles
  /-- Calls of `count_event` past their critical section that have yet to
  schedule the work. -/
  counting : Nat
  now : Int

namespace Summary

variable {profiles : Nat}

/-- What can be observed, and what a history must remember. -/
inductive Obs (profiles : Nat) where
  | counted (profile : Int) (stage : Fin hidStageCount) (err : Int) (ms : UInt32)
  | started
  /-- The flush copied the cell and cleared its flag and its error. -/
  | visited (cell : Cell profiles)
  | hidCount (cell : Cell profiles) (count : HidCount)
  | hidError (cell : Cell profiles) (count : HidCount)
  | persist
deriving DecidableEq, Repr

/-- At power-up. -/
def boot₀ (profiles : Nat) (now : Int) : Summary profiles :=
  ⟨fun _ => ⟨0, 0, 0, false⟩, .idle, .off, 0, now⟩

/-- The cell `count_event` counts in, if the profile has one. -/
def cellOf (profiles : Nat) (profile : Int) (stage : Fin hidStageCount) : Option (Cell profiles) :=
  if h : 0 ≤ profile ∧ profile < profiles then .some (⟨profile.toNat, by omega⟩, stage) else .none

/-- The critical section of `count_event`. -/
def bump (count : HidCount) (now err : Int) : HidCount where
  total := count.total + 1
  lastMs := kUptimeGet32 now
  dirty := true
  error := if err ≠ 0 then UInt8.ofNat (min err.natAbs 255) else count.error

/-- The order in which `flush_counts` visits the cells. -/
def cells (profiles : Nat) : List (Cell profiles) :=
  (List.finRange profiles).flatMap fun profile =>
    (List.finRange hidStageCount).map fun stage => (profile, stage)

theorem mem_cells (c : Cell profiles) : c ∈ cells profiles := by
  obtain ⟨profile, stage⟩ := c
  simp [cells]

/-- One step of any context. -/
inductive Step : Summary profiles → Option (Obs profiles) → Summary profiles → Prop where
  | tick {s} (t : Int) (h : s.now ≤ t) :
    Step s .none { s with now := t, summaryWork := s.summaryWork.expire t }
  | ignore {s} (profile : Int) (stage : Fin hidStageCount) (err : Int)
      (hc : cellOf profiles profile stage = .none) :
    Step s (.some (.counted profile stage err (kUptimeGet32 s.now))) s
  | count {s} (profile : Int) (stage : Fin hidStageCount) (err : Int) {cell}
      (hc : cellOf profiles profile stage = .some cell) :
    Step s (.some (.counted profile stage err (kUptimeGet32 s.now)))
      { s with
        counts := Function.update s.counts cell (bump (s.counts cell) s.now err)
        counting := s.counting + 1 }
  | schedule {s} (h : 0 < s.counting) :
    Step s .none
      { s with
        counting := s.counting - 1
        summaryWork := s.summaryWork.schedule s.now 5000 }
  | start {s} (hq : s.summaryWork.queued.isSome) (hf : s.flushing = .off) :
    Step s (.some .started)
      { s with
        summaryWork := s.summaryWork.start
        flushing := .visiting (cells profiles) false }
  | visit {s cell rest changed} (hf : s.flushing = .visiting (cell :: rest) changed) :
    Step s (.some (.visited cell))
      { s with
        counts := Function.update s.counts cell { s.counts cell with dirty := false, error := 0 }
        flushing :=
          if (s.counts cell).dirty then .copied cell (s.counts cell) rest
          else .visiting rest changed }
  | emitCount {s cell count rest} (hf : s.flushing = .copied cell count rest) :
    Step s (.some (.hidCount cell count))
      { s with
        flushing := if count.error ≠ 0 then .erring cell count rest else .visiting rest true }
  | emitError {s cell count rest} (hf : s.flushing = .erring cell count rest) :
    Step s (.some (.hidError cell count)) { s with flushing := .visiting rest true }
  | visited {s changed} (hf : s.flushing = .visiting [] changed) :
    Step s (if changed then .some .persist else .none) { s with flushing := .returning }
  | leave {s} (hf : s.flushing = .returning) :
    Step s .none { s with flushing := .off, summaryWork := s.summaryWork.finish }

/-! ## The history of a cell -/

section

variable (c : Cell profiles)

/-- How often `count_event` was called for the cell. -/
def calls : List (Obs profiles) → Nat
  | [] => 0
  | .counted profile stage _ _ :: h =>
    if cellOf profiles profile stage = .some c then calls h + 1 else calls h
  | .started :: h | .visited _ :: h | .hidCount _ _ :: h | .hidError _ _ :: h | .persist :: h =>
    calls h

/-- The time of the last call. -/
def lastMs : List (Obs profiles) → UInt32
  | [] => 0
  | .counted profile stage _ ms :: h =>
    if cellOf profiles profile stage = .some c then ms else lastMs h
  | .started :: h | .visited _ :: h | .hidCount _ _ :: h | .hidError _ _ :: h | .persist :: h =>
    lastMs h

/-- What the journal should have of the cell. -/
def expected (h : List (Obs profiles)) : Option (UInt16 × UInt32) :=
  if calls c h = 0 then .none else .some (UInt16.ofNat (calls c h), lastMs c h)

/-- The last `HID_COUNT` of the cell: its value and its time. -/
def emitted : List (Obs profiles) → Option (UInt16 × UInt32)
  | [] => .none
  | .hidCount cell count :: h => if cell = c then .some (count.total, count.lastMs) else emitted h
  | .counted _ _ _ _ :: h | .started :: h | .visited _ :: h | .hidError _ _ :: h | .persist :: h =>
    emitted h

/-- The size of the last error since the flush last visited the cell, up to
255. -/
def windowError : List (Obs profiles) → Nat
  | [] => 0
  | .counted profile stage err _ :: h =>
    if cellOf profiles profile stage = .some c ∧ err ≠ 0 then min err.natAbs 255 else windowError h
  | .visited cell :: h => if cell = c then 0 else windowError h
  | .started :: h | .hidCount _ _ :: h | .hidError _ _ :: h | .persist :: h => windowError h

/-- What the flushes owe: one for each window that saw an error. -/
def owedErrors : List (Obs profiles) → List Nat
  | [] => []
  | .visited cell :: h =>
    if cell = c ∧ windowError c h ≠ 0 then owedErrors h ++ [windowError c h] else owedErrors h
  | .counted _ _ _ _ :: h | .started :: h | .hidCount _ _ :: h | .hidError _ _ :: h
  | .persist :: h => owedErrors h

/-- The `HID_ERROR` records of the cell, in order. -/
def errors : List (Obs profiles) → List Nat
  | [] => []
  | .hidError cell count :: h => if cell = c then errors h ++ [count.error.toNat] else errors h
  | .counted _ _ _ _ :: h | .started :: h | .visited _ :: h | .hidCount _ _ :: h
  | .persist :: h => errors h

end

/-- The last record of the cell, with the one that is on its way. -/
def latest (s : Summary profiles) (h : List (Obs profiles)) (c : Cell profiles) :
    Option (UInt16 × UInt32) :=
  match s.flushing with
  | .copied cell count _ => if cell = c then .some (count.total, count.lastMs) else emitted c h
  | .off | .visiting _ _ | .erring _ _ _ | .returning => emitted c h

/-- The error of the cell that is on its way. -/
def errorOnItsWay (s : Summary profiles) (c : Cell profiles) : List Nat :=
  match s.flushing with
  | .copied cell count _ | .erring cell count _ =>
    if cell = c ∧ count.error ≠ 0 then [count.error.toNat] else []
  | .off | .visiting _ _ | .returning => []

/-- The cells the flush has yet to visit. -/
def toVisit (s : Summary profiles) : List (Cell profiles) :=
  match s.flushing with
  | .visiting cells _ | .copied _ _ cells | .erring _ _ cells => cells
  | .off | .returning => []

/-! ## What a step keeps -/

/-- What holds of a history and the state it leads to. -/
structure Inv (h : List (Obs profiles)) (s : Summary profiles) : Prop where
  total : ∀ c, (s.counts c).total = UInt16.ofNat (calls c h)
  lastMs : ∀ c, (s.counts c).lastMs = Summary.lastMs c h
  error : ∀ c, (s.counts c).error.toNat = windowError c h
  /-- Only a call makes a cell dirty, and an error never without the flag. -/
  called : ∀ c, (s.counts c).dirty = true → calls c h ≠ 0
  flagged : ∀ c, (s.counts c).error ≠ 0 → (s.counts c).dirty = true
  fresh : ∀ c, (s.counts c).dirty = false → s.latest h c = expected c h
  errors : ∀ c, Summary.errors c h ++ s.errorOnItsWay c = owedErrors c h
  /-- The copy of a flush that has yet to write the error has one. -/
  erring : ∀ cell count rest, s.flushing = .erring cell count rest → count.error ≠ 0
  cancelling : s.summaryWork.cancelling = false
  running : s.summaryWork.running = true ↔ s.flushing ≠ .off
  /-- Whoever made a cell dirty sees to it. -/
  awake : ∀ c, (s.counts c).dirty = true →
    0 < s.counting ∨ s.summaryWork.armed = true ∨ c ∈ s.toVisit

theorem inv_boot₀ (now : Int) : Inv [] (boot₀ profiles now) where
  total := fun _ => rfl
  lastMs := fun _ => rfl
  error := fun _ => rfl
  called := by intro c hd; cases hd
  flagged := by intro c he; exact absurd rfl he
  fresh := fun _ _ => rfl
  errors := fun _ => rfl
  erring := by intro cell count rest hf; cases hf
  cancelling := rfl
  running := by simp [boot₀, Work.idle]
  awake := by intro c hd; cases hd

/-- A step that touches neither the counts nor the flush, and shows nothing. -/
theorem Inv.quiet {h : List (Obs profiles)} {s s' : Summary profiles} (hi : Inv h s)
    (hcounts : s'.counts = s.counts) (hflush : s'.flushing = s.flushing)
    (hcancel : s'.summaryWork.cancelling = false)
    (hrun : s'.summaryWork.running = s.summaryWork.running)
    (hawake : ∀ c, (s.counts c).dirty = true → 0 < s'.counting ∨ s'.summaryWork.armed = true ∨
      c ∈ s.toVisit) : Inv h s' where
  total := hcounts ▸ hi.total
  lastMs := hcounts ▸ hi.lastMs
  error := hcounts ▸ hi.error
  called := hcounts ▸ hi.called
  flagged := hcounts ▸ hi.flagged
  fresh := by
    intro c hd
    rw [hcounts] at hd
    rw [← hi.fresh c hd]
    unfold latest
    rw [hflush]
  errors := by
    intro c
    rw [← hi.errors c]
    unfold errorOnItsWay
    rw [hflush]
  erring := by
    intro cell count rest hf
    exact hi.erring cell count rest (hflush ▸ hf)
  cancelling := hcancel
  running := by rw [hrun, hflush]; exact hi.running
  awake := by
    intro c hd
    rw [hcounts] at hd
    unfold toVisit
    rw [hflush]
    exact hawake c hd

theorem Inv.ignore {h : List (Obs profiles)} {s : Summary profiles} (hi : Inv h s) {profile : Int}
    {stage : Fin hidStageCount} (hc : cellOf profiles profile stage = .none) (err : Int)
    (ms : UInt32) : Inv (.counted profile stage err ms :: h) s where
  total := by intro c; simpa [calls, hc] using hi.total c
  lastMs := by intro c; simpa [Summary.lastMs, hc] using hi.lastMs c
  error := by intro c; simpa [windowError, hc] using hi.error c
  called := by intro c; simpa [calls, hc] using hi.called c
  flagged := hi.flagged
  fresh := by
    intro c hd
    have hf := hi.fresh c hd
    simpa [latest, emitted, expected, calls, Summary.lastMs, hc] using hf
  errors := hi.errors
  erring := hi.erring
  cancelling := hi.cancelling
  running := hi.running
  awake := hi.awake

theorem toNat_bump_error {err : Int} : (UInt8.ofNat (min err.natAbs 255)).toNat = min err.natAbs 255 :=
  UInt8.toNat_ofNat_of_lt' (by show _ < 256; omega)

theorem Inv.count {h : List (Obs profiles)} {s : Summary profiles} (hi : Inv h s) {profile : Int}
    {stage : Fin hidStageCount} {cell : Cell profiles}
    (hc : cellOf profiles profile stage = .some cell) (err : Int) :
    Inv (.counted profile stage err (kUptimeGet32 s.now) :: h)
      { s with
        counts := Function.update s.counts cell (bump (s.counts cell) s.now err)
        counting := s.counting + 1 } where
  total := by
    intro c
    have ht := hi.total c
    by_cases he : cell = c
    · subst he
      simp only [Function.update_self, bump, calls, hc, if_true, ht, UInt16.ofNat_add]
      rfl
    · simpa [Function.update_of_ne (Ne.symm he), calls, hc, he] using ht
  lastMs := by
    intro c
    by_cases he : cell = c
    · subst he
      simp [bump, Summary.lastMs, hc]
    · simpa [Function.update_of_ne (Ne.symm he), Summary.lastMs, hc, he] using hi.lastMs c
  error := by
    intro c
    have hold := hi.error c
    by_cases he : cell = c
    · subst he
      by_cases h0 : err = 0
      · simpa [bump, windowError, hc, h0] using hold
      · simp only [Function.update_self, bump, windowError, hc, h0, ne_eq, not_false_eq_true,
          and_self, if_true]
        exact toNat_bump_error
    · simpa [Function.update_of_ne (Ne.symm he), windowError, hc, he] using hold
  called := by
    intro c hd
    by_cases he : cell = c
    · simp [calls, hc, he]
    · simp only [Function.update_of_ne (Ne.symm he)] at hd
      simpa [calls, hc, he] using hi.called c hd
  flagged := by
    intro c herr
    by_cases he : cell = c
    · simp [he, bump]
    · simp only [Function.update_of_ne (Ne.symm he)] at herr ⊢
      exact hi.flagged c herr
  fresh := by
    intro c hd
    by_cases he : cell = c
    · simp [he, bump] at hd
    · simp only [Function.update_of_ne (Ne.symm he)] at hd
      simpa [latest, emitted, expected, calls, Summary.lastMs, hc, he] using hi.fresh c hd
  errors := hi.errors
  erring := hi.erring
  cancelling := hi.cancelling
  running := hi.running
  awake := fun _ _ => .inl (Nat.succ_pos _)

/-- The flush copies a cell: what the cell had is on its way. -/
theorem Inv.visit {h : List (Obs profiles)} {s : Summary profiles} (hi : Inv h s)
    {cell : Cell profiles} {rest : List (Cell profiles)} {changed : Bool}
    (hf : s.flushing = .visiting (cell :: rest) changed) :
    Inv (.visited cell :: h)
      { s with
        counts := Function.update s.counts cell { s.counts cell with dirty := false, error := 0 }
        flushing :=
          if (s.counts cell).dirty then .copied cell (s.counts cell) rest
          else .visiting rest changed } where
  total := by
    intro c
    by_cases he : c = cell
    · simpa [he, calls] using hi.total cell
    · simpa [Function.update_of_ne he, calls] using hi.total c
  lastMs := by
    intro c
    by_cases he : c = cell
    · simpa [he, Summary.lastMs] using hi.lastMs cell
    · simpa [Function.update_of_ne he, Summary.lastMs] using hi.lastMs c
  error := by
    intro c
    by_cases he : c = cell
    · simp [he, windowError]
    · simpa [Function.update_of_ne he, windowError, Ne.symm he] using hi.error c
  called := by
    intro c hd
    by_cases he : c = cell
    · simp [he] at hd
    · simp only [Function.update_of_ne he] at hd
      exact hi.called c hd
  flagged := by
    intro c herr
    by_cases he : c = cell
    · simp [he] at herr
    · simp only [Function.update_of_ne he] at herr ⊢
      exact hi.flagged c herr
  fresh := by
    intro c hd
    have hexp : expected c (.visited cell :: h) = expected c h := rfl
    rw [hexp]
    by_cases he : c = cell
    · subst he
      by_cases hdirty : (s.counts c).dirty = true
      · have hcalled := hi.called c hdirty
        simp [latest, hdirty, expected, hcalled, hi.total c, hi.lastMs c]
      · have hold := hi.fresh c (by simpa using hdirty)
        simpa [latest, hdirty, hf, emitted] using hold
    · simp only [Function.update_of_ne he] at hd
      have hold := hi.fresh c hd
      by_cases hdirty : (s.counts cell).dirty = true
      · simpa [latest, hdirty, hf, emitted, Ne.symm he] using hold
      · simpa [latest, hdirty, hf, emitted] using hold
  errors := by
    intro c
    have hold := hi.errors c
    have herr := hi.error cell
    have hflag := hi.flagged cell
    simp only [errorOnItsWay, hf, List.append_nil] at hold
    by_cases he : cell = c
    · subst he
      by_cases h0 : (s.counts cell).error = 0
      · rw [h0] at herr
        have hw : windowError cell h = 0 := herr.symm
        by_cases hdirty : (s.counts cell).dirty = true <;>
          simpa [Summary.errors, errorOnItsWay, hdirty, owedErrors, hw, h0] using hold
      · have hw : windowError cell h ≠ 0 := by
          rw [← herr]
          exact fun hz => h0 (UInt8.toNat_inj.mp hz)
        simp [Summary.errors, errorOnItsWay, hflag h0, owedErrors, hw, h0, hold, herr]
    · by_cases hdirty : (s.counts cell).dirty = true <;>
        simpa [Summary.errors, errorOnItsWay, hdirty, owedErrors, he] using hold
  erring := by
    intro cell' count rest' hf'
    by_cases hdirty : (s.counts cell).dirty = true <;> simp [hdirty] at hf'
  cancelling := hi.cancelling
  running := by
    have hrun := hi.running
    by_cases hdirty : (s.counts cell).dirty = true <;> simpa [hdirty, hf] using hrun
  awake := by
    intro c hd
    by_cases he : c = cell
    · simp [he] at hd
    · simp only [Function.update_of_ne he] at hd
      have hold := hi.awake c hd
      by_cases hdirty : (s.counts cell).dirty = true <;>
        simpa [toVisit, hdirty, hf, he] using hold

theorem Inv.emitCount {h : List (Obs profiles)} {s : Summary profiles} (hi : Inv h s)
    {cell : Cell profiles} {count : HidCount} {rest : List (Cell profiles)}
    (hf : s.flushing = .copied cell count rest) :
    Inv (.hidCount cell count :: h)
      { s with
        flushing := if count.error ≠ 0 then .erring cell count rest else .visiting rest true } where
  total := hi.total
  lastMs := hi.lastMs
  error := hi.error
  called := hi.called
  flagged := hi.flagged
  fresh := by
    intro c hd
    have hold := hi.fresh c hd
    simp only [latest, hf] at hold
    have hexp : expected c (.hidCount cell count :: h) = expected c h := rfl
    rw [hexp, ← hold]
    by_cases h0 : count.error = 0 <;> simp [latest, h0, emitted]
  errors := by
    intro c
    have hold := hi.errors c
    simp only [errorOnItsWay, hf] at hold
    by_cases h0 : count.error = 0 <;>
      simpa [Summary.errors, errorOnItsWay, owedErrors, h0] using hold
  erring := by
    intro cell' count' rest' hf'
    by_cases h0 : count.error = 0
    · simp [h0] at hf'
    · simp only [h0, ne_eq, not_false_eq_true, if_true, Flushing.erring.injEq] at hf'
      rw [← hf'.2.1]
      exact h0
  cancelling := hi.cancelling
  running := by
    have hrun := hi.running
    by_cases h0 : count.error = 0 <;> simpa [h0, hf] using hrun
  awake := by
    intro c hd
    have hold := hi.awake c hd
    by_cases h0 : count.error = 0 <;> simpa [toVisit, h0, hf] using hold

theorem Inv.emitError {h : List (Obs profiles)} {s : Summary profiles} (hi : Inv h s)
    {cell : Cell profiles} {count : HidCount} {rest : List (Cell profiles)}
    (hf : s.flushing = .erring cell count rest) :
    Inv (.hidError cell count :: h) { s with flushing := .visiting rest true } where
  total := hi.total
  lastMs := hi.lastMs
  error := hi.error
  called := hi.called
  flagged := hi.flagged
  fresh := by
    intro c hd
    have hold := hi.fresh c hd
    simp only [latest, hf] at hold
    exact hold
  errors := by
    intro c
    have hold := hi.errors c
    have h0 := hi.erring cell count rest hf
    simp only [errorOnItsWay, hf] at hold
    by_cases he : cell = c <;> simpa [Summary.errors, errorOnItsWay, owedErrors, he, h0] using hold
  erring := by intro cell' count' rest' hf'; cases hf'
  cancelling := hi.cancelling
  running := by simpa [hf] using hi.running
  awake := by simpa [toVisit, hf] using hi.awake

theorem Inv.loop {h : List (Obs profiles)} {s : Summary profiles} (hi : Inv h s)
    {flushing : Flushing profiles} {w : Work} {o : List (Obs profiles)}
    (ho : o = [] ∨ o = [.started] ∨ o = [.persist])
    (hold : s.flushing = .off ∨ (∃ changed, s.flushing = .visiting [] changed) ∨
      s.flushing = .returning)
    (hnew : (∃ changed, flushing = .visiting (cells profiles) changed) ∨ flushing = .returning ∨
      flushing = .off)
    (hcancel : w.cancelling = false) (hrun : w.running = true ↔ flushing ≠ .off)
    (harmed : s.summaryWork.armed = true → w.armed = true ∨
      ∃ changed, flushing = .visiting (cells profiles) changed) :
    Inv (o ++ h) { s with flushing := flushing, summaryWork := w } := by
  have hlatest : ∀ c, s.latest h c = emitted c h := by
    intro c
    rcases hold with hf | ⟨changed, hf⟩ | hf <;> simp [latest, hf]
  have herr : ∀ c, s.errorOnItsWay c = [] := by
    intro c
    rcases hold with hf | ⟨changed, hf⟩ | hf <;> simp [errorOnItsWay, hf]
  have hleft : s.toVisit = [] := by
    rcases hold with hf | ⟨changed, hf⟩ | hf <;> simp [toVisit, hf]
  have hfresh := hi.fresh
  have herrors := hi.errors
  have hawake := hi.awake
  simp only [hlatest, herr, hleft, List.append_nil, List.not_mem_nil, or_false] at hfresh herrors hawake
  refine ⟨?_, ?_, ?_, ?_, hi.flagged, ?_, ?_, ?_, hcancel, hrun, ?_⟩
  · rcases ho with rfl | rfl | rfl <;> exact hi.total
  · rcases ho with rfl | rfl | rfl <;> exact hi.lastMs
  · rcases ho with rfl | rfl | rfl <;> exact hi.error
  · rcases ho with rfl | rfl | rfl <;> exact hi.called
  · intro c hd
    have hnow := hfresh c hd
    rcases hnew with ⟨changed, rfl⟩ | rfl | rfl <;> rcases ho with rfl | rfl | rfl <;> exact hnow
  · intro c
    have hnow := herrors c
    rcases hnew with ⟨changed, rfl⟩ | rfl | rfl <;> rcases ho with rfl | rfl | rfl <;>
      simpa [errorOnItsWay, Summary.errors, owedErrors] using hnow
  · intro cell count rest hf
    rcases hnew with ⟨changed, rfl⟩ | rfl | rfl <;> cases hf
  · intro c hd
    rcases hawake c hd with hc | ha
    · exact .inl hc
    · rcases harmed ha with ha | ⟨changed, rfl⟩
      · exact .inr (.inl ha)
      · exact .inr (.inr (mem_cells c))

theorem Inv.step {h : List (Obs profiles)} {s s' : Summary profiles} {o : Option (Obs profiles)}
    (hi : Inv h s) (hs : Step s o s') : Inv (o.toList ++ h) s' := by
  cases hs with
  | tick t ht =>
    refine hi.quiet rfl rfl (Work.cancelling_expire.trans hi.cancelling) Work.running_expire ?_
    intro c hd
    rcases hi.awake c hd with hc | ha | hv
    · exact .inl hc
    · exact .inr (.inl ((Work.armed_expire hi.cancelling t).trans ha))
    · exact .inr (.inr hv)
  | ignore profile stage err hc => exact hi.ignore hc err _
  | count profile stage err hc => exact hi.count hc err
  | schedule hpos =>
    refine hi.quiet rfl rfl (Work.cancelling_schedule.trans hi.cancelling) Work.running_schedule ?_
    intro c hd
    refine .inr (.inl ?_)
    obtain ⟨e, he, -⟩ := Work.due_schedule hi.cancelling
    rw [Work.armed_eq_due, he]
    rfl
  | start hq hf =>
    exact hi.loop (.inr (.inl rfl)) (.inl hf) (.inl ⟨false, rfl⟩) hi.cancelling (by simp [Work.start])
      (fun _ => .inr ⟨false, rfl⟩)
  | visit hf => exact hi.visit hf
  | emitCount hf => exact hi.emitCount hf
  | emitError hf => exact hi.emitError hf
  | @visited changed hf =>
    have hrun : s.summaryWork.running = true := hi.running.mpr (by simp [hf])
    have hloop : ∀ o : List (Obs profiles), o = [] ∨ o = [.started] ∨ o = [.persist] →
        Inv (o ++ h) { s with flushing := .returning } := by
      intro o ho
      exact hi.loop ho (.inr (.inl ⟨changed, hf⟩)) (.inr (.inl rfl)) hi.cancelling (by simp [hrun])
        .inl
    cases changed with
    | true => exact hloop [.persist] (.inr (.inr rfl))
    | false => exact hloop [] (.inl rfl)
  | leave hf =>
    exact hi.loop (.inl rfl) (.inr (.inr hf)) (.inr (.inr rfl)) rfl (by simp [Work.finish]) .inl

theorem inv_run {now : Int} {h : List (Obs profiles)} {s : Summary profiles}
    (hr : Run Step (boot₀ profiles now) h s) : Inv h s :=
  hr.invariant (inv_boot₀ now) Inv.step

/-- A flush that is due stays due when it is, until it starts. -/
theorem Step.due {h : List (Obs profiles)} {s s' : Summary profiles} {o : Option (Obs profiles)}
    (hi : Inv h s) (hs : Step s o s') (ho : o ≠ .some .started) {d : Int}
    (hd : s.summaryWork.due = .some d) : s'.summaryWork.due = .some d := by
  cases hs with
  | tick t ht => exact (Work.due_expire hi.cancelling t).trans hd
  | schedule hpos =>
    have harmed : s.summaryWork.armed = true := by rw [Work.armed_eq_due, hd]; rfl
    show (s.summaryWork.schedule s.now 5000).due = .some d
    rw [Work.schedule_armed harmed]
    exact hd
  | start hq hf => exact absurd rfl ho
  | ignore | count | visit | emitCount | emitError | visited | leave => exact hd

theorem due_run {now d : Int} {h h' : List (Obs profiles)} {s s' : Summary profiles}
    (hr : Run Step (boot₀ profiles now) h s) (hd : s.summaryWork.due = .some d)
    (hr' : Run Step s h' s') (ho : .started ∉ h') : s'.summaryWork.due = .some d := by
  induction hr' with
  | refl => exact hd
  | @step h' s₁ o s₂ hr' hs ih =>
    simp only [List.mem_append, not_or] at ho
    refine Step.due (inv_run (hr.trans hr')) hs ?_ (ih ho.2)
    intro he
    exact ho.1 (by simp [he])

end Summary

/-- **The HID summary loses no update**, whichever contexts count when. At rest
the last `HID_COUNT` of each cell is the number of its calls modulo 65536, with
the time of the last; every window of a cell that saw an error emitted one
`HID_ERROR` with the size of its last; and until a flush starts, nothing moves
it. -/
theorem hid_summary_loses_no_update {profiles : Nat} {now : Int}
    {h : List (Summary.Obs profiles)} {s : Summary profiles}
    (hr : Run Summary.Step (.boot₀ profiles now) h s) :
    (s.summaryWork.delayed = .none → s.summaryWork.queued = .none →
      s.summaryWork.running = false → s.counting = 0 →
      ∀ c, Summary.emitted c h = Summary.expected c h ∧
        Summary.errors c h = Summary.owedErrors c h ∧ Summary.windowError c h = 0) ∧
    (∀ c, Summary.errors c h ++ s.errorOnItsWay c = Summary.owedErrors c h) ∧
    ∀ d h' s', s.summaryWork.due = .some d → Run Summary.Step s h' s' → .started ∉ h' →
      s'.summaryWork.due = .some d := by
  have hi := Summary.inv_run hr
  refine ⟨?_, hi.errors, fun d h' s' hd hr' ho => Summary.due_run hr hd hr' ho⟩
  intro hdelayed hqueued hrunning hcounting c
  have hoff : s.flushing = .off := by
    by_contra hne
    rw [hi.running.mpr hne] at hrunning
    cases hrunning
  -- Nobody is left to see to a dirty cell, so there is none.
  have hclean : (s.counts c).dirty = false := by
    by_contra hd
    rcases hi.awake c (by simpa using hd) with hc | ha | hv
    · omega
    · simp [Work.armed, hdelayed, hqueued] at ha
    · simp [Summary.toVisit, hoff] at hv
  have hfresh := hi.fresh c hclean
  have herrors := hi.errors c
  simp only [Summary.latest, Summary.errorOnItsWay, hoff, List.append_nil] at hfresh herrors
  refine ⟨hfresh, herrors, ?_⟩
  rw [← hi.error c]
  by_contra hne
  have hflag := hi.flagged c (fun h0 => hne (by rw [h0]; rfl))
  rw [hclean] at hflag
  cases hflag

namespace Summary

/-- The flush passes over cells that have nothing to tell. -/
theorem run_clean {profiles counting : Nat} {s₀ : Summary profiles} {h : List (Obs profiles)}
    {counts : Cell profiles → HidCount} {work : Work} {changed : Bool} {now : Int}
    {rest : List (Cell profiles)} (cs : List (Cell profiles))
    (hclean : ∀ c ∈ cs, (counts c).dirty = false ∧ (counts c).error = 0)
    (hr : Run Step s₀ h ⟨counts, work, .visiting (cs ++ rest) changed, counting, now⟩) :
    Run Step s₀ ((cs.map .visited).reverse ++ h)
      ⟨counts, work, .visiting rest changed, counting, now⟩ := by
  induction cs generalizing h with
  | nil => exact hr
  | cons c cs ih =>
    obtain ⟨hd, he⟩ := hclean c (List.mem_cons_self ..)
    have hvisit := hr.shows (.visit rfl)
    have hsame : Function.update counts c { counts c with dirty := false, error := 0 } = counts := by
      rw [← hd, ← he]
      exact Function.update_eq_self c counts
    simp only [hsame, hd, Bool.false_eq_true, if_false] at hvisit
    have hrest := ih (fun c' hmem => hclean c' (List.mem_cons_of_mem c hmem)) hvisit
    rw [List.map_cons, List.reverse_cons, List.append_assoc]
    exact hrest

/-- `HID_NOTIFY_FAILED` of the only profile. -/
def notifyFailed : Cell 1 := (0, ⟨8, by decide⟩)

/-- A notification failed. -/
def failedOnce : Summary 1 :=
  ⟨Function.update (fun _ => ⟨0, 0, 0, false⟩) notifyFailed ⟨0, 1, 5, true⟩,
    ⟨.some 5000, .none, false, false⟩, .off, 0, 0⟩

/-- A second notification failed four seconds later. -/
def failedTwice : Summary 1 :=
  ⟨Function.update failedOnce.counts notifyFailed ⟨4000, 2, 12, true⟩,
    ⟨.some 5000, .none, false, false⟩, .off, 0, 4000⟩

theorem run_failedOnce : Run Step (.boot₀ 1 0) [.counted 0 notifyFailed.2 (-5) 0] failedOnce :=
  (Run.refl.shows (.count 0 notifyFailed.2 (-5) rfl)).quiet (.schedule Nat.one_pos)

theorem run_failedTwice : Run Step failedOnce [.counted 0 notifyFailed.2 (-12) 4000] failedTwice :=
  have hlater : Run Step failedOnce [] { failedOnce with now := 4000 } :=
    Run.refl.quiet (.tick 4000 (by decide))
  (hlater.shows (.count 0 notifyFailed.2 (-12) rfl)).quiet (.schedule Nat.one_pos)

/-- What the flush then shows. -/
def flushTrace : List (Obs 1) :=
  .persist :: ((((cells 1).drop 9).map .visited).reverse ++
    (.hidError notifyFailed ⟨4000, 2, 12, true⟩ :: .hidCount notifyFailed ⟨4000, 2, 12, true⟩ ::
      .visited notifyFailed :: ((((cells 1).take 8).map .visited).reverse ++ [.started])))

theorem run_flushed : ∃ s, Run Step failedTwice flushTrace s ∧ s.summaryWork = .idle ∧
    s.counting = 0 := by
  let running : Work := ⟨.none, .none, true, false⟩
  have hdue : Run Step failedTwice []
      ⟨failedTwice.counts, ⟨.none, .some 5000, false, false⟩, .off, 0, 5000⟩ :=
    Run.refl.quiet (.tick 5000 (by decide))
  have hstart : Run Step failedTwice [.started] ⟨failedTwice.counts, running,
      .visiting ((cells 1).take 8 ++ notifyFailed :: (cells 1).drop 9) false, 0, 5000⟩ :=
    hdue.shows (.start rfl rfl)
  have hvisit := (run_clean ((cells 1).take 8) (by decide) hstart).shows (.visit rfl)
  have hemitted := (hvisit.shows (.emitCount rfl)).shows (.emitError rfl)
  have hafter : Run Step failedTwice _ ⟨_, running, .visiting [] true, 0, 5000⟩ :=
    run_clean ((cells 1).drop 9) (by decide) hemitted
  have hpersist : Run Step failedTwice flushTrace ⟨_, running, .returning, 0, 5000⟩ :=
    hafter.step (.visited rfl)
  exact ⟨_, hpersist.quiet (.leave rfl), rfl, rfl⟩

end Summary

/-- Two notifications fail four seconds apart, which does not move the flush. It tells of
both, with the later error, and leaves the summary at rest. -/
theorem hid_summary_loses_no_update_typing :
    ∃ (h h' : List (Summary.Obs 1)) (s s' : Summary 1),
      Run Summary.Step (.boot₀ 1 0) h s ∧ s.summaryWork.due = .some 5000 ∧
      Summary.calls Summary.notifyFailed h = 2 ∧
      Run Summary.Step s h' s' ∧ s'.summaryWork = .idle ∧ s'.counting = 0 ∧
      Summary.emitted Summary.notifyFailed (h' ++ h) = .some (2, 4000) ∧
      Summary.errors Summary.notifyFailed (h' ++ h) = [12] := by
  have hdue := (hid_summary_loses_no_update Summary.run_failedOnce).2.2 5000 _ _ rfl
    Summary.run_failedTwice (by simp)
  have hfailed := Summary.run_failedOnce.trans Summary.run_failedTwice
  obtain ⟨s', hflushed, hidle, hcounting⟩ := Summary.run_flushed
  have hrest := (hid_summary_loses_no_update (hfailed.trans hflushed)).1 (by rw [hidle]; rfl)
    (by rw [hidle]; rfl) (by rw [hidle]; rfl) hcounting Summary.notifyFailed
  exact ⟨_, _, _, _, hfailed, hdue, by decide, hflushed, hidle, hcounting,
    hrest.1.trans (by decide), hrest.2.1.trans (by decide)⟩

/-! ## The handler of the system work queue's model -/

/-- The `HID_COUNT` record of a copy. -/
def hidCountEvent {profiles : Nat} (cell : Cell profiles) (count : HidCount) : TotemHostEvent :=
  ⟨count.lastMs, totemHevtHidCount, Int8.ofNat cell.1, -1, UInt8.ofNat cell.2, count.total.toUInt8,
    (count.total >>> 8).toUInt8⟩

/-- The `HID_ERROR` record of a copy. -/
def hidErrorEvent {profiles : Nat} (cell : Cell profiles) (count : HidCount) : TotemHostEvent :=
  ⟨count.lastMs, totemHevtHidError, Int8.ofNat cell.1, -1, UInt8.ofNat cell.2, count.error, 0⟩

namespace Diag

variable {cfg : Config} {profiles : Nat}

/-- What a history of the summary wrote to the journal, newest first. -/
def journaledCounts (now : Int) : List (Summary.Obs profiles) → List Obs
  | [] => []
  | .hidCount cell count :: h =>
    .recorded (hidCountEvent cell count) false now :: journaledCounts now h
  | .hidError cell count :: h =>
    .recorded (hidErrorEvent cell count) false now :: journaledCounts now h
  | .counted _ _ _ _ :: h | .started :: h | .visited _ :: h | .persist :: h => journaledCounts now h

theorem journaledCounts_append (now : Int) (h h' : List (Summary.Obs profiles)) :
    journaledCounts now (h ++ h') = journaledCounts now h ++ journaledCounts now h' := by
  induction h with
  | nil => rfl
  | cons o h ih => cases o <;> simp [journaledCounts, ih]

/-- The summary as `flush_counts` sees it at `flushing`, when no call of
`count_event` is under way. -/
def summaryAt (d : Diag cfg profiles) (flushing : Flushing profiles) : Summary profiles :=
  ⟨fun c => d.counts c.1 c.2, d.summaryWork, flushing, 0, d.sys.now⟩

section

variable (d : Diag cfg profiles) (flushing : Flushing profiles)

theorem summaryAt_capture (r : TimingRecord) :
    (d.capture r).summaryAt flushing = d.summaryAt flushing := by
  unfold capture
  split
  · rfl
  · split <;> rfl

theorem summaryAt_wrapSettingsSaveOne (name : List Char) (save : Save) :
    (d.wrapSettingsSaveOne name save).summaryAt flushing =
      (d.tick (d.sys.now + save.ms)).summaryAt flushing := by
  unfold wrapSettingsSaveOne
  simp only [timingCapture, summaryAt_capture]
  simp only [summaryAt, tick, sys_capture]
  unfold capture
  split
  · rfl
  · split <;> rfl

theorem run_wrapSettingsSaveOne (name : List Char) (save : Save) :
    Run Summary.Step (d.summaryAt flushing) []
      ((d.wrapSettingsSaveOne name save).summaryAt flushing) := by
  rw [summaryAt_wrapSettingsSaveOne]
  exact Run.refl.quiet (.tick (d.sys.now + save.ms) (by show d.sys.now ≤ _; omega))

theorem run_bootDiagnosticsPersist (counter : Save) :
    Run Summary.Step (d.summaryAt flushing) []
      ((d.bootDiagnosticsPersist counter).summaryAt flushing) := by
  unfold bootDiagnosticsPersist
  split
  · exact d.run_wrapSettingsSaveOne flushing "tboot/count".toList counter
  · exact .refl

theorem run_persist (counter block : Save) :
    Run Summary.Step (d.summaryAt flushing) []
      ((d.totemHostEventLogPersist counter block).1.summaryAt flushing) := by
  unfold totemHostEventLogPersist
  split
  · exact .refl
  · rename_i j call hf
    have hcounter := (d.withJournal j).run_bootDiagnosticsPersist flushing counter
    exact hcounter.trans (run_wrapSettingsSaveOne _ flushing (slotKey call.slot) block)

theorem counts_clearCount (cell : Cell profiles) :
    (fun c : Cell profiles => (d.clearCount cell.1 cell.2).counts c.1 c.2) =
      Function.update (fun c : Cell profiles => d.counts c.1 c.2) cell
        { d.counts cell.1 cell.2 with dirty := false, error := 0 } := by
  funext c
  unfold clearCount
  by_cases he : c = cell
  · subst he
    simp
  · have hne : ¬(c.1 = cell.1 ∧ c.2 = cell.2) := fun h => he (Prod.ext h.1 h.2)
    simp [Function.update_of_ne he, hne]

end

/-- One round of the flush, from one cell to the next. -/
theorem run_flushCount (d : Diag cfg profiles) (obs : List Obs) (changed : Bool)
    (cell : Cell profiles) (rest : List (Cell profiles)) :
    ∃ h, Run Summary.Step (d.summaryAt (.visiting (cell :: rest) changed)) h
        ((flushCount (d, obs, changed) cell).1.summaryAt
          (.visiting rest (flushCount (d, obs, changed) cell).2.2)) ∧
      (flushCount (d, obs, changed) cell).2.1 = journaledCounts d.sys.now h ++ obs ∧
      (flushCount (d, obs, changed) cell).1.sys.now = d.sys.now := by
  have hvisit : Run Summary.Step (d.summaryAt (.visiting (cell :: rest) changed)) [.visited cell]
      ((d.clearCount cell.1 cell.2).summaryAt
        (if (d.counts cell.1 cell.2).dirty then .copied cell (d.counts cell.1 cell.2) rest
          else .visiting rest changed)) := by
    have hs := Run.refl.shows
      (Summary.Step.visit (s := d.summaryAt (.visiting (cell :: rest) changed)) rfl)
    simp only [summaryAt] at hs ⊢
    rw [counts_clearCount]
    exact hs
  unfold flushCount
  by_cases hd : (d.counts cell.1 cell.2).dirty = true
  · rw [if_pos hd] at hvisit
    have hcount := hvisit.shows (.emitCount rfl)
    by_cases h0 : (d.counts cell.1 cell.2).error = 0
    · simp only [hd, h0, ne_eq, not_true_eq_false, if_false, Bool.not_true, Bool.false_eq_true] at hcount ⊢
      exact ⟨_, hcount, rfl, rfl⟩
    · simp only [hd, h0, ne_eq, not_false_eq_true, if_true, Bool.not_true, Bool.false_eq_true,
        if_false] at hcount ⊢
      exact ⟨_, hcount.shows (.emitError rfl), rfl, rfl⟩
  · rw [if_neg hd] at hvisit
    simp only [hd, Bool.not_false, if_true]
    exact ⟨_, hvisit, rfl, rfl⟩

theorem run_flushCells (rest : List (Cell profiles)) (d : Diag cfg profiles) (obs : List Obs)
    (changed : Bool) :
    ∃ h, Run Summary.Step (d.summaryAt (.visiting rest changed)) h
        ((rest.foldl flushCount (d, obs, changed)).1.summaryAt
          (.visiting [] (rest.foldl flushCount (d, obs, changed)).2.2)) ∧
      (rest.foldl flushCount (d, obs, changed)).2.1 = journaledCounts d.sys.now h ++ obs := by
  induction rest generalizing d obs changed with
  | nil => exact ⟨[], .refl, rfl⟩
  | cons cell rest ih =>
    obtain ⟨h, hround, hobs, hnow⟩ := run_flushCount d obs changed cell rest
    rw [List.foldl_cons]
    generalize flushCount (d, obs, changed) cell = acc at hround hobs hnow
    obtain ⟨d', obs', changed'⟩ := acc
    dsimp only at hround hobs hnow
    obtain ⟨h', hrest, hobs'⟩ := ih d' obs' changed'
    refine ⟨h' ++ h, hround.trans hrest, ?_⟩
    rw [hobs', hobs, hnow, journaledCounts_append, List.append_assoc]

/-- **`flush_counts`**, from the queue to its return. -/
theorem run_flushCounts (d : Diag cfg profiles) (hq : d.summaryWork.queued.isSome)
    (counter block : Save) :
    ∃ h, Run Summary.Step (d.summaryAt .off) h ((d.flushCounts counter block).1.summaryAt .off) ∧
      ∃ saves, (d.flushCounts counter block).2 = saves ++ journaledCounts d.sys.now h := by
  have hstart : Run Summary.Step (d.summaryAt .off) [.started] _ := Run.refl.shows (.start hq rfl)
  obtain ⟨h, hcells, hobs⟩ := run_flushCells (Summary.cells profiles)
    { d with summaryWork := d.summaryWork.start } [] false
  have hloop := hstart.trans hcells
  have hkeep : journaledCounts d.sys.now (h ++ [.started]) = journaledCounts d.sys.now h := by
    rw [journaledCounts_append]
    exact List.append_nil _
  rw [List.append_nil] at hobs
  have hflush : d.flushCounts counter block =
      let acc := (Summary.cells profiles).foldl flushCount
        ({ d with summaryWork := d.summaryWork.start }, [], false)
      let last := if acc.2.2 then acc.1.totemHostEventLogPersist counter block else (acc.1, [])
      ({ last.1 with summaryWork := last.1.summaryWork.finish }, last.2 ++ acc.2.1) := rfl
  rw [hflush]
  generalize (Summary.cells profiles).foldl flushCount
    ({ d with summaryWork := d.summaryWork.start }, [], false) = acc at hloop hobs
  obtain ⟨d', obs, changed⟩ := acc
  dsimp only at hloop hobs ⊢
  cases changed with
  | false =>
    have hvisited : Run Summary.Step (d.summaryAt .off) (h ++ [.started]) (d'.summaryAt .returning) :=
      hloop.step (.visited rfl)
    have hdone := hvisited.quiet (.leave rfl)
    refine ⟨_, hdone, [], ?_⟩
    rw [hkeep, hobs]
    rfl
  | true =>
    have hvisited : Run Summary.Step (d.summaryAt .off) _ (d'.summaryAt .returning) :=
      hloop.step (.visited rfl)
    have hpersist := hvisited.trans (d'.run_persist .returning counter block)
    have hdone := hpersist.quiet (.leave rfl)
    refine ⟨_, hdone, (d'.totemHostEventLogPersist counter block).2, ?_⟩
    rw [if_pos rfl, hobs, ← hkeep]
    rfl

end Diag

end TotemZmk
