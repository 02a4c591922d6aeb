/-
The wrappers of `hid_report_diagnostics.c` around the keyboard report queue: a
put or a get from any context, and the calls of the HOG worker, which are one
after the other, each a step at a time.

A wrapper counts after the real call returned, so a report may have moved and
not be counted yet. Calls on other queues go straight to the real function, and
so do lookups and notifications outside the worker.

* `hid_pipeline_conserves`: between calls no report is missing from the counts,
  and each report the worker took is counted once.
* `Step.totals`, `Step.owed`, `Step.fifo`: what a step counts, owes and moves.
-/
import TotemZmk.Hid.Summary
import Mathlib.Algebra.BigOperators.Fin
import Mathlib.Data.Nat.ModEq

namespace TotemZmk

open Trace (Run)

/-- `enum hid_stage` -/
inductive HidStage where
  | releaseOk
  | releaseFailed
  | queued
  | queueFailed
  | dequeued
  | evicted
  | noHostDrop
  | notifyAccepted
  | notifyFailed
  | unsubscribed
  | allUpQueued
  | allUpAccepted
  | allUpEvicted
  | allUpFailed
deriving DecidableEq, Repr

/-- The number of a stage. -/
def HidStage.index (stage : HidStage) : Fin hidStageCount :=
  ⟨stage.ctorIdx, by cases stage <;> decide⟩

theorem HidStage.index_inj {a b : HidStage} : a.index = b.index ↔ a = b := by
  refine ⟨fun h => ?_, fun h => h ▸ rfl⟩
  have hidx : a.ctorIdx = b.ctorIdx := congrArg Fin.val h
  rw [← HidStage.ofNat_ctorIdx a, hidx, HidStage.ofNat_ctorIdx]

/-- The stages of the queue. -/
def HidStage.OfQueue (stage : HidStage) : Prop :=
  stage = .queued ∨ stage = .dequeued ∨ stage = .evicted ∨ stage = .allUpQueued ∨
    stage = .allUpEvicted

/-- What `all_up` reads of `struct zmk_hid_keyboard_report_body`. -/
structure HidReport where
  modifiers : UInt8
  keys : List UInt8
deriving DecidableEq, Repr

/-- `all_up` -/
def HidReport.allUp (report : HidReport) : Bool :=
  report.modifiers = 0 && report.keys.all (· = 0)

namespace Pipeline

variable {profiles : Nat}

/-- What every context reaches: `zmk_hog_keyboard_msgq`, the active profile,
which is always one of the profiles, the counts and the clock. -/
structure Shared (profiles : Nat) where
  queue : List HidReport
  active : Fin profiles
  counts : Cell profiles → HidCount
  now : Int

/-- What can be observed, and what a history must remember. -/
inductive Obs (profiles : Nat) where
  /-- The real put, or the real get, moved the report. -/
  | queued (report : HidReport)
  | evicted (report : HidReport)
  | dequeued (report : HidReport)
  | counted (profile : Fin profiles) (stage : HidStage)
  /-- The worker's get answered an error. -/
  | missed
  /-- The worker's lookup returned. -/
  | looked (found : Bool)
  /-- The worker called `totem_hid_report_observed`. -/
  | observed (profile : Int)
  /-- The worker's notification returned. -/
  | notified
deriving DecidableEq, Repr

namespace Shared

/-- `count_event`: what it counts. -/
def count (s : Shared profiles) (profile : Int) (stage : HidStage) (err : Int) : Shared profiles :=
  match Summary.cellOf profiles profile stage.index with
  | .none => s
  | .some cell =>
    { s with counts := Function.update s.counts cell (Summary.bump (s.counts cell) s.now err) }

theorem toNat_lt {profile : Int} (h : 0 ≤ profile ∧ profile < profiles) :
    profile.toNat < profiles := by
  omega

/-- What counting shows: nothing for a profile there is not. -/
def counted (profiles : Nat) (profile : Int) (stage : HidStage) : Option (Obs profiles) :=
  if h : 0 ≤ profile ∧ profile < profiles then
    .some (.counted ⟨profile.toNat, toNat_lt h⟩ stage)
  else .none

end Shared

/-- A call in progress: `__wrap_z_impl_k_msgq_put`, or
`__wrap_z_impl_k_msgq_get` outside the worker. -/
inductive Call (profiles : Nat) where
  /-- In the real put. -/
  | putting (profile : Fin profiles) (report : HidReport)
  /-- Which has returned. -/
  | put (profile : Fin profiles) (released : Bool) (err : Int)
  /-- About to count `ALL_UP_QUEUED`. -/
  | allUpPut (profile : Fin profiles)
  /-- In the real get. -/
  | getting
  /-- Which has returned a report. -/
  | got (report : HidReport)
  /-- About to count `EVICTED`. -/
  | evicting (profile : Fin profiles) (released : Bool)
  /-- About to count `ALL_UP_EVICTED`. -/
  | allUpEvicting (profile : Fin profiles)
deriving DecidableEq, Repr

/-- One step of such a call, which is then over if nothing is left of it. -/
inductive CallStep : Shared profiles → Call profiles → Option (Obs profiles) →
    Shared profiles → Option (Call profiles) → Prop where
  | putOk {s profile report} :
    CallStep s (.putting profile report) (.some (.queued report))
      { s with queue := s.queue ++ [report] } (.some (.put profile report.allUp 0))
  | putErr {s profile report} (err : Int) (h : err ≠ 0) :
    CallStep s (.putting profile report) .none s (.some (.put profile report.allUp err))
  | putCount {s profile released err} :
    CallStep s (.put profile released err)
      (Shared.counted profiles profile (if err ≠ 0 then .queueFailed else .queued))
      (s.count profile (if err ≠ 0 then .queueFailed else .queued) err)
      (if err = 0 ∧ released then .some (.allUpPut profile) else .none)
  | allUpPut {s profile} :
    CallStep s (.allUpPut profile) (Shared.counted profiles profile .allUpQueued)
      (s.count profile .allUpQueued 0) .none
  | getOk {s report queue} (h : s.queue = report :: queue) :
    CallStep s .getting (.some (.evicted report)) { s with queue := queue } (.some (.got report))
  | getErr {s} : CallStep s .getting .none s .none
  | getRead {s report} :
    CallStep s (.got report) .none s (.some (.evicting s.active report.allUp))
  | evict {s profile released} :
    CallStep s (.evicting profile released) (Shared.counted profiles profile .evicted)
      (s.count profile .evicted 0) (if released then .some (.allUpEvicting profile) else .none)
  | allUpEvict {s profile} :
    CallStep s (.allUpEvicting profile) (Shared.counted profiles profile .allUpEvicted)
      (s.count profile .allUpEvicted 0) .none

/-- Where the worker is. -/
inductive Phase (profiles : Nat) where
  /-- In none of the calls below. -/
  | outside
  /-- In the real get. -/
  | getting
  /-- Which has returned a report. -/
  | got (report : HidReport)
  /-- About to count `DEQUEUED`. -/
  | counting (profile : Fin profiles) (released : Bool)
  /-- In the real lookup. -/
  | looking
  /-- Which found no host: about to count `NO_HOST_DROP`. -/
  | noHost (profile : Fin profiles)
  /-- And to return. -/
  | dropped
  /-- About to count `UNSUBSCRIBED`. -/
  | observing
  /-- In the real notification of a keyboard report. -/
  | notifying
  /-- Which has returned. -/
  | notified (err : Int)
  /-- About to count `ALL_UP_ACCEPTED` or `ALL_UP_FAILED`. -/
  | allUpNotified (err : Int)
  /-- And to return. -/
  | returning
deriving DecidableEq, Repr

/-- The worker, with `dequeued_report`, `all_up_report`, `keyboard_notify` and
`notify_profile`. -/
structure Hog (profiles : Nat) where
  phase : Phase profiles
  dequeuedReport : Bool
  allUpReport : Bool
  keyboardNotify : Bool
  notifyProfile : Int

/-- One step of the worker. -/
inductive HogStep : Shared profiles → Hog profiles → Option (Obs profiles) →
    Shared profiles → Hog profiles → Prop where
  | getStart {s w} (h : w.phase = .outside) : HogStep s w .none s { w with phase := .getting }
  | getOk {s w report queue} (h : w.phase = .getting) (hq : s.queue = report :: queue) :
    HogStep s w (.some (.dequeued report)) { s with queue := queue }
      { w with phase := .got report, dequeuedReport := true }
  | getErr {s w} (h : w.phase = .getting) :
    HogStep s w (.some .missed) s { w with phase := .outside, dequeuedReport := false }
  | getRead {s w report} (h : w.phase = .got report) :
    HogStep s w .none s { w with phase := .counting s.active report.allUp }
  | getCount {s w} {profile : Fin profiles} {released} (h : w.phase = .counting profile released) :
    HogStep s w (Shared.counted profiles profile .dequeued) (s.count profile .dequeued 0)
      { w with phase := .outside, allUpReport := released }
  | lookStart {s w} (h : w.phase = .outside) : HogStep s w .none s { w with phase := .looking }
  | lookFound {s w} (h : w.phase = .looking) :
    HogStep s w (.some (.looked true)) s { w with phase := .outside }
  | lookNone {s w} (h : w.phase = .looking) (hd : w.dequeuedReport = false) :
    HogStep s w (.some (.looked false)) s { w with phase := .outside }
  | lookDrop {s w} (h : w.phase = .looking) (hd : w.dequeuedReport = true) :
    HogStep s w .none s { w with phase := .noHost s.active }
  | drop {s w} {profile : Fin profiles} (h : w.phase = .noHost profile) :
    HogStep s w (Shared.counted profiles profile .noHostDrop) (s.count profile .noHostDrop 0)
      { w with phase := .dropped, dequeuedReport := false }
  | lookReturn {s w} (h : w.phase = .dropped) :
    HogStep s w (.some (.looked false)) s { w with phase := .outside }
  | observe {s w} (profile : Int) (subscribed : Bool) (h : w.phase = .outside) :
    HogStep s w (.some (.observed profile)) s
      { w with
        phase := if subscribed then .outside else .observing
        notifyProfile := profile
        keyboardNotify := true
        dequeuedReport := false }
  | unsubscribed {s w} (h : w.phase = .observing) :
    HogStep s w (Shared.counted profiles w.notifyProfile .unsubscribed)
      (s.count w.notifyProfile .unsubscribed 0) { w with phase := .outside }
  | notifyPass {s w} (h : w.phase = .outside) (hk : w.keyboardNotify = false) :
    HogStep s w (.some .notified) s w
  | notifyStart {s w} (h : w.phase = .outside) (hk : w.keyboardNotify = true) :
    HogStep s w .none s { w with phase := .notifying, keyboardNotify := false }
  | notifyReal {s w} (err : Int) (h : w.phase = .notifying) :
    HogStep s w .none s { w with phase := .notified err }
  | notifyCount {s w err} (h : w.phase = .notified err) :
    HogStep s w
      (Shared.counted profiles w.notifyProfile (if err ≠ 0 then .notifyFailed else .notifyAccepted))
      (s.count w.notifyProfile (if err ≠ 0 then .notifyFailed else .notifyAccepted) err)
      { w with phase := if w.allUpReport then .allUpNotified err else .returning }
  | allUpNotify {s w err} (h : w.phase = .allUpNotified err) :
    HogStep s w
      (Shared.counted profiles w.notifyProfile (if err ≠ 0 then .allUpFailed else .allUpAccepted))
      (s.count w.notifyProfile (if err ≠ 0 then .allUpFailed else .allUpAccepted) err)
      { w with phase := .returning }
  | notifyReturn {s w} (h : w.phase = .returning) :
    HogStep s w (.some .notified) s { w with phase := .outside }

end Pipeline

/-- The queue and its counts, the calls in progress, and the worker. -/
structure Pipeline (profiles : Nat) where
  shared : Pipeline.Shared profiles
  calls : List (Pipeline.Call profiles)
  hog : Pipeline.Hog profiles

namespace Pipeline

variable {profiles : Nat}

/-- At power-up. -/
def boot₀ (active : Fin profiles) (now : Int) : Pipeline profiles :=
  ⟨⟨[], active, fun _ => ⟨0, 0, 0, false⟩, now⟩, [], ⟨.outside, false, false, false, 0⟩⟩

/-- One step of any context. -/
inductive Step : Pipeline profiles → Option (Obs profiles) → Pipeline profiles → Prop where
  | tick {s} (t : Int) (h : s.shared.now ≤ t) :
    Step s .none { s with shared := { s.shared with now := t } }
  | select {s} (profile : Fin profiles) :
    Step s .none { s with shared := { s.shared with active := profile } }
  /-- `flush_counts` copies a cell. -/
  | flush {s} (cell : Cell profiles) :
    Step s .none
      { s with
        shared :=
          { s.shared with
            counts := Function.update s.shared.counts cell
              { s.shared.counts cell with dirty := false, error := 0 } } }
  | putStart {s} (report : HidReport) :
    Step s .none { s with calls := .putting s.shared.active report :: s.calls }
  | getStart {s} : Step s .none { s with calls := .getting :: s.calls }
  | call {s before call after o shared call'} (h : s.calls = before ++ call :: after)
      (hs : CallStep s.shared call o shared call') :
    Step s o { s with shared := shared, calls := before ++ call'.toList ++ after }
  | hog {s o shared hog} (hs : HogStep s.shared s.hog o shared hog) :
    Step s o { s with shared := shared, hog := hog }

/-! ## The history -/

/-- What the observations are worth together. -/
def weigh {α : Type} (f : α → Nat) (l : List α) : Nat := (l.map f).sum

theorem weigh_append {α : Type} (f : α → Nat) (l l' : List α) :
    weigh f (l ++ l') = weigh f l + weigh f l' := by
  simp [weigh]

theorem weigh_cons {α : Type} (f : α → Nat) (a : α) (l : List α) :
    weigh f (a :: l) = f a + weigh f l := by
  simp [weigh]

/-- The reports put, in order. -/
def puts : List (Obs profiles) → List HidReport
  | [] => []
  | .queued report :: h => puts h ++ [report]
  | .evicted _ :: h | .dequeued _ :: h | .counted _ _ :: h | .missed :: h | .looked _ :: h
  | .observed _ :: h | .notified :: h => puts h

/-- The reports got, in order. -/
def gets : List (Obs profiles) → List HidReport
  | [] => []
  | .evicted report :: h | .dequeued report :: h => gets h ++ [report]
  | .queued _ :: h | .counted _ _ :: h | .missed :: h | .looked _ :: h | .observed _ :: h
  | .notified :: h => gets h

/-- One, if so. -/
def one (p : Prop) [Decidable p] : Nat := if p then 1 else 0

namespace Obs

/-- Counts for the stage. -/
def counts (stage : HidStage) : Obs profiles → Nat
  | .counted _ stage' => one (stage' = stage)
  | _ => 0

/-- Counts for the stage and the profile. -/
def countsAt (profile : Fin profiles) (stage : HidStage) : Obs profiles → Nat
  | .counted profile' stage' => one (profile' = profile ∧ stage' = stage)
  | _ => 0

/-- What is to be counted of it, sooner or later. -/
def due (stage : HidStage) : Obs profiles → Nat
  | .queued report => one (stage = .queued) + one (stage = .allUpQueued ∧ report.allUp)
  | .evicted report => one (stage = .evicted) + one (stage = .allUpEvicted ∧ report.allUp)
  | .dequeued _ => one (stage = .dequeued)
  | _ => 0

/-- The worker took a report, one with no key down. -/
def taken : Obs profiles → Nat
  | .dequeued _ => 1
  | _ => 0

def allUpTaken : Obs profiles → Nat
  | .dequeued report => one report.allUp
  | _ => 0

/-- A stage that ends a report's way. -/
def ends : Obs profiles → Nat
  | .counted _ stage => one (stage = .noHostDrop ∨ stage = .notifyAccepted ∨ stage = .notifyFailed)
  | _ => 0

end Obs

/-- What the call has yet to count. -/
def Call.owes (stage : HidStage) : Call profiles → Nat
  | .putting _ _ | .getting => 0
  | .put _ released err =>
    if err = 0 then one (stage = .queued) + one (stage = .allUpQueued ∧ released) else 0
  | .allUpPut _ => one (stage = .allUpQueued)
  | .got report => one (stage = .evicted) + one (stage = .allUpEvicted ∧ report.allUp)
  | .evicting _ released => one (stage = .evicted) + one (stage = .allUpEvicted ∧ released)
  | .allUpEvicting _ => one (stage = .allUpEvicted)

/-- What the worker has yet to count. -/
def Hog.owes (stage : HidStage) (w : Hog profiles) : Nat :=
  match w.phase with
  | .got _ | .counting _ _ => one (stage = .dequeued)
  | _ => 0

/-! ## What a step counts, owes and moves -/

theorem counted_fin (profile : Fin profiles) (stage : HidStage) :
    Shared.counted profiles profile stage = .some (.counted profile stage) := by
  unfold Shared.counted
  have hlt := profile.isLt
  rw [dif_pos (by omega)]
  rfl

variable {stage : HidStage} {s s' : Shared profiles} {o : Option (Obs profiles)}

theorem CallStep.owed {call : Call profiles} {call' : Option (Call profiles)}
    (hstage : stage.OfQueue) (hs : CallStep s call o s' call') :
    weigh (Obs.counts stage) o.toList + weigh (Call.owes stage) call'.toList =
      call.owes stage + weigh (Obs.due stage) o.toList := by
  cases hs with
  | putOk | getOk _ | getErr | getRead => simp [weigh, Obs.counts, Obs.due, Call.owes]
  | putErr err hne => simp [weigh, Call.owes, hne]
  | putCount =>
    rename_i profile released err
    rw [counted_fin]
    by_cases herr : err = 0
    · rcases hstage with rfl | rfl | rfl | rfl | rfl <;> cases released <;>
        simp [weigh, Obs.counts, Obs.due, Call.owes, one, herr]
    · rcases hstage with rfl | rfl | rfl | rfl | rfl <;>
        simp [weigh, Obs.counts, Obs.due, Call.owes, one, herr]
  | allUpPut | allUpEvict =>
    rw [counted_fin]
    simp [weigh, Obs.counts, Obs.due, Call.owes, eq_comm]
  | evict =>
    rename_i profile released
    rw [counted_fin]
    rcases hstage with rfl | rfl | rfl | rfl | rfl <;> cases released <;>
      simp [weigh, Obs.counts, Obs.due, Call.owes, one]

theorem counts_counted_other {stage' : HidStage} (hne : stage' ≠ stage) (profile : Int) :
    weigh (Obs.counts stage) (Shared.counted profiles profile stage').toList = 0 := by
  unfold Shared.counted
  split
  · simp [weigh, Obs.counts, one, hne]
  · rfl

theorem due_counted {stage' : HidStage} (profile : Int) :
    weigh (Obs.due stage) (Shared.counted profiles profile stage').toList = 0 := by
  unfold Shared.counted
  split <;> rfl

theorem past_queue (hstage : stage.OfQueue) :
    HidStage.noHostDrop ≠ stage ∧ HidStage.unsubscribed ≠ stage ∧ HidStage.notifyAccepted ≠ stage ∧
      HidStage.notifyFailed ≠ stage ∧ HidStage.allUpAccepted ≠ stage ∧
      HidStage.allUpFailed ≠ stage := by
  rcases hstage with rfl | rfl | rfl | rfl | rfl <;> decide

theorem HogStep.owed {w w' : Hog profiles} (hstage : stage.OfQueue) (hs : HogStep s w o s' w') :
    weigh (Obs.counts stage) o.toList + w'.owes stage =
      w.owes stage + weigh (Obs.due stage) o.toList := by
  obtain ⟨hdrop, hunsub, haccepted, hfailed, hupAccepted, hupFailed⟩ := past_queue hstage
  cases hs with
  | getStart h | lookStart h | lookDrop h _ | notifyStart h _ | notifyReal _ h =>
    simp [weigh, Hog.owes, h]
  | getOk h _ | getErr h | getRead h | lookFound h | lookNone h _ | lookReturn h
  | notifyPass h _ | notifyReturn h =>
    simp [weigh, Obs.counts, Obs.due, Hog.owes, h]
  | getCount h =>
    rw [counted_fin]
    simp [weigh, Obs.counts, Obs.due, Hog.owes, h, eq_comm]
  | observe profile subscribed h =>
    cases subscribed <;> simp [weigh, Obs.counts, Obs.due, Hog.owes, h]
  | drop h =>
    rw [counts_counted_other hdrop, due_counted]
    simp [Hog.owes, h]
  | unsubscribed h =>
    rw [counts_counted_other hunsub, due_counted]
    simp [Hog.owes, h]
  | notifyCount h =>
    rename_i err
    have hne : (if err ≠ 0 then HidStage.notifyFailed else .notifyAccepted) ≠ stage := by
      split
      · exact hfailed
      · exact haccepted
    rw [counts_counted_other hne, due_counted]
    cases hup : w.allUpReport <;> simp [Hog.owes, h]
  | allUpNotify h =>
    rename_i err
    have hne : (if err ≠ 0 then HidStage.allUpFailed else .allUpAccepted) ≠ stage := by
      split
      · exact hupFailed
      · exact hupAccepted
    rw [counts_counted_other hne, due_counted]
    simp [Hog.owes, h]

/-! ### The totals -/

/-- Counting for one profile and stage, seen from any. -/
theorem total_count (profile : Int) (stage' : HidStage) (err : Int) (p : Fin profiles) :
    ((s.count profile stage' err).counts (p, stage.index)).total =
      (s.counts (p, stage.index)).total +
        UInt16.ofNat (weigh (Obs.countsAt p stage) (Shared.counted profiles profile stage').toList) := by
  unfold Shared.count Summary.cellOf Shared.counted
  by_cases hin : 0 ≤ profile ∧ profile < profiles
  · rw [dif_pos hin, dif_pos hin]
    dsimp only
    by_cases hcell : (⟨profile.toNat, by omega⟩ : Fin profiles) = p ∧ stage' = stage
    · obtain ⟨rfl, rfl⟩ := hcell
      rw [Function.update_self]
      simp [weigh, Obs.countsAt, one, Summary.bump]
    · have hne : (p, stage.index) ≠ ((⟨profile.toNat, by omega⟩ : Fin profiles), stage'.index) := by
        intro he
        rw [Prod.mk.injEq, HidStage.index_inj] at he
        exact hcell ⟨he.1.symm, he.2.symm⟩
      rw [Function.update_of_ne hne]
      simp [weigh, Obs.countsAt, one, hcell]
  · rw [dif_neg hin, dif_neg hin]
    simp [weigh]

theorem CallStep.totals {call : Call profiles} {call' : Option (Call profiles)}
    (hs : CallStep s call o s' call') (p : Fin profiles) :
    (s'.counts (p, stage.index)).total =
      (s.counts (p, stage.index)).total + UInt16.ofNat (weigh (Obs.countsAt p stage) o.toList) := by
  cases hs with
  | putOk | getOk _ | getErr | getRead | putErr _ _ => simp [weigh, Obs.countsAt]
  | putCount | allUpPut | evict | allUpEvict => exact total_count ..

theorem HogStep.totals {w w' : Hog profiles} (hs : HogStep s w o s' w') (p : Fin profiles) :
    (s'.counts (p, stage.index)).total =
      (s.counts (p, stage.index)).total + UInt16.ofNat (weigh (Obs.countsAt p stage) o.toList) := by
  cases hs with
  | getCount _ | drop _ | unsubscribed _ | notifyCount _ | allUpNotify _ => exact total_count ..
  | _ => simp [weigh, Obs.countsAt]

/-! ### The queue -/

theorem puts_counted {stage' : HidStage} (profile : Int) (h : List (Obs profiles)) :
    puts ((Shared.counted profiles profile stage').toList ++ h) = puts h ∧
      gets ((Shared.counted profiles profile stage').toList ++ h) = gets h := by
  unfold Shared.counted
  split <;> exact ⟨rfl, rfl⟩

theorem count_queue (profile : Int) (err : Int) : (s.count profile stage err).queue = s.queue := by
  unfold Shared.count
  split <;> rfl

theorem CallStep.fifo {call : Call profiles} {call' : Option (Call profiles)}
    {h : List (Obs profiles)} (hq : puts h = gets h ++ s.queue) (hs : CallStep s call o s' call') :
    puts (o.toList ++ h) = gets (o.toList ++ h) ++ s'.queue := by
  cases hs with
  | @putOk _ report =>
    show puts h ++ [report] = gets h ++ (s.queue ++ [report])
    rw [hq, List.append_assoc]
  | @getOk report queue hfirst =>
    show puts h = gets h ++ [report] ++ queue
    rw [hq, hfirst, List.append_assoc]
    rfl
  | getErr | getRead | putErr _ _ => exact hq
  | putCount | allUpPut | evict | allUpEvict =>
    rw [(puts_counted ..).1, (puts_counted ..).2, count_queue]
    exact hq

theorem HogStep.fifo {w w' : Hog profiles} {h : List (Obs profiles)}
    (hq : puts h = gets h ++ s.queue) (hs : HogStep s w o s' w') :
    puts (o.toList ++ h) = gets (o.toList ++ h) ++ s'.queue := by
  cases hs with
  | @getOk report queue _ hfirst =>
    show puts h = gets h ++ [report] ++ queue
    rw [hq, hfirst, List.append_assoc]
    rfl
  | getCount _ | drop _ | unsubscribed _ | notifyCount _ | allUpNotify _ =>
    rw [(puts_counted ..).1, (puts_counted ..).2, count_queue]
    exact hq
  | _ => exact hq

/-! ## The worker's turns -/

/-- How far the worker is with a report, by its calls. -/
inductive Turn where
  | over
  /-- It has taken the report. -/
  | dequeued
  /-- It has found a host. -/
  | found
  /-- It has called `totem_hid_report_observed`. -/
  | observed
deriving DecidableEq, Repr

/-- The calls it makes, one after the other: after each dequeue a lookup, then,
if that found a host, `totem_hid_report_observed` with one of its profiles and
one notification. Between turns it may look up and notify for other reports. -/
def Turn.next : Turn → Obs profiles → Option Turn
  | t, .queued _ | t, .evicted _ | t, .counted _ _ => .some t
  | .over, .dequeued _ => .some .dequeued
  | .over, .missed | .over, .looked _ | .over, .notified => .some .over
  | .dequeued, .looked true => .some .found
  | .dequeued, .looked false => .some .over
  | .found, .observed profile =>
    if 0 ≤ profile ∧ profile < profiles then .some .observed else .none
  | .observed, .notified => .some .over
  | _, _ => .none

/-- Where a history leaves the worker, if it went so. -/
def turn : List (Obs profiles) → Option Turn
  | [] => .some .over
  | o :: h => (turn h).bind (·.next o)

/-- Where the worker can be in its turn, with its flags, and how many of the
reports it took are not counted. It may go astray there, into a call that does
not belong to the turn, and then its next observation ends the script. -/
def Turn.At (t : Turn) (w : Hog profiles) (n : Nat) : Prop :=
  match t, w.phase with
  | .over, .outside | .over, .getting | .over, .looking =>
    n = 0 ∧ w.dequeuedReport = false ∧ w.keyboardNotify = false
  | .dequeued, .got _ | .dequeued, .counting _ _ | .dequeued, .outside | .dequeued, .getting
  | .dequeued, .looking | .dequeued, .noHost _ =>
    n = 1 ∧ w.dequeuedReport = true ∧ w.keyboardNotify = false
  | .dequeued, .dropped => n = 0 ∧ w.dequeuedReport = false ∧ w.keyboardNotify = false
  | .found, .outside | .found, .getting | .found, .looking | .found, .noHost _ =>
    n = 1 ∧ w.keyboardNotify = false
  | .found, .dropped => n = 0
  | .observed, .outside | .observed, .observing | .observed, .getting | .observed, .looking =>
    n = 1 ∧ w.dequeuedReport = false ∧ w.keyboardNotify = true ∧
      0 ≤ w.notifyProfile ∧ w.notifyProfile < profiles
  | .observed, .notifying | .observed, .notified _ =>
    n = 1 ∧ w.dequeuedReport = false ∧ w.keyboardNotify = false ∧
      0 ≤ w.notifyProfile ∧ w.notifyProfile < profiles
  | .observed, .allUpNotified _ | .observed, .returning =>
    n = 0 ∧ w.dequeuedReport = false ∧ w.keyboardNotify = false
  | _, _ => False

/-- What a step of the worker's turn leads to. -/
def Turn.Goes (t : Turn) (n : Nat) (o : Option (Obs profiles)) (w' : Hog profiles) : Prop :=
  ∀ t', o.elim (.some t) t.next = .some t' →
    ∃ n', n' + weigh Obs.ends o.toList = n + weigh Obs.taken o.toList ∧ t'.At w' n'

theorem Turn.At.silent {w' : Hog profiles} {t : Turn} {n : Nat} (h : t.At w' n) :
    t.Goes n .none w' := by
  intro t' ht
  cases ht
  exact ⟨n, rfl, h⟩

/-- A count of another stage leaves the turn as it is. -/
theorem Turn.At.counted {w' : Hog profiles} {t : Turn} {n : Nat} {profile : Int} (h : t.At w' n)
    (hne : stage ≠ .noHostDrop ∧ stage ≠ .notifyAccepted ∧ stage ≠ .notifyFailed) :
    t.Goes n (Shared.counted profiles profile stage) w' := by
  intro t' ht
  unfold Shared.counted at ht ⊢
  split
  · rename_i hin
    rw [dif_pos hin] at ht
    have hsame : t' = t := by cases t <;> cases ht <;> rfl
    subst hsame
    exact ⟨n, by simp [weigh, Obs.ends, Obs.taken, one, hne], h⟩
  · rename_i hout
    rw [dif_neg hout] at ht
    cases ht
    exact ⟨n, rfl, h⟩

theorem Turn.At.ended {w' : Hog profiles} {t : Turn} {profile : Int} (h : t.At w' 0)
    (hin : 0 ≤ profile ∧ profile < profiles)
    (hend : stage = .noHostDrop ∨ stage = .notifyAccepted ∨ stage = .notifyFailed) :
    t.Goes 1 (Shared.counted profiles profile stage) w' := by
  intro t' ht
  unfold Shared.counted at ht ⊢
  rw [dif_pos hin] at ht ⊢
  have hsame : t' = t := by cases t <;> cases ht <;> rfl
  subst hsame
  exact ⟨0, by simp [weigh, Obs.ends, Obs.taken, one, hend], h⟩

theorem HogStep.goes {w w' : Hog profiles} {t : Turn} {n : Nat} (hk : t.At w n)
    (hs : HogStep s w o s' w') : t.Goes n o w' := by
  cases hs with
  | getStart h | lookStart h | getRead h | notifyReal err h =>
    refine Turn.At.silent ?_
    cases t <;> simp only [Turn.At, h] at hk ⊢ <;> exact hk
  | getOk h hq =>
    intro t' ht
    cases t <;> simp only [Turn.At, h] at hk <;> cases ht
    exact ⟨1, by rw [hk.1]; rfl, rfl, rfl, hk.2.2⟩
  | getErr h =>
    intro t' ht
    cases t <;> simp only [Turn.At, h] at hk <;> cases ht
    exact ⟨n, rfl, hk.1, rfl, hk.2.2⟩
  | getCount h =>
    refine Turn.At.counted ?_ (by decide)
    cases t <;> simp only [Turn.At, h] at hk ⊢
    exact hk
  | lookFound h =>
    intro t' ht
    cases t <;> simp only [Turn.At, h] at hk <;> cases ht
    · exact ⟨n, rfl, hk⟩
    · exact ⟨n, rfl, hk.1, hk.2.2⟩
  | lookNone h hd =>
    intro t' ht
    cases t <;> simp only [Turn.At, h] at hk <;> cases ht
    · exact ⟨n, rfl, hk⟩
    · rw [hd] at hk
      cases hk.2.1
  | lookDrop h hd =>
    refine Turn.At.silent ?_
    cases t <;> simp only [Turn.At, h, hd] at hk ⊢
    · cases hk.2.1
    · exact ⟨hk.1, trivial, hk.2.2⟩
    · exact hk
    · cases hk.2.1
  | @drop profile h =>
    have hlt := profile.isLt
    cases t <;> simp only [Turn.At, h] at hk
    · obtain ⟨rfl, -, hkeyboard⟩ := hk
      exact Turn.At.ended (t := .dequeued) ⟨rfl, rfl, hkeyboard⟩ (by omega) (.inl rfl)
    · obtain ⟨rfl, -⟩ := hk
      exact Turn.At.ended (t := .found) rfl (by omega) (.inl rfl)
  | lookReturn h =>
    intro t' ht
    cases t <;> simp only [Turn.At, h] at hk <;> cases ht
    exact ⟨n, rfl, hk⟩
  | observe profile subscribed h =>
    intro t' ht
    cases t <;> simp only [Turn.At, h] at hk <;> (try cases ht)
    have hnext : (if 0 ≤ profile ∧ profile < profiles then Option.some Turn.observed else .none) =
        .some t' := ht
    split at hnext
    · rename_i hin
      cases hnext
      refine ⟨n, rfl, ?_⟩
      cases subscribed <;> exact ⟨hk.1, rfl, rfl, hin⟩
    · cases hnext
  | unsubscribed h =>
    refine Turn.At.counted ?_ (by decide)
    cases t <;> simp only [Turn.At, h] at hk ⊢
    exact hk
  | notifyPass h hno =>
    intro t' ht
    cases t <;> simp only [Turn.At, h] at hk <;> cases ht
    · exact ⟨n, rfl, by simp only [Turn.At, h]; exact hk⟩
    · rw [hno] at hk
      cases hk.2.2.1
  | notifyStart h hkeyboard =>
    refine Turn.At.silent ?_
    cases t <;> simp only [Turn.At, h, hkeyboard] at hk ⊢
    · cases hk.2.2
    · cases hk.2.2
    · cases hk.2
    · exact ⟨hk.1, hk.2.1, trivial, hk.2.2.2⟩
  | @notifyCount err h =>
    cases t <;> simp only [Turn.At, h] at hk
    obtain ⟨rfl, hdequeued, hkeyboard, hin⟩ := hk
    refine Turn.At.ended ?_ hin ?_
    · cases hup : w.allUpReport <;> exact ⟨rfl, hdequeued, hkeyboard⟩
    · by_cases herr : err = 0 <;> simp [herr]
  | @allUpNotify err h =>
    refine Turn.At.counted ?_ ?_
    · cases t <;> simp only [Turn.At, h] at hk ⊢
      exact hk
    · split <;> decide
  | notifyReturn h =>
    intro t' ht
    cases t <;> simp only [Turn.At, h] at hk
    cases ht
    exact ⟨n, rfl, hk⟩

theorem CallStep.neutral {call : Call profiles} {call' : Option (Call profiles)}
    (hs : CallStep s call o s' call') :
    (∀ t : Turn, o.elim (.some t) t.next = .some t) ∧ weigh Obs.ends o.toList = 0 ∧
      weigh Obs.taken o.toList = 0 := by
  cases hs with
  | putOk | getOk _ => exact ⟨fun t => by cases t <;> rfl, rfl, rfl⟩
  | putErr _ _ | getErr | getRead => exact ⟨fun t => rfl, rfl, rfl⟩
  | @putCount profile released err =>
    rw [counted_fin]
    refine ⟨fun t => by cases t <;> rfl, ?_, rfl⟩
    by_cases herr : err = 0 <;> simp [weigh, Obs.ends, one, herr]
  | allUpPut | evict | allUpEvict =>
    rw [counted_fin]
    exact ⟨fun t => by cases t <;> rfl, rfl, rfl⟩

/-! ## What a run keeps -/

/-- What holds of a history and the state it leads to. -/
structure Inv (h : List (Obs profiles)) (s : Pipeline profiles) : Prop where
  total : ∀ (stage : HidStage) p,
    (s.shared.counts (p, stage.index)).total = UInt16.ofNat (weigh (Obs.countsAt p stage) h)
  owed : ∀ stage : HidStage, stage.OfQueue →
    weigh (Obs.counts stage) h + (weigh (Call.owes stage) s.calls + s.hog.owes stage) =
      weigh (Obs.due stage) h
  fifo : puts h = gets h ++ s.shared.queue
  turn : ∀ t, Pipeline.turn h = .some t →
    ∃ n, weigh Obs.taken h = weigh Obs.ends h + n ∧ t.At s.hog n

theorem inv_boot₀ (active : Fin profiles) (now : Int) : Inv [] (boot₀ active now) where
  total := fun _ _ => rfl
  owed := fun _ _ => rfl
  fifo := rfl
  turn := by
    intro t ht
    cases ht
    exact ⟨0, rfl, rfl, rfl, rfl⟩

theorem turn_append (o : Option (Obs profiles)) (h : List (Obs profiles)) :
    turn (o.toList ++ h) = (turn h).bind fun t => o.elim (.some t) t.next := by
  cases o with
  | none =>
    show turn h = (turn h).bind .some
    cases turn h <;> rfl
  | some x => rfl

theorem ofNat_add_weigh (f : Obs profiles → Nat) (o : Option (Obs profiles))
    (h : List (Obs profiles)) :
    UInt16.ofNat (weigh f h) + UInt16.ofNat (weigh f o.toList) =
      UInt16.ofNat (weigh f (o.toList ++ h)) := by
  rw [weigh_append, UInt16.ofNat_add, UInt16.add_comm]

theorem Inv.step {h : List (Obs profiles)} {s s' : Pipeline profiles} (hi : Inv h s)
    (hs : Step s o s') : Inv (o.toList ++ h) s' := by
  cases hs with
  | tick _ _ | select _ => exact ⟨hi.total, hi.owed, hi.fifo, hi.turn⟩
  | flush cell =>
    refine ⟨?_, hi.owed, hi.fifo, hi.turn⟩
    intro stage p
    refine Eq.trans ?_ (hi.total stage p)
    show (Function.update s.shared.counts cell _ (p, stage.index)).total = _
    by_cases he : (p, stage.index) = cell
    · subst he
      rw [Function.update_self]
    · rw [Function.update_of_ne he]
  | putStart _ | getStart =>
    refine ⟨hi.total, ?_, hi.fifo, hi.turn⟩
    intro stage hstage
    rw [weigh_cons]
    show _ + (0 + _ + _) = _
    rw [Nat.zero_add]
    exact hi.owed stage hstage
  | call hcall hs =>
    refine ⟨?_, ?_, hs.fifo hi.fifo, ?_⟩
    · intro stage p
      rw [hs.totals p, hi.total stage p, ofNat_add_weigh]
    · intro stage hstage
      have howed := hi.owed stage hstage
      have hstep := hs.owed hstage
      rw [hcall, weigh_append, weigh_cons] at howed
      dsimp only
      rw [weigh_append, weigh_append (Obs.due stage), weigh_append, weigh_append]
      omega
    · intro t ht
      obtain ⟨hnext, hends, htaken⟩ := hs.neutral
      have hsame : Pipeline.turn (o.toList ++ h) = Pipeline.turn h := by
        rw [turn_append, funext hnext]
        cases Pipeline.turn h <;> rfl
      obtain ⟨n, hn, hat⟩ := hi.turn t (hsame ▸ ht)
      refine ⟨n, ?_, hat⟩
      rw [weigh_append, weigh_append, hends, htaken]
      omega
  | hog hs =>
    refine ⟨?_, ?_, hs.fifo hi.fifo, ?_⟩
    · intro stage p
      rw [hs.totals p, hi.total stage p, ofNat_add_weigh]
    · intro stage hstage
      have howed := hi.owed stage hstage
      have hstep := hs.owed hstage
      dsimp only
      rw [weigh_append, weigh_append (Obs.due stage)]
      omega
    · intro t' ht
      rw [turn_append, Option.bind_eq_some_iff] at ht
      obtain ⟨t, ht, hnext⟩ := ht
      obtain ⟨n, hn, hat⟩ := hi.turn t ht
      obtain ⟨n', hn', hat'⟩ := hs.goes hat t' hnext
      refine ⟨n', ?_, hat'⟩
      rw [weigh_append, weigh_append]
      omega

theorem inv_run {active : Fin profiles} {now : Int} {h : List (Obs profiles)}
    {s : Pipeline profiles} (hr : Run Step (boot₀ active now) h s) : Inv h s :=
  hr.invariant (inv_boot₀ active now) Inv.step

/-! ## The totals of the stages -/

/-- The sum over the profiles. -/
def total (s : Pipeline profiles) (stage : HidStage) : Nat :=
  ∑ p, (s.shared.counts (p, stage.index)).total.toNat

theorem sum_countsAt (stage : HidStage) (h : List (Obs profiles)) :
    ∑ p, weigh (Obs.countsAt p stage) h = weigh (Obs.counts stage) h := by
  induction h with
  | nil => simp [weigh]
  | cons o h ih =>
    simp only [weigh_cons, Finset.sum_add_distrib, ih]
    congr 1
    cases o with
    | counted profile stage' =>
      by_cases he : stage' = stage <;> simp [Obs.countsAt, Obs.counts, one, he]
    | _ => simp [Obs.countsAt, Obs.counts]

theorem Inv.total_modEq {h : List (Obs profiles)} {s : Pipeline profiles} (hi : Inv h s)
    (stage : HidStage) : s.total stage ≡ weigh (Obs.counts stage) h [MOD 65536] := by
  rw [← sum_countsAt]
  unfold Nat.ModEq Pipeline.total
  rw [Finset.sum_nat_mod, Finset.sum_nat_mod (f := fun p => weigh (Obs.countsAt p stage) h)]
  congr 1
  refine Finset.sum_congr rfl fun p _ => ?_
  rw [hi.total stage p, UInt16.toNat_ofNat', Nat.mod_mod]

theorem due_puts (h : List (Obs profiles)) :
    weigh (Obs.due .queued) h = (puts h).length ∧
      weigh (Obs.due .allUpQueued) h = (puts h).countP HidReport.allUp := by
  induction h with
  | nil => exact ⟨rfl, rfl⟩
  | cons o h ih =>
    rw [weigh_cons, weigh_cons, ih.1, ih.2]
    cases o with
    | queued report =>
      have hputs : puts (.queued report :: h) = puts h ++ [report] := rfl
      rw [hputs, List.length_append, List.countP_append]
      cases hup : report.allUp <;> simp [Obs.due, one, hup, Nat.add_comm]
    | _ => exact ⟨Nat.zero_add _, Nat.zero_add _⟩

theorem due_gets (h : List (Obs profiles)) :
    weigh (Obs.due .dequeued) h + weigh (Obs.due .evicted) h = (gets h).length ∧
      weigh Obs.allUpTaken h + weigh (Obs.due .allUpEvicted) h =
        (gets h).countP HidReport.allUp := by
  induction h with
  | nil => exact ⟨rfl, rfl⟩
  | cons o h ih =>
    simp only [weigh_cons]
    cases o with
    | evicted report =>
      have hgets : gets (.evicted report :: h) = gets h ++ [report] := rfl
      rw [hgets, List.length_append, List.countP_append, ← ih.1, ← ih.2]
      cases hup : report.allUp <;> simp [Obs.due, Obs.allUpTaken, one, hup] <;> omega
    | dequeued report =>
      have hgets : gets (.dequeued report :: h) = gets h ++ [report] := rfl
      rw [hgets, List.length_append, List.countP_append, ← ih.1, ← ih.2]
      cases hup : report.allUp <;> simp [Obs.due, Obs.allUpTaken, one, hup] <;> omega
    | _ => simpa [Obs.due, Obs.allUpTaken, one, gets] using ih

/-- With no call in progress, what is due has been counted. -/
theorem Inv.settled {h : List (Obs profiles)} {s : Pipeline profiles} (hi : Inv h s)
    (hcalls : s.calls = []) (hout : s.hog.phase = .outside) (hstage : stage.OfQueue) :
    s.total stage ≡ weigh (Obs.due stage) h [MOD 65536] := by
  have howed := hi.owed stage hstage
  have hhog : s.hog.owes stage = 0 := by simp [Hog.owes, hout]
  rw [hcalls, hhog] at howed
  rw [← howed]
  exact hi.total_modEq stage

theorem ends_eq (h : List (Obs profiles)) :
    weigh Obs.ends h = weigh (Obs.counts .noHostDrop) h + weigh (Obs.counts .notifyAccepted) h +
      weigh (Obs.counts .notifyFailed) h := by
  induction h with
  | nil => rfl
  | cons o h ih =>
    simp only [weigh_cons, ih]
    cases o with
    | counted profile stage =>
      cases stage <;> simp [Obs.ends, Obs.counts, one] <;> omega
    | _ => simp [Obs.ends, Obs.counts]

theorem Inv.over {h : List (Obs profiles)} {s : Pipeline profiles} (hi : Inv h s)
    (ht : Pipeline.turn h = .some .over) : weigh Obs.ends h = weigh Obs.taken h := by
  obtain ⟨n, hn, hat⟩ := hi.turn _ ht
  have h0 : n = 0 := by
    unfold Turn.At at hat
    split at hat <;> first | exact hat.1 | (rename_i heq _; cases heq) | cases hat
  omega

/-- A history that went by the script did so at first. -/
theorem turn_of_append {h h' : List (Obs profiles)} {t : Turn} (ht : turn (h ++ h') = .some t) :
    ∃ t', turn h' = .some t' := by
  induction h generalizing t with
  | nil => exact ⟨t, ht⟩
  | cons o h ih =>
    obtain ⟨t', ht', -⟩ := Option.bind_eq_some_iff.mp ht
    exact ih ht'

theorem taken_eq_zero {h : List (Obs profiles)} (hno : ∀ report, .dequeued report ∉ h) :
    weigh Obs.taken h = 0 := by
  induction h with
  | nil => rfl
  | cons o h ih =>
    rw [weigh_cons, ih fun report hm => hno report (List.mem_cons_of_mem _ hm)]
    cases o with
    | dequeued report => exact absurd List.mem_cons_self (hno report)
    | _ => rfl

theorem ends_turn {active : Fin profiles} {now : Int} {later own earlier : List (Obs profiles)}
    {report : HidReport} {s : Pipeline profiles}
    (hr : Run Step (boot₀ active now) (later ++ (own ++ .dequeued report :: earlier)) s)
    (hno : ∀ report, .dequeued report ∉ own)
    (ht : turn (own ++ .dequeued report :: earlier) = .some .over) : weigh Obs.ends own = 1 := by
  obtain ⟨t, hdequeued⟩ := turn_of_append ht
  obtain ⟨t', ht', hnext⟩ := Option.bind_eq_some_iff.mp hdequeued
  have hover : t' = .over := by cases t' <;> first | rfl | cases hnext
  subst hover
  cases own with
  | nil =>
    rw [show t = .dequeued from (Option.some.inj hnext).symm] at hdequeued
    rw [List.nil_append, hdequeued] at ht
    cases ht
  | cons o own =>
    obtain ⟨s₁, s₂, hr₁, hs, -⟩ := hr.split rfl
    have hend : weigh Obs.ends (o :: own ++ .dequeued report :: earlier) =
        weigh Obs.taken (o :: own ++ .dequeued report :: earlier) :=
      (inv_run (hr₁.shows hs)).over ht
    obtain ⟨s₃, s₄, hr₃, -, -⟩ := hr₁.split rfl
    have hbegin := (inv_run hr₃).over ht'
    have htaken := taken_eq_zero hno
    rw [weigh_append, weigh_append, weigh_cons Obs.ends (.dequeued report),
      weigh_cons Obs.taken (.dequeued report), hbegin, htaken] at hend
    have hone : Obs.ends (.dequeued report : Obs profiles) = 0 ∧
        Obs.taken (.dequeued report : Obs profiles) = 1 := ⟨rfl, rfl⟩
    omega

end Pipeline

/-- **The report pipeline conserves reports.** Whenever no call is in progress,
what was queued is dequeued, evicted or still in the queue, and so with the
reports that have no key down; and a worker that goes by the script has, once a
turn is over, counted the turn's report once. -/
theorem hid_pipeline_conserves {profiles : Nat} (active : Fin profiles) (now : Int)
    {h : List (Pipeline.Obs profiles)} {s : Pipeline profiles}
    (hr : Run Pipeline.Step (.boot₀ active now) h s) :
    (s.calls = [] → s.hog.phase = .outside →
      s.total .queued ≡ s.total .dequeued + s.total .evicted + s.shared.queue.length [MOD 65536] ∧
      s.total .allUpQueued ≡ Pipeline.weigh Pipeline.Obs.allUpTaken h + s.total .allUpEvicted +
        s.shared.queue.countP HidReport.allUp [MOD 65536]) ∧
    (Pipeline.turn h = .some .over →
      s.total .noHostDrop + s.total .notifyAccepted + s.total .notifyFailed ≡
        Pipeline.weigh Pipeline.Obs.taken h [MOD 65536]) ∧
    (∀ later own earlier report, h = later ++ (own ++ .dequeued report :: earlier) →
      (∀ report, .dequeued report ∉ own) →
      Pipeline.turn (own ++ .dequeued report :: earlier) = .some .over →
      Pipeline.weigh Pipeline.Obs.ends own = 1) := by
  have hi := Pipeline.inv_run hr
  refine ⟨fun hcalls hout => ⟨?_, ?_⟩, ?_, ?_⟩
  · have hqueued := hi.settled hcalls hout (.inl rfl)
    have hdequeued := hi.settled hcalls hout (.inr (.inl rfl))
    have hevicted := hi.settled hcalls hout (.inr (.inr (.inl rfl)))
    rw [(Pipeline.due_puts h).1, hi.fifo, List.length_append, ← (Pipeline.due_gets h).1] at hqueued
    exact hqueued.trans (((hdequeued.add hevicted).add_right _).symm)
  · have hqueued := hi.settled hcalls hout (.inr (.inr (.inr (.inl rfl))))
    have hevicted := hi.settled hcalls hout (.inr (.inr (.inr (.inr rfl))))
    rw [(Pipeline.due_puts h).2, hi.fifo, List.countP_append, ← (Pipeline.due_gets h).2] at hqueued
    exact hqueued.trans (((hevicted.add_left _).add_right _).symm)
  · intro ht
    rw [← hi.over ht, Pipeline.ends_eq]
    exact ((hi.total_modEq .noHostDrop).add (hi.total_modEq .notifyAccepted)).add
      (hi.total_modEq .notifyFailed)
  · intro later own earlier report he
    subst he
    exact Pipeline.ends_turn hr

theorem Pipeline.Step.last {profiles : Nat} {s : Pipeline profiles} {call : Pipeline.Call profiles}
    {calls : List (Pipeline.Call profiles)} {o : Option (Pipeline.Obs profiles)}
    {shared : Pipeline.Shared profiles} {call' : Option (Pipeline.Call profiles)}
    (h : s.calls = call :: calls) (hs : Pipeline.CallStep s.shared call o shared call') :
    Pipeline.Step s o { s with shared := shared, calls := call'.toList ++ calls } := by
  have hcalls : s.calls = [] ++ call :: calls := h
  exact .call hcalls hs

/-- A key is pressed with no host connected: the report is queued, dequeued and
dropped. -/
def pressed : HidReport := ⟨0, [8, 0, 0, 0, 0, 0]⟩

theorem hid_pipeline_conserves_dropped :
    ∃ (h : List (Pipeline.Obs 5)) (s : Pipeline 5), Run Pipeline.Step (.boot₀ 2 0) h s ∧
      (s.total .queued ≡ s.total .dequeued + s.total .evicted + s.shared.queue.length
        [MOD 65536]) ∧
      s.total .noHostDrop + s.total .notifyAccepted + s.total .notifyFailed ≡
        Pipeline.weigh Pipeline.Obs.taken h [MOD 65536] := by
  have hput : Run Pipeline.Step (Pipeline.boot₀ (2 : Fin 5) 0) [] _ :=
    Run.refl.quiet (.putStart pressed)
  have hqueued := (hput.shows (.last rfl .putOk)).shows (.last rfl .putCount)
  have hdequeued := ((hqueued.quiet (.hog (.getStart rfl))).shows (.hog (.getOk rfl rfl))).quiet
    (.hog (.getRead rfl))
  have hcounted := hdequeued.step (.hog (.getCount rfl))
  have hlooked := (hcounted.quiet (.hog (.lookStart rfl))).quiet (.hog (.lookDrop rfl rfl))
  have hdropped := (hlooked.step (.hog (.drop rfl))).shows (.hog (.lookReturn rfl))
  have hlaw := hid_pipeline_conserves 2 0 hdropped
  exact ⟨_, _, hdropped, (hlaw.1 rfl rfl).1, hlaw.2.1 rfl⟩

end TotemZmk
