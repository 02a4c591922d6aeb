/-
`totem_watchdog_init` of `totem_watchdog.c` and what follows from it: the
channels it arms, the three contexts that feed them, and the callback that
resets the keyboard.

Zephyr's task watchdog arms a channel when `task_wdt_add` succeeds, feeds it
when `task_wdt_feed` is called, and calls back once it has not been fed for
its period.

* `watchdog_harmless_iff`: with live feeders no callback comes, and a watchdog
  reported DISABLED has no channel left, unless only some of the channels could
  be added.
* `watchdog_bites_disabled`: the reset when the third could not.
-/
import TotemZmk.Lib.Run
import Mathlib.Logic.Function.Basic

namespace TotemZmk

open Trace (Run)

/-- The feeders, each with a channel of its own: `wdt_feeder`,
`wdt_workq_handler` and `wdt_timer_handler`. -/
inductive Feeder where
  | sched
  | workq
  | timer
deriving DecidableEq, Repr

/-- `wdt_dev`, and whether it is ready. -/
inductive WdtDevice where
  | absent
  | notReady
  | ready
deriving DecidableEq, Repr

/-- What the calls of `totem_watchdog_init` answer, and when: `task_wdt_init`,
`task_wdt_add` for each channel, and the end, when the feeders start. -/
structure WdtOutcome where
  device : WdtDevice
  initErr : Int
  add : Feeder → Int
  addedAt : Feeder → Int
  startedAt : Int

/-- The watchdog: `chan_sched`, `chan_workq` and `chan_timer`, the armed
channels with the time they were last fed, and the feeders with the time they
last ran, or from which they are to run. -/
structure Watchdog where
  chan : Feeder → Int
  fed : Int → Option Int
  started : Bool
  lastRun : Feeder → Int
  /-- The line that ends in `watchdog DISABLED` was printed. -/
  disabled : Bool
  now : Int

namespace Watchdog

/-- `chan_label` -/
def chanLabel (s : Watchdog) (channelId : Int) : List Char :=
  if channelId = s.chan .sched then "sched".toList
  else if channelId = s.chan .workq then "sysworkq".toList
  else if channelId = s.chan .timer then "timer".toList
  else "unknown".toList

/-- `task_wdt_add` answered `channel`. -/
def taskWdtAdd (s : Watchdog) (feeder : Feeder) (channel now : Int) : Watchdog :=
  { s with
    chan := Function.update s.chan feeder channel
    fed := if 0 ≤ channel then Function.update s.fed channel (.some now) else s.fed }

/-- `task_wdt_feed`: a channel that is not armed stays so. -/
def taskWdtFeed (s : Watchdog) (channel : Int) : Watchdog :=
  { s with
    fed := if (s.fed channel).isSome then Function.update s.fed channel (.some s.now) else s.fed }

/-- Before `totem_watchdog_init`. -/
def boot₀ (now : Int) : Watchdog := ⟨fun _ => -1, fun _ => .none, false, fun _ => now, false, now⟩

/-- `totem_watchdog_init`, from where it looks for the device. -/
def totemWatchdogInit (o : WdtOutcome) : Watchdog :=
  let s := boot₀ o.startedAt
  if o.device ≠ .ready then { s with disabled := true }
  else if o.initErr ≠ 0 then { s with disabled := true }
  else
    let s := s.taskWdtAdd .sched (o.add .sched) (o.addedAt .sched)
    let s := s.taskWdtAdd .workq (o.add .workq) (o.addedAt .workq)
    let s := s.taskWdtAdd .timer (o.add .timer) (o.addedAt .timer)
    if s.chan .sched < 0 ∨ s.chan .workq < 0 ∨ s.chan .timer < 0 then { s with disabled := true }
    else { s with started := true, lastRun := o.addedAt }

/-- `totem_task_wdt_cb`, which notes the hang and resets. -/
structure Bite where
  channelId : Int
  label : List Char
deriving DecidableEq, Repr

/-- Time passes, a feeder runs, or a channel that was not fed for its period
calls back. -/
inductive Step (timeoutMs : Nat) : Watchdog → Option Bite → Watchdog → Prop where
  | tick {s} (t : Int) (h : s.now ≤ t) : Step timeoutMs s .none { s with now := t }
  | feed {s} (feeder : Feeder) (h : s.started = true) :
    Step timeoutMs s .none
      { s.taskWdtFeed (s.chan feeder) with
        lastRun := Function.update s.lastRun feeder s.now }
  | bite {s} {channel t : Int} (hf : s.fed channel = .some t) (h : t + timeoutMs ≤ s.now) :
    Step timeoutMs s (.some ⟨channel, s.chanLabel channel⟩) s

/-- Each feeder that was started ran less than the timeout ago. -/
def Alive (timeoutMs : Nat) (s : Watchdog) : Prop :=
  s.started = true → ∀ feeder, s.now < s.lastRun feeder + timeoutMs

/-- A step that leaves the feeders alive. -/
def LiveStep (timeoutMs : Nat) (s : Watchdog) (o : Option Bite) (s' : Watchdog) : Prop :=
  Step timeoutMs s o s' ∧ Alive timeoutMs s'

end Watchdog

namespace WdtOutcome

/-- Some channels could be added, and some could not. -/
def PartlyAdded (o : WdtOutcome) : Prop :=
  o.device = .ready ∧ o.initErr = 0 ∧ (∃ feeder, 0 ≤ o.add feeder) ∧ ∃ feeder, o.add feeder < 0

/-- All were. -/
def AllAdded (o : WdtOutcome) : Prop :=
  o.device = .ready ∧ o.initErr = 0 ∧ ∀ feeder, 0 ≤ o.add feeder

end WdtOutcome

namespace Watchdog

variable {timeoutMs : Nat} {o : WdtOutcome} {s s' : Watchdog}

/-! ## What the initialisation leaves -/

theorem chan_added (s : Watchdog) (o : WdtOutcome) (feeder : Feeder) :
    (((s.taskWdtAdd .sched (o.add .sched) (o.addedAt .sched)).taskWdtAdd .workq (o.add .workq)
      (o.addedAt .workq)).taskWdtAdd .timer (o.add .timer) (o.addedAt .timer)).chan feeder =
      o.add feeder := by
  cases feeder <;> simp [taskWdtAdd]

theorem init_all (h : o.AllAdded) :
    (totemWatchdogInit o).started = true ∧ (totemWatchdogInit o).disabled = false ∧
      (totemWatchdogInit o).lastRun = o.addedAt ∧ (totemWatchdogInit o).chan = o.add := by
  obtain ⟨hdev, herr, hadd⟩ := h
  have hs := hadd .sched
  have hw := hadd .workq
  have ht := hadd .timer
  unfold totemWatchdogInit
  dsimp only
  rw [if_neg (fun hne => hne hdev), if_neg (fun hne => hne herr)]
  simp only [chan_added]
  rw [if_neg (by omega)]
  exact ⟨rfl, rfl, rfl, funext fun feeder => chan_added _ o feeder⟩

theorem init_not_all (h : ¬o.AllAdded) :
    (totemWatchdogInit o).started = false ∧ (totemWatchdogInit o).disabled = true := by
  unfold totemWatchdogInit
  dsimp only
  by_cases hdev : o.device = .ready
  · rw [if_neg (fun hne => hne hdev)]
    by_cases herr : o.initErr = 0
    · rw [if_neg (fun hne => hne herr)]
      simp only [chan_added]
      have hsome : o.add .sched < 0 ∨ o.add .workq < 0 ∨ o.add .timer < 0 := by
        by_contra hno
        refine h ⟨hdev, herr, ?_⟩
        intro feeder
        cases feeder <;> omega
      rw [if_pos hsome]
      exact ⟨rfl, rfl⟩
    · rw [if_pos herr]
      exact ⟨rfl, rfl⟩
  · rw [if_pos hdev]
    exact ⟨rfl, rfl⟩

theorem fed_taskWdtAdd {feeder : Feeder} {channel now c t : Int}
    (h : (s.taskWdtAdd feeder channel now).fed c = .some t) :
    (c = channel ∧ 0 ≤ channel ∧ t = now) ∨ s.fed c = .some t := by
  unfold taskWdtAdd at h
  dsimp only at h
  split at h
  · rename_i hpos
    by_cases hc : c = channel
    · subst hc
      rw [Function.update_self, Option.some.injEq] at h
      exact .inl ⟨rfl, hpos, h.symm⟩
    · rw [Function.update_of_ne hc] at h
      exact .inr h
  · exact .inr h

theorem isSome_taskWdtAdd {feeder : Feeder} {channel now c : Int}
    (h : (c = channel ∧ 0 ≤ channel) ∨ (s.fed c).isSome) :
    ((s.taskWdtAdd feeder channel now).fed c).isSome := by
  unfold taskWdtAdd
  dsimp only
  by_cases hc : c = channel
  · subst hc
    split
    · rw [Function.update_self]
      rfl
    · rename_i hneg
      exact h.resolve_left fun hp => hneg hp.2
  · have hold := h.resolve_left fun hp => hc hp.1
    split
    · rwa [Function.update_of_ne hc]
    · exact hold

/-- The armed channels are those that were added, fed when they were. -/
theorem fed_init {channel t : Int} (h : (totemWatchdogInit o).fed channel = .some t) :
    o.device = .ready ∧ o.initErr = 0 ∧
      ∃ feeder, channel = o.add feeder ∧ 0 ≤ o.add feeder ∧ t = o.addedAt feeder := by
  unfold totemWatchdogInit at h
  dsimp only at h
  split at h
  · cases h
  · rename_i hdev
    split at h
    · cases h
    · rename_i herr
      refine ⟨not_not.mp hdev, not_not.mp herr, ?_⟩
      have hadded : (((boot₀ o.startedAt).taskWdtAdd .sched (o.add .sched) (o.addedAt .sched)
          |>.taskWdtAdd .workq (o.add .workq) (o.addedAt .workq)).taskWdtAdd .timer (o.add .timer)
          (o.addedAt .timer)).fed channel = .some t := by
        split at h <;> exact h
      rcases fed_taskWdtAdd hadded with hnew | hadded
      · exact ⟨.timer, hnew⟩
      · rcases fed_taskWdtAdd hadded with hnew | hadded
        · exact ⟨.workq, hnew⟩
        · rcases fed_taskWdtAdd hadded with hnew | hadded
          · exact ⟨.sched, hnew⟩
          · cases hadded

theorem isSome_fed_init (hdev : o.device = .ready) (herr : o.initErr = 0) {feeder : Feeder}
    (hadd : 0 ≤ o.add feeder) : ((totemWatchdogInit o).fed (o.add feeder)).isSome := by
  have hadded : ((((boot₀ o.startedAt).taskWdtAdd .sched (o.add .sched) (o.addedAt .sched)
      |>.taskWdtAdd .workq (o.add .workq) (o.addedAt .workq)).taskWdtAdd .timer (o.add .timer)
      (o.addedAt .timer)).fed (o.add feeder)).isSome := by
    cases feeder with
    | timer => exact isSome_taskWdtAdd (.inl ⟨rfl, hadd⟩)
    | workq => exact isSome_taskWdtAdd (.inr (isSome_taskWdtAdd (.inl ⟨rfl, hadd⟩)))
    | sched =>
      exact isSome_taskWdtAdd (.inr (isSome_taskWdtAdd (.inr (isSome_taskWdtAdd (.inl ⟨rfl, hadd⟩)))))
  unfold totemWatchdogInit
  dsimp only
  rw [if_neg (fun hne => hne hdev), if_neg (fun hne => hne herr)]
  split <;> exact hadded

/-! ## What a run keeps -/

/-- Each armed channel is some feeder's, and was fed when that one ran. -/
def Watched (s : Watchdog) : Prop :=
  s.started = true ∧ ∀ channel t, s.fed channel = .some t →
    ∃ feeder, channel = s.chan feeder ∧ s.lastRun feeder ≤ t

theorem watched_init (h : o.AllAdded) : Watched (totemWatchdogInit o) := by
  obtain ⟨hstarted, -, hlast, hchan⟩ := init_all h
  refine ⟨hstarted, ?_⟩
  intro channel t hf
  obtain ⟨-, -, feeder, hc, -, ht⟩ := fed_init hf
  refine ⟨feeder, by rw [hchan]; exact hc, Int.le_of_eq ?_⟩
  rw [hlast, ht]

theorem Watched.feed (h : Watched s) (feeder : Feeder) :
    Watched { s.taskWdtFeed (s.chan feeder) with
      lastRun := Function.update s.lastRun feeder s.now } := by
  refine ⟨h.1, ?_⟩
  intro channel t hf
  by_cases hc : channel = s.chan feeder
  · refine ⟨feeder, hc, ?_⟩
    have hfed : (s.taskWdtFeed (s.chan feeder)).fed channel = .some t := hf
    unfold taskWdtFeed at hfed
    dsimp only at hfed
    show Function.update s.lastRun feeder s.now feeder ≤ t
    rw [Function.update_self]
    split at hfed
    · rw [hc, Function.update_self, Option.some.injEq] at hfed
      omega
    · rename_i hno
      rw [hc] at hfed
      exact absurd (by rw [hfed]; rfl) hno
  · have hold : s.fed channel = .some t := by
      have hfed : (s.taskWdtFeed (s.chan feeder)).fed channel = .some t := hf
      unfold taskWdtFeed at hfed
      dsimp only at hfed
      split at hfed
      · rwa [Function.update_of_ne hc] at hfed
      · exact hfed
    obtain ⟨other, ho, hlast⟩ := h.2 channel t hold
    have hne : other ≠ feeder := by
      rintro rfl
      exact hc ho
    refine ⟨other, ho, ?_⟩
    show Function.update s.lastRun feeder s.now other ≤ t
    rw [Function.update_of_ne hne]
    exact hlast

theorem Watched.step {b : Option Bite} (h : Watched s) (ha : Alive timeoutMs s)
    (hs : Step timeoutMs s b s') : b = .none ∧ Watched s' := by
  cases hs with
  | tick t ht => exact ⟨rfl, h⟩
  | feed feeder hst => exact ⟨rfl, h.feed feeder⟩
  | bite hf hle =>
    obtain ⟨feeder, -, hlast⟩ := h.2 _ _ hf
    have hlive := ha h.1 feeder
    omega

theorem Watched.run {h : List Bite} (hw : Watched s) (ha : Alive timeoutMs s)
    (hr : Run (LiveStep timeoutMs) s h s') : h = [] ∧ Watched s' ∧ Alive timeoutMs s' := by
  induction hr with
  | refl => exact ⟨rfl, hw, ha⟩
  | step _ hs ih =>
    obtain ⟨hnil, hw, ha⟩ := ih
    obtain ⟨hb, hw'⟩ := hw.step ha hs.1
    exact ⟨by rw [hb, hnil]; rfl, hw', hs.2⟩

theorem run_unarmed {h : List Bite} (hno : ∀ channel, s.fed channel = .none)
    (hr : Run (LiveStep timeoutMs) s h s') : h = [] ∧ ∀ channel, s'.fed channel = .none := by
  induction hr with
  | refl => exact ⟨rfl, hno⟩
  | step _ hs ih =>
    obtain ⟨hnil, hno⟩ := ih
    obtain ⟨hs, -⟩ := hs
    cases hs with
    | tick t ht => exact ⟨hnil, hno⟩
    | feed feeder hst =>
      refine ⟨hnil, fun channel => ?_⟩
      simp [taskWdtFeed, hno]
    | bite hf hle =>
      rw [hno] at hf
      cases hf

/-! ## When the watchdog is harmless -/

theorem not_partlyAdded (h : ¬o.PartlyAdded) :
    o.AllAdded ∨ ∀ channel, (totemWatchdogInit o).fed channel = .none := by
  by_cases hall : o.AllAdded
  · exact .inl hall
  · refine .inr fun channel => ?_
    by_contra hf
    obtain ⟨t, hf⟩ := Option.ne_none_iff_exists'.mp hf
    obtain ⟨hdev, herr, feeder, -, hadd, -⟩ := fed_init hf
    refine h ⟨hdev, herr, ⟨feeder, hadd⟩, ?_⟩
    by_contra hno
    exact hall ⟨hdev, herr, fun f => by by_contra hneg; exact hno ⟨f, by omega⟩⟩

theorem PartlyAdded.not_all (h : o.PartlyAdded) : ¬o.AllAdded := by
  obtain ⟨-, -, -, feeder, hneg⟩ := h
  intro hall
  have := hall.2.2 feeder
  omega

theorem PartlyAdded.bites (h : o.PartlyAdded) :
    Alive timeoutMs (totemWatchdogInit o) ∧
      ∃ b s, Run (LiveStep timeoutMs) (totemWatchdogInit o) [b] s := by
  have hstarted := (init_not_all (PartlyAdded.not_all h)).1
  obtain ⟨hdev, herr, ⟨feeder, hadd⟩, -⟩ := h
  obtain ⟨t, hf⟩ := Option.isSome_iff_exists.mp (isSome_fed_init hdev herr hadd)
  generalize totemWatchdogInit o = s at hstarted hf
  have halive : ∀ now : Int, Alive timeoutMs { s with now := now } := by
    intro now hst
    rw [hstarted] at hst
    cases hst
  have hlate : Run (LiveStep timeoutMs) s [] { s with now := max s.now (t + timeoutMs) } :=
    Run.refl.quiet ⟨.tick _ (Int.le_max_left ..), halive _⟩
  exact ⟨halive s.now, _, _, hlate.shows ⟨.bite hf (Int.le_max_right ..), halive _⟩⟩

end Watchdog

/-- **A watchdog that gives up, or is fed, never resets the keyboard**, exactly
when the initialisation did not add some of its channels and fail to add
others: then alone a live run meets the callback, and then alone a watchdog
reported DISABLED has a channel left. -/
theorem watchdog_harmless_iff (timeoutMs : Nat) (o : WdtOutcome) :
    ((Watchdog.Alive timeoutMs (.totemWatchdogInit o) → ∀ h s,
        Run (Watchdog.LiveStep timeoutMs) (.totemWatchdogInit o) h s → h = []) ↔
      ¬o.PartlyAdded) ∧
    (((Watchdog.totemWatchdogInit o).disabled = true →
        ∀ channel, (Watchdog.totemWatchdogInit o).fed channel = .none) ↔
      ¬o.PartlyAdded) := by
  refine ⟨⟨?_, ?_⟩, ⟨?_, ?_⟩⟩
  · intro hlaw hpart
    obtain ⟨halive, b, s, hr⟩ := Watchdog.PartlyAdded.bites hpart
    cases hlaw halive _ _ hr
  · intro hpart halive h s hr
    rcases Watchdog.not_partlyAdded hpart with hall | hno
    · exact ((Watchdog.watched_init hall).run halive hr).1
    · exact (Watchdog.run_unarmed hno hr).1
  · intro hlaw hpart
    have hdisabled := (Watchdog.init_not_all (Watchdog.PartlyAdded.not_all hpart)).2
    obtain ⟨hdev, herr, ⟨feeder, hadd⟩, -⟩ := hpart
    have harmed := Watchdog.isSome_fed_init hdev herr hadd
    rw [hlaw hdisabled] at harmed
    cases harmed
  · intro hpart hdisabled
    rcases Watchdog.not_partlyAdded hpart with hall | hno
    · rw [(Watchdog.init_all hall).2.1] at hdisabled
      cases hdisabled
    · exact hno

/-- The third channel cannot be added (`-ENOMEM`). -/
def thirdRefused : WdtOutcome where
  device := .ready
  initErr := 0
  add := fun
    | .sched => 0
    | .workq => 1
    | .timer => -12
  addedAt := fun _ => 0
  startedAt := 0

/-- **The watchdog says it is disabled, and resets the keyboard**: the first
two channels stay armed, and ten seconds later the callback comes. -/
theorem watchdog_bites_disabled :
    (Watchdog.totemWatchdogInit thirdRefused).disabled = true ∧
      Watchdog.Alive 10000 (.totemWatchdogInit thirdRefused) ∧
      ∃ s, Run (Watchdog.LiveStep 10000) (.totemWatchdogInit thirdRefused)
        [⟨0, "sched".toList⟩] s := by
  have hstarted : (Watchdog.totemWatchdogInit thirdRefused).started = false := by decide
  have halive : ∀ now : Int, Watchdog.Alive 10000
      { Watchdog.totemWatchdogInit thirdRefused with now := now } := by
    intro now hst
    rw [hstarted] at hst
    cases hst
  have hlate : Run (Watchdog.LiveStep 10000) (.totemWatchdogInit thirdRefused) []
      { Watchdog.totemWatchdogInit thirdRefused with now := 10000 } :=
    Run.refl.quiet ⟨.tick 10000 (by decide), halive _⟩
  exact ⟨by decide, halive 0, _, hlate.shows ⟨.bite (t := 0) rfl (by decide), halive _⟩⟩

end TotemZmk
