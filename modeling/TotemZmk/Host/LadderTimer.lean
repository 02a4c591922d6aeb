/-
The reconnect ladder and its timer: `next_step` and `reconnect_watch_work`,
over every order of handlers, time, and the callbacks that run while step 2
waits inside `bt_conn_disconnect`.

`reconnect_watch_reset` in such a callback leaves the item cancelling until the
handler returns. The handler then writes `next_step` and schedules, and on a
cancelling item `k_work_schedule` does nothing.

* `Timed.handle`: no handler on its own parts the ladder from its timer.
* `ladder_armed_iff_timer`: nor does a run in which no reset falls into that
  wait.
* `ladder_loses_timer`: a host that connects meanwhile.
-/
import TotemZmk.Host.Watch

namespace TotemZmk

open Trace (Run RunWhere)
open Zephyr (Work)

namespace ReconnectWatch

variable {cfg : WatchConfig} {env : HostEnv} {now : Int} {w : ReconnectWatch}

/-- Between handlers: the ladder is armed as long as its timer is, and a timer
that runs ends within the longest delay. -/
structure Timed (cfg : WatchConfig) (now : Int) (w : ReconnectWatch) : Prop where
  running : w.reconnectWatchWork.running = false
  cancelling : w.reconnectWatchWork.cancelling = false
  armed : w.nextStep ≠ .none ↔ w.reconnectWatchWork.armed = true
  timely : w.reconnectWatchWork.Timely now
  bound : ∀ d, w.reconnectWatchWork.delayed = .some d → d ≤ now + kSeconds cfg.firstDelaySec

theorem stepSec_le_firstDelaySec (cfg : WatchConfig) : cfg.stepSec ≤ cfg.firstDelaySec := by
  unfold WatchConfig.firstDelaySec
  split
  · split <;> omega
  · exact Nat.le_refl _

theorem kSeconds_mono {a b : Nat} (h : a ≤ b) : kSeconds a ≤ kSeconds b := by
  unfold kSeconds
  omega

theorem kSeconds_nonneg (n : Nat) : 0 ≤ kSeconds n := by
  unfold kSeconds
  omega

theorem Timed.of_idle (hn : w.nextStep = .none) (hw : w.reconnectWatchWork = .idle) :
    Timed cfg now w where
  running := by rw [hw]; rfl
  cancelling := by rw [hw]; rfl
  armed := by simp [hn, hw]
  timely := by rw [hw]; exact .idle
  bound := by simp [hw, Work.idle]

/-- Only `next_step` and the item matter. -/
theorem Timed.congr {w' : ReconnectWatch} (h : Timed cfg now w) (hn : w'.nextStep = w.nextStep)
    (hw : w'.reconnectWatchWork = w.reconnectWatchWork) : Timed cfg now w' where
  running := by rw [hw]; exact h.running
  cancelling := by rw [hw]; exact h.cancelling
  armed := by rw [hn, hw]; exact h.armed
  timely := by rw [hw]; exact h.timely
  bound := by rw [hw]; exact h.bound

theorem Timed.reset (h : Timed cfg now w) : Timed cfg now w.reset :=
  .of_idle rfl (Work.cancel_of_not_running h.running)

theorem Timed.expire {t : Int} (h : Timed cfg now w) (ht : now ≤ t) :
    Timed cfg t (w.expire t) where
  running := Work.running_expire.trans h.running
  cancelling := Work.cancelling_expire.trans h.cancelling
  armed := by
    show w.nextStep ≠ .none ↔ (w.reconnectWatchWork.expire t).armed = true
    rw [Work.armed_expire h.cancelling]
    exact h.armed
  timely := h.timely.expire ht
  bound := fun d hd => by
    have hle := h.bound d (Work.delayed_expire hd)
    omega

/-- An arming, with a delay no longer than the longest. -/
theorem Timed.rescheduled {w' : ReconnectWatch} {sec : Nat} (h : Timed cfg now w)
    (hsec : sec ≤ cfg.firstDelaySec) (hn : w'.nextStep ≠ .none)
    (hw : w'.reconnectWatchWork = w.reconnectWatchWork.reschedule now (kSeconds sec)) :
    Timed cfg now w' where
  running := by rw [hw, Work.running_reschedule]; exact h.running
  cancelling := by rw [hw, Work.cancelling_reschedule]; exact h.cancelling
  armed := by
    rw [hw, Work.armed_reschedule h.cancelling h.timely (kSeconds_nonneg sec)]
    exact iff_of_true hn rfl
  timely := by rw [hw]; exact h.timely.reschedule (kSeconds_nonneg sec)
  bound := fun d hd => by
    rw [hw] at hd
    have hsec := kSeconds_mono hsec
    have hd := Work.delayed_reschedule hd
    omega

theorem Timed.profileChanged (h : Timed cfg now w) : Timed cfg now (w.profileChanged cfg env now).1 := by
  have hseen : Timed cfg now { w with watchProfileIndex := env.activeProfileIndex } :=
    h.congr rfl rfl
  rcases profileChanged_cases cfg env now w with ⟨-, he⟩ | ⟨-, he | ⟨-, he⟩⟩
  · rw [he]
    exact h
  · rw [he]
    exact hseen.reset
  · rw [he]
    exact hseen.rescheduled (Nat.le_refl _) (by rintro ⟨⟩) rfl

theorem Timed.activeDownArmWorkHandler (h : Timed cfg now w) :
    Timed cfg now (w.activeDownArmWorkHandler cfg env now).1 := by
  rcases activeDownArmWorkHandler_cases cfg env now w with he | he | ⟨-, -, he⟩
  · rw [he]
    exact h
  · rw [he]
    exact h
  · rw [he]
    exact h.rescheduled (stepSec_le_firstDelaySec cfg) (by rintro ⟨⟩) rfl

/-! ## Inside the handler -/

/-- While the handler runs, and nothing has cancelled it. -/
structure Entered (cfg : WatchConfig) (now : Int) (w : ReconnectWatch) : Prop where
  running : w.reconnectWatchWork.running = true
  cancelling : w.reconnectWatchWork.cancelling = false
  timely : w.reconnectWatchWork.Timely now
  bound : ∀ d, w.reconnectWatchWork.delayed = .some d → d ≤ now + kSeconds cfg.firstDelaySec

theorem Timed.startWatch (h : Timed cfg now w) : Entered cfg now w.startWatch where
  running := rfl
  cancelling := h.cancelling
  timely := h.timely.start
  bound := h.bound

theorem Entered.congr {w' : ReconnectWatch} (h : Entered cfg now w)
    (hw : w'.reconnectWatchWork = w.reconnectWatchWork) : Entered cfg now w' where
  running := by rw [hw]; exact h.running
  cancelling := by rw [hw]; exact h.cancelling
  timely := by rw [hw]; exact h.timely
  bound := by rw [hw]; exact h.bound

theorem Entered.expire {t : Int} (h : Entered cfg now w) (ht : now ≤ t) :
    Entered cfg t (w.expire t) where
  running := Work.running_expire.trans h.running
  cancelling := Work.cancelling_expire.trans h.cancelling
  timely := h.timely.expire ht
  bound := fun d hd => by
    have hle := h.bound d (Work.delayed_expire hd)
    omega

theorem Entered.advance {next : ReconnectStep} (h : Entered cfg now w) (hn : next ≠ .none) :
    Timed cfg now (w.advance cfg now next).finishWatch where
  running := rfl
  cancelling := rfl
  armed := by
    have harmed : (w.reconnectWatchWork.schedule now (kSeconds cfg.stepSec)).armed = true :=
      Work.armed_schedule h.cancelling
    exact iff_of_true hn harmed
  timely := (h.timely.schedule (kSeconds_nonneg _)).finish
  bound := fun d hd => by
    have hstep := kSeconds_mono (stepSec_le_firstDelaySec cfg)
    rcases Work.delayed_schedule hd with hd | hd
    · exact h.bound d hd
    · omega

theorem Timed.finish_reset : Timed cfg now w.reset.finishWatch := .of_idle rfl Work.finish_cancel

theorem Entered.workHandler (h : Entered cfg now w) :
    Timed cfg now (w.workHandler cfg env now).1.finishWatch := by
  rcases workHandler_cases cfg env now w with he | ⟨-, ⟨-, he⟩ | ⟨-, he⟩ | ⟨-, he⟩⟩
  · rw [he]
    exact .finish_reset
  · rw [he]
    exact h.advance (by simp)
  · rw [he]
    exact h.advance (by simp)
  · rw [he]
    exact .finish_reset

/-- **No handler parts the ladder from its timer**, if none runs meanwhile. -/
theorem Timed.handle (h : Timed cfg now w) (cause : Cause) :
    Timed cfg now (w.handle cfg env now cause).1 := by
  cases cause with
  | profileChanged => exact h.profileChanged
  | connected err =>
    show Timed cfg now (w.connected env err)
    rcases connected_cases env err w with he | ⟨-, he⟩
    · rw [he]
      exact h
    · rw [he]
      exact h.reset
  | disconnected idx =>
    show Timed cfg now (w.disconnected cfg env now idx)
    rcases disconnected_cases cfg env now idx w with he | ⟨-, he⟩
    · rw [he]
      exact h
    · rw [he]
      exact h.congr rfl rfl
  | securityChanged level =>
    show Timed cfg now (w.securityChanged env level)
    rcases securityChanged_cases env level w with he | ⟨-, he⟩
    · rw [he]
      exact h
    · rw [he]
      exact h.reset
  | activeDownArmWork =>
    have hstart : Timed cfg now { w with activeDownArmWork := w.activeDownArmWork.start } :=
      h.congr rfl rfl
    exact hstart.activeDownArmWorkHandler.congr rfl rfl
  | reconnectWatchWork => exact h.startWatch.workHandler

end ReconnectWatch

/-! ## Runs -/

/-- The module, the uptime, and whether step 2 waits in `bt_conn_disconnect`. -/
structure LadderTimer where
  watch : ReconnectWatch
  now : Int
  waiting : Bool
deriving DecidableEq, Repr

namespace LadderTimer

open ReconnectWatch (Cause Obs Timed Entered)

/-- The Bluetooth thread runs these, also while the work queue waits. -/
def callback : Cause → Bool
  | .connected _ | .disconnected _ | .securityChanged _ => true
  | .profileChanged | .activeDownArmWork | .reconnectWatchWork => false

/-- After `reconnect_watch_init`. -/
def boot₀ (profile : Nat) (now : Int) : LadderTimer := ⟨.init profile, now, false⟩

/-- One step of any context. -/
inductive Step (cfg : WatchConfig) : LadderTimer → Option Obs → LadderTimer → Prop where
  | tick {s} (t : Int) (h : s.now ≤ t) :
    Step cfg s .none { s with now := t, watch := s.watch.expire t }
  | settingsCommit {s} (env : HostEnv) :
    Step cfg s .none { s with watch := s.watch.settingsCommit env }
  | handle {s} (cause : Cause) (env : HostEnv) (he : s.watch.Enabled cause)
    (hw : s.waiting = true → callback cause = true) :
    Step cfg s (.some ⟨cause, env, s.now, (s.watch.handle cfg env s.now cause).2⟩)
      { s with watch := (s.watch.handle cfg env s.now cause).1 }
  /-- The handler of the ladder gets into step 2, and the walk waits for a host it
  disconnects. -/
  | wait {s} (env : HostEnv) (he : s.watch.Enabled .reconnectWatchWork) (hw : s.waiting = false)
    (hdrops : disconnects (s.watch.startWatch.enter cfg env s.now).2.1 ≠ []) :
    Step cfg s .none
      { s with watch := (s.watch.startWatch.enter cfg env s.now).1, waiting := true }
  /-- The walk is over: the rest of the handler. -/
  | resume {s} (hw : s.waiting = true) :
    Step cfg s .none
      { s with watch := (s.watch.advance cfg s.now .zombie).finishWatch, waiting := false }

/-- The callback calls `reconnect_watch_reset`. -/
def Resets (o : Obs) : Prop :=
  match o.cause with
  | .connected err => err = 0 ∧ o.env.activeProfileIsConnected = true
  | .securityChanged level => btSecurityL2 ≤ level ∧ o.env.activeProfileIsConnected = true
  | .profileChanged | .disconnected _ | .activeDownArmWork | .reconnectWatchWork => False

/-- No callback resets the ladder while step 2 waits. -/
def Undisturbed (_ : List Obs) (s : LadderTimer) : Option Obs → Prop
  | .some o => s.waiting = true → ¬Resets o
  | .none => True

/-- Between handlers the ladder has its timer; in the wait it has yet to ask
for one, and nothing is in the way of that. -/
structure Inv (cfg : WatchConfig) (s : LadderTimer) : Prop where
  between : s.waiting = false → Timed cfg s.now s.watch
  waiting : s.waiting = true → Entered cfg s.now s.watch

variable {cfg : WatchConfig} {h : List Obs} {s s' : LadderTimer} {o : Option Obs}

theorem inv_boot₀ (cfg : WatchConfig) (profile : Nat) (now : Int) : Inv cfg (boot₀ profile now) where
  between := fun _ => .of_idle rfl rfl
  waiting := by rintro ⟨⟩

/-- A callback that does not reset leaves the ladder's item alone. -/
theorem callback_work {cause : Cause} {env : HostEnv} {now : Int} {w : ReconnectWatch}
    {acts : List HostAct} (hcb : callback cause = true) (hr : ¬Resets ⟨cause, env, now, acts⟩) :
    (w.handle cfg env now cause).1.reconnectWatchWork = w.reconnectWatchWork := by
  cases cause with
  | connected err =>
    show (w.connected env err).reconnectWatchWork = _
    rcases ReconnectWatch.connected_cases env err w with he | ⟨hup, -⟩
    · rw [he]
    · exact absurd hup hr
  | disconnected idx =>
    show (w.disconnected cfg env now idx).reconnectWatchWork = _
    rcases ReconnectWatch.disconnected_cases cfg env now idx w with he | ⟨-, he⟩ <;> rw [he]
  | securityChanged level =>
    show (w.securityChanged env level).reconnectWatchWork = _
    rcases ReconnectWatch.securityChanged_cases env level w with he | ⟨hup, -⟩
    · rw [he]
    · exact absurd hup hr
  | profileChanged => cases hcb
  | activeDownArmWork => cases hcb
  | reconnectWatchWork => cases hcb

theorem enter_of_disconnects {env : HostEnv} {now : Int} {w : ReconnectWatch}
    (hdrops : disconnects (w.enter cfg env now).2.1 ≠ []) : (w.enter cfg env now).1 = w := by
  rcases ReconnectWatch.enter_cases cfg env now w with
    he | ⟨-, ⟨-, he⟩ | ⟨-, he⟩ | ⟨-, he⟩⟩
  · rw [he] at hdrops
    exact absurd rfl hdrops
  · rw [he] at hdrops
    refine absurd ?_ hdrops
    show disconnects [if cfg.boostSec.isSome then .advBoostRearm else .advKick] = []
    split <;> rfl
  · rw [he]
  · rw [he] at hdrops
    exact absurd rfl hdrops

theorem Inv.step (hi : Inv cfg s) (hs : Step cfg s o s') (hc : Undisturbed h s o) : Inv cfg s' := by
  cases hs with
  | tick t ht =>
    exact ⟨fun hw => (hi.between hw).expire ht, fun hw => (hi.waiting hw).expire ht⟩
  | settingsCommit env =>
    exact ⟨fun hw => (hi.between hw).congr rfl rfl, fun hw => (hi.waiting hw).congr rfl⟩
  | handle cause env he hw =>
    refine ⟨fun hw' => (hi.between hw').handle cause, fun hw' => ?_⟩
    exact (hi.waiting hw').congr (callback_work (hw hw') (hc hw'))
  | wait env he hw hdrops =>
    refine ⟨by simp, fun _ => ?_⟩
    have hstart := (hi.between hw).startWatch
    have hen := enter_of_disconnects hdrops
    show Entered cfg s.now (s.watch.startWatch.enter cfg env s.now).1
    rw [hen]
    exact hstart
  | resume hw => exact ⟨fun _ => (hi.waiting hw).advance (by simp), by simp⟩

end LadderTimer

/-- **An armed ladder has its timer**, in every run in which no callback resets
the ladder while step 2 waits in `bt_conn_disconnect`: between handlers
`next_step` is set exactly when `reconnect_watch_work` is scheduled or queued,
and then the item is due within the longest delay. -/
theorem ladder_armed_iff_timer (cfg : WatchConfig) (profile : Nat) (t₀ : Int)
    {h : List ReconnectWatch.Obs} {s : LadderTimer}
    (hr : RunWhere (LadderTimer.Step cfg) LadderTimer.Undisturbed (.boot₀ profile t₀) h s)
    (hw : s.waiting = false) :
    (s.watch.nextStep ≠ .none ↔ s.watch.reconnectWatchWork.armed = true) ∧
      (s.watch.nextStep ≠ .none → ∃ d, s.watch.reconnectWatchWork.due = .some d ∧
        d ≤ s.now + kSeconds cfg.firstDelaySec) := by
  have hi : LadderTimer.Inv cfg s :=
    hr.invariant (LadderTimer.inv_boot₀ cfg profile t₀) LadderTimer.Inv.step
  have ht := hi.between hw
  refine ⟨ht.armed, fun hn => ?_⟩
  have harmed := ht.armed.mp hn
  have hfirst := ReconnectWatch.kSeconds_nonneg cfg.firstDelaySec
  cases hq : s.watch.reconnectWatchWork.queued with
  | some q =>
    have hle := ht.timely.queued q hq
    exact ⟨q, by simp [Work.due, hq], by omega⟩
  | none =>
    cases hd : s.watch.reconnectWatchWork.delayed with
    | some d => exact ⟨d, by simp [Work.due, hq, hd], ht.bound d hd⟩
    | none => simp [Work.armed, hq, hd] at harmed

/-! ## A run of the ladder -/

/-- Eight seconds a step, and no boost. -/
def ladderConfig : WatchConfig := ⟨8, .none, true, by decide, by decide⟩

/-- The host of a profile, connected and encrypted. -/
def hostOf (profile : Int) : HostConn := ⟨0, .peripheral, true, profile, 2, 0⟩

/-- Profile 1, bonded, is selected while the host of profile 0 is connected; its own
host is, or not. -/
def selected (isConnected : Bool) : HostEnv :=
  ⟨.ble, .some false, false, 1, false, isConnected,
    if isConnected then [hostOf 0, hostOf 1] else [hostOf 0]⟩

/-- A ladder at `step`, for profile 1. -/
def ladderAt (step : ReconnectStep) (work : Work) : ReconnectWatch := ⟨step, false, 1, work, .idle⟩

/-- Profile 1 is selected; eight seconds later step 1 runs, and eight seconds after
that step 2 starts and waits in the `bt_conn_disconnect` of the host of profile 0. -/
theorem ladder_waits {C : List ReconnectWatch.Obs → LadderTimer → Option ReconnectWatch.Obs → Prop}
    (hc : ∀ h s o, s.waiting = false → C h s o) :
    ∃ h, RunWhere (LadderTimer.Step ladderConfig) C (.boot₀ 0 0) h
      ⟨ladderAt .evict ⟨.none, .none, true, false⟩, 16000, true⟩ := by
  have harmed := (RunWhere.refl.shows (.handle .profileChanged (selected false) trivial (by rintro ⟨⟩))
    (hc [] (.boot₀ 0 0) _ rfl) : RunWhere (LadderTimer.Step ladderConfig) C (.boot₀ 0 0) _
      ⟨ladderAt .readv ⟨.some 8000, .none, false, false⟩, 0, false⟩)
  have hdue := (harmed.quiet (.tick 8000 (by decide)) (hc _ _ _ rfl) :
    RunWhere _ C _ _ ⟨ladderAt .readv ⟨.none, .some 8000, false, false⟩, 8000, false⟩)
  have hfirst := (hdue.shows (.handle .reconnectWatchWork (selected false) rfl (by rintro ⟨⟩))
    (hc _ _ _ rfl) :
    RunWhere _ C _ _ ⟨ladderAt .evict ⟨.some 16000, .none, false, false⟩, 8000, false⟩)
  have hdue' := (hfirst.quiet (.tick 16000 (by decide)) (hc _ _ _ rfl) :
    RunWhere _ C _ _ ⟨ladderAt .evict ⟨.none, .some 16000, false, false⟩, 16000, false⟩)
  exact ⟨_, hdue'.quiet (.wait (selected false) rfl rfl (by decide)) (hc _ _ _ rfl)⟩

/-- While step 2 waits only the host it disconnects goes down: step 3 is then
scheduled. -/
theorem ladder_armed_iff_timer_last :
    ∃ (h : List ReconnectWatch.Obs) (s : LadderTimer),
      RunWhere (LadderTimer.Step ladderConfig) LadderTimer.Undisturbed (.boot₀ 0 0) h s ∧
        s.watch.nextStep = .zombie ∧ s.watch.reconnectWatchWork.armed = true ∧
        ∃ d, s.watch.reconnectWatchWork.due = .some d ∧ d ≤ s.now + kSeconds 8 := by
  obtain ⟨h, hr⟩ := ladder_waits (C := LadderTimer.Undisturbed) fun h s o hw => by
    cases o with
    | none => exact trivial
    | some o => exact fun hw' => absurd (hw.symm.trans hw') (by decide)
  have hdown : RunWhere _ LadderTimer.Undisturbed _ _
      ⟨ladderAt .evict ⟨.none, .none, true, false⟩, 16000, true⟩ :=
    hr.shows (.handle (.disconnected 0) (selected false) trivial fun _ => rfl) fun _ => id
  have hlast : RunWhere _ LadderTimer.Undisturbed _ _
      ⟨ladderAt .zombie ⟨.some 24000, .none, false, false⟩, 16000, false⟩ :=
    hdown.quiet (.resume rfl) trivial
  obtain ⟨harmed, hdue⟩ := ladder_armed_iff_timer ladderConfig 0 0 hlast rfl
  exact ⟨_, _, hlast, rfl, harmed.mp (by rintro ⟨⟩), hdue (by rintro ⟨⟩)⟩

/-- **The ladder loses its timer**: the selected host connects while step 2 waits
for the host of profile 0. `reconnect_watch_connected` disarms the ladder, and the
rest of the handler arms it again without a timer. -/
theorem ladder_loses_timer :
    ¬∀ (h : List ReconnectWatch.Obs) (s : LadderTimer),
      Run (LadderTimer.Step ladderConfig) (.boot₀ 0 0) h s → s.waiting = false →
        (s.watch.nextStep ≠ .none ↔ s.watch.reconnectWatchWork.armed = true) := by
  intro hlaw
  obtain ⟨h, hr⟩ := ladder_waits (C := fun _ _ _ => True) fun _ _ _ _ => trivial
  have hup : Run (LadderTimer.Step ladderConfig) (.boot₀ 0 0) _
      ⟨ladderAt .none ⟨.none, .none, true, true⟩, 16000, true⟩ :=
    hr.run.shows (.handle (.connected 0) (selected true) trivial fun _ => rfl)
  have hlost : Run (LadderTimer.Step ladderConfig) (.boot₀ 0 0) _
      ⟨ladderAt .zombie ⟨.none, .none, false, false⟩, 16000, false⟩ := hup.quiet (.resume rfl)
  have hiff := hlaw _ _ hlost rfl
  exact absurd (hiff.mp (by rintro ⟨⟩)) (by decide)

end TotemZmk
