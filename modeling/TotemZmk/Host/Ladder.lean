/-
The discipline of the reconnect ladder, over runs of its handlers after the
settings commit: which arming it belongs to, which steps it takes and when, and
how often it is armed.

A switch raises its event before any other handler runs. A switch that arms
the ladder while `reconnect_watch_work` is on its queue leaves it there, and
step 1 then runs inside the boost window.

* `ladder_disciplined`: the discipline, in every run without such a switch.
* `ladder_steps_early`: one such switch.
* `handle_change`: all that a handler can do to the ladder.
-/
import TotemZmk.Host.LadderTimer
import Mathlib.Data.List.Infix

namespace TotemZmk

open Trace (Run RunWhere)
open Zephyr (Work)

/-! ## What is recorded of a ladder -/

/-- `TOTEM_HEVT_WATCH_ARM` -/
def HostAct.armsWatch : HostAct → Bool
  | .record args => args.type = totemHevtWatchArm
  | .advBoostRearm | .advKick | .disconnect _ _ => false

/-- The number in a `TOTEM_HEVT_WATCH_STEP`. -/
def HostAct.watchStep : HostAct → Option UInt8
  | .record args => if args.type = totemHevtWatchStep then .some args.reason else .none
  | .advBoostRearm | .advKick | .disconnect _ _ => .none

namespace ReconnectWatch

/-- The handler armed a ladder. -/
def Obs.arms (o : Obs) : Bool := o.acts.any HostAct.armsWatch

/-- The steps of a ladder the handler took. -/
def Obs.steps (o : Obs) : List UInt8 := o.acts.filterMap HostAct.watchStep

/-- A peer that maps to the active profile disconnected. -/
def Obs.mapped (o : Obs) : Bool :=
  match o.cause with
  | .disconnected idx => idx = o.env.activeProfileIndex
  | .profileChanged | .connected _ | .securityChanged _ | .activeDownArmWork
  | .reconnectWatchWork => false

/-- The steps taken since the last arming, oldest first. -/
def stepsSince : List Obs → List UInt8
  | [] => []
  | o :: h => if o.arms then [] else stepsSince h ++ o.steps

/-- The active profile after a history that began with `profile₀`. -/
def lastActive (profile₀ : Nat) : List Obs → Nat
  | [] => profile₀
  | o :: _ => o.env.activeProfileIndex

/-- The profile switches of a history: the events that find another profile
active than the handler before. -/
def switches (profile₀ : Nat) : List Obs → Nat
  | [] => 0
  | o :: h =>
    switches profile₀ h +
      if o.cause = .profileChanged ∧ o.env.activeProfileIndex ≠ lastActive profile₀ h then 1 else 0

/-- The time an arming leaves before the first step: a full one, on a switch,
waits out the boost window. -/
def Obs.delay (cfg : WatchConfig) (o : Obs) : Int :=
  kSeconds (if o.cause = .profileChanged then max (cfg.boostSec.getD 0) cfg.stepSec else cfg.stepSec)

theorem firstDelaySec_eq (cfg : WatchConfig) :
    cfg.firstDelaySec = max (cfg.boostSec.getD 0) cfg.stepSec := by
  unfold WatchConfig.firstDelaySec
  cases cfg.boostSec with
  | none => simp
  | some boostSec =>
    dsimp only [Option.getD_some]
    split <;> omega

/-! ## What a handler can do to the ladder -/

/-- The steps done when `step` comes next. -/
def done : ReconnectStep → List UInt8
  | .readv => []
  | .evict => [1]
  | .zombie => [1, 2]
  | .none => [1, 2, 3]

/-- The step after `step`. -/
def after : ReconnectStep → ReconnectStep
  | .readv => .evict
  | .evict => .zombie
  | .zombie | .none => .none

/-- Calls that record neither an arming nor a step. -/
structure Silent (acts : List HostAct) : Prop where
  arms : acts.any HostAct.armsWatch = false
  steps : acts.filterMap HostAct.watchStep = []

/-- The ladder is armed anew, with its first step `sec` seconds away. -/
structure ArmedBy (sec : Nat) (fromActiveDown : Bool) (now : Int) (w w' : ReconnectWatch)
    (acts : List HostAct) : Prop where
  nextStep : w'.nextStep = .readv
  ladderFromActiveDown : w'.ladderFromActiveDown = fromActiveDown
  work : w'.reconnectWatchWork = w.reconnectWatchWork.reschedule now (kSeconds sec)
  arms : acts.any HostAct.armsWatch = true
  steps : acts.filterMap HostAct.watchStep = []

/-- All that a handler can do to the ladder. -/
inductive Change (cfg : WatchConfig) (env : HostEnv) (now : Int) (w w' : ReconnectWatch)
    (acts : List HostAct) : Cause → Prop where
  | left {cause} (hc : cause = .profileChanged → env.activeProfileIndex = w.watchProfileIndex)
    (hn : w'.nextStep = w.nextStep) (hl : w'.ladderFromActiveDown = w.ladderFromActiveDown)
    (hw : w'.reconnectWatchWork = w.reconnectWatchWork) (ha : Silent acts) :
    Change cfg env now w w' acts cause
  | reset {cause} (hn : w'.nextStep = .none) (ha : Silent acts) (hc : cause ≠ .activeDownArmWork) :
    Change cfg env now w w' acts cause
  | full (hr : Recovering env) (hc : env.activeProfileIndex ≠ w.watchProfileIndex)
    (ha : ArmedBy cfg.firstDelaySec false now w w' acts) :
    Change cfg env now w w' acts .profileChanged
  | light (hn : w.nextStep = .none) (ha : ArmedBy cfg.stepSec true now w w' acts) :
    Change cfg env now w w' acts .activeDownArmWork
  | stepped {n} (hn : w.nextStep ≠ .none) (hn' : w'.nextStep = after w.nextStep)
    (ha : acts.any HostAct.armsWatch = false) (hs : acts.filterMap HostAct.watchStep = [n])
    (hd : done (after w.nextStep) = done w.nextStep ++ [n]) :
    Change cfg env now w w' acts .reconnectWatchWork

variable {cfg : WatchConfig} {env : HostEnv} {now : Int} {w : ReconnectWatch}

theorem Silent.nil : Silent [] := ⟨rfl, rfl⟩

theorem silent_walk (env : HostEnv) (conns : List HostConn) :
    Silent (conns.flatMap (dropNonActiveHosts env)) := by
  induction conns with
  | nil => exact .nil
  | cons conn conns ih =>
    rw [List.flatMap_cons]
    have hone : Silent (dropNonActiveHosts env conn) := by
      unfold dropNonActiveHosts
      split
      · exact .nil
      · split
        · exact .nil
        · split
          · exact .nil
          · exact ⟨rfl, rfl⟩
    exact ⟨by rw [List.any_append, hone.arms, ih.arms]; rfl,
      by rw [List.filterMap_append, hone.steps, ih.steps]; rfl⟩

theorem profileChanged_change (cfg : WatchConfig) (env : HostEnv) (now : Int) (w : ReconnectWatch) :
    Change cfg env now w (w.profileChanged cfg env now).1 (w.profileChanged cfg env now).2
      .profileChanged := by
  rcases profileChanged_cases cfg env now w with ⟨hsame, he⟩ | ⟨hne, he | ⟨hr, he⟩⟩
  · rw [he]
    exact .left (fun _ => hsame) rfl rfl rfl .nil
  · rw [he]
    exact .reset rfl .nil (by simp)
  · rw [he]
    exact .full hr hne ⟨rfl, rfl, rfl, rfl, rfl⟩

theorem workHandler_change (cfg : WatchConfig) (env : HostEnv) (now : Int) (w : ReconnectWatch) :
    Change cfg env now w (w.handle cfg env now .reconnectWatchWork).1
      (w.handle cfg env now .reconnectWatchWork).2 .reconnectWatchWork := by
  unfold ReconnectWatch.handle
  rcases workHandler_cases cfg env now w.startWatch with he | ⟨-, ⟨hn, he⟩ | ⟨hn, he⟩ | ⟨hn, he⟩⟩
  · rw [he]
    exact .reset rfl .nil (by simp)
  · rw [he]
    have hn : w.nextStep = .readv := hn
    refine .stepped (by rw [hn]; rintro ⟨⟩) (by rw [hn]; rfl) ?_ ?_ (by rw [hn]; rfl)
    · show (false || ((if cfg.boostSec.isSome then HostAct.advBoostRearm else .advKick).armsWatch ||
        false)) = false
      split <;> rfl
    · show (1 : UInt8) :: _ = [1]
      split <;> rfl
  · rw [he]
    have hn : w.nextStep = .evict := hn
    have hwalk := silent_walk env env.conns
    refine .stepped (by rw [hn]; rintro ⟨⟩) (by rw [hn]; rfl) ?_ ?_ (by rw [hn]; rfl)
    · show (false || _) = false
      rw [hwalk.arms]
      rfl
    · show (2 : UInt8) :: _ = [2]
      rw [hwalk.steps]
  · rw [he]
    have hn : w.nextStep = .zombie := hn
    exact .stepped (by rw [hn]; rintro ⟨⟩) (by rw [hn]; rfl) rfl rfl (by rw [hn]; rfl)

theorem activeDownArmWork_change (cfg : WatchConfig) (env : HostEnv) (now : Int)
    (w : ReconnectWatch) :
    Change cfg env now w (w.handle cfg env now .activeDownArmWork).1
      (w.handle cfg env now .activeDownArmWork).2 .activeDownArmWork := by
  unfold ReconnectWatch.handle
  rcases activeDownArmWorkHandler_cases cfg env now
    { w with activeDownArmWork := w.activeDownArmWork.start } with he | he | ⟨-, hn, he⟩
  · rw [he]
    exact .left (by simp) rfl rfl rfl .nil
  · rw [he]
    exact .left (by simp) rfl rfl rfl ⟨rfl, rfl⟩
  · rw [he]
    exact .light hn ⟨rfl, rfl, rfl, rfl, rfl⟩

/-- **All that a handler can do to the ladder.** -/
theorem handle_change (cfg : WatchConfig) (env : HostEnv) (now : Int) (w : ReconnectWatch)
    (cause : Cause) :
    Change cfg env now w (w.handle cfg env now cause).1 (w.handle cfg env now cause).2 cause := by
  cases cause with
  | profileChanged => exact profileChanged_change cfg env now w
  | connected err =>
    show Change cfg env now w (w.connected env err) [] _
    rcases connected_cases env err w with he | ⟨-, he⟩
    · rw [he]
      exact .left (by simp) rfl rfl rfl .nil
    · rw [he]
      exact .reset rfl .nil (by simp)
  | disconnected idx =>
    show Change cfg env now w (w.disconnected cfg env now idx) [] _
    rcases disconnected_cases cfg env now idx w with he | ⟨-, he⟩
    · rw [he]
      exact .left (by simp) rfl rfl rfl .nil
    · rw [he]
      exact .left (by simp) rfl rfl rfl .nil
  | securityChanged level =>
    show Change cfg env now w (w.securityChanged env level) [] _
    rcases securityChanged_cases env level w with he | ⟨-, he⟩
    · rw [he]
      exact .left (by simp) rfl rfl rfl .nil
    · rw [he]
      exact .reset rfl .nil (by simp)
  | activeDownArmWork => exact activeDownArmWork_change cfg env now w
  | reconnectWatchWork => exact workHandler_change cfg env now w

theorem handle_profile (cfg : WatchConfig) (env : HostEnv) (now : Int) (w : ReconnectWatch)
    (cause : Cause) :
    (w.handle cfg env now cause).1.watchProfileIndex =
      if cause = .profileChanged then env.activeProfileIndex else w.watchProfileIndex := by
  cases cause with
  | profileChanged =>
    show (w.profileChanged cfg env now).1.watchProfileIndex = _
    rw [if_pos rfl]
    rcases profileChanged_cases cfg env now w with ⟨hsame, he⟩ | ⟨-, he | ⟨-, he⟩⟩
    · rw [he]
      exact hsame.symm
    · rw [he]
      rfl
    · rw [he]
      rfl
  | connected err =>
    show (w.connected env err).watchProfileIndex = _
    rcases connected_cases env err w with he | ⟨-, he⟩ <;> rw [he] <;> rfl
  | disconnected idx =>
    show (w.disconnected cfg env now idx).watchProfileIndex = _
    rcases disconnected_cases cfg env now idx w with he | ⟨-, he⟩ <;> rw [he] <;> rfl
  | securityChanged level =>
    show (w.securityChanged env level).watchProfileIndex = _
    rcases securityChanged_cases env level w with he | ⟨-, he⟩ <;> rw [he] <;> rfl
  | activeDownArmWork =>
    unfold ReconnectWatch.handle
    rcases activeDownArmWorkHandler_cases cfg env now
      { w with activeDownArmWork := w.activeDownArmWork.start } with he | he | ⟨-, -, he⟩ <;>
      rw [he] <;> rfl
  | reconnectWatchWork =>
    unfold ReconnectWatch.handle
    rcases workHandler_cases cfg env now w.startWatch with he | ⟨-, ⟨-, he⟩ | ⟨-, he⟩ | ⟨-, he⟩⟩ <;>
      rw [he] <;> rfl

/-! ## The active-down work -/

/-- Light armings that may still come of disconnects so far. -/
def pending (w : ReconnectWatch) : Nat := if w.activeDownArmWork.queued.isSome then 1 else 0

/-- Only the disconnect of a peer that maps to the active profile asks for a
light arming, and the work itself uses the request up. -/
theorem pending_handle (cfg : WatchConfig) (env : HostEnv) (now : Int) (w : ReconnectWatch)
    (cause : Cause) (he : w.Enabled cause) (acts : List HostAct) :
    pending (w.handle cfg env now cause).1 + (if cause = .activeDownArmWork then 1 else 0) ≤
      pending w + if Obs.mapped ⟨cause, env, now, acts⟩ then 1 else 0 := by
  cases cause with
  | profileChanged =>
    show pending (w.profileChanged cfg env now).1 ≤ pending w
    rcases profileChanged_cases cfg env now w with ⟨-, he⟩ | ⟨-, he | ⟨-, he⟩⟩ <;> rw [he] <;>
      exact Nat.le_refl _
  | connected err =>
    show pending (w.connected env err) ≤ pending w
    rcases connected_cases env err w with he | ⟨-, he⟩
    · rw [he]
    · rw [he]
      exact Nat.le_refl _
  | disconnected idx =>
    show pending (w.disconnected cfg env now idx) ≤ pending w + _
    rcases disconnected_cases cfg env now idx w with he | ⟨hmaps, he⟩
    · rw [he]
      exact Nat.le_add_right _ _
    · have hmapped : Obs.mapped ⟨.disconnected idx, env, now, acts⟩ = true := decide_eq_true hmaps
      rw [he, if_pos hmapped]
      unfold pending
      split <;> omega
  | securityChanged level =>
    show pending (w.securityChanged env level) ≤ pending w
    rcases securityChanged_cases env level w with he | ⟨-, he⟩
    · rw [he]
    · rw [he]
      exact Nat.le_refl _
  | activeDownArmWork =>
    have hone : pending w = 1 := if_pos he
    have hzero : pending (w.handle cfg env now .activeDownArmWork).1 = 0 := by
      unfold ReconnectWatch.handle
      rcases activeDownArmWorkHandler_cases cfg env now
        { w with activeDownArmWork := w.activeDownArmWork.start } with he | he | ⟨-, -, he⟩ <;>
        rw [he] <;> rfl
    rw [hone, hzero]
    exact Nat.le_refl _
  | reconnectWatchWork =>
    show pending (w.startWatch.workHandler cfg env now).1.finishWatch ≤ pending w
    rcases workHandler_cases cfg env now w.startWatch with he | ⟨-, ⟨-, he⟩ | ⟨-, he⟩ | ⟨-, he⟩⟩ <;>
      rw [he] <;> exact Nat.le_refl _

end ReconnectWatch

/-! ## Runs -/

/-- The module, the active profile and the uptime. -/
structure Ladder where
  watch : ReconnectWatch
  active : Nat
  now : Int
deriving DecidableEq, Repr

namespace Ladder

open ReconnectWatch

/-- After `reconnect_watch_settings_commit`, with the profile restored. -/
def committed (profile : Nat) (now : Int) : Ladder := ⟨.init profile, profile, now⟩

/-- Time passes, or a handler runs. Only the profile-changed event finds
another profile active than the handler before it. -/
inductive Step (cfg : WatchConfig) : Ladder → Option Obs → Ladder → Prop where
  | tick {s} (t : Int) (h : s.now ≤ t) :
    Step cfg s .none { s with now := t, watch := s.watch.expire t }
  | handle {s} (cause : Cause) (env : HostEnv) (he : s.watch.Enabled cause)
    (hactive : cause ≠ .profileChanged → env.activeProfileIndex = s.active) :
    Step cfg s (.some ⟨cause, env, s.now, (s.watch.handle cfg env s.now cause).2⟩)
      ⟨(s.watch.handle cfg env s.now cause).1, env.activeProfileIndex, s.now⟩

/-- No switch arms a full ladder while `reconnect_watch_work` is on its queue. -/
def Unqueued (_ : List Obs) (s : Ladder) : Option Obs → Prop
  | .some o => o.cause = .profileChanged → o.env.activeProfileIndex ≠ s.active →
      Recovering o.env → s.watch.reconnectWatchWork.queued = .none
  | .none => True

/-- What the ladder keeps to, after the history `h` that began with `profile₀`. -/
structure Disciplined (cfg : WatchConfig) (profile₀ : Nat) (h : List Obs) (s : Ladder) : Prop where
  /-- An armed ladder was armed for the active profile, and none was selected
  since. -/
  current : s.watch.nextStep ≠ .none → ∃ o later earlier, h = later ++ o :: earlier ∧
    o.arms = true ∧ o.env.activeProfileIndex = s.active ∧
    switches profile₀ h = switches profile₀ (o :: earlier)
  /-- An arming is followed by steps 1, 2 and 3 at most, in order and once. -/
  steps : stepsSince h <+: [1, 2, 3]
  /-- And then the ladder is disarmed. -/
  last : stepsSince h = [1, 2, 3] →
    s.watch.nextStep = .none ∧ s.watch.reconnectWatchWork.armed = false
  /-- The first of them leaves the arming its delay. -/
  first : ∀ later o earlier, h = later ++ o :: earlier → o.steps ≠ [] → stepsSince earlier = [] →
    ∃ a, earlier.find? Obs.arms = .some a ∧ a.time + a.delay cfg ≤ o.time
  /-- The active-down work leaves an armed ladder alone. -/
  light : ∀ o s', Step cfg s (.some o) s' → o.cause = .activeDownArmWork →
    s.watch.nextStep ≠ .none → o.arms = false ∧ s'.watch.nextStep = s.watch.nextStep ∧
      s'.watch.ladderFromActiveDown = s.watch.ladderFromActiveDown ∧
      s'.watch.reconnectWatchWork = s.watch.reconnectWatchWork
  /-- So does an event that finds the same profile active. -/
  linkChanged : ∀ o s', Step cfg s (.some o) s' → o.cause = .profileChanged →
    o.env.activeProfileIndex = s.active → o.acts = [] ∧ s'.watch = s.watch
  /-- A switch cancels the ladder, or arms a full one in its place. -/
  switched : ∀ o s', Step cfg s (.some o) s' → Unqueued h s (.some o) →
    o.cause = .profileChanged → o.env.activeProfileIndex ≠ s.active →
    (s'.watch.nextStep = .none ∧ s'.watch.reconnectWatchWork.armed = false) ∨
      (o.arms = true ∧ s'.watch.nextStep = .readv ∧ s'.watch.ladderFromActiveDown = false ∧
        s'.watch.reconnectWatchWork.due = .some (o.time + o.delay cfg))
  /-- Only switches and disconnects of the active profile's peers arm it. -/
  counted : h.countP Obs.arms ≤ switches profile₀ h + h.countP Obs.mapped

/-! ## What a step keeps -/

variable {cfg : WatchConfig} {profile₀ : Nat} {h : List Obs} {s s' : Ladder} {o : Option Obs}

theorem kSeconds_ne_zero {sec : Nat} (h : 0 < sec) : kSeconds sec ≠ 0 := by
  unfold kSeconds
  omega

structure Inv (cfg : WatchConfig) (profile₀ : Nat) (h : List Obs) (s : Ladder) : Prop where
  timed : Timed cfg s.now s.watch
  profile : s.watch.watchProfileIndex = s.active
  active : lastActive profile₀ h = s.active
  steps : stepsSince h <+: [1, 2, 3]
  next : s.watch.nextStep ≠ .none → stepsSince h = done s.watch.nextStep
  current : s.watch.nextStep ≠ .none → ∃ o later earlier, h = later ++ o :: earlier ∧
    o.arms = true ∧ o.env.activeProfileIndex = s.active ∧
    switches profile₀ h = switches profile₀ (o :: earlier)
  first : s.watch.nextStep = .readv → ∃ a, h.find? Obs.arms = .some a ∧
    ∀ d, s.watch.reconnectWatchWork.delayed = .some d ∨
      s.watch.reconnectWatchWork.queued = .some d → a.time + a.delay cfg ≤ d
  counted : h.countP Obs.arms + pending s.watch ≤ switches profile₀ h + h.countP Obs.mapped

theorem inv_committed (cfg : WatchConfig) (profile : Nat) (now : Int) :
    Inv cfg profile [] (committed profile now) where
  timed := .of_idle rfl rfl
  profile := rfl
  active := rfl
  steps := List.nil_prefix
  next := fun hn => absurd rfl hn
  current := fun hn => absurd rfl hn
  first := by rintro ⟨⟩
  counted := Nat.le_refl _

theorem Inv.tick {t : Int} (hi : Inv cfg profile₀ h s) (ht : s.now ≤ t) :
    Inv cfg profile₀ h { s with now := t, watch := s.watch.expire t } where
  timed := hi.timed.expire ht
  profile := hi.profile
  active := hi.active
  steps := hi.steps
  next := hi.next
  current := hi.current
  first := fun hn => by
    obtain ⟨a, ha, hdue⟩ := hi.first hn
    refine ⟨a, ha, fun d hd => ?_⟩
    rcases hd with hd | hd
    · exact hdue d (.inl (Work.delayed_expire hd))
    · exact hdue d (Work.queued_of_expire hd).symm
  counted := hi.counted

theorem switches_cons {x : Obs} (hx : x.cause = .profileChanged →
    x.env.activeProfileIndex = lastActive profile₀ h) :
    switches profile₀ (x :: h) = switches profile₀ h := by
  show switches profile₀ h + (if _ then 1 else 0) = _
  rw [if_neg (by rintro ⟨hc, hne⟩; exact hne (hx hc)), Nat.add_zero]

theorem stepsSince_silent {x : Obs} (ha : x.arms = false) :
    stepsSince (x :: h) = stepsSince h ++ x.steps := by
  show (if x.arms then [] else _) = _
  rw [ha]
  rfl

theorem stepsSince_arms {x : Obs} (ha : x.arms = true) : stepsSince (x :: h) = [] := by
  show (if x.arms then [] else _) = _
  rw [ha]
  rfl

theorem find?_silent {x : Obs} (ha : x.arms = false) :
    (x :: h).find? Obs.arms = h.find? Obs.arms := by
  rw [List.find?_cons, ha]

theorem find?_arms {x : Obs} (ha : x.arms = true) : (x :: h).find? Obs.arms = .some x := by
  rw [List.find?_cons, ha]

theorem countP_arms_silent {x : Obs} (ha : x.arms = false) :
    (x :: h).countP Obs.arms = h.countP Obs.arms :=
  List.countP_cons_of_neg (by rw [ha]; exact Bool.false_ne_true)

theorem countP_mapped (x : Obs) :
    (x :: h).countP Obs.mapped = h.countP Obs.mapped + if x.mapped then 1 else 0 :=
  List.countP_cons

/-- The arming an armed ladder goes back to stays that one while nothing is
armed and no other profile selected. -/
theorem Inv.current_cons {x : Obs} (hi : Inv cfg profile₀ h s) (hn : s.watch.nextStep ≠ .none)
    (hx : x.cause = .profileChanged → x.env.activeProfileIndex = lastActive profile₀ h)
    (hactive : x.env.activeProfileIndex = s.active) :
    ∃ o later earlier, x :: h = later ++ o :: earlier ∧ o.arms = true ∧
      o.env.activeProfileIndex = x.env.activeProfileIndex ∧
      switches profile₀ (x :: h) = switches profile₀ (o :: earlier) := by
  obtain ⟨o, later, earlier, he, ha, hcur, hsw⟩ := hi.current hn
  exact ⟨o, x :: later, earlier, by rw [he]; rfl, ha, hcur.trans hactive.symm,
    (switches_cons hx).trans hsw⟩

/-- What holds of every handler, whatever it does to the ladder. -/
structure Handled (cfg : WatchConfig) (profile₀ : Nat) (h : List Obs) (s s' : Ladder) (x : Obs) :
    Prop where
  timed : Timed cfg s'.now s'.watch
  profile : s'.watch.watchProfileIndex = s'.active
  active : x.env.activeProfileIndex = s'.active
  selected : x.cause ≠ .profileChanged → x.env.activeProfileIndex = s.active
  pending : pending s'.watch + (if x.cause = .activeDownArmWork then 1 else 0) ≤
    ReconnectWatch.pending s.watch + if x.mapped then 1 else 0

theorem Handled.le (hx : Handled cfg profile₀ h s s' x) (hi : Inv cfg profile₀ h s)
    (ha : x.arms = false) : (x :: h).countP Obs.arms + ReconnectWatch.pending s'.watch ≤
      switches profile₀ (x :: h) + (x :: h).countP Obs.mapped := by
  have hle := hi.counted
  have hp := hx.pending
  have hsw : switches profile₀ h ≤ switches profile₀ (x :: h) := Nat.le_add_right _ _
  rw [countP_arms_silent ha, countP_mapped]
  omega

theorem Inv.left (hi : Inv cfg profile₀ h s) {x : Obs} (hx : Handled cfg profile₀ h s s' x)
    (hc : x.cause = .profileChanged → x.env.activeProfileIndex = s.active)
    (hn : s'.watch.nextStep = s.watch.nextStep)
    (hw : s'.watch.reconnectWatchWork = s.watch.reconnectWatchWork)
    (ha : Silent x.acts) : Inv cfg profile₀ (x :: h) s' := by
  have hsteps : stepsSince (x :: h) = stepsSince h := by
    rw [stepsSince_silent ha.arms, show x.steps = [] from ha.steps, List.append_nil]
  have hactive : x.env.activeProfileIndex = s.active := by
    by_cases hcause : x.cause = .profileChanged
    · exact hc hcause
    · exact hx.selected hcause
  refine ⟨hx.timed, hx.profile, hx.active, ?_, ?_, ?_, ?_, hx.le hi ha.arms⟩
  · rw [hsteps]
    exact hi.steps
  · rw [hn, hsteps]
    exact hi.next
  · rw [hn, ← hx.active]
    exact fun hnn => hi.current_cons hnn (fun hp => (hc hp).trans hi.active.symm) hactive
  · rw [hn, hw, find?_silent ha.arms]
    exact hi.first

theorem Inv.reset (hi : Inv cfg profile₀ h s) {x : Obs} (hx : Handled cfg profile₀ h s s' x)
    (hn : s'.watch.nextStep = .none) (ha : Silent x.acts) : Inv cfg profile₀ (x :: h) s' := by
  refine ⟨hx.timed, hx.profile, hx.active, ?_, ?_, ?_, ?_, hx.le hi ha.arms⟩
  · rw [stepsSince_silent ha.arms, show x.steps = [] from ha.steps, List.append_nil]
    exact hi.steps
  · exact fun hnn => absurd hn hnn
  · exact fun hnn => absurd hn hnn
  · rw [hn]
    rintro ⟨⟩

/-- A ladder is armed, on an item that was not queued. -/
theorem Inv.armed {sec : Nat} {fromActiveDown : Bool} (hi : Inv cfg profile₀ h s) {x : Obs}
    (hx : Handled cfg profile₀ h s s' x)
    (ha : ArmedBy sec fromActiveDown s.now s.watch s'.watch x.acts)
    (hq : s.watch.reconnectWatchWork.queued = .none) (hsec : cfg.stepSec ≤ sec)
    (hdelay : x.time + x.delay cfg = s.now + kSeconds sec)
    (hcount : ReconnectWatch.pending s'.watch + switches profile₀ h + 1 ≤
      ReconnectWatch.pending s.watch + switches profile₀ (x :: h)) :
    Inv cfg profile₀ (x :: h) s' := by
  have harms : x.arms = true := ha.arms
  refine ⟨hx.timed, hx.profile, hx.active, ?_, ?_, ?_, ?_, ?_⟩
  · rw [stepsSince_arms harms]
    exact List.nil_prefix
  · rw [stepsSince_arms harms, ha.nextStep]
    exact fun _ => rfl
  · exact fun _ => ⟨x, [], h, rfl, harms, hx.active, rfl⟩
  · refine fun _ => ⟨x, find?_arms harms, fun d hd => ?_⟩
    have hfour := cfg.four_le
    rw [ha.work, Work.reschedule_eq (kSeconds_ne_zero (by omega)), hq] at hd
    rcases hd with hd | hd
    · cases hd
      omega
    · cases hd
  · have hle := hi.counted
    rw [List.countP_cons_of_pos harms, countP_mapped]
    omega

theorem Inv.stepped {n : UInt8} (hi : Inv cfg profile₀ h s) {x : Obs}
    (hx : Handled cfg profile₀ h s s' x) (hc : x.cause ≠ .profileChanged)
    (hn : s.watch.nextStep ≠ .none) (hn' : s'.watch.nextStep = after s.watch.nextStep)
    (ha : x.arms = false) (hs : x.steps = [n])
    (hd : done (after s.watch.nextStep) = done s.watch.nextStep ++ [n]) :
    Inv cfg profile₀ (x :: h) s' := by
  have hsteps : stepsSince (x :: h) = done s'.watch.nextStep := by
    rw [stepsSince_silent ha, hi.next hn, hs, hn', hd]
  refine ⟨hx.timed, hx.profile, hx.active, ?_, ?_, ?_, ?_, hx.le hi ha⟩
  · rw [hsteps]
    cases s'.watch.nextStep <;> decide
  · exact fun _ => hsteps
  · rw [← hx.active]
    exact fun _ => hi.current_cons hn (fun hp => absurd hp hc) (hx.selected hc)
  · rw [hn']
    intro hr
    cases hstep : s.watch.nextStep <;> rw [hstep] at hr <;> cases hr

theorem Inv.step (hi : Inv cfg profile₀ h s) (hs : Step cfg s o s') (hc : Unqueued h s o) :
    Inv cfg profile₀ (o.toList ++ h) s' := by
  cases hs with
  | tick t ht => exact hi.tick ht
  | handle cause env he hactive =>
    have hx : Handled cfg profile₀ h s
        ⟨(s.watch.handle cfg env s.now cause).1, env.activeProfileIndex, s.now⟩
        ⟨cause, env, s.now, (s.watch.handle cfg env s.now cause).2⟩ := by
      refine ⟨hi.timed.handle cause, ?_, rfl, hactive, pending_handle cfg env s.now _ cause he _⟩
      show (s.watch.handle cfg env s.now cause).1.watchProfileIndex = _
      rw [handle_profile]
      split
      · rfl
      · rename_i hcause
        rw [hi.profile]
        exact (hactive hcause).symm
    have hchange := handle_change cfg env s.now s.watch cause
    generalize hr : s.watch.handle cfg env s.now cause = r at hx hchange hc
    obtain ⟨w', acts⟩ := r
    cases hchange with
    | left hcause hn hl hw ha =>
      exact hi.left hx (fun hp => (hcause hp).trans hi.profile) hn hw ha
    | reset hn ha => exact hi.reset hx hn ha
    | full hrec hne ha =>
      have hne' : env.activeProfileIndex ≠ s.active := by rwa [hi.profile] at hne
      have hcount : switches profile₀ (⟨.profileChanged, env, s.now, acts⟩ :: h) =
          switches profile₀ h + 1 := by
        show switches profile₀ h + (if _ then 1 else 0) = _
        rw [if_pos ⟨rfl, by rw [hi.active]; exact hne'⟩]
      have hpend := hx.pending
      refine hi.armed hx ha (hc rfl hne' hrec) (stepSec_le_firstDelaySec cfg) ?_ ?_
      · show s.now + kSeconds (if _ then _ else _) = _
        rw [if_pos rfl, firstDelaySec_eq]
      · rw [hcount]
        have hmapped : ReconnectWatch.pending w' ≤ ReconnectWatch.pending s.watch := hpend
        show ReconnectWatch.pending w' + _ + 1 ≤ _
        omega
    | light hn ha =>
      have hq : s.watch.reconnectWatchWork.queued = .none := by
        have hunarmed := mt hi.timed.armed.mpr (not_not.mpr hn)
        simp only [Work.armed, Bool.or_eq_true, not_or, Bool.not_eq_true,
          Option.isSome_eq_false_iff, Option.isNone_iff_eq_none] at hunarmed
        exact hunarmed.2
      refine hi.armed hx ha hq (Nat.le_refl _) rfl ?_
      have hpend : ReconnectWatch.pending w' + 1 ≤ ReconnectWatch.pending s.watch := hx.pending
      rw [switches_cons (by simp)]
      show ReconnectWatch.pending w' + _ + 1 ≤ _
      omega
    | stepped hn hn' ha hs hd => exact hi.stepped hx (by simp) hn hn' ha hs hd

/-! ## The discipline -/

theorem Inv.last (hi : Inv cfg profile₀ h s) (hall : stepsSince h = [1, 2, 3]) :
    s.watch.nextStep = .none ∧ s.watch.reconnectWatchWork.armed = false := by
  have hn : s.watch.nextStep = .none := by
    by_contra hnn
    have hnext := hi.next hnn
    rw [hall] at hnext
    cases hstep : s.watch.nextStep <;> rw [hstep] at hnext hnn <;> simp [done] at hnext hnn
  refine ⟨hn, ?_⟩
  have hunarmed := mt hi.timed.armed.mpr (not_not.mpr hn)
  simpa using hunarmed

/-- The first step after an arming leaves it its delay. -/
theorem Inv.first_step {x : Obs} (hi : Inv cfg profile₀ h s) (hs : Step cfg s (.some x) s')
    (hx : x.steps ≠ []) (hsince : stepsSince h = []) :
    ∃ a, h.find? Obs.arms = .some a ∧ a.time + a.delay cfg ≤ x.time := by
  cases hs with
  | handle cause env he hactive =>
    have hchange := handle_change cfg env s.now s.watch cause
    cases hchange with
    | left hcause hn hl hw ha => exact absurd ha.steps hx
    | reset hn ha => exact absurd ha.steps hx
    | full hrec hne ha => exact absurd ha.steps hx
    | light hn ha => exact absurd ha.steps hx
    | stepped hn hn' ha hsteps hd =>
      have hreadv : s.watch.nextStep = .readv := by
        have hnext := (hi.next hn).symm.trans hsince
        cases hstep : s.watch.nextStep <;> rw [hstep] at hnext <;> simp [done] at hnext
      obtain ⟨a, ha, hdue⟩ := hi.first hreadv
      obtain ⟨q, hq⟩ := Option.isSome_iff_exists.mp he
      have hle := hdue q (.inr hq)
      have hnow := hi.timed.timely.queued q hq
      exact ⟨a, ha, Int.le_trans hle hnow⟩

theorem Step.light {x : Obs} (hs : Step cfg s (.some x) s') (hc : x.cause = .activeDownArmWork)
    (hn : s.watch.nextStep ≠ .none) : x.arms = false ∧ s'.watch.nextStep = s.watch.nextStep ∧
      s'.watch.ladderFromActiveDown = s.watch.ladderFromActiveDown ∧
      s'.watch.reconnectWatchWork = s.watch.reconnectWatchWork := by
  cases hs with
  | handle cause env he hactive =>
    have hchange := handle_change cfg env s.now s.watch cause
    cases hchange with
    | left hcause hn' hl hw ha => exact ⟨ha.arms, hn', hl, hw⟩
    | reset hn' ha hne => exact absurd hc hne
    | full hrec hne ha => cases hc
    | light hnone ha => exact absurd hnone hn
    | stepped hnn hn' ha hsteps hd => cases hc

theorem Inv.linkChanged {x : Obs} (hi : Inv cfg profile₀ h s) (hs : Step cfg s (.some x) s')
    (hc : x.cause = .profileChanged) (hsame : x.env.activeProfileIndex = s.active) :
    x.acts = [] ∧ s'.watch = s.watch := by
  cases hs with
  | handle cause env he hactive =>
    cases hc
    show (s.watch.profileChanged cfg env s.now).2 = [] ∧
      (s.watch.profileChanged cfg env s.now).1 = s.watch
    rcases profileChanged_cases cfg env s.now s.watch with ⟨-, he⟩ | ⟨hne, -⟩
    · rw [he]
      exact ⟨rfl, rfl⟩
    · exact absurd (hsame.trans hi.profile.symm) hne

theorem Inv.switched {x : Obs} (hi : Inv cfg profile₀ h s) (hs : Step cfg s (.some x) s')
    (hq : Unqueued h s (.some x)) (hc : x.cause = .profileChanged)
    (hne : x.env.activeProfileIndex ≠ s.active) :
    (s'.watch.nextStep = .none ∧ s'.watch.reconnectWatchWork.armed = false) ∨
      (x.arms = true ∧ s'.watch.nextStep = .readv ∧ s'.watch.ladderFromActiveDown = false ∧
        s'.watch.reconnectWatchWork.due = .some (x.time + x.delay cfg)) := by
  cases hs with
  | handle cause env he hactive =>
    cases hc
    unfold Obs.arms
    show ((s.watch.profileChanged cfg env s.now).1.nextStep = _ ∧
        (s.watch.profileChanged cfg env s.now).1.reconnectWatchWork.armed = _) ∨
      ((s.watch.profileChanged cfg env s.now).2.any _ = _ ∧
        (s.watch.profileChanged cfg env s.now).1.nextStep = _ ∧
        (s.watch.profileChanged cfg env s.now).1.ladderFromActiveDown = _ ∧
        (s.watch.profileChanged cfg env s.now).1.reconnectWatchWork.due = _)
    rcases profileChanged_cases cfg env s.now s.watch with ⟨hsame, -⟩ | ⟨-, he | ⟨hrec, he⟩⟩
    · exact absurd (hsame.trans hi.profile) hne
    · rw [he]
      exact .inl ⟨rfl, rfl⟩
    · rw [he]
      refine .inr ⟨rfl, rfl, rfl, ?_⟩
      have hfirst := stepSec_le_firstDelaySec cfg
      have hfour := cfg.four_le
      show (s.watch.reconnectWatchWork.reschedule s.now (kSeconds cfg.firstDelaySec)).due =
        .some (s.now + kSeconds (if _ then _ else _))
      rw [Work.reschedule_eq (kSeconds_ne_zero (by omega)), if_pos rfl, ← firstDelaySec_eq]
      simp [Work.due, hq rfl hne hrec]

end Ladder

/-- **The ladder keeps its discipline**, in every run in which no switch arms a
full ladder while `reconnect_watch_work` is on its queue. -/
theorem ladder_disciplined (cfg : WatchConfig) (profile₀ : Nat) (t₀ : Int)
    {h : List ReconnectWatch.Obs} {s : Ladder}
    (hr : RunWhere (Ladder.Step cfg) Ladder.Unqueued (.committed profile₀ t₀) h s) :
    Ladder.Disciplined cfg profile₀ h s := by
  have hinv : ∀ {h s}, RunWhere (Ladder.Step cfg) Ladder.Unqueued (.committed profile₀ t₀) h s →
      Ladder.Inv cfg profile₀ h s :=
    fun hr => hr.invariant (Ladder.inv_committed cfg profile₀ t₀) Ladder.Inv.step
  have hi := hinv hr
  exact {
    current := hi.current
    steps := hi.steps
    last := hi.last
    first := fun later o earlier he hsteps hsince => by
      obtain ⟨s₁, s₂, hr₁, hs, -⟩ := hr.split he
      exact (hinv hr₁).first_step hs hsteps hsince
    light := fun o s' hs => hs.light
    linkChanged := fun o s' hs => hi.linkChanged hs
    switched := fun o s' hs => hi.switched hs
    counted := Nat.le_trans (Nat.le_add_right _ _) hi.counted }

/-! ## A run of the ladder -/

namespace Ladder

open ReconnectWatch

/-- Eight seconds a step, and a boost of twenty. -/
def boostConfig : WatchConfig :=
  ⟨8, .some 20, true, ladderConfig.four_le, ladderConfig.le_thirty⟩

/-- `profile` is bonded, and its host is away. -/
def away (profile : Nat) : HostEnv := ⟨.ble, .some false, false, profile, false, false, []⟩

end Ladder

open Ladder ReconnectWatch in
/-- Profile 1 is selected: the first step comes when the boost is over. -/
theorem ladder_disciplined_boost :
    ∃ h s, RunWhere (Step boostConfig) Unqueued (.committed 0 0) h s ∧ stepsSince h = [1] ∧
      Disciplined boostConfig 0 h s := by
  have harmed : RunWhere (Step boostConfig) Unqueued (.committed 0 0) _
      ⟨⟨.readv, false, 1, ⟨.some 20000, .none, false, false⟩, .idle⟩, 1, 0⟩ :=
    RunWhere.refl.shows (.handle .profileChanged (away 1) trivial fun h => absurd rfl h)
      fun _ _ _ => rfl
  have hdue : RunWhere _ Unqueued _ _
      ⟨⟨.readv, false, 1, ⟨.none, .some 20000, false, false⟩, .idle⟩, 1, 20000⟩ :=
    harmed.quiet (.tick 20000 (by decide)) trivial
  have hfirst := hdue.shows (.handle .reconnectWatchWork (away 1) rfl fun _ => rfl) (by rintro ⟨⟩)
  exact ⟨_, _, hfirst, by decide, ladder_disciplined boostConfig 0 0 hfirst⟩

open Ladder ReconnectWatch in
/-- **Step 1 inside the boost window**: profile 0's host goes down, the light
ladder comes due and is on its queue, and then profile 1 is selected. -/
theorem ladder_steps_early :
    ¬∀ (h : List Obs) (s : Ladder), Run (Step boostConfig) (.committed 0 0) h s →
      Disciplined boostConfig 0 h s := by
  intro hlaw
  have hdown := (Run.refl.shows (.handle (.disconnected 0) (away 0) trivial fun _ => rfl) :
    Run (Step boostConfig) (.committed 0 0) _
      ⟨⟨.none, false, 0, .idle, ⟨.none, .some 0, false, false⟩⟩, 0, 0⟩)
  have hlight := (hdown.shows (.handle .activeDownArmWork (away 0) (by rfl) fun _ => rfl) :
    Run _ _ _ ⟨⟨.readv, true, 0, ⟨.some 8000, .none, false, false⟩, .idle⟩, 0, 0⟩)
  have hdue := (hlight.quiet (.tick 8000 (by decide)) :
    Run _ _ _ ⟨⟨.readv, true, 0, ⟨.none, .some 8000, false, false⟩, .idle⟩, 0, 8000⟩)
  have hswitch := (hdue.shows (.handle .profileChanged (away 1) trivial fun h => absurd rfl h) :
    Run _ _ _ ⟨⟨.readv, false, 1, ⟨.some 28000, .some 8000, false, false⟩, .idle⟩, 1, 8000⟩)
  have hstep := hswitch.shows (.handle .reconnectWatchWork (away 1) rfl fun _ => rfl)
  obtain ⟨a, ha, hle⟩ := (hlaw _ _ hstep).first [] _ _ rfl (by decide) (by decide)
  cases ha
  exact absurd hle (by decide)

end TotemZmk
