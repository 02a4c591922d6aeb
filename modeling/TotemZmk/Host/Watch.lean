/-
`reconnect_watch.c`: the recovery ladder of the active profile, its timer, and
the work that arms a light one when the active host goes down.

Each function is given the answers of the stack while it runs, and the uptime
in milliseconds, and tells the calls it makes.

* `ReconnectWatch.workHandler`: one step of the ladder. `enter` is the part up
  to and including the walk of step 2, whose disconnects may wait.
* `workHandler_cases`, `profileChanged_cases` and the like: all that each
  handler can do.
-/
import TotemZmk.Lib.Work
import TotemZmk.Host.Env

namespace TotemZmk

open Zephyr (Work)

/-- `enum reconnect_step` -/
inductive ReconnectStep where
  | none
  | readv
  | evict
  | zombie
deriving DecidableEq, Repr

/-- `CONFIG_TOTEM_RECONNECT_WATCH_SEC` in its range, `CONFIG_ZMK_BLE_ADV_BOOST_SEC`
where the boost is on, `CONFIG_TOTEM_RECONNECT_WATCH_ON_ACTIVE_DOWN`. -/
structure WatchConfig where
  stepSec : Nat
  boostSec : Option Nat
  onActiveDown : Bool
  four_le : 4 ≤ stepSec
  le_thirty : stepSec ≤ 30

/-- The statics of `reconnect_watch.c`. -/
structure ReconnectWatch where
  nextStep : ReconnectStep
  ladderFromActiveDown : Bool
  watchProfileIndex : Nat
  reconnectWatchWork : Work
  activeDownArmWork : Work
deriving DecidableEq, Repr

/-- `K_SECONDS` -/
def kSeconds (sec : Nat) : Int := 1000 * sec

/-- `reconnect_watch_first_delay_sec` -/
def WatchConfig.firstDelaySec (cfg : WatchConfig) : Nat :=
  match cfg.boostSec with
  | .some boostSec => if cfg.stepSec < boostSec then boostSec else cfg.stepSec
  | .none => cfg.stepSec

/-- `struct host_conn_scan` -/
structure HostConnScan where
  activeMatch : Option HostConn
  anyHost : Option HostConn
  hostCount : Nat
deriving DecidableEq, Repr

/-- `scan_host_conns` -/
def scanHostConns (env : HostEnv) (scan : HostConnScan) (conn : HostConn) : HostConnScan :=
  if conn.infoErr ≠ 0 ∨ conn.role ≠ .peripheral then scan
  else if conn.connected = false then scan
  else
    { hostCount := scan.hostCount + 1
      anyHost := if scan.anyHost = .none then .some conn else scan.anyHost
      activeMatch :=
        if conn.profileIndex = env.activeProfileIndex ∧ scan.activeMatch = .none then .some conn
        else scan.activeMatch }

/-- `drop_non_active_hosts` -/
def dropNonActiveHosts (env : HostEnv) (conn : HostConn) : List HostAct :=
  if conn.infoErr ≠ 0 ∨ conn.role ≠ .peripheral then []
  else if conn.profileIndex < 0 ∨ conn.profileIndex = env.activeProfileIndex then []
  else if conn.security < btSecurityL2 then []
  else [.disconnect conn btHciErrRemoteUserTermConn]

namespace ReconnectWatch

/-- `reconnect_watch_init`, with the profile index as it is then. -/
def init (profile : Nat) : ReconnectWatch := ⟨.none, false, profile, .idle, .idle⟩

/-- `reconnect_watch_settings_commit` -/
def settingsCommit (env : HostEnv) (w : ReconnectWatch) : ReconnectWatch :=
  { w with watchProfileIndex := env.activeProfileIndex }

/-- `reconnect_watch_reset` -/
def reset (w : ReconnectWatch) : ReconnectWatch :=
  { w with
    nextStep := .none
    ladderFromActiveDown := false
    reconnectWatchWork := w.reconnectWatchWork.cancel }

/-- The record of step `n`. -/
def stepRecord (env : HostEnv) (w : ReconnectWatch) (scan : HostConnScan) (n : UInt8) : HostAct :=
  .record (env.activeRecord totemHevtWatchStep n (UInt8.ofNat scan.hostCount)
    (if w.ladderFromActiveDown then 1 else 0))

/-- `next_step = …` and the `k_work_schedule` after it. -/
def advance (cfg : WatchConfig) (now : Int) (w : ReconnectWatch) (next : ReconnectStep) :
    ReconnectWatch :=
  { w with
    nextStep := next
    reconnectWatchWork := w.reconnectWatchWork.schedule now (kSeconds cfg.stepSec) }

/-- `reconnect_watch_work_handler`, up to where step 2 has walked the
connections, and whether it got there. -/
def enter (cfg : WatchConfig) (env : HostEnv) (now : Int) (w : ReconnectWatch) :
    ReconnectWatch × List HostAct × Bool :=
  if totemHidIsUsb env || totemUsbCableUp env || env.hostAdvSuppressed then (w.reset, [], false)
  else if env.activeProfileIsOpen then (w.reset, [], false)
  else if env.activeProfileIsConnected then (w.reset, [], false)
  else
    let scan := env.conns.foldl (scanHostConns env) ⟨.none, .none, 0⟩
    if scan.activeMatch.isSome then (w.reset, [], false)
    else
      match w.nextStep with
      | .readv =>
        (w.advance cfg now .evict,
          [w.stepRecord env scan 1, if cfg.boostSec.isSome then .advBoostRearm else .advKick], false)
      | .evict => (w, w.stepRecord env scan 2 :: env.conns.flatMap (dropNonActiveHosts env), true)
      | .zombie => (w.reset, [w.stepRecord env scan 3], false)
      | .none => (w.reset, [], false)

/-- `reconnect_watch_work_handler` -/
def workHandler (cfg : WatchConfig) (env : HostEnv) (now : Int) (w : ReconnectWatch) :
    ReconnectWatch × List HostAct :=
  let (w, acts, walked) := w.enter cfg env now
  (if walked then w.advance cfg now .zombie else w, acts)

/-- `reconnect_watch_arm_full` -/
def armFull (cfg : WatchConfig) (env : HostEnv) (now : Int) (w : ReconnectWatch) :
    ReconnectWatch × List HostAct :=
  if totemHidIsUsb env || totemUsbCableUp env || env.hostAdvSuppressed then (w.reset, [])
  else if env.activeProfileIsOpen || env.activeProfileIsConnected then (w.reset, [])
  else
    let delay := cfg.firstDelaySec
    ({ w with
        ladderFromActiveDown := false
        nextStep := .readv
        reconnectWatchWork := w.reconnectWatchWork.reschedule now (kSeconds delay) },
      [.record (env.activeRecord totemHevtWatchArm (UInt8.ofNat delay) 0 0)])

/-- `reconnect_watch_arm_light` -/
def armLight (cfg : WatchConfig) (env : HostEnv) (now : Int) (w : ReconnectWatch) :
    ReconnectWatch × List HostAct :=
  if totemHidIsUsb env || totemUsbCableUp env then (w, [])
  else if env.activeProfileIsOpen || env.activeProfileIsConnected then (w.reset, [])
  else if env.hostAdvSuppressed then (w, [])
  else if w.nextStep ≠ .none then (w, [])
  else
    ({ w with
        ladderFromActiveDown := true
        nextStep := .readv
        reconnectWatchWork := w.reconnectWatchWork.reschedule now (kSeconds cfg.stepSec) },
      [.record (env.activeRecord totemHevtWatchArm (UInt8.ofNat cfg.stepSec) 0 1)])

/-- `active_down_arm_work_handler` -/
def activeDownArmWorkHandler (cfg : WatchConfig) (env : HostEnv) (now : Int) (w : ReconnectWatch) :
    ReconnectWatch × List HostAct :=
  if cfg.onActiveDown = false then (w, [])
  else if env.activeProfileIsOpen then (w, [])
  else if env.hostAdvSuppressed then (w, [])
  else if env.activeProfileIsConnected then (w, [])
  else if w.nextStep ≠ .none then (w, [])
  else
    let (w, acts) := w.armLight cfg env now
    (w, .record (env.activeRecord totemHevtActiveDownArm 0 0 0) :: acts)

/-- `reconnect_watch_profile_changed` -/
def profileChanged (cfg : WatchConfig) (env : HostEnv) (now : Int) (w : ReconnectWatch) :
    ReconnectWatch × List HostAct :=
  if env.activeProfileIndex = w.watchProfileIndex then (w, [])
  else ({ w with watchProfileIndex := env.activeProfileIndex } : ReconnectWatch).armFull cfg env now

/-- `reconnect_watch_connected` -/
def connected (env : HostEnv) (err : UInt8) (w : ReconnectWatch) : ReconnectWatch :=
  if err ≠ 0 then w
  else if env.activeProfileIsConnected then w.reset
  else w

/-- `reconnect_watch_disconnected`, where the peer maps to profile `idx`. -/
def disconnected (cfg : WatchConfig) (env : HostEnv) (now : Int) (idx : Int) (w : ReconnectWatch) :
    ReconnectWatch :=
  if totemHidIsUsb env || totemUsbCableUp env then w
  else if idx < 0 ∨ idx ≠ env.activeProfileIndex then w
  else if cfg.onActiveDown = false then w
  else { w with activeDownArmWork := w.activeDownArmWork.submit now }

/-- `reconnect_watch_security_changed` -/
def securityChanged (env : HostEnv) (level : Nat) (w : ReconnectWatch) : ReconnectWatch :=
  if btSecurityL2 ≤ level ∧ env.activeProfileIsConnected = true then w.reset else w

/-! ## The handlers as one -/

/-- The contexts that enter `reconnect_watch.c`. -/
inductive Cause where
  | profileChanged
  | connected (err : UInt8)
  | disconnected (idx : Int)
  | securityChanged (level : Nat)
  | activeDownArmWork
  | reconnectWatchWork
deriving DecidableEq, Repr

/-- A handler that ran: the answers of the stack, when it ran, and its calls. -/
structure Obs where
  cause : Cause
  env : HostEnv
  time : Int
  acts : List HostAct
deriving DecidableEq, Repr

/-- A work handler runs when its item is on the queue. -/
def Enabled (w : ReconnectWatch) : Cause → Prop
  | .activeDownArmWork => w.activeDownArmWork.queued.isSome
  | .reconnectWatchWork => w.reconnectWatchWork.queued.isSome
  | .profileChanged | .connected _ | .disconnected _ | .securityChanged _ => True

/-- The queue takes `reconnect_watch_work`. -/
def startWatch (w : ReconnectWatch) : ReconnectWatch :=
  { w with reconnectWatchWork := w.reconnectWatchWork.start }

/-- The handler of `reconnect_watch_work` returns. -/
def finishWatch (w : ReconnectWatch) : ReconnectWatch :=
  { w with reconnectWatchWork := w.reconnectWatchWork.finish }

/-- The handler of a cause, from its start to its end. -/
def handle (cfg : WatchConfig) (env : HostEnv) (now : Int) (w : ReconnectWatch) :
    Cause → ReconnectWatch × List HostAct
  | .profileChanged => w.profileChanged cfg env now
  | .connected err => (w.connected env err, [])
  | .disconnected idx => (w.disconnected cfg env now idx, [])
  | .securityChanged level => (w.securityChanged env level, [])
  | .activeDownArmWork =>
    let (w, acts) := ({ w with activeDownArmWork := w.activeDownArmWork.start } :
      ReconnectWatch).activeDownArmWorkHandler cfg env now
    ({ w with activeDownArmWork := w.activeDownArmWork.finish }, acts)
  | .reconnectWatchWork =>
    let (w, acts) := w.startWatch.workHandler cfg env now
    (w.finishWatch, acts)

/-- The clock reads `now`. -/
def expire (now : Int) (w : ReconnectWatch) : ReconnectWatch :=
  { w with reconnectWatchWork := w.reconnectWatchWork.expire now }

/-! ## What each can do -/

variable {cfg : WatchConfig} {env : HostEnv} {now : Int} {w : ReconnectWatch}

/-- The full arming of a ladder. -/
def fullArmed (cfg : WatchConfig) (now : Int) (w : ReconnectWatch) : ReconnectWatch :=
  { w with
    ladderFromActiveDown := false
    nextStep := .readv
    reconnectWatchWork := w.reconnectWatchWork.reschedule now (kSeconds cfg.firstDelaySec) }

/-- The light arming of a ladder. -/
def lightArmed (cfg : WatchConfig) (now : Int) (w : ReconnectWatch) : ReconnectWatch :=
  { w with
    ladderFromActiveDown := true
    nextStep := .readv
    reconnectWatchWork := w.reconnectWatchWork.reschedule now (kSeconds cfg.stepSec) }

/-- The guards every step of the ladder has passed. -/
structure Recovering (env : HostEnv) : Prop where
  hid : totemHidIsUsb env = false
  cable : totemUsbCableUp env = false
  suppressed : env.hostAdvSuppressed = false
  isOpen : env.activeProfileIsOpen = false
  isConnected : env.activeProfileIsConnected = false

theorem armFull_cases (cfg : WatchConfig) (env : HostEnv) (now : Int) (w : ReconnectWatch) :
    w.armFull cfg env now = (w.reset, []) ∨
      Recovering env ∧ w.armFull cfg env now = (w.fullArmed cfg now,
        [.record (env.activeRecord totemHevtWatchArm (UInt8.ofNat cfg.firstDelaySec) 0 0)]) := by
  unfold armFull
  split
  · exact .inl rfl
  · rename_i hguard
    split
    · exact .inl rfl
    · rename_i hactive
      simp only [Bool.not_eq_true, Bool.or_eq_false_iff] at hguard hactive
      exact .inr ⟨⟨hguard.1.1, hguard.1.2, hguard.2, hactive.1, hactive.2⟩, rfl⟩

/-- The light arming, reached from the active-down work. -/
theorem activeDownArmWorkHandler_cases (cfg : WatchConfig) (env : HostEnv) (now : Int)
    (w : ReconnectWatch) :
    w.activeDownArmWorkHandler cfg env now = (w, []) ∨
    w.activeDownArmWorkHandler cfg env now =
      (w, [.record (env.activeRecord totemHevtActiveDownArm 0 0 0)]) ∨
    Recovering env ∧ w.nextStep = .none ∧ w.activeDownArmWorkHandler cfg env now =
      (w.lightArmed cfg now, [.record (env.activeRecord totemHevtActiveDownArm 0 0 0),
        .record (env.activeRecord totemHevtWatchArm (UInt8.ofNat cfg.stepSec) 0 1)]) := by
  unfold activeDownArmWorkHandler
  split
  · exact .inl rfl
  split
  · exact .inl rfl
  rename_i hopen
  split
  · exact .inl rfl
  rename_i hsuppressed
  split
  · exact .inl rfl
  rename_i hconnected
  split
  · exact .inl rfl
  rename_i hnone
  -- Past these guards `reconnect_watch_arm_light` can only stop at the cable.
  simp only [Bool.not_eq_true] at hopen hsuppressed hconnected
  unfold armLight
  rw [hopen, hconnected, hsuppressed, Bool.or_false]
  simp only [Bool.false_eq_true, if_false, if_neg hnone]
  split
  · exact .inr (.inl rfl)
  · rename_i hcable
    simp only [Bool.not_eq_true, Bool.or_eq_false_iff] at hcable
    exact .inr (.inr ⟨⟨hcable.1, hcable.2, hsuppressed, hopen, hconnected⟩, not_not.mp hnone, rfl⟩)

/-- The scan the ladder's handler starts with. -/
def scan (env : HostEnv) : HostConnScan := env.conns.foldl (scanHostConns env) ⟨.none, .none, 0⟩

theorem enter_cases (cfg : WatchConfig) (env : HostEnv) (now : Int) (w : ReconnectWatch) :
    w.enter cfg env now = (w.reset, [], false) ∨
    Recovering env ∧
      (w.nextStep = .readv ∧ w.enter cfg env now = (w.advance cfg now .evict,
          [w.stepRecord env (scan env) 1,
            if cfg.boostSec.isSome then .advBoostRearm else .advKick], false) ∨
        w.nextStep = .evict ∧ w.enter cfg env now =
          (w, w.stepRecord env (scan env) 2 :: env.conns.flatMap (dropNonActiveHosts env), true) ∨
        w.nextStep = .zombie ∧
          w.enter cfg env now = (w.reset, [w.stepRecord env (scan env) 3], false)) := by
  unfold enter
  split
  · exact .inl rfl
  rename_i hguard
  split
  · exact .inl rfl
  rename_i hopen
  split
  · exact .inl rfl
  rename_i hconnected
  dsimp only
  split
  · exact .inl rfl
  simp only [Bool.not_eq_true, Bool.or_eq_false_iff] at hguard hopen hconnected
  have hrec : Recovering env := ⟨hguard.1.1, hguard.1.2, hguard.2, hopen, hconnected⟩
  cases hstep : w.nextStep with
  | none => exact .inl rfl
  | readv => exact .inr ⟨hrec, .inl ⟨rfl, rfl⟩⟩
  | evict => exact .inr ⟨hrec, .inr (.inl ⟨rfl, rfl⟩)⟩
  | zombie => exact .inr ⟨hrec, .inr (.inr ⟨rfl, rfl⟩)⟩

theorem workHandler_cases (cfg : WatchConfig) (env : HostEnv) (now : Int) (w : ReconnectWatch) :
    w.workHandler cfg env now = (w.reset, []) ∨
    Recovering env ∧
      (w.nextStep = .readv ∧ w.workHandler cfg env now = (w.advance cfg now .evict,
          [w.stepRecord env (scan env) 1,
            if cfg.boostSec.isSome then .advBoostRearm else .advKick]) ∨
        w.nextStep = .evict ∧ w.workHandler cfg env now = (w.advance cfg now .zombie,
          w.stepRecord env (scan env) 2 :: env.conns.flatMap (dropNonActiveHosts env)) ∨
        w.nextStep = .zombie ∧
          w.workHandler cfg env now = (w.reset, [w.stepRecord env (scan env) 3])) := by
  unfold workHandler
  rcases enter_cases cfg env now w with he | ⟨hr, ⟨hn, he⟩ | ⟨hn, he⟩ | ⟨hn, he⟩⟩
  · exact .inl (by rw [he]; rfl)
  · exact .inr ⟨hr, .inl ⟨hn, by rw [he]; rfl⟩⟩
  · exact .inr ⟨hr, .inr (.inl ⟨hn, by rw [he]; rfl⟩)⟩
  · exact .inr ⟨hr, .inr (.inr ⟨hn, by rw [he]; rfl⟩)⟩

theorem profileChanged_cases (cfg : WatchConfig) (env : HostEnv) (now : Int) (w : ReconnectWatch) :
    env.activeProfileIndex = w.watchProfileIndex ∧ w.profileChanged cfg env now = (w, []) ∨
    env.activeProfileIndex ≠ w.watchProfileIndex ∧
      (w.profileChanged cfg env now =
          (({ w with watchProfileIndex := env.activeProfileIndex } : ReconnectWatch).reset, []) ∨
        Recovering env ∧ w.profileChanged cfg env now =
          (({ w with watchProfileIndex := env.activeProfileIndex } : ReconnectWatch).fullArmed cfg now,
            [.record (env.activeRecord totemHevtWatchArm (UInt8.ofNat cfg.firstDelaySec) 0 0)])) := by
  unfold profileChanged
  split
  · rename_i hsame
    exact .inl ⟨hsame, rfl⟩
  · rename_i hne
    exact .inr ⟨hne, armFull_cases cfg env now _⟩

theorem connected_cases (env : HostEnv) (err : UInt8) (w : ReconnectWatch) :
    w.connected env err = w ∨
      (err = 0 ∧ env.activeProfileIsConnected = true) ∧ w.connected env err = w.reset := by
  unfold connected
  split
  · exact .inl rfl
  · rename_i herr
    split
    · rename_i hup
      exact .inr ⟨⟨not_not.mp herr, hup⟩, rfl⟩
    · exact .inl rfl

theorem disconnected_cases (cfg : WatchConfig) (env : HostEnv) (now : Int) (idx : Int)
    (w : ReconnectWatch) :
    w.disconnected cfg env now idx = w ∨
      idx = env.activeProfileIndex ∧ w.disconnected cfg env now idx =
        { w with activeDownArmWork := w.activeDownArmWork.submit now } := by
  unfold disconnected
  split
  · exact .inl rfl
  split
  · exact .inl rfl
  · rename_i hmaps
    split
    · exact .inl rfl
    · exact .inr ⟨by simpa using (not_or.mp hmaps).2, rfl⟩

theorem securityChanged_cases (env : HostEnv) (level : Nat) (w : ReconnectWatch) :
    w.securityChanged env level = w ∨
      (btSecurityL2 ≤ level ∧ env.activeProfileIsConnected = true) ∧
        w.securityChanged env level = w.reset := by
  unfold securityChanged
  split
  · rename_i hup
    exact .inr ⟨hup, rfl⟩
  · exact .inl rfl

end ReconnectWatch

end TotemZmk
