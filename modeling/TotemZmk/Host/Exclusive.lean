/-
`exclusive_host.c`: which background hosts are disconnected, and what keeps
that from flapping: an ignore time for each profile, and a cap on the evictions
in a window. Bond heal is in `Host.BondHeal`.

* `dropCheck`, `dropNote`: `drop_if_non_active_host` up to its
  `bt_conn_disconnect`, and after one that succeeds.
* `dropCheck_cases`: what holds where it gets there.
-/
import TotemZmk.Lib.Circular
import TotemZmk.Lib.Work
import TotemZmk.Host.Env

namespace TotemZmk

open Circular (Ring cell)
open Zephyr (Work)

/-- `CONFIG_TOTEM_EVICT_REQUIRES_BONDED_ACTIVE`, `CONFIG_TOTEM_THRASH_DETECT`,
`CONFIG_TOTEM_THRASH_WINDOW_SEC`, `CONFIG_TOTEM_BG_EVICT_IGNORE_MS`,
`CONFIG_TOTEM_BG_EVICT_CAP` in its range, `EVICT_DISCONNECT_REASON`. -/
structure ExclusiveConfig where
  evictRequiresBondedActive : Bool
  thrashDetect : Bool
  thrashWindowSec : Nat
  bgEvictIgnoreMs : Nat
  bgEvictCap : Nat
  evictDisconnectReason : UInt8
  one_le_cap : 1 ≤ bgEvictCap
  cap_le : bgEvictCap ≤ 16

/-- `THRASH_RING_SIZE` -/
def thrashRingSize : Nat := 16

/-- The statics of `exclusive_host.c`, with `ZMK_BLE_PROFILE_COUNT` profiles.
`classAFailTs` holds the entries in use. -/
structure ExclusiveHost (profiles : Nat) where
  bgIgnoreUntil : Vector Int profiles
  thrashCapLogged : Bool
  lastActiveProfile : Int
  thrashRing : Ring Int thrashRingSize
  classAFailTs : List Int
  lastSkipLogMs : Int
  lastIgnoreLogMs : Int
  evictWork : Work
  retryWork : Work
  fallbackWork : Work

namespace ExclusiveHost

variable {profiles : Nat}

/-- At power-up. -/
def boot₀ (profiles : Nat) : ExclusiveHost profiles :=
  ⟨Vector.replicate profiles 0, false, -1, Ring.empty (by decide) 0, [], 0, 0, .idle, .idle, .idle⟩

/-- `bg_clear_ignores` -/
def bgClearIgnores (s : ExclusiveHost profiles) : ExclusiveHost profiles :=
  { s with bgIgnoreUntil := Vector.replicate profiles 0, thrashCapLogged := false }

/-- `bg_ignore_until[idx]`, where `idx` is a profile. -/
def ignoreUntil (s : ExclusiveHost profiles) (idx : Int) : Option Int :=
  if idx < 0 then .none else s.bgIgnoreUntil[idx.toNat]?

/-- `bg_should_ignore` -/
def bgShouldIgnore (now : Int) (idx : Int) (s : ExclusiveHost profiles) : Bool :=
  match s.ignoreUntil idx with
  | .none => false
  | .some until_ => if until_ = 0 then false else now < until_

/-- `bg_note_evict` -/
def bgNoteEvict (cfg : ExclusiveConfig) (now : Int) (idx : Int) (s : ExclusiveHost profiles) :
    ExclusiveHost profiles :=
  if cfg.bgEvictIgnoreMs = 0 ∨ idx < 0 then s
  else { s with bgIgnoreUntil := s.bgIgnoreUntil.setIfInBounds idx.toNat (now + cfg.bgEvictIgnoreMs) }

/-! ## Thrash detect -/

/-- `THRASH_WINDOW_MS` -/
def thrashWindowMs (cfg : ExclusiveConfig) : Int := cfg.thrashWindowSec * 1000

/-- The loop of `thrash_win_count`: `todo` rounds from the `i`-th on, `n` so far. -/
def thrashWinLoop (windowMs now : Int) (ring : Ring Int thrashRingSize) : Nat → Nat → Nat → Nat
  | 0, _, n => n
  | todo + 1, i, n =>
    if windowMs < now - cell ring.pos ring.slots (ring.head + thrashRingSize - 1 - i) then n
    else thrashWinLoop windowMs now ring todo (i + 1) (n + 1)

/-- `thrash_win_count` -/
def thrashWinCount (cfg : ExclusiveConfig) (now : Int) (s : ExclusiveHost profiles) : Nat :=
  if cfg.thrashDetect then thrashWinLoop (thrashWindowMs cfg) now s.thrashRing s.thrashRing.count 0 0
  else 0

/-- `thrash_note_bg_evict` -/
def thrashNoteBgEvict (cfg : ExclusiveConfig) (env : HostEnv) (now : Int)
    (s : ExclusiveHost profiles) : ExclusiveHost profiles × List HostAct :=
  if cfg.thrashDetect then
    let s := { s with thrashRing := s.thrashRing.push now }
    let win := UInt8.ofNat (s.thrashWinCount cfg now)
    (s, [.record ⟨totemHevtThrashWin, -1, Int8.ofNat env.activeProfileIndex, win, win, 0⟩])
  else (s, [])

/-- `thrash_clear` -/
def thrashClear (cfg : ExclusiveConfig) (s : ExclusiveHost profiles) : ExclusiveHost profiles :=
  if cfg.thrashDetect then { s with thrashRing := s.thrashRing.clear } else s

/-- `CLASS_A_WINDOW_MS` -/
def classAWindowMs : Int := 60000

/-- `CLASS_A_FAIL_THRESHOLD` -/
def classAFailThreshold : Nat := 3

/-- The part of `class_a_note_auth_event` that keeps the last failures. -/
def classAKeep (now : Int) (s : ExclusiveHost profiles) : ExclusiveHost profiles :=
  let kept := s.classAFailTs.filter fun t => now - t ≤ classAWindowMs
  { s with
    classAFailTs := (if kept.length < classAFailThreshold then kept else kept.tail) ++ [now] }

/-- `class_a_note_auth_event` -/
def classANoteAuthEvent (cfg : ExclusiveConfig) (env : HostEnv) (now : Int) (isFail : Bool)
    (s : ExclusiveHost profiles) : ExclusiveHost profiles × List HostAct :=
  if cfg.thrashDetect = false then (s, [])
  else if isFail = false then ({ s with classAFailTs := [] }, [])
  else
    let s := s.classAKeep now
    let win := s.thrashWinCount cfg now
    if classAFailThreshold ≤ s.classAFailTs.length ∧ win < 2 then
      (s, [.record (env.activeRecord totemHevtClassASuspect (UInt8.ofNat s.classAFailTs.length)
        (UInt8.ofNat win) 0)])
    else (s, [])

/-! ## Eviction -/

/-- `drop_if_non_active_host` up to its `bt_conn_disconnect`, and whether it
gets there. -/
def dropCheck (cfg : ExclusiveConfig) (env : HostEnv) (now : Int) (force : Bool) (conn : HostConn)
    (s : ExclusiveHost profiles) : ExclusiveHost profiles × List HostAct × Bool :=
  let idx := conn.profileIndex
  if conn.infoErr ≠ 0 then (s, [], false)
  else if conn.role ≠ .peripheral then (s, [], false)
  else if totemHidIsUsb env || totemUsbCableUp env then (s, [], false)
  else if idx < 0 then (s, [], false)
  else if idx = env.activeProfileIndex then (s, [], false)
  else if cfg.evictRequiresBondedActive &&
      (env.activeProfileIsOpen || !env.activeProfileIsConnected) then
    if s.lastSkipLogMs = 0 ∨ 10000 ≤ now - s.lastSkipLogMs then
      ({ s with lastSkipLogMs := now },
        [.record ⟨totemHevtBgEvict, Int8.ofInt idx, Int8.ofNat env.activeProfileIndex, 0,
          UInt8.ofNat (s.thrashWinCount cfg now), 1⟩], false)
    else (s, [], false)
  else if force then (s, [], true)
  else if s.bgShouldIgnore now idx then
    if s.lastIgnoreLogMs = 0 ∨ 5000 ≤ now - s.lastIgnoreLogMs then
      ({ s with lastIgnoreLogMs := now }, [], false)
    else (s, [], false)
  else if cfg.thrashDetect ∧ cfg.bgEvictCap ≤ s.thrashWinCount cfg now then
    ({ s with thrashCapLogged := true }, [], false)
  else (s, [], true)

/-- `drop_if_non_active_host` after a `bt_conn_disconnect` that succeeded, where
it had read `idx` and `active` before. -/
def dropNote (cfg : ExclusiveConfig) (env : HostEnv) (now : Int) (idx : Int) (active : Nat)
    (s : ExclusiveHost profiles) : ExclusiveHost profiles × List HostAct :=
  let (s, acts) := (s.bgNoteEvict cfg now idx).thrashNoteBgEvict cfg env now
  (s, acts ++ [.record ⟨totemHevtBgEvict, Int8.ofInt idx, Int8.ofNat active,
    cfg.evictDisconnectReason, UInt8.ofNat (s.thrashWinCount cfg now), 0⟩])

/-- `drop_if_non_active_host` -/
def dropIfNonActiveHost (cfg : ExclusiveConfig) (env : HostEnv) (now : Int) (force : Bool)
    (conn : HostConn) (s : ExclusiveHost profiles) : ExclusiveHost profiles × List HostAct :=
  let (s, acts, drops) := s.dropCheck cfg env now force conn
  if drops then
    let acts := acts ++ [.disconnect conn cfg.evictDisconnectReason]
    if conn.disconnectErr ≠ 0 then (s, acts)
    else
      let (s, noted) := s.dropNote cfg env now conn.profileIndex env.activeProfileIndex
      (s, acts ++ noted)
  else (s, acts)

/-- The `bt_conn_foreach` of `exclusive_host_evict_all`. -/
def evictEach (cfg : ExclusiveConfig) (env : HostEnv) (now : Int) (force : Bool) :
    List HostConn → ExclusiveHost profiles → ExclusiveHost profiles × List HostAct
  | [], s => (s, [])
  | conn :: conns, s =>
    let (s, acts) := s.dropIfNonActiveHost cfg env now force conn
    let (s, acts') := evictEach cfg env now force conns s
    (s, acts ++ acts')

/-- `exclusive_host_evict_all` -/
def evictAll (cfg : ExclusiveConfig) (env : HostEnv) (now : Int) (force : Bool)
    (s : ExclusiveHost profiles) : ExclusiveHost profiles × List HostAct :=
  evictEach cfg env now force env.conns s

/-! ## Events -/

/-- `EXCLUSIVE_HOST_RETRY_MS` -/
def exclusiveHostRetryMs : Int := 150

/-- `EXCLUSIVE_HOST_SETTLE_MS` -/
def exclusiveHostSettleMs : Int := 2000

/-- `k_work_submit(&exclusive_host_evict_work)` and
`exclusive_host_schedule_retry`. -/
def requestEvict (now : Int) (s : ExclusiveHost profiles) : ExclusiveHost profiles :=
  { s with
    evictWork := s.evictWork.submit now
    retryWork := s.retryWork.schedule now exclusiveHostRetryMs }

/-- `exclusive_host_connected` -/
def connected (cfg : ExclusiveConfig) (env : HostEnv) (now : Int) (idx : Int) (err : UInt8)
    (s : ExclusiveHost profiles) : ExclusiveHost profiles × List HostAct :=
  let active := Int8.ofNat env.activeProfileIndex
  if err ≠ 0 then (s, [.record ⟨totemHevtConnFail, Int8.ofInt idx, active, err, 0, 0⟩])
  else
    let s' := s.requestEvict now
    ({ s' with fallbackWork := s'.fallbackWork.reschedule now exclusiveHostSettleMs },
      [.record ⟨totemHevtConn, Int8.ofInt idx, active, 0, UInt8.ofNat (s.thrashWinCount cfg now), 0⟩])

/-- `exclusive_host_security_changed` -/
def securityChanged (cfg : ExclusiveConfig) (env : HostEnv) (now : Int) (idx : Int) (level : Nat)
    (err : UInt8) (s : ExclusiveHost profiles) : ExclusiveHost profiles × List HostAct :=
  let type := if err ≠ 0 then totemHevtSecFail else totemHevtSecOk
  let shown := .record ⟨type, Int8.ofInt idx, Int8.ofNat env.activeProfileIndex, err,
    UInt8.ofNat (s.thrashWinCount cfg now), UInt8.ofNat level⟩
  let (s, acts) :=
    if idx = env.activeProfileIndex then
      if err ≠ 0 then s.classANoteAuthEvent cfg env now true
      else if btSecurityL2 ≤ level then s.classANoteAuthEvent cfg env now false
      else (s, [])
    else (s, [])
  (s.requestEvict now, shown :: acts)

/-- The role `log_host_conn_disc` records. -/
def roleByte (conn : HostConn) : UInt8 :=
  if conn.infoErr ≠ 0 then 255
  else match conn.role with
    | .central => 0
    | .peripheral => 1

/-- `exclusive_host_disconnected` -/
def disconnected (cfg : ExclusiveConfig) (env : HostEnv) (now : Int) (conn : HostConn)
    (reason : UInt8) (s : ExclusiveHost profiles) : ExclusiveHost profiles × List HostAct :=
  let shown := .record ⟨totemHevtDisc, Int8.ofInt conn.profileIndex,
    Int8.ofNat env.activeProfileIndex, reason, UInt8.ofNat (s.thrashWinCount cfg now),
    roleByte conn⟩
  let (s, acts) :=
    if conn.profileIndex = env.activeProfileIndex ∧ reason = btHciErrAuthFail then
      s.classANoteAuthEvent cfg env now true
    else (s, [])
  (s, shown :: acts)

/-- `exclusive_host_identity_resolved` -/
def identityResolved (env : HostEnv) (now : Int) (idx : Int) (s : ExclusiveHost profiles) :
    ExclusiveHost profiles × List HostAct :=
  (s.requestEvict now,
    [.record ⟨totemHevtIdentity, Int8.ofInt idx, Int8.ofNat env.activeProfileIndex, 0, 0, 0⟩])

/-- The `switched` of `exclusive_host_profile_changed`. -/
def switched (env : HostEnv) (s : ExclusiveHost profiles) : Bool :=
  0 ≤ s.lastActiveProfile ∧ s.lastActiveProfile ≠ env.activeProfileIndex

/-- `exclusive_host_profile_changed` -/
def profileChanged (cfg : ExclusiveConfig) (env : HostEnv) (now : Int) (s : ExclusiveHost profiles) :
    ExclusiveHost profiles × List HostAct :=
  let shown := .record (env.activeRecord totemHevtProfileChanged
    (if env.activeProfileIsConnected then 1 else 0) 0 (if env.activeProfileIsOpen then 1 else 0))
  let seen := { s with lastActiveProfile := (env.activeProfileIndex : Int) }
  let (s, acts) :=
    if s.switched env then
      ((seen.thrashClear cfg).bgClearIgnores).classANoteAuthEvent cfg env now false
    else (seen, [])
  (s.requestEvict now, acts ++ [shown])

/-! ## The handlers as one -/

/-- The contexts that enter `exclusive_host.c`. -/
inductive Cause where
  | connected (idx : Int) (err : UInt8)
  | securityChanged (idx : Int) (level : Nat) (err : UInt8)
  | disconnected (conn : HostConn) (reason : UInt8)
  | identityResolved (idx : Int)
  | profileChanged
  | evictWork
  | retryWork
  | fallbackWork
deriving DecidableEq, Repr

/-- A work handler runs when its item is on the queue. -/
def Enabled (s : ExclusiveHost profiles) : Cause → Prop
  | .evictWork => s.evictWork.queued.isSome
  | .retryWork => s.retryWork.queued.isSome
  | .fallbackWork => s.fallbackWork.queued.isSome
  | .connected _ _ | .securityChanged _ _ _ | .disconnected _ _ | .identityResolved _
  | .profileChanged => True

/-- The handler of a cause, from its start to its end. -/
def handle (cfg : ExclusiveConfig) (env : HostEnv) (now : Int) (s : ExclusiveHost profiles) :
    Cause → ExclusiveHost profiles × List HostAct
  | .connected idx err => s.connected cfg env now idx err
  | .securityChanged idx level err => s.securityChanged cfg env now idx level err
  | .disconnected conn reason => s.disconnected cfg env now conn reason
  | .identityResolved idx => s.identityResolved env now idx
  | .profileChanged => s.profileChanged cfg env now
  | .evictWork =>
    let (s, acts) := ({ s with evictWork := s.evictWork.start } :
      ExclusiveHost profiles).evictAll cfg env now false
    ({ s with evictWork := s.evictWork.finish }, acts)
  | .retryWork =>
    let (s, acts) := ({ s with retryWork := s.retryWork.start } :
      ExclusiveHost profiles).evictAll cfg env now false
    ({ s with retryWork := s.retryWork.finish }, acts)
  | .fallbackWork =>
    let (s, acts) := ({ s with fallbackWork := s.fallbackWork.start } :
      ExclusiveHost profiles).evictAll cfg env now false
    ({ s with fallbackWork := s.fallbackWork.finish }, acts)

/-- The clock reads `now`. -/
def expire (now : Int) (s : ExclusiveHost profiles) : ExclusiveHost profiles :=
  { s with retryWork := s.retryWork.expire now, fallbackWork := s.fallbackWork.expire now }

/-! ## What each can do -/

/-- What eviction goes by has not changed. -/
structure SameGuards (s s' : ExclusiveHost profiles) : Prop where
  bgIgnoreUntil : s'.bgIgnoreUntil = s.bgIgnoreUntil
  thrashRing : s'.thrashRing = s.thrashRing
  lastActiveProfile : s'.lastActiveProfile = s.lastActiveProfile

/-- What holds where `drop_if_non_active_host` disconnects. -/
structure Drops (cfg : ExclusiveConfig) (env : HostEnv) (now : Int) (force : Bool) (conn : HostConn)
    (s : ExclusiveHost profiles) : Prop where
  peripheral : conn.role = .peripheral
  hid : totemHidIsUsb env = false
  cable : totemUsbCableUp env = false
  mapped : 0 ≤ conn.profileIndex
  background : conn.profileIndex ≠ env.activeProfileIndex
  protects : cfg.evictRequiresBondedActive = true →
    env.activeProfileIsOpen = false ∧ env.activeProfileIsConnected = true
  unignored : force = false → s.bgShouldIgnore now conn.profileIndex = false
  below : force = false → cfg.thrashDetect = true → s.thrashWinCount cfg now < cfg.bgEvictCap

variable {cfg : ExclusiveConfig} {env : HostEnv} {now : Int} {s : ExclusiveHost profiles}

theorem SameGuards.refl : SameGuards s s := ⟨rfl, rfl, rfl⟩

/-- Class A only looks at authentication failures, and at most records one
suspicion. -/
theorem classANoteAuthEvent_cases (cfg : ExclusiveConfig) (env : HostEnv) (now : Int)
    (isFail : Bool) (s : ExclusiveHost profiles) :
    SameGuards s (s.classANoteAuthEvent cfg env now isFail).1 ∧
      disconnects (s.classANoteAuthEvent cfg env now isFail).2 = [] := by
  unfold classANoteAuthEvent
  by_cases hdetect : cfg.thrashDetect = false
  · rw [if_pos hdetect]
    exact ⟨.refl, rfl⟩
  rw [if_neg hdetect]
  by_cases hfail : isFail = false
  · rw [if_pos hfail]
    exact ⟨⟨rfl, rfl, rfl⟩, rfl⟩
  rw [if_neg hfail]
  dsimp only
  split <;> exact ⟨⟨rfl, rfl, rfl⟩, rfl⟩

/-- **`drop_if_non_active_host` disconnects only past all its guards**, and
until then only notes what it has logged. -/
theorem dropCheck_cases (cfg : ExclusiveConfig) (env : HostEnv) (now : Int) (force : Bool)
    (conn : HostConn) (s : ExclusiveHost profiles) :
    (Drops cfg env now force conn s ∧ s.dropCheck cfg env now force conn = (s, [], true)) ∨
      ∃ s' acts, SameGuards s s' ∧ s'.classAFailTs = s.classAFailTs ∧ disconnects acts = [] ∧
        s.dropCheck cfg env now force conn = (s', acts, false) := by
  have hstop : ∀ {acts : List HostAct}, disconnects acts = [] →
      ∀ {s' : ExclusiveHost profiles}, SameGuards s s' → s'.classAFailTs = s.classAFailTs →
      ∃ s'' acts', SameGuards s s'' ∧ s''.classAFailTs = s.classAFailTs ∧
        disconnects acts' = [] ∧ (s', acts, false) = (s'', acts', false) :=
    fun ha s' hs hts => ⟨s', _, hs, hts, ha, rfl⟩
  unfold dropCheck
  dsimp only
  by_cases hinfo : conn.infoErr ≠ 0
  · rw [if_pos hinfo]
    exact .inr (hstop rfl .refl rfl)
  rw [if_neg hinfo]
  by_cases hrole : conn.role ≠ .peripheral
  · rw [if_pos hrole]
    exact .inr (hstop rfl .refl rfl)
  rw [if_neg hrole]
  by_cases husb : (totemHidIsUsb env || totemUsbCableUp env) = true
  · rw [if_pos husb]
    exact .inr (hstop rfl .refl rfl)
  rw [if_neg husb]
  by_cases hidx : conn.profileIndex < 0
  · rw [if_pos hidx]
    exact .inr (hstop rfl .refl rfl)
  rw [if_neg hidx]
  by_cases hactive : conn.profileIndex = env.activeProfileIndex
  · rw [if_pos hactive]
    exact .inr (hstop rfl .refl rfl)
  rw [if_neg hactive]
  by_cases hprotects : (cfg.evictRequiresBondedActive &&
      (env.activeProfileIsOpen || !env.activeProfileIsConnected)) = true
  · rw [if_pos hprotects]
    by_cases hlog : s.lastSkipLogMs = 0 ∨ 10000 ≤ now - s.lastSkipLogMs
    · rw [if_pos hlog]
      exact .inr (hstop rfl ⟨rfl, rfl, rfl⟩ rfl)
    · rw [if_neg hlog]
      exact .inr (hstop rfl .refl rfl)
  rw [if_neg hprotects]
  have hpast : cfg.evictRequiresBondedActive = true →
      env.activeProfileIsOpen = false ∧ env.activeProfileIsConnected = true := by
    intro hrequired
    simpa [hrequired] using hprotects
  obtain ⟨hhid, hcable⟩ := Bool.or_eq_false_iff.mp (Bool.eq_false_iff.mpr husb)
  have hidx' : 0 ≤ conn.profileIndex := Int.not_lt.mp hidx
  by_cases hforce : force = true
  · rw [if_pos hforce]
    have hno : force ≠ false := by
      rw [hforce]
      decide
    exact .inl ⟨⟨not_not.mp hrole, hhid, hcable, hidx', hactive, hpast, fun h => absurd h hno,
      fun h => absurd h hno⟩, rfl⟩
  rw [if_neg hforce]
  by_cases hignore : s.bgShouldIgnore now conn.profileIndex = true
  · rw [if_pos hignore]
    by_cases hlog : s.lastIgnoreLogMs = 0 ∨ 5000 ≤ now - s.lastIgnoreLogMs
    · rw [if_pos hlog]
      exact .inr (hstop rfl ⟨rfl, rfl, rfl⟩ rfl)
    · rw [if_neg hlog]
      exact .inr (hstop rfl .refl rfl)
  rw [if_neg hignore]
  by_cases hcap : cfg.thrashDetect ∧ cfg.bgEvictCap ≤ s.thrashWinCount cfg now
  · rw [if_pos hcap]
    exact .inr (hstop rfl ⟨rfl, rfl, rfl⟩ rfl)
  rw [if_neg hcap]
  exact .inl ⟨⟨not_not.mp hrole, hhid, hcable, hidx', hactive, hpast,
    fun _ => Bool.eq_false_iff.mpr hignore,
    fun _ hdetect => Nat.lt_of_not_le fun hle => hcap ⟨hdetect, hle⟩⟩, rfl⟩

end ExclusiveHost

/-! ## A background host -/

/-- `config/totem.conf` -/
def totemConfig : ExclusiveConfig := ⟨true, true, 10, 10000, 4, 0x13, by decide, by decide⟩

/-- The host of profile 1. -/
def backgroundHost : HostConn := ⟨0, .peripheral, true, 1, 2, 0⟩

/-- The host of profile 1 is connected while profile 0 is selected and connected too. -/
def besideActive : HostEnv := ⟨.ble, .some false, false, 0, false, true, [backgroundHost]⟩

end TotemZmk
