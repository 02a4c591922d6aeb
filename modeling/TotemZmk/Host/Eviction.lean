/-
`exclusive_host.c` overlooks no background host: each callback that may have made
one puts a scan on the queue, and a scan leaves one linked only for a reason.

The scans are those of `exclusive_host_evict_work`; the two delayed ones scan
again. What a visit does to the guards, and what theirs do, are changes that may
come at any step here: `bg_eviction_cannot_flap` is about those.

* `dropCheck_iff`: what a visit comes to.
* `evictWork_handle`: which callbacks put a scan on the queue.
* `eviction_overlooks_none`: the theorem.
-/
import TotemZmk.Host.Exclusive
import TotemZmk.Lib.Deferred
import Mathlib.Data.List.FinRange

namespace TotemZmk

open Deferred (Handler Environment AtRest)
open Trace (Run)
open Zephyr (Work)

namespace ExclusiveHost

variable {profiles : Nat}

/-- A host of another profile than the active one. -/
def isBackground (active : Nat) (conn : HostConn) : Bool :=
  conn.infoErr = 0 ∧ conn.role = .peripheral ∧ 0 ≤ conn.profileIndex ∧
    conn.profileIndex ≠ active

/-- Why a scan may leave it linked: USB is in use, the active host is not there to
be protected, it has been evicted a moment ago, or too many have. -/
def isSpared (cfg : ExclusiveConfig) (env : HostEnv) (now : Int) (idx : Int)
    (s : ExclusiveHost profiles) : Bool :=
  totemHidIsUsb env || totemUsbCableUp env ||
    (cfg.evictRequiresBondedActive && (env.activeProfileIsOpen || !env.activeProfileIsConnected)) ||
    s.bgShouldIgnore now idx ||
    decide (cfg.thrashDetect ∧ cfg.bgEvictCap ≤ s.thrashWinCount cfg now)

variable {cfg : ExclusiveConfig} {env : HostEnv} {now : Int} {conn : HostConn}
  {s : ExclusiveHost profiles}

/-- **A visit disconnects a background host that is not spared**, and no other. -/
theorem dropCheck_iff : (s.dropCheck cfg env now false conn).2.2 = true ↔
    isBackground env.activeProfileIndex conn = true ∧
      s.isSpared cfg env now conn.profileIndex = false := by
  unfold dropCheck
  dsimp only
  by_cases hinfo : conn.infoErr ≠ 0
  · simp [isBackground, hinfo]
  rw [if_neg hinfo]
  by_cases hrole : conn.role ≠ .peripheral
  · simp [isBackground, hrole]
  rw [if_neg hrole]
  by_cases husb : (totemHidIsUsb env || totemUsbCableUp env) = true
  · simp [isSpared, husb]
  rw [if_neg husb]
  by_cases hidx : conn.profileIndex < 0
  · simp [isBackground, hidx]
  rw [if_neg hidx]
  by_cases hactive : conn.profileIndex = env.activeProfileIndex
  · simp [isBackground, hactive]
  rw [if_neg hactive]
  have hbackground : isBackground env.activeProfileIndex conn = true := by
    simp [isBackground, not_not.mp hinfo, not_not.mp hrole, hactive, Int.not_lt.mp hidx]
  rw [Bool.not_eq_true] at husb
  by_cases hprotects : (cfg.evictRequiresBondedActive &&
      (env.activeProfileIsOpen || !env.activeProfileIsConnected)) = true
  · have hspared : s.isSpared cfg env now conn.profileIndex = true := by
      simp [isSpared, hprotects]
    rw [if_pos hprotects, hspared]
    split <;> simp
  rw [if_neg hprotects, if_neg Bool.false_ne_true]
  rw [Bool.not_eq_true] at hprotects
  by_cases hignore : s.bgShouldIgnore now conn.profileIndex = true
  · have hspared : s.isSpared cfg env now conn.profileIndex = true := by
      simp [isSpared, hignore]
    rw [if_pos hignore, hspared]
    split <;> simp
  rw [if_neg hignore]
  rw [Bool.not_eq_true] at hignore
  by_cases hcap : cfg.thrashDetect ∧ cfg.bgEvictCap ≤ s.thrashWinCount cfg now
  · have hspared : s.isSpared cfg env now conn.profileIndex = true := by
      simp [isSpared, hcap]
    simp [hcap, hspared]
  · have hspared : s.isSpared cfg env now conn.profileIndex = false := by
      simp [isSpared, husb, hprotects, hignore, hcap]
    simp [hcap, hbackground, hspared]

theorem mem_disconnects {acts : List HostAct} {reason : UInt8}
    (h : .disconnect conn reason ∈ acts) : conn ∈ disconnects acts := by
  obtain ⟨before, after, rfl⟩ := List.append_of_mem h
  rw [disconnects_append]
  exact List.mem_append_right _ List.mem_cons_self

theorem disconnect_mem_drop :
    .disconnect conn cfg.evictDisconnectReason ∈ (s.dropIfNonActiveHost cfg env now false conn).2 ↔
      (s.dropCheck cfg env now false conn).2.2 = true := by
  obtain ⟨-, hdrop⟩ | ⟨s', acts, -, -, hnone, hkeep⟩ := dropCheck_cases cfg env now false conn s
  · unfold dropIfNonActiveHost
    rw [hdrop]
    simp only [if_true, iff_true]
    split <;> simp
  · unfold dropIfNonActiveHost
    rw [hkeep]
    simp only [Bool.false_eq_true, if_false, iff_false]
    intro hmem
    have hdisconnect := mem_disconnects hmem
    rw [hnone] at hdisconnect
    cases hdisconnect

/-- The callbacks that ask for a scan. -/
def asksForScan : Cause → Bool
  | .connected _ err => err = 0
  | .securityChanged _ _ _ | .identityResolved _ | .profileChanged => true
  | .disconnected _ _ | .evictWork | .retryWork | .fallbackWork => false

/-- A callback, and no work handler. -/
def isCallback : Cause → Bool
  | .connected _ _ | .securityChanged _ _ _ | .disconnected _ _ | .identityResolved _
  | .profileChanged => true
  | .evictWork | .retryWork | .fallbackWork => false

theorem evictWork_classANoteAuthEvent (isFail : Bool) :
    (s.classANoteAuthEvent cfg env now isFail).1.evictWork = s.evictWork := by
  unfold classANoteAuthEvent
  split
  · rfl
  split
  · rfl
  dsimp only
  split <;> rfl

/-- **The callbacks that ask for a scan submit the item**, and the others leave it. -/
theorem evictWork_handle {cause : Cause} (hc : isCallback cause = true) :
    (s.handle cfg env now cause).1.evictWork =
      if asksForScan cause then s.evictWork.submit now else s.evictWork := by
  cases cause with
  | connected idx err =>
    show (s.connected cfg env now idx err).1.evictWork = _
    unfold ExclusiveHost.connected
    by_cases herr : err = 0 <;> simp [asksForScan, herr, requestEvict]
  | securityChanged idx level err =>
    show (s.securityChanged cfg env now idx level err).1.evictWork = _
    unfold ExclusiveHost.securityChanged
    dsimp only
    unfold requestEvict
    by_cases hactive : idx = env.activeProfileIndex
    · by_cases herr : err ≠ 0
      · simp [asksForScan, hactive, herr, evictWork_classANoteAuthEvent]
      · by_cases hlevel : btSecurityL2 ≤ level <;>
          simp [asksForScan, hactive, herr, hlevel, evictWork_classANoteAuthEvent]
    · simp [asksForScan, hactive]
  | disconnected conn reason =>
    show (s.disconnected cfg env now conn reason).1.evictWork = _
    unfold ExclusiveHost.disconnected
    dsimp only
    split <;> simp [asksForScan, evictWork_classANoteAuthEvent]
  | identityResolved idx => rfl
  | profileChanged =>
    show (s.profileChanged cfg env now).1.evictWork = _
    unfold ExclusiveHost.profileChanged
    dsimp only
    unfold requestEvict
    have hclear (host : ExclusiveHost profiles) : (host.thrashClear cfg).evictWork = host.evictWork := by
      unfold thrashClear
      split <;> rfl
    split
    · simp [asksForScan, evictWork_classANoteAuthEvent, bgClearIgnores, hclear]
    · simp [asksForScan]
  | evictWork | retryWork | fallbackWork => cases hc

end ExclusiveHost

/-- What the module reads: the connections, by their index, with USB and the
active profile; its own guards; and the clock. -/
structure EvictEnv (slots profiles : Nat) where
  conns : Fin slots → Option HostConn
  zmk : HostEnv
  guards : ExclusiveHost profiles
  now : Int

namespace EvictEnv

variable {slots profiles : Nat}

/-- The connection at one index becomes another. -/
def put (env : EvictEnv slots profiles) (slot : Fin slots) (conn : Option HostConn) :
    EvictEnv slots profiles :=
  { env with conns := Function.update env.conns slot conn }

/-- The active profile, and the profiles of the connections, become others. -/
def select (env : EvictEnv slots profiles) (active : Nat) (isOpen connected : Bool)
    (index : Fin slots → Int) : EvictEnv slots profiles :=
  { env with
    conns := fun slot => (env.conns slot).map fun conn => { conn with profileIndex := index slot }
    zmk := { env.zmk with
      activeProfileIndex := active
      activeProfileIsOpen := isOpen
      activeProfileIsConnected := connected } }

end EvictEnv

namespace Eviction

open ExclusiveHost (Cause isBackground isSpared asksForScan)

variable {slots profiles : Nat}

/-- The stack, ZMK, USB, and the guards. The callbacks owed say what they were
called about. -/
inductive Change : EvictEnv slots profiles → List Cause → (Fin slots → Bool) →
    EvictEnv slots profiles → Prop where
  | connected {env} (slot : Fin slots) (conn : HostConn) (h : env.conns slot = .none) :
    Change env [.connected conn.profileIndex 0] (fun slot' => slot' = slot)
      (env.put slot (.some conn))
  | connectFailed {env} (idx : Int) (err : UInt8) (herr : err ≠ 0) :
    Change env [.connected idx err] (fun _ => false) env
  | securityChanged {env} (slot : Fin slots) (conn : HostConn) (level : Nat) (err : UInt8)
    (h : env.conns slot = .some conn) :
    Change env [.securityChanged conn.profileIndex level err] (fun _ => false)
      (env.put slot (.some { conn with security := level }))
  /-- Which profile it is of. -/
  | identityResolved {env} (slot : Fin slots) (conn : HostConn) (idx : Int)
    (h : env.conns slot = .some conn) :
    Change env [.identityResolved idx] (fun slot' => slot' = slot)
      (env.put slot (.some { conn with profileIndex := idx }))
  /-- Its state, and whether it can be asked to leave. -/
  | changed {env} (slot : Fin slots) (conn conn' : HostConn) (h : env.conns slot = .some conn)
    (hinfo : conn'.infoErr = conn.infoErr) (hrole : conn'.role = conn.role)
    (hidx : conn'.profileIndex = conn.profileIndex) :
    Change env [] (fun _ => false) (env.put slot (.some conn'))
  | disconnected {env} (slot : Fin slots) (conn : HostConn) (reason : UInt8)
    (h : env.conns slot = .some conn) :
    Change env [.disconnected conn reason] (fun slot' => slot' = slot) (env.put slot .none)
  /-- A switch, or a profile paired or cleared. -/
  | profileChanged {env} (active : Nat) (isOpen connected : Bool) (index : Fin slots → Int) :
    Change env [.profileChanged] (fun _ => true) (env.select active isOpen connected index)
  | zmk {env} (zmk : HostEnv) (h : zmk.activeProfileIndex = env.zmk.activeProfileIndex) :
    Change env [] (fun _ => false) { env with zmk := zmk }
  | guards {env} (guards : ExclusiveHost profiles) (now : Int) (h : env.now ≤ now) :
    Change env [] (fun _ => false) { env with guards := guards, now := now }

/-- What a scan finds at an index: a background host. -/
def find (env : EvictEnv slots profiles) (slot : Fin slots) : Option Unit :=
  (env.conns slot).bind fun conn =>
    if isBackground env.zmk.activeProfileIndex conn then .some () else .none

/-- `exclusive_host_evict_work_handler` -/
def handler (slots profiles : Nat) :
    Handler (EvictEnv slots profiles) (Fin slots) Unit Unit Unit where
  enter := fun _ => ()
  items := fun _ => List.finRange slots
  look := fun _ env slot => (env.conns slot).map fun _ => ()
  act := fun _ env slot => find env slot

/-- `k_work_submit` is `k_work_reschedule` without a delay, for an item never
delayed. -/
def environment (slots profiles : Nat) : Environment (EvictEnv slots profiles) Cause (Fin slots) where
  Change := Change
  schedules := asksForScan
  delay := 0
  delay_nonneg := Int.le_refl 0

theorem find_eq_some {env : EvictEnv slots profiles} {slot : Fin slots} {r : Unit} :
    find env slot = .some r ↔ ∃ conn, env.conns slot = .some conn ∧
      isBackground env.zmk.activeProfileIndex conn = true := by
  simp [find, Option.bind_eq_some_iff]

theorem find_put_of_ne {env : EvictEnv slots profiles} {slot slot' : Fin slots}
    {conn : Option HostConn} (h : slot ≠ slot') : find (env.put slot' conn) slot = find env slot := by
  unfold find EvictEnv.put
  dsimp only
  rw [Function.update_of_ne h]

theorem sound (slots profiles : Nat) :
    Deferred.Sound (handler slots profiles) (environment slots profiles) find where
  leads := by
    intro env slot r h
    obtain ⟨conn, hconn, -⟩ := find_eq_some.mp h
    refine ⟨List.mem_finRange slot, (), ?_, h⟩
    simp [handler, hconn]
  enters := fun _ _ => rfl
  keeps := by
    intro env ks gone env' slot r hc hks h
    cases hc with
    | connected slot' conn hfree => simp [environment, asksForScan] at hks
    | connectFailed idx err herr => exact ⟨h, rfl, fun _ hact => hact⟩
    | securityChanged slot' conn level err hconn => simp [environment, asksForScan] at hks
    | identityResolved slot' conn idx hconn => simp [environment, asksForScan] at hks
    | changed slot' conn conn' hconn hinfo hrole hidx =>
      have hfind : find (env.put slot' (.some conn')) slot = find env slot := by
        by_cases he : slot = slot'
        · subst he
          simp [find, EvictEnv.put, hconn, isBackground, hinfo, hrole, hidx]
        · exact find_put_of_ne he
      exact ⟨hfind ▸ h, rfl, fun _ hact => hfind.trans hact⟩
    | disconnected slot' conn reason hconn =>
      by_cases he : slot = slot'
      · subst he
        simp [find, EvictEnv.put] at h
      · have hfind : find (env.put slot' .none) slot = find env slot := find_put_of_ne he
        exact ⟨hfind ▸ h, decide_eq_false he, fun _ hact => hfind.trans hact⟩
    | profileChanged active isOpen connected index => simp [environment, asksForScan] at hks
    | zmk zmk hactive =>
      have hfind : find { env with zmk := zmk } slot = find env slot := by
        simp [find, hactive]
      exact ⟨hfind ▸ h, rfl, fun _ hact => hfind.trans hact⟩
    | guards guards now hnow => exact ⟨h, rfl, fun _ hact => hact⟩

/-- The module, and what it reads. -/
abbrev State (slots profiles : Nat) :=
  Deferred.State (EvictEnv slots profiles) Cause (Fin slots) Unit Unit Unit

abbrev Obs (slots profiles : Nat) :=
  Deferred.Obs (EvictEnv slots profiles) Cause (Fin slots) Unit Unit

/-- At power-up nothing is connected. -/
def boot₀ (slots profiles : Nat) (zmk : HostEnv) (now : Int) : State slots profiles :=
  Deferred.boot₀ ⟨fun _ => .none, zmk, .boot₀ profiles, now⟩ .idle now

abbrev Step (slots profiles : Nat) :=
  Deferred.Step (handler slots profiles) (environment slots profiles)

/-- What a visit does: `drop_if_non_active_host`, as the scans call it. -/
def visit (cfg : ExclusiveConfig) (env : EvictEnv slots profiles) (conn : HostConn) :
    ExclusiveHost profiles × List HostAct :=
  env.guards.dropIfNonActiveHost cfg env.zmk env.now false conn

end Eviction

/-- **No background host is overlooked.** In any run of the stack, of ZMK, of USB
and of the module, whatever becomes of the guards: once no callback is owed and
the scan is at rest, a scan has come to every host of another profile than the
active one, since that last changed and since the host was linked or resolved. A
scan that comes to one asks it to leave, unless it is spared: USB is in use, the
active host is not linked, its ignore time runs, or the cap is reached. And there
are no more scans than callbacks that ask for one. -/
theorem eviction_overlooks_none (slots profiles : Nat) (cfg : ExclusiveConfig) (zmk : HostEnv)
    (t₀ : Int) {h : List (Eviction.Obs slots profiles)} {s : Eviction.State slots profiles}
    (hr : Run (Eviction.Step slots profiles) (Eviction.boot₀ slots profiles zmk t₀) h s) :
    (AtRest (Eviction.environment slots profiles) s →
      ∀ slot conn, s.env.conns slot = .some conn →
        ExclusiveHost.isBackground s.env.zmk.activeProfileIndex conn = true →
          s.last slot = .some () ∧
            ∃ later env earlier, h = later ++ .requested env slot () :: earlier) ∧
    (∀ later env slot earlier, h = later ++ .requested env slot () :: earlier →
      ∃ conn, env.conns slot = .some conn ∧
        ExclusiveHost.isBackground env.zmk.activeProfileIndex conn = true ∧
        (.disconnect conn cfg.evictDisconnectReason ∈ (Eviction.visit cfg env conn).2 ↔
          env.guards.isSpared cfg env.zmk env.now conn.profileIndex = false)) ∧
    Deferred.starts h ≤ Deferred.calls ExclusiveHost.asksForScan h := by
  have hnone : ∀ slot, Eviction.find (Eviction.boot₀ slots profiles zmk t₀).env slot = .none :=
    fun _ => rfl
  refine ⟨?_, ?_, ?_⟩
  · intro hrest slot conn hconn hbackground
    have hasked := (Deferred.settled (Eviction.sound slots profiles) rfl Work.Timely.idle
      (.inr hnone) hr hrest).1 slot () (Eviction.find_eq_some.mpr ⟨conn, hconn, hbackground⟩)
    exact ⟨hasked, Deferred.last_requested hr hasked⟩
  · intro later env slot earlier he
    obtain ⟨-, _, hact⟩ := Deferred.requested hr he
    obtain ⟨conn, hconn, hbackground⟩ := Eviction.find_eq_some.mp hact
    refine ⟨conn, hconn, hbackground, ?_⟩
    unfold Eviction.visit
    rw [ExclusiveHost.disconnect_mem_drop, ExclusiveHost.dropCheck_iff]
    simp [hbackground]
  · have hle := Deferred.starts_le hr
    exact Nat.le_of_add_right_le hle

/-- A host of profile 1 connects beside the active one: the scan that follows asks
it to leave. -/
theorem eviction_overlooks_none_beside :
    ∃ (h : List (Eviction.Obs 1 5)) (s : Eviction.State 1 5) (env : EvictEnv 1 5),
      Run (Eviction.Step 1 5) (Eviction.boot₀ 1 5 besideActive 1) h s ∧
        s.last 0 = .some () ∧ .requested env 0 () ∈ h ∧
        .disconnect backgroundHost totemConfig.evictDisconnectReason ∈
          (Eviction.visit totemConfig env backgroundHost).2 := by
  have hlinked : Run (Eviction.Step 1 5) (Eviction.boot₀ 1 5 besideActive 1) _ _ :=
    Run.refl.quiet (.change _ _ _ (.connected 0 backgroundHost rfl))
  have hqueued := hlinked.shows (.next rfl)
  have hwalking := (hqueued.shows (.start rfl rfl)).quiet (.look rfl rfl)
  have hfinished := (hwalking.shows (.request rfl rfl)).shows (.finish rfl)
  obtain ⟨hfound, hvisits, -⟩ := eviction_overlooks_none 1 5 totemConfig besideActive 1 hfinished
  have hlast := (hfound ⟨nofun, rfl, rfl⟩ 0 backgroundHost rfl rfl).1
  obtain ⟨conn, hconn, -, hasked⟩ := hvisits [_] _ 0 _ rfl
  cases hconn
  exact ⟨_, _, _, hfinished, hlast, List.mem_cons_of_mem _ List.mem_cons_self, hasked.mpr rfl⟩

end TotemZmk
