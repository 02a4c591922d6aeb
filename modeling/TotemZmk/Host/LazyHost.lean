/-
`lazy_inactive_host.c`: every host stays connected, and is asked for the
connection parameters of its part, the snappy ones of the active profile or the
lazy ones of the others.

* `lazy_host_settles`: once no callback is owed and the handler is at rest, each
  host that can be asked was last asked for the parameters of its part.
* `sound`: which changes call for the handler, and what the others leave alone.
-/
import TotemZmk.Lib.Deferred
import TotemZmk.Host.Env
import Mathlib.Data.List.FinRange

namespace TotemZmk

open Deferred (Handler Environment AtRest)
open Trace (Run)
open Zephyr (Work)

/-- `CONFIG_BT_PERIPHERAL_PREF_*` and `CONFIG_TOTEM_LAZY_HOST_*` -/
structure LazyConfig where
  activeIntMin : UInt16
  activeIntMax : UInt16
  lazyIntMin : UInt16
  lazyIntMax : UInt16
  lazyLatency : UInt16
  lazyTimeout : UInt16

/-- `struct bt_le_conn_param` -/
structure LeConnParam where
  intervalMin : UInt16
  intervalMax : UInt16
  latency : UInt16
  timeout : UInt16
deriving DecidableEq, Repr

/-- What the module reads: the connections, by their index, and
`zmk_ble_active_profile_index`. -/
structure LazyEnv (slots : Nat) where
  conns : Fin slots → Option HostConn
  active : Int

namespace LazyEnv

variable {slots : Nat}

/-- The connection at one index becomes another. -/
def put (env : LazyEnv slots) (slot : Fin slots) (conn : Option HostConn) : LazyEnv slots :=
  { env with conns := Function.update env.conns slot conn }

/-- The profiles of the connections, and the active one, become others. -/
def select (env : LazyEnv slots) (active : Int) (index : Fin slots → Int) : LazyEnv slots :=
  ⟨fun slot => (env.conns slot).map fun conn => { conn with profileIndex := index slot }, active⟩

end LazyEnv

namespace LazyHost

variable {slots : Nat} {cfg : LazyConfig}

/-- `ACTIVE_LATENCY` -/
def activeLatency : UInt16 := 0

/-- `ACTIVE_TIMEOUT` -/
def activeTimeout : UInt16 := 400

/-- `param` of `apply_params` -/
def param (cfg : LazyConfig) (snappy : Bool) : LeConnParam :=
  if snappy then ⟨cfg.activeIntMin, cfg.activeIntMax, activeLatency, activeTimeout⟩
  else ⟨cfg.lazyIntMin, cfg.lazyIntMax, cfg.lazyLatency, cfg.lazyTimeout⟩

/-- `apply_params`: what it asks for, where it does. -/
def applyParams (cfg : LazyConfig) (snappy : Bool) (conn : HostConn) : Option LeConnParam :=
  if conn.infoErr ≠ 0 ∨ conn.role ≠ .peripheral then .none
  else if conn.connected = false then .none
  else if conn.security < btSecurityL2 then .none
  else .some (param cfg snappy)

/-- `update_one_host`: `snappy`, where it goes on to `apply_params`. -/
def updateOneHost (active : Int) (conn : HostConn) : Option Bool :=
  if conn.infoErr ≠ 0 ∨ conn.role ≠ .peripheral then .none
  else if conn.connected = false then .none
  else if conn.profileIndex < 0 then .none
  else .some (conn.profileIndex = active)

/-- The callbacks and the event. -/
inductive Callback where
  | profileChanged
  | connected (err : UInt8)
  | securityChanged (level : Nat)
  | identityResolved
deriving DecidableEq, Repr

/-- The callback calls `lazy_host_schedule`. -/
def Callback.schedules : Callback → Bool
  | .profileChanged | .identityResolved => true
  | .connected err => err = 0
  | .securityChanged level => btSecurityL2 ≤ level

/-- The stack and ZMK: what changes, the callbacks that follow, and the
connection that is another from then on. -/
inductive Change : LazyEnv slots → List Callback → (Fin slots → Bool) → LazyEnv slots → Prop where
  | connected {env} (slot : Fin slots) (conn : HostConn) (h : env.conns slot = .none) :
    Change env [.connected 0] (fun slot' => slot' = slot) (env.put slot (.some conn))
  | connectFailed {env} (err : UInt8) (h : err ≠ 0) : Change env [.connected err] (fun _ => false) env
  /-- No callback of this module's. -/
  | disconnected {env} (slot : Fin slots) (conn : HostConn) (h : env.conns slot = .some conn) :
    Change env [] (fun slot' => slot' = slot) (env.put slot (.some { conn with connected := false }))
  | released {env} (slot : Fin slots) :
    Change env [] (fun slot' => slot' = slot) (env.put slot .none)
  | securityChanged {env} (slot : Fin slots) (conn : HostConn) (level : Nat)
    (h : env.conns slot = .some conn) :
    Change env [.securityChanged level] (fun _ => false)
      (env.put slot (.some { conn with security := level }))
  | identityResolved {env} (slot : Fin slots) (conn : HostConn) (idx : Int)
    (h : env.conns slot = .some conn) :
    Change env [.identityResolved] (fun _ => false)
      (env.put slot (.some { conn with profileIndex := idx }))
  /-- A profile is selected, cleared or bonded. -/
  | profileChanged {env} (active : Int) (index : Fin slots → Int) :
    Change env [.profileChanged] (fun _ => false) (env.select active index)

/-- `lazy_host_work_handler` -/
def handler (cfg : LazyConfig) (slots : Nat) :
    Handler (LazyEnv slots) (Fin slots) Unit Bool LeConnParam where
  enter := fun _ => ()
  items := fun _ => List.finRange slots
  look := fun _ env slot => (env.conns slot).bind (updateOneHost env.active)
  act := fun snappy env slot => (env.conns slot).bind (applyParams cfg snappy)

/-- With `lazy_host_schedule`. -/
def environment (slots : Nat) : Environment (LazyEnv slots) Callback (Fin slots) where
  Change := Change
  schedules := Callback.schedules
  delay := 100
  delay_nonneg := by decide

/-- What a connection should have been asked for. -/
def should (cfg : LazyConfig) (env : LazyEnv slots) (slot : Fin slots) : Option LeConnParam :=
  (env.conns slot).bind fun conn =>
    (updateOneHost env.active conn).bind fun snappy => applyParams cfg snappy conn

/-- A host that can be asked. -/
structure Ready (conn : HostConn) : Prop where
  info : conn.infoErr = 0
  role : conn.role = .peripheral
  connected : conn.connected = true
  resolved : 0 ≤ conn.profileIndex
  encrypted : btSecurityL2 ≤ conn.security

theorem applyParams_eq_some {snappy : Bool} {conn : HostConn} {p : LeConnParam}
    (h : applyParams cfg snappy conn = .some p) :
    conn.infoErr = 0 ∧ conn.role = .peripheral ∧ conn.connected = true ∧
      btSecurityL2 ≤ conn.security ∧ p = param cfg snappy := by
  unfold applyParams at h
  split at h
  · cases h
  rename_i hinfo
  obtain ⟨herr, hrole⟩ := not_or.mp hinfo
  split at h
  · cases h
  rename_i hconnected
  split at h
  · cases h
  rename_i hsec
  cases h
  exact ⟨not_not.mp herr, not_not.mp hrole, by simpa using hconnected, Nat.not_lt.mp hsec, rfl⟩

theorem Ready.should {env : LazyEnv slots} {slot : Fin slots} {conn : HostConn}
    (hr : Ready conn) (h : env.conns slot = .some conn) :
    should cfg env slot = .some (param cfg (conn.profileIndex = env.active)) := by
  have hsec : ¬conn.security < btSecurityL2 := Nat.not_lt.mpr hr.encrypted
  have hidx : ¬conn.profileIndex < 0 := Int.not_lt.mpr hr.resolved
  simp [LazyHost.should, h, updateOneHost, applyParams, hr.info, hr.role, hr.connected, hidx, hsec]

/-- What the other connections should be asked for stays. -/
theorem should_put {env : LazyEnv slots} {slot slot' : Fin slots} {conn : Option HostConn}
    (h : slot' ≠ slot) : should cfg (env.put slot conn) slot' = should cfg env slot' := by
  simp [should, LazyEnv.put, h]

theorem should_put_self {env : LazyEnv slots} {slot : Fin slots} {conn : Option HostConn}
    (h : ∀ c ∈ conn, c.connected = false ∨ c.security < btSecurityL2) :
    should cfg (env.put slot conn) slot = .none := by
  cases conn with
  | none => simp [should, LazyEnv.put]
  | some c =>
    cases hshould : should cfg (env.put slot (.some c)) slot with
    | none => rfl
    | some p =>
      simp only [should, LazyEnv.put, Function.update_self, Option.bind_some,
        Option.bind_eq_some_iff] at hshould
      obtain ⟨snappy, -, happly⟩ := hshould
      obtain ⟨-, -, hconnected, hsec, -⟩ := applyParams_eq_some happly
      obtain hc | hc := h c rfl
      · rw [hconnected] at hc
        cases hc
      · exact absurd hc (Nat.not_lt.mpr hsec)

/-- A change of one connection that leaves nothing to ask of it. -/
theorem keeps_put {env : LazyEnv slots} {slot slot' : Fin slots} {conn : Option HostConn}
    {gone : Fin slots → Bool} {p : LeConnParam} (hgone : ∀ slot', slot' ≠ slot → gone slot' = false)
    (hconn : ∀ c ∈ conn, c.connected = false ∨ c.security < btSecurityL2)
    (h : should cfg (env.put slot conn) slot' = .some p) :
    should cfg env slot' = .some p ∧ gone slot' = false ∧
      ∀ snappy, (handler cfg slots).act snappy env slot' = .some p →
        (handler cfg slots).act snappy (env.put slot conn) slot' = .some p := by
  have hne : slot' ≠ slot := by
    intro he
    subst he
    rw [should_put_self hconn] at h
    cases h
  refine ⟨(should_put hne).symm.trans h, hgone slot' hne, fun snappy hact => ?_⟩
  simpa [handler, LazyEnv.put, hne] using hact

theorem sound (cfg : LazyConfig) (slots : Nat) :
    Deferred.Sound (handler cfg slots) (environment slots) (should cfg) where
  leads := by
    intro env slot p h
    simp only [should, Option.bind_eq_some_iff] at h
    obtain ⟨conn, hconn, snappy, hlook, hact⟩ := h
    exact ⟨List.mem_finRange slot, snappy, by simpa [handler, hconn] using hlook,
      by simpa [handler, hconn] using hact⟩
  enters := fun _ _ => rfl
  keeps := by
    intro env ks gone env' slot p hc hks hp
    have hsched : ∀ k ∈ ks, Callback.schedules k = false := hks
    cases hc with
    | connected slot' conn h =>
      have hfalse := hsched _ (List.mem_singleton.mpr rfl)
      simp [Callback.schedules] at hfalse
    | connectFailed err h => exact ⟨hp, rfl, fun _ => id⟩
    | disconnected slot' conn h =>
      exact keeps_put (fun _ hne => decide_eq_false hne) (by simp) hp
    | released slot' => exact keeps_put (fun _ hne => decide_eq_false hne) (by simp) hp
    | securityChanged slot' conn level h =>
      have hlow : level < btSecurityL2 := by
        simpa [Callback.schedules] using hsched _ (List.mem_singleton.mpr rfl)
      exact keeps_put (fun _ _ => rfl) (by simp [hlow]) hp
    | identityResolved slot' conn idx h =>
      cases hsched _ (List.mem_singleton.mpr rfl)
    | profileChanged active index =>
      cases hsched _ (List.mem_singleton.mpr rfl)

/-- The module, and what it reads. -/
abbrev State (slots : Nat) :=
  Deferred.State (LazyEnv slots) Callback (Fin slots) Unit Bool LeConnParam

abbrev Obs (slots : Nat) := Deferred.Obs (LazyEnv slots) Callback (Fin slots) Unit LeConnParam

/-- At power-up no host is connected. -/
def boot₀ (slots : Nat) (active : Int) (now : Int) : State slots :=
  Deferred.boot₀ ⟨fun _ => .none, active⟩ .idle now

abbrev Step (cfg : LazyConfig) (slots : Nat) :=
  Deferred.Step (handler cfg slots) (environment slots)

end LazyHost

/-- **The active host is snappy and the others are lazy.** In any run of the
stack, of ZMK and of the module, once no callback that asks for the handler is
owed and the handler is at rest, every host that can be asked was last asked for
the parameters of its part. Each was asked on an encrypted link that is up, and
the handler ran no more than it was asked to. -/
theorem lazy_host_settles (cfg : LazyConfig) (slots : Nat) (active : Int) (t₀ : Int)
    {h : List (LazyHost.Obs slots)} {s : LazyHost.State slots}
    (hr : Run (LazyHost.Step cfg slots) (LazyHost.boot₀ slots active t₀) h s) :
    (AtRest (LazyHost.environment slots) s → ∀ slot conn, s.env.conns slot = .some conn →
      LazyHost.Ready conn →
        s.last slot = .some (LazyHost.param cfg (conn.profileIndex = s.env.active))) ∧
    (∀ env slot p, .requested env slot p ∈ h → ∃ conn snappy, env.conns slot = .some conn ∧
      conn.role = .peripheral ∧ conn.connected = true ∧ btSecurityL2 ≤ conn.security ∧
      p = LazyHost.param cfg snappy) ∧
    Deferred.starts h ≤ Deferred.calls LazyHost.Callback.schedules h := by
  refine ⟨?_, ?_, Nat.le_of_add_right_le (Deferred.starts_le hr)⟩
  · intro hrest slot conn hconn hready
    have hsettled := Deferred.settled (LazyHost.sound cfg slots) rfl .idle (.inr fun _ => rfl) hr hrest
    exact hsettled.1 slot _ (hready.should hconn)
  · intro env slot p hm
    obtain ⟨later, earlier, he⟩ := List.append_of_mem hm
    obtain ⟨-, snappy, hact⟩ := Deferred.requested hr he
    obtain ⟨conn, hconn, happly⟩ := Option.bind_eq_some_iff.mp hact
    obtain ⟨-, hrole, hconnected, hsec, hp⟩ := LazyHost.applyParams_eq_some happly
    exact ⟨conn, snappy, hconn, hrole, hconnected, hsec, hp⟩

/-- Kconfig's defaults. -/
def lazyDefaults : LazyConfig := ⟨6, 12, 80, 160, 4, 500⟩

/-- A bonded host of profile 1, encrypted at once. -/
def lazyHost : HostConn := ⟨0, .peripheral, true, 1, 2, 0⟩

theorem lazy_host_settles_background :
    ∃ (h : List (LazyHost.Obs 1)) (s : LazyHost.State 1),
      Run (LazyHost.Step lazyDefaults 1) (LazyHost.boot₀ 1 0 0) h s ∧
        s.last 0 = .some (LazyHost.param lazyDefaults false) := by
  have hconnected : Run (LazyHost.Step lazyDefaults 1) (LazyHost.boot₀ 1 0 0) _ _ :=
    Run.refl.quiet (.change _ _ _ (.connected 0 lazyHost rfl))
  have hqueued := (hconnected.shows (.next rfl)).quiet (.tick 100 (by decide))
  have hwalking := (hqueued.shows (.start rfl rfl)).quiet (.look rfl rfl)
  have hfinished := (hwalking.shows (.request rfl rfl)).shows (.finish rfl)
  exact ⟨_, _, hfinished, (lazy_host_settles lazyDefaults 1 0 0 hfinished).1 ⟨nofun, rfl, rfl⟩ 0
    lazyHost rfl ⟨rfl, rfl, rfl, by decide, by decide⟩⟩

end TotemZmk
