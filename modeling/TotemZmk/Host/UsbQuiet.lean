/-
`usb_host_quiet.c`: while the cable is in, the links of computers are dropped
and the split link stays.

* `usb_quiet_settles`: once no USB event is owed and the handler is at rest, the
  last `ADV` record goes with the cable, and with the cable in every computer
  linked since before the last USB event was asked to leave.
* `sound`: a link that changes calls for nothing, and disturbs nothing.
-/
import TotemZmk.Lib.Deferred
import TotemZmk.Host.Env
import Mathlib.Data.List.FinRange

namespace TotemZmk

open Deferred (Handler Environment AtRest)
open Trace (Run)
open Zephyr (Work)

/-- `TOTEM_HEVT_ADV` -/
def totemHevtAdv : UInt8 := 17

/-- What the module reads: the connections, by their index, and
`zmk_usb_is_powered`. `late` marks those made with the cable in, since the last
USB event. -/
structure UsbQuietEnv (slots : Nat) where
  conns : Fin slots → Option HostConn
  powered : Bool
  late : Fin slots → Bool

namespace UsbQuietEnv

variable {slots : Nat}

/-- The connection at one index becomes another. -/
def put (env : UsbQuietEnv slots) (slot : Fin slots) (conn : Option HostConn) : UsbQuietEnv slots :=
  { env with conns := Function.update env.conns slot conn }

/-- A new link. -/
def link (env : UsbQuietEnv slots) (slot : Fin slots) (conn : HostConn) : UsbQuietEnv slots :=
  { env.put slot (.some conn) with late := Function.update env.late slot env.powered }

/-- A USB event. -/
def usb (env : UsbQuietEnv slots) (powered : Bool) : UsbQuietEnv slots :=
  { env with powered := powered, late := fun _ => false }

end UsbQuietEnv

namespace UsbQuiet

variable {slots : Nat}

/-- `drop_host_conn`: the reason it disconnects for, where it does. -/
def dropHostConn (conn : HostConn) : Option UInt8 :=
  if conn.infoErr ≠ 0 then .none
  else if conn.role ≠ .peripheral then .none
  else .some btHciErrRemoteUserTermConn

/-- What `usb_host_quiet_work_handler` records at its end. -/
def advRecord (powered : Bool) : RecordArgs :=
  if powered = false then ⟨totemHevtAdv, -1, -1, 1, 0, 0⟩ else ⟨totemHevtAdv, -1, -1, 0, 0, 1⟩

/-- The stack and USB: only `zmk_usb_conn_state_changed` reaches the module. -/
inductive Change : UsbQuietEnv slots → List Unit → (Fin slots → Bool) → UsbQuietEnv slots → Prop
    where
  | connected {env} (slot : Fin slots) (conn : HostConn) (h : env.conns slot = .none) :
    Change env [] (fun slot' => slot' = slot) (env.link slot conn)
  /-- Its security, its profile, its state. -/
  | changed {env} (slot : Fin slots) (conn conn' : HostConn) (h : env.conns slot = .some conn)
    (hinfo : conn'.infoErr = conn.infoErr) (hrole : conn'.role = conn.role) :
    Change env [] (fun _ => false) (env.put slot (.some conn'))
  | released {env} (slot : Fin slots) :
    Change env [] (fun slot' => slot' = slot) (env.put slot .none)
  /-- What was asked before counts no more. -/
  | usbConnStateChanged {env} (powered : Bool) :
    Change env [()] (fun _ => true) (env.usb powered)

/-- `usb_host_quiet_work_handler` -/
def handler (slots : Nat) : Handler (UsbQuietEnv slots) (Fin slots) Bool Unit UInt8 where
  enter := UsbQuietEnv.powered
  items := fun powered => if powered = false then [] else List.finRange slots
  look := fun _ env slot => (env.conns slot).map fun _ => ()
  act := fun _ env slot => (env.conns slot).bind dropHostConn

/-- With `usb_host_quiet_listener`. -/
def environment (slots : Nat) : Environment (UsbQuietEnv slots) Unit (Fin slots) where
  Change := Change
  schedules := fun _ => true
  delay := 50
  delay_nonneg := by decide

/-- What a connection should have been asked. -/
def should (env : UsbQuietEnv slots) (slot : Fin slots) : Option UInt8 :=
  if env.powered = false ∨ env.late slot = true then .none else (env.conns slot).bind dropHostConn

theorem dropHostConn_eq_some {conn : HostConn} {reason : UInt8}
    (h : dropHostConn conn = .some reason) :
    conn.infoErr = 0 ∧ conn.role = .peripheral ∧ reason = btHciErrRemoteUserTermConn := by
  unfold dropHostConn at h
  split at h
  · cases h
  rename_i hinfo
  split at h
  · cases h
  rename_i hrole
  cases h
  exact ⟨not_not.mp hinfo, not_not.mp hrole, rfl⟩

/-- A connection that is as before to `drop_host_conn`. -/
theorem keeps_put {env : UsbQuietEnv slots} {slot slot' : Fin slots} {conn conn' : HostConn}
    {reason : UInt8} (hconn : env.conns slot' = .some conn)
    (hsame : dropHostConn conn' = dropHostConn conn)
    (h : should (env.put slot' (.some conn')) slot = .some reason) :
    should env slot = .some reason ∧
      (((env.put slot' (.some conn')).conns slot).bind dropHostConn =
        (env.conns slot).bind dropHostConn) := by
  have hbind : ((env.put slot' (.some conn')).conns slot).bind dropHostConn =
      (env.conns slot).bind dropHostConn := by
    by_cases he : slot = slot'
    · subst he
      simp [UsbQuietEnv.put, hconn, hsame]
    · simp [UsbQuietEnv.put, he]
  refine ⟨?_, hbind⟩
  unfold should at h ⊢
  rw [← hbind]
  exact h

theorem sound (slots : Nat) : Deferred.Sound (handler slots) (environment slots) should where
  leads := by
    intro env slot reason h
    unfold should at h
    split at h
    · cases h
    rename_i hquiet
    obtain ⟨hpowered, -⟩ := not_or.mp hquiet
    obtain ⟨conn, hconn, hdrop⟩ := Option.bind_eq_some_iff.mp h
    refine ⟨?_, (), ?_, ?_⟩
    · simp [handler, hpowered]
    · simp [handler, hconn]
    · simpa [handler, hconn] using hdrop
  enters := by
    intro env ks gone env' hc hks
    cases hc with
    | connected | changed | released => rfl
    | usbConnStateChanged powered => cases hks () (List.mem_singleton.mpr rfl)
  keeps := by
    intro env ks gone env' slot reason hc hks h
    cases hc with
    | connected slot' conn hfree =>
      by_cases he : slot = slot'
      · -- It is late, or the cable is out.
        subst he
        cases hpowered : env.powered <;>
          simp [should, UsbQuietEnv.link, UsbQuietEnv.put, hpowered] at h
      · have hsame : should (env.link slot' conn) slot = should env slot := by
          simp [should, UsbQuietEnv.link, UsbQuietEnv.put, he]
        refine ⟨hsame ▸ h, decide_eq_false he, fun _ hact => ?_⟩
        simpa [handler, UsbQuietEnv.link, UsbQuietEnv.put, he] using hact
    | changed slot' conn conn' hconn hinfo hrole =>
      have hdrop : dropHostConn conn' = dropHostConn conn := by
        simp [dropHostConn, hinfo, hrole]
      obtain ⟨hbefore, hbind⟩ := keeps_put hconn hdrop h
      exact ⟨hbefore, rfl, fun _ hact => hbind.trans hact⟩
    | released slot' =>
      by_cases he : slot = slot'
      · subst he
        simp [should, UsbQuietEnv.put] at h
      · have hsame : should (env.put slot' .none) slot = should env slot := by
          simp [should, UsbQuietEnv.put, he]
        refine ⟨hsame ▸ h, decide_eq_false he, fun _ hact => ?_⟩
        simpa [handler, UsbQuietEnv.put, he] using hact
    | usbConnStateChanged powered => cases hks () (List.mem_singleton.mpr rfl)

/-- The module, and what it reads. -/
abbrev State (slots : Nat) :=
  Deferred.State (UsbQuietEnv slots) Unit (Fin slots) Bool Unit UInt8

abbrev Obs (slots : Nat) := Deferred.Obs (UsbQuietEnv slots) Unit (Fin slots) Bool UInt8

/-- `usb_host_quiet_init` -/
def boot₀ (slots : Nat) (powered : Bool) (now : Int) : State slots :=
  Deferred.boot₀ ⟨fun _ => .none, powered, fun _ => false⟩ (Work.idle.schedule now 400) now

abbrev Step (slots : Nat) := Deferred.Step (handler slots) (environment slots)

/-- The records, newest first. -/
def records (h : List (Obs slots)) : List RecordArgs := (Deferred.finishes h).map advRecord

theorem timely_boot₀ (now : Int) : (Work.idle.schedule now 400).Timely now :=
  Work.Timely.idle.schedule (by decide)

end UsbQuiet

/-- **With the cable in, computers are asked to leave and the split stays.** In
any run of the stack, of USB and of the module: once no USB event is owed and
the handler is at rest, the last `ADV` record says what the cable says, and with
the cable in every computer whose link is no newer than the last USB event has
been asked to leave since. No link but a computer's is ever asked, and none
unless the handler began with the cable in. It ran no more than there were
events, and once. -/
theorem usb_quiet_settles (slots : Nat) (powered : Bool) (t₀ : Int)
    {h : List (UsbQuiet.Obs slots)} {s : UsbQuiet.State slots}
    (hr : Run (UsbQuiet.Step slots) (UsbQuiet.boot₀ slots powered t₀) h s) :
    (AtRest (UsbQuiet.environment slots) s →
      (UsbQuiet.records h).head? = .some (UsbQuiet.advRecord s.env.powered) ∧
      (s.env.powered = true → ∀ slot conn, s.env.conns slot = .some conn → conn.infoErr = 0 →
        conn.role = .peripheral → s.env.late slot = false →
          s.last slot = .some btHciErrRemoteUserTermConn)) ∧
    (∀ later earlier env slot reason, h = later ++ .requested env slot reason :: earlier →
      (∃ conn, env.conns slot = .some conn ∧ conn.role = .peripheral) ∧
        reason = btHciErrRemoteUserTermConn ∧ (Deferred.reads earlier).head? = .some true) ∧
    Deferred.starts h ≤ Deferred.calls (fun _ => true) h + 1 := by
  have hidle : (Work.idle.schedule t₀ 400).armed = true := Work.armed_schedule rfl
  refine ⟨?_, ?_, Nat.le_of_add_right_le (Deferred.starts_le hr)⟩
  · intro hrest
    obtain ⟨hasked, hlatest⟩ := Deferred.settled (UsbQuiet.sound slots) rfl
      (UsbQuiet.timely_boot₀ t₀) (.inl hidle) hr hrest
    refine ⟨?_, ?_⟩
    · -- It has run, since it was scheduled at first and is at rest now.
      have hstarted := Deferred.armed_or_started rfl (UsbQuiet.timely_boot₀ t₀) hidle hr
      have hstarts := Deferred.starts_eq hr
      rw [hrest.armed] at hstarted
      rw [hrest.phase] at hstarts
      unfold UsbQuiet.records
      cases hfinishes : Deferred.finishes h with
      | nil =>
        rw [hfinishes] at hstarts
        exact absurd (hstarted.resolve_left nofun) (by simp [hstarts, Deferred.Phase.runs])
      | cons a finishes =>
        rw [hfinishes] at hlatest
        rw [List.map_cons, List.head?_cons, hlatest a rfl]
        rfl
    · intro hpowered slot conn hconn hinfo hrole hlate
      refine hasked slot _ ?_
      simp [UsbQuiet.should, hpowered, hlate, hconn, UsbQuiet.dropHostConn, hinfo, hrole]
  · intro later earlier env slot reason he
    obtain ⟨⟨powered', hread, hmem⟩, _, hact⟩ := Deferred.requested hr he
    obtain ⟨conn, hconn, hdrop⟩ := Option.bind_eq_some_iff.mp hact
    obtain ⟨-, hrole, hreason⟩ := UsbQuiet.dropHostConn_eq_some hdrop
    refine ⟨⟨conn, hconn, hrole⟩, hreason, hread.trans ?_⟩
    cases powered' with
    | true => rfl
    | false => simp [UsbQuiet.handler] at hmem

/-- A computer linked over Bluetooth. -/
def linkedHost : HostConn := ⟨0, .peripheral, true, 0, 2, 0⟩

theorem usb_quiet_settles_plugged :
    ∃ (h : List (UsbQuiet.Obs 1)) (s : UsbQuiet.State 1),
      Run (UsbQuiet.Step 1) (UsbQuiet.boot₀ 1 false 0) h s ∧
        (UsbQuiet.records h).head? = .some (UsbQuiet.advRecord true) ∧
        s.last 0 = .some btHciErrRemoteUserTermConn := by
  have hlinked : Run (UsbQuiet.Step 1) (UsbQuiet.boot₀ 1 false 0) _ _ :=
    Run.refl.quiet (.change _ _ _ (.connected 0 linkedHost rfl))
  have hplugged := (hlinked.quiet (.change _ _ _ (.usbConnStateChanged true))).shows (.next rfl)
  have hqueued := hplugged.quiet (.tick 50 (by decide))
  have hwalking := (hqueued.shows (.start rfl rfl)).quiet (.look rfl rfl)
  have hfinished := (hwalking.shows (.request rfl rfl)).shows (.finish rfl)
  have hsettled := (usb_quiet_settles 1 false 0 hfinished).1 ⟨nofun, rfl, rfl⟩
  exact ⟨_, _, hfinished, hsettled.1, hsettled.2 rfl 0 linkedHost rfl rfl rfl rfl⟩

end TotemZmk
