/-
The never-drop law, of both modules that disconnect hosts: over any order of
their handlers, whatever the stack answers each of them.

* `hosts_never_dropped`: a host is only disconnected when it is a background
  host of a selected computer that has a bond, with HID off USB and the cable
  out.
* `dropIfNonActiveHost_lawful`, `dropNonActiveHosts_lawful`: the two places
  that decide, one with its guards at each connection, one with them at the
  start of its handler.
-/
import TotemZmk.Host.Exclusive
import TotemZmk.Host.Watch
import TotemZmk.Lib.Run

namespace TotemZmk

open Trace (Run)

/-- A disconnect the law allows. -/
structure MayDrop (env : HostEnv) (conn : HostConn) : Prop where
  peripheral : conn.role = .peripheral
  resolved : 0 ≤ conn.profileIndex
  background : conn.profileIndex ≠ env.activeProfileIndex
  hid : env.transport ≠ .usb
  cable : env.zmkUsbIsPowered ≠ .some true
  bonded : env.activeProfileIsOpen = false

/-- All of a handler's disconnects. -/
def Lawful (env : HostEnv) (acts : List HostAct) : Prop := ∀ conn ∈ disconnects acts, MayDrop env conn

variable {env : HostEnv} {acts acts' : List HostAct}

theorem Lawful.of_nil (h : disconnects acts = []) : Lawful env acts := by
  intro conn hmem
  rw [h] at hmem
  cases hmem

theorem Lawful.append (h : Lawful env acts) (h' : Lawful env acts') : Lawful env (acts ++ acts') := by
  intro conn hmem
  rw [disconnects_append] at hmem
  rcases List.mem_append.mp hmem with hmem | hmem
  · exact h conn hmem
  · exact h' conn hmem

theorem transport_ne_usb (h : totemHidIsUsb env = false) : env.transport ≠ .usb := by
  simpa [totemHidIsUsb] using h

theorem zmkUsbIsPowered_ne (h : totemUsbCableUp env = false) : env.zmkUsbIsPowered ≠ .some true := by
  intro hup
  rw [totemUsbCableUp, hup] at h
  cases h

/-! ## Exclusive host -/

namespace ExclusiveHost

variable {profiles : Nat} {cfg : ExclusiveConfig}

theorem disconnects_thrashNote (env : HostEnv) (now : Int) (s : ExclusiveHost profiles) :
    disconnects (s.thrashNoteBgEvict cfg env now).2 = [] := by
  unfold thrashNoteBgEvict
  split <;> rfl

theorem disconnects_dropNote (env : HostEnv) (now : Int) (idx : Int) (active : Nat)
    (s : ExclusiveHost profiles) : disconnects (s.dropNote cfg env now idx active).2 = [] := by
  unfold dropNote
  rw [disconnects_append, disconnects_thrashNote]
  rfl

theorem disconnects_classA (env : HostEnv) (now : Int) (isFail : Bool) (s : ExclusiveHost profiles) :
    disconnects (s.classANoteAuthEvent cfg env now isFail).2 = [] :=
  (classANoteAuthEvent_cases cfg env now isFail s).2

theorem dropIfNonActiveHost_lawful (hc : cfg.evictRequiresBondedActive = true) (env : HostEnv)
    (now : Int) (force : Bool) (conn : HostConn) (s : ExclusiveHost profiles) :
    Lawful env (s.dropIfNonActiveHost cfg env now force conn).2 := by
  unfold dropIfNonActiveHost
  rcases dropCheck_cases cfg env now force conn s with ⟨hd, he⟩ | ⟨s', acts, -, -, hacts, he⟩
  · have hdrop : Lawful env [.disconnect conn cfg.evictDisconnectReason] := by
      intro conn' hmem
      cases List.mem_singleton.mp hmem
      exact ⟨hd.peripheral, hd.mapped, hd.background, transport_ne_usb hd.hid,
        zmkUsbIsPowered_ne hd.cable, (hd.protects hc).1⟩
    rw [he]
    dsimp only
    rw [if_pos rfl, List.nil_append]
    split
    · exact hdrop
    · exact hdrop.append (.of_nil (disconnects_dropNote env now _ _ s))
  · rw [he]
    exact .of_nil hacts

theorem evictEach_lawful (hc : cfg.evictRequiresBondedActive = true) (env : HostEnv) (now : Int)
    (force : Bool) (conns : List HostConn) (s : ExclusiveHost profiles) :
    Lawful env (evictEach cfg env now force conns s).2 := by
  induction conns generalizing s with
  | nil => exact .of_nil rfl
  | cons conn conns ih => exact (dropIfNonActiveHost_lawful hc env now force conn s).append (ih _)

theorem handle_lawful (hc : cfg.evictRequiresBondedActive = true) (env : HostEnv) (now : Int)
    (s : ExclusiveHost profiles) (cause : Cause) : Lawful env (s.handle cfg env now cause).2 := by
  cases cause with
  | connected idx err =>
    show Lawful env (s.connected cfg env now idx err).2
    unfold ExclusiveHost.connected
    dsimp only
    split <;> exact .of_nil rfl
  | securityChanged idx level err =>
    refine .of_nil ?_
    show disconnects (s.securityChanged cfg env now idx level err).2 = []
    unfold ExclusiveHost.securityChanged
    dsimp only [disconnects]
    split
    · split
      · exact disconnects_classA env now true s
      · split
        · exact disconnects_classA env now false s
        · rfl
    · rfl
  | disconnected conn reason =>
    refine .of_nil ?_
    show disconnects (s.disconnected cfg env now conn reason).2 = []
    unfold ExclusiveHost.disconnected
    dsimp only [disconnects]
    split
    · exact disconnects_classA env now true s
    · rfl
  | identityResolved idx => exact .of_nil rfl
  | profileChanged =>
    refine .of_nil ?_
    show disconnects (s.profileChanged cfg env now).2 = []
    unfold ExclusiveHost.profileChanged
    dsimp only
    rw [disconnects_append]
    split
    · rw [disconnects_classA]
      rfl
    · rfl
  | evictWork => exact evictEach_lawful hc env now false env.conns _
  | retryWork => exact evictEach_lawful hc env now false env.conns _
  | fallbackWork => exact evictEach_lawful hc env now false env.conns _

end ExclusiveHost

/-! ## Reconnect watch -/

namespace ReconnectWatch

theorem dropNonActiveHosts_lawful (hr : Recovering env) (conn : HostConn) :
    Lawful env (dropNonActiveHosts env conn) := by
  unfold dropNonActiveHosts
  split
  · exact .of_nil rfl
  rename_i hinfo
  split
  · exact .of_nil rfl
  rename_i hidx
  split
  · exact .of_nil rfl
  obtain ⟨-, hrole⟩ := not_or.mp hinfo
  obtain ⟨hmapped, hbackground⟩ := not_or.mp hidx
  intro conn' hmem
  cases List.mem_singleton.mp hmem
  exact ⟨not_not.mp hrole, Int.not_lt.mp hmapped, hbackground, transport_ne_usb hr.hid,
    zmkUsbIsPowered_ne hr.cable, hr.isOpen⟩

theorem walk_lawful (hr : Recovering env) (conns : List HostConn) :
    Lawful env (conns.flatMap (dropNonActiveHosts env)) := by
  induction conns with
  | nil => exact .of_nil rfl
  | cons conn conns ih =>
    rw [List.flatMap_cons]
    exact (dropNonActiveHosts_lawful hr conn).append ih

theorem handle_lawful (cfg : WatchConfig) (env : HostEnv) (now : Int) (w : ReconnectWatch)
    (cause : Cause) : Lawful env (w.handle cfg env now cause).2 := by
  cases cause with
  | profileChanged =>
    show Lawful env (w.profileChanged cfg env now).2
    rcases profileChanged_cases cfg env now w with ⟨-, he⟩ | ⟨-, he | ⟨-, he⟩⟩ <;> rw [he] <;>
      exact .of_nil rfl
  | connected err => exact .of_nil rfl
  | disconnected idx => exact .of_nil rfl
  | securityChanged level => exact .of_nil rfl
  | activeDownArmWork =>
    unfold ReconnectWatch.handle
    rcases activeDownArmWorkHandler_cases cfg env now
      { w with activeDownArmWork := w.activeDownArmWork.start } with he | he | ⟨-, -, he⟩ <;>
      rw [he] <;> exact .of_nil rfl
  | reconnectWatchWork =>
    show Lawful env (w.startWatch.workHandler cfg env now).2
    rcases workHandler_cases cfg env now w.startWatch with
      he | ⟨hr, ⟨-, he⟩ | ⟨-, he⟩ | ⟨-, he⟩⟩
    · rw [he]
      exact .of_nil rfl
    · rw [he]
      refine .of_nil ?_
      split <;> rfl
    · rw [he]
      exact walk_lawful hr env.conns
    · rw [he]
      exact .of_nil rfl

end ReconnectWatch

/-! ## Runs -/

/-- Both modules, and the uptime. -/
structure HostModules (profiles : Nat) where
  exclusive : ExclusiveHost profiles
  watch : ReconnectWatch
  now : Int

namespace HostModules

/-- What the stack answered a handler, and its calls. -/
structure Obs where
  env : HostEnv
  acts : List HostAct

/-- At power-up. -/
def boot₀ (profiles profile : Nat) (now : Int) : HostModules profiles :=
  ⟨.boot₀ profiles, .init profile, now⟩

/-- Time passes, or a handler of either module runs. -/
inductive Step {profiles : Nat} (cfg : ExclusiveConfig) (wcfg : WatchConfig) :
    HostModules profiles → Option Obs → HostModules profiles → Prop where
  | tick {s} (t : Int) (h : s.now ≤ t) :
    Step cfg wcfg s .none ⟨s.exclusive.expire t, s.watch.expire t, t⟩
  | settingsCommit {s} (env : HostEnv) :
    Step cfg wcfg s .none { s with watch := s.watch.settingsCommit env }
  | exclusive {s} (cause : ExclusiveHost.Cause) (env : HostEnv) (he : s.exclusive.Enabled cause) :
    Step cfg wcfg s (.some ⟨env, (s.exclusive.handle cfg env s.now cause).2⟩)
      { s with exclusive := (s.exclusive.handle cfg env s.now cause).1 }
  | watch {s} (cause : ReconnectWatch.Cause) (env : HostEnv) (he : s.watch.Enabled cause) :
    Step cfg wcfg s (.some ⟨env, (s.watch.handle wcfg env s.now cause).2⟩)
      { s with watch := (s.watch.handle wcfg env s.now cause).1 }

theorem Step.lawful {profiles : Nat} {cfg : ExclusiveConfig} {wcfg : WatchConfig}
    (hc : cfg.evictRequiresBondedActive = true) {s s' : HostModules profiles} {o : Obs}
    (hs : Step cfg wcfg s (.some o) s') : Lawful o.env o.acts := by
  cases hs with
  | exclusive cause env he => exact ExclusiveHost.handle_lawful hc env s.now s.exclusive cause
  | watch cause env he => exact ReconnectWatch.handle_lawful wcfg env s.now s.watch cause

end HostModules

/-- **The never-drop law.** With `CONFIG_TOTEM_EVICT_REQUIRES_BONDED_ACTIVE`,
every host that `exclusive_host` or the reconnect ladder disconnects, in any run
of their handlers, is a peripheral connection of a profile other than the active
one, at a moment when HID is off USB, the cable out, and the active profile has
a bond. -/
theorem hosts_never_dropped {profiles : Nat} (cfg : ExclusiveConfig) (wcfg : WatchConfig)
    (hc : cfg.evictRequiresBondedActive = true) (profile : Nat) (t₀ : Int)
    {h : List HostModules.Obs} {s : HostModules profiles}
    (hr : Run (HostModules.Step cfg wcfg) (.boot₀ profiles profile t₀) h s) :
    ∀ o ∈ h, ∀ conn ∈ disconnects o.acts, MayDrop o.env conn := by
  intro o hmem
  obtain ⟨later, earlier, he⟩ := List.append_of_mem hmem
  obtain ⟨s₁, s₂, -, hs, -⟩ := hr.split he
  exact hs.lawful hc

/-- A background host connects, and the work it asks for disconnects it. -/
theorem hosts_never_dropped_beside :
    ∃ (h : List HostModules.Obs) (s : HostModules 5),
      Run (HostModules.Step totemConfig ⟨8, .none, true, by decide, by decide⟩) (.boot₀ 5 0 1) h s ∧
      ∃ o ∈ h, disconnects o.acts = [backgroundHost] ∧ MayDrop o.env backgroundHost := by
  have hconnected : Run (HostModules.Step totemConfig ⟨8, .none, true, by decide, by decide⟩)
      (.boot₀ 5 0 1) _ _ := Run.refl.shows (.exclusive (.connected 1 0) besideActive trivial)
  have hdropped := hconnected.shows (.exclusive .evictWork besideActive rfl)
  have hmay := hosts_never_dropped totemConfig _ rfl 0 1 hdropped _ (List.mem_cons_self ..)
    backgroundHost (List.mem_singleton.mpr rfl)
  exact ⟨_, _, hdropped, _, List.mem_cons_self .., rfl, hmay⟩

end TotemZmk
