/-
The journal at work: the keyboard's RAM and flash, and every step it can take
from one boot to the next.

A call that writes to flash is two steps, so that records, clock ticks and a
reboot may come between them; `zmk_settings_loaded` is one step for its locked
part, one for each boot record and one for its return. Calls of
`totem_host_event_log_persist` exclude one another (`persist_mu`).

* `Step`: one step, with what it lets be observed.
* `Reach`: the states a run from some flash contents reaches, with the run's
  observations, newest first.
* `recorded`, `total`, `written`: what the observations of the current boot
  amount to.
-/
import TotemZmk.Journal.Numbers

namespace TotemZmk

open Zephyr (Work)

/-- The stored bytes of the settings `th/dlog/<slot>`, for a slot of one digit. -/
abbrev Flash := Nat → Option (List UInt8)

/-- The valid block a slot's stored bytes hold. -/
def Flash.block (cfg : Config) (flash : Flash) (slot : Nat) : Option TotemDiagBlock :=
  (flash slot).bind (readBlock cfg slot)

/-- A `zmk_settings_loaded` call after its locked part: the boot records it
has still to make, and `pending`. -/
structure LoadCall where
  records : List RecordArgs
  pending : Bool
deriving DecidableEq, Repr

/-- The keyboard, as far as the journal goes. -/
structure Sys (cfg : Config) where
  /-- `k_uptime_get` -/
  now : Int
  flash : Flash
  j : HostEventLog cfg
  boot : BootDiagnostics
  /-- A `totem_host_event_log_persist` call that writes to flash, and whether
  `persist_work_handler` made it. -/
  inflight : Option (PersistCall × Bool)
  /-- `persist_work_handler` has started and waits for `persist_mu`. -/
  handlerWaiting : Bool
  loadCall : Option LoadCall
  /-- The slots `hevt_settings_set` has been called for. -/
  delivered : List Nat

/-- What a step lets be observed. -/
inductive Obs where
  | boot
  /-- The journal became ready, with this number as the saved tail. -/
  | ready (tail : Nat)
  /-- `zmk_settings_loaded` returned. -/
  | loaded (at_ : Int)
  | recorded (e : TotemHostEvent) (persist : Bool) (at_ : Int)
  /-- A block was formed, and its save began. -/
  | formed (b : TotemDiagBlock) (at_ : Int)
  /-- The save of a block ended. -/
  | saved (b : TotemDiagBlock) (ok : Bool) (at_ : Int)
deriving DecidableEq, Repr

/-- The statics of `boot_diagnostics.c` before the settings are loaded. -/
def BootDiagnostics.AtBoot (bd : BootDiagnostics) : Prop :=
  bd.bootLoaded = false ∧ bd.counterPending = false

/-- The keyboard right after a boot. -/
def Sys.boot₀ (cfg : Config) (flash : Flash) (bd : BootDiagnostics) : Sys cfg where
  now := 0
  flash := flash
  j := .init cfg
  boot := bd
  inflight := .none
  handlerWaiting := false
  loadCall := .none
  delivered := []

/-- The flash a reboot leaves. A save it interrupts leaves its slot with the
old bytes, with the new block, or with none that pass validation. -/
inductive Sys.Left {cfg : Config} (s : Sys cfg) : Flash → Prop where
  | old : Left s s.flash
  | new {call byHandler} (h : s.inflight = .some (call, byHandler)) :
    Left s (Function.update s.flash call.slot (.some call.block.encode))
  | torn {call byHandler} (h : s.inflight = .some (call, byHandler)) (bytes : Option (List UInt8))
    (hbad : bytes.bind (readBlock cfg call.slot) = .none) :
    Left s (Function.update s.flash call.slot bytes)

/-- One step of the keyboard. -/
inductive Step {cfg : Config} (s : Sys cfg) : List Obs → Sys cfg → Prop where
  /-- Time passes, and the timeout of `persist_work` may expire. -/
  | tick (t : Int) (ht : s.now ≤ t) :
    Step s [] { s with now := t, j := { s.j with persistWork := s.j.persistWork.expire t } }
  | record (r : RecordArgs) :
    Step s [.recorded (r.event (kUptimeGet32 s.now)) true s.now]
      { s with j := s.j.totemHostEventLogRecord s.now r }
  | recordTiming (e : TotemHostEvent) :
    Step s [.recorded e false s.now] { s with j := s.j.totemHostEventLogRecordTiming s.now e }
  /-- Before the journal is ready, the settings deliver each stored slot once. -/
  | settingsSet (slot : Nat) (bytes : List UInt8) (hr : s.j.journalReady = false) (hs : slot < 10)
    (hb : s.flash slot = .some bytes) (hd : slot ∉ s.delivered) :
    Step s [] { s with j := s.j.settingsSetStored slot bytes, delivered := slot :: s.delivered }
  /-- `main` calls `zmk_settings_loaded` when every stored slot was delivered. -/
  | load (hr : s.j.journalReady = false)
    (hd : ∀ slot < 10, (s.flash slot).isSome → slot ∈ s.delivered) :
    Step s [.ready s.j.persistedEventSeq.toNat]
      { s with
        j := s.j.zmkSettingsLoaded
        boot := (totemBootDiagnosticsLoaded cfg s.boot s.j.previous.uptime s.j.previous.profile
          s.j.previous.endpoint).1
        loadCall := .some ⟨(totemBootDiagnosticsLoaded cfg s.boot s.j.previous.uptime
          s.j.previous.profile s.j.previous.endpoint).2, s.j.zmkSettingsLoaded.pending⟩ }
  | bootRecord {r rs p} (hl : s.loadCall = .some ⟨r :: rs, p⟩) :
    Step s [.recorded (r.event (kUptimeGet32 s.now)) true s.now]
      { s with j := s.j.totemHostEventLogRecord s.now r, loadCall := .some ⟨rs, p⟩ }
  | loadReturn {p} (hl : s.loadCall = .some ⟨[], p⟩) :
    Step s [.loaded s.now]
      { s with
        j := if p then s.j.schedulePersistCoalesced s.now true else s.j
        loadCall := .none }
  /-- The system work queue takes `persist_work` and enters its handler. -/
  | workRun (hq : s.j.persistWork.queued.isSome) (hr : s.j.persistWork.running = false) :
    Step s []
      { s with
        j := { s.j with persistWork := s.j.persistWork.start }
        handlerWaiting := true }
  /-- A `totem_host_event_log_persist` call, by `persist_work_handler` or
  not, that returns without a write. -/
  | persistSkip (byHandler : Bool) {j'} (hi : s.inflight = .none)
    (hh : byHandler = true → s.handlerWaiting = true) (hf : s.j.persistForm s.now = (j', .none)) :
    Step s []
      { s with
        j := if byHandler then { j' with persistWork := j'.persistWork.finish } else j'
        handlerWaiting := if byHandler then false else s.handlerWaiting }
  /-- One that forms a block. -/
  | persistForm (byHandler : Bool) {j' call} (hi : s.inflight = .none)
    (hh : byHandler = true → s.handlerWaiting = true)
    (hf : s.j.persistForm s.now = (j', .some call)) :
    Step s [.formed call.block s.now]
      { s with
        j := j'
        inflight := .some (call, byHandler)
        handlerWaiting := if byHandler then false else s.handlerWaiting }
  /-- The save of the block, after one of the boot counter, answered `err`. -/
  | persistEnd {call byHandler} (counterErr err : Int) (hi : s.inflight = .some (call, byHandler)) :
    Step s [.saved call.block (decide (err = 0)) s.now]
      { s with
        flash :=
          if err = 0 then Function.update s.flash call.slot (.some call.block.encode) else s.flash
        j :=
          let j := s.j.persistFinish s.now call err
          if byHandler then { j with persistWork := j.persistWork.finish } else j
        boot := totemBootDiagnosticsPersist s.boot counterErr
        inflight := .none }
  | reboot {flash} (bd : BootDiagnostics) (hb : bd.AtBoot) (hf : s.Left flash) :
    Step s [.boot] (.boot₀ cfg flash bd)

/-- The states reached from a boot on some flash contents, with all that was
observed, newest first. -/
inductive Reach (cfg : Config) (flash : Flash) : List Obs → Sys cfg → Prop where
  | boot (bd : BootDiagnostics) (hb : bd.AtBoot) : Reach cfg flash [.boot] (.boot₀ cfg flash bd)
  | step {tr s obs s'} (h : Reach cfg flash tr s) (hs : Step s obs s') :
    Reach cfg flash (obs ++ tr) s'

/-- Several steps. -/
inductive Steps {cfg : Config} : Sys cfg → List Obs → Sys cfg → Prop where
  | refl (s : Sys cfg) : Steps s [] s
  | step {s tr s' obs s''} (h : Steps s tr s') (hs : Step s' obs s'') : Steps s (obs ++ tr) s''

theorem Reach.steps {cfg : Config} {flash : Flash} {tr tr' : List Obs} {s s' : Sys cfg}
    (h : Reach cfg flash tr s) (hs : Steps s tr' s') : Reach cfg flash (tr' ++ tr) s' := by
  induction hs with
  | refl => exact h
  | step _ hs ih => rw [List.append_assoc]; exact ih.step hs

theorem Step.steps {cfg : Config} {s s' : Sys cfg} {obs : List Obs} (h : Step s obs s') :
    Steps s obs s' := by
  have := (Steps.refl s).step h
  rwa [List.append_nil] at this

theorem Steps.trans {cfg : Config} {s s' s'' : Sys cfg} {tr tr' : List Obs}
    (h : Steps s tr s') (h' : Steps s' tr' s'') : Steps s (tr' ++ tr) s'' := by
  induction h' with
  | refl => exact h
  | step _ hs ih => rw [List.append_assoc]; exact ih.step hs

/-! ## The current boot -/

/-- An event recorded, whether its record asked for a save, and when. -/
structure Recorded where
  event : TotemHostEvent
  persist : Bool
  at_ : Int
deriving DecidableEq, Repr

/-- The numbered events of this boot, oldest first. Numbers are given from the
saved tail on when the journal becomes ready; earlier events that the ring
has lost by then get none. -/
def recorded (cfg : Config) : List Obs → List Recorded
  | [] => []
  | .boot :: _ => []
  | .ready _ :: tr => (recorded cfg tr).rtake cfg.ringCap
  | .recorded e p t :: tr => recorded cfg tr ++ [⟨e, p, t⟩]
  | .loaded _ :: tr => recorded cfg tr
  | .formed _ _ :: tr => recorded cfg tr
  | .saved _ _ _ :: tr => recorded cfg tr

/-- The saved tail this boot's numbers follow. -/
def tail : List Obs → Nat
  | [] => 0
  | .boot :: _ => 0
  | .ready n :: _ => n
  | .recorded _ _ _ :: tr => tail tr
  | .loaded _ :: tr => tail tr
  | .formed _ _ :: tr => tail tr
  | .saved _ _ _ :: tr => tail tr

/-- The number of the last event recorded. -/
def total (cfg : Config) (tr : List Obs) : Nat := tail tr + (recorded cfg tr).length

/-- The event with a number. -/
def eventAt (cfg : Config) (tr : List Obs) (n : Nat) : Option TotemHostEvent :=
  if tail tr < n then ((recorded cfg tr)[n - tail tr - 1]?).map (·.event) else .none

/-- The number of the last event there was when the latest block was formed. -/
def formedTotal (cfg : Config) : List Obs → Nat
  | [] => 0
  | .formed _ _ :: tr => total cfg tr
  | .boot :: tr => formedTotal cfg tr
  | .ready _ :: tr => formedTotal cfg tr
  | .recorded _ _ _ :: tr => formedTotal cfg tr
  | .loaded _ :: tr => formedTotal cfg tr
  | .saved _ _ _ :: tr => formedTotal cfg tr

/-- A block saved, and the number of the last event there was when it was
formed. -/
structure Written where
  block : TotemDiagBlock
  formedTotal : Nat
deriving DecidableEq, Repr

/-- The blocks saved in this boot, newest first. -/
def written (cfg : Config) : List Obs → List Written
  | [] => []
  | .boot :: _ => []
  | .saved b true _ :: tr => ⟨b, formedTotal cfg tr⟩ :: written cfg tr
  | .saved _ false _ :: tr => written cfg tr
  | .ready _ :: tr => written cfg tr
  | .recorded _ _ _ :: tr => written cfg tr
  | .loaded _ :: tr => written cfg tr
  | .formed _ _ :: tr => written cfg tr

/-- The number of the last event saved: of the newest block, or the tail. -/
def lastSaved (cfg : Config) (tr : List Obs) : Nat :=
  match written cfg tr with
  | [] => tail tr
  | w :: _ => w.block.last

end TotemZmk
