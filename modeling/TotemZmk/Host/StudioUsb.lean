/-
`totem_studio_usb.c`: with the cable in, USB is asked for until it is selected,
twenty times at most; with the cable out, advertising is woken.

* `studio_usb_settles`: where the handler comes to rest, and how often it runs.
* `Step.inv`: what each step keeps: a run is coming, or the last one did what the
  cable asks for.
-/
import TotemZmk.Lib.Run
import TotemZmk.Lib.Work
import TotemZmk.Host.Env

namespace TotemZmk

open Trace (Run)
open Zephyr (Work)

/-- The number of a transport. -/
def ZmkTransport.number (t : ZmkTransport) : UInt8 := UInt8.ofNat t.ctorIdx

namespace StudioUsb

/-- The events the module listens to. -/
inductive Event where
  /-- `zmk_usb_conn_state_changed` -/
  | usb (connState : UInt8)
  /-- `zmk_endpoint_changed` -/
  | endpoint (transport : ZmkTransport)
deriving DecidableEq, Repr

/-- Where the handler is. -/
inductive Phase where
  | outside
  | begun
  /-- `zmk_usb_is_powered` answered. -/
  | powered
  /-- `zmk_endpoint_set_preferred_transport` has returned. -/
  | preferred
deriving DecidableEq, Repr

/-- What can be observed. -/
inductive Obs where
  /-- `zmk_usb_is_powered` changed. -/
  | cable (powered : Bool)
  /-- The listener ran, and recorded this. -/
  | kicked (r : RecordArgs)
  | started
  /-- `zmk_ble_adv_wake` -/
  | woke
  /-- `zmk_studio_uart_rearm`, and USB asked for. -/
  | asked
  | selectedUsb
  | retried
  | gaveUp
deriving DecidableEq, Repr

/-- How often `tries` may be counted up. -/
def maxTries : Nat := 20

end StudioUsb

/-- The statics of the module, what it reads, and the events raised and not
delivered yet. -/
structure StudioUsb where
  cable : Bool
  selected : ZmkTransport
  owed : List StudioUsb.Event
  work : Work
  tries : Nat
  phase : StudioUsb.Phase
  now : Int

namespace StudioUsb

/-- `totem_studio_usb_init` -/
def boot₀ (cable : Bool) (selected : ZmkTransport) (now : Int) : StudioUsb :=
  ⟨cable, selected, [], Work.idle.schedule now 1500, 0, .outside, now⟩

/-- What the listener records. -/
def Event.record (selected : ZmkTransport) : Event → RecordArgs
  | .usb connState => ⟨totemHevtUsb, -1, -1, connState, 0, selected.number⟩
  | .endpoint transport => ⟨totemHevtUsb, -1, -1, 0xFF, 0, transport.number⟩

/-- `totem_studio_usb_kick` -/
def kick (s : StudioUsb) : StudioUsb := { s with work := s.work.reschedule s.now 200 }

/-- A selection, with the event that follows one that is another. -/
def select (s : StudioUsb) (transport : ZmkTransport) : StudioUsb :=
  { s with
    selected := transport
    owed := if transport = s.selected then s.owed else s.owed ++ [.endpoint transport] }

/-- The handler returns. -/
def finish (s : StudioUsb) (tries : Nat) : StudioUsb :=
  { s with work := s.work.finish, tries := tries, phase := .outside }

@[simp] theorem select_work (s : StudioUsb) (transport : ZmkTransport) :
    (s.select transport).work = s.work := rfl

@[simp] theorem select_tries (s : StudioUsb) (transport : ZmkTransport) :
    (s.select transport).tries = s.tries := rfl

@[simp] theorem finish_runs (s : StudioUsb) (tries : Nat) :
    (s.finish tries).work.runs = s.work.runs := rfl

/-- One step of USB, of ZMK, or of the module. -/
inductive Step : StudioUsb → Option Obs → StudioUsb → Prop where
  | tick {s} (t : Int) (h : s.now ≤ t) : Step s .none { s with work := s.work.expire t, now := t }
  | cable {s} (powered : Bool) (connState : UInt8) :
    Step s (.some (.cable powered)) { s with cable := powered, owed := s.owed ++ [.usb connState] }
  | select {s} (transport : ZmkTransport) : Step s .none (s.select transport)
  | deliver {s before e after} (h : s.owed = before ++ e :: after) :
    Step s (.some (.kicked (e.record s.selected))) { s.kick with owed := before ++ after }
  | start {s} (hq : s.work.queued.isSome) (hp : s.phase = .outside) :
    Step s (.some .started) { s with work := s.work.start, phase := .begun }
  /-- The cable is out. -/
  | wake {s} (hp : s.phase = .begun) (h : s.cable = false) : Step s (.some .woke) (s.finish 0)
  | powered {s} (hp : s.phase = .begun) (h : s.cable = true) :
    Step s .none { s with phase := .powered }
  /-- ZMK may select what it was asked for. -/
  | ask {s} (hp : s.phase = .powered) (transport : ZmkTransport) :
    Step s (.some .asked) { s.select transport with phase := .preferred }
  | success {s} (hp : s.phase = .preferred) (h : s.selected = .usb) :
    Step s (.some .selectedUsb) (s.finish 0)
  | retry {s} (hp : s.phase = .preferred) (h : s.selected ≠ .usb) (ht : s.tries < maxTries) :
    Step s (.some .retried)
      (({ s with work := s.work.reschedule s.now 250 } : StudioUsb).finish (s.tries + 1))
  | giveUp {s} (hp : s.phase = .preferred) (h : s.selected ≠ .usb) (ht : ¬s.tries < maxTries) :
    Step s (.some .gaveUp) (s.finish s.tries)

theorem Step.next {s : StudioUsb} {e : Event} {after : List Event} (h : s.owed = e :: after) :
    Step s (.some (.kicked (e.record s.selected))) { s.kick with owed := after } := by
  have howed : s.owed = [] ++ e :: after := h
  exact .deliver howed

/-! ## What a history says -/

/-- Advertising was woken since the cable last changed. -/
def Woken : List Obs → Prop
  | [] => False
  | .woke :: _ => True
  | .cable _ :: _ => False
  | _ :: h => Woken h

/-- How often the handler asked again since it last had what it asks for. -/
def triesIn : List Obs → Nat
  | [] => 0
  | .woke :: _ | .selectedUsb :: _ => 0
  | .retried :: h => triesIn h + 1
  | _ :: h => triesIn h

def starts (h : List Obs) : Nat := h.count .started

def retries (h : List Obs) : Nat := h.count .retried

/-- How often the handler had what it asks for. -/
def resets (h : List Obs) : Nat := h.count .woke + h.count .selectedUsb

def Obs.isKick : Obs → Bool
  | .kicked _ => true
  | _ => false

def kicks (h : List Obs) : Nat := h.countP Obs.isKick

variable {h : List Obs} {s s' : StudioUsb} {o : Option Obs}

/-- A run of the handler is coming. -/
def Coming (s : StudioUsb) : Prop := s.owed ≠ [] ∨ s.work.armed = true

/-- The handler did what the cable asks for, or is about to. -/
def UpToDate (h : List Obs) (s : StudioUsb) : Prop :=
  match s.phase with
  | .outside => if s.cable then s.selected = .usb ∨ s.tries = maxTries else Woken h
  | .begun => True
  | .powered | .preferred => s.cable = true

/-- A selection that is the same changes nothing, and another is an event. -/
theorem select_cases (s : StudioUsb) (transport : ZmkTransport) :
    s.select transport = s ∨ (s.select transport).owed ≠ [] := by
  unfold select
  by_cases he : transport = s.selected
  · subst he
    exact .inl (by simp)
  · exact .inr (by simp [he])

/-! ## What a step counts -/

/-- A start uses a run up, and a kick or a retry brings one. -/
theorem Step.runs (hs : Step s o s') :
    starts o.toList + s'.work.runs ≤ kicks o.toList + retries o.toList + s.work.runs := by
  have hreschedule (delay : Int) : (s.work.reschedule s.now delay).runs ≤ s.work.runs + 1 :=
    Work.runs_reschedule_le
  cases hs with
  | tick t ht => simpa [starts, kicks, retries] using Work.runs_expire_le
  | deliver howed =>
    have hkick := hreschedule 200
    simp [starts, kicks, retries, Obs.isKick, kick]
    omega
  | start hq hp =>
    have hstart := Work.runs_start hq
    simp [starts, kicks, retries, Obs.isKick]
    omega
  | retry hp husb ht =>
    have hretry := hreschedule 250
    simp [starts, kicks, retries, Obs.isKick]
    omega
  | cable | select | wake | powered | ask | success | giveUp =>
    simp [starts, kicks, retries, Obs.isKick]

/-- A retry counts `tries` up, and only a reset takes it back. -/
theorem Step.retries (hs : Step s o s') (hle : s.tries ≤ maxTries) :
    retries o.toList + s.tries ≤ maxTries * resets o.toList + s'.tries := by
  cases hs with
  | wake | success => simpa [StudioUsb.retries, resets, finish] using hle
  | retry => simp [StudioUsb.retries, resets, finish, Nat.add_comm]
  | tick | cable | select | deliver | start | powered | ask | giveUp =>
    simp [StudioUsb.retries, resets, finish, kick]

theorem Step.tries (hs : Step s o s') (h : List Obs) (ht : s.tries = triesIn h) :
    s'.tries = triesIn (o.toList ++ h) := by
  cases hs with
  | wake | success => rfl
  | retry => exact congrArg (· + 1) ht
  | tick | cable | select | deliver | start | powered | ask | giveUp => exact ht

theorem Step.tries_le (hs : Step s o s') (hle : s.tries ≤ maxTries) : s'.tries ≤ maxTries := by
  cases hs with
  | wake | success => exact Nat.zero_le _
  | retry hp husb ht => exact ht
  | tick | cable | select | deliver | start | powered | ask | giveUp => exact hle

/-- No step cancels the work, and none leaves it overdue. -/
theorem Step.timely (hs : Step s o s') (hc : s.work.cancelling = false)
    (ht : s.work.Timely s.now) : s'.work.cancelling = false ∧ s'.work.Timely s'.now := by
  have hkick : (s.work.reschedule s.now 200).Timely s.now := ht.reschedule (by decide)
  have hretry : (s.work.reschedule s.now 250).Timely s.now := ht.reschedule (by decide)
  cases hs with
  | tick t hle => exact ⟨by simpa using hc, ht.expire hle⟩
  | deliver => exact ⟨Work.cancelling_reschedule.trans hc, hkick⟩
  | start => exact ⟨hc, ht.start⟩
  | retry => exact ⟨rfl, hretry.finish⟩
  | wake | success | giveUp => exact ⟨rfl, ht.finish⟩
  | cable | select | powered | ask => exact ⟨hc, ht⟩

/-! ## What a run keeps -/

/-- What holds of a history and the state it leads to. -/
structure Inv (h : List Obs) (s : StudioUsb) : Prop where
  cancelling : s.work.cancelling = false
  timely : s.work.Timely s.now
  tries : s.tries = triesIn h
  le : s.tries ≤ maxTries
  upToDate : s.Coming ∨ s.UpToDate h

theorem inv_boot₀ (cable : Bool) (selected : ZmkTransport) (now : Int) :
    Inv [] (boot₀ cable selected now) where
  cancelling := rfl
  timely := by
    have hdelay : (0 : Int) ≤ 1500 := by decide
    exact Work.Timely.idle.schedule hdelay
  tries := rfl
  le := Nat.zero_le _
  upToDate := .inl (.inr (Work.armed_schedule rfl))

/-- A run of the handler is coming, or the one going on does what the cable
asks for. -/
theorem Inv.upToDate_step (hi : Inv h s) (hs : Step s o s') :
    s'.Coming ∨ s'.UpToDate (o.toList ++ h) := by
  cases hs with
  | tick t ht =>
    obtain (howed | harmed) | hu := hi.upToDate
    · exact .inl (.inl howed)
    · exact .inl (.inr ((Work.armed_expire hi.cancelling t).trans harmed))
    · exact .inr hu
  | cable powered connState => exact .inl (.inl (by simp))
  | select transport =>
    obtain he | howed := select_cases s transport
    · rw [he]
      exact hi.upToDate
    · exact .inl (.inl howed)
  | deliver howed =>
    have hdelay : (0 : Int) ≤ 200 := by decide
    exact .inl (.inr (Work.armed_reschedule hi.cancelling hi.timely hdelay))
  | start hq hp => exact .inr trivial
  | wake hp hcable =>
    refine .inr ?_
    show if s.cable then _ else _
    rw [hcable]
    exact trivial
  | powered hp hcable => exact .inr hcable
  | ask hp transport =>
    obtain he | howed := select_cases s transport
    · rw [he]
      refine hi.upToDate.imp id fun hu => ?_
      unfold UpToDate at hu
      rw [hp] at hu
      exact hu
    · exact .inl (.inl howed)
  | success hp husb =>
    refine hi.upToDate.imp id fun hu => ?_
    unfold UpToDate at hu
    rw [hp] at hu
    show if s.cable then _ else _
    rw [if_pos hu]
    exact .inl husb
  | retry hp husb ht =>
    have hdelay : (0 : Int) ≤ 250 := by decide
    exact .inl (.inr (Work.armed_reschedule hi.cancelling hi.timely hdelay))
  | giveUp hp husb ht =>
    refine hi.upToDate.imp id fun hu => ?_
    unfold UpToDate at hu
    rw [hp] at hu
    show if s.cable then _ else _
    rw [if_pos hu]
    exact .inr (Nat.le_antisymm hi.le (Nat.le_of_not_lt ht))

theorem Inv.step (hi : Inv h s) (hs : Step s o s') : Inv (o.toList ++ h) s' where
  cancelling := (hs.timely hi.cancelling hi.timely).1
  timely := (hs.timely hi.cancelling hi.timely).2
  tries := hs.tries h hi.tries
  le := hs.tries_le hi.le
  upToDate := hi.upToDate_step hs

theorem inv_run {cable : Bool} {selected : ZmkTransport} {now : Int}
    (hr : Run Step (boot₀ cable selected now) h s) : Inv h s :=
  hr.invariant (inv_boot₀ cable selected now) Inv.step

/-- The handler runs once, for each kick, and for each retry. -/
theorem starts_le {cable : Bool} {selected : ZmkTransport} {now : Int}
    (hr : Run Step (boot₀ cable selected now) h s) :
    starts h + s.work.runs ≤ 1 + kicks h + retries h := by
  refine hr.invariant (P := fun h s => starts h + s.work.runs ≤ 1 + kicks h + retries h)
    (Nat.le_refl _) fun {h s o s'} hle hs => ?_
  have hstep := hs.runs
  rw [starts, kicks, retries, List.count_append, List.countP_append, List.count_append]
  rw [starts, kicks, retries] at hle hstep
  omega

theorem retries_le {cable : Bool} {selected : ZmkTransport} {now : Int}
    (hr : Run Step (boot₀ cable selected now) h s) : retries h ≤ maxTries * resets h + s.tries := by
  refine hr.invariant_with (P := Inv) (Q := fun h s => retries h ≤ maxTries * resets h + s.tries)
    inv_run (Nat.zero_le _) fun {h s o s'} hi hle hs => ?_
  have hstep := hs.retries hi.le
  rw [retries, resets, List.count_append, List.count_append, List.count_append]
  rw [retries, resets] at hle hstep
  unfold maxTries at hle hstep ⊢
  omega

end StudioUsb

open StudioUsb in
/-- **USB is asked for until it is selected, and not for ever.** However the
cable, the selection, the listener and the handler interleave: with no event
left to deliver and the handler at rest, a cable that is out has woken the
advertising since it last changed, and with the cable in, USB is selected or was
asked for twenty times since the handler last had what it asks for. The handler
runs once, for each event, and twenty times more for each time it had that. -/
theorem studio_usb_settles (cable : Bool) (selected : ZmkTransport) (t₀ : Int) {h : List StudioUsb.Obs}
    {s : StudioUsb} (hr : Run StudioUsb.Step (StudioUsb.boot₀ cable selected t₀) h s) :
    (s.owed = [] → s.work.armed = false → s.phase = .outside →
      (s.cable = false → Woken h) ∧
      (s.cable = true → s.selected = .usb ∨ triesIn h = maxTries)) ∧
    starts h ≤ 1 + kicks h + maxTries * (resets h + 1) := by
  have hi := inv_run hr
  refine ⟨?_, ?_⟩
  · intro howed harmed hphase
    obtain (hcoming | hcoming) | hu := hi.upToDate
    · exact absurd howed hcoming
    · rw [harmed] at hcoming
      cases hcoming
    · unfold UpToDate at hu
      rw [hphase, hi.tries] at hu
      cases hcable : s.cable with
      | false =>
        rw [hcable] at hu
        exact ⟨fun _ => hu, nofun⟩
      | true =>
        rw [hcable] at hu
        exact ⟨nofun, fun _ => hu⟩
  · have hstarts := StudioUsb.starts_le hr
    have hretries := StudioUsb.retries_le hr
    have hle := hi.le
    unfold maxTries at *
    omega

/-- Plugged in on Bluetooth: USB is selected at the first time of asking, and
the event that follows asks once more. -/
theorem studio_usb_settles_selected : ∃ (h : List StudioUsb.Obs) (s : StudioUsb),
    Run StudioUsb.Step (StudioUsb.boot₀ true .ble 0) h s ∧
      (s.selected = .usb ∨ StudioUsb.triesIn h = StudioUsb.maxTries) ∧ StudioUsb.starts h = 2 := by
  have hqueued : Run StudioUsb.Step (StudioUsb.boot₀ true .ble 0) _ _ :=
    Run.refl.quiet (.tick 1500 (by decide))
  have hpowered := (hqueued.shows (.start rfl rfl)).quiet (.powered rfl rfl)
  have hselected := (hpowered.shows (.ask rfl .usb)).shows (.success rfl rfl)
  have hkicked := (hselected.shows (.next rfl)).quiet (.tick 1700 (by decide))
  have hagain := (hkicked.shows (.start rfl rfl)).quiet (.powered rfl rfl)
  have hdone := (hagain.shows (.ask rfl .usb)).shows (.success rfl rfl)
  exact ⟨_, _, hdone, ((studio_usb_settles true .ble 0 hdone).1 rfl rfl rfl).2 rfl, rfl⟩

end TotemZmk
