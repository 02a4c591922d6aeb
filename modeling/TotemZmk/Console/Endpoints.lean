/-
`totem_endpoint_log.c`: which endpoint keystrokes go to, on the console.

The selected endpoint raises an event when it changes and the preferred one does
not, so both are polled once a second, and printed where they are not what was
printed last.

* `print_cases`, `Shown.call`: a call prints where it must, and what was printed last is
  what is.
* `Inv.step`: the poll is a periodic item, the boot report runs once.
* `endpoints_shown`: the console is right, at most a poll late, and quiet.
-/
import TotemZmk.Lib.Periodic

namespace TotemZmk

open Periodic (dueAfter OnTime)
open Trace (Run)
open Zephyr (Work)

/-- `zmk_endpoint_instance_eq`, and `zmk_endpoint_instance_to_str` where it does not
fail. -/
structure EndpointApi (α : Type) where
  eq : α → α → Bool
  toStr : α → Option (List Char)

/-- What ZMK has them be: one compares what the other writes. -/
structure EndpointApi.Lawful {α : Type} (api : EndpointApi α) : Prop where
  equivalence : Equivalence fun e e' => api.eq e e' = true
  toStr_eq : ∀ e e', api.eq e e' = true → api.toStr e = api.toStr e'

/-- `last_selected`, `last_preferred` and `have_last` -/
structure EndpointLog (α : Type) where
  lastSelected : α
  lastPreferred : α
  haveLast : Bool
deriving DecidableEq, Repr

section

variable {α : Type} (api : EndpointApi α)

/-- `sel` and `pref` -/
def EndpointApi.name (endpoint : α) : List Char := (api.toStr endpoint).getD "?".toList

/-- The line. -/
def endpointLine (why : List Char) (selected preferred : α) : List Char :=
  "totem_ep ".toList ++ why ++ " selected=".toList ++ api.name selected ++ " preferred=".toList ++
    api.name preferred ++ (if api.eq selected preferred then [] else "  FALLBACK".toList) ++
    "\n".toList

variable {api} in
theorem EndpointApi.Lawful.endpointLine_eq (hapi : api.Lawful) (why : List Char)
    {selected selected' preferred preferred' : α} (hselected : api.eq selected selected' = true)
    (hpreferred : api.eq preferred preferred' = true) :
    endpointLine api why selected preferred = endpointLine api why selected' preferred' := by
  have hsame : api.eq selected preferred = api.eq selected' preferred' := by
    rw [Bool.eq_iff_iff]
    constructor
    · intro h
      exact hapi.equivalence.trans (hapi.equivalence.symm hselected)
        (hapi.equivalence.trans h hpreferred)
    · intro h
      exact hapi.equivalence.trans hselected
        (hapi.equivalence.trans h (hapi.equivalence.symm hpreferred))
  unfold endpointLine EndpointApi.name
  rw [hapi.toStr_eq _ _ hselected, hapi.toStr_eq _ _ hpreferred, hsame]

/-- `totem_print_endpoints`, with what it prints. -/
def totemPrintEndpoints (why : List Char) (force : Bool) (selected preferred : α)
    (log : EndpointLog α) : EndpointLog α × Option (List Char) :=
  if !force && log.haveLast && api.eq selected log.lastSelected &&
      api.eq preferred log.lastPreferred then (log, .none)
  else (⟨selected, preferred, true⟩, .some (endpointLine api why selected preferred))

end

/-- The endpoints, the log, and its two work items. -/
structure EndpointConsole (α : Type) where
  selected : α
  preferred : α
  log : EndpointLog α
  bootWork : Work
  pollWork : Work
  now : Int

namespace EndpointConsole

variable {α : Type}

/-- Who calls `totem_print_endpoints`. -/
inductive Caller where
  | boot
  | poll
  | listener
deriving DecidableEq, Repr

/-- `why` -/
def Caller.why : Caller → List Char
  | .boot => "boot".toList
  | .poll | .listener => "changed".toList

/-- `force` -/
def Caller.force : Caller → Bool
  | .boot => true
  | .poll | .listener => false

/-- A change of the endpoints, or a call with what it printed. -/
inductive Obs where
  | changed (t : Int)
  | called (caller : Caller) (t : Int) (line : Option (List Char))
deriving DecidableEq, Repr

/-- `totem_endpoint_log_init`, at `t₀`. -/
def boot₀ (selected preferred zero : α) (delay t₀ : Int) : EndpointConsole α :=
  ⟨selected, preferred, ⟨zero, zero, false⟩, Work.idle.schedule t₀ delay,
    Work.idle.schedule t₀ (delay + 1000), t₀⟩

/-- One call. -/
def print (api : EndpointApi α) (caller : Caller) (s : EndpointConsole α) :
    EndpointLog α × Option (List Char) :=
  totemPrintEndpoints api caller.why caller.force s.selected s.preferred s.log

/-- The clock, the endpoints, the event, and the work queue. -/
inductive Step (api : EndpointApi α) :
    EndpointConsole α → Option Obs → EndpointConsole α → Prop where
  | pass {s} (t : Int) (h : s.now ≤ t) :
    Step api s .none
      { s with bootWork := s.bootWork.expire t, pollWork := s.pollWork.expire t, now := t }
  | change {s} (selected preferred : α) :
    Step api s (.some (.changed s.now)) { s with selected, preferred }
  | listener {s} :
    Step api s (.some (.called .listener s.now (s.print api .listener).2))
      { s with log := (s.print api .listener).1 }
  | boot {s} (hq : s.bootWork.queued.isSome) :
    Step api s (.some (.called .boot s.now (s.print api .boot).2))
      { s with log := (s.print api .boot).1, bootWork := s.bootWork.start }
  | poll {s} (hq : s.pollWork.queued.isSome) (hr : s.pollWork.running = false) :
    Step api s (.some (.called .poll s.now (s.print api .poll).2))
      { s with
        log := (s.print api .poll).1
        pollWork := s.pollWork.start.reschedule s.now 1000 }
  | finishBoot {s} : Step api s .none { s with bootWork := s.bootWork.finish }
  | finishPoll {s} (hr : s.pollWork.running = true) :
    Step api s .none { s with pollWork := s.pollWork.finish }

/-! ## What a run showed -/

/-- The lines, newest first. -/
def lines (h : List Obs) : List (List Char) :=
  h.filterMap fun
    | .called _ _ line => line
    | .changed _ => .none

/-- When the endpoints changed. -/
def changes (h : List Obs) : List Int :=
  h.filterMap fun
    | .changed t => .some t
    | .called _ _ _ => .none

/-- When they were polled. -/
def polls (h : List Obs) : List Int :=
  h.filterMap fun
    | .called .poll t _ => .some t
    | .called .boot _ _ | .called .listener _ _ | .changed _ => .none

/-- How often the boot report ran. -/
def boots (h : List Obs) : Nat :=
  h.countP fun
    | .called .boot _ _ => true
    | .called .poll _ _ | .called .listener _ _ | .changed _ => false

/-- The endpoints were asked for since they changed. -/
def Asked : List Obs → Prop
  | [] | .changed _ :: _ => False
  | .called _ _ _ :: _ => True

/-- What was printed last is what is. -/
def isFresh (api : EndpointApi α) (s : EndpointConsole α) : Bool :=
  s.log.haveLast && api.eq s.selected s.log.lastSelected &&
    api.eq s.preferred s.log.lastPreferred

variable {api : EndpointApi α} {s s' : EndpointConsole α} {h : List Obs} {delay t₀ : Int}

@[simp] theorem lines_called (caller : Caller) (t : Int) (line : Option (List Char)) :
    lines (.called caller t line :: h) = line.toList ++ lines h := by cases line <;> rfl

@[simp] theorem lines_changed (t : Int) : lines (.changed t :: h) = lines h := rfl

@[simp] theorem changes_called (caller : Caller) (t : Int) (line : Option (List Char)) :
    changes (.called caller t line :: h) = changes h := rfl

@[simp] theorem changes_changed (t : Int) : changes (.changed t :: h) = t :: changes h := rfl

@[simp] theorem boots_called (caller : Caller) (t : Int) (line : Option (List Char)) :
    boots (.called caller t line :: h) = boots h + caller.force.toNat := by
  cases caller <;> simp [boots, Caller.force]

@[simp] theorem boots_changed (t : Int) : boots (.changed t :: h) = boots h := rfl

/-! ## One call -/

/-- **What a call does.** It says nothing where there is nothing new and it need not,
and else it prints what is. -/
theorem print_cases (api : EndpointApi α) (caller : Caller) (s : EndpointConsole α) :
    (caller.force = false ∧ s.isFresh api = true ∧ s.print api caller = (s.log, .none)) ∨
    ((caller.force = true ∨ s.isFresh api = false) ∧
      s.print api caller = (⟨s.selected, s.preferred, true⟩,
        .some (endpointLine api caller.why s.selected s.preferred))) := by
  have hguard : s.print api caller = if !caller.force && s.isFresh api then (s.log, .none) else
      (⟨s.selected, s.preferred, true⟩,
        .some (endpointLine api caller.why s.selected s.preferred)) := by
    simp only [print, totemPrintEndpoints, isFresh, Bool.and_assoc]
  cases hforce : caller.force with
  | true =>
    rw [hforce] at hguard
    exact .inr ⟨.inl rfl, hguard⟩
  | false =>
    cases hfresh : s.isFresh api with
    | true =>
      rw [hforce, hfresh] at hguard
      exact .inl ⟨rfl, rfl, hguard⟩
    | false =>
      rw [hforce, hfresh] at hguard
      exact .inr ⟨.inr rfl, hguard⟩

/-- The newest line is of the endpoints printed last, and there is a line for each
change, one for each boot report and one at first. -/
structure Shown (api : EndpointApi α) (h : List Obs) (s : EndpointConsole α) : Prop where
  fresh : Asked h → s.isFresh api = true
  newest : s.log.haveLast = true → ∃ caller : Caller,
    (lines h).head? =
      .some (endpointLine api caller.why s.log.lastSelected s.log.lastPreferred)
  quiet : (lines h).length ≤ (changes h).length + boots h + (s.isFresh api).toNat

theorem Shown.silent {caller : Caller} (hi : Shown api h s) (hforce : caller.force = false)
    (hfresh : s.isFresh api = true) (hsame : s'.isFresh api = s.isFresh api)
    (hlog : s'.log = s.log) : Shown api (.called caller s.now .none :: h) s' where
  fresh _ := hsame.trans hfresh
  newest := by
    rw [hlog]
    exact hi.newest
  quiet := by
    rw [lines_called, changes_called, boots_called, hforce, hsame]
    exact hi.quiet

theorem Shown.spoken {caller : Caller} (hi : Shown api h s)
    (hspeaks : caller.force = true ∨ s.isFresh api = false) (hfresh' : s'.isFresh api = true)
    (hlog : s'.log = ⟨s.selected, s.preferred, true⟩) :
    Shown api (.called caller s.now
      (.some (endpointLine api caller.why s.selected s.preferred)) :: h) s' where
  fresh _ := hfresh'
  newest _ := ⟨caller, by rw [hlog, lines_called]; rfl⟩
  quiet := by
    have hquiet := hi.quiet
    -- a line that need not come is of a change
    have hnew : (s.isFresh api).toNat ≤ caller.force.toNat := by
      rcases hspeaks with hforce | hstale
      · rw [hforce]
        exact Bool.toNat_le _
      · rw [hstale]
        exact Nat.zero_le _
    rw [lines_called, changes_called, boots_called, hfresh', List.length_append,
      Option.toList_some, List.length_singleton, Bool.toNat_true]
    omega

/-- **A call** leaves the console right. -/
theorem Shown.call (hapi : api.Lawful) (hi : Shown api h s) (caller : Caller)
    (hselected : s'.selected = s.selected) (hpreferred : s'.preferred = s.preferred)
    (hlog : s'.log = (s.print api caller).1) :
    Shown api (.called caller s.now (s.print api caller).2 :: h) s' := by
  obtain ⟨hforce, hfresh, hprint⟩ | ⟨hspeaks, hprint⟩ := print_cases api caller s
  · rw [hprint] at hlog ⊢
    have hsame : s'.isFresh api = s.isFresh api := by
      unfold isFresh
      rw [hlog, hselected, hpreferred]
    exact hi.silent hforce hfresh hsame hlog
  · rw [hprint] at hlog ⊢
    have hfresh' : s'.isFresh api = true := by
      unfold isFresh
      rw [hlog, hselected, hpreferred]
      simp [hapi.equivalence.refl]
    exact hi.spoken hspeaks hfresh' hlog

/-- **A change** is owed a line. -/
theorem Shown.change (hi : Shown api h s) (selected preferred : α) :
    Shown api (.changed s.now :: h) { s with selected, preferred } where
  fresh := False.elim
  newest := hi.newest
  quiet := by
    have hquiet := hi.quiet
    have hone := Bool.toNat_le (s.isFresh api)
    rw [lines_changed, changes_changed, boots_changed, List.length_cons]
    omega

/-! ## What a run keeps -/

/-- The poll item with the clock. -/
def timer (s : EndpointConsole α) : Periodic.Timer := ⟨s.pollWork, s.now⟩

/-- The poll is a periodic item, the boot report runs once, and no change comes
before a poll already made. -/
structure Inv (api : EndpointApi α) (delay t₀ : Int) (h : List Obs) (s : EndpointConsole α) : Prop where
  timer : Run (Periodic.Step 1000) (Periodic.boot₀ (delay + 1000) t₀) (polls h) s.timer
  once : Periodic.Once (boots h) s.bootWork
  shown : Shown api h s
  recent : ∀ t, h.head? = .some (.changed t) → ∀ u ∈ polls h, u ≤ t

theorem inv_boot₀ (selected preferred zero : α) :
    Inv api delay t₀ [] (boot₀ selected preferred zero delay t₀) where
  timer := .refl
  once := .schedule t₀ delay
  shown := ⟨False.elim, fun h => absurd h Bool.false_ne_true, Nat.zero_le _⟩
  recent := nofun

theorem Inv.periodic (hdelay : 0 ≤ delay) (hi : Inv api delay t₀ h s) :
    Periodic.Inv (delay + 1000) 1000 t₀ (polls h) s.timer :=
  Periodic.Inv.run (by omega) (by decide) hi.timer

theorem Inv.step {o : Option Obs} (hapi : api.Lawful) (hdelay : 0 ≤ delay)
    (hi : Inv api delay t₀ h s) (hs : Step api s o s') : Inv api delay t₀ (o.toList ++ h) s' := by
  have hshown := hi.shown
  cases hs with
  | pass t ht =>
    exact ⟨hi.timer.quiet (.pass t ht), hi.once.expire t,
      ⟨hshown.fresh, hshown.newest, hshown.quiet⟩, hi.recent⟩
  | change selected preferred =>
    refine ⟨hi.timer, hi.once, hshown.change selected preferred, ?_⟩
    intro t ht u hu
    cases ht
    exact (hi.periodic hdelay).past u hu
  | listener =>
    refine ⟨hi.timer, ?_, hshown.call hapi .listener rfl rfl rfl, nofun⟩
    rw [Option.toList_some, List.singleton_append, boots_called]
    exact hi.once
  | boot hq =>
    refine ⟨hi.timer, ?_, hshown.call hapi .boot rfl rfl rfl, nofun⟩
    rw [Option.toList_some, List.singleton_append, boots_called]
    exact hi.once.start hq
  | poll hq hr =>
    refine ⟨hi.timer.shows (.run hq hr), ?_, hshown.call hapi .poll rfl rfl rfl, nofun⟩
    rw [Option.toList_some, List.singleton_append, boots_called]
    exact hi.once
  | finishBoot =>
    exact ⟨hi.timer, hi.once.finish, ⟨hshown.fresh, hshown.newest, hshown.quiet⟩, hi.recent⟩
  | finishPoll hr =>
    exact ⟨hi.timer.quiet (.finish hr), hi.once, ⟨hshown.fresh, hshown.newest, hshown.quiet⟩,
      hi.recent⟩

theorem inv_run (hapi : api.Lawful) (hdelay : 0 ≤ delay) {selected preferred zero : α}
    (hr : Run (Step api) (boot₀ selected preferred zero delay t₀) h s) : Inv api delay t₀ h s :=
  hr.invariant (inv_boot₀ selected preferred zero) fun hi hs => hi.step hapi hdelay hs

/-- With the last change and the first poll longer ago than a period and what the
queue may be late, there was a poll since. -/
theorem Inv.asked {slack : Int} (hdelay : 0 ≤ delay) (hi : Inv api delay t₀ h s)
    (htime : OnTime slack s.timer) (hfirst : t₀ + delay + 1000 + slack < s.now)
    (hchanges : ∀ t ∈ changes h, t + 1000 + slack < s.now) : Asked h := by
  have hfresh : s.now ≤ dueAfter (delay + 1000) 1000 t₀ (polls h) + slack :=
    (hi.periodic hdelay).fresh htime
  cases hpolls : polls h with
  | nil =>
    have hdue : dueAfter (delay + 1000) 1000 t₀ (polls h) = t₀ + (delay + 1000) := by
      rw [hpolls]
      rfl
    omega
  | cons u us =>
    have hdue : dueAfter (delay + 1000) 1000 t₀ (polls h) = u + 1000 := by
      rw [hpolls]
      rfl
    cases h with
    | nil => cases hpolls
    | cons x h =>
      cases x with
      | called _ _ _ => trivial
      | changed t =>
        have hold : t + 1000 + slack < s.now := hchanges t List.mem_cons_self
        have hsince : u ≤ t := hi.recent t rfl u (by rw [hpolls]; exact List.mem_cons_self)
        omega

end EndpointConsole

open EndpointConsole in
/-- **The console is right, at most a poll late, and quiet.** With whatever changes of
the endpoints, events and handlers interleave, and a work queue that is late by no
more than `slack`: a second and that after the last change and the first poll, the
newest line is of the endpoints as they are, the preferred one included. There is a
line for each change at most, one for the boot report and one at first, and the polls
are a second apart. -/
theorem endpoints_shown {α : Type} {api : EndpointApi α} (hapi : api.Lawful) {delay t₀ : Int}
    (hdelay : 0 ≤ delay) (slack : Int) {selected preferred zero : α} {h : List EndpointConsole.Obs}
    {s : EndpointConsole α}
    (hr : Run (EndpointConsole.Step api) (boot₀ selected preferred zero delay t₀) h s) :
    (OnTime slack s.timer → t₀ + delay + 1000 + slack < s.now →
      (∀ t ∈ changes h, t + 1000 + slack < s.now) →
      ∃ caller : Caller,
        (lines h).head? = .some (endpointLine api caller.why s.selected s.preferred)) ∧
    (lines h).length ≤ (changes h).length + 2 ∧
    (polls h).Pairwise fun t u => u + 1000 ≤ t := by
  have hi := inv_run hapi hdelay hr
  refine ⟨?_, ?_, ?_⟩
  · intro htime hfirst hchanges
    have hfresh := hi.shown.fresh (hi.asked hdelay htime hfirst hchanges)
    simp only [isFresh, Bool.and_eq_true] at hfresh
    obtain ⟨⟨hlast, hselected⟩, hpreferred⟩ := hfresh
    obtain ⟨caller, hline⟩ := hi.shown.newest hlast
    rw [← hapi.endpointLine_eq caller.why hselected hpreferred] at hline
    exact ⟨caller, hline⟩
  · have hquiet := hi.shown.quiet
    have hboots := hi.once.count
    have hone := Bool.toNat_le (s.isFresh api)
    omega
  · exact (hi.periodic hdelay).apart.pairwise (by decide)

/-- USB, or the first Bluetooth profile. -/
def usbOrBle : EndpointApi Bool where
  eq usb usb' := usb == usb'
  toStr usb := .some (if usb then "USB" else "BLE:0").toList

theorem lawful_usbOrBle : usbOrBle.Lawful := ⟨⟨by decide, by decide, by decide⟩, by decide⟩

open EndpointConsole in
/-- Bluetooth is asked for while it is down: no event, and the poll shows the fallback. -/
theorem endpoints_shown_fallback : ∃ (h : List EndpointConsole.Obs) (s : EndpointConsole Bool)
    (caller : Caller), Run (EndpointConsole.Step usbOrBle) (boot₀ true true true 1000 0) h s ∧
      (lines h).length ≤ 3 ∧
      (lines h).head? = .some
        ("totem_ep ".toList ++ caller.why ++ " selected=USB preferred=BLE:0  FALLBACK\n".toList) := by
  have hboot : Run (EndpointConsole.Step usbOrBle) (boot₀ true true true 1000 0) _ _ :=
    Run.refl.quiet (.pass 1000 (by decide))
  have hreported := (hboot.shows (.boot rfl)).quiet .finishBoot
  have hchanged := (hreported.quiet (.pass 1500 (by decide))).shows (.change true false)
  have hpolled := (hchanged.quiet (.pass 2000 (by decide))).shows (.poll rfl rfl)
  have hdone := (hpolled.quiet (.finishPoll rfl)).quiet (.pass 3000 (by decide))
  obtain ⟨hline, hquiet, -⟩ := endpoints_shown lawful_usbOrBle (by decide) 0 hdone
  obtain ⟨caller, hline⟩ := hline (fun d hd => by cases hd; decide) (by decide) (by decide)
  have htext : endpointLine usbOrBle caller.why true false = "totem_ep ".toList ++ caller.why ++
      " selected=USB preferred=BLE:0  FALLBACK\n".toList := by
    unfold endpointLine
    simp only [List.append_assoc]
    rfl
  exact ⟨_, _, caller, hdone, hquiet, hline.trans (congrArg _ htext)⟩

end TotemZmk
