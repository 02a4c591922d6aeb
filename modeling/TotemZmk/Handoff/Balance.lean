/-
The radio wrappers and the handoff counters together: every termination setup a
summary counts is counted as completed, as uncompleted, or still pending.

The wrappers sample `totem_handoff_tx_armed` when a context takes the radio, and
the counters test `armed` again at each call, so a handle may be disarmed or
reused between a setup and its result.

* `tx_counters_balance`: the counters of an armed handle add up, and so do the
  counts a disconnect reports.
* `Fair.onRadio`: what it takes to keep that.
-/
import TotemZmk.Handoff.Summary
import TotemZmk.Handoff.Radio

namespace TotemZmk

open Trace (Run RunWhere)

/-- The TX counters, with `open_` setups without a result. -/
def HandoffRadio.Balanced (open_ : Nat) (radio : HandoffRadio) : Prop :=
  radio.armed = true → radio.txSetups.toNat =
    min 65535 (radio.txCompleted.toNat + radio.txUncompleted.toNat + open_)

namespace HandoffRadio

open Handoff (addCount)

variable {radio : HandoffRadio} {open_ : Nat} {now : UInt32}

theorem balanced_zero (open_ : Nat) : zero.Balanced open_ := by rintro ⟨⟩

theorem balanced_arm (radio : HandoffRadio) : radio.arm.Balanced 0 := fun _ => rfl

theorem toNat_addCount_one (value : UInt16) :
    (addCount value 1).toNat = min 65535 (value.toNat + 1) :=
  Handoff.addCount_toNat (by decide)

theorem Balanced.txSetup (h : radio.Balanced 0) : (radio.txSetup now).Balanced 1 := by
  intro harmed
  unfold HandoffRadio.txSetup at harmed ⊢
  by_cases ha : radio.armed = true
  · rw [if_pos ha]
    have hbalanced := h ha
    show (addCount radio.txSetups 1).toNat = _
    rw [toNat_addCount_one]
    dsimp only
    omega
  · rw [if_neg ha] at harmed
    exact absurd harmed ha

theorem Balanced.txResult (completed : Bool) (h : radio.Balanced 1) :
    (radio.txResult completed now).Balanced 0 := by
  intro harmed
  unfold HandoffRadio.txResult at harmed ⊢
  by_cases ha : radio.armed = true
  · rw [if_pos ha]
    have hbalanced := h ha
    cases completed with
    | true =>
      show radio.txSetups.toNat =
        min 65535 ((addCount radio.txCompleted 1).toNat + radio.txUncompleted.toNat + 0)
      rw [toNat_addCount_one]
      omega
    | false =>
      show radio.txSetups.toNat =
        min 65535 (radio.txCompleted.toNat + (addCount radio.txUncompleted 1).toNat + 0)
      rw [toNat_addCount_one]
      omega
  · rw [if_neg ha] at harmed
    exact absurd harmed ha

theorem Balanced.connDone {cfg : HandoffConfig} {d : EventDone} (h : radio.Balanced open_) :
    (radio.connDone cfg d now).Balanced open_ := by
  have hnoted : (radio.noteRx d now).Balanced open_ := by
    unfold HandoffRadio.noteRx
    split <;> exact h
  unfold HandoffRadio.connDone
  dsimp only
  split
  · exact hnoted
  · exact hnoted

theorem balanced_disarm (radio : HandoffRadio) (open_ : Nat) :
    ({ radio with armed := false } : HandoffRadio).Balanced open_ := by rintro ⟨⟩

end HandoffRadio

namespace Handoff

/-- `totem_handoff_tx_armed` -/
def txArmed (cfg : HandoffConfig) (s : Handoff) (handle : UInt16) : Bool :=
  if cfg.maxConn ≤ handle.toNat then false else (s.radios handle).armed

/-- `totem_handoff_tx_setup` and `totem_handoff_tx_result`, at the time they read. -/
def takeCall (cfg : HandoffConfig) (now : UInt32) (s : Handoff) : TxCall → Handoff
  | .txSetup handle => s.onRadio cfg handle (.txSetup now)
  | .txResult handle completed => s.onRadio cfg handle (.txResult completed now)

/-- The calls of a wrapper, from the `i`-th on. -/
def takeCalls (cfg : HandoffConfig) (clock : Nat → UInt32) : Nat → List TxCall → Handoff → Handoff
  | _, [], s => s
  | i, call :: calls, s => takeCalls cfg clock (i + 1) calls (s.takeCall cfg (clock i) call)

theorem takeCall_step (cfg : HandoffConfig) (now : UInt32) (s : Handoff) (call : TxCall) :
    ∃ o, Step cfg s o (s.takeCall cfg now call) := by
  cases call with
  | txSetup handle => exact ⟨_, .txSetup handle now⟩
  | txResult handle completed => exact ⟨_, .txResult handle completed now⟩

/-- Every armed handle is balanced, `opens` being the setups without a result. -/
def Fair (cfg : HandoffConfig) (opens : UInt16 → Nat) (s : Handoff) : Prop :=
  ∀ handle, ((s.radios handle).armed = true → handle.toNat < cfg.maxConn) ∧
    (s.radios handle).Balanced (opens handle)

variable {cfg : HandoffConfig} {opens opens' : UInt16 → Nat} {s : Handoff} {handle : UInt16}

/-- **One handle changes**, and its setups without a result with it. -/
theorem Fair.onRadio {f : HandoffRadio → HandoffRadio} (hi : Fair cfg opens s)
    (hsame : ∀ handle', handle' ≠ handle → opens' handle' = opens handle')
    (hf : (s.radios handle).Balanced (opens handle) →
      (f (s.radios handle)).Balanced (opens' handle)) :
    Fair cfg opens' (s.onRadio cfg handle f) := by
  intro handle'
  unfold Handoff.onRadio
  by_cases hlt : handle.toNat < cfg.maxConn
  · rw [if_pos hlt]
    dsimp only
    by_cases heq : handle' = handle
    · rw [heq, Function.update_self]
      exact ⟨fun _ => hlt, hf (hi handle).2⟩
    · rw [Function.update_of_ne heq, hsame handle' heq]
      exact hi handle'
  · rw [if_neg hlt]
    by_cases heq : handle' = handle
    · rw [heq]
      exact ⟨(hi handle).1, fun harmed => absurd ((hi handle).1 harmed) hlt⟩
    · rw [hsame handle' heq]
      exact hi handle'

end Handoff

/-! ## Both files -/

/-- The radio, with its observer, and the counters. -/
structure Balance where
  radio : Radio
  handoff : Handoff

namespace Balance

open Handoff (Fair)

/-- A radio event with the wrapper's calls, or a step of the counters. -/
inductive Obs where
  | radio (o : Radio.Obs)
  | handoff (o : Handoff.Obs)

/-- The wrappers' calls, which are the radio's. -/
def callsTx : Handoff.Act → Bool
  | .txSetup _ _ | .txResult _ _ _ => true
  | .connected _ | .armed _ | .accepted _ | .failed _ | .done _ _ _ | .disconnected _ => false

/-- At power-up. -/
def boot₀ (ended : Bool) : Balance := ⟨.boot₀ ended, .boot₀⟩

/-- A radio event, whose wrapper asks and calls `handoff_diagnostics.c`, or one
of that file's other entry points. -/
inductive Step (cfg : HandoffConfig) : Balance → Option Obs → Balance → Prop where
  | radio {s o radio'} (clock : Nat → UInt32) (hs : Radio.Step cfg.leEnc s.radio (.some o) radio')
      (harmed : ∀ cb param lll armed, o.event = .call (.isrSet cb param lll armed) →
        armed = s.handoff.txArmed cfg lll.handle) :
    Step cfg s (.some (.radio o)) ⟨radio', s.handoff.takeCalls cfg clock 0 o.calls⟩
  | pass {s handoff'} (hs : Handoff.Step cfg s.handoff .none handoff') :
    Step cfg s .none { s with handoff := handoff' }
  | handoff {s o handoff'} (hs : Handoff.Step cfg s.handoff (.some o) handoff')
      (hcalls : callsTx o.act = false) :
    Step cfg s (.some (.handoff o)) { s with handoff := handoff' }

/-- A setup on the handle has no result yet. -/
def Pending (s : Balance) (handle : UInt16) : Prop :=
  s.radio.tx.pending = true ∧ s.radio.tx.handle = handle

instance (s : Balance) (handle : UInt16) : Decidable (s.Pending handle) :=
  inferInstanceAs (Decidable (_ ∧ _))

/-- A handle is not armed while a setup on it is pending, and a context keeps
its handle while a setup of its own is. -/
def Assumed (_ : List Obs) (s : Balance) : Option Obs → Prop
  | .some (.radio o) => ∀ op, o.event = .call op → s.radio.tx.Keeps op
  | .some (.handoff o) => ∀ handle, o.act = .armed handle → ¬s.Pending handle
  | .none => True

/-! ## What a step keeps -/

variable {cfg : HandoffConfig} {h : List Obs} {s s' : Balance} {o : Option Obs}

/-- The setups of a handle without a result. -/
def opens (tx : TxRadio) (handle : UInt16) : Nat :=
  if tx.pending = true ∧ tx.handle = handle then 1 else 0

theorem opens_of_not {tx : TxRadio} (hp : tx.pending = false) (handle : UInt16) :
    opens tx handle = 0 := by
  unfold opens
  rw [hp]
  rfl

theorem opens_self {tx : TxRadio} (hp : tx.pending = true) : opens tx tx.handle = 1 :=
  if_pos ⟨hp, rfl⟩

theorem opens_other {tx : TxRadio} {handle : UInt16} (hne : handle ≠ tx.handle) :
    opens tx handle = 0 :=
  if_neg fun h => hne h.2.symm

/-- The counters of every armed handle add up. -/
def Inv (cfg : HandoffConfig) (s : Balance) : Prop := Fair cfg (opens s.radio.tx) s.handoff

theorem inv_boot₀ (ended : Bool) : Inv cfg (boot₀ ended) :=
  fun _ => ⟨by rintro ⟨⟩, HandoffRadio.balanced_zero _⟩

theorem fair_result {tx : TxRadio} {handoff : Handoff} (hi : Fair cfg (opens tx) handoff)
    (hp : tx.pending = true) (completed : Bool) (now : UInt32) :
    Fair cfg (fun _ => 0) (handoff.takeCall cfg now (.txResult tx.handle completed)) := by
  refine hi.onRadio (fun handle hne => (opens_other hne).symm) fun hbalanced => ?_
  rw [opens_self hp] at hbalanced
  exact hbalanced.txResult completed

theorem fair_setup {tx' : TxRadio} {handoff : Handoff} (hi : Fair cfg (fun _ => 0) handoff)
    (hp' : tx'.pending = true) (now : UInt32) :
    Fair cfg (opens tx') (handoff.takeCall cfg now (.txSetup tx'.handle)) := by
  refine hi.onRadio (fun handle hne => opens_other hne) fun hbalanced => ?_
  rw [opens_self hp']
  exact hbalanced.txSetup

theorem fair_effect {tx tx' : TxRadio} {end_ : Bool} {op : RadioOp} {calls : List TxCall}
    {handoff : Handoff} (hi : Fair cfg (opens tx) handoff)
    (heffect : TxRadio.Effect end_ op tx tx' calls) (clock : Nat → UInt32) :
    Fair cfg (opens tx') (handoff.takeCalls cfg clock 0 calls) := by
  cases heffect with
  | idle hp hp' =>
    have hsame : opens tx' = opens tx := by
      funext handle
      rw [opens_of_not hp, opens_of_not hp']
    rw [hsame]
    exact hi
  | stays hp hp' hparam hhandle hr =>
    have hsame : opens tx' = opens tx := by
      unfold opens
      rw [hp, hp', hhandle]
    rw [hsame]
    exact hi
  | resolved hp hp' =>
    have hsame : opens tx' = fun _ => 0 := funext (opens_of_not hp')
    rw [hsame]
    exact fair_result hi hp end_ (clock 0)
  | setup hop hactive hp' hparam hhandle =>
    rw [← hhandle]
    by_cases hp : tx.pending = true
    · rw [TxRadio.finishPending_of_pending hp]
      exact fair_setup (fair_result hi hp end_ (clock 0)) hp' (clock 1)
    · have hp := Bool.eq_false_iff.mpr hp
      have hnone : opens tx = fun _ => 0 := funext (opens_of_not hp)
      rw [TxRadio.finishPending_of_not hp]
      rw [hnone] at hi
      exact fair_setup hi hp' (clock 0)

theorem Inv.radio {o : Radio.Obs} {radio' : Radio} (hi : Inv cfg s) (clock : Nat → UInt32)
    (hs : Radio.Step cfg.leEnc s.radio (.some o) radio')
    (hkeeps : ∀ op, o.event = .call op → s.radio.tx.Keeps op) :
    Inv cfg ⟨radio', s.handoff.takeCalls cfg clock 0 o.calls⟩ := by
  cases hs with
  | call op => exact fair_effect hi (TxRadio.step_effect op (hkeeps op rfl)) clock
  | ended => exact hi

/-- An entry point that leaves the setups without a result as they are. -/
theorem fair_handoff {opens : UInt16 → Nat} {handoff handoff' : Handoff} {o : Option Handoff.Obs}
    (hi : Fair cfg opens handoff) (hs : Handoff.Step cfg handoff o handoff')
    (hcalls : ∀ obs, o = .some obs → callsTx obs.act = false)
    (harms : ∀ obs handle, o = .some obs → obs.act = .armed handle → opens handle = 0) :
    Fair cfg opens handoff' := by
  cases hs with
  | connected handle =>
    exact hi.onRadio (fun _ _ => rfl) fun _ => HandoffRadio.balanced_zero _
  | pass r hr => exact hi
  | arm r clock hr =>
    refine hi.onRadio (fun _ _ => rfl) fun _ => ?_
    rw [harms _ r.handle rfl rfl]
    exact HandoffRadio.balanced_arm _
  | answer handle err now hd =>
    refine hi.onRadio (fun _ _ => rfl) fun hbalanced => ?_
    split
    · exact hbalanced
    · exact HandoffRadio.balanced_disarm _ _
  | done handle d now =>
    refine hi.onRadio (fun _ _ => rfl) fun hbalanced => ?_
    split
    · exact hbalanced.connDone
    · exact hbalanced
  | txSetup handle now => cases hcalls _ rfl
  | txResult handle completed now => cases hcalls _ rfl
  | disconnected handle clock =>
    exact hi.onRadio (fun _ _ => rfl) fun _ => HandoffRadio.balanced_zero _

theorem Inv.step (hi : Inv cfg s) (hs : Step cfg s o s') (ha : Assumed h s o) : Inv cfg s' := by
  cases hs with
  | radio clock hs harmed => exact hi.radio clock hs ha
  | pass hs => exact fair_handoff hi hs (fun _ h => nomatch h) fun _ _ h => nomatch h
  | handoff hs hcalls =>
    refine fair_handoff hi hs (fun obs h => by cases h; exact hcalls) fun obs handle h harmed => ?_
    cases h
    exact if_neg (ha handle harmed)

/-- The calls of a wrapper are steps of the counters. -/
theorem takeCalls_run (cfg : HandoffConfig) (clock : Nat → UInt32) (i : Nat)
    (calls : List TxCall) (handoff : Handoff) :
    ∃ acts, Run (Handoff.Step cfg) handoff acts (handoff.takeCalls cfg clock i calls) := by
  induction calls generalizing i handoff with
  | nil => exact ⟨[], .refl⟩
  | cons call calls ih =>
    obtain ⟨o, hs⟩ := Handoff.takeCall_step cfg (clock i) handoff call
    obtain ⟨acts, hr⟩ := ih (i + 1) (handoff.takeCall cfg (clock i) call)
    exact ⟨_, (Run.refl.step hs).trans hr⟩

/-- **The counters make a run of their own.** -/
theorem handoff_run {ended : Bool} (hr : Run (Step cfg) (boot₀ ended) h s) :
    ∃ acts, Run (Handoff.Step cfg) .boot₀ acts s.handoff := by
  induction hr with
  | refl => exact ⟨[], .refl⟩
  | @step h s o s' hr hs ih =>
    obtain ⟨acts, hacts⟩ := ih
    cases hs with
    | @radio o radio' clock hs harmed =>
      obtain ⟨acts', hacts'⟩ := takeCalls_run cfg clock 0 o.calls s.handoff
      exact ⟨_, hacts.trans hacts'⟩
    | pass hs => exact ⟨_, hacts.step hs⟩
    | handoff hs hcalls => exact ⟨_, hacts.step hs⟩

/-- The counts of kind `TOTEM_HEVT_HANDOFF_TX` among records, as they stand. -/
def txCounts (records : List TimingRecord) : List TimingRecord :=
  records.filter fun r => r.type = totemHevtHandoffTx ∧ r.reason ≤ 2

/-- A disconnect that reports is of an armed handle, and reports its counters. -/
theorem records_disconnected {handoff handoff' : Handoff} {o : Handoff.Obs} {handle : UInt16}
    (hs : Handoff.Step cfg handoff (.some o) handoff') (hact : o.act = .disconnected handle)
    (hrecords : o.records ≠ []) : (handoff.radios handle).armed = true ∧
      ∃ clock, o.records = Handoff.disconnectedRecords clock handle (handoff.radios handle) := by
  cases hs with
  | connected handle' => cases hact
  | arm r clock hr => cases hact
  | answer handle' err now hd =>
    dsimp only at hact
    split at hact <;> cases hact
  | done handle' d now => cases hact
  | txSetup handle' now => cases hact
  | txResult handle' completed now => cases hact
  | disconnected handle' clock =>
    cases hact
    dsimp only at hrecords ⊢
    by_cases hlt : handle.toNat < cfg.maxConn
    · rw [if_pos hlt] at hrecords ⊢
      refine ⟨?_, clock, rfl⟩
      by_contra harmed
      rw [Handoff.disconnectedRecords, if_neg harmed] at hrecords
      exact hrecords rfl
    · rw [if_neg hlt] at hrecords
      exact absurd rfl hrecords

theorem txCounts_disconnected (clock : Nat → UInt32) (handle : UInt16) {radio : HandoffRadio}
    (harmed : radio.armed = true) :
    txCounts (Handoff.disconnectedRecords clock handle radio) =
      [Handoff.captureValue (clock 10) totemHevtHandoffTx handle 0 radio.txSetups,
        Handoff.captureValue (clock 11) totemHevtHandoffTx handle 1 radio.txCompleted,
        Handoff.captureValue (clock 12) totemHevtHandoffTx handle 2 radio.txUncompleted] := by
  unfold Handoff.disconnectedRecords
  rw [if_pos harmed]
  rfl

end Balance

/-- **Termination TX counters balance.** In every run, for every armed handle
whose counters are not saturated, the setups are those completed, those
uncompleted and the one pending, if there is one. So in the counts a disconnect
reports, setups are at least completed and uncompleted together, and exceed
them by at most the one setup pending. -/
theorem tx_counters_balance (cfg : HandoffConfig) (ended : Bool) {h : List Balance.Obs}
    {s : Balance} (hr : RunWhere (Balance.Step cfg) Balance.Assumed (.boot₀ ended) h s) :
    (∀ handle, (s.handoff.radios handle).armed = true →
      let radio := s.handoff.radios handle
      radio.txSetups ≠ 65535 → radio.txSetups.toNat = radio.txCompleted.toNat +
        radio.txUncompleted.toNat + if s.Pending handle then 1 else 0) ∧
    ∀ o s' handle, Balance.Step cfg s (.some (.handoff o)) s' → o.act = .disconnected handle →
      o.records ≠ [] → ∃ (setups completed uncompleted : UInt16) (clock : Nat → UInt32),
        Balance.txCounts o.records =
          [Handoff.captureValue (clock 10) totemHevtHandoffTx handle 0 setups,
            Handoff.captureValue (clock 11) totemHevtHandoffTx handle 1 completed,
            Handoff.captureValue (clock 12) totemHevtHandoffTx handle 2 uncompleted] ∧
        (setups ≠ 65535 → completed.toNat + uncompleted.toNat ≤ setups.toNat ∧
          setups.toNat ≤ completed.toNat + uncompleted.toNat +
            if s.Pending handle then 1 else 0) := by
  have hi : Balance.Inv cfg s := hr.invariant (P := fun _ s => Balance.Inv cfg s)
    (Balance.inv_boot₀ ended) Balance.Inv.step
  have hbalance : ∀ handle, (s.handoff.radios handle).armed = true →
      (s.handoff.radios handle).txSetups ≠ 65535 →
      (s.handoff.radios handle).txSetups.toNat = (s.handoff.radios handle).txCompleted.toNat +
        (s.handoff.radios handle).txUncompleted.toNat + if s.Pending handle then 1 else 0 := by
    intro handle harmed hunsaturated
    have hsum := (hi handle).2 harmed
    have hmax : (s.handoff.radios handle).txSetups.toNat ≠ 65535 := fun he =>
      hunsaturated (UInt16.toNat_inj.mp he)
    have hopens : Balance.opens s.radio.tx handle = if s.Pending handle then 1 else 0 := rfl
    rw [hopens] at hsum
    omega
  refine ⟨hbalance, ?_⟩
  intro o s' handle hs hact hrecords
  cases hs with
  | handoff hs hcalls =>
    obtain ⟨harmed, clock, he⟩ := Balance.records_disconnected hs hact hrecords
    refine ⟨_, _, _, clock, he ▸ Balance.txCounts_disconnected clock handle harmed, ?_⟩
    intro hunsaturated
    have hsum := hbalance handle harmed hunsaturated
    omega

/-- A handle is armed, and disconnects while its termination packet is on the air. -/
theorem tx_counters_balance_sent :
    ∃ (h : List Balance.Obs) (s : Balance),
      RunWhere (Balance.Step ⟨6, true, true⟩) Balance.Assumed (.boot₀ false) h s ∧
      ((s.handoff.radios 1).armed = true ∧ s.Pending 1 ∧
        (s.handoff.radios 1).txSetups.toNat = (s.handoff.radios 1).txCompleted.toNat +
          (s.handoff.radios 1).txUncompleted.toNat + 1) ∧
      ∃ o s', Balance.Step ⟨6, true, true⟩ s (.some (.handoff o)) s' ∧ o.act = .disconnected 1 ∧
        ∃ (setups completed uncompleted : UInt16) (clock : Nat → UInt32),
          Balance.txCounts o.records =
            [Handoff.captureValue (clock 10) totemHevtHandoffTx 1 0 setups,
              Handoff.captureValue (clock 11) totemHevtHandoffTx 1 1 completed,
              Handoff.captureValue (clock 12) totemHevtHandoffTx 1 2 uncompleted] ∧
          (setups ≠ 65535 → completed.toNat + uncompleted.toNat ≤ setups.toNat ∧
            setups.toNat ≤ completed.toNat + uncompleted.toNat + 1) := by
  have harmed : RunWhere (Balance.Step ⟨6, true, true⟩) Balance.Assumed (.boot₀ false) _ _ :=
    RunWhere.refl.shows (.handoff (.arm leaving (fun _ => 100) (by decide)) rfl) (by
      intro handle _ hpending
      cases hpending.1)
  have hadopted := harmed.shows
    (.radio (fun _ => 110) (.call (.isrSet .lllConnIsrRx (.some 8) ⟨1, true, false⟩ true))
      (by rintro cb param lll armed ⟨⟩; rfl)) (by rintro op ⟨⟩ ⟨⟩)
  have hsent := hadopted.shows
    (.radio (fun _ => 110) (.call (.pktTxSet (.some 16) ⟨3, 2, 2⟩))
      (by rintro cb param lll armed ⟨⟩)) (by rintro op ⟨⟩; trivial)
  obtain ⟨hcounters, hreported⟩ := tx_counters_balance _ false hsent
  refine ⟨_, _, hsent, ⟨rfl, by decide, hcounters 1 rfl (by decide)⟩, _, _,
    .handoff (.disconnected 1 fun _ => 120) rfl, rfl, ?_⟩
  exact hreported _ _ 1 (.handoff (.disconnected 1 fun _ => 120) rfl) rfl (by decide)

end TotemZmk
