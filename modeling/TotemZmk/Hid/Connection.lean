/-
`hid_connection_log.c`: what is recorded of a link's first keyboard reports and
of its security requests. The callbacks run in any context, an atomic operation
at a time.

* `Inv`: what each step keeps of the flags, of the records they pay for, and of
  the completions asked for.
* `hid_link_once`: each flag is won once between two clears, and each win is
  recorded once.
* `hid_completion_once`: a link has one completion in flight, and none after a
  success.
-/
import TotemZmk.Lib.Flags
import TotemZmk.Hid.Pipeline

namespace TotemZmk

open Trace (Run)
open Pipeline (weigh weigh_append weigh_cons one)

/-! ## `enum totem_host_evt` -/

def totemHevtHidFirstAttempt : UInt8 := 21
def totemHevtHidTxResult : UInt8 := 22
def totemHevtAdvResult : UInt8 := 23
def totemHevtSecRequest : UInt8 := 24
def totemHevtSecRequestResult : UInt8 := 25
def totemHevtConnHandle : UInt8 := 29

namespace HidConnection

variable {slots : Nat}

/-- The bits of each connection. -/
inductive LinkBit where
  | firstAttempts
  | firstSubscriptions
  | firstErrors
  | trackedSends
  | firstSecurityRequests
deriving DecidableEq, Repr

/-- `err < 0 ? 1 : err > 0 ? 2 : 0` -/
def errClass (err : Int) : UInt8 := if err < 0 then 1 else if 0 < err then 2 else 0

/-- `err < 0 ? -err : err`, as a byte. -/
def errByte (err : Int) : UInt8 := UInt8.ofNat err.natAbs

/-- What is called answers, at the time of a step: `zmk_ble_profile_index`,
`zmk_ble_active_profile_index`, `bt_conn_get_security`,
`__real_bt_conn_set_security`, and `bt_hci_get_conn_handle` where it succeeds. -/
structure Answers where
  profileIndex : Int8
  activeProfile : Int8
  security : UInt8
  err : Int
  handle : Option UInt16
deriving DecidableEq, Repr

/-- What every context reaches: the bits, and the completions `hog.c` was asked
for and has not reported. -/
structure Shared (slots : Nat) where
  bits : LinkBit → Fin slots → Bool
  inFlight : Fin slots → Nat

/-- What can be observed, and what a history must remember. -/
inductive Obs (slots : Nat) where
  | op (bit : LinkBit) (slot : Fin slots) (op : Flags.Op)
  | recorded (slot : Fin slots) (r : RecordArgs)
  /-- What was recorded belongs to no connection. -/
  | advertised (r : RecordArgs)
  /-- `totem_host_event_log_record_timing` -/
  | recordedTiming (slot : Fin slots) (r : RecordArgs)
  /-- `totem_hid_report_observed` -/
  | observed (slot : Fin slots) (subscribed : Bool)
  /-- A callback began. -/
  | connected (slot : Fin slots)
  | disconnected (slot : Fin slots)
  | resulted (slot : Fin slots) (err : Int)
deriving DecidableEq, Repr

/-- A call in progress, by what it does next. -/
inductive Call (slots : Nat) where
  /-- `__wrap_bt_conn_set_security` -/
  | setSecurity (slot : Fin slots) (sec : UInt8)
  | secRequest (slot : Fin slots) (sec : UInt8) (idx active : Int8) (trace : Bool)
  | realSetSecurity (slot : Fin slots) (sec : UInt8) (idx active : Int8) (trace : Bool)
  | secRequestResult (slot : Fin slots) (sec : UInt8) (idx active : Int8) (trace : Bool) (err : Int)
  /-- `zmk_hog_subscription_observed` -/
  | subscription (slot : Fin slots)
  | hidSubscribed (slot : Fin slots)
  /-- `zmk_hog_keyboard_report_attempted` -/
  | attempted (slot : Fin slots) (subscribed : Bool)
  | firstAttempt (slot : Fin slots) (subscribed : Bool)
  | hidFirstAttempt (slot : Fin slots) (subscribed : Bool)
  | trackSend (slot : Fin slots)
  /-- `zmk_hog_keyboard_report_result` -/
  | result (slot : Fin slots) (err : Int)
  | firstError (slot : Fin slots) (err : Int)
  | hidTxResult (slot : Fin slots) (err : Int)
  /-- `hid_log_connected` -/
  | connHandle (slot : Fin slots)
  /-- It, and `security_log_disconnected`, have these bits to clear. -/
  | clearBits (slot : Fin slots) (bits : List LinkBit)
deriving DecidableEq, Repr

/-- The bits `hid_log_connected` clears. -/
def connectedBits : List LinkBit := [.firstAttempts, .firstSubscriptions, .firstErrors, .trackedSends]

namespace Shared

/-- A bit takes a value. -/
def put (s : Shared slots) (bit : LinkBit) (slot : Fin slots) (value : Bool) : Shared slots :=
  { s with bits := Function.update s.bits bit (Function.update (s.bits bit) slot value) }

/-- `atomic_test_and_set_bit`, and what it shows. -/
def testAndSet (s : Shared slots) (bit : LinkBit) (slot : Fin slots) :
    Shared slots × Option (Obs slots) :=
  (s.put bit slot true, .some (.op bit slot (.testAndSet (s.bits bit slot))))

/-- `atomic_clear_bit` -/
def clearBit (s : Shared slots) (bit : LinkBit) (slot : Fin slots) :
    Shared slots × Option (Obs slots) :=
  (s.put bit slot false, .some (.op bit slot (.clear (s.bits bit slot))))

end Shared

/-- One step of a call, and what is left of it. -/
def Call.step (a : Answers) (s : Shared slots) : Call slots →
    (Shared slots × Option (Obs slots)) × Option (Call slots)
  | .setSecurity slot sec =>
    (s.testAndSet .firstSecurityRequests slot, .some (.secRequest slot sec a.profileIndex
      a.activeProfile (!s.bits .firstSecurityRequests slot)))
  | .secRequest slot sec idx active trace =>
    ((s, if trace then
        .some (.recorded slot ⟨totemHevtSecRequest, idx, active, sec, 0, a.security⟩)
      else .none), .some (.realSetSecurity slot sec idx active trace))
  | .realSetSecurity slot sec idx active trace =>
    ((s, .none), .some (.secRequestResult slot sec idx active trace a.err))
  | .secRequestResult slot sec idx active trace err =>
    ((s, if trace then
        .some (.recorded slot
          ⟨totemHevtSecRequestResult, idx, active, sec, errClass err, errByte err⟩)
      else .none), .none)
  | .subscription slot =>
    (s.testAndSet .firstSubscriptions slot,
      if s.bits .firstSubscriptions slot then .none else .some (.hidSubscribed slot))
  | .hidSubscribed slot =>
    ((s, .some (.recorded slot
      ⟨totemHevtHidSubscribed, a.profileIndex, a.activeProfile, 0, 0, 0⟩)), .none)
  | .attempted slot subscribed =>
    ((s, .some (.observed slot subscribed)), .some (.firstAttempt slot subscribed))
  | .firstAttempt slot subscribed =>
    (s.testAndSet .firstAttempts slot,
      .some (if s.bits .firstAttempts slot then .trackSend slot else .hidFirstAttempt slot subscribed))
  | .hidFirstAttempt slot subscribed =>
    ((s, .some (.recorded slot ⟨totemHevtHidFirstAttempt, a.profileIndex, a.activeProfile, 0, 0,
      if subscribed then 1 else 0⟩)), .some (.trackSend slot))
  | .trackSend slot =>
    -- A completion is asked for if the bit was clear.
    let (s', o) := s.testAndSet .trackedSends slot
    (({ s' with
        inFlight :=
          if s.bits .trackedSends slot then s.inFlight
          else Function.update s.inFlight slot (s.inFlight slot + 1) }, o), .none)
  | .result slot err =>
    if err ≠ 0 then (s.clearBit .trackedSends slot, .some (.firstError slot err))
    else ((s, .none), .some (.hidTxResult slot err))
  | .firstError slot err =>
    (s.testAndSet .firstErrors slot,
      if s.bits .firstErrors slot then .none else .some (.hidTxResult slot err))
  | .hidTxResult slot err =>
    ((s, .some (.recorded slot ⟨totemHevtHidTxResult, a.profileIndex, a.activeProfile,
      UInt8.ofInt (-err), 0, if err ≠ 0 then 1 else 0⟩)), .none)
  | .connHandle slot =>
    ((s, a.handle.map fun handle : UInt16 => .recordedTiming slot
      ⟨totemHevtConnHandle, a.profileIndex, a.activeProfile, (handle &&& 0xff).toUInt8, 0,
        (handle >>> 8).toUInt8⟩), .some (.clearBits slot connectedBits))
  | .clearBits _ [] => ((s, .none), .none)
  | .clearBits slot (bit :: bits) => (s.clearBit bit slot, .some (.clearBits slot bits))

end HidConnection

/-- The bits, and the calls in progress. -/
structure HidConnection (slots : Nat) where
  shared : HidConnection.Shared slots
  calls : List (HidConnection.Call slots)

namespace HidConnection

variable {slots : Nat}

/-- At power-up. -/
def boot₀ (slots : Nat) : HidConnection slots := ⟨⟨fun _ _ => false, fun _ => 0⟩, []⟩

/-- One step of any context. `hog.c` reports each completion it was asked for,
once. -/
inductive Step : HidConnection slots → Option (Obs slots) → HidConnection slots → Prop where
  | setSecurity {s} (slot : Fin slots) (sec : UInt8) :
    Step s .none { s with calls := .setSecurity slot sec :: s.calls }
  | subscription {s} (slot : Fin slots) :
    Step s .none { s with calls := .subscription slot :: s.calls }
  | attempted {s} (slot : Fin slots) (subscribed : Bool) :
    Step s .none { s with calls := .attempted slot subscribed :: s.calls }
  | result {s} (slot : Fin slots) (err : Int) (h : 0 < s.shared.inFlight slot) :
    Step s (.some (.resulted slot err))
      { s with
        shared :=
          { s.shared with
            inFlight := Function.update s.shared.inFlight slot (s.shared.inFlight slot - 1) }
        calls := .result slot err :: s.calls }
  | connected {s} (slot : Fin slots) :
    Step s (.some (.connected slot)) { s with calls := .connHandle slot :: s.calls }
  | disconnected {s} (slot : Fin slots) :
    Step s (.some (.disconnected slot))
      { s with calls := .clearBits slot [.firstSecurityRequests] :: s.calls }
  /-- `zmk_ble_advertising_observed` -/
  | advertising {s} (active : Int8) (stage : UInt8) (err : Int) :
    Step s (.some (.advertised ⟨totemHevtAdvResult, active, active, stage, errClass err,
      errByte err⟩)) s
  | call {s before call after} (a : Answers) (h : s.calls = before ++ call :: after) :
    Step s (call.step a s.shared).1.2
      { s with
        shared := (call.step a s.shared).1.1
        calls := before ++ (call.step a s.shared).2.toList ++ after }

/-! ## What a bit pays for, and what clears it -/

/-- The operations on one bit of a slot. -/
def ops (bit : LinkBit) (slot : Fin slots) (h : List (Obs slots)) : List Flags.Op :=
  h.filterMap fun
    | .op bit' slot' op => if bit' = bit ∧ slot' = slot then .some op else .none
    | _ => .none

/-- Whoever finds the bit clear does this once. -/
def Obs.pays (bit : LinkBit) (slot : Fin slots) : Obs slots → Nat
  | .recorded slot' r =>
    match bit with
    | .firstAttempts => one (slot' = slot ∧ r.type = totemHevtHidFirstAttempt)
    | .firstSubscriptions => one (slot' = slot ∧ r.type = totemHevtHidSubscribed)
    | .firstErrors => one (slot' = slot ∧ r.type = totemHevtHidTxResult ∧ r.extra = 1)
    | .firstSecurityRequests => one (slot' = slot ∧ r.type = totemHevtSecRequest)
    | .trackedSends => 0
  | .resulted slot' _ => one (bit = .trackedSends ∧ slot' = slot)
  | _ => 0

/-- A call that found it clear, and has not yet. -/
def Call.owes (bit : LinkBit) (slot : Fin slots) : Call slots → Nat
  | .secRequest slot' _ _ _ trace =>
    one (bit = .firstSecurityRequests ∧ slot' = slot ∧ trace = true)
  | .hidSubscribed slot' => one (bit = .firstSubscriptions ∧ slot' = slot)
  | .hidFirstAttempt slot' _ => one (bit = .firstAttempts ∧ slot' = slot)
  | .hidTxResult slot' err => one (bit = .firstErrors ∧ slot' = slot ∧ err ≠ 0)
  | _ => 0

/-- What is owed in all: a completion asked for is owed by `hog.c`. -/
def owed (s : HidConnection slots) (bit : LinkBit) (slot : Fin slots) : Nat :=
  weigh (Call.owes bit slot) s.calls +
    if bit = .trackedSends then s.shared.inFlight slot else 0

/-- What makes a bit be cleared: a connection, a disconnection, or a failed send. -/
def Obs.causes (bit : LinkBit) (slot : Fin slots) : Obs slots → Nat
  | .connected slot' => one (slot' = slot ∧ bit ∈ connectedBits)
  | .disconnected slot' => one (slot' = slot ∧ bit = .firstSecurityRequests)
  | .resulted slot' err => one (slot' = slot ∧ bit = .trackedSends ∧ err ≠ 0)
  | _ => 0

/-- A call that has yet to clear it. -/
def Call.clears (bit : LinkBit) (slot : Fin slots) : Call slots → Nat
  | .result slot' err => one (slot' = slot ∧ bit = .trackedSends ∧ err ≠ 0)
  | .connHandle slot' => one (slot' = slot ∧ bit ∈ connectedBits)
  | .clearBits slot' bits => if slot' = slot then bits.count bit else 0
  | _ => 0

section Steps

variable {s : Shared slots} {h : List (Obs slots)} {call : Call slots}

theorem ops_append (bit : LinkBit) (slot : Fin slots) (h h' : List (Obs slots)) :
    ops bit slot (h ++ h') = ops bit slot h ++ ops bit slot h' :=
  List.filterMap_append

@[simp] theorem Shared.put_bits (s : Shared slots) (bit bit' : LinkBit) (slot slot' : Fin slots)
    (value : Bool) :
    (s.put bit slot value).bits bit' slot' =
      if bit' = bit ∧ slot' = slot then value else s.bits bit' slot' := by
  unfold Shared.put
  by_cases hbit : bit' = bit
  · subst hbit
    by_cases hslot : slot' = slot <;> simp [hslot]
  · simp [hbit]

/-- The operations shown go on from the bits there were to those there are. -/
def Continues (s : Shared slots) (o : Option (Obs slots)) (s' : Shared slots) : Prop :=
  ∀ bit slot ops', Flags.Coherent ops' (s.bits bit slot) →
    Flags.Coherent (ops bit slot o.toList ++ ops') (s'.bits bit slot)

theorem Shared.testAndSet_continues (s : Shared slots) (bit : LinkBit) (slot : Fin slots) :
    Continues s (s.testAndSet bit slot).2 (s.testAndSet bit slot).1 := by
  intro bit' slot' ops' h
  by_cases he : bit' = bit ∧ slot' = slot
  · obtain ⟨rfl, rfl⟩ := he
    simpa [Shared.testAndSet, ops] using h.testAndSet
  · have hne : ¬(bit = bit' ∧ slot = slot') := fun hc => he ⟨hc.1.symm, hc.2.symm⟩
    simpa [Shared.testAndSet, ops, he, hne] using h

theorem Shared.clearBit_continues (s : Shared slots) (bit : LinkBit) (slot : Fin slots) :
    Continues s (s.clearBit bit slot).2 (s.clearBit bit slot).1 := by
  intro bit' slot' ops' h
  by_cases he : bit' = bit ∧ slot' = slot
  · obtain ⟨rfl, rfl⟩ := he
    simpa [Shared.clearBit, ops] using h.clear
  · have hne : ¬(bit = bit' ∧ slot = slot') := fun hc => he ⟨hc.1.symm, hc.2.symm⟩
    simpa [Shared.clearBit, ops, he, hne] using h

theorem Continues.quiet {o : Option (Obs slots)} (h : ∀ bit slot, ops bit slot o.toList = []) :
    Continues s o s := by
  intro bit slot ops' hops
  rw [h]
  exact hops

theorem Call.step_continues (a : Answers) (s : Shared slots) (call : Call slots) :
    Continues s (call.step a s).1.2 (call.step a s).1.1 := by
  cases call with
  | setSecurity slot _ | subscription slot | firstAttempt slot _ | trackSend slot
  | firstError slot _ => exact s.testAndSet_continues _ slot
  | result slot err =>
    by_cases herr : err = 0
    · simpa [Call.step, herr] using Continues.quiet fun _ _ => rfl
    · simpa [Call.step, herr] using s.clearBit_continues .trackedSends slot
  | clearBits slot bits =>
    cases bits with
    | nil => exact Continues.quiet fun _ _ => rfl
    | cons bit bits => exact s.clearBit_continues bit slot
  | secRequest _ _ _ _ trace | secRequestResult _ _ _ _ trace _ =>
    cases trace <;> exact Continues.quiet fun _ _ => rfl
  | connHandle slot =>
    refine Continues.quiet fun _ _ => ?_
    cases hhandle : a.handle <;> simp [Call.step, ops, hhandle]
  | _ => exact Continues.quiet fun _ _ => rfl

theorem ops_testAndSet (s : Shared slots) (bit bit' : LinkBit) (slot slot' : Fin slots) :
    ops bit' slot' (s.testAndSet bit slot).2.toList =
      if bit = bit' ∧ slot = slot' then [.testAndSet (s.bits bit slot)] else [] := by
  by_cases he : bit = bit' ∧ slot = slot' <;> simp [Shared.testAndSet, ops, he]

theorem ops_clearBit (s : Shared slots) (bit bit' : LinkBit) (slot slot' : Fin slots) :
    ops bit' slot' (s.clearBit bit slot).2.toList =
      if bit = bit' ∧ slot = slot' then [.clear (s.bits bit slot)] else [] := by
  by_cases he : bit = bit' ∧ slot = slot' <;> simp [Shared.clearBit, ops, he]

/-- The bit was clear, and the call has what it pays for to do. -/
theorem wins_testAndSet (s : Shared slots) (bit bit' : LinkBit) (slot slot' : Fin slots) :
    Flags.wins (ops bit' slot' (s.testAndSet bit slot).2.toList) =
      one (bit' = bit ∧ slot = slot' ∧ s.bits bit slot = false) := by
  rw [ops_testAndSet]
  by_cases he : bit = bit' ∧ slot = slot'
  · cases hbit : s.bits bit slot <;> simp [he, Flags.wins, one]
  · have hne : ¬(bit' = bit ∧ slot = slot' ∧ s.bits bit slot = false) :=
      fun hc => he ⟨hc.1.symm, hc.2.1⟩
    simp [he, hne, one]

theorem wins_clearBit (s : Shared slots) (bit bit' : LinkBit) (slot slot' : Fin slots) :
    Flags.wins (ops bit' slot' (s.clearBit bit slot).2.toList) = 0 := by
  rw [ops_clearBit]
  by_cases he : bit = bit' ∧ slot = slot' <;> simp [he, Flags.wins]

theorem clears_testAndSet (s : Shared slots) (bit bit' : LinkBit) (slot slot' : Fin slots) :
    (ops bit' slot' (s.testAndSet bit slot).2.toList).countP Flags.Op.clears = 0 := by
  rw [ops_testAndSet]
  by_cases he : bit = bit' ∧ slot = slot' <;> simp [he, Flags.Op.clears]

theorem clears_clearBit (s : Shared slots) (bit bit' : LinkBit) (slot slot' : Fin slots) :
    (ops bit' slot' (s.clearBit bit slot).2.toList).countP Flags.Op.clears =
      one (slot = slot' ∧ bit' = bit) := by
  rw [ops_clearBit]
  by_cases he : bit = bit' ∧ slot = slot'
  · simp [he, Flags.Op.clears, one]
  · have hne : ¬(slot = slot' ∧ bit' = bit) := fun hc => he ⟨hc.2.symm, hc.1⟩
    simp [he, hne, one]

theorem pays_testAndSet (s : Shared slots) (bit bit' : LinkBit) (slot slot' : Fin slots) :
    weigh (Obs.pays bit' slot') (s.testAndSet bit slot).2.toList = 0 ∧
      weigh (Obs.causes bit' slot') (s.testAndSet bit slot).2.toList = 0 := ⟨rfl, rfl⟩

theorem pays_clearBit (s : Shared slots) (bit bit' : LinkBit) (slot slot' : Fin slots) :
    weigh (Obs.pays bit' slot') (s.clearBit bit slot).2.toList = 0 ∧
      weigh (Obs.causes bit' slot') (s.clearBit bit slot).2.toList = 0 := ⟨rfl, rfl⟩

/-- What a call wins it pays, owes, or has `hog.c` owe. -/
theorem Call.step_paid (a : Answers) (s : Shared slots) (call : Call slots) (bit : LinkBit)
    (slot : Fin slots) (h : ∀ slot' err, call = .firstError slot' err → err ≠ 0) :
    Flags.wins (ops bit slot (call.step a s).1.2.toList) + call.owes bit slot +
        (if bit = .trackedSends then s.inFlight slot else 0) =
      weigh (Obs.pays bit slot) (call.step a s).1.2.toList +
        weigh (Call.owes bit slot) (call.step a s).2.toList +
        if bit = .trackedSends then (call.step a s).1.1.inFlight slot else 0 := by
  cases call with
  | setSecurity slot' sec =>
    simp only [Call.step, wins_testAndSet, pays_testAndSet]
    simp [Call.owes, weigh, Shared.testAndSet, Shared.put]
  | subscription slot' =>
    simp only [Call.step, wins_testAndSet, pays_testAndSet]
    cases hbit : s.bits .firstSubscriptions slot' <;>
      simp [Call.owes, weigh, Shared.testAndSet, Shared.put, one]
  | attempted slot' subscribed => simp [Call.step, ops, weigh, Obs.pays, Call.owes]
  | firstAttempt slot' subscribed =>
    simp only [Call.step, wins_testAndSet, pays_testAndSet]
    cases hbit : s.bits .firstAttempts slot' <;>
      simp [Call.owes, weigh, Shared.testAndSet, Shared.put, one]
  | trackSend slot' =>
    simp only [Call.step, wins_testAndSet, pays_testAndSet]
    by_cases hbit : bit = .trackedSends
    · subst hbit
      cases hset : s.bits .trackedSends slot' <;> by_cases hslot : slot = slot'
      · subst hslot
        simp [Call.owes, weigh, one, Nat.add_comm]
      · have hne : slot' ≠ slot := fun he => hslot he.symm
        simp [Call.owes, weigh, one, hslot, hne]
      · simp [Call.owes, weigh, one]
      · simp [Call.owes, weigh, one]
    · simp [Call.owes, weigh, one, hbit]
  | firstError slot' err =>
    have herr : err ≠ 0 := h slot' err rfl
    simp only [Call.step, wins_testAndSet, pays_testAndSet]
    cases hbit : s.bits .firstErrors slot' <;>
      simp [Call.owes, weigh, Shared.testAndSet, Shared.put, one, herr]
  | result slot' err =>
    by_cases herr : err = 0
    · simp [Call.step, herr, ops, weigh, Call.owes, one]
    · simp only [Call.step, herr, ne_eq, not_false_eq_true, if_true, wins_clearBit, pays_clearBit]
      simp [Call.owes, weigh, Shared.clearBit, Shared.put]
  | clearBits slot' bits =>
    cases bits with
    | nil => simp [Call.step, ops, weigh, Call.owes]
    | cons bit' bits =>
      simp only [Call.step, wins_clearBit, pays_clearBit]
      simp [Call.owes, weigh, Shared.clearBit, Shared.put]
  | secRequest slot' sec idx active trace =>
    have htype : totemHevtSecRequest ≠ totemHevtHidFirstAttempt ∧
        totemHevtSecRequest ≠ totemHevtHidSubscribed ∧
        totemHevtSecRequest ≠ totemHevtHidTxResult := by decide
    cases trace <;> cases bit <;>
      simp [Call.step, ops, weigh, Call.owes, Obs.pays, one, htype]
  | realSetSecurity slot' sec idx active trace => simp [Call.step, ops, weigh, Call.owes]
  | secRequestResult slot' sec idx active trace err =>
    have htype : totemHevtSecRequestResult ≠ totemHevtHidFirstAttempt ∧
        totemHevtSecRequestResult ≠ totemHevtHidSubscribed ∧
        totemHevtSecRequestResult ≠ totemHevtHidTxResult ∧
        totemHevtSecRequestResult ≠ totemHevtSecRequest := by decide
    cases trace <;> cases bit <;>
      simp [Call.step, ops, weigh, Call.owes, Obs.pays, one, htype]
  | hidSubscribed slot' =>
    have htype : totemHevtHidSubscribed ≠ totemHevtHidFirstAttempt ∧
        totemHevtHidSubscribed ≠ totemHevtHidTxResult ∧
        totemHevtHidSubscribed ≠ totemHevtSecRequest := by decide
    cases bit <;> simp [Call.step, ops, weigh, Call.owes, Obs.pays, one, htype]
  | hidFirstAttempt slot' subscribed =>
    have htype : totemHevtHidFirstAttempt ≠ totemHevtHidSubscribed ∧
        totemHevtHidFirstAttempt ≠ totemHevtHidTxResult ∧
        totemHevtHidFirstAttempt ≠ totemHevtSecRequest := by decide
    cases bit <;> simp [Call.step, ops, weigh, Call.owes, Obs.pays, one, htype]
  | hidTxResult slot' err =>
    have htype : totemHevtHidTxResult ≠ totemHevtHidFirstAttempt ∧
        totemHevtHidTxResult ≠ totemHevtHidSubscribed ∧
        totemHevtHidTxResult ≠ totemHevtSecRequest := by decide
    by_cases herr : err = 0 <;> cases bit <;>
      simp [Call.step, ops, weigh, Call.owes, Obs.pays, one, htype, herr]
  | connHandle slot' =>
    cases hhandle : a.handle <;> simp [Call.step, ops, weigh, Call.owes, Obs.pays, hhandle]

/-- What a call had to clear it has cleared, or has yet to. -/
theorem Call.step_cleared (a : Answers) (s : Shared slots) (call : Call slots) (bit : LinkBit)
    (slot : Fin slots) :
    (ops bit slot (call.step a s).1.2.toList).countP Flags.Op.clears +
        weigh (Call.clears bit slot) (call.step a s).2.toList =
      call.clears bit slot + weigh (Obs.causes bit slot) (call.step a s).1.2.toList := by
  cases call with
  | setSecurity slot' _ | trackSend slot' =>
    simp only [Call.step, clears_testAndSet, pays_testAndSet]
    rfl
  | firstAttempt slot' _ =>
    simp only [Call.step, clears_testAndSet, pays_testAndSet]
    cases s.bits .firstAttempts slot' <;> rfl
  | subscription slot' =>
    simp only [Call.step, clears_testAndSet, pays_testAndSet]
    cases s.bits .firstSubscriptions slot' <;> rfl
  | firstError slot' _ =>
    simp only [Call.step, clears_testAndSet, pays_testAndSet]
    cases s.bits .firstErrors slot' <;> rfl
  | result slot' err =>
    by_cases herr : err = 0
    · simp [Call.step, herr, ops, weigh, Call.clears, one]
    · simp only [Call.step, herr, ne_eq, not_false_eq_true, if_true, clears_clearBit, pays_clearBit]
      simp [Call.clears, weigh, herr]
  | clearBits slot' bits =>
    cases bits with
    | nil => simp [Call.step, ops, weigh, Call.clears]
    | cons bit' bits =>
      simp only [Call.step, clears_clearBit, pays_clearBit]
      by_cases hslot : slot' = slot
      · by_cases hbit : bit = bit'
        · simp [Call.clears, weigh, hslot, hbit, one, Nat.add_comm]
        · simp [Call.clears, weigh, hslot, hbit, one, List.count_cons_of_ne (Ne.symm hbit)]
      · simp [Call.clears, weigh, hslot, one]
  | secRequest _ _ _ _ trace | secRequestResult _ _ _ _ trace _ =>
    cases trace <;> simp [Call.step, ops, weigh, Call.clears, Obs.causes]
  | connHandle slot' =>
    have hcount : connectedBits.count bit = one (bit ∈ connectedBits) := by
      cases bit <;> rfl
    cases hhandle : a.handle <;>
      by_cases hslot : slot' = slot <;>
      simp [Call.step, ops, hhandle, weigh, Obs.causes, Call.clears, hcount, hslot, one]
  | _ => simp [Call.step, ops, weigh, Call.clears, Obs.causes]

end Steps

/-! ## What a run keeps -/

/-- What holds of a history and the state it leads to. -/
structure Inv (h : List (Obs slots)) (s : HidConnection slots) : Prop where
  coherent : ∀ bit slot, Flags.Coherent (ops bit slot h) (s.shared.bits bit slot)
  paid : ∀ bit slot,
    Flags.wins (ops bit slot h) = weigh (Obs.pays bit slot) h + s.owed bit slot
  cleared : ∀ bit slot,
    (ops bit slot h).countP Flags.Op.clears + weigh (Call.clears bit slot) s.calls =
      weigh (Obs.causes bit slot) h
  failed : ∀ slot err, .firstError slot err ∈ s.calls → err ≠ 0

theorem inv_boot₀ (slots : Nat) : Inv [] (boot₀ slots) where
  coherent := fun _ _ => .nil
  paid := by
    intro bit slot
    cases bit <;> rfl
  cleared := fun _ _ => rfl
  failed := by simp [boot₀]

theorem Call.step_failed (a : Answers) (s : Shared slots) {call : Call slots} {slot : Fin slots}
    {err : Int} (h : .firstError slot err ∈ (call.step a s).2) : err ≠ 0 := by
  cases call with
  | result slot' err' =>
    by_cases herr : err' = 0
    · simp [Call.step, herr] at h
    · simp only [Call.step, herr, ne_eq, not_false_eq_true, if_true, Option.mem_some_iff,
        Call.firstError.injEq] at h
      rw [← h.2]
      exact herr
  | clearBits slot' bits => cases bits <;> simp [Call.step] at h
  | subscription slot' => cases hbit : s.bits .firstSubscriptions slot' <;> simp [Call.step, hbit] at h
  | firstAttempt slot' _ => cases hbit : s.bits .firstAttempts slot' <;> simp [Call.step, hbit] at h
  | firstError slot' err' => cases hbit : s.bits .firstErrors slot' <;> simp [Call.step, hbit] at h
  | _ => simp [Call.step] at h

/-- A call that starts has won nothing yet, and clears what its callback is for. -/
theorem Inv.start {h : List (Obs slots)} {s : HidConnection slots} (hi : Inv h s)
    {call : Call slots} {o : Option (Obs slots)} (hops : ∀ bit slot, ops bit slot o.toList = [])
    (hpays : ∀ bit slot, weigh (Obs.pays bit slot) o.toList = 0)
    (howes : ∀ bit slot, call.owes bit slot = 0)
    (hclears : ∀ bit slot, call.clears bit slot = weigh (Obs.causes bit slot) o.toList)
    (hfailed : ∀ slot err, call ≠ .firstError slot err) :
    Inv (o.toList ++ h) { s with calls := call :: s.calls } where
  coherent := by
    intro bit slot
    rw [ops_append, hops]
    exact hi.coherent bit slot
  paid := by
    intro bit slot
    rw [ops_append, hops, weigh_append, hpays]
    simpa [owed, weigh_cons, howes] using hi.paid bit slot
  cleared := by
    intro bit slot
    have hcleared := hi.cleared bit slot
    rw [ops_append, hops, weigh_append, ← hclears, ← hcleared]
    simp [weigh_cons, Nat.add_left_comm]
  failed := by
    intro slot err hm
    obtain heq | hm := List.mem_cons.mp hm
    · exact absurd heq.symm (hfailed slot err)
    · exact hi.failed slot err hm

theorem Inv.step {h : List (Obs slots)} {s s' : HidConnection slots} {o : Option (Obs slots)}
    (hi : Inv h s) (hs : Step s o s') : Inv (o.toList ++ h) s' := by
  cases hs with
  | setSecurity slot sec | subscription slot | attempted slot subscribed =>
    exact hi.start (o := .none) (fun _ _ => rfl) (fun _ _ => rfl) (fun _ _ => rfl) (fun _ _ => rfl)
      (fun _ _ => nofun)
  | connected slot =>
    exact hi.start (o := .some (.connected slot)) (fun _ _ => rfl) (fun _ _ => rfl)
      (fun _ _ => rfl) (fun _ _ => rfl) (fun _ _ => nofun)
  | disconnected slot =>
    refine hi.start (o := .some (.disconnected slot)) (fun _ _ => rfl) (fun _ _ => rfl)
      (fun _ _ => rfl) (fun bit slot' => ?_) (fun _ _ => nofun)
    by_cases hslot : slot = slot' <;> cases bit <;>
      simp [Call.clears, Obs.causes, weigh, one, hslot]
  | result slot err hflight =>
    -- The completion is no longer owed by `hog.c`, and the rest is a call that starts.
    refine ⟨hi.coherent, ?_, ?_, ?_⟩
    · intro bit slot'
      have hpaid := hi.paid bit slot'
      by_cases hbit : bit = .trackedSends
      · subst hbit
        rw [show ops .trackedSends slot' ((Option.some (Obs.resulted slot err)).toList ++ h) =
          ops .trackedSends slot' h from rfl, hpaid]
        by_cases hslot : slot' = slot
        · subst hslot
          simp [owed, weigh_cons, Obs.pays, Call.owes, one]
          omega
        · have hne : slot ≠ slot' := fun he => hslot he.symm
          simp [owed, weigh_cons, Obs.pays, Call.owes, one, hslot, hne]
      · rw [show ops bit slot' ((Option.some (Obs.resulted slot err)).toList ++ h) =
          ops bit slot' h from rfl, hpaid]
        simp [owed, weigh_cons, Obs.pays, Call.owes, one, hbit]
    · intro bit slot'
      have hcleared := hi.cleared bit slot'
      rw [weigh_append, ← hcleared]
      simp [ops, Call.clears, Obs.causes, weigh, Nat.add_left_comm]
    · intro slot' err' hm
      obtain heq | hm := List.mem_cons.mp hm
      · cases heq
      · exact hi.failed slot' err' hm
  | advertising active stage err =>
    refine ⟨hi.coherent, fun bit slot => ?_, fun bit slot => ?_, hi.failed⟩
    · exact (hi.paid bit slot).trans (congrArg (· + _) (Nat.zero_add _).symm)
    · exact (hi.cleared bit slot).trans (Nat.zero_add _).symm
  | @call before call after a hcalls =>
    have hmem : call ∈ s.calls := by simp [hcalls]
    refine ⟨?_, ?_, ?_, ?_⟩
    · intro bit slot
      rw [ops_append]
      exact call.step_continues a s.shared bit slot _ (hi.coherent bit slot)
    · intro bit slot
      have hpaid := hi.paid bit slot
      have hstep := call.step_paid a s.shared bit slot fun slot' err he =>
        hi.failed slot' err (he ▸ hmem)
      rw [owed, hcalls, weigh_append, weigh_cons] at hpaid
      rw [ops_append, Flags.wins_append, weigh_append, owed]
      dsimp only
      rw [weigh_append, weigh_append]
      omega
    · intro bit slot
      have hcleared := hi.cleared bit slot
      have hstep := call.step_cleared a s.shared bit slot
      rw [hcalls, weigh_append, weigh_cons] at hcleared
      rw [ops_append, List.countP_append, weigh_append (Obs.causes bit slot)]
      dsimp only
      rw [weigh_append, weigh_append]
      omega
    · intro slot err hm
      simp only [List.mem_append, Option.mem_toList] at hm
      obtain (hm | hm) | hm := hm
      · exact hi.failed slot err (by simp [hcalls, hm])
      · exact call.step_failed a s.shared hm
      · exact hi.failed slot err (by simp [hcalls, hm])

theorem inv_run {h : List (Obs slots)} {s : HidConnection slots}
    (hr : Run Step (boot₀ slots) h s) : Inv h s :=
  hr.invariant (inv_boot₀ slots) Inv.step

/-- A bit is won no more than it was cleared, and once. -/
theorem Inv.wins_le {h : List (Obs slots)} {s : HidConnection slots} (hi : Inv h s)
    (bit : LinkBit) (slot : Fin slots) :
    weigh (Obs.pays bit slot) h + s.owed bit slot ≤ weigh (Obs.causes bit slot) h + 1 := by
  have hwins := (hi.coherent bit slot).wins_eq
  have hresets := Flags.resets_le_clears (ops bit slot h)
  have hbit := Bool.toNat_le (s.shared.bits bit slot)
  have hpaid := hi.paid bit slot
  have hcleared := hi.cleared bit slot
  omega

/-- The link came up. -/
def Obs.comesUp (slot : Fin slots) : Obs slots → Nat
  | .connected slot' => one (slot' = slot)
  | _ => 0

/-- A report got through. -/
def Obs.succeeds (slot : Fin slots) : Obs slots → Nat
  | .resulted slot' err => one (slot' = slot ∧ err = 0)
  | _ => 0

/-- What clears the bit of the completions is a link that comes up, or a result
that is no success. -/
theorem causes_trackedSends (slot : Fin slots) (h : List (Obs slots)) :
    weigh (Obs.causes .trackedSends slot) h + weigh (Obs.succeeds slot) h =
      weigh (Obs.comesUp slot) h + weigh (Obs.pays .trackedSends slot) h := by
  induction h with
  | nil => rfl
  | cons o h ih =>
    simp only [weigh_cons]
    have hone : o.causes .trackedSends slot + o.succeeds slot =
        o.comesUp slot + o.pays .trackedSends slot := by
      cases o with
      | resulted slot' err =>
        by_cases herr : err = 0 <;>
          simp [Obs.causes, Obs.succeeds, Obs.comesUp, Obs.pays, one, herr]
      | connected slot' => simp [Obs.causes, Obs.succeeds, Obs.comesUp, Obs.pays, one, connectedBits]
      | _ => simp [Obs.causes, Obs.succeeds, Obs.comesUp, Obs.pays, one]
    omega

end HidConnection

open HidConnection in
/-- **What is first on a link is recorded once.** On any connection slot, and
however the callbacks interleave, each time a bit is won there is one record of
it, or one about to be made; between two clears of the bit it is won at most
once; and there is no more of it than one, and one more for each callback that
clears it. -/
theorem hid_link_once {slots : Nat} {h : List (HidConnection.Obs slots)} {s : HidConnection slots}
    (hr : Run HidConnection.Step (boot₀ slots) h s) (bit : LinkBit) (slot : Fin slots) :
    Flags.wins (ops bit slot h) = Pipeline.weigh (HidConnection.Obs.pays bit slot) h + s.owed bit slot ∧
    (∀ later between earlier, h = later ++ (between ++ earlier) →
      (∀ op ∈ ops bit slot between, op.clears = false) → Flags.wins (ops bit slot between) ≤ 1) ∧
    Pipeline.weigh (HidConnection.Obs.pays bit slot) h + s.owed bit slot ≤
      Pipeline.weigh (HidConnection.Obs.causes bit slot) h + 1 := by
  have hi := inv_run hr
  refine ⟨hi.paid bit slot, ?_, hi.wins_le bit slot⟩
  intro later between earlier he hno
  have hall := hi.coherent bit slot
  rw [he, ops_append, ops_append] at hall
  obtain ⟨value, hpart⟩ := hall.split
  exact hpart.wins_le_one hno

theorem HidConnection.Step.last {slots : Nat} {s : HidConnection slots} {call : Call slots}
    {calls : List (Call slots)} (a : Answers) (h : s.calls = call :: calls) :
    HidConnection.Step s (call.step a s.shared).1.2
      { s with
        shared := (call.step a s.shared).1.1
        calls := (call.step a s.shared).2.toList ++ calls } := by
  have hcalls : s.calls = [] ++ call :: calls := h
  exact .call a hcalls

/-- The answers for profile 1, selected, on an encrypted link. -/
def profileOne : HidConnection.Answers := ⟨1, 1, 2, 0, .some 7⟩

theorem hid_link_once_press : ∃ (h : List (HidConnection.Obs 4)) (s : HidConnection 4),
    Run HidConnection.Step (HidConnection.boot₀ 4) h s ∧
      Pipeline.weigh (HidConnection.Obs.pays .firstAttempts 0) h = 1 ∧
      Flags.wins (HidConnection.ops .firstAttempts 0 h) =
        Pipeline.weigh (HidConnection.Obs.pays .firstAttempts 0) h + s.owed .firstAttempts 0 := by
  have hbegun : Run HidConnection.Step (HidConnection.boot₀ 4) [] _ :=
    Run.refl.quiet (.attempted 0 true)
  have hwon := (hbegun.step (.last profileOne rfl)).step (.last profileOne rfl)
  have hrecorded := hwon.step (.last profileOne rfl)
  exact ⟨_, _, hrecorded, rfl, (hid_link_once hrecorded .firstAttempts 0).1⟩

open HidConnection in
/-- **One completion, until a report gets through.** However reports, results
and connections interleave, the completions asked for and not reported, with
the successes, are no more than one, and one more for each connection. -/
theorem hid_completion_once {slots : Nat} {h : List (HidConnection.Obs slots)} {s : HidConnection slots}
    (hr : Run HidConnection.Step (boot₀ slots) h s) (slot : Fin slots) :
    s.shared.inFlight slot + Pipeline.weigh (HidConnection.Obs.succeeds slot) h ≤
      Pipeline.weigh (HidConnection.Obs.comesUp slot) h + 1 := by
  have hle := (inv_run hr).wins_le .trackedSends slot
  have hcauses := causes_trackedSends slot h
  have howed : s.shared.inFlight slot ≤ s.owed .trackedSends slot := Nat.le_add_left _ _
  omega

theorem hid_completion_once_press : ∃ (h : List (HidConnection.Obs 4)) (s : HidConnection 4),
    Run HidConnection.Step (HidConnection.boot₀ 4) h s ∧
      Pipeline.weigh (HidConnection.Obs.succeeds 0) h = 1 ∧
      s.shared.inFlight 0 + Pipeline.weigh (HidConnection.Obs.succeeds 0) h ≤
        Pipeline.weigh (HidConnection.Obs.comesUp 0) h + 1 := by
  have hbegun : Run HidConnection.Step (HidConnection.boot₀ 4) [] _ :=
    Run.refl.quiet (.attempted 0 true)
  have hwon := (hbegun.step (.last profileOne rfl)).step (.last profileOne rfl)
  have hsent := (hwon.step (.last profileOne rfl)).step (.last profileOne rfl)
  have hresulted := hsent.shows (.result 0 0 (by decide))
  exact ⟨_, _, hresulted, rfl, hid_completion_once hresulted 0⟩

end TotemZmk
