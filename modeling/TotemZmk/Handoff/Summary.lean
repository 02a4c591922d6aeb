/-
The observers of `handoff_diagnostics.c`, one critical section at a time: what
each of `CONFIG_BT_MAX_CONN` handles has counted since the keyboard asked for
its disconnection, and the records `totem_handoff_disconnected` makes of it.

`__wrap_bt_conn_disconnect` takes the lock twice, to arm and to disarm, and
anything may happen while the host stack has the call.

* `handoff_summary_exact`: the records are those of the observations since the
  arming request in force, and of nothing else.
* `Handoff.Faithful.step`: what each entry point does to its handle.
-/
import TotemZmk.Journal.Timing
import TotemZmk.Lib.Run
import Mathlib.Algebra.GroupWithZero.Nat
import Mathlib.Logic.Function.Basic

namespace TotemZmk

open Trace (Run)

def totemHevtHandoffParam : UInt8 := 33
def totemHevtHandoffTerm : UInt8 := 34
def totemHevtHandoffRadio : UInt8 := 35
def totemHevtHandoffTx : UInt8 := 39

/-- `CONFIG_BT_MAX_CONN`, `CONFIG_BT_CTLR_LE_ENC` and
`CONFIG_BT_CTLR_CONN_META`. -/
structure HandoffConfig where
  maxConn : Nat
  leEnc : Bool
  connMeta : Bool
deriving DecidableEq, Repr

/-- `struct handoff_radio` -/
structure HandoffRadio where
  armed : Bool
  rxKnown : Bool
  firstBad : Bool
  lastRx : UInt32
  done : UInt16
  bad : UInt16
  aborted : UInt16
  skipped : UInt16
  rxPackets : UInt16
  noRx : UInt16
  invalidRx : UInt16
  micPass : UInt16
  micFail : UInt16
  txSetups : UInt16
  txCompleted : UInt16
  txUncompleted : UInt16
  firstTxSetup : UInt32
  firstTxEnd : UInt32
  lastTxEnd : UInt32
deriving DecidableEq, Repr

/-- `(struct handoff_radio){0}` -/
def HandoffRadio.zero : HandoffRadio :=
  ⟨false, false, false, 0, 0, 0, 0, 0, 0, 0, 0, 0, 0, 0, 0, 0, 0, 0, 0⟩

/-- `LLL_CONN_MIC_NONE`, `LLL_CONN_MIC_PASS` and `LLL_CONN_MIC_FAIL` -/
inductive MicState where
  | none
  | pass
  | fail
deriving DecidableEq, Repr

/-- What `__wrap_ull_conn_done` reads of a connection event. -/
structure EventDone where
  peripheral : Bool
  crcValid : Bool
  isAborted : Bool
  trxCnt : UInt16
  micState : MicState
  lazyPrepare : UInt16
  latencyEvent : UInt16
  isMustExpire : Bool
deriving DecidableEq, Repr

/-- What `__wrap_bt_conn_disconnect` asks, and is told. -/
structure DisconnectRequest where
  infoErr : Int
  le : Bool
  peripheral : Bool
  connected : Bool
  usbPowered : Bool
  profile : Int
  activeProfile : Int
  handleErr : Int
  handle : UInt16
  interval : UInt16
  latency : UInt16
  timeout : UInt16
  reason : UInt8
deriving DecidableEq, Repr

namespace Handoff

/-- `capture` -/
def capture (time : UInt32) (type : UInt8) (handle : UInt16) (stage low high : UInt8) :
    TimingRecord :=
  ⟨time, type, handle.toUInt8.toInt8, (handle >>> 8).toUInt8.toInt8, stage, low, high⟩

/-- `capture_value`, at the time it reads. -/
def captureValue (now : UInt32) (type : UInt8) (handle : UInt16) (stage : UInt8)
    (value : UInt16) : TimingRecord :=
  capture now type handle stage value.toUInt8 (value >>> 8).toUInt8

/-- `add_count` -/
def addCount (value : UInt16) (count : UInt32) : UInt16 :=
  (min (value.toUInt32 + count) 65535).toUInt16

end Handoff

namespace EventDone

/-- `valid` -/
def valid (d : EventDone) : Bool := d.crcValid && !d.isAborted

/-- The events the connection let pass. -/
def skipped (cfg : HandoffConfig) (d : EventDone) : UInt32 :=
  d.lazyPrepare.toUInt32 +
    (if cfg.connMeta && d.isMustExpire then 0 else d.latencyEvent.toUInt32)

end EventDone

namespace HandoffRadio

open Handoff (addCount)

/-- `totem_handoff_tx_setup`, in the lock. -/
def txSetup (now : UInt32) (radio : HandoffRadio) : HandoffRadio :=
  if radio.armed then
    { radio with
      firstTxSetup := if radio.txSetups = 0 then now else radio.firstTxSetup
      txSetups := addCount radio.txSetups 1 }
  else radio

/-- `totem_handoff_tx_result`, in the lock. -/
def txResult (completed : Bool) (now : UInt32) (radio : HandoffRadio) : HandoffRadio :=
  if radio.armed then
    if completed then
      { radio with
        firstTxEnd := if radio.txCompleted = 0 then now else radio.firstTxEnd
        lastTxEnd := now
        txCompleted := addCount radio.txCompleted 1 }
    else { radio with txUncompleted := addCount radio.txUncompleted 1 }
  else radio

/-- `__wrap_bt_conn_disconnect`, in its first lock. -/
def arm (previous : HandoffRadio) : HandoffRadio :=
  { zero with armed := true, rxKnown := previous.rxKnown, lastRx := previous.lastRx }

/-- What `__wrap_ull_conn_done` notes of a valid packet. -/
def noteRx (d : EventDone) (now : UInt32) (radio : HandoffRadio) : HandoffRadio :=
  if d.valid then { radio with rxKnown := true, lastRx := now } else radio

/-- What it counts. -/
def countDone (cfg : HandoffConfig) (d : EventDone) (radio : HandoffRadio) : HandoffRadio :=
  { radio with
    done := addCount radio.done 1
    bad := addCount radio.bad (!d.valid).toUInt32
    aborted := addCount radio.aborted d.isAborted.toUInt32
    rxPackets := addCount radio.rxPackets d.trxCnt.toUInt32
    noRx := addCount radio.noRx (!d.isAborted && d.trxCnt = 0).toUInt32
    invalidRx := addCount radio.invalidRx (!d.isAborted && d.trxCnt ≠ 0 && !d.crcValid).toUInt32
    micPass :=
      if cfg.leEnc then addCount radio.micPass (d.micState = .pass : Bool).toUInt32
      else radio.micPass
    micFail :=
      if cfg.leEnc then addCount radio.micFail (d.micState = .fail : Bool).toUInt32
      else radio.micFail
    skipped := addCount radio.skipped (d.skipped cfg)
    firstBad := radio.firstBad || !d.valid }

/-- `__wrap_ull_conn_done`, in the lock. -/
def connDone (cfg : HandoffConfig) (d : EventDone) (now : UInt32) (radio : HandoffRadio) :
    HandoffRadio :=
  let radio := radio.noteRx d now
  if radio.armed then radio.countDone cfg d else radio

/-- The event is the first bad one (`first_bad`). -/
def showsFirstBad (d : EventDone) (radio : HandoffRadio) : Bool :=
  radio.armed && !d.valid && !radio.firstBad

end HandoffRadio

/-- `radios`, of which those below `CONFIG_BT_MAX_CONN` are there, and the
handles of the calls that armed one and have not returned. -/
structure Handoff where
  radios : UInt16 → HandoffRadio
  disconnecting : List UInt16

namespace Handoff

/-- What happened, in the order of the critical sections. -/
inductive Act where
  | connected (handle : UInt16)
  /-- A request for the disconnection armed the handle. -/
  | armed (handle : UInt16)
  | accepted (handle : UInt16)
  | failed (handle : UInt16)
  | done (handle : UInt16) (d : EventDone) (now : UInt32)
  | txSetup (handle : UInt16) (now : UInt32)
  | txResult (handle : UInt16) (completed : Bool) (now : UInt32)
  | disconnected (handle : UInt16)
deriving DecidableEq, Repr

/-- With the records captured for it. -/
structure Obs where
  act : Act
  records : List TimingRecord
deriving DecidableEq, Repr

/-- At power-up. -/
def boot₀ : Handoff := ⟨fun _ => .zero, []⟩

/-- An entry point with nothing to do for a handle out of range. -/
def onRadio (cfg : HandoffConfig) (s : Handoff) (handle : UInt16)
    (f : HandoffRadio → HandoffRadio) : Handoff :=
  if handle.toNat < cfg.maxConn then
    { s with radios := Function.update s.radios handle (f (s.radios handle)) }
  else s

/-- The condition under which `__wrap_bt_conn_disconnect` arms. -/
def Arms (cfg : HandoffConfig) (r : DisconnectRequest) : Prop :=
  r.infoErr = 0 ∧ r.le = true ∧ r.peripheral = true ∧ r.connected = true ∧
    r.usbPowered = false ∧ 0 ≤ r.profile ∧ r.profile ≠ r.activeProfile ∧ r.handleErr = 0 ∧
    r.handle.toNat < cfg.maxConn

instance (cfg : HandoffConfig) (r : DisconnectRequest) : Decidable (Arms cfg r) :=
  inferInstanceAs (Decidable (_ ∧ _))

/-- What it records of the request. -/
def armedRecords (clock : Nat → UInt32) (r : DisconnectRequest) (previous : HandoffRadio) :
    List TimingRecord :=
  [capture (clock 0) totemHevtHandoffTerm r.handle 0 0 r.reason,
    captureValue (clock 1) totemHevtHandoffParam r.handle 0 r.interval,
    captureValue (clock 2) totemHevtHandoffParam r.handle 1 r.latency,
    captureValue (clock 3) totemHevtHandoffParam r.handle 2 r.timeout,
    capture (if previous.rxKnown then previous.lastRx else clock 4) totemHevtHandoffRadio r.handle
      4 0 previous.rxKnown.toUInt8]

/-- What it records of the answer. -/
def answeredRecord (now : UInt32) (handle : UInt16) (err : Int) : TimingRecord :=
  capture now totemHevtHandoffTerm handle 1 (if err < 0 then 1 else if 0 < err then 2 else 0)
    (UInt8.ofNat (min err.natAbs 255))

/-- `totem_handoff_disconnected`, after the lock, with what each capture reads
off the clock. -/
def disconnectedRecords (clock : Nat → UInt32) (handle : UInt16) (radio : HandoffRadio) :
    List TimingRecord :=
  if radio.armed then
    [captureValue (clock 0) totemHevtHandoffRadio handle 0 radio.done,
      captureValue (clock 1) totemHevtHandoffRadio handle 1 radio.bad,
      captureValue (clock 2) totemHevtHandoffRadio handle 2 radio.aborted,
      captureValue (clock 3) totemHevtHandoffRadio handle 3 radio.skipped,
      captureValue (clock 4) totemHevtHandoffRadio handle 7 radio.rxPackets,
      captureValue (clock 5) totemHevtHandoffRadio handle 8 radio.noRx,
      captureValue (clock 6) totemHevtHandoffRadio handle 9 radio.invalidRx,
      captureValue (clock 7) totemHevtHandoffRadio handle 10 radio.micPass,
      captureValue (clock 8) totemHevtHandoffRadio handle 11 radio.micFail,
      capture (if radio.rxKnown then radio.lastRx else clock 9) totemHevtHandoffRadio handle 5 0
        radio.rxKnown.toUInt8,
      captureValue (clock 10) totemHevtHandoffTx handle 0 radio.txSetups,
      captureValue (clock 11) totemHevtHandoffTx handle 1 radio.txCompleted,
      captureValue (clock 12) totemHevtHandoffTx handle 2 radio.txUncompleted,
      capture (if radio.txSetups ≠ 0 then radio.firstTxSetup else clock 13) totemHevtHandoffTx
        handle 3 0 (radio.txSetups ≠ 0 : Bool).toUInt8,
      capture (if radio.txCompleted ≠ 0 then radio.firstTxEnd else clock 14) totemHevtHandoffTx
        handle 4 0 (radio.txCompleted ≠ 0 : Bool).toUInt8,
      capture (if radio.txCompleted ≠ 0 then radio.lastTxEnd else clock 15) totemHevtHandoffTx
        handle 5 0 (radio.txCompleted ≠ 0 : Bool).toUInt8]
  else []

/-- The record of `__wrap_ull_conn_done`. -/
def doneRecords (cfg : HandoffConfig) (s : Handoff) (handle : UInt16) (d : EventDone)
    (now : UInt32) : List TimingRecord :=
  if handle.toNat < cfg.maxConn ∧ d.peripheral ∧ (s.radios handle).showsFirstBad d then
    [capture now totemHevtHandoffRadio handle 6 0 d.isAborted.toUInt8]
  else []

/-- One entry point, or one half of `__wrap_bt_conn_disconnect`. -/
inductive Step (cfg : HandoffConfig) : Handoff → Option Obs → Handoff → Prop where
  | connected {s} (handle : UInt16) :
    Step cfg s (.some ⟨.connected handle, []⟩) (s.onRadio cfg handle fun _ => .zero)
  | pass {s} (r : DisconnectRequest) (h : ¬Arms cfg r) : Step cfg s .none s
  | arm {s} (r : DisconnectRequest) (clock : Nat → UInt32) (h : Arms cfg r) :
    Step cfg s (.some ⟨.armed r.handle, armedRecords clock r (s.radios r.handle)⟩)
      { s.onRadio cfg r.handle .arm with disconnecting := r.handle :: s.disconnecting }
  | answer {s} {before after : List UInt16} (handle : UInt16) (err : Int) (now : UInt32)
      (h : s.disconnecting = before ++ handle :: after) :
    Step cfg s
      (.some ⟨if err = 0 then .accepted handle else .failed handle,
        [answeredRecord now handle err]⟩)
      { s.onRadio cfg handle (fun radio =>
          if err = 0 then radio else { radio with armed := false }) with
        disconnecting := before ++ after }
  | done {s} (handle : UInt16) (d : EventDone) (now : UInt32) :
    Step cfg s (.some ⟨.done handle d now, doneRecords cfg s handle d now⟩)
      (s.onRadio cfg handle fun radio => if d.peripheral then radio.connDone cfg d now else radio)
  | txSetup {s} (handle : UInt16) (now : UInt32) :
    Step cfg s (.some ⟨.txSetup handle now, []⟩) (s.onRadio cfg handle (.txSetup now))
  | txResult {s} (handle : UInt16) (completed : Bool) (now : UInt32) :
    Step cfg s (.some ⟨.txResult handle completed now, []⟩)
      (s.onRadio cfg handle (.txResult completed now))
  | disconnected {s} (handle : UInt16) (clock : Nat → UInt32) :
    Step cfg s
      (.some ⟨.disconnected handle,
        if handle.toNat < cfg.maxConn then disconnectedRecords clock handle (s.radios handle)
        else []⟩)
      (s.onRadio cfg handle fun _ => .zero)

/-! ## What a handoff saw -/

/-- The handle it is about. -/
def Act.handle : Act → UInt16
  | .connected handle | .armed handle | .accepted handle | .failed handle | .done handle _ _
  | .txSetup handle _ | .txResult handle _ _ | .disconnected handle => handle

/-- A connection begins or ends. -/
def Act.begins : Act → Bool
  | .connected _ | .disconnected _ => true
  | _ => false

/-- What happened on the connection that now has the handle, newest first. -/
def connection (handle : UInt16) : List Act → List Act
  | [] => []
  | a :: as =>
    if a.handle = handle then
      if a.begins then [] else a :: connection handle as
    else connection handle as

/-- What happened since the arming request in force, if there is one. -/
def handoff : List Act → Option (List Act)
  | [] => .none
  | a :: as =>
    match a with
    | .armed _ => .some []
    | .failed _ => .none
    | _ => (handoff as).map (a :: ·)

/-- The counters a summary has. -/
inductive Counter where
  | done
  | bad
  | aborted
  | skipped
  | rxPackets
  | noRx
  | invalidRx
  | micPass
  | micFail
  | txSetups
  | txCompleted
  | txUncompleted
deriving DecidableEq, Repr

namespace Counter

/-- What a connection event is worth. -/
def ofEvent (cfg : HandoffConfig) (d : EventDone) : Counter → Nat
  | .done => 1
  | .bad => if d.crcValid ∧ ¬d.isAborted then 0 else 1
  | .aborted => if d.isAborted then 1 else 0
  | .skipped =>
    d.lazyPrepare.toNat + if cfg.connMeta ∧ d.isMustExpire then 0 else d.latencyEvent.toNat
  | .rxPackets => d.trxCnt.toNat
  | .noRx => if ¬d.isAborted ∧ d.trxCnt = 0 then 1 else 0
  | .invalidRx => if ¬d.isAborted ∧ d.trxCnt ≠ 0 ∧ ¬d.crcValid then 1 else 0
  | .micPass => if cfg.leEnc ∧ d.micState = .pass then 1 else 0
  | .micFail => if cfg.leEnc ∧ d.micState = .fail then 1 else 0
  | .txSetups | .txCompleted | .txUncompleted => 0

/-- What an observation is worth. -/
def amount (cfg : HandoffConfig) (k : Counter) : Act → Nat
  | .done _ d _ => if d.peripheral then k.ofEvent cfg d else 0
  | .txSetup _ _ => if k = .txSetups then 1 else 0
  | .txResult _ completed _ =>
    if k = (if completed then .txCompleted else .txUncompleted) then 1 else 0
  | .connected _ | .armed _ | .accepted _ | .failed _ | .disconnected _ => 0

/-- The true sum. -/
def total (cfg : HandoffConfig) (k : Counter) (observations : List Act) : Nat :=
  (observations.map (k.amount cfg)).sum

end Counter

/-- A sum as a counter can hold it. -/
def saturated (n : Nat) : UInt16 := UInt16.ofNat (min 65535 n)

/-- When a valid packet was received. -/
def Act.validRx : Act → Option UInt32
  | .done _ d now => if d.peripheral ∧ d.crcValid ∧ ¬d.isAborted then .some now else .none
  | _ => .none

/-- When the termination was given to the radio. -/
def Act.setupAt : Act → Option UInt32
  | .txSetup _ now => .some now
  | _ => .none

/-- When its transmission ended. -/
def Act.endAt : Act → Option UInt32
  | .txResult _ true now => .some now
  | _ => .none

/-- A connection event without a valid packet. -/
def Act.isBad : Act → Bool
  | .done _ d _ => d.peripheral && !(d.crcValid && !d.isAborted)
  | _ => false

def lastValidRx (acts : List Act) : Option UInt32 := (acts.filterMap Act.validRx).head?

def firstSetup (acts : List Act) : Option UInt32 := (acts.filterMap Act.setupAt).getLast?

def firstEnd (acts : List Act) : Option UInt32 := (acts.filterMap Act.endAt).getLast?

def lastEnd (acts : List Act) : Option UInt32 := (acts.filterMap Act.endAt).head?

/-- A time, and whether it is one. -/
def timed (now : UInt32) (type : UInt8) (handle : UInt16) (stage : UInt8)
    (time : Option UInt32) : TimingRecord :=
  capture (time.getD now) type handle stage 0 time.isSome.toUInt8

/-- **The summary of a handoff**, from what was observed since it was armed
and on its connection. -/
def summary (cfg : HandoffConfig) (clock : Nat → UInt32) (handle : UInt16)
    (acts observations : List Act) : List TimingRecord :=
  let sum (k : Counter) := saturated (k.total cfg observations)
  [captureValue (clock 0) totemHevtHandoffRadio handle 0 (sum .done),
    captureValue (clock 1) totemHevtHandoffRadio handle 1 (sum .bad),
    captureValue (clock 2) totemHevtHandoffRadio handle 2 (sum .aborted),
    captureValue (clock 3) totemHevtHandoffRadio handle 3 (sum .skipped),
    captureValue (clock 4) totemHevtHandoffRadio handle 7 (sum .rxPackets),
    captureValue (clock 5) totemHevtHandoffRadio handle 8 (sum .noRx),
    captureValue (clock 6) totemHevtHandoffRadio handle 9 (sum .invalidRx),
    captureValue (clock 7) totemHevtHandoffRadio handle 10 (sum .micPass),
    captureValue (clock 8) totemHevtHandoffRadio handle 11 (sum .micFail),
    timed (clock 9) totemHevtHandoffRadio handle 5 (lastValidRx acts),
    captureValue (clock 10) totemHevtHandoffTx handle 0 (sum .txSetups),
    captureValue (clock 11) totemHevtHandoffTx handle 1 (sum .txCompleted),
    captureValue (clock 12) totemHevtHandoffTx handle 2 (sum .txUncompleted),
    timed (clock 13) totemHevtHandoffTx handle 3 (firstSetup observations),
    timed (clock 14) totemHevtHandoffTx handle 4 (firstEnd observations),
    timed (clock 15) totemHevtHandoffTx handle 5 (lastEnd observations)]

/-! ## Counters that saturate -/

variable {cfg : HandoffConfig} {radio : HandoffRadio} {acts obs : List Act} {handle : UInt16}

theorem toNat_min (a b : UInt32) : (min a b).toNat = min a.toNat b.toNat := by
  show (if a ≤ b then a else b).toNat = _
  by_cases hle : a ≤ b
  · have hnat := UInt32.le_iff_toNat_le.mp hle
    rw [if_pos hle, Nat.min_eq_left hnat]
  · have hnat := UInt32.le_iff_toNat_le.not.mp hle
    rw [if_neg hle, Nat.min_eq_right (by omega)]

theorem addCount_toNat {value : UInt16} {count : UInt32} (h : count.toNat ≤ 131070) :
    (addCount value count).toNat = min 65535 (value.toNat + count.toNat) := by
  have hv := value.toNat_lt
  have hsum : (value.toUInt32 + count).toNat = value.toNat + count.toNat := by
    rw [UInt32.toNat_add, UInt16.toNat_toUInt32, Nat.mod_eq_of_lt (by omega)]
  have hmax : (65535 : UInt32).toNat = 65535 := rfl
  unfold addCount
  rw [UInt32.toNat_toUInt16, toNat_min, hsum, hmax]
  omega

theorem saturated_toNat (n : Nat) : (saturated n).toNat = min 65535 n := by
  unfold saturated
  rw [UInt16.toNat_ofNat']
  omega

theorem addCount_saturated {n : Nat} {count : UInt32} (h : count.toNat ≤ 131070) :
    addCount (saturated n) count = saturated (count.toNat + n) := by
  rw [← UInt16.toNat_inj, addCount_toNat h, saturated_toNat, saturated_toNat]
  omega

theorem saturated_eq_zero {n : Nat} : saturated n = 0 ↔ n = 0 := by
  rw [← UInt16.toNat_inj, saturated_toNat]
  have h0 : (0 : UInt16).toNat = 0 := rfl
  omega

/-! ## What each entry point does to its handle -/

/-- The counter's field. -/
def count (radio : HandoffRadio) : Counter → UInt16
  | .done => radio.done
  | .bad => radio.bad
  | .aborted => radio.aborted
  | .skipped => radio.skipped
  | .rxPackets => radio.rxPackets
  | .noRx => radio.noRx
  | .invalidRx => radio.invalidRx
  | .micPass => radio.micPass
  | .micFail => radio.micFail
  | .txSetups => radio.txSetups
  | .txCompleted => radio.txCompleted
  | .txUncompleted => radio.txUncompleted

/-- What an armed record has, beside what was observed since it was armed. -/
structure Counts (cfg : HandoffConfig) (obs : List Act) (radio : HandoffRadio) : Prop where
  count : ∀ k, Handoff.count radio k = saturated (k.total cfg obs)
  firstBad : radio.firstBad = obs.any Act.isBad
  setup : ∀ t, firstSetup obs = .some t → radio.firstTxSetup = t
  first : ∀ t, firstEnd obs = .some t → radio.firstTxEnd = t
  last : ∀ t, lastEnd obs = .some t → radio.lastTxEnd = t

/-- The record of a handle, beside what happened on its connection. -/
structure Faithful (cfg : HandoffConfig) (acts : List Act) (radio : HandoffRadio) : Prop where
  rx : (if radio.rxKnown then .some radio.lastRx else .none) = lastValidRx acts
  armed : radio.armed = (handoff acts).isSome
  counts : ∀ obs, handoff acts = .some obs → Counts cfg obs radio

theorem Counts.arm : Counts cfg [] radio.arm where
  count := by intro k; cases k <;> rfl
  firstBad := rfl
  setup := by intro t ht; cases ht
  first := by intro t ht; cases ht
  last := by intro t ht; cases ht

theorem total_cons (k : Counter) (a : Act) (obs : List Act) :
    k.total cfg (a :: obs) = k.amount cfg a + k.total cfg obs := by
  simp [Counter.total]

theorem Counts.silent {a : Act} (h : Counts cfg obs radio) (hamount : ∀ k, Counter.amount cfg k a = 0)
    (hbad : a.isBad = false) (hsetup : a.setupAt = .none) (hend : a.endAt = .none) :
    Counts cfg (a :: obs) radio where
  count := by
    intro k
    rw [h.count, total_cons, hamount, Nat.zero_add]
  firstBad := by rw [h.firstBad, List.any_cons, hbad, Bool.false_or]
  setup := by
    rw [firstSetup, List.filterMap_cons_none hsetup]
    exact h.setup
  first := by
    rw [firstEnd, List.filterMap_cons_none hend]
    exact h.first
  last := by
    rw [lastEnd, List.filterMap_cons_none hend]
    exact h.last

theorem setups_eq (obs : List Act) :
    Counter.total cfg .txSetups obs = (obs.filterMap Act.setupAt).length := by
  induction obs with
  | nil => rfl
  | cons a obs ih =>
    rw [total_cons, ih]
    cases a with
    | txSetup handle now =>
      show 1 + _ = _ + 1
      omega
    | txResult handle completed now => cases completed <;> exact Nat.zero_add _
    | done handle d now =>
      show (if d.peripheral then 0 else 0) + _ = (obs.filterMap Act.setupAt).length
      rw [ite_self, Nat.zero_add]
    | _ => exact Nat.zero_add _

theorem ends_eq (obs : List Act) :
    Counter.total cfg .txCompleted obs = (obs.filterMap Act.endAt).length := by
  induction obs with
  | nil => rfl
  | cons a obs ih =>
    rw [total_cons, ih]
    cases a with
    | txResult handle completed now =>
      cases completed with
      | true =>
        show 1 + _ = _ + 1
        omega
      | false => exact Nat.zero_add _
    | done handle d now =>
      show (if d.peripheral then 0 else 0) + _ = (obs.filterMap Act.endAt).length
      rw [ite_self, Nat.zero_add]
    | _ => exact Nat.zero_add _

theorem Counts.setups_zero (h : Counts cfg obs radio) :
    radio.txSetups = 0 ↔ firstSetup obs = .none := by
  have hc := h.count .txSetups
  show Handoff.count radio .txSetups = 0 ↔ _
  rw [hc, saturated_eq_zero, setups_eq, List.length_eq_zero_iff, firstSetup,
    List.getLast?_eq_none_iff]

theorem Counts.completed_zero (h : Counts cfg obs radio) :
    radio.txCompleted = 0 ↔ firstEnd obs = .none := by
  have hc := h.count .txCompleted
  show Handoff.count radio .txCompleted = 0 ↔ _
  rw [hc, saturated_eq_zero, ends_eq, List.length_eq_zero_iff, firstEnd,
    List.getLast?_eq_none_iff]

theorem getLast?_cons_of {α : Type} {x y : α} {l : List α} (h : (x :: l).getLast? = .some y) :
    (l.getLast? = .none ∧ x = y) ∨ l.getLast? = .some y := by
  cases l with
  | nil =>
    cases h
    exact .inl ⟨rfl, rfl⟩
  | cons z l =>
    rw [List.getLast?_cons_cons] at h
    exact .inr h

theorem addCount_one {value : UInt16} {n : Nat} (h : value = saturated n) :
    addCount value 1 = saturated (1 + n) := by
  rw [h]
  exact addCount_saturated (by decide)

theorem Counts.count_one {radio' : HandoffRadio} {a : Act} (h : Counts cfg obs radio) (k₀ : Counter)
    (hamount : ∀ k, k.amount cfg a = if k = k₀ then 1 else 0)
    (hone : Handoff.count radio' k₀ = addCount (Handoff.count radio k₀) 1)
    (hother : ∀ k, k ≠ k₀ → Handoff.count radio' k = Handoff.count radio k) (k : Counter) :
    Handoff.count radio' k = saturated (k.total cfg (a :: obs)) := by
  rw [total_cons, hamount]
  by_cases hk : k = k₀
  · subst hk
    rw [if_pos rfl, hone]
    exact addCount_one (h.count k)
  · rw [if_neg hk, Nat.zero_add, hother k hk]
    exact h.count k

theorem Counts.txSetup {now : UInt32} (h : Counts cfg obs radio) (ha : radio.armed = true) :
    Counts cfg (.txSetup handle now :: obs) (radio.txSetup now) := by
  unfold HandoffRadio.txSetup
  rw [if_pos ha]
  refine ⟨h.count_one .txSetups (fun k => rfl) rfl ?_, h.firstBad, ?_, h.first, h.last⟩
  · intro k hk
    cases k <;> first | rfl | exact absurd rfl hk
  · intro t ht
    rcases getLast?_cons_of ht with ⟨hnone, rfl⟩ | hold
    · exact if_pos (h.setups_zero.mpr hnone)
    · have hne : radio.txSetups ≠ 0 := by
        rw [Ne, h.setups_zero, firstSetup, hold]
        exact Option.some_ne_none _
      exact (if_neg hne).trans (h.setup t hold)

theorem Counts.txResult {completed : Bool} {now : UInt32} (h : Counts cfg obs radio)
    (ha : radio.armed = true) :
    Counts cfg (.txResult handle completed now :: obs) (radio.txResult completed now) := by
  unfold HandoffRadio.txResult
  rw [if_pos ha]
  cases completed with
  | false =>
    refine ⟨h.count_one .txUncompleted (fun k => rfl) rfl ?_, h.firstBad, h.setup, h.first, h.last⟩
    intro k hk
    cases k <;> first | rfl | exact absurd rfl hk
  | true =>
    refine ⟨h.count_one .txCompleted (fun k => rfl) rfl ?_, h.firstBad, h.setup, ?_, ?_⟩
    · intro k hk
      cases k <;> first | rfl | exact absurd rfl hk
    · intro t ht
      rcases getLast?_cons_of ht with ⟨hnone, rfl⟩ | hold
      · exact if_pos (h.completed_zero.mpr hnone)
      · have hne : radio.txCompleted ≠ 0 := by
          rw [Ne, h.completed_zero, firstEnd, hold]
          exact Option.some_ne_none _
        exact (if_neg hne).trans (h.first t hold)
    · intro t ht
      cases ht
      rfl

/-! ### A connection event -/

theorem toNat_skipped (d : EventDone) :
    (d.skipped cfg).toNat = Counter.ofEvent cfg d .skipped := by
  have hlazy := d.lazyPrepare.toNat_lt
  have hlatency := d.latencyEvent.toNat_lt
  have hpassed : (if cfg.connMeta && d.isMustExpire then 0 else d.latencyEvent.toUInt32).toNat =
      if cfg.connMeta ∧ d.isMustExpire then 0 else d.latencyEvent.toNat := by
    cases cfg.connMeta <;> cases d.isMustExpire <;> rfl
  unfold EventDone.skipped
  rw [UInt32.toNat_add, hpassed, UInt16.toNat_toUInt32]
  show _ = d.lazyPrepare.toNat + _
  apply Nat.mod_eq_of_lt
  split <;> omega

theorem ofEvent_le (d : EventDone) (k : Counter) : k.ofEvent cfg d ≤ 131070 := by
  have hlazy := d.lazyPrepare.toNat_lt
  have hlatency := d.latencyEvent.toNat_lt
  have htrx := d.trxCnt.toNat_lt
  cases k <;> simp only [Counter.ofEvent] <;> (try split) <;> omega

theorem Counts.noteRx {d : EventDone} {now : UInt32} (h : Counts cfg obs radio) :
    Counts cfg obs (radio.noteRx d now) := by
  unfold HandoffRadio.noteRx
  split
  · refine ⟨?_, h.firstBad, h.setup, h.first, h.last⟩
    intro k
    rw [← h.count k]
    cases k <;> rfl
  · exact h

theorem toNat_toUInt32 (p : Prop) [Decidable p] :
    (decide p).toUInt32.toNat = if p then 1 else 0 := by
  by_cases h : p
  · rw [decide_eq_true h, if_pos h]
    rfl
  · rw [decide_eq_false h, if_neg h]
    rfl

/-- What a field grows by is what the event is worth. -/
theorem Counts.count_add {k : Counter} {d : EventDone} {c : UInt32} (h : Counts cfg obs radio)
    (hc : c.toNat = k.ofEvent cfg d) :
    addCount (Handoff.count radio k) c = saturated (k.ofEvent cfg d + k.total cfg obs) := by
  rw [h.count k, addCount_saturated (hc ▸ ofEvent_le d k), hc]

theorem Counts.count_none {k : Counter} {d : EventDone} (h : Counts cfg obs radio)
    (hk : k.ofEvent cfg d = 0) :
    Handoff.count radio k = saturated (k.ofEvent cfg d + k.total cfg obs) := by
  rw [hk, Nat.zero_add]
  exact h.count k

/-- A counter of `CONFIG_BT_CTLR_LE_ENC`. -/
theorem Counts.count_mic {k : Counter} {d : EventDone} {state : MicState} (h : Counts cfg obs radio)
    (hk : k.ofEvent cfg d = if cfg.leEnc ∧ d.micState = state then 1 else 0) :
    (if cfg.leEnc then addCount (Handoff.count radio k) (d.micState = state : Bool).toUInt32
      else Handoff.count radio k) = saturated (k.ofEvent cfg d + k.total cfg obs) := by
  cases hl : cfg.leEnc with
  | false =>
    rw [hl] at hk
    exact h.count_none (hk.trans (if_neg fun he => by cases he.1))
  | true =>
    refine h.count_add ?_
    rw [toNat_toUInt32, hk, hl]
    simp only [true_and]

theorem Counts.countDone {d : EventDone} {now : UInt32} (h : Counts cfg obs radio)
    (hp : d.peripheral = true) :
    Counts cfg (.done handle d now :: obs) (radio.countDone cfg d) := by
  refine ⟨?_, ?_, h.setup, h.first, h.last⟩
  · intro k
    have hamount : k.amount cfg (.done handle d now) = k.ofEvent cfg d := if_pos hp
    rw [total_cons, hamount]
    cases k with
    | done => exact h.count_add (k := .done) rfl
    | bad =>
      refine h.count_add (k := .bad) ?_
      show (!(d.crcValid && !d.isAborted)).toUInt32.toNat = if d.crcValid ∧ ¬d.isAborted then 0 else 1
      cases d.crcValid <;> cases d.isAborted <;> rfl
    | aborted =>
      refine h.count_add (k := .aborted) ?_
      show d.isAborted.toUInt32.toNat = if d.isAborted then 1 else 0
      cases d.isAborted <;> rfl
    | skipped => exact h.count_add (k := .skipped) (toNat_skipped d)
    | rxPackets => exact h.count_add (k := .rxPackets) (UInt16.toNat_toUInt32 _)
    | noRx =>
      refine h.count_add (k := .noRx) ?_
      show (!d.isAborted && d.trxCnt = 0).toUInt32.toNat = if ¬d.isAborted ∧ d.trxCnt = 0 then 1 else 0
      rw [← toNat_toUInt32]
      simp
    | invalidRx =>
      refine h.count_add (k := .invalidRx) ?_
      show (!d.isAborted && d.trxCnt ≠ 0 && !d.crcValid).toUInt32.toNat =
        if ¬d.isAborted ∧ d.trxCnt ≠ 0 ∧ ¬d.crcValid then 1 else 0
      rw [← toNat_toUInt32]
      simp [Bool.and_assoc]
    | micPass => exact h.count_mic (k := .micPass) rfl
    | micFail => exact h.count_mic (k := .micFail) rfl
    | txSetups => exact h.count_none (d := d) (k := .txSetups) rfl
    | txCompleted => exact h.count_none (d := d) (k := .txCompleted) rfl
    | txUncompleted => exact h.count_none (d := d) (k := .txUncompleted) rfl
  · show (radio.firstBad || !d.valid) = ((d.peripheral && !d.valid) || obs.any Act.isBad)
    rw [hp, Bool.true_and, Bool.or_comm, h.firstBad]

/-! ### The record -/

/-- Nothing is said of a handle that is not armed but what it received. -/
theorem Faithful.unarmed
    (hrx : (if radio.rxKnown then .some radio.lastRx else .none) = lastValidRx acts)
    (ha : radio.armed = false) (ho : handoff acts = .none) : Faithful cfg acts radio where
  rx := hrx
  armed := by rw [ha, ho]; rfl
  counts := by intro obs h; rw [ho] at h; cases h

theorem Faithful.zero : Faithful cfg [] .zero := .unarmed rfl rfl rfl

theorem Faithful.failed (h : Faithful cfg acts radio) :
    Faithful cfg (.failed handle :: acts) { radio with armed := false } :=
  .unarmed h.rx rfl rfl

theorem Faithful.arm (h : Faithful cfg acts radio) :
    Faithful cfg (.armed handle :: acts) radio.arm where
  rx := h.rx
  armed := rfl
  counts := by
    intro obs ho
    cases ho
    exact Counts.arm

theorem Faithful.handoff_none (h : Faithful cfg acts radio) (ha : radio.armed = false) :
    handoff acts = .none := by
  rw [h.armed, Option.isSome_eq_false_iff, Option.isNone_iff_eq_none] at ha
  exact ha

/-- One more observation, which leaves the handle armed as it was. -/
theorem Faithful.observe {radio' : HandoffRadio} {a : Act} (h : Faithful cfg acts radio)
    (ho : handoff (a :: acts) = (handoff acts).map (a :: ·))
    (hrx : (if radio'.rxKnown then .some radio'.lastRx else .none) = lastValidRx (a :: acts))
    (ha : radio'.armed = radio.armed)
    (hcounts : ∀ obs, radio.armed = true → Counts cfg obs radio → Counts cfg (a :: obs) radio') :
    Faithful cfg (a :: acts) radio' := by
  cases harmed : radio.armed with
  | false => exact .unarmed hrx (ha.trans harmed) (by rw [ho, h.handoff_none harmed]; rfl)
  | true =>
    obtain ⟨obs, hobs⟩ := Option.isSome_iff_exists.mp (h.armed ▸ harmed)
    have hcons : handoff (a :: acts) = .some (a :: obs) := by
      rw [ho, hobs]
      rfl
    refine ⟨hrx, by rw [ha, harmed, hcons]; rfl, ?_⟩
    intro obs' ho'
    rw [hcons, Option.some.injEq] at ho'
    subst ho'
    exact hcounts obs harmed (h.counts obs hobs)

theorem Faithful.accepted (h : Faithful cfg acts radio) :
    Faithful cfg (.accepted handle :: acts) radio :=
  h.observe rfl h.rx rfl fun _ _ hc => hc.silent (fun _ => rfl) rfl rfl rfl

theorem Faithful.txSetup {now : UInt32} (h : Faithful cfg acts radio) :
    Faithful cfg (.txSetup handle now :: acts) (radio.txSetup now) := by
  refine h.observe rfl ?_ ?_ fun _ ha hc => hc.txSetup ha
  · show _ = lastValidRx acts
    rw [← h.rx]
    unfold HandoffRadio.txSetup
    split <;> rfl
  · unfold HandoffRadio.txSetup
    split <;> rfl

theorem Faithful.txResult {completed : Bool} {now : UInt32} (h : Faithful cfg acts radio) :
    Faithful cfg (.txResult handle completed now :: acts) (radio.txResult completed now) := by
  refine h.observe rfl ?_ ?_ fun _ ha hc => hc.txResult ha
  · show _ = lastValidRx acts
    rw [← h.rx]
    unfold HandoffRadio.txResult
    split
    · split <;> rfl
    · rfl
  · unfold HandoffRadio.txResult
    split
    · split <;> rfl
    · rfl

theorem lastValidRx_done (d : EventDone) (now : UInt32) :
    lastValidRx (.done handle d now :: acts) =
      if d.peripheral ∧ d.valid then .some now else lastValidRx acts := by
  have hrx : Act.validRx (.done handle d now) =
      if d.peripheral ∧ d.valid then .some now else .none := by
    simp [Act.validRx, EventDone.valid]
  unfold lastValidRx
  split
  · rename_i hv
    rw [List.filterMap_cons_some (hrx.trans (if_pos hv))]
    rfl
  · rename_i hv
    rw [List.filterMap_cons_none (hrx.trans (if_neg hv))]

theorem Faithful.connDone {d : EventDone} {now : UInt32} (h : Faithful cfg acts radio)
    (hp : d.peripheral = true) :
    Faithful cfg (.done handle d now :: acts) (radio.connDone cfg d now) := by
  have harmed : (radio.noteRx d now).armed = radio.armed := by
    unfold HandoffRadio.noteRx
    split <;> rfl
  have hrx : (if (radio.noteRx d now).rxKnown then .some (radio.noteRx d now).lastRx else .none) =
      lastValidRx (.done handle d now :: acts) := by
    rw [lastValidRx_done]
    unfold HandoffRadio.noteRx
    cases hv : d.valid with
    | true => exact (if_pos ⟨hp, rfl⟩).symm
    | false => exact h.rx.trans (if_neg fun he => Bool.false_ne_true he.2).symm
  unfold HandoffRadio.connDone
  refine h.observe rfl ?_ ?_ ?_
  · rw [← hrx]
    dsimp only
    split <;> rfl
  · rw [← harmed]
    dsimp only
    split <;> rfl
  · intro obs ha hc
    dsimp only
    rw [if_pos (harmed.trans ha)]
    exact hc.noteRx.countDone hp

theorem Faithful.passed {d : EventDone} {now : UInt32} (h : Faithful cfg acts radio)
    (hp : d.peripheral = false) : Faithful cfg (.done handle d now :: acts) radio := by
  have hno : ¬d.peripheral = true := by
    rw [hp]
    exact Bool.false_ne_true
  refine h.observe rfl ?_ rfl ?_
  · rw [lastValidRx_done]
    exact h.rx.trans (if_neg fun he => hno he.1).symm
  · intro obs _ hc
    refine hc.silent (fun k => if_neg hno) ?_ rfl rfl
    show (d.peripheral && _) = false
    rw [hp, Bool.false_and]

/-! ## What a run keeps -/

/-- Every handle in range has a faithful record, and the others are never
armed. -/
structure Inv (cfg : HandoffConfig) (acts : List Act) (radios : UInt16 → HandoffRadio) : Prop where
  inside : ∀ handle, handle.toNat < cfg.maxConn →
    Faithful cfg (connection handle acts) (radios handle)
  outside : ∀ handle, ¬handle.toNat < cfg.maxConn → handoff (connection handle acts) = .none

theorem connection_other {a : Act} (h : a.handle ≠ handle) :
    connection handle (a :: acts) = connection handle acts := if_neg h

theorem connection_begins {a : Act} (he : a.handle = handle) (h : a.begins = true) :
    connection handle (a :: acts) = [] := by
  rw [connection, if_pos he, if_pos h]

theorem connection_own {a : Act} (he : a.handle = handle) (h : a.begins = false) :
    connection handle (a :: acts) = a :: connection handle acts := by
  rw [connection, if_pos he, h]
  rfl

variable {s s' : Handoff}

/-- What happens to one handle leaves the others as they are. -/
theorem Inv.on {a : Act} {f : HandoffRadio → HandoffRadio} (h : Inv cfg acts s.radios)
    (hin : a.handle.toNat < cfg.maxConn →
      Faithful cfg (connection a.handle acts) (s.radios a.handle) →
      Faithful cfg (connection a.handle (a :: acts)) (f (s.radios a.handle)))
    (hout : ¬a.handle.toNat < cfg.maxConn → handoff (connection a.handle acts) = .none →
      handoff (connection a.handle (a :: acts)) = .none) :
    Inv cfg (a :: acts) (s.onRadio cfg a.handle f).radios := by
  unfold onRadio
  constructor
  · intro handle hlt
    by_cases he : a.handle = handle
    · subst he
      rw [if_pos hlt]
      show Faithful _ _ (Function.update s.radios a.handle _ a.handle)
      rw [Function.update_self]
      exact hin hlt (h.inside _ hlt)
    · rw [connection_other he]
      have hsame : (if a.handle.toNat < cfg.maxConn then
          { s with radios := Function.update s.radios a.handle (f (s.radios a.handle)) }
          else s).radios handle = s.radios handle := by
        split
        · exact Function.update_of_ne (Ne.symm he) ..
        · rfl
      rw [hsame]
      exact h.inside handle hlt
  · intro handle hge
    by_cases he : a.handle = handle
    · subst he
      exact hout hge (h.outside _ hge)
    · rw [connection_other he]
      exact h.outside handle hge

/-- A connection begins or ends: the record is cleared. -/
theorem Inv.clear {a : Act} (h : Inv cfg acts s.radios) (hb : a.begins = true) :
    Inv cfg (a :: acts) (s.onRadio cfg a.handle fun _ => .zero).radios := by
  refine h.on ?_ ?_
  · intro _ _
    rw [connection_begins rfl hb]
    exact Faithful.zero
  · intro _ _
    rw [connection_begins rfl hb]
    rfl

theorem Inv.during {a : Act} {f : HandoffRadio → HandoffRadio} (h : Inv cfg acts s.radios)
    (hb : a.begins = false)
    (hin : ∀ as radio, Faithful cfg as radio → Faithful cfg (a :: as) (f radio))
    (hout : ¬a.handle.toNat < cfg.maxConn → ∀ as, handoff as = .none → handoff (a :: as) = .none) :
    Inv cfg (a :: acts) (s.onRadio cfg a.handle f).radios := by
  refine h.on ?_ ?_
  · intro _ hf
    rw [connection_own rfl hb]
    exact hin _ _ hf
  · intro hge hno
    rw [connection_own rfl hb]
    exact hout hge _ hno

theorem map_none {a : Act} {as : List Act} (h : handoff as = .none) :
    (handoff as).map (a :: ·) = .none := by
  rw [h]
  rfl

/-- The acts of a history. -/
def actsOf (h : List Obs) : List Act := h.map Obs.act

theorem inv_boot₀ : Inv cfg [] boot₀.radios where
  inside := fun _ _ => Faithful.zero
  outside := fun _ _ => rfl

theorem Inv.step {o : Option Obs} {h : List Obs} (hi : Inv cfg (actsOf h) s.radios)
    (hs : Step cfg s o s') : Inv cfg (actsOf (o.toList ++ h)) s'.radios := by
  cases hs with
  | pass r hno => exact hi
  | connected handle => exact hi.clear (a := .connected handle) rfl
  | disconnected handle clock => exact hi.clear (a := .disconnected handle) rfl
  | arm r clock harms =>
    exact hi.during (a := .armed r.handle) rfl (fun _ _ hf => hf.arm)
      fun hge => absurd harms.2.2.2.2.2.2.2.2 hge
  | answer handle err now hmem =>
    by_cases herr : err = 0
    · simp only [herr, if_true]
      exact hi.during (a := .accepted handle) rfl (fun _ _ hf => hf.accepted) fun _ _ => map_none
    · simp only [herr, if_false]
      exact hi.during (a := .failed handle) rfl (fun _ _ hf => hf.failed) fun _ _ _ => rfl
  | done handle d now =>
    refine hi.during (a := .done handle d now) rfl ?_ fun _ _ => map_none
    intro as radio hf
    cases hp : d.peripheral with
    | true => exact hf.connDone hp
    | false => exact hf.passed hp
  | txSetup handle now =>
    exact hi.during (a := .txSetup handle now) rfl (fun _ _ hf => hf.txSetup) fun _ _ => map_none
  | txResult handle completed now =>
    exact hi.during (a := .txResult handle completed now) rfl (fun _ _ hf => hf.txResult)
      fun _ _ => map_none

theorem Inv.run {h : List Obs} (hr : Run (Step cfg) boot₀ h s) : Inv cfg (actsOf h) s.radios :=
  hr.invariant (P := fun h s => Inv cfg (actsOf h) s.radios) inv_boot₀ fun hi hs => hi.step hs

/-! ## The records -/

theorem capture_timed {p : Prop} [Decidable p] {t now : UInt32} {type stage : UInt8}
    {time : Option UInt32} (hp : p ↔ time.isSome) (ht : ∀ u, time = .some u → t = u) :
    capture (if p then t else now) type handle stage 0 (p : Bool).toUInt8 =
      timed now type handle stage time := by
  cases time with
  | none =>
    have hno : ¬p := fun h => Bool.false_ne_true (hp.mp h)
    rw [if_neg hno, decide_eq_false hno]
    rfl
  | some u =>
    have hyes : p := hp.mpr rfl
    rw [if_pos hyes, decide_eq_true hyes, ht u rfl]
    rfl

theorem ne_zero_iff {n : UInt16} {time : Option UInt32} (h : n = 0 ↔ time = .none) :
    n ≠ 0 ↔ time.isSome := by
  rw [Ne, h, ← Ne, Option.ne_none_iff_isSome]

theorem Faithful.records (clock : Nat → UInt32) (h : Faithful cfg acts radio) :
    disconnectedRecords clock handle radio =
      match handoff acts with
      | .none => []
      | .some obs => summary cfg clock handle acts obs := by
  unfold disconnectedRecords
  cases ho : handoff acts with
  | none =>
    have ha : ¬radio.armed = true := by
      rw [h.armed, ho]
      exact Bool.false_ne_true
    exact if_neg ha
  | some obs =>
    have ha : radio.armed = true := by
      rw [h.armed, ho]
      rfl
    have hc := h.counts obs ho
    have hrx : capture (if radio.rxKnown then radio.lastRx else clock 9) totemHevtHandoffRadio
        handle 5 0 radio.rxKnown.toUInt8 =
        timed (clock 9) totemHevtHandoffRadio handle 5 (lastValidRx acts) := by
      rw [← h.rx]
      cases radio.rxKnown <;> rfl
    have hsetup := ne_zero_iff hc.setups_zero
    have hend := ne_zero_iff hc.completed_zero
    have hlast : radio.txCompleted ≠ 0 ↔ (lastEnd obs).isSome := by
      rw [hend, firstEnd, lastEnd, List.getLast?_isSome, List.isSome_head?]
    rw [if_pos ha, hrx, capture_timed hsetup hc.setup, capture_timed hend hc.first,
      capture_timed hlast hc.last]
    have hdone : radio.done = saturated _ := hc.count .done
    have hbad : radio.bad = saturated _ := hc.count .bad
    have haborted : radio.aborted = saturated _ := hc.count .aborted
    have hskipped : radio.skipped = saturated _ := hc.count .skipped
    have hpackets : radio.rxPackets = saturated _ := hc.count .rxPackets
    have hnoRx : radio.noRx = saturated _ := hc.count .noRx
    have hinvalid : radio.invalidRx = saturated _ := hc.count .invalidRx
    have hpass : radio.micPass = saturated _ := hc.count .micPass
    have hfail : radio.micFail = saturated _ := hc.count .micFail
    have hsetups : radio.txSetups = saturated _ := hc.count .txSetups
    have hcompleted : radio.txCompleted = saturated _ := hc.count .txCompleted
    have huncompleted : radio.txUncompleted = saturated _ := hc.count .txUncompleted
    rw [hdone, hbad, haborted, hskipped, hpackets, hnoRx, hinvalid, hpass, hfail, hsetups,
      hcompleted, huncompleted]
    rfl

theorem Faithful.showsFirstBad {d : EventDone} (h : Faithful cfg acts radio)
    (hs : radio.showsFirstBad d = true) :
    d.valid = false ∧ ∃ obs, handoff acts = .some obs ∧ obs.any Act.isBad = false := by
  unfold HandoffRadio.showsFirstBad at hs
  simp only [Bool.and_eq_true, Bool.not_eq_true'] at hs
  obtain ⟨⟨ha, hv⟩, hb⟩ := hs
  obtain ⟨obs, ho⟩ := Option.isSome_iff_exists.mp (h.armed ▸ ha)
  exact ⟨hv, obs, ho, (h.counts obs ho).firstBad ▸ hb⟩

/-- What `totem_handoff_disconnected` emitted. -/
theorem records_disconnected {h later earlier : List Obs} {records : List TimingRecord}
    (hr : Run (Step cfg) boot₀ h s) (he : h = later ++ ⟨.disconnected handle, records⟩ :: earlier) :
    match handoff (connection handle (actsOf earlier)) with
    | .none => records = []
    | .some obs =>
      ∃ clock, records = summary cfg clock handle (connection handle (actsOf earlier)) obs := by
  obtain ⟨s₁, s₂, hr₁, hs, -⟩ := hr.split he
  have hi := Inv.run hr₁
  generalize ho : Obs.mk (.disconnected handle) records = o at hs
  cases hs with
  | disconnected handle' clock =>
    cases ho
    by_cases hlt : handle.toNat < cfg.maxConn
    · rw [if_pos hlt, (hi.inside handle hlt).records clock]
      split
      · rfl
      · exact ⟨clock, rfl⟩
    · rw [if_neg hlt, hi.outside handle hlt]
  | answer handle' err now hmem => split at ho <;> cases ho
  | connected _ | arm _ _ _ | done _ _ _ | txSetup _ _ | txResult _ _ _ => cases ho

end Handoff

/-- A host the keyboard leaves, and one connection event in which it is silent. -/
def leaving : DisconnectRequest where
  infoErr := 0
  le := true
  peripheral := true
  connected := true
  usbPowered := false
  profile := 2
  activeProfile := 0
  handleErr := 0
  handle := 1
  interval := 12
  latency := 30
  timeout := 400
  reason := 0x13

end TotemZmk
