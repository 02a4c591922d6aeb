/-
The wrappers of `security_timing.c` and `security_controller_timing.c` around
the calls of an encryption procedure: each captures where a real call begins and
where it has returned, and calls nest, in any number of contexts.

* `security_captures_nest`: the captures of a context match the calls it is in.
* `Call.enter`, `Frame.leave`: what a wrapper captures before and after the real
  call.
-/
import TotemZmk.Handoff.Radio
import TotemZmk.Handoff.Summary
import TotemZmk.Lib.Nesting
import TotemZmk.Security.Encryption

namespace TotemZmk

open Nesting (Mark opened opened_cons opened_quiet)
open Trace (Run)

/-- `TOTEM_HEVT_SECURITY_TIMING` -/
def totemHevtSecurityTiming : UInt8 := 37

namespace SecurityTiming

open Handoff (capture)

/-! ## The host -/

/-- `BT_L2CAP_CID_SMP` -/
def btL2capCidSmp : UInt16 := 0x0006

/-- `BT_SMP_CMD_SECURITY_REQUEST` -/
def btSmpCmdSecurityRequest : UInt8 := 0x0b

/-- What the wrappers read of a `struct bt_conn` that stays as it is while they
have it: whether it is `BT_CONN_TYPE_LE`, whether it is `BT_CONN_ROLE_PERIPHERAL`,
and its handle. -/
structure BtConn where
  le : Bool
  peripheral : Bool
  handle : UInt16
deriving DecidableEq, Repr

/-- `trace` of `__wrap_bt_l2cap_send_pdu`. -/
def sendTraced (conn : Option BtConn) (cid : UInt16) (data : List UInt8) : Option BtConn :=
  conn.filter fun conn => cid = btL2capCidSmp ∧ data.length = 2 ∧
    data[0]? = .some btSmpCmdSecurityRequest ∧ conn.le = true ∧ conn.peripheral = true

/-- `security_observed` -/
def securityObserved (now : UInt32) (conn : BtConn) (secLevel stage hciStatus : UInt8) :
    List TimingRecord :=
  if conn.le = true ∧ conn.peripheral = true then
    [capture now totemHevtSecurityTiming conn.handle stage hciStatus secLevel]
  else []

/-! ## The controller -/

/-- `PDU_DATA_LLCTRL_TYPE_*`, with `PDU_DATA_LLCTRL_LEN` of each. -/
def pduDataLlctrlTypeEncReq : UInt8 := 3
def pduDataLlctrlTypeEncRsp : UInt8 := 4
def pduDataLlctrlTypeStartEncReq : UInt8 := 5
def pduDataLlctrlTypeStartEncRsp : UInt8 := 6
def encReqLen : UInt8 := 23
def encRspLen : UInt8 := 13
def startEncReqLen : UInt8 := 1
def startEncRspLen : UInt8 := 1

/-- `encryption_pdu` -/
def encryptionPdu (pdu : PduData) : Bool :=
  if pdu.llId ≠ pduDataLlidCtrl ∨ pdu.len < 1 then false
  else if pdu.opcode = pduDataLlctrlTypeEncReq then pdu.len = encReqLen
  else if pdu.opcode = pduDataLlctrlTypeEncRsp then pdu.len = encRspLen
  else if pdu.opcode = pduDataLlctrlTypeStartEncReq then pdu.len = startEncReqLen
  else if pdu.opcode = pduDataLlctrlTypeStartEncRsp then pdu.len = startEncRspLen
  else false

/-- What `exchange_capture` reads of a `struct ll_conn`. -/
structure LlConn where
  peripheral : Bool
  handle : UInt16
deriving DecidableEq, Repr

/-- `exchange_capture` -/
def exchangeCapture (now : UInt32) (conn : LlConn) (stage code extra : UInt8) : List TimingRecord :=
  if conn.peripheral = true then
    [capture now totemHevtSecurityExchange conn.handle stage code extra]
  else []

/-- `totem_security_tx_queued` -/
def totemSecurityTxQueued (now : UInt32) (conn : LlConn) (pdu : PduData) : List TimingRecord :=
  if encryptionPdu pdu = true then exchangeCapture now conn 3 pdu.opcode 0 else []

/-! ## Calls -/

/-- A call of a wrapper. -/
inductive Call where
  /-- `__wrap_bt_l2cap_send_pdu` -/
  | sendPdu (conn : Option BtConn) (cid : UInt16) (data : List UInt8)
  /-- `__wrap_bt_conn_security_changed` -/
  | securityChanged (conn : BtConn) (hciErr : UInt8)
  /-- `__wrap_bt_l2cap_security_changed` -/
  | l2capSecurityChanged (conn : BtConn) (hciStatus : UInt8)
  /-- `__wrap_ull_cp_rx` -/
  | cpRx (conn : LlConn) (pdu : PduData)
  /-- `__wrap_ull_cp_ltk_req_reply` -/
  | ltkReqReply (conn : LlConn)
  /-- `__wrap_ull_cp_ltk_req_neq_reply` -/
  | ltkReqNeqReply (conn : LlConn)
deriving DecidableEq, Repr

/-- What a wrapper has still to capture while the real call goes on. -/
inductive Frame where
  | sendPdu (traced : Option BtConn)
  | securityChanged (conn : BtConn) (hciErr : UInt8)
  | l2capSecurityChanged (conn : BtConn) (hciStatus : UInt8)
  | cpRx
  | ltkReply (conn : LlConn) (extra : UInt8)
deriving DecidableEq, Repr

/-- What is captured before the real call. -/
def Call.enter (now : UInt32) (secLevel : UInt8) : Call → List TimingRecord × Frame
  | .sendPdu conn cid data =>
    let traced := sendTraced conn cid data
    (match traced with
      | .some conn => [capture now totemHevtSecurityExchange conn.handle 0 0 0]
      | .none => [], .sendPdu traced)
  | .securityChanged conn hciErr =>
    (securityObserved now conn secLevel 0 hciErr, .securityChanged conn hciErr)
  | .l2capSecurityChanged conn hciStatus => ([], .l2capSecurityChanged conn hciStatus)
  | .cpRx conn pdu =>
    (if encryptionPdu pdu = true then exchangeCapture now conn 2 pdu.opcode 0 else [], .cpRx)
  | .ltkReqReply conn => (exchangeCapture now conn 4 0 1, .ltkReply conn 1)
  | .ltkReqNeqReply conn => (exchangeCapture now conn 4 0 0, .ltkReply conn 0)

/-- What is captured after the real call, with what it returned and the security level then. -/
def Frame.leave (now : UInt32) (secLevel : UInt8) (err : Int) (result : UInt8) :
    Frame → List TimingRecord
  | .sendPdu (.some conn) =>
    [capture now totemHevtSecurityExchange conn.handle 1
      (if err < 0 then 1 else if 0 < err then 2 else 0) (UInt8.ofNat (min err.natAbs 255))]
  | .sendPdu .none => []
  | .securityChanged conn hciErr => securityObserved now conn secLevel 2 hciErr
  | .l2capSecurityChanged conn hciStatus => securityObserved now conn secLevel 1 hciStatus
  | .cpRx => []
  | .ltkReply conn extra => exchangeCapture now conn 5 result extra

/-! ## Runs -/

/-- The contexts, each with the calls it is in, the last begun first. -/
abbrev Contexts (n : Nat) := Fin n → List Frame

/-- What one context captured. -/
structure Obs (n : Nat) where
  context : Fin n
  records : List TimingRecord
deriving DecidableEq, Repr

/-- A context begins a call, the real call returns, or the controller queues a
PDU. -/
inductive Step {n : Nat} : Contexts n → Option (Obs n) → Contexts n → Prop where
  | enter {s} (c : Fin n) (call : Call) (now : UInt32) (secLevel : UInt8) :
    Step s (.some ⟨c, (call.enter now secLevel).1⟩)
      (Function.update s c ((call.enter now secLevel).2 :: s c))
  | leave {s frame frames} (c : Fin n) (now : UInt32) (secLevel : UInt8) (err : Int)
    (result : UInt8) (h : s c = frame :: frames) :
    Step s (.some ⟨c, frame.leave now secLevel err result⟩) (Function.update s c frames)
  | txQueued {s} (c : Fin n) (conn : LlConn) (pdu : PduData) (now : UInt32) :
    Step s (.some ⟨c, totemSecurityTxQueued now conn pdu⟩) s

/-- What one context captured in all, newest first. -/
def captures {n : Nat} (c : Fin n) (h : List (Obs n)) : List TimingRecord :=
  h.flatMap fun o => if o.context = c then o.records.reverse else []

/-! ## Marks -/

/-- The real calls captured at both ends. -/
inductive Kind where
  | send
  | changed
  /-- `extra` is whether there was a key. -/
  | reply (extra : UInt8)
deriving DecidableEq, Repr

/-- A real call, and the bytes of its handle. -/
structure Key where
  kind : Kind
  low : Int8
  high : Int8
deriving DecidableEq, Repr

/-- The key of a handle. -/
def Key.of (kind : Kind) (handle : UInt16) : Key :=
  ⟨kind, handle.toUInt8.toInt8, (handle >>> 8).toUInt8.toInt8⟩

/-- What a record marks. -/
def mark (r : TimingRecord) : Mark Key :=
  if r.type = totemHevtSecurityTiming then
    if r.reason = 0 then .opens ⟨.changed, r.idx, r.active⟩
    else if r.reason = 2 then .closes ⟨.changed, r.idx, r.active⟩
    else .none
  else if r.type = totemHevtSecurityExchange then
    if r.reason = 0 then .opens ⟨.send, r.idx, r.active⟩
    else if r.reason = 1 then .closes ⟨.send, r.idx, r.active⟩
    else if r.reason = 4 then .opens ⟨.reply r.extra, r.idx, r.active⟩
    else if r.reason = 5 then .closes ⟨.reply r.extra, r.idx, r.active⟩
    else .none
  else .none

/-- The real call a wrapper is in, if it captures both ends. -/
def Frame.key : Frame → Option Key
  | .sendPdu traced => traced.map fun conn => Key.of .send conn.handle
  | .securityChanged conn _ =>
    if conn.le = true ∧ conn.peripheral = true then .some (Key.of .changed conn.handle) else .none
  | .l2capSecurityChanged _ _ | .cpRx => .none
  | .ltkReply conn extra =>
    if conn.peripheral = true then .some (Key.of (.reply extra) conn.handle) else .none

section

variable {n : Nat} {s s' : Contexts n} {h : List (Obs n)} {o : Option (Obs n)} {now : UInt32}

theorem mark_exchange (handle : UInt16) (stage low high : UInt8) :
    mark (capture now totemHevtSecurityExchange handle stage low high) =
      if stage = 0 then .opens (Key.of .send handle)
      else if stage = 1 then .closes (Key.of .send handle)
      else if stage = 4 then .opens (Key.of (.reply high) handle)
      else if stage = 5 then .closes (Key.of (.reply high) handle)
      else .none := rfl

theorem mark_timing (handle : UInt16) (stage low high : UInt8) :
    mark (capture now totemHevtSecurityTiming handle stage low high) =
      if stage = 0 then .opens (Key.of .changed handle)
      else if stage = 2 then .closes (Key.of .changed handle)
      else .none := rfl

theorem mark_exchangeCapture {conn : LlConn} {stage code extra : UInt8}
    (hstage : stage = 2 ∨ stage = 3) :
    ∀ r ∈ exchangeCapture now conn stage code extra, mark r = .none := by
  intro r hr
  unfold exchangeCapture at hr
  split at hr
  · rw [List.mem_singleton.mp hr, mark_exchange]
    obtain rfl | rfl := hstage <;> rfl
  · cases hr

/-- What is captured before the real call opens what the wrapper is in. -/
theorem Call.opened_enter (call : Call) (now : UInt32) (secLevel : UInt8) {items : List TimingRecord}
    {stack : List Key} (hi : opened mark items = .some stack) :
    opened mark ((call.enter now secLevel).1.reverse ++ items) =
      .some ((call.enter now secLevel).2.key.toList ++ stack) := by
  cases call with
  | sendPdu conn cid data =>
    simp only [Call.enter]
    cases htraced : sendTraced conn cid data with
    | none => exact hi
    | some conn' =>
      simp only [List.reverse_singleton, List.singleton_append]
      rw [opened_cons hi, mark_exchange]
      rfl
  | securityChanged conn hciErr =>
    simp only [Call.enter, securityObserved, Frame.key]
    split
    · simp only [List.reverse_singleton, List.singleton_append]
      rw [opened_cons hi, mark_timing]
      rfl
    · exact hi
  | l2capSecurityChanged conn hciStatus => exact hi
  | cpRx conn pdu =>
    refine opened_quiet (fun r hr => ?_) hi
    simp only [Call.enter, List.mem_reverse] at hr
    split at hr
    · exact mark_exchangeCapture (.inl rfl) r hr
    · cases hr
  | ltkReqReply conn | ltkReqNeqReply conn =>
    simp only [Call.enter, exchangeCapture, Frame.key]
    split
    · simp only [List.reverse_singleton, List.singleton_append]
      rw [opened_cons hi, mark_exchange]
      rfl
    · exact hi

theorem Frame.opened_leave (frame : Frame) (now : UInt32) (secLevel : UInt8) (err : Int)
    (result : UInt8) {items : List TimingRecord} {stack : List Key}
    (hi : opened mark items = .some (frame.key.toList ++ stack)) :
    opened mark ((frame.leave now secLevel err result).reverse ++ items) = .some stack := by
  cases frame with
  | sendPdu traced =>
    cases traced with
    | none => exact hi
    | some conn =>
      simp only [Frame.leave, List.reverse_singleton, List.singleton_append]
      rw [opened_cons hi, mark_exchange]
      simp [Frame.key, Mark.next]
  | securityChanged conn hciErr =>
    simp only [Frame.leave, securityObserved]
    by_cases hc : conn.le = true ∧ conn.peripheral = true
    · rw [if_pos hc, List.reverse_singleton, List.singleton_append, opened_cons hi, mark_timing]
      simp [Frame.key, Mark.next, hc]
    · rw [if_neg hc]
      simpa [Frame.key, hc] using hi
  | l2capSecurityChanged conn hciStatus =>
    refine opened_quiet (fun r hr => ?_) hi
    simp only [Frame.leave, securityObserved, List.mem_reverse] at hr
    split at hr
    · rw [List.mem_singleton.mp hr, mark_timing]
      rfl
    · cases hr
  | cpRx => exact hi
  | ltkReply conn extra =>
    simp only [Frame.leave, exchangeCapture]
    by_cases hc : conn.peripheral = true
    · rw [if_pos hc, List.reverse_singleton, List.singleton_append, opened_cons hi, mark_exchange]
      simp [Frame.key, Mark.next, hc]
    · rw [if_neg hc]
      simpa [Frame.key, hc] using hi

/-! ## What a run keeps -/

theorem captures_cons (c : Fin n) (o : Obs n) (h : List (Obs n)) :
    captures c (o :: h) = (if o.context = c then o.records.reverse else []) ++ captures c h :=
  List.flatMap_cons

/-- **A context's captures open the calls it is in**, the last begun last. -/
theorem opened_run (hr : Run Step (fun _ => []) h s) (c : Fin n) :
    opened mark (captures c h) = .some ((s c).filterMap Frame.key) := by
  refine hr.invariant
    (P := fun h s => opened mark (captures c h) = .some ((s c).filterMap Frame.key))
    rfl fun {h s o s'} hi hs => ?_
  cases hs with
  | enter c' call now secLevel =>
    rw [Option.toList_some, List.singleton_append, captures_cons]
    by_cases hc : c' = c
    · subst hc
      rw [if_pos rfl, call.opened_enter now secLevel hi, Function.update_self]
      cases hkey : (call.enter now secLevel).2.key <;> simp [hkey]
    · rw [if_neg hc, Function.update_of_ne (Ne.symm hc)]
      exact hi
  | @leave frame frames c' now secLevel err result hframe =>
    rw [Option.toList_some, List.singleton_append, captures_cons]
    by_cases hc : c' = c
    · subst hc
      rw [if_pos rfl, Function.update_self]
      refine frame.opened_leave now secLevel err result ?_
      rw [hi, hframe]
      cases hkey : frame.key <;> simp [hkey]
    · rw [if_neg hc, Function.update_of_ne (Ne.symm hc)]
      exact hi
  | txQueued c' conn pdu now =>
    rw [Option.toList_some, List.singleton_append, captures_cons]
    refine opened_quiet (fun r hr => ?_) hi
    split at hr
    · simp only [totemSecurityTxQueued, List.mem_reverse] at hr
      split at hr
      · exact mark_exchangeCapture (.inr rfl) r hr
      · cases hr
    · cases hr

end

end SecurityTiming

open SecurityTiming in
/-- **The captures of an encryption procedure nest.** In any number of contexts,
however their calls nest and interleave: a context's captures match, each end the
beginning that is open last, with the same handle and, for a reply, the same
answer to whether there was a key; and what is open is what the context is in.
Each beginning has its end, or its call is going on. -/
theorem security_captures_nest {n : Nat} {h : List (SecurityTiming.Obs n)} {s : Contexts n}
    (hr : Run SecurityTiming.Step (fun _ => []) h s) (c : Fin n) :
    opened mark (captures c h) = .some ((s c).filterMap Frame.key) ∧
    ∀ k, Nesting.opens mark k (captures c h) =
      Nesting.closes mark k (captures c h) + ((s c).filterMap Frame.key).count k := by
  have hopened := opened_run hr c
  exact ⟨hopened, fun k => Nesting.count_opens hopened k⟩

/-- An encrypted link's security changes, and the host's channels are told. -/
theorem security_captures_nest_changed :
    ∃ (h : List (SecurityTiming.Obs 1)) (s : SecurityTiming.Contexts 1),
      Run SecurityTiming.Step (fun _ => []) h s ∧
        (SecurityTiming.captures 0 h).length = 3 ∧
        opened SecurityTiming.mark (SecurityTiming.captures 0 h) =
          .some ((s 0).filterMap SecurityTiming.Frame.key) := by
  have hchanging : Run SecurityTiming.Step (fun _ : Fin 1 => []) _ _ :=
    Run.refl.shows (.enter 0 (.securityChanged ⟨true, true, 7⟩ 0) 100 1)
  have htelling := hchanging.shows (.enter 0 (.l2capSecurityChanged ⟨true, true, 7⟩ 0) 101 2)
  have htold := htelling.shows (.leave 0 102 2 0 0 rfl)
  have hchanged := htold.shows (.leave 0 103 2 0 0 rfl)
  exact ⟨_, _, hchanged, rfl, (security_captures_nest hchanged 0).1⟩

end TotemZmk
