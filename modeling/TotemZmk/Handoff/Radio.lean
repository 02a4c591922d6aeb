/-
`handoff_radio_tx.c`: which transmissions of a termination packet the radio
wrappers report, and whether each was completed.

The radio is shared, so a setup is resolved before the next receive phase,
before another context takes the radio, and before the END event is cleared.

* `tx_setups_resolved`: every setup has at most one result, and the right one.
* `ciphertext_never_read`: what is reported depends on plaintext opcodes alone.
* `TxRadio.step_effect`: what a wrapper does to the setup that is pending.
-/
import TotemZmk.Lib.Run
import TotemZmk.Lib.Transducer

namespace TotemZmk

open Trace (Run RunWhere)

/-- An address a wrapper is given; `.none` is `NULL`. -/
abbrev Pointer := Option Nat

/-- `PDU_DATA_LLID_CTRL` -/
def pduDataLlidCtrl : UInt8 := 3

/-- `PDU_DATA_LLCTRL_TYPE_TERMINATE_IND` -/
def pduDataLlctrlTypeTerminateInd : UInt8 := 2

/-- What `is_termination` reads of a packet. -/
structure PduData where
  llId : UInt8
  len : UInt8
  opcode : UInt8
deriving DecidableEq, Repr

/-- `is_termination` -/
def isTermination (pdu : PduData) : Bool :=
  pdu.llId = pduDataLlidCtrl && 2 ≤ pdu.len && pdu.opcode = pduDataLlctrlTypeTerminateInd

/-- What `__wrap_radio_isr_set` reads of a `struct lll_conn`. -/
structure LllConn where
  handle : UInt16
  peripheral : Bool
  encTx : Bool
deriving DecidableEq, Repr

/-- `radio_isr_cb_t` -/
inductive RadioIsrCb where
  | lllConnIsrRx
  | lllConnIsrTx
  | other
deriving DecidableEq, Repr

/-- The calls into `handoff_diagnostics.c`. -/
inductive TxCall where
  | txSetup (handle : UInt16)
  | txResult (handle : UInt16) (completed : Bool)
deriving DecidableEq, Repr

/-- `tx_radio` -/
structure TxRadio where
  param : Pointer
  handle : UInt16
  active : Bool
  encrypted : Bool
  pending : Bool
  encryptedPacket : Pointer
  encryptedTerm : Bool
deriving DecidableEq, Repr

/-- A call of a wrapper, with what it finds: the connection behind `param` and
whether its handle is armed, the packet, what the real
`radio_ccm_tx_pkt_set` returned. -/
inductive RadioOp where
  | isrSet (cb : RadioIsrCb) (param : Pointer) (lll : LllConn) (armed : Bool)
  | ccmTxPktSet (packet : PduData) (encrypted : Pointer)
  | pktTxSet (packet : Pointer) (pdu : PduData)
  | statusReset
deriving DecidableEq, Repr

namespace TxRadio

/-- At power-up. -/
def boot₀ : TxRadio := ⟨.none, 0, false, false, false, .none, false⟩

/-- `finish_pending`, the END event being `end_`. -/
def finishPending (end_ : Bool) (s : TxRadio) : TxRadio × List TxCall :=
  if s.pending then ({ s with pending := false }, [.txResult s.handle end_]) else (s, [])

/-- `__wrap_radio_isr_set` -/
def isrSet (leEnc end_ : Bool) (cb : RadioIsrCb) (param : Pointer) (lll : LllConn) (armed : Bool)
    (s : TxRadio) : TxRadio × List TxCall :=
  if cb = .lllConnIsrRx ∨ cb = .lllConnIsrTx then
    let (s, calls) := if cb = .lllConnIsrRx then s.finishPending end_ else (s, [])
    let (s, calls) :=
      if param ≠ s.param then
        let (s, calls') := s.finishPending end_
        ({ s with encryptedPacket := .none }, calls ++ calls')
      else (s, calls)
    ({ s with
        param := param
        handle := lll.handle
        active := lll.peripheral && armed
        encrypted := leEnc && lll.encTx }, calls)
  else if param ≠ s.param then
    let (s, calls) := s.finishPending end_
    ({ s with active := false, encryptedPacket := .none, param := .none }, calls)
  else (s, [])

/-- `__wrap_radio_ccm_tx_pkt_set`, which is there where `CONFIG_BT_CTLR_LE_ENC` is. -/
def ccmTxPktSet (leEnc : Bool) (packet : PduData) (encrypted : Pointer) (s : TxRadio) : TxRadio :=
  if leEnc then
    { s with encryptedPacket := encrypted, encryptedTerm := s.active && isTermination packet }
  else s

/-- The `term` of `__wrap_radio_pkt_tx_set`. -/
def term (packet : Pointer) (pdu : PduData) (s : TxRadio) : Bool :=
  s.active &&
    if s.encrypted then s.encryptedPacket = packet && s.encryptedTerm else isTermination pdu

/-- `__wrap_radio_pkt_tx_set` -/
def pktTxSet (end_ : Bool) (packet : Pointer) (pdu : PduData) (s : TxRadio) :
    TxRadio × List TxCall :=
  let term := s.term packet pdu
  let (s, calls) := ({ s with encryptedPacket := .none } : TxRadio).finishPending end_
  if term then ({ s with pending := true }, calls ++ [.txSetup s.handle]) else (s, calls)

/-- The wrappers as one. -/
def step (leEnc end_ : Bool) (op : RadioOp) (s : TxRadio) : TxRadio × List TxCall :=
  match op with
  | .isrSet cb param lll armed => s.isrSet leEnc end_ cb param lll armed
  | .ccmTxPktSet packet encrypted => (s.ccmTxPktSet leEnc packet encrypted, [])
  | .pktTxSet packet pdu => s.pktTxSet end_ packet pdu
  | .statusReset => s.finishPending end_

/-! ## What a wrapper does to the pending setup -/

/-- The calls that resolve a setup of `context`: the next packet, the status
reset, a receive phase, and another context. -/
def Resolves (context : Pointer) : RadioOp → Prop
  | .isrSet cb param _ _ => cb = .lllConnIsrRx ∨ param ≠ context
  | .ccmTxPktSet _ _ => False
  | .pktTxSet _ _ | .statusReset => True

/-- A context with a pending setup still has the handle of that setup. -/
def Keeps (s : TxRadio) : RadioOp → Prop
  | .isrSet cb param lll _ =>
    cb = .lllConnIsrTx → s.pending = true → param = s.param → lll.handle = s.handle
  | .ccmTxPktSet _ _ | .pktTxSet _ _ | .statusReset => True

/-- All that a wrapper can do to the pending setup. -/
inductive Effect (end_ : Bool) (op : RadioOp) (s s' : TxRadio) : List TxCall → Prop where
  | idle (hp : s.pending = false) (hp' : s'.pending = false) : Effect end_ op s s' []
  | stays (hp : s.pending = true) (hp' : s'.pending = true) (hparam : s'.param = s.param)
      (hhandle : s'.handle = s.handle) (hr : ¬Resolves s.param op) : Effect end_ op s s' []
  | resolved (hp : s.pending = true) (hp' : s'.pending = false) :
    Effect end_ op s s' [.txResult s.handle end_]
  | setup (hop : ∃ packet pdu, op = .pktTxSet packet pdu) (hactive : s.active = true)
      (hp' : s'.pending = true) (hparam : s'.param = s.param) (hhandle : s'.handle = s.handle) :
    Effect end_ op s s' ((s.finishPending end_).2 ++ [.txSetup s.handle])

variable {leEnc end_ : Bool} {s : TxRadio}

theorem finishPending_of_pending (hp : s.pending = true) :
    s.finishPending end_ = ({ s with pending := false }, [.txResult s.handle end_]) := if_pos hp

theorem finishPending_of_not (hp : s.pending = false) : s.finishPending end_ = (s, []) := by
  unfold finishPending
  rw [hp]
  rfl

theorem finishPending_fst : (s.finishPending end_).1 = { s with pending := false } := by
  cases hp : s.pending with
  | true => rw [finishPending_of_pending hp]
  | false =>
    rw [finishPending_of_not hp, ← hp]

theorem not_setup_mem_finish (handle : UInt16) :
    .txSetup handle ∉ (s.finishPending end_).2 := by
  cases hp : s.pending <;> simp [finishPending, hp]

theorem active_of_term {packet : Pointer} {pdu : PduData} (h : s.term packet pdu = true) :
    s.active = true := (Bool.and_eq_true_iff.mp h).1

theorem pktTxSet_eq (packet : Pointer) (pdu : PduData) : s.pktTxSet end_ packet pdu =
    ({ s with encryptedPacket := .none, pending := s.term packet pdu },
      (s.finishPending end_).2 ++ if s.term packet pdu then [.txSetup s.handle] else []) := by
  cases hp : s.pending <;> cases hterm : s.term packet pdu <;>
    simp [pktTxSet, finishPending, hp, hterm]

/-! ## The cases of `__wrap_radio_isr_set` -/

/-- The connection the wrapper remembers, with its packet or without. -/
def adopt (leEnc : Bool) (param : Pointer) (lll : LllConn) (armed : Bool)
    (encryptedPacket : Pointer) (s : TxRadio) : TxRadio :=
  { s with
    param := param
    handle := lll.handle
    active := lll.peripheral && armed
    encrypted := leEnc && lll.encTx
    encryptedPacket := encryptedPacket }

variable {param : Pointer} {lll : LllConn} {armed : Bool}

theorem isrSet_rx : s.isrSet leEnc end_ .lllConnIsrRx param lll armed =
    ((s.finishPending end_).1.adopt leEnc param lll armed
      (if param = s.param then s.encryptedPacket else .none), (s.finishPending end_).2) := by
  by_cases hparam : param = s.param <;> cases hp : s.pending <;>
    simp [isrSet, finishPending, adopt, hparam, hp]

theorem isrSet_tx_same : s.isrSet leEnc end_ .lllConnIsrTx s.param lll armed =
    (s.adopt leEnc s.param lll armed s.encryptedPacket, []) := by
  simp [isrSet, adopt]

theorem isrSet_tx_other (hparam : param ≠ s.param) :
    s.isrSet leEnc end_ .lllConnIsrTx param lll armed =
      ((s.finishPending end_).1.adopt leEnc param lll armed .none, (s.finishPending end_).2) := by
  simp [isrSet, adopt, hparam]

theorem isrSet_other_same : s.isrSet leEnc end_ .other s.param lll armed = (s, []) := by
  simp [isrSet]

theorem isrSet_other (hparam : param ≠ s.param) : s.isrSet leEnc end_ .other param lll armed =
    ({ (s.finishPending end_).1 with active := false, encryptedPacket := .none, param := .none },
      (s.finishPending end_).2) := by
  simp [isrSet, hparam]

/-- Resolving is all that `finish_pending` does, whatever is done next. -/
theorem Effect.of_finish {op : RadioOp} {s' : TxRadio}
    (hp' : s'.pending = (s.finishPending end_).1.pending) :
    Effect end_ op s s' (s.finishPending end_).2 := by
  by_cases hp : s.pending = true
  · rw [finishPending_of_pending hp] at hp' ⊢
    exact .resolved hp hp'
  · have hp := Bool.eq_false_iff.mpr hp
    rw [finishPending_of_not hp] at hp' ⊢
    exact .idle hp (hp'.trans hp)

/-- A wrapper that makes no call and leaves `pending` alone. -/
theorem Effect.of_kept {op : RadioOp} {s' : TxRadio} (hp' : s'.pending = s.pending)
    (hparam : s'.param = s.param) (hhandle : s.pending = true → s'.handle = s.handle)
    (hr : ¬Resolves s.param op) : Effect end_ op s s' [] := by
  by_cases hp : s.pending = true
  · exact .stays hp (hp'.trans hp) hparam (hhandle hp) hr
  · have hp := Bool.eq_false_iff.mpr hp
    exact .idle hp (hp'.trans hp)

theorem effect_isrSet {cb : RadioIsrCb} (hkeeps : s.Keeps (.isrSet cb param lll armed)) :
    Effect end_ (.isrSet cb param lll armed) s (s.isrSet leEnc end_ cb param lll armed).1
      (s.isrSet leEnc end_ cb param lll armed).2 := by
  cases cb with
  | lllConnIsrRx =>
    rw [isrSet_rx]
    exact .of_finish rfl
  | lllConnIsrTx =>
    by_cases hparam : param = s.param
    · rw [hparam] at hkeeps ⊢
      rw [isrSet_tx_same]
      refine .of_kept rfl rfl (fun hp => hkeeps rfl hp rfl) ?_
      rintro (hrx | hne)
      · cases hrx
      · exact hne rfl
    · rw [isrSet_tx_other hparam]
      exact .of_finish rfl
  | other =>
    by_cases hparam : param = s.param
    · rw [hparam, isrSet_other_same]
      refine .of_kept rfl rfl (fun _ => rfl) ?_
      rintro (hrx | hne)
      · cases hrx
      · exact hne rfl
    · rw [isrSet_other hparam]
      exact .of_finish rfl

theorem effect_pktTxSet (packet : Pointer) (pdu : PduData) :
    Effect end_ (.pktTxSet packet pdu) s (s.pktTxSet end_ packet pdu).1
      (s.pktTxSet end_ packet pdu).2 := by
  rw [pktTxSet_eq]
  by_cases hterm : s.term packet pdu = true
  · rw [if_pos hterm]
    exact .setup ⟨packet, pdu, rfl⟩ (active_of_term hterm) hterm rfl rfl
  · rw [if_neg hterm, List.append_nil]
    refine .of_finish ?_
    rw [finishPending_fst]
    exact Bool.eq_false_iff.mpr hterm

/-- **What a wrapper does to the pending setup.** -/
theorem step_effect (op : RadioOp) (hkeeps : s.Keeps op) :
    Effect end_ op s (s.step leEnc end_ op).1 (s.step leEnc end_ op).2 := by
  cases op with
  | isrSet cb param lll armed => exact effect_isrSet hkeeps
  | ccmTxPktSet packet encrypted =>
    show Effect end_ _ s (s.ccmTxPktSet leEnc packet encrypted) []
    have hsame : (s.ccmTxPktSet leEnc packet encrypted).pending = s.pending ∧
        (s.ccmTxPktSet leEnc packet encrypted).param = s.param ∧
        (s.ccmTxPktSet leEnc packet encrypted).handle = s.handle := by
      unfold ccmTxPktSet
      split <;> exact ⟨rfl, rfl, rfl⟩
    exact .of_kept hsame.1 hsame.2.1 (fun _ => hsame.2.2) id
  | pktTxSet packet pdu => exact effect_pktTxSet packet pdu
  | statusReset => exact .of_finish rfl

/-- The context the last `radio_isr_set` gave, `context` having been given before. -/
def contextAfter (context : Pointer) : RadioOp → Pointer
  | .isrSet _ param _ _ => param
  | .ccmTxPktSet _ _ | .pktTxSet _ _ | .statusReset => context

/-- An observer that is active, or has a setup pending, remembers the last
context. -/
theorem step_context {context : Pointer}
    (h : s.active = true ∨ s.pending = true → s.param = context) (op : RadioOp)
    (hnow : (s.step leEnc end_ op).1.active = true ∨ (s.step leEnc end_ op).1.pending = true) :
    (s.step leEnc end_ op).1.param = contextAfter context op := by
  cases op with
  | isrSet cb param lll armed =>
    show (s.isrSet leEnc end_ cb param lll armed).1.param = param
    cases cb with
    | lllConnIsrRx => rw [isrSet_rx]; rfl
    | lllConnIsrTx =>
      by_cases hparam : param = s.param
      · rw [hparam, isrSet_tx_same]; rfl
      · rw [isrSet_tx_other hparam]; rfl
    | other =>
      by_cases hparam : param = s.param
      · rw [hparam, isrSet_other_same]
      · have hoff : (s.isrSet leEnc end_ .other param lll armed).1.active = true ∨
            (s.isrSet leEnc end_ .other param lll armed).1.pending = true := hnow
        rw [isrSet_other hparam, finishPending_fst] at hoff
        simp at hoff
  | ccmTxPktSet packet encrypted =>
    have hkept : (s.ccmTxPktSet leEnc packet encrypted).param = s.param ∧
        (s.ccmTxPktSet leEnc packet encrypted).active = s.active ∧
        (s.ccmTxPktSet leEnc packet encrypted).pending = s.pending := by
      unfold ccmTxPktSet
      split <;> exact ⟨rfl, rfl, rfl⟩
    show (s.ccmTxPktSet leEnc packet encrypted).param = context
    rw [hkept.1]
    refine h ?_
    rw [← hkept.2.1, ← hkept.2.2]
    exact hnow
  | pktTxSet packet pdu =>
    have hnow : (s.pktTxSet end_ packet pdu).1.active = true ∨
        (s.pktTxSet end_ packet pdu).1.pending = true := hnow
    show (s.pktTxSet end_ packet pdu).1.param = context
    rw [pktTxSet_eq] at hnow ⊢
    rcases hnow with hactive | hterm
    · exact h (.inl hactive)
    · exact h (.inl (active_of_term hterm))
  | statusReset =>
    show (s.finishPending end_).1.param = context
    have hoff : (s.finishPending end_).1.active = true ∨
        (s.finishPending end_).1.pending = true := hnow
    rw [finishPending_fst] at hoff ⊢
    refine h (.inl ?_)
    simpa using hoff

end TxRadio

/-! ## Runs -/

/-- The observer, and the END event of the radio. -/
structure Radio where
  tx : TxRadio
  ended : Bool
deriving DecidableEq, Repr

namespace Radio

inductive Event where
  | call (op : RadioOp)
  /-- The hardware sets END. -/
  | ended
deriving DecidableEq, Repr

/-- An event, with the calls the wrapper made. -/
structure Obs where
  event : Event
  calls : List TxCall
deriving DecidableEq, Repr

/-- At power-up. -/
def boot₀ (ended : Bool) : Radio := ⟨.boot₀, ended⟩

/-- Only the real `radio_status_reset` clears END. -/
inductive Step (leEnc : Bool) : Radio → Option Obs → Radio → Prop where
  | call {s} (op : RadioOp) :
    Step leEnc s (.some ⟨.call op, (s.tx.step leEnc s.ended op).2⟩)
      ⟨(s.tx.step leEnc s.ended op).1, if op = .statusReset then false else s.ended⟩
  | ended {s} : Step leEnc s (.some ⟨.ended, []⟩) { s with ended := true }

/-- END is clear whenever a termination packet is set up, and a context keeps
its handle while a setup of its own is pending. -/
def Assumed (_ : List Obs) (s : Radio) : Option Obs → Prop
  | .some o => (∀ handle, .txSetup handle ∈ o.calls → s.ended = false) ∧
      ∀ op, o.event = .call op → s.tx.Keeps op
  | .none => True

/-! ## The history -/

/-- The context the last `radio_isr_set` gave. -/
def context : List Obs → Pointer
  | [] => .none
  | o :: h =>
    match o.event with
    | .call op => TxRadio.contextAfter (context h) op
    | .ended => context h

/-- All calls, in order. -/
def calls : List Obs → List TxCall
  | [] => []
  | o :: h => calls h ++ o.calls

/-- An event of a kind that resolves a setup of `context`. -/
def Event.Resolves (context : Pointer) : Event → Prop
  | .call op => TxRadio.Resolves context op
  | .ended => False

/-- A setup without a result, and whether END came since. -/
structure OpenSetup where
  handle : UInt16
  context : Pointer
  ended : Bool
deriving DecidableEq, Repr

/-- The last setup, if no result came since. -/
def openSetup : List Obs → Option OpenSetup
  | [] => .none
  | o :: h =>
    match o.calls.getLast? with
    | .some (.txSetup handle) => .some ⟨handle, context h, false⟩
    | .some (.txResult _ _) => .none
    | .none => (openSetup h).map fun u => { u with ended := o.event = .ended || u.ended }

/-- Setups with their results. -/
def resolvedCalls (resolved : List (UInt16 × Bool)) : List TxCall :=
  resolved.flatMap fun r => [.txSetup r.1, .txResult r.1 r.2]

/-! ## What a step keeps -/

variable {leEnc : Bool} {h : List Obs} {s s' : Radio} {o : Option Obs} {o₁ : Obs}

/-- The state has the open setup of the history. -/
structure Inv (h : List Obs) (s : Radio) : Prop where
  context : s.tx.active = true ∨ s.tx.pending = true → s.tx.param = context h
  openSetup : openSetup h =
    if s.tx.pending then .some ⟨s.tx.handle, s.tx.param, s.ended⟩ else .none
  calls : ∃ resolved, calls h =
    resolvedCalls resolved ++ if s.tx.pending then [.txSetup s.tx.handle] else []

theorem inv_boot₀ (ended : Bool) : Inv [] (boot₀ ended) where
  context := by rintro (h | h) <;> cases h
  openSetup := rfl
  calls := ⟨[], rfl⟩

theorem resolvedCalls_concat (resolved : List (UInt16 × Bool)) (handle : UInt16) (c : Bool) :
    resolvedCalls resolved ++ [.txSetup handle] ++ [.txResult handle c] =
      resolvedCalls (resolved ++ [(handle, c)]) := by
  simp [resolvedCalls]

theorem openSetup_silent {o : Obs} (ho : o.calls = []) : openSetup (o :: h) =
    (openSetup h).map fun u => { u with ended := o.event = .ended || u.ended } := by
  rw [openSetup, ho]
  rfl

theorem openSetup_result {o : Obs} {handle : UInt16} {completed : Bool}
    (ho : o.calls.getLast? = .some (.txResult handle completed)) : openSetup (o :: h) = .none := by
  rw [openSetup, ho]

theorem openSetup_setup {o : Obs} {handle : UInt16}
    (ho : o.calls.getLast? = .some (.txSetup handle)) :
    openSetup (o :: h) = .some ⟨handle, context h, false⟩ := by
  rw [openSetup, ho]

theorem openSetup_call (hi : Inv h s) {op : RadioOp} {tx : TxRadio} {calls : List TxCall}
    (heffect : TxRadio.Effect s.ended op s.tx tx calls)
    (hclear : ∀ handle, .txSetup handle ∈ calls → s.ended = false) :
    openSetup (⟨.call op, calls⟩ :: h) =
      if tx.pending then
        .some ⟨tx.handle, tx.param, if op = .statusReset then false else s.ended⟩
      else .none := by
  have hopen := hi.openSetup
  cases heffect with
  | idle hp hp' =>
    rw [hp, if_neg (by decide)] at hopen
    rw [openSetup_silent rfl, hopen, hp']
    rfl
  | stays hp hp' hparam hhandle hr =>
    rw [hp, if_pos rfl] at hopen
    have hop : op ≠ .statusReset := by
      rintro rfl
      exact hr trivial
    rw [openSetup_silent rfl, hopen, hp', if_pos rfl, if_neg hop, hparam, hhandle]
    rfl
  | resolved hp hp' =>
    rw [openSetup_result rfl, hp']
    rfl
  | setup hop hactive hp' hparam hhandle =>
    obtain ⟨packet, pdu, rfl⟩ := hop
    have hended := hclear s.tx.handle (List.mem_append_right _ (List.mem_singleton.mpr rfl))
    rw [openSetup_setup List.getLast?_concat, hp', if_pos rfl, hparam, hhandle,
      hi.context (.inl hactive), hended, ite_self]

theorem calls_call (hi : Inv h s) {op : RadioOp} {tx : TxRadio} {calls' : List TxCall}
    (heffect : TxRadio.Effect s.ended op s.tx tx calls') :
    ∃ resolved, calls (⟨.call op, calls'⟩ :: h) =
      resolvedCalls resolved ++ if tx.pending then [.txSetup tx.handle] else [] := by
  obtain ⟨resolved, hcalls⟩ := hi.calls
  rw [calls, hcalls]
  cases heffect with
  | idle hp hp' =>
    refine ⟨resolved, ?_⟩
    rw [hp, hp', List.append_nil]
    rfl
  | stays hp hp' hparam hhandle hr =>
    exact ⟨resolved, by rw [hp, hp', List.append_nil, hhandle]⟩
  | resolved hp hp' =>
    refine ⟨resolved ++ [(s.tx.handle, s.ended)], ?_⟩
    rw [hp, hp', if_pos rfl, resolvedCalls_concat, if_neg (by decide), List.append_nil]
  | setup hop hactive hp' hparam hhandle =>
    rw [hp', if_pos rfl, hhandle]
    by_cases hp : s.tx.pending = true
    · refine ⟨resolved ++ [(s.tx.handle, s.ended)], ?_⟩
      rw [TxRadio.finishPending_of_pending hp, if_pos hp, ← List.append_assoc,
        resolvedCalls_concat]
    · refine ⟨resolved, ?_⟩
      rw [TxRadio.finishPending_of_not (Bool.eq_false_iff.mpr hp), if_neg hp, List.append_nil,
        List.nil_append]

theorem Inv.call (hi : Inv h s) (op : RadioOp)
    (hclear : ∀ handle, .txSetup handle ∈ (s.tx.step leEnc s.ended op).2 → s.ended = false)
    (hkeeps : s.tx.Keeps op) :
    Inv (⟨.call op, (s.tx.step leEnc s.ended op).2⟩ :: h)
      ⟨(s.tx.step leEnc s.ended op).1, if op = .statusReset then false else s.ended⟩ where
  context := TxRadio.step_context hi.context op
  openSetup := openSetup_call hi (TxRadio.step_effect op hkeeps) hclear
  calls := calls_call hi (TxRadio.step_effect op hkeeps)

theorem Inv.ended (hi : Inv h s) : Inv (⟨.ended, []⟩ :: h) { s with ended := true } where
  context := hi.context
  openSetup := by
    rw [openSetup_silent rfl, hi.openSetup]
    cases s.tx.pending <;> rfl
  calls := by
    obtain ⟨resolved, hcalls⟩ := hi.calls
    exact ⟨resolved, by rw [Radio.calls, hcalls, List.append_nil]⟩

theorem Inv.step (hi : Inv h s) (hs : Step leEnc s o s') (ha : Assumed h s o) :
    Inv (o.toList ++ h) s' := by
  cases hs with
  | call op => exact hi.call op ha.1 (ha.2 op rfl)
  | ended => exact hi.ended

theorem openSetup_between {between earlier : List Obs} {o₀ : Obs} {handle : UInt16}
    (hlast : o₀.calls.getLast? = .some (.txSetup handle)) (hsilent : ∀ e ∈ between, e.calls = []) :
    openSetup (between ++ o₀ :: earlier) =
      .some ⟨handle, context earlier, between.any fun e => e.event = .ended⟩ := by
  induction between with
  | nil => exact openSetup_setup hlast
  | cons e between ih =>
    rw [List.cons_append, openSetup_silent (hsilent e List.mem_cons_self),
      ih fun e he => hsilent e (List.mem_cons_of_mem _ he)]
    rfl

theorem getLast?_of_setup {o : Obs} {handle : UInt16} (hs : Step leEnc s (.some o) s')
    (ha : Assumed h s (.some o)) (hmem : .txSetup handle ∈ o.calls) :
    o.calls.getLast? = .some (.txSetup handle) := by
  cases hs with
  | call op =>
    have heffect : TxRadio.Effect s.ended op s.tx (s.tx.step leEnc s.ended op).1
        (s.tx.step leEnc s.ended op).2 := TxRadio.step_effect op (ha.2 op rfl)
    dsimp only at hmem ⊢
    generalize (s.tx.step leEnc s.ended op).1 = tx at heffect
    generalize (s.tx.step leEnc s.ended op).2 = calls at heffect hmem ⊢
    cases heffect with
    | idle hp hp' => cases hmem
    | stays hp hp' hparam hhandle hr => cases hmem
    | resolved hp hp' => simp at hmem
    | setup hop hactive hp' hparam hhandle =>
      rw [List.getLast?_concat]
      rcases List.mem_append.mp hmem with hmem | hmem
      · exact absurd hmem (TxRadio.not_setup_mem_finish handle)
      · rw [List.mem_singleton.mp hmem]
  | ended => cases hmem

/-- What a step does about an open setup. -/
structure Answers (u : OpenSetup) (o : Obs) : Prop where
  result : ∀ handle completed, .txResult handle completed ∈ o.calls →
    handle = u.handle ∧ completed = u.ended
  resolves : o.event.Resolves u.context → ∃ completed, .txResult u.handle completed ∈ o.calls

theorem answers_call {u : OpenSetup} {op : RadioOp} {tx : TxRadio} {calls : List TxCall}
    (hp : s.tx.pending = true) (hu : u = ⟨s.tx.handle, s.tx.param, s.ended⟩)
    (heffect : TxRadio.Effect s.ended op s.tx tx calls) : Answers u ⟨.call op, calls⟩ := by
  rw [hu]
  cases heffect with
  | idle hp₀ hp' =>
    rw [hp] at hp₀
    cases hp₀
  | stays hp₀ hp' hparam hhandle hr =>
    exact ⟨fun handle completed hmem => absurd hmem List.not_mem_nil, fun h => absurd h hr⟩
  | resolved hp₀ hp' =>
    refine ⟨fun handle completed hmem => ?_, fun _ => ⟨s.ended, List.mem_cons_self⟩⟩
    cases List.mem_singleton.mp hmem
    exact ⟨rfl, rfl⟩
  | setup hop hactive hp' hparam hhandle =>
    rw [TxRadio.finishPending_of_pending hp]
    refine ⟨fun handle completed hmem => ?_, fun _ => ⟨s.ended, List.mem_cons_self⟩⟩
    rcases List.mem_cons.mp hmem with he | hmem
    · cases he
      exact ⟨rfl, rfl⟩
    · cases List.mem_singleton.mp hmem

theorem answers_of_inv {u : OpenSetup} (hi : Inv h s) (hs : Step leEnc s (.some o₁) s')
    (ha : Assumed h s (.some o₁)) (hu : openSetup h = .some u) : Answers u o₁ := by
  rw [hi.openSetup] at hu
  by_cases hp : s.tx.pending = true
  · rw [if_pos hp] at hu
    cases hu
    cases hs with
    | call op => exact answers_call hp rfl (TxRadio.step_effect op (ha.2 op rfl))
    | ended => exact ⟨fun handle completed hmem => absurd hmem List.not_mem_nil, False.elim⟩
  · rw [if_neg hp] at hu
    cases hu

end Radio

/-- **Each termination setup is resolved once, and classified right.** Setups
and results alternate, each result having the handle of its setup, and only the
last setup may be open. A result says completed exactly when END occurred after
the setup and before the call that resolved it, and the next packet, status
reset, receive phase or other context resolves it. -/
theorem tx_setups_resolved (leEnc ended₀ : Bool) {h : List Radio.Obs} {s : Radio}
    (hr : RunWhere (Radio.Step leEnc) Radio.Assumed (.boot₀ ended₀) h s) :
    (∃ (resolved : List (UInt16 × Bool)) (open_ : Option UInt16), Radio.calls h =
      (resolved.flatMap fun r => [.txSetup r.1, .txResult r.1 r.2]) ++
        open_.toList.map .txSetup) ∧
    ∀ later o between o₀ earlier handle, h = later ++ o :: (between ++ o₀ :: earlier) →
      .txSetup handle ∈ o₀.calls → (∀ e ∈ between, e.calls = []) →
      (∀ handle' completed, .txResult handle' completed ∈ o.calls →
        handle' = handle ∧ (completed = true ↔ ∃ e ∈ between, e.event = .ended)) ∧
      (o.event.Resolves (Radio.context earlier) →
        ∃ completed, .txResult handle completed ∈ o.calls) := by
  refine ⟨?_, ?_⟩
  · have hi : Radio.Inv h s := hr.invariant (Radio.inv_boot₀ ended₀) Radio.Inv.step
    obtain ⟨resolved, hcalls⟩ := hi.calls
    refine ⟨resolved, if s.tx.pending then .some s.tx.handle else .none, ?_⟩
    rw [hcalls]
    cases s.tx.pending <;> rfl
  · intro later o between o₀ earlier handle he hmem hsilent
    obtain ⟨s₁, s₂, hr₁, hs₁, ha₁⟩ := hr.split he
    obtain ⟨s₃, s₄, -, hs₃, ha₃⟩ := hr₁.split rfl
    have hi : Radio.Inv _ s₁ := hr₁.invariant (Radio.inv_boot₀ ended₀) Radio.Inv.step
    have hopen : Radio.openSetup (between ++ o₀ :: earlier) = .some _ :=
      Radio.openSetup_between (Radio.getLast?_of_setup hs₃ ha₃ hmem) hsilent
    obtain ⟨hresult, hresolves⟩ := Radio.answers_of_inv hi hs₁ ha₁ hopen
    refine ⟨fun handle' completed hc => ?_, hresolves⟩
    obtain ⟨hhandle, hcompleted⟩ := hresult handle' completed hc
    refine ⟨hhandle, ?_⟩
    rw [hcompleted]
    simp

/-- A termination packet of handle 1 is set up and sent. -/
theorem tx_setups_resolved_sent :
    ∃ (h : List Radio.Obs) (s : Radio),
      RunWhere (Radio.Step true) Radio.Assumed (.boot₀ false) h s ∧
      (∃ (resolved : List (UInt16 × Bool)) (open_ : Option UInt16), Radio.calls h =
        (resolved.flatMap fun r => [.txSetup r.1, .txResult r.1 r.2]) ++
          open_.toList.map .txSetup) ∧
      ∃ o earlier, h = o :: earlier ∧ .txResult 1 true ∈ o.calls := by
  have hadopted : RunWhere (Radio.Step true) Radio.Assumed (.boot₀ false) _ _ :=
    RunWhere.refl.shows (.call (.isrSet .lllConnIsrRx (.some 8) ⟨1, true, false⟩ true))
      ⟨fun _ _ => rfl, by rintro op ⟨⟩ ⟨⟩⟩
  have hsetup := hadopted.shows (.call (.pktTxSet (.some 16) ⟨3, 2, 2⟩))
    ⟨fun _ _ => rfl, by rintro op ⟨⟩; trivial⟩
  have hended := hsetup.shows .ended ⟨fun handle h => (nomatch h), by rintro op ⟨⟩⟩
  have hsent := hended.shows (.call .statusReset)
    ⟨fun handle h => absurd h (by simp [TxRadio.step, TxRadio.not_setup_mem_finish]),
      by rintro op ⟨⟩; trivial⟩
  obtain ⟨hpaired, hclassified⟩ := tx_setups_resolved true false hsent
  obtain ⟨hright, hresolved⟩ := hclassified [] _ [⟨.ended, []⟩] _ _ 1 rfl (by decide) (by simp)
  obtain ⟨completed, hresult⟩ := hresolved trivial
  have hcompleted : completed = true :=
    (hright 1 completed hresult).2.mpr ⟨_, List.mem_singleton_self _, rfl⟩
  rw [hcompleted] at hresult
  exact ⟨_, _, hsent, hpaired, _, _, rfl, hresult⟩

/-! ## What the calls say -/

/-- What the calls alone say of the radio: the context given last, whether it is still
that of a peripheral's connection whose handle was armed, and whether the connection
last given encrypts. -/
structure RadioContext where
  param : Pointer
  armed : Bool
  encrypted : Bool
deriving DecidableEq, Repr

namespace RadioContext

def boot₀ : RadioContext := ⟨.none, false, false⟩

/-- Only `radio_isr_set` changes it. -/
def after (leEnc : Bool) (c : RadioContext) : RadioOp → RadioContext
  | .isrSet .lllConnIsrRx param lll armed | .isrSet .lllConnIsrTx param lll armed =>
    ⟨param, lll.peripheral && armed, leEnc && lll.encTx⟩
  | .isrSet .other param _ _ => ⟨param, c.armed && param = c.param, c.encrypted⟩
  | .ccmTxPktSet _ _ | .pktTxSet _ _ | .statusReset => c

/-- After a row of calls. -/
def afterAll (leEnc : Bool) (ins : List (RadioOp × Bool)) : RadioContext :=
  ins.foldl (fun c i => c.after leEnc i.1) boot₀

/-- Without encryption in the build, no context encrypts. -/
theorem leEnc_of_encrypted {leEnc : Bool} {ins : List (RadioOp × Bool)}
    (h : (afterAll leEnc ins).encrypted = true) : leEnc = true := by
  have hfold : ∀ (ins : List (RadioOp × Bool)) (c : RadioContext), (c.encrypted = true → leEnc = true) →
      (ins.foldl (fun c i => c.after leEnc i.1) c).encrypted = true → leEnc = true := ?_
  · exact hfold ins boot₀ (fun h => nomatch h) h
  intro ins
  induction ins with
  | nil => exact fun _ => id
  | cons i ins ih =>
    intro c hc
    refine ih (c.after leEnc i.1) ?_
    obtain ⟨op, end_⟩ := i
    cases op with
    | isrSet cb param lll armed =>
      cases cb with
      | lllConnIsrRx | lllConnIsrTx => exact fun h => (Bool.and_eq_true_iff.mp h).1
      | other => exact hc
    | ccmTxPktSet | pktTxSet | statusReset => exact hc

end RadioContext

/-! ## What the observer depends on -/

namespace TxRadio

/-- A call of a wrapper, with the END event as it reads it. -/
def observe (leEnc : Bool) (s : TxRadio) (i : RadioOp × Bool) : TxRadio × List TxCall :=
  s.step leEnc i.2 i.1

/-- The same call, of packets that may differ in all but whether those of
`radio_ccm_tx_pkt_set`, and of `radio_pkt_tx_set` where nothing is encrypted, are
termination packets. -/
inductive Alike (encrypted : Bool) : RadioOp → RadioOp → Prop where
  | isrSet (cb : RadioIsrCb) (param : Pointer) (lll : LllConn) (armed : Bool) :
    Alike encrypted (.isrSet cb param lll armed) (.isrSet cb param lll armed)
  | ccmTxPktSet {packet packet' : PduData} (result : Pointer)
      (h : isTermination packet = isTermination packet') :
    Alike encrypted (.ccmTxPktSet packet result) (.ccmTxPktSet packet' result)
  | pktTxSet (packet : Pointer) {pdu pdu' : PduData}
      (h : encrypted = false → isTermination pdu = isTermination pdu') :
    Alike encrypted (.pktTxSet packet pdu) (.pktTxSet packet pdu')
  | statusReset : Alike encrypted .statusReset .statusReset

/-- Two rows of such calls with the same END values, `c` being what the calls before
them say. -/
inductive AlikeCalls (leEnc : Bool) :
    RadioContext → List (RadioOp × Bool) → List (RadioOp × Bool) → Prop where
  | nil {c} : AlikeCalls leEnc c [] []
  | cons {c op op' end_ ins ins'} (h : Alike c.encrypted op op')
      (hs : AlikeCalls leEnc (c.after leEnc op) ins ins') :
    AlikeCalls leEnc c ((op, end_) :: ins) ((op', end_) :: ins')

/-- Calls that leave the packet of `radio_ccm_tx_pkt_set` with `context`. -/
def KeepsPacket (context : Pointer) : RadioOp → Prop
  | .isrSet _ param _ _ => param = context
  | .ccmTxPktSet _ _ | .pktTxSet _ _ => False
  | .statusReset => True

variable {leEnc end_ : Bool} {s : TxRadio} {c : RadioContext} {ins ins' : List (RadioOp × Bool)}

/-- The observer has what the calls say. -/
structure Agrees (c : RadioContext) (s : TxRadio) : Prop where
  active : s.active = c.armed
  encrypted : s.encrypted = c.encrypted
  param : s.active = true → s.param = c.param

theorem agrees_isrSet (h : Agrees c s) (cb : RadioIsrCb) (param : Pointer) (lll : LllConn)
    (armed : Bool) : Agrees (c.after leEnc (.isrSet cb param lll armed))
      (s.isrSet leEnc end_ cb param lll armed).1 := by
  cases cb with
  | lllConnIsrRx =>
    rw [isrSet_rx]
    exact ⟨rfl, rfl, fun _ => rfl⟩
  | lllConnIsrTx =>
    by_cases hparam : param = s.param
    · rw [hparam, isrSet_tx_same]
      exact ⟨rfl, rfl, fun _ => rfl⟩
    · rw [isrSet_tx_other hparam]
      exact ⟨rfl, rfl, fun _ => rfl⟩
  | other =>
    have hactive : s.active = true ↔ c.armed = true := by rw [h.active]
    by_cases hparam : param = s.param
    · rw [hparam, isrSet_other_same]
      refine ⟨?_, h.encrypted, fun _ => rfl⟩
      show s.active = (c.armed && decide (s.param = c.param))
      by_cases hup : s.active = true
      · rw [h.param hup, ← h.active, hup]
        simp
      · rw [← h.active, Bool.eq_false_iff.mpr hup]
        rfl
    · rw [isrSet_other hparam, finishPending_fst]
      refine ⟨?_, h.encrypted, fun hoff => nomatch hoff⟩
      show false = (c.armed && decide (param = c.param))
      by_cases hup : c.armed = true
      · have hother : param ≠ c.param := h.param (hactive.mpr hup) ▸ hparam
        rw [decide_eq_false hother, Bool.and_false]
      · rw [Bool.eq_false_iff.mpr hup]
        rfl

theorem agrees_step (h : Agrees c s) (op : RadioOp) :
    Agrees (c.after leEnc op) (s.step leEnc end_ op).1 := by
  cases op with
  | isrSet cb param lll armed => exact agrees_isrSet h cb param lll armed
  | ccmTxPktSet packet result =>
    show Agrees c (s.ccmTxPktSet leEnc packet result)
    unfold ccmTxPktSet
    split
    · exact ⟨h.active, h.encrypted, h.param⟩
    · exact h
  | pktTxSet packet pdu =>
    show Agrees c (s.pktTxSet end_ packet pdu).1
    rw [pktTxSet_eq]
    exact ⟨h.active, h.encrypted, h.param⟩
  | statusReset =>
    show Agrees c (s.finishPending end_).1
    rw [finishPending_fst]
    exact ⟨h.active, h.encrypted, h.param⟩

/-- **After every row of calls** the observer has what they say. -/
theorem agrees_run (leEnc : Bool) (ins : List (RadioOp × Bool)) :
    Agrees (.afterAll leEnc ins) (Transducer.run (observe leEnc) boot₀ ins).1 := by
  have hfold : ∀ (ins : List (RadioOp × Bool)) (c : RadioContext) (s : TxRadio), Agrees c s →
      Agrees (ins.foldl (fun c i => c.after leEnc i.1) c) (Transducer.run (observe leEnc) s ins).1 := ?_
  · exact hfold ins .boot₀ boot₀ ⟨rfl, rfl, fun h => nomatch h⟩
  intro ins
  induction ins with
  | nil => exact fun _ _ => id
  | cons i ins ih => exact fun c s h => ih _ _ (agrees_step h i.1)

theorem step_of_alike {op op' : RadioOp} (h : Alike s.encrypted op op') :
    s.step leEnc end_ op = s.step leEnc end_ op' := by
  cases h with
  | isrSet cb param lll armed => rfl
  | ccmTxPktSet result h =>
    show (s.ccmTxPktSet leEnc _ result, _) = (s.ccmTxPktSet leEnc _ result, _)
    unfold ccmTxPktSet
    rw [h]
  | @pktTxSet packet pdu pdu' h =>
    have hterm : s.term packet pdu = s.term packet pdu' := by
      unfold term
      by_cases henc : s.encrypted = true
      · rw [if_pos henc, if_pos henc]
      · rw [if_neg henc, if_neg henc, h (Bool.eq_false_iff.mpr henc)]
    show s.pktTxSet end_ packet pdu = s.pktTxSet end_ packet pdu'
    rw [pktTxSet_eq, pktTxSet_eq, hterm]
  | statusReset => rfl

theorem run_of_alike (h : AlikeCalls leEnc c ins ins') (hs : Agrees c s) :
    Transducer.run (observe leEnc) s ins = Transducer.run (observe leEnc) s ins' := by
  induction h generalizing s with
  | nil => rfl
  | @cons c op op' end_ ins ins' halike _ ih =>
    rw [← hs.encrypted] at halike
    have hone : s.observe leEnc (op, end_) = s.observe leEnc (op', end_) := step_of_alike halike
    have hnext : Agrees (c.after leEnc op) (s.step leEnc end_ op).1 := agrees_step hs op
    have hrest := ih hnext
    rw [Transducer.run_cons, Transducer.run_cons, ← hone]
    exact congrArg (fun rest : TxRadio × List TxCall => (rest.1, _ ++ rest.2)) hrest

/-- The packet of a termination, for `context`. -/
def Associated (packet : Nat) (context : Pointer) (s : TxRadio) : Prop :=
  s.encryptedPacket = .some packet ∧ s.encryptedTerm = true ∧ s.param = context

theorem associated_step (packet : Nat) (context : Pointer) (i : RadioOp × Bool) :
    Associated packet context (s.observe true i).1 ↔
      (∃ plain, i.1 = .ccmTxPktSet plain (.some packet) ∧ isTermination plain = true ∧
        s.active = true ∧ s.param = context) ∨
      Associated packet context s ∧ KeepsPacket context i.1 := by
  obtain ⟨op, end_⟩ := i
  cases op with
  | isrSet cb param lll armed =>
    show Associated packet context (s.isrSet true end_ cb param lll armed).1 ↔ _
    by_cases hparam : param = s.param
    · cases cb with
      | lllConnIsrRx =>
        rw [isrSet_rx, finishPending_fst, if_pos hparam]
        simp [Associated, KeepsPacket, adopt, hparam, and_assoc]
      | lllConnIsrTx =>
        rw [hparam, isrSet_tx_same]
        simp [Associated, KeepsPacket, adopt, and_assoc]
      | other =>
        rw [hparam, isrSet_other_same]
        simp [Associated, KeepsPacket, and_assoc]
    · -- Another context: the packet is dropped, and was for the context before.
      have hnone : (s.isrSet true end_ cb param lll armed).1.encryptedPacket = .none := by
        cases cb with
        | lllConnIsrRx => rw [isrSet_rx, if_neg hparam]; rfl
        | lllConnIsrTx => rw [isrSet_tx_other hparam]; rfl
        | other => rw [isrSet_other hparam]
      refine ⟨fun h => ?_, ?_⟩
      · rw [h.1] at hnone
        cases hnone
      · rintro (⟨plain, he, -⟩ | ⟨h, rfl⟩)
        · cases he
        · exact absurd h.2.2.symm hparam
  | ccmTxPktSet plain encrypted =>
    show Associated packet context
      { s with encryptedPacket := encrypted, encryptedTerm := s.active && isTermination plain } ↔ _
    simp only [Associated, KeepsPacket, RadioOp.ccmTxPktSet.injEq, Bool.and_eq_true]
    grind
  | pktTxSet p pdu =>
    show Associated packet context (s.pktTxSet end_ p pdu).1 ↔ _
    rw [pktTxSet_eq]
    simp [Associated, KeepsPacket]
  | statusReset =>
    show Associated packet context (s.finishPending end_).1 ↔ _
    rw [finishPending_fst]
    simp [Associated, KeepsPacket]

/-- In an encrypted context, a setup is of the packet associated. -/
theorem setup_iff_associated {packet : Nat} {pdu : PduData} (henc : s.encrypted = true) :
    (∃ handle, .txSetup handle ∈ (s.step leEnc end_ (.pktTxSet (.some packet) pdu)).2) ↔
      s.active = true ∧ Associated packet s.param s := by
  show (∃ handle, .txSetup handle ∈ (s.pktTxSet end_ (.some packet) pdu).2) ↔ _
  have hterm : s.term (.some packet) pdu = true ↔ s.active = true ∧ Associated packet s.param s := by
    simp [term, Associated, henc]
  rw [pktTxSet_eq, ← hterm]
  dsimp only
  refine ⟨?_, fun h => ⟨s.handle, ?_⟩⟩
  · intro hx
    obtain ⟨handle, hmem⟩ := hx
    rcases List.mem_append.mp hmem with hmem | hmem
    · exact absurd hmem (not_setup_mem_finish handle)
    · by_contra hnot
      rw [if_neg hnot] at hmem
      cases hmem
  · rw [if_pos h]
    exact List.mem_append_right _ (List.mem_singleton.mpr rfl)

/-- **The packet associated** is that of the last plaintext, while its context
kept the radio. -/
theorem associated_run (packet : Nat) (context : Pointer) (ins : List (RadioOp × Bool)) :
    Associated packet context (Transducer.run (observe true) boot₀ ins).1 ↔
      ∃ before i after, ins = before ++ i :: after ∧
        (∃ plain, i.1 = .ccmTxPktSet plain (.some packet) ∧ isTermination plain = true ∧
          (Transducer.run (observe true) boot₀ before).1.active = true ∧
          (Transducer.run (observe true) boot₀ before).1.param = context) ∧
        ∀ x ∈ after, KeepsPacket context x.1 :=
  Transducer.run_latch (fun h => nomatch h.1) (fun _ i => associated_step packet context i) ins

/-- **What is associated**, by what the calls say. -/
theorem associated_iff {packet : Nat} :
    Associated packet (Transducer.run (observe true) boot₀ ins).1.param
        (Transducer.run (observe true) boot₀ ins).1 ↔
      ∃ before plain endThen after,
        ins = before ++ (.ccmTxPktSet plain (.some packet), endThen) :: after ∧
        isTermination plain = true ∧ (RadioContext.afterAll true before).armed = true ∧
        ∀ x ∈ after, KeepsPacket (RadioContext.afterAll true before).param x.1 := by
  refine ⟨fun h => ?_, ?_⟩
  · obtain ⟨before, ⟨op, endThen⟩, after, he, ⟨plain, rfl, hterm, hthen, hparam⟩, hkeeps⟩ :=
      (associated_run packet _ ins).mp h
    have hbefore := agrees_run true before
    refine ⟨before, plain, endThen, after, he, hterm, hbefore.active ▸ hthen, ?_⟩
    rw [← hbefore.param hthen, hparam]
    exact hkeeps
  · intro hx
    obtain ⟨before, plain, endThen, after, he, hterm, hthen, hkeeps⟩ := hx
    have hbefore := agrees_run true before
    rw [← hbefore.active] at hthen
    rw [← hbefore.param hthen] at hkeeps
    have h := (associated_run packet _ ins).mpr
      ⟨before, _, after, he, ⟨plain, rfl, hterm, hthen, rfl⟩, hkeeps⟩
    exact ⟨h.1, h.2.1, rfl⟩

end TxRadio

open TxRadio in
/-- **The observer never depends on ciphertext or payload.** Whether a context is
encrypted, and armed, is what the calls of `radio_isr_set` say, and the observer has
that. Runs of the same calls, whose packets differ in all but whether those given to
`radio_ccm_tx_pkt_set`, and to `radio_pkt_tx_set` in an unencrypted context, are
termination packets, make the same reports. In an encrypted context a setup of the
packet `packet` is reported exactly when the last `radio_ccm_tx_pkt_set` since the last
`radio_pkt_tx_set` returned it for a termination packet, no other context took the
radio since, and the observer was active then and is now. -/
theorem ciphertext_never_read (leEnc : Bool) :
    (∀ ins, (Transducer.run (observe leEnc) boot₀ ins).1.active =
        (RadioContext.afterAll leEnc ins).armed ∧
      (Transducer.run (observe leEnc) boot₀ ins).1.encrypted =
        (RadioContext.afterAll leEnc ins).encrypted) ∧
    (∀ ins ins', AlikeCalls leEnc .boot₀ ins ins' →
      (Transducer.run (observe leEnc) boot₀ ins).2 =
        (Transducer.run (observe leEnc) boot₀ ins').2) ∧
    ∀ (ins : List (RadioOp × Bool)) (packet : Nat) (pdu : PduData) (end_ : Bool),
      (RadioContext.afterAll leEnc ins).encrypted = true →
      ((∃ handle, .txSetup handle ∈ ((Transducer.run (observe leEnc) boot₀ ins).1.step leEnc end_
          (.pktTxSet (.some packet) pdu)).2) ↔
        (RadioContext.afterAll leEnc ins).armed = true ∧ ∃ before plain endThen after,
          ins = before ++ (.ccmTxPktSet plain (.some packet), endThen) :: after ∧
          isTermination plain = true ∧ (RadioContext.afterAll leEnc before).armed = true ∧
          ∀ x ∈ after, KeepsPacket (RadioContext.afterAll leEnc before).param x.1) := by
  refine ⟨fun ins => ?_, fun ins ins' h => ?_, ?_⟩
  · have hagrees := agrees_run leEnc ins
    exact ⟨hagrees.active, hagrees.encrypted⟩
  · exact congrArg Prod.snd (run_of_alike h (agrees_run leEnc []))
  · intro ins packet pdu end_ henc
    obtain rfl := RadioContext.leEnc_of_encrypted henc
    have hagrees := agrees_run true ins
    rw [setup_iff_associated (hagrees.encrypted.trans henc), hagrees.active]
    exact and_congr_right fun _ => associated_iff

open TxRadio in
/-- A connection that comes to encrypt: its termination packet is reported, whatever
bytes the encrypted packet holds. -/
theorem ciphertext_never_read_encrypted :
    let ins (plain : PduData) : List (RadioOp × Bool) :=
      [(.isrSet .lllConnIsrRx (.some 8) ⟨1, true, false⟩ true, false),
        (.pktTxSet (.some 12) ⟨2, 27, 2⟩, false), (.statusReset, true),
        (.isrSet .lllConnIsrRx (.some 8) ⟨1, true, true⟩ true, false),
        (.ccmTxPktSet plain (.some 16), false),
        (.isrSet .lllConnIsrTx (.some 8) ⟨1, true, true⟩ true, false)]
    (∃ handle, .txSetup handle ∈ ((Transducer.run (observe true) boot₀ (ins ⟨3, 2, 2⟩)).1.step true
        false (.pktTxSet (.some 16) ⟨2, 27, 180⟩)).2) ∧
      (Transducer.run (observe true) boot₀
          (ins ⟨3, 2, 2⟩ ++ [(.pktTxSet (.some 16) ⟨3, 2, 2⟩, false)])).2 =
        (Transducer.run (observe true) boot₀
          (ins ⟨3, 9, 2⟩ ++ [(.pktTxSet (.some 16) ⟨2, 27, 180⟩, false)])).2 := by
  intro ins
  obtain ⟨-, hsame, hreported⟩ := ciphertext_never_read true
  refine ⟨?_, hsame _ _ ?_⟩
  · refine (hreported (ins ⟨3, 2, 2⟩) 16 ⟨2, 27, 180⟩ false rfl).mpr ⟨rfl, ?_⟩
    refine ⟨[_, _, _, _], ⟨3, 2, 2⟩, false, [_], rfl, rfl, rfl, ?_⟩
    intro x hx
    rw [List.mem_singleton.mp hx]
    rfl
  · refine .cons (.isrSet _ _ _ _) <| .cons (.pktTxSet _ fun _ => rfl) <| .cons .statusReset <|
      .cons (.isrSet _ _ _ _) <| .cons (.ccmTxPktSet _ rfl) <| .cons (.isrSet _ _ _ _) <|
      .cons (.pktTxSet _ ?_) .nil
    exact fun hplain => nomatch hplain

end TotemZmk
