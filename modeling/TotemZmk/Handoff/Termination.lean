/-
How a handoff ends, as `handoff_diagnostics.c` records it: the termination packet
queued, the acknowledgement, the expiry of the local timer.

A wrapper asks whether the handle is armed in the lock, and captures after it, so
that others may capture, and the handle may be disarmed, in between.

* `elapse_passed`: the wrapper of the timers returns what the controller did.
* `elapse_expired`: what makes a stage 4, of all that `ull_cp_prt_elapse` may say.
* `termination_told`: what the stages 2, 3 and 4 stand for.
-/
import TotemZmk.Handoff.Balance

namespace TotemZmk

open Trace (Run)

/-- `ETIMEDOUT` -/
def etimedout : Int := 116

/-- `PROC_TERMINATE`, or another procedure of the link layer. -/
inductive LlcpProc where
  | terminate
  | other
deriving DecidableEq, Repr

/-- The control procedures of a connection: the timers of its own and of the
peer's, and what `llcp_lr_peek` finds. -/
structure Llcp where
  localExpire : UInt16
  remoteExpire : UInt16
  peek : Option LlcpProc
deriving DecidableEq, Repr

/-- What `ull_cp_prt_elapse` returns and writes. -/
structure Elapsed where
  result : Int
  errorCode : UInt8
  llcp : Llcp
deriving DecidableEq, Repr

/-- `__real_ull_cp_prt_elapse`, of the controller. -/
abbrev PrtElapse := Llcp → UInt16 → Elapsed

/-- A timer that runs is due within the events elapsed. -/
def Expires (expire elapsedEvent : UInt16) : Prop := expire ≠ 0 ∧ expire ≤ elapsedEvent

instance (expire elapsedEvent : UInt16) : Decidable (Expires expire elapsedEvent) :=
  inferInstanceAs (Decidable (_ ∧ _))

/-- What `handoff_diagnostics.c` relies on: the controller says `-ETIMEDOUT` if
either timer expired, and leaves a procedure that did in place for its caller. -/
structure PrtElapse.Pinned (elapse : PrtElapse) : Prop where
  timedOut : ∀ llcp n, (elapse llcp n).result = -etimedout ↔
    Expires llcp.localExpire n ∨ Expires llcp.remoteExpire n
  inPlace : ∀ llcp n, Expires llcp.localExpire n → (elapse llcp n).llcp.peek = llcp.peek

/-- A stage of a termination, with its handle and the reason it gives. -/
structure Seen where
  handle : UInt16
  stage : UInt8
  reason : UInt8
deriving DecidableEq, Repr

/-- A call of a wrapped function of the link layer. -/
inductive LlCall where
  | txEnqueue (handle : UInt16) (pdu : PduData)
  | txAck (handle : UInt16) (pdu : PduData)
  | prtElapse (handle : UInt16) (peripheral : Bool) (llcp : Llcp) (elapsedEvent : UInt16)
deriving DecidableEq, Repr

/-- What `termination_observed` would capture of an armed handle. -/
def terminationObserved (cfg : HandoffConfig) (handle : UInt16) (pdu : PduData) (stage : UInt8) :
    Option Seen :=
  if cfg.maxConn ≤ handle.toNat ∨ pdu.llId ≠ pduDataLlidCtrl ∨
      pdu.opcode ≠ pduDataLlctrlTypeTerminateInd then .none
  else .some ⟨handle, stage, 0⟩

/-- What `__wrap_ull_cp_prt_elapse` would, and what it returns. -/
def ullCpPrtElapse (cfg : HandoffConfig) (elapse : PrtElapse) (handle : UInt16) (peripheral : Bool)
    (llcp : Llcp) (elapsedEvent : UInt16) : Elapsed × Option Seen :=
  -- before the real one counts the timer down
  let localExpire := llcp.localExpire
  let elapsed := elapse llcp elapsedEvent
  if elapsed.result ≠ -etimedout ∨ localExpire = 0 ∨ elapsedEvent < localExpire ∨
      peripheral = false ∨ cfg.maxConn ≤ handle.toNat then (elapsed, .none)
  else if elapsed.llcp.peek = .some .terminate then (elapsed, .some ⟨handle, 4, elapsed.errorCode⟩)
  else (elapsed, .none)

/-- The wrappers as one. -/
def LlCall.seen (cfg : HandoffConfig) (elapse : PrtElapse) : LlCall → Option Seen
  | .txEnqueue handle pdu => terminationObserved cfg handle pdu 2
  | .txAck handle pdu => terminationObserved cfg handle pdu 3
  | .prtElapse handle peripheral llcp elapsedEvent =>
    (ullCpPrtElapse cfg elapse handle peripheral llcp elapsedEvent).2

/-- The handle of a call. -/
def LlCall.handle : LlCall → UInt16
  | .txEnqueue handle _ | .txAck handle _ | .prtElapse handle _ _ _ => handle

/-- The counters, and what was seen of an armed handle and is not captured yet. -/
structure Termination where
  handoff : Handoff
  seen : List Seen

namespace Termination

/-- A step of the counters, a call of a wrapped function, or a capture. -/
inductive Obs where
  | handoff (o : Handoff.Obs)
  | call (c : LlCall)
  | captured (x : Seen) (r : TimingRecord)
deriving DecidableEq, Repr

/-- At power-up. -/
def boot₀ : Termination := ⟨.boot₀, []⟩

/-- The record of a stage. -/
def record (now : UInt32) (x : Seen) : TimingRecord :=
  Handoff.capture now totemHevtHandoffTerm x.handle x.stage 0 x.reason

/-- What a call leaves to be captured: `armed` is read in the lock. -/
def due (cfg : HandoffConfig) (elapse : PrtElapse) (s : Termination) (c : LlCall) : Option Seen :=
  (c.seen cfg elapse).filter fun x => (s.handoff.radios x.handle).armed

inductive Step (cfg : HandoffConfig) (elapse : PrtElapse) :
    Termination → Option Obs → Termination → Prop where
  | pass {s handoff'} (hs : Handoff.Step cfg s.handoff .none handoff') :
    Step cfg elapse s .none { s with handoff := handoff' }
  | handoff {s o handoff'} (hs : Handoff.Step cfg s.handoff (.some o) handoff') :
    Step cfg elapse s (.some (.handoff o)) { s with handoff := handoff' }
  | call {s} (c : LlCall) :
    Step cfg elapse s (.some (.call c)) { s with seen := (s.due cfg elapse c).toList ++ s.seen }
  | capture {s} {before after : List Seen} {x : Seen} (now : UInt32)
      (h : s.seen = before ++ x :: after) :
    Step cfg elapse s (.some (.captured x (record now x))) { s with seen := before ++ after }

/-! ## What there is to tell -/

/-- The steps of the counters. -/
def handoffs : List Obs → List Handoff.Obs
  | [] => []
  | .handoff o :: h => o :: handoffs h
  | .call _ :: h | .captured _ _ :: h => handoffs h

/-- A handoff of the handle is in force. -/
def InForce (handle : UInt16) (h : List Obs) : Prop :=
  (Handoff.handoff (Handoff.connection handle (Handoff.actsOf (handoffs h)))).isSome = true

instance (handle : UInt16) (h : List Obs) : Decidable (InForce handle h) :=
  inferInstanceAs (Decidable (_ = _))

/-- **The stage a call stands for**: a packet that ends the connection was queued
or acknowledged, or the timer of the connection's own termination expired. -/
def stageOf (elapse : PrtElapse) : LlCall → Option Seen
  | .txEnqueue handle pdu =>
    if pdu.llId = pduDataLlidCtrl ∧ pdu.opcode = pduDataLlctrlTypeTerminateInd then
      .some ⟨handle, 2, 0⟩
    else .none
  | .txAck handle pdu =>
    if pdu.llId = pduDataLlidCtrl ∧ pdu.opcode = pduDataLlctrlTypeTerminateInd then
      .some ⟨handle, 3, 0⟩
    else .none
  | .prtElapse handle peripheral llcp n =>
    if peripheral = true ∧ Expires llcp.localExpire n ∧ llcp.peek = .some .terminate then
      .some ⟨handle, 4, (elapse llcp n).errorCode⟩
    else .none

/-- The stages of the handoffs in force, newest first. -/
def stages (elapse : PrtElapse) : List Obs → List Seen
  | [] => []
  | .call c :: h => ((stageOf elapse c).filter fun x => InForce x.handle h).toList ++ stages elapse h
  | .handoff _ :: h | .captured _ _ :: h => stages elapse h

/-- What was captured, newest first. -/
def told : List Obs → List Seen
  | [] => []
  | .captured x _ :: h => x :: told h
  | .handoff _ :: h | .call _ :: h => told h

/-! ## What a call shows -/

variable {cfg : HandoffConfig} {elapse : PrtElapse} {h : List Obs} {s : Termination}

theorem terminationObserved_eq {handle : UInt16} (hlt : handle.toNat < cfg.maxConn) (pdu : PduData)
    (stage : UInt8) : terminationObserved cfg handle pdu stage =
      if pdu.llId = pduDataLlidCtrl ∧ pdu.opcode = pduDataLlctrlTypeTerminateInd then
        .some ⟨handle, stage, 0⟩
      else .none := by
  unfold terminationObserved
  have hge : ¬ cfg.maxConn ≤ handle.toNat := by omega
  by_cases hctrl : pdu.llId = pduDataLlidCtrl
  · by_cases hop : pdu.opcode = pduDataLlctrlTypeTerminateInd
    · simp [hge, hctrl, hop]
    · simp [hctrl, hop]
  · simp [hctrl]

theorem elapse_passed (handle : UInt16) (peripheral : Bool) (llcp : Llcp) (n : UInt16) :
    (ullCpPrtElapse cfg elapse handle peripheral llcp n).1 = elapse llcp n := by
  unfold ullCpPrtElapse
  dsimp only
  split
  · rfl
  · split <;> rfl

/-- **What makes a stage 4**: the timer of the connection's own termination, and no
other procedure's and not the peer's. -/
theorem elapse_expired (hpinned : elapse.Pinned) {handle : UInt16} (hlt : handle.toNat < cfg.maxConn)
    (peripheral : Bool) (llcp : Llcp) (n : UInt16) :
    (ullCpPrtElapse cfg elapse handle peripheral llcp n).2 =
      stageOf elapse (.prtElapse handle peripheral llcp n) := by
  unfold ullCpPrtElapse stageOf
  have hge : ¬ cfg.maxConn ≤ handle.toNat := by omega
  by_cases hlocal : Expires llcp.localExpire n
  · have hresult : (elapse llcp n).result = -etimedout := (hpinned.timedOut llcp n).mpr (.inl hlocal)
    have hpeek := hpinned.inPlace llcp n hlocal
    have hzero : ¬ llcp.localExpire = 0 := hlocal.1
    have hdue : ¬ n < llcp.localExpire := UInt16.not_lt.mpr hlocal.2
    cases peripheral with
    | true =>
      by_cases hterm : llcp.peek = .some .terminate
      · simp [hge, hresult, hpeek, hzero, hdue, hlocal, hterm]
      · simp [hge, hresult, hpeek, hzero, hdue, hlocal, hterm]
    | false => simp
  · -- the peer's timer may have expired all the same
    have hnot : llcp.localExpire = 0 ∨ n < llcp.localExpire := by
      by_contra hno
      rw [not_or, UInt16.not_lt] at hno
      exact hlocal hno
    have hguard : (elapse llcp n).result ≠ -etimedout ∨ llcp.localExpire = 0 ∨
        n < llcp.localExpire ∨ peripheral = false ∨ cfg.maxConn ≤ handle.toNat := by
      rcases hnot with hzero | hlt
      · exact .inr (.inl hzero)
      · exact .inr (.inr (.inl hlt))
    dsimp only
    rw [if_pos hguard, if_neg fun hall => hlocal hall.2.1]

/-! ## What a run keeps -/

/-- The records are faithful, and what was told and is about to be is what there is
to tell. -/
structure Inv (cfg : HandoffConfig) (elapse : PrtElapse) (h : List Obs) (s : Termination) : Prop where
  faithful : Handoff.Inv cfg (Handoff.actsOf (handoffs h)) s.handoff.radios
  perm : (told h ++ s.seen).Perm (stages elapse h)

theorem inv_boot₀ : Inv cfg elapse [] boot₀ := ⟨Handoff.inv_boot₀, .nil⟩

/-- A handle is armed while a handoff of it is in force. -/
theorem Inv.armed (hi : Inv cfg elapse h s) {handle : UInt16} (hlt : handle.toNat < cfg.maxConn) :
    (s.handoff.radios handle).armed = true ↔ InForce handle h := by
  rw [(hi.faithful.inside handle hlt).armed]
  exact Iff.rfl

theorem handle_of_stage {c : LlCall} {x : Seen} (hx : stageOf elapse c = .some x) :
    x.handle = c.handle := by
  cases c with
  | txEnqueue handle pdu | txAck handle pdu =>
    simp only [stageOf, Option.ite_none_right_eq_some] at hx
    rw [← Option.some.inj hx.2]
    rfl
  | prtElapse handle peripheral llcp n =>
    simp only [stageOf, Option.ite_none_right_eq_some] at hx
    rw [← Option.some.inj hx.2]
    rfl

theorem seen_eq (hpinned : elapse.Pinned) {c : LlCall} (hlt : c.handle.toNat < cfg.maxConn) :
    c.seen cfg elapse = stageOf elapse c := by
  cases c with
  | txEnqueue handle pdu => exact terminationObserved_eq hlt pdu 2
  | txAck handle pdu => exact terminationObserved_eq hlt pdu 3
  | prtElapse handle peripheral llcp n => exact elapse_expired hpinned hlt peripheral llcp n

theorem seen_none {c : LlCall} (hge : cfg.maxConn ≤ c.handle.toNat) :
    c.seen cfg elapse = .none := by
  cases c with
  | txEnqueue handle pdu | txAck handle pdu => exact if_pos (.inl hge)
  | prtElapse handle peripheral llcp n =>
    have hguard : (elapse llcp n).result ≠ -etimedout ∨ llcp.localExpire = 0 ∨
        n < llcp.localExpire ∨ peripheral = false ∨ cfg.maxConn ≤ handle.toNat :=
      .inr (.inr (.inr (.inr hge)))
    show (ullCpPrtElapse cfg elapse handle peripheral llcp n).2 = .none
    unfold ullCpPrtElapse
    dsimp only
    rw [if_pos hguard]

/-- **What a call leaves to be captured** is its stage, if the handoff is in force. -/
theorem Inv.due_eq (hi : Inv cfg elapse h s) (hpinned : elapse.Pinned) (c : LlCall) :
    s.due cfg elapse c = (stageOf elapse c).filter fun x => InForce x.handle h := by
  unfold due
  by_cases hlt : c.handle.toNat < cfg.maxConn
  · rw [seen_eq hpinned hlt]
    cases hx : stageOf elapse c with
    | none => rfl
    | some x =>
      rw [← handle_of_stage hx] at hlt
      have harmed := hi.armed hlt
      by_cases hforce : InForce x.handle h
      · rw [Option.filter_some, Option.filter_some, if_pos (harmed.mpr hforce),
          if_pos (decide_eq_true hforce)]
      · have hoff : (s.handoff.radios x.handle).armed = false :=
          Bool.eq_false_iff.mpr fun hon => hforce (harmed.mp hon)
        rw [Option.filter_some, Option.filter_some, hoff, decide_eq_false hforce]
  · rw [seen_none (by omega)]
    cases hx : stageOf elapse c with
    | none => rfl
    | some x =>
      have hforce : ¬ InForce x.handle h := by
        unfold InForce
        rw [handle_of_stage hx, hi.faithful.outside _ hlt]
        exact Bool.false_ne_true
      rw [Option.filter_some, decide_eq_false hforce]
      rfl

theorem Inv.step {o : Option Obs} {s' : Termination} (hpinned : elapse.Pinned)
    (hi : Inv cfg elapse h s) (hs : Step cfg elapse s o s') : Inv cfg elapse (o.toList ++ h) s' := by
  cases hs with
  | pass hs => exact ⟨hi.faithful.step hs, hi.perm⟩
  | handoff hs => exact ⟨hi.faithful.step hs, hi.perm⟩
  | call c =>
    refine ⟨hi.faithful, ?_⟩
    show (told h ++ ((s.due cfg elapse c).toList ++ s.seen)).Perm (_ ++ stages elapse h)
    rw [hi.due_eq hpinned]
    exact (List.perm_append_comm_assoc _ _ _).trans (hi.perm.append_left _)
  | @capture before after x now hseen =>
    refine ⟨hi.faithful, ?_⟩
    have hperm := hi.perm
    rw [hseen] at hperm
    show (x :: told h ++ (before ++ after)).Perm (stages elapse h)
    refine List.Perm.trans ?_ hperm
    rw [← List.append_assoc, ← List.append_assoc]
    exact List.perm_middle.symm

end Termination

/-- **A termination is told as it was.** In any run of the counters, of the link
layer and of the captures, which may be late: the stages 2, 3 and 4 captured, with
those about to be, are one for each termination packet queued, each one
acknowledged and each expiry of the connection's own termination timer, while a
handoff of its handle is in force. No other packet, no other procedure's timer and
no timer of the peer makes one. -/
theorem termination_told (cfg : HandoffConfig) (elapse : PrtElapse) (hpinned : elapse.Pinned)
    {h : List Termination.Obs} {s : Termination}
    (hr : Run (Termination.Step cfg elapse) .boot₀ h s) :
    (Termination.told h ++ s.seen).Perm (Termination.stages elapse h) ∧
    ∀ later x r earlier, h = later ++ .captured x r :: earlier →
      ∃ now, r = Termination.record now x := by
  constructor
  · exact (hr.invariant (P := Termination.Inv cfg elapse) Termination.inv_boot₀
      fun hi hs => hi.step hpinned hs).perm
  · intro later x r earlier he
    obtain ⟨s₁, s₂, -, hs, -⟩ := hr.split he
    cases hs with
    | capture now hseen => exact ⟨now, rfl⟩

/-- A timer counted down. -/
def countDown (expire elapsedEvent : UInt16) : UInt16 :=
  if expire ≤ elapsedEvent then 0 else expire - elapsedEvent

/-- The controller's, where a termination that expires gives the reason 0x16 and the
peer's timer 0x22. -/
def controllerElapse : PrtElapse := fun llcp n =>
  if Expires llcp.localExpire n then ⟨-etimedout, 0x16, { llcp with localExpire := 0 }⟩
  else
    let left := { llcp with
      localExpire := countDown llcp.localExpire n
      remoteExpire := countDown llcp.remoteExpire n }
    ⟨if Expires llcp.remoteExpire n then -etimedout else 0, 0x22, left⟩

theorem controllerElapse_pinned : controllerElapse.Pinned where
  timedOut := by
    intro llcp n
    unfold controllerElapse
    by_cases hlocal : Expires llcp.localExpire n
    · simp [hlocal]
    · by_cases hremote : Expires llcp.remoteExpire n
      · simp [hlocal, hremote]
      · simp [hlocal, hremote, etimedout]
  inPlace := by
    intro llcp n hlocal
    unfold controllerElapse
    rw [if_pos hlocal]

/-- A host is asked to leave and does not answer: the packet is queued, the peer's
timer expires, and then the termination's own. -/
theorem termination_told_unanswered :
    ∃ h s, Run (Termination.Step ⟨6, true, true⟩ controllerElapse) .boot₀ h s ∧
      (Termination.told h ++ s.seen).Perm [⟨1, 4, 0x16⟩, ⟨1, 2, 0⟩] := by
  have hconnected : Termination.Step ⟨6, true, true⟩ controllerElapse .boot₀ _ _ :=
    .handoff (.connected 1)
  have hr := Run.refl.shows hconnected
    |>.shows (.handoff (.arm leaving (fun _ => 100) (by decide)))
    |>.shows (.call (.txEnqueue 1 ⟨3, 2, 2⟩))
    |>.shows (.call (.prtElapse 1 true ⟨400, 30, .some .terminate⟩ 30))
    |>.shows (.call (.prtElapse 1 true ⟨370, 0, .some .terminate⟩ 370))
  exact ⟨_, _, hr, (termination_told _ _ controllerElapse_pinned hr).1⟩

end TotemZmk
