/-
Frames marked off by a start and an end mark, with an escape before marks in the
payload, and a decoder for them that gives up a frame that grows too long.

* `run_frames`: frames that fit are decoded to their payloads.
* `run_frame_outside`: at the end of any frame the decoder is outside, whatever
  came before it and however long the frame is.
-/
import TotemZmk.Lib.Transducer

namespace Framing

open Transducer (run run_cons run_append)

/-- The start, escape and end marks. -/
structure Marks (α : Type) where
  sof : α
  esc : α
  eof : α
  sof_ne_esc : sof ≠ esc
  sof_ne_eof : sof ≠ eof
  esc_ne_eof : esc ≠ eof

variable {α : Type}

section

variable [DecidableEq α]

/-- One element of a payload, escaped where it is a mark. -/
def Marks.escape (m : Marks α) (x : α) : List α :=
  if x = m.sof ∨ x = m.esc ∨ x = m.eof then [m.esc, x] else [x]

def Marks.frame (m : Marks α) (payload : List α) : List α :=
  m.sof :: (payload.flatMap m.escape ++ [m.eof])

end

/-- Outside of frames, or inside one with its payload so far, an escape having
just come or not. -/
inductive Decoder (α : Type) where
  | outside
  | inside (escaped : Bool) (payload : List α)
deriving DecidableEq, Repr

namespace Decoder

/-- Give up a frame whose payload is longer than `cap`. -/
def checked (cap : Nat) : Decoder α → Decoder α
  | .outside => .outside
  | .inside escaped payload => if cap < payload.length then .outside else .inside escaped payload

variable {m : Marks α} {cap : Nat} {payload : List α} {d : Decoder α}

theorem checked_inside (escaped : Bool) (h : payload.length ≤ cap) :
    (inside escaped payload).checked cap = .inside escaped payload :=
  if_neg (Nat.not_lt.mpr h)

variable [DecidableEq α]

/-- Decode one element, and yield the payload of a frame that it ends. -/
def put (m : Marks α) : Decoder α → α → Decoder α × List (List α)
  | .outside, x => (if x = m.sof then .inside false [] else .outside, [])
  | .inside true payload, x => (.inside false (payload ++ [x]), [])
  | .inside false payload, x =>
    if x = m.esc then (.inside true payload, [])
    else if x = m.sof then (.inside false [], [])
    else if x = m.eof then (.outside, [payload])
    else (.inside false (payload ++ [x]), [])

def step (m : Marks α) (cap : Nat) (d : Decoder α) (x : α) : Decoder α × List (List α) :=
  ((d.put m x).1.checked cap, (d.put m x).2)

/-! ## Frames that fit -/

theorem run_escape (h : payload.length < cap) (x : α) :
    run (step m cap) (.inside false payload) (m.escape x) = (.inside false (payload ++ [x]), []) := by
  have hroom : (payload ++ [x]).length ≤ cap := by simp; omega
  unfold Marks.escape
  by_cases hx : x = m.sof ∨ x = m.esc ∨ x = m.eof
  · simp [hx, run, step, put, checked_inside true (Nat.le_of_lt h), checked_inside false hroom]
  · obtain ⟨hsof, hesc, heof⟩ : x ≠ m.sof ∧ x ≠ m.esc ∧ x ≠ m.eof := by simpa using hx
    simp [hsof, hesc, heof, run, step, put, checked_inside false hroom]

theorem run_escapes {more : List α} (h : payload.length + more.length ≤ cap) :
    run (step m cap) (.inside false payload) (more.flatMap m.escape) =
      (.inside false (payload ++ more), []) := by
  induction more generalizing payload with
  | nil => simp
  | cons x more ih =>
    simp only [List.length_cons] at h
    rw [List.flatMap_cons, run_append, run_escape (by omega), ih (by simp; omega)]
    simp

theorem run_frame (h : payload.length ≤ cap) :
    run (step m cap) .outside (m.frame payload) = (.outside, [payload]) := by
  have hsof : step m cap .outside m.sof = (.inside false [], []) := by simp [step, put, checked]
  have heof : step m cap (.inside false payload) m.eof = (.outside, [payload]) := by
    simp [step, put, checked, m.esc_ne_eof.symm, m.sof_ne_eof.symm]
  unfold Marks.frame
  rw [run_cons, hsof, run_append, run_escapes (by simpa using h)]
  simp [run_cons, heof]

/-- **A row of frames that fit is decoded.** -/
theorem run_frames {payloads : List (List α)} (h : ∀ payload ∈ payloads, payload.length ≤ cap) :
    run (step m cap) .outside (payloads.flatMap m.frame) = (.outside, payloads) := by
  induction payloads with
  | nil => rfl
  | cons payload payloads ih =>
    rw [List.flatMap_cons, run_append, run_frame (h payload List.mem_cons_self),
      ih fun p hp => h p (List.mem_cons_of_mem _ hp)]
    rfl

/-! ## Back in step -/

/-- No escape has just come. -/
def Settled : Decoder α → Prop
  | .outside => True
  | .inside escaped _ => escaped = false

omit [DecidableEq α] in
theorem settled_checked (h : d.Settled) (cap : Nat) : (d.checked cap).Settled := by
  cases d with
  | outside => exact h
  | inside escaped payload =>
    by_cases hlong : cap < payload.length
    · simp [checked, hlong, Settled]
    · simpa [checked, hlong] using h

/-- A start mark starts a frame, or is the escaped element. -/
theorem settled_sof (m : Marks α) (cap : Nat) (d : Decoder α) : (d.step m cap m.sof).1.Settled := by
  refine settled_checked ?_ cap
  match d with
  | .outside => simp [put, Settled]
  | .inside true payload => simp [put, Settled]
  | .inside false payload => simp [put, Settled, m.sof_ne_esc]

theorem settled_step {x : α} (h : ∀ payload, d = .inside false payload → x ≠ m.esc) :
    (d.step m cap x).1.Settled := by
  refine settled_checked ?_ cap
  match d with
  | .outside => by_cases hsof : x = m.sof <;> simp [put, Settled, hsof]
  | .inside true payload => simp [put, Settled]
  | .inside false payload =>
    have hesc := h payload rfl
    by_cases hsof : x = m.sof
    · simp [put, Settled, hsof, m.sof_ne_esc]
    by_cases heof : x = m.eof
    · simp [put, Settled, heof, m.esc_ne_eof.symm, m.sof_ne_eof.symm]
    · simp [put, Settled, hesc, hsof, heof]

/-- An escape leaves the frame waiting for what it escapes, or given up. -/
theorem step_esc (h : d.Settled) (payload : List α) :
    (d.step m cap m.esc).1 ≠ .inside false payload := by
  match d with
  | .outside => simp [step, put, checked, m.sof_ne_esc.symm]
  | .inside false held =>
    by_cases hlong : cap < held.length <;> simp [step, put, checked, hlong]

/-- **Element by element the decoder stays settled**, in a frame or not. -/
theorem settled_escape (h : d.Settled) (x : α) :
    (run (step m cap) d (m.escape x)).1.Settled := by
  unfold Marks.escape
  by_cases hx : x = m.sof ∨ x = m.esc ∨ x = m.eof
  · rw [if_pos hx]
    exact settled_step fun payload he => absurd he (step_esc h payload)
  · rw [if_neg hx]
    exact settled_step fun payload _ he => hx (.inr (.inl he))

theorem settled_escapes (h : d.Settled) (payload : List α) :
    (run (step m cap) d (payload.flatMap m.escape)).1.Settled := by
  induction payload generalizing d with
  | nil => exact h
  | cons x payload ih =>
    rw [List.flatMap_cons, run_append]
    exact ih (settled_escape h x)

theorem step_eof (h : d.Settled) : (d.step m cap m.eof).1 = .outside := by
  match d with
  | .outside => simp [step, put, checked, m.sof_ne_eof.symm]
  | .inside false payload => simp [step, put, checked, m.esc_ne_eof.symm, m.sof_ne_eof.symm]

/-- **At the end of a frame the decoder is outside**, wherever it was before. -/
theorem run_frame_outside (m : Marks α) (cap : Nat) (d : Decoder α) (payload : List α) :
    (run (step m cap) d (m.frame payload)).1 = .outside := by
  unfold Marks.frame
  rw [run_cons, run_append]
  exact step_eof (settled_escapes (settled_sof m cap d) payload)

/-! ## Without a limit -/

/-- How much of a payload is held. -/
def held : Decoder α → Nat
  | .outside => 0
  | .inside _ payload => payload.length

theorem held_put (m : Marks α) (d : Decoder α) (x : α) : (d.put m x).1.held ≤ d.held + 1 := by
  match d with
  | .outside => by_cases hsof : x = m.sof <;> simp [put, held, hsof]
  | .inside true payload => simp [put, held]
  | .inside false payload =>
    by_cases hesc : x = m.esc
    · simp [put, held, hesc]
    by_cases hsof : x = m.sof
    · simp [put, held, hsof, m.sof_ne_esc]
    by_cases heof : x = m.eof
    · simp [put, held, heof, m.esc_ne_eof.symm, m.sof_ne_eof.symm]
    · simp [put, held, hesc, hsof, heof]

omit [DecidableEq α] in
theorem checked_of_held (h : d.held ≤ cap) : d.checked cap = d := by
  cases d with
  | outside => rfl
  | inside escaped payload => exact checked_inside escaped h

/-- **A limit no input reaches makes no difference.** -/
theorem run_put_eq {xs : List α} (h : d.held + xs.length ≤ cap) :
    run (put m) d xs = run (step m cap) d xs := by
  induction xs generalizing d with
  | nil => rfl
  | cons x xs ih =>
    have hput := held_put m d x
    rw [List.length_cons] at h
    have hstep : step m cap d x = d.put m x := by
      unfold step
      rw [checked_of_held (by omega)]
    rw [run_cons, run_cons, hstep, ih (by omega)]

end Decoder

end Framing
