/-
The framing of Studio's serial port, in the two tools that read it: `frame` and
`Deframer` of `read_diag_dump.py`, and `frames` of `totem_battery_windows.py`.

* `deframer_resyncs`: whatever comes before a frame, the frames after it are
  read.
* `deframers_agree`: the two read the same payloads, as long as none is too long
  for the first.
-/
import TotemZmk.Lib.Framing

namespace TotemZmk

open Framing (Marks Decoder)
open Transducer (run runEach)

/-- `SOF`, `ESC` and `EOF`, in both tools. -/
def sof : UInt8 := 0xab
def esc : UInt8 := 0xac
def eof : UInt8 := 0xad

/-- `frame`, in both tools. -/
def frame (payload : List UInt8) : List UInt8 :=
  sof :: (payload.flatMap (fun byte =>
    if byte = sof ∨ byte = esc ∨ byte = eof then [esc, byte] else [byte]) ++ [eof])

/-- `Deframer` -/
structure Deframer where
  active : Bool
  escaped : Bool
  payload : List UInt8
deriving DecidableEq, Repr

namespace Deframer

def new : Deframer := ⟨false, false, []⟩

/-- What `feed` does with a byte of a frame, up to its check of the length. -/
def put (d : Deframer) (byte : UInt8) : Deframer × List (List UInt8) :=
  if d.escaped then ({ d with payload := d.payload ++ [byte], escaped := false }, [])
  else if byte = esc then ({ d with escaped := true }, [])
  else if byte = sof then ({ d with payload := [] }, [])
  else if byte = eof then ({ d with active := false, payload := [] }, [d.payload])
  else ({ d with payload := d.payload ++ [byte] }, [])

/-- `feed`, of one byte. -/
def feedByte (d : Deframer) (byte : UInt8) : Deframer × List (List UInt8) :=
  if d.active = false then
    (if byte = sof then { d with active := true, payload := [] } else d, [])
  else
    let (d, payloads) := d.put byte
    (if 512 < d.payload.length then ⟨false, false, []⟩ else d, payloads)

/-- `feed` -/
def feed (d : Deframer) (chunk : List UInt8) : Deframer × List (List UInt8) := run feedByte d chunk

/-- The buffer never holds more than 512 bytes. -/
def Fits (bytes : List UInt8) : Prop :=
  ∀ before byte after, bytes = before ++ byte :: after →
    (new.feed before).1.active = true → ((new.feed before).1.put byte).1.payload.length ≤ 512

end Deframer

/-- The dict that `read_usb` hands to `frames`. -/
structure FramesState where
  active : Bool
  escaped : Bool
  payload : List UInt8
deriving DecidableEq, Repr

namespace FramesState

/-- As `read_usb` creates it. -/
def new : FramesState := ⟨false, false, []⟩

/-- `frames`, of one byte. -/
def framesByte (state : FramesState) (byte : UInt8) : FramesState × List (List UInt8) :=
  if state.active = false then
    (if byte = sof then ⟨true, false, []⟩ else state, [])
  else if state.escaped then ({ state with payload := state.payload ++ [byte], escaped := false }, [])
  else if byte = esc then ({ state with escaped := true }, [])
  else if byte = sof then ({ state with payload := [] }, [])
  else if byte = eof then ({ state with active := false }, [state.payload])
  else ({ state with payload := state.payload ++ [byte] }, [])

/-- `frames` -/
def frames (state : FramesState) (data : List UInt8) : FramesState × List (List UInt8) :=
  run framesByte state data

end FramesState

/-! ## Both decode -/

def marks : Marks UInt8 := ⟨sof, esc, eof, by decide, by decide, by decide⟩

theorem frame_eq (payload : List UInt8) : frame payload = marks.frame payload := rfl

theorem flatMap_frame_eq (payloads : List (List UInt8)) :
    payloads.flatMap frame = payloads.flatMap marks.frame := rfl

/-- A decoder's state, from what both tools hold. -/
def decoder (active escaped : Bool) (payload : List UInt8) : Decoder UInt8 :=
  if active then .inside escaped payload else .outside

namespace FramesState

def view (state : FramesState) : Decoder UInt8 := decoder state.active state.escaped state.payload

/-- `frames` decodes, without a limit. -/
theorem framesByte_view (state : FramesState) (byte : UInt8) :
    ((state.framesByte byte).1.view, (state.framesByte byte).2) = state.view.put marks byte := by
  obtain ⟨active, escaped, payload⟩ := state
  cases active with
  | false => by_cases hsof : byte = sof <;> simp [framesByte, view, decoder, Decoder.put, marks, hsof]
  | true =>
    cases escaped with
    | true => simp [framesByte, view, decoder, Decoder.put]
    | false =>
      by_cases hesc : byte = esc
      · simp [framesByte, view, decoder, Decoder.put, marks, hesc]
      by_cases hsof : byte = sof
      · subst hsof
        simp [framesByte, view, decoder, Decoder.put, marks, hesc]
      by_cases heof : byte = eof
      · subst heof
        simp [framesByte, view, decoder, Decoder.put, marks, hesc, hsof]
      · simp [framesByte, view, decoder, Decoder.put, marks, hesc, hsof, heof]

end FramesState

namespace Deframer

def view (d : Deframer) : Decoder UInt8 := decoder d.active d.escaped d.payload

variable {d : Deframer}

theorem put_view (ha : d.active = true) (byte : UInt8) :
    ((d.put byte).1.view, (d.put byte).2) = d.view.put marks byte := by
  obtain ⟨active, escaped, payload⟩ := d
  cases ha
  cases escaped with
  | true => simp [put, view, decoder, Decoder.put]
  | false =>
    by_cases hesc : byte = esc
    · simp [put, view, decoder, Decoder.put, marks, hesc]
    by_cases hsof : byte = sof
    · subst hsof
      simp [put, view, decoder, Decoder.put, marks, hesc]
    by_cases heof : byte = eof
    · subst heof
      simp [put, view, decoder, Decoder.put, marks, hesc, hsof]
    · simp [put, view, decoder, Decoder.put, marks, hesc, hsof, heof]

/-- Outside of a frame no escape is pending. -/
def Idle (d : Deframer) : Prop := d.active = false → d.escaped = false

theorem idle_put (ha : d.active = true) (byte : UInt8) : (d.put byte).1.Idle := by
  obtain ⟨active, escaped, payload⟩ := d
  cases ha
  unfold put Idle
  cases escaped with
  | true => simp
  | false => split_ifs <;> simp

theorem idle_feedByte (hi : d.Idle) (byte : UInt8) : (d.feedByte byte).1.Idle := by
  unfold feedByte
  by_cases ha : d.active = false
  · rw [if_pos ha]
    dsimp only
    split
    · exact fun h => nomatch h
    · exact hi
  · rw [if_neg ha]
    dsimp only
    split
    · exact fun _ => rfl
    · exact idle_put (Bool.of_not_eq_false ha) byte

/-- Outside of a frame `Deframer` looks for a start mark. -/
theorem feedByte_outside (hi : d.Idle) (ha : d.active = false) (byte : UInt8) :
    ((d.feedByte byte).1.view, (d.feedByte byte).2) = d.view.put marks byte := by
  have hescaped := hi ha
  obtain ⟨active, escaped, payload⟩ := d
  cases ha
  cases hescaped
  by_cases hsof : byte = sof <;> simp [feedByte, view, decoder, Decoder.put, marks, hsof]

theorem feedByte_inside (ha : d.active = true) (byte : UInt8) :
    d.feedByte byte = (if 512 < (d.put byte).1.payload.length then ⟨false, false, []⟩
      else (d.put byte).1, (d.put byte).2) := by
  unfold feedByte
  rw [if_neg (by simp [ha])]

theorem checked_view (d : Deframer) :
    (if 512 < d.payload.length then (⟨false, false, []⟩ : Deframer) else d).view =
      d.view.checked 512 := by
  obtain ⟨active, escaped, payload⟩ := d
  cases active with
  | false =>
    by_cases hlong : 512 < payload.length <;> simp [view, decoder, Decoder.checked, hlong]
  | true =>
    by_cases hlong : 512 < payload.length <;> simp [view, decoder, Decoder.checked, hlong]

/-- **`Deframer` decodes frames of at most 512 bytes.** -/
theorem feedByte_view (hi : d.Idle) (byte : UInt8) :
    ((d.feedByte byte).1.view, (d.feedByte byte).2) = d.view.step marks 512 byte := by
  by_cases ha : d.active = true
  · unfold Decoder.step
    rw [feedByte_inside ha, ← put_view ha]
    exact congrArg (·, _) (checked_view _)
  · have ha := Bool.eq_false_iff.mpr ha
    have hview : d.view = .outside := by simp [view, decoder, ha]
    rw [feedByte_outside hi ha, hview]
    by_cases hsof : byte = marks.sof <;> simp [Decoder.step, Decoder.put, Decoder.checked, hsof]

/-- **Whole runs of `Deframer`** decode with a limit of 512. -/
theorem run_view (bytes : List UInt8) (hi : d.Idle) :
    (run feedByte d bytes).2 = (run (Decoder.step marks 512) d.view bytes).2 := by
  have halongside : Transducer.Alongside feedByte (Decoder.step marks 512)
      (fun _ _ byte byte' => byte = byte') d d.view bytes bytes := .same _ fun _ _ _ _ => rfl
  refine (halongside.eq (R := fun d state => d.Idle ∧ d.view = state) ⟨hi, rfl⟩ ?_).2
  intro d state byte byte' hsim hbyte
  obtain ⟨hidle, rfl⟩ := hsim
  subst hbyte
  obtain ⟨hnext, hout⟩ := Prod.mk.inj (feedByte_view hidle byte)
  exact ⟨⟨idle_feedByte hidle byte, hnext⟩, hout⟩

/-- **A byte that fits** is decoded as `frames` does. -/
theorem agrees_step {state : FramesState} {byte : UInt8} (hi : d.Idle) (hview : d.view = state.view)
    (hroom : d.active = true → (d.put byte).1.payload.length ≤ 512) :
    ((d.feedByte byte).1.Idle ∧ (d.feedByte byte).1.view = (state.framesByte byte).1.view) ∧
      (d.feedByte byte).2 = (state.framesByte byte).2 := by
  obtain ⟨hnext, hout⟩ := Prod.mk.inj (state.framesByte_view byte)
  rw [← hview] at hnext hout
  by_cases ha : d.active = true
  · obtain ⟨hput, hyield⟩ := Prod.mk.inj (put_view ha byte)
    have hfed : d.feedByte byte = d.put byte := by
      rw [feedByte_inside ha, if_neg (Nat.not_lt.mpr (hroom ha))]
    rw [hfed]
    exact ⟨⟨idle_put ha byte, hput.trans hnext.symm⟩, hyield.trans hout.symm⟩
  · have ha := Bool.eq_false_iff.mpr ha
    obtain ⟨hput, hyield⟩ := Prod.mk.inj (feedByte_outside hi ha byte)
    exact ⟨⟨idle_feedByte hi byte, hput.trans hnext.symm⟩, hyield.trans hout.symm⟩

theorem idle_new : new.Idle := fun _ => rfl

theorem length_put (byte : UInt8) : (d.put byte).1.payload.length ≤ d.payload.length + 1 := by
  unfold put
  split_ifs <;> simp

theorem length_run (bytes : List UInt8) :
    (run feedByte d bytes).1.payload.length ≤ d.payload.length + bytes.length := by
  induction bytes generalizing d with
  | nil => exact Nat.le_refl _
  | cons byte bytes ih =>
    have hbyte : (d.feedByte byte).1.payload.length ≤ d.payload.length + 1 := by
      have hput := length_put (d := d) byte
      unfold feedByte
      dsimp only
      split_ifs <;> simp
      all_goals omega
    have hrest := ih (d := (d.feedByte byte).1)
    rw [Transducer.run_cons, List.length_cons]
    dsimp only
    omega

theorem fits_of_short {bytes : List UInt8} (h : bytes.length ≤ 512) : Fits bytes := by
  intro before byte after he _
  have hbefore := length_run (d := new) before
  have hput := length_put (d := (new.feed before).1) byte
  unfold feed at hput ⊢
  have hnew : new.payload.length = 0 := rfl
  rw [he] at h
  simp only [List.length_append, List.length_cons] at h
  omega

end Deframer

/-- **Framing round trip, with resynchronisation.** Whatever bytes `g` come first,
whatever the payload `p₀` of the frame after them, and however the bytes are cut
into chunks: of the frames that follow, with at most 512 bytes each, exactly the
payloads are read, in order. With nothing before it, so is `p₀` if it has at most
512 bytes. -/
theorem deframer_resyncs (g p₀ : List UInt8) (ps : List (List UInt8))
    (hps : ∀ p ∈ ps, p.length ≤ 512) (chunks : List (List UInt8))
    (hchunks : chunks.flatten = g ++ frame p₀ ++ ps.flatMap frame) :
    (runEach Deframer.feedByte .new chunks).2 = (Deframer.new.feed (g ++ frame p₀)).2 ++ ps ∧
      (g = [] → p₀.length ≤ 512 → (runEach Deframer.feedByte .new chunks).2 = p₀ :: ps) := by
  have hall : (runEach Deframer.feedByte .new chunks).2 =
      (run (Decoder.step marks 512) .outside (g ++ frame p₀ ++ ps.flatMap frame)).2 := by
    rw [Transducer.runEach_eq, hchunks]
    exact Deframer.run_view _ Deframer.idle_new
  have hfirst : (Deframer.new.feed (g ++ frame p₀)).2 =
      (run (Decoder.step marks 512) .outside (g ++ frame p₀)).2 :=
    Deframer.run_view _ Deframer.idle_new
  have hsynced : (run (Decoder.step marks 512) .outside (g ++ frame p₀)).1 = .outside := by
    rw [Transducer.run_append, frame_eq]
    exact Decoder.run_frame_outside marks 512 _ p₀
  have hlast : (run (Decoder.step marks 512) .outside (ps.flatMap frame)).2 = ps := by
    rw [flatMap_frame_eq, Decoder.run_frames hps]
  have hboth : (runEach Deframer.feedByte .new chunks).2 =
      (Deframer.new.feed (g ++ frame p₀)).2 ++ ps := by
    rw [hall, hfirst, Transducer.run_append, hsynced, hlast]
  refine ⟨hboth, ?_⟩
  intro hg hp₀
  rw [hboth, hfirst, hg, List.nil_append, frame_eq, Decoder.run_frame hp₀]
  rfl

/-- Garbage that ends in an escape, a frame whose start it eats, and two frames. -/
theorem deframer_resyncs_escape :
    (runEach Deframer.feedByte .new [[sof, 1, esc], [sof, 2], [eof, sof, eof, sof], [3, eof]]).2 =
      (Deframer.new.feed ([sof, 1, esc] ++ frame [2])).2 ++ [[], [3]] :=
  (deframer_resyncs [sof, 1, esc] [2] [[], [3]] (by decide) _ (by decide)).1

/-- **The two deframers agree.** On bytes that never put more than 512 into
`Deframer`'s buffer, however they are cut into chunks for each, `frames` of
`totem_battery_windows.py` and `Deframer.feed` yield the same payloads. -/
theorem deframers_agree (chunks chunks' : List (List UInt8)) (hsame : chunks.flatten = chunks'.flatten)
    (hfits : Deframer.Fits chunks.flatten) :
    (runEach Deframer.feedByte .new chunks).2 = (runEach FramesState.framesByte .new chunks').2 := by
  rw [Transducer.runEach_eq, Transducer.runEach_eq, ← hsame]
  have halongside : Transducer.Alongside Deframer.feedByte FramesState.framesByte
      (fun d _ byte byte' => byte = byte' ∧
        (d.active = true → (d.put byte).1.payload.length ≤ 512))
      .new .new chunks.flatten chunks.flatten :=
    .same _ fun before byte after he => ⟨rfl, hfits before byte after he⟩
  refine (halongside.eq (R := fun d state => d.Idle ∧ d.view = state.view)
    ⟨Deframer.idle_new, rfl⟩ ?_).2
  intro d state byte byte' hsim hc
  obtain ⟨hidle, hview⟩ := hsim
  obtain ⟨rfl, hroom⟩ := hc
  exact Deframer.agrees_step hidle hview hroom

/-- A stray end, a frame with an escape, and one that starts again. -/
theorem deframers_agree_stray :
    (runEach Deframer.feedByte .new [[eof, sof, esc], [esc, eof, sof, 1, sof], [2, eof]]).2 =
      (runEach FramesState.framesByte .new [[eof, sof, esc, esc], [eof, sof, 1, sof, 2, eof]]).2 :=
  deframers_agree _ _ (by decide) (Deframer.fits_of_short (by decide))

end TotemZmk
