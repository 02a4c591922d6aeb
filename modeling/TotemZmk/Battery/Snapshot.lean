/-
Battery snapshots over USB: what the firmware says of each half, and what
`totem_battery_windows.py` reads of it.

* `snapshot_read`: however the bytes are cut, the first snapshot is read, and it
  is read as the firmware meant it.
* `parseSnapshot_text`, `parseSnapshot_formatLevels`: a snapshot's text is parsed
  back, and so are the levels the firmware formats itself.
-/
import TotemZmk.Dump.Deframer
import TotemZmk.Lib.Dict
import TotemZmk.Lib.FindAll
import TotemZmk.Lib.Utf8

namespace TotemZmk

open Text
open Transducer (run runEach)

/-- What `\w` matches and what `strip` takes away: as in ASCII, and possibly
characters beyond. -/
structure CharClasses where
  word : Char → Bool
  space : Char → Bool
  word_ascii : ∀ c, c.toNat < 128 → word c = (c.isAlphanum || c = '_')
  space_ascii : ∀ c, c.toNat < 128 → 0x20 < c.toNat → space c = false

inductive Half where
  | left
  | right
deriving DecidableEq, Repr

namespace Half

/-- As the pattern and the firmware write it. -/
def text : Half → List Char
  | .left => ['l', 'e', 'f', 't']
  | .right => ['r', 'i', 'g', 'h', 't']

def other : Half → Half
  | .left => .right
  | .right => .left

end Half

/-- What a snapshot says of a half: its level, on USB power or not, or that there
is none. -/
inductive HalfState where
  | level (percent : Nat)
  /-- `N usb`, or `N usb full`. -/
  | onUsb (percent : Nat) (full : Bool)
  | usb
  | noLevel
deriving DecidableEq, Repr

namespace HalfState

def text : HalfState → List Char
  | .level percent => dec percent
  | .onUsb percent full => dec percent ++ " usb".toList ++ if full then " full".toList else []
  | .usb => "usb".toList
  | .noLevel => "--".toList

/-- The level, and `True` for one on USB power. -/
def reading : HalfState → Option (Nat × Option Bool)
  | .level percent => .some (percent, .none)
  | .onUsb percent _ => .some (percent, .some true)
  | .usb | .noLevel => .none

end HalfState

/-- A snapshot, with the millivolts that may follow. -/
structure BatterySnapshot where
  left : HalfState
  right : HalfState
  mv : Option Nat
deriving DecidableEq, Repr

def BatterySnapshot.text (s : BatterySnapshot) : List Char :=
  "left=".toList ++ s.left.text ++ " right=".toList ++ s.right.text ++
    match s.mv with
    | .some mv => " mv=".toList ++ dec mv
    | .none => []

/-- `format_levels` of `totem_battery_log.c`, without
`CONFIG_ZMK_STUDIO_LOG_BATTERY`. -/
def formatLevels (soc : UInt8) (peripheralSoc : Int) : List Char :=
  if peripheralSoc < 0 then "left=".toList ++ dec soc.toNat ++ " right=--".toList
  else "left=".toList ++ dec soc.toNat ++ " right=".toList ++ decInt peripheralSoc

/-! ## `totem_battery_windows.py` -/

/-- A match of `SNAPSHOT_HALF`: the half, the level if it is one, and whether
the third group matched. -/
structure HalfMatch where
  half : Half
  level : Option Nat
  usb : Bool
deriving DecidableEq, Repr

/-- An optional group. -/
def optional (literal text : List Char) : Bool × List Char :=
  match lit literal text with
  | .some rest => (true, rest)
  | .none => (false, text)

/-- `(left|right)` -/
def matchHalfName (text : List Char) : Option (Half × List Char) :=
  ((lit Half.left.text text).map (Half.left, ·)).or ((lit Half.right.text text).map (Half.right, ·))

/-- `(\d+|usb|--)` -/
def matchLevel (dg : Digits) (text : List Char) : Option (Option Nat × List Char) :=
  ((number dg text).map fun (n, rest) => (.some n, rest)).or
    (((lit "usb".toList text).map (Option.none, ·)).or ((lit "--".toList text).map (Option.none, ·)))

/-- `SNAPSHOT_HALF`. What it takes starts with a letter, so that `\b` is that no
`\w` is before it. -/
def snapshotHalf (cc : CharClasses) (dg : Digits) : Pattern HalfMatch := fun before text =>
  if before.any cc.word then .none
  else do
    let (half, text) ← matchHalfName text
    let text ← lit ['='] text
    let (level, text) ← matchLevel dg text
    let (usb, text) := optional " usb".toList text
    let (_, text) := optional " full".toList text
    return (⟨half, level, usb⟩, text)

/-- The levels of the halves, with `True` for one that is charging. -/
abbrev Levels := Dict Half (Nat × Option Bool)

/-- The body of the loop of `parse_snapshot`. -/
def Levels.put (levels : Levels) (found : HalfMatch) : Levels :=
  match found.level with
  | .some percent => Dict.set levels found.half (percent, if found.usb then .some true else .none)
  | .none => levels

/-- `parse_snapshot` -/
def parseSnapshot (cc : CharClasses) (dg : Digits) (line : List Char) : Levels :=
  (findAll (snapshotHalf cc dg) line).foldl Levels.put []

/-- `strip` -/
def strip (cc : CharClasses) (text : List Char) : List Char :=
  ((text.dropWhile cc.space).reverse.dropWhile cc.space).reverse

/-- What a payload makes `read_usb` return. -/
def snapshotOf (cc : CharClasses) (dg : Digits) (payload : List UInt8) : Option Levels :=
  match payload with
  | first :: text =>
    if first = 0x4b then .some (parseSnapshot cc dg (strip cc (Utf8.decodeReplace text))) else .none
  | [] => .none

/-- One attempt of `read_usb`: what `port.read` answered before the deadline, and
the frames in it, of which the first that is a snapshot is returned. -/
def readSnapshot (cc : CharClasses) (dg : Digits) (chunks : List (List UInt8)) : Option Levels :=
  (runEach FramesState.framesByte .new chunks).2.findSome? (snapshotOf cc dg)

/-- `read_usb`: three attempts, an exception ending one. -/
def readUsb (cc : CharClasses) (dg : Digits) (attempts : List (Option (List (List UInt8)))) :
    Option Levels :=
  (attempts.take 3).findSome? fun attempt => attempt.bind (readSnapshot cc dg)

/-! ## The text is parsed back -/

/-- The levels a snapshot gives. -/
def BatterySnapshot.levels (s : BatterySnapshot) : Levels :=
  (s.left.reading.map (Half.left, ·)).toList ++ (s.right.reading.map (Half.right, ·)).toList

section

variable {cc : CharClasses} {dg : Digits} {before : Option Char} {rest : List Char}

/-- Behind a half there is nothing, or a blank and what is no flag. -/
def Ends (rest : List Char) : Prop :=
  rest = [] ∨ ∃ c more, rest = ' ' :: c :: more ∧ c ≠ 'u' ∧ c ≠ 'f'

theorem Ends.digits (h : Ends rest) : ∀ c ∈ rest.head?, dg.value c = .none := by
  obtain rfl | ⟨c, more, rfl, -, -⟩ := h
  · exact nil_head
  · exact plain_head (by decide) (by decide)

theorem Ends.optional (h : Ends rest) {a : Char} (more : List Char) (ha : a = 'u' ∨ a = 'f') :
    optional (' ' :: a :: more) rest = (false, rest) := by
  have hlit : lit (' ' :: a :: more) rest = .none := by
    obtain rfl | ⟨c, more', rfl, hu, hf⟩ := h
    · rfl
    · have hne : a ≠ c := by
        obtain rfl | rfl := ha
        · exact Ne.symm hu
        · exact Ne.symm hf
      simp [lit, hne]
  simp [TotemZmk.optional, hlit]

theorem optional_append (literal : List Char) : optional literal (literal ++ rest) = (true, rest) := by
  simp [optional, lit_append]

/-- What a state is matched as. -/
def HalfState.found (half : Half) : HalfState → HalfMatch
  | .level percent => ⟨half, .some percent, false⟩
  | .onUsb percent _ => ⟨half, .some percent, true⟩
  | .usb | .noLevel => ⟨half, .none, false⟩

theorem matchHalfName_text (half : Half) : matchHalfName (half.text ++ rest) = .some (half, rest) := by
  cases half with
  | left => simp [matchHalfName, lit_append]
  | right =>
    have hleft : lit Half.left.text (Half.right.text ++ rest) = .none := rfl
    simp [matchHalfName, hleft, lit_append]

theorem matchLevel_dec (percent : Nat) (h : ∀ c ∈ rest.head?, dg.value c = .none) :
    matchLevel dg (dec percent ++ rest) = .some (.some percent, rest) := by
  simp [matchLevel, number_dec percent h]

theorem number_plain {c : Char} (hc : c.toNat < 128) (hd : c.isDigit = false) :
    number dg (c :: rest) = .none := by
  simp [number, dg.plain c hc hd]

theorem matchLevel_usb : matchLevel dg ("usb".toList ++ rest) = .some (.none, rest) := by
  have hnumber : number dg ("usb".toList ++ rest) = .none := number_plain (by decide) (by decide)
  rw [matchLevel, hnumber, lit_append]
  rfl

theorem matchLevel_none : matchLevel dg ("--".toList ++ rest) = .some (.none, rest) := by
  have hnumber : number dg ("--".toList ++ rest) = .none := number_plain (by decide) (by decide)
  have husb : lit "usb".toList ("--".toList ++ rest) = .none := rfl
  rw [matchLevel, hnumber, husb, lit_append]
  rfl

theorem matchLevel_text (dg : Digits) (state : HalfState) (h : Ends rest) :
    ∃ text, matchLevel dg (state.text ++ rest) = .some ((state.found .left).level, text) ∧
      optional " usb".toList text =
        ((state.found .left).usb, (optional " usb".toList text).2) ∧
      (optional " full".toList (optional " usb".toList text).2).2 = rest := by
  have husb : optional " usb".toList rest = (false, rest) := h.optional _ (.inl rfl)
  have hfull : optional " full".toList rest = (false, rest) := h.optional _ (.inr rfl)
  cases state with
  | level percent =>
    exact ⟨rest, matchLevel_dec percent h.digits, by rw [husb]; rfl, by rw [husb, hfull]⟩
  | onUsb percent full =>
    refine ⟨" usb".toList ++ ((if full then " full".toList else []) ++ rest), ?_, ?_, ?_⟩
    · have htext : (HalfState.onUsb percent full).text ++ rest =
          dec percent ++ (" usb".toList ++ ((if full then " full".toList else []) ++ rest)) := by
        simp [HalfState.text]
      rw [htext]
      exact matchLevel_dec percent (plain_head (by decide) (by decide))
    · rw [optional_append]
      rfl
    · rw [optional_append]
      cases full with
      | true =>
        rw [if_pos rfl, optional_append]
      | false =>
        rw [if_neg Bool.false_ne_true, List.nil_append, hfull]
  | usb => exact ⟨rest, matchLevel_usb, by rw [husb]; rfl, by rw [husb, hfull]⟩
  | noLevel => exact ⟨rest, matchLevel_none, by rw [husb]; rfl, by rw [husb, hfull]⟩

/-- **A half is matched** as what it says, up to what comes behind it. -/
theorem snapshotHalf_text (half : Half) (state : HalfState) (hbefore : before.any cc.word = false)
    (h : Ends rest) :
    snapshotHalf cc dg before (half.text ++ '=' :: (state.text ++ rest)) =
      .some (state.found half, rest) := by
  have hequals : lit ['='] ('=' :: (state.text ++ rest)) = .some (state.text ++ rest) := by
    simp [lit]
  obtain ⟨text, hlevel, husb, hfull⟩ := matchLevel_text dg state h
  have hfound : (⟨half, (state.found .left).level, (state.found .left).usb⟩ : HalfMatch) =
      state.found half := by
    cases state <;> rfl
  unfold snapshotHalf
  rw [hbefore, if_neg Bool.false_ne_true, matchHalfName_text]
  simp only [Option.bind_eq_bind, Option.bind_some, hequals, hlevel]
  rw [← hfound, hfull, husb]
  rfl

theorem snapshotHalf_pass {c : Char} (hl : c ≠ 'l') (hr : c ≠ 'r') :
    snapshotHalf cc dg before (c :: rest) = .none := by
  have hleft : lit Half.left.text (c :: rest) = .none := by
    simp [Half.text, lit, Ne.symm hl]
  have hright : lit Half.right.text (c :: rest) = .none := by
    simp [Half.text, lit, Ne.symm hr]
  unfold snapshotHalf
  split
  · rfl
  · simp [matchHalfName, hleft, hright]

/-- What follows the right half. -/
def BatterySnapshot.tail (s : BatterySnapshot) : List Char :=
  match s.mv with
  | .some mv => " mv=".toList ++ dec mv
  | .none => []

theorem BatterySnapshot.ends_tail (s : BatterySnapshot) : Ends s.tail := by
  unfold BatterySnapshot.tail
  cases s.mv with
  | none => exact .inl rfl
  | some mv =>
    have hmv : " mv=".toList = [' ', 'm', 'v', '='] := by decide
    exact .inr ⟨'m', 'v' :: '=' :: dec mv, by simp [hmv], by decide, by decide⟩

theorem BatterySnapshot.pass_tail (s : BatterySnapshot) : ∀ c ∈ s.tail, c ≠ 'l' ∧ c ≠ 'r' := by
  intro c hc
  unfold BatterySnapshot.tail at hc
  cases hmv : s.mv with
  | none =>
    rw [hmv] at hc
    cases hc
  | some mv =>
    rw [hmv] at hc
    obtain hc | hc := List.mem_append.mp hc
    · have hmv : " mv=".toList = [' ', 'm', 'v', '='] := by decide
      have hplain : ∀ c ∈ [' ', 'm', 'v', '='], c ≠ 'l' ∧ c ≠ 'r' := by simp
      exact hplain c (hmv ▸ hc)
    · have hdigit := isDigit_of_mem_dec hc
      refine ⟨?_, ?_⟩ <;> intro he <;> rw [he] at hdigit <;> cases hdigit

theorem BatterySnapshot.text_eq (s : BatterySnapshot) :
    s.text = (Half.left.text ++ '=' :: s.left.text) ++
      ([' '] ++ ((Half.right.text ++ '=' :: s.right.text) ++ (s.tail ++ []))) := by
  have hleft : "left=".toList = Half.left.text ++ ['='] := by decide
  have hright : " right=".toList = ' ' :: Half.right.text ++ ['='] := by decide
  unfold BatterySnapshot.text BatterySnapshot.tail
  simp [hleft, hright]

/-- **Both halves of a snapshot's text are found**, and nothing else. -/
theorem findAll_text (s : BatterySnapshot) :
    findAll (snapshotHalf cc dg) s.text = [s.left.found .left, s.right.found .right] := by
  have hright : Ends ([' '] ++ ((Half.right.text ++ '=' :: s.right.text) ++ (s.tail ++ []))) :=
    .inr ⟨'r', _, rfl, by decide, by decide⟩
  have hspace : ∀ c ∈ [' '], ∀ before rest, snapshotHalf cc dg before (c :: rest) = .none := by
    intro c hc before rest
    rw [List.mem_singleton.mp hc]
    exact snapshotHalf_pass (by decide) (by decide)
  have htail : ∀ c ∈ s.tail, ∀ before rest, snapshotHalf cc dg before (c :: rest) = .none := by
    intro c hc before rest
    obtain ⟨hl, hr⟩ := s.pass_tail c hc
    exact snapshotHalf_pass hl hr
  have hword : (Option.some ' ').any cc.word = false := cc.word_ascii ' ' (by decide)
  have hends : Ends (s.tail ++ []) := by simpa using s.ends_tail
  rw [findAll, s.text_eq, findAll_match (a := s.left.found .left), findAll_pass hspace,
    findAll_match (a := s.right.found .right), findAll_pass htail]
  · rw [findAllFrom]
  · simp
  · simpa using snapshotHalf_text .right s.right hword hends
  · simp
  · simpa using snapshotHalf_text .left s.left rfl hright

/-- **A snapshot's text is parsed back.** -/
theorem parseSnapshot_text (s : BatterySnapshot) : parseSnapshot cc dg s.text = s.levels := by
  unfold parseSnapshot
  rw [findAll_text]
  obtain ⟨left, right, mv⟩ := s
  cases left <;> cases right <;> rfl

/-- **The levels the firmware formats itself are parsed back.** -/
theorem parseSnapshot_formatLevels (soc : UInt8) (peripheralSoc : Int) :
    parseSnapshot cc dg (formatLevels soc peripheralSoc) = (Half.left, (soc.toNat, .none)) ::
      if peripheralSoc < 0 then [] else [(Half.right, (peripheralSoc.toNat, .none))] := by
  let right : HalfState := if peripheralSoc < 0 then .noLevel else .level peripheralSoc.toNat
  have htext : formatLevels soc peripheralSoc =
      (⟨.level soc.toNat, right, .none⟩ : BatterySnapshot).text := by
    unfold formatLevels BatterySnapshot.text HalfState.text decInt
    by_cases h : peripheralSoc < 0
    · simp [right, h]
    · have hnat : peripheralSoc.natAbs = peripheralSoc.toNat := by omega
      simp [right, h, hnat]
  rw [htext, parseSnapshot_text]
  by_cases h : peripheralSoc < 0
  · simp only [right, if_pos h]
    rfl
  · simp only [right, if_neg h]
    rfl

/-! ## And read -/

/-- What may be first or last in a text that is stripped. -/
def Solid (c : Char) : Prop := 0x20 < c.toNat ∧ c.toNat < 128

instance (c : Char) : Decidable (Solid c) := inferInstanceAs (Decidable (_ ∧ _))

theorem solid_of_mem_dec {n : Nat} {c : Char} (h : c ∈ dec n) : Solid c := by
  have hdigit := isDigit_of_mem_dec h
  simp only [Char.isDigit, Bool.and_eq_true, decide_eq_true_eq] at hdigit
  obtain ⟨hlow, hhigh⟩ := hdigit
  have hlow' : 48 ≤ c.toNat := hlow
  have hhigh' : c.toNat ≤ 57 := hhigh
  exact ⟨by omega, by omega⟩

theorem strip_eq {first last : Char} {text middle : List Char} (hf : Solid first)
    (hl : Solid last) (hfirst : text.head? = .some first) (hlast : text = middle ++ [last]) :
    strip cc text = text := by
  have hkeepFirst : text.dropWhile cc.space = text := by
    cases text with
    | nil => rfl
    | cons c text =>
      cases hfirst
      simp [cc.space_ascii first hf.2 hf.1]
  have hkeepLast : text.reverse.dropWhile cc.space = text.reverse := by
    rw [hlast, List.reverse_append, List.reverse_singleton, List.singleton_append]
    simp [cc.space_ascii last hl.2 hl.1]
  rw [strip, hkeepFirst, hkeepLast, List.reverse_reverse]

/-- Only ASCII, with no blank at the end. -/
def Trim (text : List Char) : Prop :=
  Utf8.Ascii text ∧ ∃ middle last, text = middle ++ [last] ∧ Solid last

theorem trim_dec (n : Nat) : Trim (dec n) := by
  refine ⟨fun c hc => (solid_of_mem_dec hc).2, (dec n).dropLast, (dec n).getLast (dec_ne_nil n), ?_,
    solid_of_mem_dec (List.getLast_mem _)⟩
  exact (List.dropLast_concat_getLast (dec_ne_nil n)).symm

theorem Trim.append {text : List Char} (h : Trim text) {first : List Char} (hf : Utf8.Ascii first) :
    Trim (first ++ text) := by
  obtain ⟨hascii, middle, last, he, hlast⟩ := h
  refine ⟨Utf8.ascii_append.mpr ⟨hf, hascii⟩, first ++ middle, last, ?_, hlast⟩
  rw [he, List.append_assoc]

theorem trim_state (state : HalfState) : Trim state.text := by
  have husb : Trim "usb".toList := ⟨by decide, ['u', 's'], 'b', by decide, by decide⟩
  have hnone : Trim "--".toList := ⟨by decide, ['-'], '-', by decide, by decide⟩
  cases state with
  | level percent => exact trim_dec percent
  | onUsb percent full =>
    have hflag : Trim (" usb".toList ++ if full then " full".toList else []) := by
      cases full with
      | true => exact ⟨by decide, [' ', 'u', 's', 'b', ' ', 'f', 'u', 'l'], 'l', by decide, by decide⟩
      | false => exact ⟨by decide, [' ', 'u', 's'], 'b', by decide, by decide⟩
    have htext := hflag.append (trim_dec percent).1
    rw [← List.append_assoc] at htext
    exact htext
  | usb => exact husb
  | noLevel => exact hnone

theorem trim_text (s : BatterySnapshot) : Trim s.text := by
  have hleft : Utf8.Ascii "left=".toList := by decide
  have hright : Utf8.Ascii " right=".toList := by decide
  have hmv : Utf8.Ascii " mv=".toList := by decide
  have hhead : Utf8.Ascii ("left=".toList ++ s.left.text ++ " right=".toList) :=
    Utf8.ascii_append.mpr ⟨Utf8.ascii_append.mpr ⟨hleft, (trim_state s.left).1⟩, hright⟩
  have hhalves := (trim_state s.right).append hhead
  unfold BatterySnapshot.text
  cases s.mv with
  | none =>
    dsimp only
    rw [List.append_nil]
    exact hhalves
  | some mv => exact ((trim_dec mv).append hmv).append hhalves.1

theorem strip_text (s : BatterySnapshot) : strip cc s.text = s.text := by
  obtain ⟨-, middle, last, he, hlast⟩ := trim_text s
  have hfirst : s.text.head? = .some 'l' := by
    rw [s.text_eq]
    rfl
  have hsolid : Solid 'l' := by decide
  exact strip_eq hsolid hlast hfirst he

/-- The payload that carries a snapshot. -/
def BatterySnapshot.payload (s : BatterySnapshot) : List UInt8 := 0x4b :: Utf8.encodeAscii s.text

theorem snapshotOf_payload (s : BatterySnapshot) : snapshotOf cc dg s.payload = .some s.levels := by
  have hascii : Utf8.Ascii s.text := (trim_text s).1
  simp [snapshotOf, BatterySnapshot.payload, Utf8.decodeReplace_ascii hascii, strip_text,
    parseSnapshot_text]

theorem snapshotOf_other {payload : List UInt8} (h : payload.head? ≠ .some 0x4b) :
    snapshotOf cc dg payload = .none := by
  cases payload with
  | nil => rfl
  | cons first text =>
    have hne : first ≠ 0x4b := fun he => h (congrArg Option.some he)
    simp [snapshotOf, hne]

end

namespace FramesState

open Framing

theorem run_view (state : FramesState) (bytes : List UInt8) :
    (run framesByte state bytes).1.view = (run (Decoder.put marks) state.view bytes).1 ∧
      (run framesByte state bytes).2 = (run (Decoder.put marks) state.view bytes).2 := by
  have halongside : Transducer.Alongside framesByte (Decoder.put marks)
      (fun _ _ byte byte' => byte = byte') state state.view bytes bytes := .same _ fun _ _ _ _ => rfl
  refine halongside.eq (R := fun state d => state.view = d) rfl ?_
  intro state d byte byte' hsim hbyte
  subst hsim hbyte
  exact Prod.mk.inj (framesByte_view state byte)

end FramesState

open Framing in
/-- After a row of frames the payloads have been yielded. -/
theorem frames_yield (state : FramesState) (hstate : state.active = false)
    (payloads : List (List UInt8)) (rest : List UInt8) :
    ∃ later, (state.frames (payloads.flatMap frame ++ rest)).2 = payloads ++ later := by
  -- a limit that none of this reaches
  let cap := (payloads.flatMap frame ++ rest).length + payloads.flatten.length
  have hview : state.view = .outside := by simp [FramesState.view, decoder, hstate]
  have hcap : state.view.held + (payloads.flatMap frame ++ rest).length ≤ cap := by
    rw [hview, Decoder.held, Nat.zero_add]
    exact Nat.le_add_right _ _
  have hfits : ∀ payload ∈ payloads, payload.length ≤ cap := by
    intro payload hm
    have hle := (List.sublist_flatten_of_mem hm).length_le
    exact Nat.le_trans hle (Nat.le_add_left _ _)
  refine ⟨(run (Decoder.step marks cap) .outside rest).2, ?_⟩
  unfold FramesState.frames
  rw [(state.run_view _).2, Decoder.run_put_eq hcap, hview, Transducer.run_append,
    flatMap_frame_eq, Decoder.run_frames hfits]

/-- What the port answered in an attempt holds no snapshot. -/
def NoSnapshot (chunks : List (List UInt8)) : Prop :=
  ∀ payload ∈ (runEach FramesState.framesByte .new chunks).2, payload.head? ≠ .some 0x4b

theorem findSome_none {cc : CharClasses} {dg : Digits} {payloads : List (List UInt8)}
    (h : ∀ payload ∈ payloads, payload.head? ≠ .some 0x4b) :
    payloads.findSome? (snapshotOf cc dg) = .none := by
  rw [List.findSome?_eq_none_iff]
  intro payload hm
  exact snapshotOf_other (h payload hm)

theorem readSnapshot_eq (cc : CharClasses) (dg : Digits) {s : BatterySnapshot} {g rest : List UInt8}
    {others : List (List UInt8)} {chunks : List (List UInt8)}
    (hchunks : chunks.flatten = g ++ ((others ++ [s.payload]).flatMap frame ++ rest))
    (hidle : (FramesState.new.frames g).1.active = false)
    (hothers : ∀ payload ∈ (FramesState.new.frames g).2 ++ others, payload.head? ≠ .some 0x4b) :
    readSnapshot cc dg chunks = .some s.levels := by
  obtain ⟨later, hlater⟩ := frames_yield _ hidle (others ++ [s.payload]) rest
  have hall : (runEach FramesState.framesByte .new chunks).2 =
      ((FramesState.new.frames g).2 ++ others) ++ s.payload :: later := by
    unfold FramesState.frames at hlater ⊢
    rw [Transducer.runEach_eq, hchunks, Transducer.run_append]
    dsimp only
    rw [hlater]
    simp
  unfold readSnapshot
  rw [hall, List.findSome?_append, findSome_none hothers]
  simp [snapshotOf_payload]

/-- **A battery snapshot is read over USB as it was meant.** In one of the three
attempts, those before having failed or answered none, and whatever the port
answered before it, as long as no frame is under way: however the bytes are cut
into reads, the first snapshot is what is returned, with the level of each half
that has one and whether it is on USB power. -/
theorem snapshot_read (cc : CharClasses) (dg : Digits) (s : BatterySnapshot) (g rest : List UInt8)
    (others : List (List UInt8)) (chunks : List (List UInt8))
    (earlier more : List (Option (List (List UInt8))))
    (hchunks : chunks.flatten = g ++ ((others ++ [s.payload]).flatMap frame ++ rest))
    (hidle : (FramesState.new.frames g).1.active = false)
    (hothers : ∀ payload ∈ (FramesState.new.frames g).2 ++ others, payload.head? ≠ .some 0x4b)
    (hattempts : earlier.length < 3)
    (hearlier : ∀ answered, .some answered ∈ earlier → NoSnapshot answered) :
    readUsb cc dg (earlier ++ .some chunks :: more) = .some s.levels := by
  have hnone : earlier.findSome? (fun attempt => attempt.bind (readSnapshot cc dg)) = .none := by
    rw [List.findSome?_eq_none_iff]
    intro attempt hm
    cases attempt with
    | none => rfl
    | some answered => exact findSome_none (hearlier answered hm)
  have htake : (earlier ++ .some chunks :: more).take 3 =
      earlier ++ .some chunks :: more.take (3 - earlier.length - 1) := by
    obtain ⟨n, hn⟩ : ∃ n, 3 - earlier.length = n + 1 := ⟨2 - earlier.length, by omega⟩
    rw [List.take_append, List.take_of_length_le (by omega), hn, List.take_succ_cons,
      Nat.add_sub_cancel]
  unfold readUsb
  rw [htake, List.findSome?_append, hnone]
  simp [readSnapshot_eq cc dg hchunks hidle hothers]

/-- The characters of ASCII only. -/
def asciiClasses : CharClasses where
  word c := decide (c.toNat < 128) && (c.isAlphanum || c = '_')
  space c := [' ', '\t', '\n', '\x0b', '\x0c', '\r'].contains c
  word_ascii := by
    intro c hc
    simp [hc]
  space_ascii := by
    intro c _ hsolid
    have hblank : ∀ blank ∈ [' ', '\t', '\n', '\x0b', '\x0c', '\r'], blank.toNat ≤ 0x20 := by
      simp
    rw [List.contains_eq_mem, decide_eq_false_iff_not]
    intro hm
    have hle := hblank c hm
    omega

/-- After a stray byte and a log line, the left half charging at 53% and the right
one at 32%, read in two goes in the second attempt: at the first the port was
busy. -/
theorem snapshot_read_charging :
    let s : BatterySnapshot := ⟨.onUsb 53 false, .level 32, .some 3964⟩
    let bytes := 0x20 :: (frame [0x4c, 0xab] ++ frame s.payload)
    readUsb asciiClasses asciiDigits [.none, .some [bytes.take 5, bytes.drop 5]] =
      .some [(.left, 53, .some true), (.right, 32, .none)] := by
  intro s bytes
  have hchunks : [bytes.take 5, bytes.drop 5].flatten =
      [0x20] ++ (([[0x4c, 0xab]] ++ [s.payload]).flatMap frame ++ []) := by
    rw [List.flatten_cons, List.flatten_cons, List.flatten_nil, List.append_nil,
      List.take_append_drop]
    simp [bytes]
  exact snapshot_read asciiClasses asciiDigits s [0x20] [] [[0x4c, 0xab]]
    [bytes.take 5, bytes.drop 5] [.none] [] hchunks rfl (by decide) (by decide) (by simp)

end TotemZmk
