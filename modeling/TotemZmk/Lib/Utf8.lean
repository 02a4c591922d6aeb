/-
UTF-8 decoded with replacement, byte by byte: bytes that no character is made of
become U+FFFD, one for each longest piece that could have started one.

* `decodeReplace_ascii`: ASCII characters are read as they are.
-/
import TotemZmk.Lib.Transducer

namespace Utf8

open Transducer (run run_cons)

/-- A character under way: how many bytes it still needs, its bits so far, and
between which bounds its next byte has to be. -/
structure Pending where
  need : Nat
  code : Nat
  lower : UInt8
  upper : UInt8
deriving DecidableEq, Repr

/-- U+FFFD -/
def replacement : Char := Char.ofNat 0xfffd

/-- A byte that has to start a character. -/
def lead (byte : UInt8) : Option Pending × List Char :=
  if byte < 0x80 then (.none, [Char.ofNat byte.toNat])
  else if byte < 0xc2 then (.none, [replacement])
  else if byte < 0xe0 then (.some ⟨1, byte.toNat % 32, 0x80, 0xbf⟩, [])
  else if byte < 0xf0 then
    -- No overlong forms, and no surrogates.
    (.some ⟨2, byte.toNat % 16, if byte = 0xe0 then 0xa0 else 0x80,
      if byte = 0xed then 0x9f else 0xbf⟩, [])
  else if byte < 0xf5 then
    (.some ⟨3, byte.toNat % 8, if byte = 0xf0 then 0x90 else 0x80,
      if byte = 0xf4 then 0x8f else 0xbf⟩, [])
  else (.none, [replacement])

/-- A byte that does not go on with the character under way starts another. -/
def step (pending : Option Pending) (byte : UInt8) : Option Pending × List Char :=
  match pending with
  | .none => lead byte
  | .some p =>
    if p.lower ≤ byte ∧ byte ≤ p.upper then
      let code := p.code * 64 + byte.toNat % 64
      if p.need ≤ 1 then (.none, [Char.ofNat code])
      else (.some ⟨p.need - 1, code, 0x80, 0xbf⟩, [])
    else ((lead byte).1, replacement :: (lead byte).2)

/-- `decode("utf-8", "replace")` -/
def decodeReplace (bytes : List UInt8) : List Char :=
  (run step .none bytes).2 ++ if (run step .none bytes).1.isSome then [replacement] else []

/-- The bytes of ASCII characters. -/
def encodeAscii (text : List Char) : List UInt8 := text.map fun c => UInt8.ofNat c.toNat

/-- No character beyond ASCII. -/
def Ascii (text : List Char) : Prop := ∀ c ∈ text, c.toNat < 128

instance (text : List Char) : Decidable (Ascii text) :=
  List.decidableBAll (fun c : Char => c.toNat < 128) text

variable {c : Char} {text text' : List Char}

@[simp] theorem ascii_nil : Ascii [] := fun _ h => absurd h List.not_mem_nil

@[simp] theorem ascii_cons : Ascii (c :: text) ↔ c.toNat < 128 ∧ Ascii text := by simp [Ascii]

@[simp] theorem ascii_append : Ascii (text ++ text') ↔ Ascii text ∧ Ascii text' := by
  simp [Ascii, or_imp, forall_and]

theorem Ascii.take (h : Ascii text) (n : Nat) : Ascii (text.take n) :=
  fun c hc => h c (List.mem_of_mem_take hc)

theorem step_ascii (h : c.toNat < 128) : step .none (UInt8.ofNat c.toNat) = (.none, [c]) := by
  have hbyte : (UInt8.ofNat c.toNat).toNat = c.toNat := by
    rw [UInt8.toNat_ofNat']
    exact Nat.mod_eq_of_lt (by omega)
  have hlow : UInt8.ofNat c.toNat < 0x80 := by
    rw [UInt8.lt_iff_toNat_lt, hbyte]
    exact h
  simp [step, lead, hlow, hbyte]

theorem run_ascii (h : Ascii text) : run step .none (encodeAscii text) = (.none, text) := by
  induction text with
  | nil => rfl
  | cons c text ih =>
    have hc := step_ascii (h c List.mem_cons_self)
    have htext := ih fun c hc => h c (List.mem_cons_of_mem _ hc)
    rw [encodeAscii] at htext
    rw [encodeAscii, List.map_cons, run_cons, hc, htext]
    rfl

/-- **ASCII is read as it was written.** -/
theorem decodeReplace_ascii (h : Ascii text) : decodeReplace (encodeAscii text) = text := by
  rw [decodeReplace, run_ascii h]
  simp

end Utf8
