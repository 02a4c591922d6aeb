/-
A C buffer that a text is put into with `snprintf`, piece by piece: what it says are
the characters before the first NUL.

* `Holds.format`: a piece that has room is added whole, within the buffer.
-/
import Mathlib.Data.List.TakeWhile

/-- A buffer of `size` characters. -/
structure CBuffer (size : Nat) where
  chars : List Char
  length_eq : chars.length = size
deriving DecidableEq, Repr

namespace CBuffer

variable {size : Nat} {b : CBuffer size} {text piece : List Char}

def nul : Char := '\x00'

/-- All zero. -/
def zero (size : Nat) : CBuffer size := ⟨List.replicate size nul, List.length_replicate⟩

/-- What it says, as `%s` prints it. -/
def content (b : CBuffer size) : List Char := b.chars.takeWhile fun c => c ≠ nul

/-- What `snprintf` writes where there are `room` characters. -/
def written (room : Nat) (piece : List Char) : List Char :=
  if room = 0 then [] else piece.take (room - 1) ++ [nul]

theorem length_put (b : CBuffer size) (pos : Nat) {piece : List Char}
    (h : pos + piece.length ≤ size) :
    (b.chars.take pos ++ piece ++ b.chars.drop (pos + piece.length)).length = size := by
  have hlen := b.length_eq
  rw [List.length_append, List.length_append, List.length_take, List.length_drop]
  omega

/-- `snprintf(buf + pos, room, …)`. `.none` is a write past the end. -/
def format (b : CBuffer size) (pos room : Nat) (piece : List Char) : Option (CBuffer size) :=
  if h : pos + (written room piece).length ≤ size then .some ⟨_, length_put b pos h⟩ else .none

/-- The buffer holds a text, and the NUL behind it. -/
structure Holds (b : CBuffer size) (text : List Char) : Prop where
  plain : nul ∉ text
  ends : ∃ rest, b.chars = text ++ nul :: rest

theorem holds_zero (h : 0 < size) : (zero size).Holds [] where
  plain := List.not_mem_nil
  ends := by
    obtain ⟨n, rfl⟩ : ∃ n, size = n + 1 := ⟨size - 1, by omega⟩
    exact ⟨List.replicate n nul, rfl⟩

theorem Holds.content_eq (h : b.Holds text) : b.content = text := by
  obtain ⟨rest, he⟩ := h.ends
  unfold CBuffer.content
  rw [he, List.takeWhile_append_of_pos]
  · simp
  · intro c hc
    have hne : c ≠ nul := fun heq => h.plain (heq ▸ hc)
    simp [hne]

theorem Holds.length_lt (h : b.Holds text) : text.length < size := by
  obtain ⟨rest, he⟩ := h.ends
  have hlen := b.length_eq
  rw [he, List.length_append, List.length_cons] at hlen
  omega

/-- **A piece that has room** is added whole, and the NUL behind it. -/
theorem Holds.format {room : Nat} (h : b.Holds text) (hplain : nul ∉ piece)
    (hroom : piece.length < room) (hfits : text.length + piece.length < size) :
    ∃ b', b.format text.length room piece = .some b' ∧ b'.Holds (text ++ piece) := by
  have hwritten : written room piece = piece ++ [nul] := by
    unfold written
    rw [if_neg (by omega), List.take_of_length_le (by omega)]
  have hin : text.length + (written room piece).length ≤ size := by
    rw [hwritten, List.length_append, List.length_singleton]
    omega
  refine ⟨_, dif_pos hin, ?_, ?_⟩
  · rw [List.mem_append, not_or]
    exact ⟨h.plain, hplain⟩
  · obtain ⟨rest, he⟩ := h.ends
    refine ⟨b.chars.drop (text.length + (written room piece).length), ?_⟩
    have htake : b.chars.take text.length = text := by rw [he, List.take_left]
    show b.chars.take text.length ++ written room piece ++ _ = _
    rw [htake, hwritten]
    simp

end CBuffer
