/-
All matches of a pattern in a text, from left to right: after a match the search
goes on behind it, else at the next character. A pattern may look at the
character before, and may not match nothing.

* `findAll_match`: a match is found, and the search goes on behind it.
* `findAll_pass`: characters at which nothing matches are passed over.
-/
import TotemZmk.Lib.Text

namespace Text

/-- What a pattern takes off the front of a text, and the rest. -/
abbrev Pattern (α : Type) := Option Char → List Char → Option (α × List Char)

variable {α : Type} (p : Pattern α)

/-- `findall`, behind `before`, with so many characters of a match left. -/
def findAllFrom : Option Char → Nat → List Char → List α
  | _, _, [] => []
  | _, left + 1, c :: text => findAllFrom (.some c) left text
  | before, 0, c :: text =>
    match p before (c :: text) with
    | .some (a, rest) => a :: findAllFrom (.some c) (text.length - rest.length) text
    | .none => findAllFrom (.some c) 0 text

/-- `findall` -/
def findAll (text : List Char) : List α := findAllFrom p .none 0 text

/-- The last character of a text, or the one before it. -/
def lastOr : Option Char → List Char → Option Char
  | before, [] => before
  | _, c :: text => lastOr (.some c) text

variable {p} {before : Option Char} {text rest : List Char}

@[simp] theorem lastOr_nil : lastOr before [] = before := rfl

@[simp] theorem lastOr_cons (c : Char) : lastOr before (c :: text) = lastOr (.some c) text := rfl

theorem findAllFrom_left :
    findAllFrom p before text.length (text ++ rest) = findAllFrom p (lastOr before text) 0 rest := by
  induction text generalizing before with
  | nil => rfl
  | cons c text ih =>
    rw [lastOr_cons]
    exact ih

/-- **A match is found**, and the search goes on behind it. -/
theorem findAll_match {a : α} (hne : text ≠ []) (h : p before (text ++ rest) = .some (a, rest)) :
    findAllFrom p before 0 (text ++ rest) = a :: findAllFrom p (lastOr before text) 0 rest := by
  cases text with
  | nil => exact absurd rfl hne
  | cons c text =>
    rw [List.cons_append] at h
    rw [List.cons_append, findAllFrom, h, lastOr_cons]
    dsimp only
    rw [List.length_append, Nat.add_sub_cancel, findAllFrom_left]

/-- **Where nothing matches**, the search goes on. -/
theorem findAll_pass (h : ∀ c ∈ text, ∀ before rest, p before (c :: rest) = .none) :
    findAllFrom p before 0 (text ++ rest) = findAllFrom p (lastOr before text) 0 rest := by
  induction text generalizing before with
  | nil => rfl
  | cons c text ih =>
    rw [List.cons_append, findAllFrom, h c List.mem_cons_self, lastOr_cons]
    exact ih fun c' hc' => h c' (List.mem_cons_of_mem _ hc')

end Text
