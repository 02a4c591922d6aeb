/-
Decimal numbers in text: how a formatted output writes them and how a regular
expression reads them back.

A pattern is read left to right: a literal, a run of digits, the end of the
line. Where the character after a run of digits is none, the longest run is
the only one that can match.

* `number_dec`: a number reads back as it was written.
* `length_dec_le`: what a buffer needs for it.
-/
import Mathlib.Algebra.Group.Nat.Defs

namespace Text

/-- What `\d` matches, and the digit each character stands for: the ASCII
digits, and possibly characters beyond ASCII. -/
structure Digits where
  value : Char → Option Nat
  ascii : ∀ c, c.isDigit = true → value c = .some (c.toNat - '0'.toNat)
  plain : ∀ c, c.toNat < 128 → c.isDigit = false → value c = .none

/-- The ASCII digits alone. -/
def asciiDigits : Digits where
  value c := if c.isDigit then .some (c.toNat - '0'.toNat) else .none
  ascii c h := by simp [h]
  plain c _ h := by simp [h]

/-- `%u` -/
def dec (n : Nat) : List Char := Nat.toDigits 10 n

/-- `%d` -/
def decInt (i : Int) : List Char := if i < 0 then '-' :: dec i.natAbs else dec i.natAbs

/-- Take a literal off the front. -/
def lit : List Char → List Char → Option (List Char)
  | [], s => .some s
  | _ :: _, [] => .none
  | a :: p, c :: s => if a = c then lit p s else .none

/-- Take `(\d+)` off the front. -/
def number (dg : Digits) (s : List Char) : Option (Nat × List Char) :=
  let ds := s.takeWhile fun c => (dg.value c).isSome
  if ds = [] then .none
  else .some (ds.foldl (fun n c => 10 * n + (dg.value c).getD 0) 0, s.drop ds.length)

/-- `$` holds at the end, and before a line break there. -/
def atEnd (s : List Char) : Bool := s = [] || s = ['\n']

/-- `(.+)$` -/
def someLine (s : List Char) : Bool :=
  let t := s.takeWhile (· ≠ '\n')
  t ≠ [] && atEnd (s.drop t.length)

theorem eq_of_lit {p s t : List Char} (h : lit p s = .some t) : s = p ++ t := by
  induction p generalizing s with
  | nil => cases h; rfl
  | cons a p ih =>
    cases s with
    | nil => cases h
    | cons c s =>
      rw [lit] at h
      split at h
      · rename_i hac
        rw [hac, List.cons_append, ih h]
      · cases h

theorem lit_append (p s : List Char) : lit p (p ++ s) = .some s := by
  induction p with
  | nil => rfl
  | cons a p ih => rw [List.cons_append, lit, if_pos rfl, ih]

/-- A literal does not match where a character differs. -/
theorem lit_of_ne {p q : List Char} {a c : Char} (h : a ≠ c) (s t : List Char) :
    lit (p ++ a :: q) (p ++ c :: s ++ t) = .none := by
  induction p with
  | nil => rw [List.nil_append, List.nil_append, List.cons_append, lit, if_neg h]
  | cons b p ih => rw [List.cons_append, List.cons_append, List.cons_append, lit, if_pos rfl, ih]

section

variable {dg : Digits}

theorem dec_ne_nil (n : Nat) : dec n ≠ [] := Nat.toDigits_ne_nil

theorem isDigit_of_mem_dec {n : Nat} {c : Char} (h : c ∈ dec n) : c.isDigit = true :=
  Nat.isDigit_of_mem_toDigits (by decide) (by decide) h

theorem foldl_dec (n : Nat) : (dec n).foldl (fun m c => 10 * m + (dg.value c).getD 0) 0 = n := by
  have hfold : ∀ (l : List Char) (m : Nat), (∀ c ∈ l, c.isDigit = true) →
      l.foldl (fun m c => 10 * m + (dg.value c).getD 0) m = Nat.ofDigitChars 10 l m := by
    intro l
    induction l with
    | nil => intro m _; rfl
    | cons c l ih =>
      intro m h
      rw [List.foldl_cons, Nat.ofDigitChars_cons, ih _ fun c hc => h c (List.mem_cons_of_mem _ hc),
        dg.ascii c (h c List.mem_cons_self), Option.getD_some]
  rw [hfold _ _ fun c hc => isDigit_of_mem_dec hc]
  exact Nat.ofDigitChars_ten_toDigits

/-- **A number reads back as it was written**, before anything but a digit. -/
theorem number_dec (n : Nat) {s : List Char} (h : ∀ c ∈ s.head?, dg.value c = .none) :
    number dg (dec n ++ s) = .some (n, s) := by
  have htake : (dec n ++ s).takeWhile (fun c => (dg.value c).isSome) = dec n := by
    rw [List.takeWhile_append_of_pos fun c hc => by rw [dg.ascii c (isDigit_of_mem_dec hc)]; rfl]
    cases s with
    | nil => simp
    | cons c s =>
      rw [List.takeWhile_cons_of_neg (by simp [h c rfl]), List.append_nil]
  unfold number
  rw [htake]
  simp only [if_neg (dec_ne_nil n), foldl_dec, List.drop_left]

/-- An ASCII character that is no digit ends a run of them. -/
theorem plain_head {c : Char} {s : List Char} (hc : c.toNat < 128) (hd : c.isDigit = false) :
    ∀ c' ∈ (c :: s).head?, dg.value c' = .none := by
  intro c' hc'
  cases hc'
  exact dg.plain c hc hd

theorem nil_head : ∀ c ∈ ([] : List Char).head?, dg.value c = .none := by simp

/-- A literal and a number after it, as one step of a pattern. -/
theorem field_bind {α : Type} (p : List Char) (n : Nat) {s : List Char}
    (f : Nat × List Char → Option α) (h : ∀ c ∈ s.head?, dg.value c = .none) :
    ((lit p (p ++ (dec n ++ s))).bind (number dg) >>= f) = f (n, s) := by
  rw [lit_append, Option.bind_some, number_dec n h]
  rfl

theorem field_bind_none {α : Type} {p s : List Char} (h : lit p s = .none)
    (f : Nat × List Char → Option α) : ((lit p s).bind (number dg) >>= f) = .none := by
  rw [h]
  rfl

end

/-! ## Lengths and characters -/

theorem length_dec_le {n k : Nat} (hk : 0 < k) (h : n < 10 ^ k) : (dec n).length ≤ k :=
  (Nat.length_toDigits_le_iff (by decide) hk).mpr h

theorem length_decInt_le {i : Int} {k : Nat} (hk : 0 < k) (h : i.natAbs < 10 ^ k) :
    (decInt i).length ≤ k + 1 := by
  have := length_dec_le hk h
  unfold decInt
  split
  · simp only [List.length_cons]
    omega
  · omega

theorem length_dec_u8 (x : UInt8) : (dec x.toNat).length ≤ 3 :=
  length_dec_le (by decide) (Nat.lt_of_lt_of_le x.toNat_lt (by decide))

theorem length_dec_u32 (x : UInt32) : (dec x.toNat).length ≤ 10 :=
  length_dec_le (by decide) (Nat.lt_of_lt_of_le x.toNat_lt (by decide))

theorem length_decInt_i8 (x : Int8) : (decInt x.toInt).length ≤ 4 := by
  have h₁ : -128 ≤ x.toInt := x.le_toInt
  have h₂ : x.toInt ≤ 127 := x.toInt_le
  exact length_decInt_le (k := 3) (by decide) (by omega)

theorem newline_not_mem_dec (n : Nat) : '\n' ∉ dec n := by
  intro h
  exact absurd (isDigit_of_mem_dec h) (by decide)

theorem newline_not_mem_decInt (i : Int) : '\n' ∉ decInt i := by
  unfold decInt
  split
  · simp [newline_not_mem_dec]
  · exact newline_not_mem_dec _

theorem someLine_of_forall {s : List Char} (hne : s ≠ []) (h : '\n' ∉ s) : someLine s = true := by
  have hall : ∀ c ∈ s, decide (c ≠ '\n') = true := by
    intro c hc
    rw [decide_eq_true_eq]
    rintro rfl
    exact h hc
  have htake : s.takeWhile (· ≠ '\n') = s := by
    have := @List.takeWhile_append_of_pos _ _ s [] hall
    rwa [List.append_nil, List.takeWhile_nil, List.append_nil] at this
  unfold someLine
  rw [htake]
  simp [hne, atEnd]

end Text
