/-
Little-endian fields of a packed record, written one after the other and
read back in the same order. Reading past the end reads zeros, as from a
buffer that was cleared first.

* `readU32_putU32` and its companions: a field reads back as it was put.
* `readList_putList`: so does a run of records.
* `Exact`: and what was read is put back as the bytes it came from.
-/

namespace Bytes

/-- A reader takes a value off the front. -/
abbrev Reader (α : Type) := List UInt8 → α × List UInt8

def putU8 (x : UInt8) : List UInt8 := [x]

def putU16 (x : UInt16) : List UInt8 := [UInt8.ofNat x.toNat, UInt8.ofNat (x.toNat / 256)]

def putU32 (x : UInt32) : List UInt8 :=
  [UInt8.ofNat x.toNat, UInt8.ofNat (x.toNat / 256), UInt8.ofNat (x.toNat / 65536),
    UInt8.ofNat (x.toNat / 16777216)]

def putI8 (x : Int8) : List UInt8 := [x.toUInt8]

def readU8 : Reader UInt8
  | [] => (0, [])
  | b :: bs => (b, bs)

def readU16 : Reader UInt16 := fun bs =>
  let (b₀, bs) := readU8 bs
  let (b₁, bs) := readU8 bs
  (UInt16.ofNat (b₀.toNat + 256 * b₁.toNat), bs)

def readU32 : Reader UInt32 := fun bs =>
  let (b₀, bs) := readU8 bs
  let (b₁, bs) := readU8 bs
  let (b₂, bs) := readU8 bs
  let (b₃, bs) := readU8 bs
  (UInt32.ofNat (b₀.toNat + 256 * b₁.toNat + 65536 * b₂.toNat + 16777216 * b₃.toNat), bs)

def readI8 : Reader Int8 := fun bs =>
  let (b, bs) := readU8 bs
  (b.toInt8, bs)

/-- `n` records in a row. -/
def readList {α : Type} (read : Reader α) : Nat → Reader (List α)
  | 0, bs => ([], bs)
  | n + 1, bs =>
    let (x, bs) := read bs
    let (xs, bs) := readList read n bs
    (x :: xs, bs)

@[simp] theorem readU8_putU8 (x : UInt8) (bs : List UInt8) : readU8 (putU8 x ++ bs) = (x, bs) := rfl

@[simp] theorem readI8_putI8 (x : Int8) (bs : List UInt8) : readI8 (putI8 x ++ bs) = (x, bs) := by
  simp [readI8, putI8, readU8]

@[simp] theorem readU16_putU16 (x : UInt16) (bs : List UInt8) :
    readU16 (putU16 x ++ bs) = (x, bs) := by
  have := x.toNat_lt
  simp only [readU16, putU16, List.cons_append, List.nil_append, readU8, Prod.mk.injEq, and_true]
  apply UInt16.toNat.inj
  simp only [UInt16.toNat_ofNat', UInt8.toNat_ofNat']
  omega

@[simp] theorem readU32_putU32 (x : UInt32) (bs : List UInt8) :
    readU32 (putU32 x ++ bs) = (x, bs) := by
  have := x.toNat_lt
  simp only [readU32, putU32, List.cons_append, List.nil_append, readU8, Prod.mk.injEq, and_true]
  apply UInt32.toNat.inj
  simp only [UInt32.toNat_ofNat', UInt8.toNat_ofNat']
  omega

theorem readList_putList {α : Type} {read : Reader α} {put : α → List UInt8}
    (h : ∀ x bs, read (put x ++ bs) = (x, bs)) (xs : List α) (bs : List UInt8) :
    readList read xs.length (xs.flatMap put ++ bs) = (xs, bs) := by
  induction xs with
  | nil => rfl
  | cons x xs ih => simp [readList, h, ih]

theorem length_readList {α : Type} (read : Reader α) (n : Nat) (bs : List UInt8) :
    (readList read n bs).1.length = n := by
  induction n generalizing bs with
  | zero => rfl
  | succ n ih => simp [readList, ih]

@[simp] theorem length_putU8 (x : UInt8) : (putU8 x).length = 1 := rfl
@[simp] theorem length_putU16 (x : UInt16) : (putU16 x).length = 2 := rfl
@[simp] theorem length_putU32 (x : UInt32) : (putU32 x).length = 4 := rfl
@[simp] theorem length_putI8 (x : Int8) : (putI8 x).length = 1 := rfl

theorem length_putList {α : Type} {put : α → List UInt8} {n : Nat} (h : ∀ x, (put x).length = n)
    (xs : List α) : (xs.flatMap put).length = n * xs.length := by
  induction xs with
  | nil => rfl
  | cons x xs ih => simp [ih, h, Nat.mul_add, Nat.add_comm]

/-! ## Bytes that were read -/

/-- From enough bytes, `read` takes `n`, and `put` gives them back. -/
def Exact {α : Type} (read : Reader α) (put : α → List UInt8) (n : Nat) : Prop :=
  ∀ bs, n ≤ bs.length → put (read bs).1 ++ (read bs).2 = bs ∧ (read bs).2.length + n = bs.length

theorem Exact.split {α : Type} {read : Reader α} {put : α → List UInt8} {n : Nat}
    (h : Exact read put n) (bs : List UInt8) (hn : n ≤ bs.length) :
    ∃ x rest, read bs = (x, rest) ∧ bs = put x ++ rest ∧ rest.length + n = bs.length :=
  ⟨(read bs).1, (read bs).2, rfl, (h bs hn).1.symm, (h bs hn).2⟩

theorem exact_readU8 : Exact readU8 putU8 1 := by
  intro bs h
  match bs, h with
  | b :: bs, _ => exact ⟨rfl, rfl⟩

theorem exact_readI8 : Exact readI8 putI8 1 := by
  intro bs h
  match bs, h with
  | b :: bs, _ => exact ⟨by simp [readI8, putI8, readU8], rfl⟩

theorem exact_readU16 : Exact readU16 putU16 2 := by
  intro bs h
  match bs, h with
  | b₀ :: b₁ :: bs, _ =>
    have := b₀.toNat_lt
    have := b₁.toNat_lt
    refine ⟨?_, rfl⟩
    simp only [readU16, readU8, putU16, List.cons_append, List.nil_append, List.cons.injEq, and_true,
      ← UInt8.toNat_inj, UInt8.toNat_ofNat', UInt16.toNat_ofNat']
    omega

theorem exact_readU32 : Exact readU32 putU32 4 := by
  intro bs h
  match bs, h with
  | b₀ :: b₁ :: b₂ :: b₃ :: bs, _ =>
    have := b₀.toNat_lt
    have := b₁.toNat_lt
    have := b₂.toNat_lt
    have := b₃.toNat_lt
    refine ⟨?_, rfl⟩
    simp only [readU32, readU8, putU32, List.cons_append, List.nil_append, List.cons.injEq, and_true,
      ← UInt8.toNat_inj, UInt8.toNat_ofNat', UInt32.toNat_ofNat']
    omega

theorem exact_readList {α : Type} {read : Reader α} {put : α → List UInt8} {k : Nat}
    (h : Exact read put k) (n : Nat) :
    Exact (readList read n) (fun xs => xs.flatMap put) (k * n) := by
  induction n with
  | zero => intro bs _; exact ⟨rfl, rfl⟩
  | succ n ih =>
    intro bs hbs
    rw [Nat.mul_succ] at hbs ⊢
    obtain ⟨hput, hlen⟩ := h bs (by omega)
    obtain ⟨hput', hlen'⟩ := ih (read bs).2 (by omega)
    refine ⟨?_, by simp only [readList]; omega⟩
    simp only [readList, List.flatMap_cons, List.append_assoc]
    rw [hput', hput]

end Bytes
