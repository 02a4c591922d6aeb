/-
Circular buffers over a fixed array: a ring that overwrites its oldest
element, and a queue that refuses a push when it is full.

* `Ring.toList_push`: a ring holds the last `cap` elements pushed.
* `Ring.read_back`: scanning back from the write index visits them newest
  first.
* `Fifo.toList_push`, `Fifo.toList_pop`: a queue hands out what was accepted,
  in order.
-/
import Mathlib.Data.List.DropRight

namespace Circular

variable {α : Type} {cap : Nat}

/-- The array cell an index that may have run past the end stands for. -/
def cell (h : 0 < cap) (slots : Vector α cap) (i : Nat) : α :=
  getElem slots (i % cap) (Nat.mod_lt _ h)

/-- The array with that cell replaced. -/
def put (h : 0 < cap) (slots : Vector α cap) (i : Nat) (x : α) : Vector α cap :=
  slots.set (i % cap) x (Nat.mod_lt _ h)

theorem cell_put (h : 0 < cap) (slots : Vector α cap) (i j : Nat) (x : α) :
    cell h (put h slots i x) j = if i % cap = j % cap then x else cell h slots j := by
  simp only [cell, put, Vector.getElem_set]

/-- An index at most one lap past the end wraps by one subtraction. -/
theorem mod_once {x : Nat} (h : x < 2 * cap) : x % cap = if x < cap then x else x - cap := by
  split
  · exact Nat.mod_eq_of_lt ‹_›
  · rw [Nat.mod_eq_sub_mod (by omega), Nat.mod_eq_of_lt (by omega)]

/-- `count` cells from `start` on. -/
def window (h : 0 < cap) (slots : Vector α cap) (start count : Nat) : List α :=
  (List.range count).map fun i => cell h slots (start + i)

@[simp] theorem length_window (h : 0 < cap) (slots : Vector α cap) (start count : Nat) :
    (window h slots start count).length = count := by simp [window]

@[simp] theorem getElem_window (h : 0 < cap) (slots : Vector α cap) (start count i : Nat)
    (hi : i < (window h slots start count).length) :
    (window h slots start count)[i] = cell h slots (start + i) := by simp [window]

theorem window_mod (h : 0 < cap) (slots : Vector α cap) (start count : Nat) :
    window h slots (start % cap) count = window h slots start count := by
  simp [window, cell]

theorem window_put_end (h : 0 < cap) (slots : Vector α cap) {start count : Nat} (x : α)
    (hc : count < cap) :
    window h (put h slots (start + count) x) start (count + 1) =
      window h slots start count ++ [x] := by
  refine List.ext_getElem (by simp) fun i h₁ h₂ => ?_
  simp only [length_window] at h₁
  rw [getElem_window, cell_put]
  by_cases hi : i = count
  · subst hi; simp
  · have hne : ¬ (start + count) % cap = (start + i) % cap := by
      intro he
      have hd : cap ∣ (start + count) - (start + i) :=
        Nat.dvd_of_mod_eq_zero (Nat.sub_mod_eq_zero_of_mod_eq he)
      have := Nat.eq_zero_of_dvd_of_lt hd (by omega)
      omega
    have hlt : i < count := by omega
    rw [if_neg hne, List.getElem_append_left (by simpa using hlt), getElem_window]

theorem window_succ (h : 0 < cap) (slots : Vector α cap) (start count : Nat) :
    window h slots (start + 1) count = (window h slots start (count + 1)).tail := by
  refine List.ext_getElem (by simp) fun i h₁ h₂ => ?_
  simp only [getElem_window, List.getElem_tail]
  congr 1
  omega

/-- Writing over the first element of a full window moves the window on. -/
theorem window_put_full (h : 0 < cap) (slots : Vector α cap) (start : Nat) (x : α) :
    window h (put h slots start x) (start + 1) cap = (window h slots start cap).tail ++ [x] := by
  obtain ⟨c, rfl⟩ : ∃ c, cap = c + 1 := ⟨cap - 1, by omega⟩
  have hput : put h slots start x = put h slots (start + 1 + c) x := by
    simp only [put]
    congr 1
    rw [show start + 1 + c = start + (c + 1) by omega, Nat.add_mod_right]
  rw [hput, window_put_end h slots x (Nat.lt_succ_self c), window_succ]

/-! ## The last elements of a list -/

theorem rtake_append_rtake (l xs : List α) (n : Nat) :
    ((l.rtake n) ++ xs).rtake n = (l ++ xs).rtake n := by
  simp only [List.rtake, List.length_append, List.length_drop, List.drop_append, List.drop_drop]
  rw [show l.length - n + (l.length - (l.length - n) + xs.length - n) = l.length + xs.length - n by
      omega]
  congr 2
  omega

theorem rtake_of_length_le {l : List α} {n : Nat} (h : l.length ≤ n) : l.rtake n = l := by
  rw [List.rtake, Nat.sub_eq_zero_of_le h, List.drop_zero]

theorem length_rtake (l : List α) (n : Nat) : (l.rtake n).length = min l.length n := by
  rw [List.rtake, List.length_drop]; omega

theorem map_rtake {β : Type} (f : α → β) (l : List α) (n : Nat) :
    (l.rtake n).map f = (l.map f).rtake n := by
  simp [List.rtake, List.map_drop]

/-! ## Rings -/

/-- A ring: `head` is the next cell to write, `count` how many cells hold an
element. -/
structure Ring (α : Type) (cap : Nat) where
  slots : Vector α cap
  head : Nat
  count : Nat
  head_lt : head < cap
  count_le : count ≤ cap

namespace Ring

variable (r : Ring α cap)

theorem pos (r : Ring α cap) : 0 < cap := Nat.lt_of_le_of_lt (Nat.zero_le _) r.head_lt

/-- The ring of an array no element of which is in use. -/
def empty (h : 0 < cap) (x : α) : Ring α cap := ⟨Vector.replicate cap x, 0, 0, h, Nat.zero_le _⟩

/-- The index of the oldest element. -/
def start : Nat := (r.head + cap - r.count) % cap

/-- The `i`-th oldest element. -/
def read (i : Nat) : α := cell r.pos r.slots (r.start + i)

/-- The elements, oldest first. -/
def toList : List α := (List.range r.count).map r.read

/-- Write at `head`, over the oldest element when the ring is full. -/
def push (x : α) : Ring α cap where
  slots := put r.pos r.slots r.head x
  head := (r.head + 1) % cap
  count := if r.count < cap then r.count + 1 else r.count
  head_lt := Nat.mod_lt _ r.pos
  count_le := by have := r.count_le; split <;> omega

/-- Forget every element; the array keeps its contents. -/
def clear : Ring α cap := ⟨r.slots, 0, 0, r.pos, Nat.zero_le _⟩

theorem toList_eq_window : r.toList = window r.pos r.slots r.start r.count := rfl

@[simp] theorem length_toList : r.toList.length = r.count := by simp [toList]

@[simp] theorem getElem_toList (i : Nat) (h : i < r.toList.length) : r.toList[i] = r.read i := by
  simp [toList]

@[simp] theorem toList_empty (h : 0 < cap) (x : α) : (empty h x : Ring α cap).toList = [] := rfl

@[simp] theorem count_empty (h : 0 < cap) (x : α) : (empty h x : Ring α cap).count = 0 := rfl

@[simp] theorem toList_clear : r.clear.toList = [] := rfl

theorem count_push (x : α) : (r.push x).count = min (r.count + 1) cap := by
  have := r.count_le
  simp only [push]
  split <;> omega

theorem start_push_room (x : α) (h : r.count < cap) : (r.push x).start = r.start := by
  have := r.head_lt
  simp only [start, push, if_pos h]
  rw [mod_once (x := r.head + 1) (by omega)]
  split
  · rw [mod_once (by omega), mod_once (by omega)]
    split <;> split <;> omega
  · rw [mod_once (by omega), mod_once (by omega)]
    split <;> split <;> omega

theorem toList_push_room (x : α) (h : r.count < cap) : (r.push x).toList = r.toList ++ [x] := by
  have := r.head_lt
  rw [toList_eq_window, start_push_room r x h, toList_eq_window,
    ← window_put_end r.pos r.slots x h]
  -- `head` is the cell after the window.
  have hput : put r.pos r.slots r.head x = put r.pos r.slots (r.start + r.count) x := by
    have := r.count_le
    simp only [put, start, Nat.mod_add_mod]
    congr 1
    rw [show r.head + cap - r.count + r.count = r.head + cap by omega, Nat.add_mod_right]
  simp only [push, if_pos h, hput]

theorem toList_push_full (x : α) (h : r.count = cap) : (r.push x).toList = r.toList.tail ++ [x] := by
  have hh := r.head_lt
  have hstart : r.start = r.head := by
    rw [start, h, Nat.add_sub_cancel, Nat.mod_eq_of_lt hh]
  have hstart' : (r.push x).start = (r.head + 1) % cap := by
    simp only [start, push, h, Nat.lt_irrefl, if_false, Nat.add_sub_cancel, Nat.mod_mod]
  have hcount : (r.push x).count = cap := by simp [push, h]
  rw [toList_eq_window, hstart', hcount, toList_eq_window, hstart, window_mod]
  rw [show (window r.pos r.slots r.head r.count) = window r.pos r.slots r.head cap by rw [h],
    ← window_put_full]
  rfl

/-- **A ring holds the last `cap` elements pushed.** -/
theorem toList_push (x : α) : (r.push x).toList = (r.toList ++ [x]).rtake cap := by
  have hle := r.count_le
  by_cases h : r.count < cap
  · rw [toList_push_room r x h, rtake_of_length_le (by simp; omega)]
  · have hc : r.count = cap := by omega
    have hpos := r.pos
    have hlen : r.toList.length = cap := by simpa using hc
    rw [toList_push_full r x hc, List.rtake, List.length_append, hlen, List.length_singleton,
      Nat.add_sub_cancel_left, List.drop_append_of_le_length (by omega), List.drop_one]

/-- Pushing onto a ring that holds the end of a history. -/
theorem toList_push_history {l : List α} (h : r.toList = l.rtake cap) (x : α) :
    (r.push x).toList = (l ++ [x]).rtake cap := by
  rw [toList_push, h, rtake_append_rtake]

theorem count_of_history {r : Ring α cap} {l : List α} (h : r.toList = l.rtake cap) :
    r.count = min l.length cap := by
  rw [← length_toList, h, length_rtake]

theorem getElem?_history {r : Ring α cap} {l : List α} (h : r.toList = l.rtake cap) {i : Nat}
    (hi : i < r.count) : l[l.length - r.count + i]? = .some (r.read i) := by
  have hc := count_of_history h
  have hl : i < (l.rtake cap).length := by rw [length_rtake]; omega
  have hget : (l.rtake cap)[i] = r.read i := by
    rw [← getElem_toList r i (by simpa using hi)]
    simp only [h]
  rw [← hget]
  simp only [List.rtake, List.getElem_drop]
  rw [List.getElem?_eq_getElem (by omega)]
  congr 2
  omega

/-- **Scanning back from the write index** visits the newest element first. -/
theorem read_back {i : Nat} (h : i < r.count) :
    cell r.pos r.slots (r.head + cap - 1 - i) = r.read (r.count - 1 - i) := by
  have := r.head_lt
  have := r.count_le
  simp only [read, start, cell, Nat.mod_add_mod]
  congr 2
  rw [show r.head + cap - r.count + (r.count - 1 - i) = r.head + cap - 1 - i by omega]

theorem drop_reverse {i : Nat} (h : i < r.count) : r.toList.reverse.drop i =
    cell r.pos r.slots (r.head + cap - 1 - i) :: r.toList.reverse.drop (i + 1) := by
  have hi : i < r.toList.reverse.length := by simpa using h
  rw [List.drop_eq_getElem_cons hi, r.read_back h, List.getElem_reverse, getElem_toList,
    length_toList]

end Ring

/-! ## Queues -/

/-- A queue: the oldest element is at `head`, `count` elements wait. -/
structure Fifo (α : Type) (cap : Nat) where
  slots : Vector α cap
  head : Nat
  count : Nat
  head_lt : head < cap
  count_le : count ≤ cap

namespace Fifo

variable (q : Fifo α cap)

theorem pos (q : Fifo α cap) : 0 < cap := Nat.lt_of_le_of_lt (Nat.zero_le _) q.head_lt

/-- The queue of an array no element of which is in use. -/
def empty (h : 0 < cap) (x : α) : Fifo α cap := ⟨Vector.replicate cap x, 0, 0, h, Nat.zero_le _⟩

/-- The waiting elements, oldest first. -/
def toList : List α := window q.pos q.slots q.head q.count

/-- Append behind the last element, if there is room. -/
def push (x : α) : Option (Fifo α cap) :=
  if h : q.count < cap then
    .some ⟨put q.pos q.slots (q.head + q.count) x, q.head, q.count + 1, q.head_lt, h⟩
  else .none

/-- Take the oldest element. -/
def pop : Option (α × Fifo α cap) :=
  if q.count = 0 then .none
  else .some (cell q.pos q.slots q.head,
    ⟨q.slots, (q.head + 1) % cap, q.count - 1, Nat.mod_lt _ q.pos, by have := q.count_le; omega⟩)

@[simp] theorem length_toList : q.toList.length = q.count := by simp [toList]

@[simp] theorem count_empty (h : 0 < cap) (x : α) : (empty h x : Fifo α cap).count = 0 := rfl

theorem toList_push {q' : Fifo α cap} {x : α} (h : q.push x = .some q') :
    q'.toList = q.toList ++ [x] := by
  simp only [push] at h
  split at h
  · rename_i hc
    cases h
    exact window_put_end q.pos q.slots x hc
  · cases h

theorem count_push {q' : Fifo α cap} {x : α} (h : q.push x = .some q') :
    q'.count = q.count + 1 := by
  simpa using congrArg List.length (q.toList_push h)

theorem pop_eq_none : q.pop = .none ↔ q.count = 0 := by
  simp only [pop]
  split <;> simp_all

theorem toList_pop {q' : Fifo α cap} {x : α} (h : q.pop = .some (x, q')) :
    q.toList = x :: q'.toList := by
  simp only [pop] at h
  split at h
  · cases h
  · rename_i hc
    obtain ⟨n, hn⟩ : ∃ n, q.count = n + 1 := ⟨q.count - 1, by omega⟩
    cases h
    simp only [toList, window_mod, window_succ, hn, Nat.add_sub_cancel]
    refine List.ext_getElem (by simp) fun i h₁ h₂ => ?_
    cases i with
    | zero => simp
    | succ i => simp

theorem count_pop {q' : Fifo α cap} {x : α} (h : q.pop = .some (x, q')) : q.count = q'.count + 1 := by
  simpa using congrArg List.length (q.toList_pop h)

end Fifo

end Circular
