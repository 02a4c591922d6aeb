/-
`DumpVerifier` of `tools/read_diag_dump.py`: which lines it recognises, and
the state it keeps from line to line.

* `feed_junk`: a line that matches none of the patterns changes nothing.
* `feedAll_data`: a run of data lines is free of errors exactly when its
  ordinals follow one another.
* `accepted_whole`: the verifier turns complete only at the end line of a dump
  all of whose data lines came, in order, since its begin line.
-/
import TotemZmk.Lib.Text

namespace TotemZmk

open Text

/-- What `BEGIN` captures. -/
structure BeginLine where
  id : Nat
  lines : Nat
  blocks : Nat
  persisted : Nat
  ram : Nat
  seq : Nat
deriving DecidableEq, Repr

/-- `BEGIN.match` -/
def matchBegin (dg : Digits) (line : List Char) : Option BeginLine := do
  let (id, s) ← (lit "totem_diag begin id=".toList line).bind (number dg)
  let (lines, s) ← (lit " lines=".toList s).bind (number dg)
  let (blocks, s) ← (lit " blocks=".toList s).bind (number dg)
  let (persisted, s) ← (lit " persisted=".toList s).bind (number dg)
  let (ram, s) ← (lit " ram=".toList s).bind (number dg)
  let (seq, s) ← (lit " seq=".toList s).bind (number dg)
  if atEnd s then .some ⟨id, lines, blocks, persisted, ram, seq⟩ else .none

/-- `DATA.match`: the id and the ordinal. -/
def matchData (dg : Digits) (line : List Char) : Option (Nat × Nat) := do
  let (d, s) ← (lit "totem_diag d=".toList line).bind (number dg)
  let (n, s) ← (lit " n=".toList s).bind (number dg)
  let s ← lit [' '] s
  if someLine s then .some (d, n) else .none

/-- `END.match`: the id and the number of lines. -/
def matchEnd (dg : Digits) (line : List Char) : Option (Nat × Nat) := do
  let (id, s) ← (lit "totem_diag end id=".toList line).bind (number dg)
  let (lines, s) ← (lit " lines=".toList s).bind (number dg)
  let s ← lit " status=ok".toList s
  if atEnd s then .some (id, lines) else .none

/-- The fields of `DumpVerifier`. -/
structure DumpVerifier where
  dumpId : Option Nat
  expected : Option Nat
  nextLine : Nat
  error : Option (List Char)
  complete : Bool
deriving DecidableEq, Repr

namespace DumpVerifier

/-- `__init__` -/
def init : DumpVerifier := ⟨.none, .none, 0, .none, false⟩

/-- The text `expected` is printed as. -/
def expectedText : Option Nat → List Char
  | .none => "None".toList
  | .some n => dec n

/-- `feed`, with whether the line was recognised. -/
def feed (dg : Digits) (v : DumpVerifier) (line : List Char) : DumpVerifier × Bool :=
  match matchBegin dg line with
  | .some b =>
    ({ dumpId := .some b.id
       expected := .some b.lines
       nextLine := 0
       error :=
        if b.lines ≠ b.blocks + b.persisted + b.ram then .some "begin counts disagree".toList
        else .none
       complete := false }, true)
  | .none =>
    match v.dumpId with
    | .none => (v, false)
    | .some dumpId =>
      let data := (matchData dg line).filter fun d => d.1 = dumpId
      match data with
      | .some (_, ordinal) =>
        ({ v with
            error :=
              if ordinal ≠ v.nextLine ∧ v.error = .none then
                .some ("expected line ".toList ++ dec v.nextLine ++ ", got ".toList ++ dec ordinal)
              else v.error
            nextLine := ordinal + 1 }, true)
      | .none =>
        let end_ := (matchEnd dg line).filter fun e => e.1 = dumpId
        match end_ with
        | .some (_, lines) =>
          let error :=
            if .some lines ≠ v.expected ∨ .some v.nextLine ≠ v.expected then
              v.error <|> .some ("expected ".toList ++ expectedText v.expected ++ " lines, got ".toList ++
                dec v.nextLine)
            else v.error
          ({ v with error := error, complete := error = .none }, true)
        | .none => (v, false)

/-- Lines fed one after the other. -/
def feedAll (dg : Digits) (v : DumpVerifier) (lines : List (List Char)) : DumpVerifier :=
  lines.foldl (fun v line => (v.feed dg line).1) v

end DumpVerifier

/-- A line one of the patterns matches. -/
def recognised (dg : Digits) (line : List Char) : Bool :=
  (matchBegin dg line).isSome || (matchData dg line).isSome || (matchEnd dg line).isSome

namespace DumpVerifier

variable {dg : Digits} {v : DumpVerifier} {line : List Char}

@[simp] theorem feedAll_nil : v.feedAll dg [] = v := rfl

@[simp] theorem feedAll_cons (lines : List (List Char)) :
    v.feedAll dg (line :: lines) = (v.feed dg line).1.feedAll dg lines := rfl

theorem feedAll_append (l l' : List (List Char)) :
    v.feedAll dg (l ++ l') = (v.feedAll dg l).feedAll dg l' := List.foldl_append

/-! ## One line -/

theorem feed_begin {b : BeginLine} (h : matchBegin dg line = .some b) :
    (v.feed dg line).1 = ⟨.some b.id, .some b.lines, 0,
      if b.lines ≠ b.blocks + b.persisted + b.ram then .some "begin counts disagree".toList
      else .none, false⟩ := by
  simp only [feed, h]

/-- A line that matches none of the patterns changes nothing. -/
theorem feed_junk (h : recognised dg line = false) : (v.feed dg line).1 = v := by
  simp only [recognised, Bool.or_eq_false_iff, Option.isSome_eq_false_iff, Option.isNone_iff_eq_none] at h
  obtain ⟨⟨hb, hd⟩, he⟩ := h
  simp only [feed, hb, hd, he, Option.filter_none]
  cases v.dumpId <;> rfl

theorem feedAll_filter (lines : List (List Char)) :
    v.feedAll dg (lines.filter (recognised dg)) = v.feedAll dg lines := by
  induction lines generalizing v with
  | nil => rfl
  | cons l lines ih =>
    cases hr : recognised dg l with
    | true => rw [List.filter_cons_of_pos hr, feedAll_cons, feedAll_cons, ih]
    | false =>
      rw [List.filter_cons_of_neg (by simp [hr]), feedAll_cons, feed_junk hr, ih]

theorem feed_data {id n : Nat} (hb : matchBegin dg line = .none) (hd : matchData dg line = .some (id, n))
    (hv : v.dumpId = .some id) :
    (v.feed dg line).1 = { v with
      error :=
        if n ≠ v.nextLine ∧ v.error = .none then
          .some ("expected line ".toList ++ dec v.nextLine ++ ", got ".toList ++ dec n)
        else v.error
      nextLine := n + 1 } := by
  simp only [feed, hb, hv, hd, Option.filter_some, decide_true, if_true]

theorem feed_end {id n : Nat} (hb : matchBegin dg line = .none)
    (hd : (matchData dg line).filter (fun d => d.1 = id) = .none)
    (he : matchEnd dg line = .some (id, n)) (hv : v.dumpId = .some id) :
    (v.feed dg line).1.complete = true ↔
      v.error = .none ∧ v.expected = .some n ∧ v.expected = .some v.nextLine := by
  simp only [feed, hb, hv, hd, he, Option.filter_some, decide_true, if_true, decide_eq_true_eq]
  by_cases hn : .some n = v.expected
  · by_cases hl : .some v.nextLine = v.expected
    · rw [if_neg (by simp [hn, hl])]
      exact ⟨fun h => ⟨h, hn.symm, hl.symm⟩, And.left⟩
    · rw [if_pos (.inr hl)]
      cases herr : v.error <;> simp [Ne.symm hl]
  · rw [if_pos (.inl hn)]
    cases herr : v.error <;> simp [Ne.symm hn]

/-- A line that is neither a begin line nor a data line of the dump keeps the
count, and clears no error. -/
theorem feed_other {id : Nat} (hb : matchBegin dg line = .none)
    (hd : (matchData dg line).filter (fun d => d.1 = id) = .none) (hv : v.dumpId = .some id) :
    (v.feed dg line).1.dumpId = .some id ∧ (v.feed dg line).1.expected = v.expected ∧
      (v.feed dg line).1.nextLine = v.nextLine ∧
      ((v.feed dg line).1.error = .none → v.error = .none) := by
  simp only [feed, hb, hv, hd]
  split
  · refine ⟨rfl, rfl, rfl, fun h => ?_⟩
    simp only at h
    split at h
    · cases he : v.error <;> simp [he] at h ⊢
    · exact h
  · exact ⟨hv, rfl, rfl, fun h => h⟩

theorem dumpId_feed (hb : matchBegin dg line = .none) : (v.feed dg line).1.dumpId = v.dumpId := by
  simp only [feed, hb]
  cases hv : v.dumpId with
  | none => exact hv
  | some id =>
    dsimp only
    split
    · rfl
    · split
      · rfl
      · exact hv

/-! ## Data lines -/

/-- **A run of data lines is free of errors exactly when its ordinals follow
one another.** -/
theorem feedAll_data {id : Nat} {lines : List (List Char)} {ns : List Nat}
    (hb : ∀ l ∈ lines, matchBegin dg l = .none)
    (hd : lines.map (matchData dg) = ns.map fun n => .some (id, n)) (hv : v.dumpId = .some id) :
    (v.feedAll dg lines).dumpId = .some id ∧ (v.feedAll dg lines).expected = v.expected ∧
      (v.feedAll dg lines).complete = v.complete ∧
      ((v.feedAll dg lines).error = .none ↔ v.error = .none ∧ ns = List.range' v.nextLine ns.length) ∧
      ((v.feedAll dg lines).error = .none → (v.feedAll dg lines).nextLine = v.nextLine + ns.length) := by
  induction ns generalizing lines v with
  | nil =>
    rw [List.map_nil, List.map_eq_nil_iff] at hd
    subst hd
    simp [hv]
  | cons n ns ih =>
    cases lines with
    | nil => simp at hd
    | cons l lines =>
      simp only [List.map_cons, List.cons.injEq] at hd
      have hfeed := feed_data (v := v) (hb l List.mem_cons_self) hd.1 hv
      rw [feedAll_cons, hfeed]
      obtain ⟨hid, hexp, hcomp, herr, hnext⟩ := ih (v := { v with
        error :=
          if n ≠ v.nextLine ∧ v.error = .none then
            .some ("expected line ".toList ++ dec v.nextLine ++ ", got ".toList ++ dec n)
          else v.error
        nextLine := n + 1 }) (fun l hl => hb l (List.mem_cons_of_mem _ hl)) hd.2 hv
      refine ⟨hid, hexp, hcomp, ?_, fun h => ?_⟩
      · rw [herr]
        by_cases hn : n = v.nextLine
        · subst hn
          simp [List.range'_succ]
        · cases he : v.error <;> simp [hn, List.range'_succ]
      · have hnone := (herr.mp h).1
        rw [hnext h]
        by_cases hn : n = v.nextLine
        · subst hn
          simp only [List.length_cons]
          omega
        · cases he : v.error <;> simp [hn, he] at hnone

/-! ## Any lines -/

/-- The last begin line, and the ordinals of the data lines that carried its
id since. -/
def track (dg : Digits) (p : Option (BeginLine × List Nat)) (line : List Char) :
    Option (BeginLine × List Nat) :=
  match matchBegin dg line with
  | .some b => .some (b, [])
  | .none => p.map fun (b, ns) =>
    match matchData dg line with
    | .some (d, n) => (b, if d = b.id then ns ++ [n] else ns)
    | .none => (b, ns)

/-- What `track` has after some lines. -/
def progress (dg : Digits) (lines : List (List Char)) : Option (BeginLine × List Nat) :=
  lines.foldl (track dg) .none

/-- The verifier's fields agree with what came. -/
structure Agrees (v : DumpVerifier) (p : Option (BeginLine × List Nat)) : Prop where
  none : p = .none → v.dumpId = .none ∧ v.complete = false
  some : ∀ b ns, p = .some (b, ns) → v.dumpId = .some b.id ∧ v.expected = .some b.lines ∧
    (v.error = .none → b.lines = b.blocks + b.persisted + b.ram ∧ ns = List.range v.nextLine)

theorem track_other {b : BeginLine} {ns : List Nat} (hb : matchBegin dg line = .none)
    (hd : (matchData dg line).filter (fun d => d.1 = b.id) = .none) :
    track dg (.some (b, ns)) line = .some (b, ns) := by
  simp only [track, hb, Option.map_some]
  cases hm : matchData dg line with
  | none => rfl
  | some d =>
    simp only [hm, Option.filter_eq_none_iff, Option.some.injEq, decide_eq_true_eq,
      forall_eq'] at hd
    simp [hd]

theorem Agrees.feed {p : Option (BeginLine × List Nat)} (h : Agrees v p) (line : List Char) :
    Agrees (v.feed dg line).1 (track dg p line) := by
  cases hb : matchBegin dg line with
  | some b =>
    have htrack : track dg p line = .some (b, []) := by simp only [track, hb]
    rw [feed_begin hb, htrack]
    refine ⟨by simp, fun b' ns hp => ?_⟩
    cases hp
    refine ⟨rfl, rfl, fun herr => ⟨?_, rfl⟩⟩
    by_cases hsum : b.lines = b.blocks + b.persisted + b.ram
    · exact hsum
    · simp [hsum] at herr
  | none =>
    cases p with
    | none =>
      have htrack : track dg .none line = .none := by simp only [track, hb, Option.map_none]
      have hfeed : (v.feed dg line).1 = v := by simp only [DumpVerifier.feed, hb, (h.none rfl).1]
      rw [hfeed, htrack]
      exact h
    | some q =>
      obtain ⟨b, ns⟩ := q
      obtain ⟨hid, hexp, herr⟩ := h.some b ns rfl
      cases hf : (matchData dg line).filter fun d => d.1 = b.id with
      | none =>
        obtain ⟨hid', hexp', hnext, herr'⟩ := feed_other hb hf hid
        rw [track_other hb hf]
        refine ⟨by simp, fun b' ns' hp => ?_⟩
        cases hp
        exact ⟨hid', hexp'.trans hexp, fun he => hnext ▸ herr (herr' he)⟩
      | some d =>
        obtain ⟨hd, hdid⟩ := Option.filter_eq_some_iff.mp hf
        obtain ⟨d₁, n⟩ := d
        obtain rfl : d₁ = b.id := by simpa using hdid
        have htrack : track dg (.some (b, ns)) line = .some (b, ns ++ [n]) := by
          simp [track, hb, hd]
        rw [feed_data hb hd hid, htrack]
        refine ⟨by simp, fun b' ns' hp => ?_⟩
        cases hp
        refine ⟨hid, hexp, fun he => ?_⟩
        by_cases hn : n = v.nextLine
        · subst hn
          obtain ⟨hsum, hns⟩ := herr (by simpa using he)
          exact ⟨hsum, by rw [List.range_succ, ← hns]⟩
        · cases hv : v.error <;> simp [hn, hv] at he

theorem agrees_feedAll (lines : List (List Char)) :
    Agrees (init.feedAll dg lines) (progress dg lines) := by
  have hall : ∀ (v : DumpVerifier) (p : Option (BeginLine × List Nat)), Agrees v p →
      Agrees (v.feedAll dg lines) (lines.foldl (track dg) p) := by
    induction lines with
    | nil => exact fun v p h => h
    | cons l lines ih => exact fun v p h => ih _ _ (h.feed l)
  exact hall init .none ⟨fun _ => ⟨rfl, rfl⟩, by simp⟩

/-- **The verifier turns complete only for a whole dump**: at an end line, and
since the last begin line the data lines that carry its id came with every
ordinal below the number of lines, in order, which is the sum announced. -/
theorem accepted_whole {lines : List (List Char)}
    (hbefore : (init.feedAll dg lines).complete = false)
    (hafter : (init.feedAll dg (lines ++ [line])).complete = true) :
    ∃ b, progress dg (lines ++ [line]) = .some (b, List.range b.lines) ∧
      b.lines = b.blocks + b.persisted + b.ram ∧ matchEnd dg line = .some (b.id, b.lines) := by
  have hagree : Agrees _ (progress dg lines) := agrees_feedAll lines
  have hagree' : Agrees _ (progress dg (lines ++ [line])) := agrees_feedAll (lines ++ [line])
  rw [feedAll_append, feedAll_cons, feedAll_nil] at hafter hagree'
  generalize init.feedAll dg lines = v at *
  have hprog : progress dg (lines ++ [line]) = track dg (progress dg lines) line := by
    simp [progress]
  rw [hprog] at hagree' ⊢
  generalize progress dg lines = p at *
  cases hb : matchBegin dg line with
  | some b => rw [feed_begin hb] at hafter; cases hafter
  | none =>
    cases p with
    | none =>
      have hfeed : (v.feed dg line).1 = v := by simp only [feed, hb, (hagree.none rfl).1]
      rw [hfeed, hbefore] at hafter
      cases hafter
    | some q =>
      obtain ⟨b, ns⟩ := q
      obtain ⟨hid, hexp, herr⟩ := hagree.some b ns rfl
      cases hf : (matchData dg line).filter fun d => d.1 = b.id with
      | some d =>
        obtain ⟨hd, hdid⟩ := Option.filter_eq_some_iff.mp hf
        obtain ⟨d₁, n⟩ := d
        obtain rfl : d₁ = b.id := by simpa using hdid
        rw [feed_data hb hd hid] at hafter
        exact absurd (hafter.symm.trans hbefore) (by decide)
      | none =>
        cases he : (matchEnd dg line).filter fun e => e.1 = b.id with
        | none =>
          have hfeed : (v.feed dg line).1 = v := by simp only [feed, hb, hid, hf, he]
          rw [hfeed, hbefore] at hafter
          cases hafter
        | some e =>
          obtain ⟨he, heid⟩ := Option.filter_eq_some_iff.mp he
          obtain ⟨e₁, n⟩ := e
          obtain rfl : e₁ = b.id := by simpa using heid
          obtain ⟨hnone, hn, hnext⟩ := (feed_end hb hf he hid).mp hafter
          obtain ⟨hsum, hns⟩ := herr hnone
          rw [hexp, Option.some.injEq] at hn hnext
          refine ⟨b, ?_, hsum, by rw [he, hn]⟩
          rw [track_other hb hf, hns, hnext]

end DumpVerifier

end TotemZmk
