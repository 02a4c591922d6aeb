/-
`main` of `tools/read_diag_dump.py`: from the bytes the port gives to what is
printed and returned.

* `readDiagDump_eq`: where the bytes are cut makes no difference, and only the
  lines they frame count.
* `readLines_cases`: it returns at the first line that ends a dump.
* `dump_read_iff`: of a dump whose lines may be lost on the way, it returns 0
  exactly when none was.
* `dump_read_sound`: whatever it reads, it returns 0 only for a whole dump.
-/
import TotemZmk.Lib.Utf8
import TotemZmk.Dump.Agreement
import TotemZmk.Dump.Deframer

namespace TotemZmk

open Text
open Transducer (run runEach)
open DumpVerifier (init progress)

/-- The line a payload carries: `payload.startswith(b"L")`, and `payload[1:]`
decoded. -/
def lineOf (payload : List UInt8) : Option (List Char) :=
  match payload with
  | first :: text => if first = 0x4c then .some (Utf8.decodeReplace text) else .none
  | [] => .none

/-- What `main` keeps from line to line: its verifier, what it printed, and what
it returned, with its last line on standard error. -/
structure DumpRead where
  verifier : DumpVerifier
  stdout : List (List Char)
  returned : Option (Nat × List Char)

namespace DumpRead

def new : DumpRead := ⟨.init, [], .none⟩

/-- `line.startswith(("totem_fault saved ", "totem_boot "))` -/
def startsSaved (line : List Char) : Bool :=
  "totem_fault saved ".toList.isPrefixOf line || "totem_boot ".toList.isPrefixOf line

/-- The text `error` is printed as. -/
def errorText : Option (List Char) → List Char
  | .none => "None".toList
  | .some error => error

/-- What `main` returns after the verifier read a line, and whether it
recognised it. -/
def report (dg : Digits) (verifier : DumpVerifier) (recognized : Bool) (line : List Char) :
    Option (Nat × List Char) :=
  if verifier.complete then
    .some (0, "Complete diagnostic dump: ".toList ++
      DumpVerifier.expectedText verifier.expected ++ " lines".toList)
  else if recognized && (matchEnd dg line).isSome then
    .some (1, "Incomplete diagnostic dump: ".toList ++ errorText verifier.error)
  else .none

/-- The loop's body from `verifier.feed` on, unless `main` has returned. -/
def readLine (dg : Digits) (s : DumpRead) (line : List Char) : DumpRead :=
  if s.returned.isSome then s
  else
    let (verifier, recognized) := s.verifier.feed dg line
    { verifier := verifier
      stdout := if recognized || startsSaved line then s.stdout ++ [line] else s.stdout
      returned := report dg verifier recognized line }

/-- The loop's body. -/
def readPayload (dg : Digits) (s : DumpRead) (payload : List UInt8) : DumpRead :=
  match lineOf payload with
  | .some line => s.readLine dg line
  | .none => s

/-- One `port.read`. The decoder yields its payloads one by one, and keeps
nothing of what `main` does with them. -/
def readChunk (dg : Digits) (s : Deframer × DumpRead) (chunk : List UInt8) : Deframer × DumpRead :=
  if s.2.returned.isSome then s
  else
    let (decoder, payloads) := s.1.feed chunk
    (decoder, payloads.foldl (readPayload dg) s.2)

/-- The exit status. -/
def code (s : DumpRead) : Option Nat := s.returned.map Prod.fst

end DumpRead

/-- `main`, where the port gave these chunks up to the deadline. -/
def readDiagDump (dg : Digits) (chunks : List (List UInt8)) : DumpRead :=
  let s := (chunks.foldl (DumpRead.readChunk dg) (.new, .new)).2
  { s with
    returned := s.returned <|> .some (1, "Incomplete diagnostic dump: ".toList ++
      s.verifier.error.getD "missing matching end marker".toList) }

/-- How a line of the dump is sent. -/
def linePayload (line : List Char) : List UInt8 := 0x4c :: Utf8.encodeAscii line

namespace DumpRead

variable {dg : Digits} {s : DumpRead} {line : List Char}

/-! ## The loop -/

theorem readLine_returned (h : s.returned.isSome) : s.readLine dg line = s := if_pos h

theorem readLines_returned (h : s.returned.isSome) (lines : List (List Char)) :
    lines.foldl (readLine dg) s = s := by
  induction lines with
  | nil => rfl
  | cons line lines ih => rw [List.foldl_cons, readLine_returned h, ih]

theorem readPayloads_eq (payloads : List (List UInt8)) :
    payloads.foldl (readPayload dg) s = (payloads.filterMap lineOf).foldl (readLine dg) s := by
  induction payloads generalizing s with
  | nil => rfl
  | cons payload payloads ih =>
    rw [List.foldl_cons, ih, List.filterMap_cons]
    unfold readPayload
    cases lineOf payload with
    | none => rfl
    | some line => rw [List.foldl_cons]

theorem readChunks_eq (chunks : List (List UInt8)) (d : Deframer) :
    (chunks.foldl (readChunk dg) (d, s)).2 =
      ((runEach Deframer.feedByte d chunks).2.filterMap lineOf).foldl (readLine dg) s := by
  induction chunks generalizing d s with
  | nil => rfl
  | cons chunk chunks ih =>
    rw [List.foldl_cons]
    unfold runEach
    dsimp only
    rw [List.filterMap_append, List.foldl_append]
    by_cases h : s.returned.isSome
    · have hstay : readChunk dg (d, s) chunk = (d, s) := if_pos h
      rw [hstay, ih, readLines_returned h, readLines_returned h, readLines_returned h]
    · have hnext : readChunk dg (d, s) chunk =
          ((d.feed chunk).1, (d.feed chunk).2.foldl (readPayload dg) s) := if_neg h
      rw [hnext, ih, readPayloads_eq]
      rfl

/-- A line read before `main` returns. -/
theorem readLine_eq (h : s.returned = .none) (line : List Char) : s.readLine dg line =
    { verifier := (s.verifier.feed dg line).1
      stdout := if (s.verifier.feed dg line).2 || startsSaved line then s.stdout ++ [line]
        else s.stdout
      returned := report dg (s.verifier.feed dg line).1 (s.verifier.feed dg line).2 line } := by
  unfold readLine
  exact if_neg (by simp [h])

theorem report_complete {v : DumpVerifier} (recognized : Bool) (h : v.complete = true) :
    report dg v recognized line = .some (0, "Complete diagnostic dump: ".toList ++
      DumpVerifier.expectedText v.expected ++ " lines".toList) := if_pos h

theorem report_none {v : DumpVerifier} (recognized : Bool) (h : v.complete = false)
    (he : matchEnd dg line = .none) : report dg v recognized line = .none := by
  unfold report
  rw [if_neg (by simp [h]), if_neg (by simp [he])]

theorem complete_of_report {v : DumpVerifier} {recognized : Bool} {text : List Char}
    (h : report dg v recognized line = .some (0, text)) : v.complete = true := by
  by_contra hc
  unfold report at h
  rw [if_neg hc] at h
  split at h
  · cases h
  · cases h

theorem complete_of_report_none {v : DumpVerifier} {recognized : Bool}
    (h : report dg v recognized line = .none) : v.complete = false := by
  by_contra hc
  rw [report_complete recognized (Bool.of_not_eq_false hc)] at h
  cases h

end DumpRead

/-! ## What ends a dump -/

section

variable {dg : Digits} {v : DumpVerifier} {line : List Char} {lines : List (List Char)}

/-- What the verifier recognises, one of its patterns matches. -/
theorem recognised_of_feed (h : (v.feed dg line).2 = true) : recognised dg line = true := by
  by_contra hr
  have hr : recognised dg line = false := Bool.eq_false_iff.mpr hr
  simp only [recognised, Bool.or_eq_false_iff, Option.isSome_eq_false_iff,
    Option.isNone_iff_eq_none] at hr
  obtain ⟨⟨hb, hd⟩, he⟩ := hr
  simp only [DumpVerifier.feed, hb, hd, he, Option.filter_none] at h
  cases hv : v.dumpId <;> simp [hv] at h

namespace DumpVerifier

/-- Before a begin line, the verifier passes everything over. -/
theorem feed_unbegun (hv : v.dumpId = .none) (hb : matchBegin dg line = .none) :
    v.feed dg line = (v, false) := by simp only [feed, hb, hv]

theorem complete_feed (dg : Digits) (hv : v.complete = false) (he : matchEnd dg line = .none) :
    (v.feed dg line).1.complete = false := by
  cases hb : matchBegin dg line with
  | some b => rw [feed_begin hb]
  | none =>
    cases hid : v.dumpId with
    | none => rw [feed_unbegun hid hb, hv]
    | some id =>
      cases hf : (matchData dg line).filter fun d => d.1 = id with
      | none => simp only [feed, hb, hid, hf, he, Option.filter_none, hv]
      | some d => simp only [feed, hb, hid, hf, hv]

theorem begun_of_complete (hv : v.complete = false) (h : (v.feed dg line).1.complete = true) :
    (v.feed dg line).1.dumpId ≠ .none := by
  intro hid
  cases hb : matchBegin dg line with
  | some b =>
    rw [feed_begin hb] at h
    cases h
  | none =>
    rw [dumpId_feed hb] at hid
    rw [feed_unbegun hid hb, hv] at h
    cases h

theorem dumpId_of_begins {n : Nat} (hv : v.dumpId = .none ∨ v.dumpId = .some n)
    (h : ∀ l ∈ lines, ∀ b, matchBegin dg l = .some b → b.id = n) :
    (v.feedAll dg lines).dumpId = .none ∨ (v.feedAll dg lines).dumpId = .some n := by
  induction lines generalizing v with
  | nil => exact hv
  | cons l lines ih =>
    rw [feedAll_cons]
    refine ih ?_ fun l hl => h l (List.mem_cons_of_mem _ hl)
    cases hb : matchBegin dg l with
    | some b =>
      rw [feed_begin hb]
      exact .inr (congrArg Option.some (h l List.mem_cons_self b hb))
    | none =>
      rw [dumpId_feed hb]
      exact hv

theorem recognised_at {id : Nat} (hv : v.dumpId = .some id)
    (h : (matchData dg line).map Prod.fst = .some id ∨ (matchEnd dg line).map Prod.fst = .some id) :
    (v.feed dg line).2 = true := by
  cases hb : matchBegin dg line with
  | some b => simp only [feed, hb]
  | none =>
    cases hf : (matchData dg line).filter fun d => d.1 = id with
    | some d => simp only [feed, hb, hv, hf]
    | none =>
      have hend : (matchEnd dg line).map Prod.fst = .some id := by
        refine h.resolve_left fun hd => ?_
        obtain ⟨d, hd, hid⟩ := Option.map_eq_some_iff.mp hd
        simp [hd, hid] at hf
      obtain ⟨e, he, hid⟩ := Option.map_eq_some_iff.mp hend
      simp only [feed, hb, hv, hf, he, hid, Option.filter_some, decide_true, if_true]

end DumpVerifier

end

namespace DumpRead

variable {dg : Digits} {s : DumpRead} {lines : List (List Char)}

/-- **`main` returns at the first line that ends a dump**, or not at all. -/
theorem readLines_cases (dg : Digits) (hr : s.returned = .none) (hc : s.verifier.complete = false)
    (lines : List (List Char)) : (lines.foldl (readLine dg) s).returned = .none ∨
      ∃ before line after, lines = before ++ line :: after ∧
        (s.verifier.feedAll dg before).complete = false ∧
        ∃ recognized, (lines.foldl (readLine dg) s).returned =
          report dg (s.verifier.feedAll dg (before ++ [line])) recognized line := by
  induction lines generalizing s with
  | nil => exact .inl hr
  | cons l lines ih =>
    rw [List.foldl_cons]
    by_cases hl : (s.readLine dg l).returned = .none
    · have hverifier : (s.readLine dg l).verifier = (s.verifier.feed dg l).1 := by
        rw [readLine_eq hr]
      have hcomplete : (s.readLine dg l).verifier.complete = false := by
        rw [hverifier]
        rw [readLine_eq hr] at hl
        exact complete_of_report_none hl
      rcases ih hl hcomplete with hnone | ⟨before, line, after, he, hbefore, hreport⟩
      · exact .inl hnone
      · rw [hverifier] at hbefore hreport
        exact .inr ⟨l :: before, line, after, by rw [he, List.cons_append], hbefore, hreport⟩
    · have hsome : (s.readLine dg l).returned.isSome := Option.isSome_iff_ne_none.mpr hl
      refine .inr ⟨[], l, lines, rfl, hc, (s.verifier.feed dg l).2, ?_⟩
      rw [readLines_returned hsome, readLine_eq hr]
      rfl

theorem readLine_on {line : List Char} (hr : s.returned = .none) (hc : s.verifier.complete = false)
    (he : matchEnd dg line = .none) : (s.readLine dg line).returned = .none ∧
      (s.readLine dg line).verifier = (s.verifier.feed dg line).1 ∧
      (s.readLine dg line).verifier.complete = false := by
  have hcomplete := DumpVerifier.complete_feed dg hc he
  rw [readLine_eq hr]
  exact ⟨report_none _ hcomplete he, rfl, hcomplete⟩

theorem readLines_on (hr : s.returned = .none) (hc : s.verifier.complete = false)
    (he : ∀ l ∈ lines, matchEnd dg l = .none) : (lines.foldl (readLine dg) s).returned = .none ∧
      (lines.foldl (readLine dg) s).verifier = s.verifier.feedAll dg lines ∧
      (lines.foldl (readLine dg) s).verifier.complete = false := by
  induction lines generalizing s with
  | nil => exact ⟨hr, rfl, hc⟩
  | cons l lines ih =>
    obtain ⟨hr', hverifier, hc'⟩ := readLine_on hr hc (he l List.mem_cons_self)
    rw [List.foldl_cons, DumpVerifier.feedAll_cons, ← hverifier]
    exact ih hr' hc' fun l hl => he l (List.mem_cons_of_mem _ hl)

/-! ## What it prints -/

theorem recognised_of_startsSaved {line : List Char} (h : startsSaved line = true) :
    recognised dg line = false := by
  refine recognised_of_head ?_
  unfold startsSaved at h
  rw [Bool.or_eq_true, List.isPrefixOf_iff_prefix, List.isPrefixOf_iff_prefix] at h
  rcases h with ⟨rest, rfl⟩ | ⟨rest, rfl⟩
  · simp
  · simp

/-- Of the lines of dumps, it prints those the verifier recognises. -/
theorem filter_stdout (dg : Digits) (hr : s.returned = .none) (line : List Char) :
    (s.readLine dg line).stdout.filter (recognised dg) = s.stdout.filter (recognised dg) ++
      if (s.verifier.feed dg line).2 then [line] else [] := by
  rw [readLine_eq hr]
  dsimp only
  cases hfeed : (s.verifier.feed dg line).2 with
  | true => simp [recognised_of_feed hfeed]
  | false =>
    cases hsaved : startsSaved line with
    | true => simp [recognised_of_startsSaved hsaved]
    | false => simp

/-- **At a dump it prints the dump's lines.** -/
theorem readLines_stdout {id : Nat} (hr : s.returned = .none) (hc : s.verifier.complete = false)
    (hid : s.verifier.dumpId = .some id) (he : ∀ l ∈ lines, matchEnd dg l = .none)
    (hdata : ∀ l ∈ lines, recognised dg l = true →
      matchBegin dg l = .none ∧ (matchData dg l).map Prod.fst = .some id) :
    (lines.foldl (readLine dg) s).verifier.dumpId = .some id ∧
      (lines.foldl (readLine dg) s).stdout.filter (recognised dg) =
        s.stdout.filter (recognised dg) ++ lines.filter (recognised dg) := by
  induction lines generalizing s with
  | nil => simp [hid]
  | cons l lines ih =>
    obtain ⟨hr', hverifier, hc'⟩ := readLine_on hr hc (he l List.mem_cons_self)
    have hbegin : matchBegin dg l = .none := by
      cases hrec : recognised dg l with
      | true => exact (hdata l List.mem_cons_self hrec).1
      | false => simp_all [recognised]
    have hid' : (s.readLine dg l).verifier.dumpId = .some id := by
      rw [hverifier, DumpVerifier.dumpId_feed hbegin, hid]
    have hrest := ih hr' hc' hid' (fun l hl => he l (List.mem_cons_of_mem _ hl))
      fun l hl => hdata l (List.mem_cons_of_mem _ hl)
    rw [List.foldl_cons, hrest.2, filter_stdout dg hr]
    refine ⟨hrest.1, ?_⟩
    cases hrec : recognised dg l with
    | true =>
      have hfeed := DumpVerifier.recognised_at hid (.inl (hdata l List.mem_cons_self hrec).2)
      simp [hfeed, hrec]
    | false =>
      have hfeed : (s.verifier.feed dg l).2 = false :=
        Bool.eq_false_iff.mpr fun h => by simp [recognised_of_feed h] at hrec
      simp [hfeed, hrec]

theorem readLines_unbegun (dg : Digits) (hr : s.returned = .none) (hc : s.verifier.complete = false)
    (hid : s.verifier.dumpId = .none) (hb : ∀ l ∈ lines, matchBegin dg l = .none) :
    (lines.foldl (readLine dg) s).returned = .none ∧
      (lines.foldl (readLine dg) s).verifier = s.verifier ∧
      (lines.foldl (readLine dg) s).stdout.filter (recognised dg) =
        s.stdout.filter (recognised dg) := by
  induction lines generalizing s with
  | nil => exact ⟨hr, rfl, rfl⟩
  | cons l lines ih =>
    have hfeed := DumpVerifier.feed_unbegun hid (hb l List.mem_cons_self)
    have hnext : (s.readLine dg l).returned = .none ∧ (s.readLine dg l).verifier = s.verifier := by
      rw [readLine_eq hr, hfeed]
      exact ⟨by simp [report, hc], rfl⟩
    obtain ⟨hr', hverifier⟩ := hnext
    have hrest := ih hr' (hverifier ▸ hc) (hverifier ▸ hid)
      fun l hl => hb l (List.mem_cons_of_mem _ hl)
    rw [hverifier, filter_stdout dg hr, hfeed] at hrest
    simpa using hrest

end DumpRead

/-! ## The dump's lines on the wire -/

section

open Utf8 (Ascii encodeAscii)

@[simp] theorem ascii_dec (n : Nat) : Ascii (dec n) := by
  intro c hc
  have hdigit := isDigit_of_mem_dec hc
  simp only [Char.isDigit, Bool.and_eq_true, decide_eq_true_eq] at hdigit
  have hle : c.val.toNat ≤ 57 := UInt32.le_iff_toNat_le.mp hdigit.2
  exact Nat.lt_of_le_of_lt hle (by decide)

@[simp] theorem ascii_decInt (i : Int) : Ascii (decInt i) := by
  unfold decInt
  split <;> simp

theorem ascii_toDigits (n : Nat) : Ascii (Nat.toDigits 16 n) := by
  induction n using Nat.strongRecOn with
  | ind n ih =>
    have hdigit : ∀ k < 16, k.digitChar.toNat < 128 := by decide
    rw [Nat.toDigits_eq_if (by decide)]
    split
    · rename_i hlt
      simp [hdigit n hlt]
    · have hlast := hdigit (n % 16) (Nat.mod_lt _ (by decide))
      simp [ih (n / 16) (by omega), hlast]

@[simp] theorem ascii_hex8 (x : UInt32) : Ascii (hex8 x) := by
  have hzeros (n : Nat) : Ascii (List.replicate n '0') := by
    intro c hc
    rw [(List.mem_replicate.mp hc).2]
    decide
  simp [hex8, ascii_toDigits, hzeros]

theorem ascii_detail {snap : Snapshot} {d : List Char} (h : d ∈ snap.details) : Ascii d := by
  have hevent (e : TotemHostEvent) {source : Char} (hs : source.toNat < 128) (slot : Nat)
      (seq : UInt32) : Ascii (eventDetail e source slot seq) := by
    unfold eventDetail
    simp [hs]
  unfold Snapshot.details at h
  rw [List.mem_append, List.mem_flatMap, List.mem_map] at h
  rcases h with ⟨off, -, hd⟩ | ⟨i, -, rfl⟩
  · unfold Snapshot.slotDetails at hd
    split at hd
    · cases hd
    · rw [List.mem_cons, List.mem_map] at hd
      rcases hd with rfl | ⟨i, -, rfl⟩
      · unfold blockDetail
        simp
      · exact hevent _ (by decide) _ _
  · exact hevent _ (by decide) _ _

theorem ascii_dataLines {id ordinal : UInt32} {ds : List (List Char)} (h : ∀ d ∈ ds, Ascii d) :
    ∀ line ∈ dataLines id ordinal ds, Ascii line := by
  induction ds generalizing ordinal with
  | nil => simp [dataLines]
  | cons d ds ih =>
    intro line hline
    rw [dataLines, List.mem_cons] at hline
    rcases hline with rfl | hline
    · unfold dataLine
      simp [h d List.mem_cons_self]
    · exact ih (fun d hd => h d (List.mem_cons_of_mem _ hd)) line hline

theorem mem_preamble {bd : BootDiagnostics} {fault : TotemFaultRecord} {line : List Char}
    (h : line ∈ preamble bd fault) :
    (∃ previous, line = totemBootDiagnosticsFormat bd 120 previous) ∨ line = faultLine fault := by
  unfold preamble at h
  rw [List.mem_append] at h
  rcases h with h | h
  · rw [List.mem_cons, List.mem_singleton] at h
    rcases h with rfl | rfl
    · exact .inl ⟨_, rfl⟩
    · exact .inl ⟨_, rfl⟩
  · split at h
    · exact .inr (List.mem_singleton.mp h)
    · cases h

/-- **A dump's lines are ASCII.** -/
theorem ascii_lines (bd : BootDiagnostics) (fault : TotemFaultRecord) (snap : Snapshot)
    (id : UInt32) : ∀ line ∈ preamble bd fault ++ snap.script id, Ascii line := by
  have hboot (previous : Bool) : Ascii (totemBootDiagnosticsFormat bd 120 previous) := by
    unfold totemBootDiagnosticsFormat
    refine Ascii.take ?_ _
    cases previous <;> simp
  have hfault : Ascii (faultLine fault) := by
    unfold faultLine
    refine Ascii.take ?_ _
    simp
  intro line hline
  rcases List.mem_append.mp hline with hline | hline
  · rcases mem_preamble hline with ⟨previous, rfl⟩ | rfl
    · exact hboot previous
    · exact hfault
  · rw [Snapshot.script, List.mem_cons, List.mem_append, List.mem_singleton] at hline
    rcases hline with rfl | hline | rfl
    · unfold Snapshot.beginLine
      simp
    · exact ascii_dataLines (fun d hd => ascii_detail hd) line hline
    · unfold Snapshot.endLine
      simp

theorem lineOf_linePayload {line : List Char} (h : Ascii line) :
    lineOf (linePayload line) = .some line := by
  unfold linePayload lineOf
  dsimp only
  rw [if_pos rfl, Utf8.decodeReplace_ascii h]

end

/-! ## A dump read -/

section

variable {dg : Digits} {id : UInt32} {snap : Snapshot}

theorem matchEnd_beginLine : matchEnd dg (snap.beginLine id) = .none := by
  refine field_bind_none ?_ _
  have h : 'e' ≠ 'b' := by decide
  unfold Snapshot.beginLine
  simp only [List.append_assoc]
  exact lit_of_ne (p := "totem_diag ".toList) h _ _

theorem matchEnd_dataLine (ordinal : UInt32) (d : List Char) :
    matchEnd dg (dataLine id ordinal d) = .none := by
  refine field_bind_none ?_ _
  have h : 'e' ≠ 'd' := by decide
  unfold dataLine
  simp only [List.append_assoc]
  exact lit_of_ne (p := "totem_diag ".toList) h _ _

theorem matchEnd_dataLines {ds : List (List Char)} {ordinal : UInt32} {line : List Char}
    (h : line ∈ dataLines id ordinal ds) : matchEnd dg line = .none := by
  induction ds generalizing ordinal with
  | nil => cases h
  | cons d ds ih =>
    rw [dataLines, List.mem_cons] at h
    rcases h with rfl | h
    · exact matchEnd_dataLine ordinal d
    · exact ih h

theorem matchData_fst {line : List Char} (h : line ∈ dataLines id 0 snap.details) :
    (matchData dg line).map Prod.fst = .some id.toNat := by
  have hmem := List.mem_map_of_mem (f := matchData dg) h
  rw [map_matchData_details, List.mem_map] at hmem
  obtain ⟨n, -, hn⟩ := hmem
  simp [← hn]

theorem matches_none {line : List Char} (h : ¬recognised dg line = true) :
    matchBegin dg line = .none ∧ matchEnd dg line = .none := by
  simp only [recognised, Bool.or_eq_true, not_or, Bool.not_eq_true, Option.isSome_eq_false_iff,
    Option.isNone_iff_eq_none] at h
  exact ⟨h.1.1, h.2⟩

/-- The lines of a dump among others: what comes before its begin line, between
its begin line and its end line, and after. -/
theorem split_script {lines : List (List Char)}
    (h : lines.filter (recognised dg) = snap.script id) :
    ∃ before data after, lines = before ++ snap.beginLine id :: (data ++
        Snapshot.endLine id snap.expected :: after) ∧
      (∀ l ∈ before, ¬recognised dg l = true) ∧
      data.filter (recognised dg) = dataLines id 0 snap.details := by
  rw [Snapshot.script, List.filter_eq_cons_iff] at h
  obtain ⟨before, rest, rfl, hbefore, -, hrest⟩ := h
  obtain ⟨data, rest, rfl, hdata, hrest⟩ := List.filter_eq_append_iff.mp hrest
  obtain ⟨more, after, rfl, hmore, -, -⟩ := List.filter_eq_cons_iff.mp hrest
  refine ⟨before, data ++ more, after, by simp, hbefore, ?_⟩
  rw [List.filter_append, hdata, List.filter_eq_nil_iff.mpr hmore, List.append_nil]

theorem filter_script {data : List (List Char)}
    (h : data.filter (recognised dg) = dataLines id 0 snap.details) :
    ([snap.beginLine id] ++ data ++ [Snapshot.endLine id snap.expected]).filter (recognised dg) =
      snap.script id := by
  have hbegin : recognised dg (snap.beginLine id) = true := recognised_script List.mem_cons_self
  have hend : recognised dg (Snapshot.endLine id snap.expected) = true := by
    have hmem : Snapshot.endLine id snap.expected ∈ snap.script id := by
      rw [Snapshot.script]
      simp
    exact recognised_script hmem
  rw [List.filter_append, List.filter_append, h, List.filter_cons_of_pos hbegin,
    List.filter_cons_of_pos hend]
  rfl

end

namespace DumpRead

variable {dg : Digits} {id : UInt32} {snap : Snapshot} {s : DumpRead} {lines : List (List Char)}

/-- The begin line is read and printed, and the verifier is at the dump. -/
theorem readLine_begin (dg : Digits) (snap : Snapshot) (id : UInt32) (hr : s.returned = .none)
    (hc : s.verifier.complete = false) :
    let s' := s.readLine dg (snap.beginLine id)
    s'.returned = .none ∧ s'.verifier.complete = false ∧ s'.verifier.dumpId = .some id.toNat ∧
      s'.verifier = (s.verifier.feed dg (snap.beginLine id)).1 ∧
      s'.stdout.filter (recognised dg) =
        s.stdout.filter (recognised dg) ++ [snap.beginLine id] := by
  have hfeed : (s.verifier.feed dg (snap.beginLine id)).2 = true := by
    simp only [DumpVerifier.feed, matchBegin_beginLine]
  have hnoEnd : matchEnd dg (snap.beginLine id) = .none := matchEnd_beginLine
  obtain ⟨hr', hverifier, hc'⟩ := readLine_on hr hc hnoEnd
  have hout := filter_stdout dg hr (snap.beginLine id)
  rw [hfeed, if_pos rfl] at hout
  refine ⟨hr', hc', ?_, hverifier, hout⟩
  rw [hverifier, DumpVerifier.feed_begin (matchBegin_beginLine snap)]

/-- An end line that makes the dump complete is the last one read. -/
theorem readLine_end (hr : s.returned = .none) (hid : s.verifier.dumpId = .some id.toNat)
    (hcomplete :
      (s.verifier.feed dg (Snapshot.endLine id snap.expected)).1.complete = true) :
    let s' := s.readLine dg (Snapshot.endLine id snap.expected)
    s'.returned = .some (0, "Complete diagnostic dump: ".toList ++
        dec snap.details.length ++ " lines".toList) ∧
      s'.stdout.filter (recognised dg) =
        s.stdout.filter (recognised dg) ++ [Snapshot.endLine id snap.expected] := by
  have hnone : matchBegin dg (Snapshot.endLine id snap.expected) = .none := matchBegin_endLine _
  have hdatum : (matchData dg (Snapshot.endLine id snap.expected)).filter
      (fun d => d.1 = id.toNat) = .none := by rw [matchData_endLine]; rfl
  have hexpected := ((DumpVerifier.feed_end hnone hdatum (matchEnd_endLine _) hid).mp hcomplete).2.1
  have hfeed : (s.verifier.feed dg (Snapshot.endLine id snap.expected)).2 = true :=
    DumpVerifier.recognised_at hid (.inr (by rw [matchEnd_endLine]; rfl))
  have hout := filter_stdout dg hr (Snapshot.endLine id snap.expected)
  rw [hfeed, if_pos rfl] at hout
  refine ⟨?_, hout⟩
  rw [readLine_eq hr, report_complete _ hcomplete,
    (DumpVerifier.feed_other hnone hdatum hid).2.1, hexpected, snap.expected_eq.1]
  rfl

/-- **A whole dump is accepted and printed.** -/
theorem readLines_script (hr : s.returned = .none) (hs : s.verifier = init)
    (h : lines.filter (recognised dg) = snap.script id) :
    (lines.foldl (readLine dg) s).returned = .some (0, "Complete diagnostic dump: ".toList ++
        dec snap.details.length ++ " lines".toList) ∧
      (lines.foldl (readLine dg) s).stdout.filter (recognised dg) =
        s.stdout.filter (recognised dg) ++ snap.script id := by
  have hcomplete : (init.feedAll dg (snap.script id)).complete = true :=
    ((complete_iff_script (Option.some_ne_none _).symm (List.Sublist.refl _)).mpr rfl).1
  obtain ⟨before, data, after, rfl, hbefore, hdata⟩ := split_script h
  rw [List.foldl_append, List.foldl_cons, List.foldl_append, List.foldl_cons]
  obtain ⟨hr₁, hv₁, hout₁⟩ := readLines_unbegun dg hr (by rw [hs]; rfl) (by rw [hs]; rfl)
    fun l hl => (matches_none (hbefore l hl)).1
  generalize before.foldl (readLine dg) s = s₁ at *
  rw [hs] at hv₁
  have hbegin := readLine_begin dg snap id hr₁ (by rw [hv₁]; rfl)
  obtain ⟨hr₂, hc₂, hid₂, hv₂, hout₂⟩ := hbegin
  generalize s₁.readLine dg (snap.beginLine id) = s₂ at *
  have hmem : ∀ l ∈ data, recognised dg l = true → l ∈ dataLines id 0 snap.details :=
    fun l hl hrec => hdata ▸ List.mem_filter.mpr ⟨hl, hrec⟩
  have hnoEnd : ∀ l ∈ data, matchEnd dg l = .none := by
    intro l hl
    by_cases hrec : recognised dg l = true
    · exact matchEnd_dataLines (hmem l hl hrec)
    · exact (matches_none hrec).2
  obtain ⟨hr₃, hv₃, -⟩ := readLines_on hr₂ hc₂ hnoEnd
  obtain ⟨hid₃, hout₃⟩ := readLines_stdout hr₂ hc₂ hid₂ hnoEnd
    fun l hl hrec => ⟨matchBegin_dataLines (hmem l hl hrec), matchData_fst (hmem l hl hrec)⟩
  generalize data.foldl (readLine dg) s₂ = s₃ at *
  have hall : (s₃.verifier.feed dg (Snapshot.endLine id snap.expected)).1 =
      init.feedAll dg (snap.script id) := by
    rw [hv₃, hv₂, hv₁, ← filter_script hdata, DumpVerifier.feedAll_filter,
      DumpVerifier.feedAll_append, DumpVerifier.feedAll_append]
    rfl
  obtain ⟨hreturned, hout₄⟩ := readLine_end hr₃ hid₃ (hall ▸ hcomplete)
  rw [readLines_returned (by rw [hreturned]; rfl)]
  refine ⟨hreturned, ?_⟩
  rw [hout₄, hout₃, hout₂, hout₁, hdata, Snapshot.script]
  simp

/-- **A dump that is reported complete is read whole.** -/
theorem script_of_returned {text : List Char} (hr : s.returned = .none) (hs : s.verifier = init)
    (hlines : (lines.filter (recognised dg)).Sublist (snap.script id))
    (h : (lines.foldl (readLine dg) s).returned = .some (0, text)) :
    lines.filter (recognised dg) = snap.script id := by
  have hc : s.verifier.complete = false := by rw [hs]; rfl
  rcases readLines_cases dg hr hc lines with
    hnone | ⟨before, line, after, he, hbefore, recognized, hreport⟩
  · rw [h] at hnone
    cases hnone
  · rw [h, hs] at hreport
    rw [hs] at hbefore
    have hcomplete := complete_of_report hreport.symm
    have hsub : ((before ++ [line]).filter (recognised dg)).Sublist (snap.script id) := by
      have hpart : (before ++ [line]).Sublist lines := by simp [he]
      exact (hpart.filter _).trans hlines
    have hbegins : ∀ l ∈ (before ++ [line]).filter (recognised dg), ∀ b,
        matchBegin dg l = .some b → b.id = id.toNat := by
      intro l hl b hb
      have hmem := hsub.subset hl
      rw [Snapshot.script, List.mem_cons, List.mem_append, List.mem_singleton] at hmem
      rcases hmem with rfl | hmem | rfl
      · rw [matchBegin_beginLine] at hb
        cases hb
        rfl
      · rw [matchBegin_dataLines hmem] at hb
        cases hb
      · rw [matchBegin_endLine] at hb
        cases hb
    rw [← DumpVerifier.feedAll_filter] at hcomplete
    have hid : (init.feedAll dg ((before ++ [line]).filter (recognised dg))).dumpId =
        .some id.toNat := by
      refine (DumpVerifier.dumpId_of_begins (.inl rfl) hbegins).resolve_left ?_
      rw [DumpVerifier.feedAll_filter, DumpVerifier.feedAll_append] at hcomplete ⊢
      exact DumpVerifier.begun_of_complete hbefore hcomplete
    have hwhole := (complete_iff_script (Option.some_ne_none _).symm hsub).mp ⟨hcomplete, hid⟩
    refine hlines.eq_of_length_le ?_
    rw [← hwhole, he]
    simp only [List.filter_append, List.length_append, List.filter_cons, List.filter_nil]
    split <;> simp

end DumpRead

/-! ## From the bytes -/

section

variable {dg : Digits}

/-- The bytes of a frame cut off before its start are passed over. -/
theorem run_cut {cut : List UInt8} (h : sof ∉ cut) :
    run Deframer.feedByte .new cut = (.new, []) := by
  induction cut with
  | nil => rfl
  | cons byte cut ih =>
    rw [List.mem_cons, not_or] at h
    have hbyte : Deframer.new.feedByte byte = (.new, []) := by
      simp [Deframer.feedByte, Deframer.new, Ne.symm h.1]
    rw [Transducer.run_cons, hbyte, ih h.2]
    rfl

theorem payloads_read {cut : List UInt8} {ps chunks : List (List UInt8)}
    (hchunks : chunks.flatten = cut ++ ps.flatMap frame) (hcut : sof ∉ cut)
    (hps : ∀ p ∈ ps, p.length ≤ 512) : (runEach Deframer.feedByte .new chunks).2 = ps := by
  rw [Transducer.runEach_eq, hchunks, Transducer.run_append, run_cut hcut]
  dsimp only
  rw [Deframer.run_view _ Deframer.idle_new, flatMap_frame_eq]
  exact congrArg Prod.snd (Framing.Decoder.run_frames hps)

theorem readDiagDump_eq (dg : Digits) (chunks : List (List UInt8)) :
    let s := ((runEach Deframer.feedByte .new chunks).2.filterMap lineOf).foldl
      (DumpRead.readLine dg) .new
    (readDiagDump dg chunks).stdout = s.stdout ∧ ∀ text,
      (readDiagDump dg chunks).returned = .some (0, text) ↔ s.returned = .some (0, text) := by
  unfold readDiagDump
  rw [DumpRead.readChunks_eq]
  refine ⟨rfl, fun text => ?_⟩
  dsimp only
  cases hr : (((runEach Deframer.feedByte .new chunks).2.filterMap lineOf).foldl
      (DumpRead.readLine dg) .new).returned with
  | none => simp
  | some r => rfl

theorem code_eq_zero {s : DumpRead} : s.code = .some 0 ↔ ∃ text, s.returned = .some (0, text) := by
  unfold DumpRead.code
  rw [Option.map_eq_some_iff]
  constructor
  · intro h
    obtain ⟨⟨code, text⟩, hr, rfl⟩ := h
    exact ⟨text, hr⟩
  · intro h
    obtain ⟨text, hr⟩ := h
    exact ⟨_, hr, rfl⟩

/-- A payload with a line of some dump. -/
def carriesDump (dg : Digits) (payload : List UInt8) : Bool :=
  (lineOf payload).any (recognised dg)

theorem carriesDump_eq (p : List UInt8) : carriesDump dg p = (lineOf p).any (recognised dg) := rfl

theorem filter_lines (ps : List (List UInt8)) : (ps.filterMap lineOf).filter (recognised dg) =
    (ps.filter (carriesDump dg)).filterMap lineOf := by
  induction ps with
  | nil => rfl
  | cons p ps ih =>
    rw [List.filterMap_cons, List.filter_cons]
    cases hp : lineOf p with
    | none => simpa [carriesDump_eq, hp] using ih
    | some line => cases hrec : recognised dg line <;> simpa [carriesDump_eq, hp, hrec] using ih

theorem filterMap_linePayload {lines : List (List Char)} (h : ∀ line ∈ lines, Utf8.Ascii line) :
    (lines.map linePayload).filterMap lineOf = lines := by
  induction lines with
  | nil => rfl
  | cons line lines ih =>
    rw [List.map_cons, List.filterMap_cons, lineOf_linePayload (h line List.mem_cons_self),
      ih fun line hline => h line (List.mem_cons_of_mem _ hline)]

end

section

variable {cfg : Config} {dg : Digits} {j : HostEventLog cfg} {id : UInt32} {answer : Nat → Int}
  {bd : BootDiagnostics} {fault : TotemFaultRecord} {cut : List UInt8}
  {before ps chunks : List (List UInt8)}

theorem ascii_sent : ∀ line ∈ (totemHostEventLogDump answer id bd fault j.snapshot).1.sent,
    Utf8.Ascii line := by
  obtain ⟨sent, hpart, hsent⟩ := (sends_dump answer id bd fault j.snapshot).sent
  rw [hsent, List.nil_append]
  intro line hline
  exact ascii_lines bd fault j.snapshot id line (hpart.subset hline)

theorem sublist_script (hps : (ps.filter (carriesDump dg)).Sublist
      ((totemHostEventLogDump answer id bd fault j.snapshot).1.sent.map linePayload)) :
    ((ps.filterMap lineOf).filter (recognised dg)).Sublist (j.snapshot.script id) := by
  have hsub := hps.filterMap lineOf
  rw [filterMap_linePayload ascii_sent, ← filter_lines] at hsub
  exact filter_recognised hsub

/-- The lines before the dump leave the reader as it was, and then it reads the
dump's own. -/
theorem readDiagDump_lines (hchunks : chunks.flatten = cut ++ (before ++ ps).flatMap frame)
    (hcut : sof ∉ cut) (hlong : ∀ p ∈ before ++ ps, p.length ≤ 512)
    (hbefore : ∀ p ∈ before, ∀ line, lineOf p = .some line → matchBegin dg line = .none) :
    ∃ s : DumpRead, s.returned = .none ∧ s.verifier = init ∧
      s.stdout.filter (recognised dg) = [] ∧
      (readDiagDump dg chunks).stdout =
        ((ps.filterMap lineOf).foldl (DumpRead.readLine dg) s).stdout ∧
      ∀ text, (readDiagDump dg chunks).returned = .some (0, text) ↔
        ((ps.filterMap lineOf).foldl (DumpRead.readLine dg) s).returned = .some (0, text) := by
  obtain ⟨hstdout, hreturned⟩ := readDiagDump_eq dg chunks
  rw [payloads_read hchunks hcut hlong, List.filterMap_append, List.foldl_append] at hstdout hreturned
  have hbegins : ∀ l ∈ before.filterMap lineOf, matchBegin dg l = .none := by
    intro l hl
    obtain ⟨p, hp, hline⟩ := List.mem_filterMap.mp hl
    exact hbefore p hp l hline
  obtain ⟨hr, hs, hout⟩ := DumpRead.readLines_unbegun dg (s := .new) rfl rfl rfl hbegins
  exact ⟨_, hr, hs, hout, hstdout, hreturned⟩

theorem arrived_iff (hps : (ps.filter (carriesDump dg)).Sublist
      ((totemHostEventLogDump answer id bd fault j.snapshot).1.sent.map linePayload))
    {line : List Char} (hline : line ∈ j.snapshot.script id) :
    linePayload line ∈ ps ↔ line ∈ (ps.filterMap lineOf).filter (recognised dg) := by
  have hread := lineOf_linePayload
    (ascii_lines bd fault j.snapshot id line (List.mem_append_right _ hline))
  have hrec : recognised dg line = true := recognised_script hline
  rw [List.mem_filter, List.mem_filterMap]
  constructor
  · exact fun hp => ⟨⟨_, hp, hread⟩, hrec⟩
  · intro h
    obtain ⟨⟨p, hp, hpl⟩, -⟩ := h
    have hcarries : p ∈ ps.filter (carriesDump dg) :=
      List.mem_filter.mpr ⟨hp, by simp [carriesDump, hpl, hrec]⟩
    obtain ⟨line', hline', rfl⟩ := List.mem_map.mp (hps.subset hcarries)
    rw [lineOf_linePayload (ascii_sent line' hline'), Option.some.injEq] at hpl
    rwa [← hpl]

theorem script_arrived_iff (hps : (ps.filter (carriesDump dg)).Sublist
      ((totemHostEventLogDump answer id bd fault j.snapshot).1.sent.map linePayload)) :
    (ps.filterMap lineOf).filter (recognised dg) = j.snapshot.script id ↔
      ∀ line ∈ j.snapshot.script id, linePayload line ∈ ps := by
  constructor
  · intro he line hline
    rw [arrived_iff hps hline, he]
    exact hline
  · intro hall
    have hsubset : j.snapshot.script id ⊆ (ps.filterMap lineOf).filter (recognised dg) :=
      fun line hline => (arrived_iff hps hline).mp (hall line hline)
    exact (sublist_script hps).eq_of_length_le ((nodup_script _).subperm hsubset).length_le

/-- **The reader succeeds on the dump and on nothing less.** -/
theorem code_iff_script (hchunks : chunks.flatten = cut ++ (before ++ ps).flatMap frame)
    (hcut : sof ∉ cut) (hlong : ∀ p ∈ before ++ ps, p.length ≤ 512)
    (hbefore : ∀ p ∈ before, ∀ line, lineOf p = .some line → matchBegin dg line = .none)
    (hps : (ps.filter (carriesDump dg)).Sublist
      ((totemHostEventLogDump answer id bd fault j.snapshot).1.sent.map linePayload)) :
    (readDiagDump dg chunks).code = .some 0 ↔
      (ps.filterMap lineOf).filter (recognised dg) = j.snapshot.script id := by
  obtain ⟨s, hr, hs, -, -, hreturned⟩ := readDiagDump_lines hchunks hcut hlong hbefore
  rw [code_eq_zero]
  constructor
  · intro h
    obtain ⟨text, htext⟩ := h
    exact DumpRead.script_of_returned hr hs (sublist_script hps) ((hreturned text).mp htext)
  · intro he
    exact ⟨_, (hreturned _).mpr (DumpRead.readLines_script hr hs he).1⟩

/-- **A reader that exits with 0 has printed the dump.** -/
theorem printed_of_code (hchunks : chunks.flatten = cut ++ (before ++ ps).flatMap frame)
    (hcut : sof ∉ cut) (hlong : ∀ p ∈ before ++ ps, p.length ≤ 512)
    (hbefore : ∀ p ∈ before, ∀ line, lineOf p = .some line → matchBegin dg line = .none)
    (hps : (ps.filter (carriesDump dg)).Sublist
      ((totemHostEventLogDump answer id bd fault j.snapshot).1.sent.map linePayload))
    (hcode : (readDiagDump dg chunks).code = .some 0) :
    (readDiagDump dg chunks).stdout.filter (recognised dg) = j.snapshot.script id ∧
      (readDiagDump dg chunks).returned = .some (0, "Complete diagnostic dump: ".toList ++
        dec j.snapshot.details.length ++ " lines".toList) := by
  have he := (code_iff_script hchunks hcut hlong hbefore hps).mp hcode
  obtain ⟨s, hr, hs, hout, hstdout, hreturned⟩ := readDiagDump_lines hchunks hcut hlong hbefore
  obtain ⟨htext, hprinted⟩ := DumpRead.readLines_script hr hs he
  rw [hout, List.nil_append] at hprinted
  rw [hstdout]
  exact ⟨hprinted, (hreturned _).mpr htext⟩

end

/-- **A dump is read whole or refused, from the bytes.** Let the port give, cut
into chunks anyhow: the tail of a frame; frames without a begin line, such as
those of a dump under way; then some of the lines that a dump sent, in order,
among frames of other kinds. The reader returns 0 exactly when every line of the
dump arrived. Then it printed the dump's lines, all of them and in order, and
says how many there were. -/
theorem dump_read_iff {cfg : Config} (dg : Digits) (j : HostEventLog cfg) (id : UInt32)
    (answer : Nat → Int) (bd : BootDiagnostics) (fault : TotemFaultRecord) (cut : List UInt8)
    (before ps chunks : List (List UInt8))
    (hchunks : chunks.flatten = cut ++ (before ++ ps).flatMap frame) (hcut : sof ∉ cut)
    (hlong : ∀ p ∈ before ++ ps, p.length ≤ 512)
    (hbefore : ∀ p ∈ before, ∀ line, lineOf p = .some line → matchBegin dg line = .none)
    (hps : (ps.filter (carriesDump dg)).Sublist
      ((totemHostEventLogDump answer id bd fault j.snapshot).1.sent.map linePayload)) :
    ((readDiagDump dg chunks).code = .some 0 ↔
      ∀ line ∈ j.snapshot.script id, linePayload line ∈ ps) ∧
    ((readDiagDump dg chunks).code = .some 0 →
      (readDiagDump dg chunks).stdout.filter (recognised dg) = j.snapshot.script id ∧
      (readDiagDump dg chunks).returned = .some (0, "Complete diagnostic dump: ".toList ++
        dec j.snapshot.details.length ++ " lines".toList)) := by
  rw [← script_arrived_iff hps]
  exact ⟨code_iff_script hchunks hcut hlong hbefore hps,
    printed_of_code hchunks hcut hlong hbefore hps⟩

theorem length_detail {snap : Snapshot} {d : List Char} (h : d ∈ snap.details) :
    d.length ≤ 72 := by
  unfold Snapshot.details at h
  rw [List.mem_append, List.mem_flatMap, List.mem_map] at h
  rcases h with ⟨off, -, hd⟩ | ⟨i, -, rfl⟩
  · have hslot : Rotation.slotAt snap.journalSlots snap.startSlot off < 10 :=
      Nat.lt_of_lt_of_le (Nat.mod_lt _ snap.journalSlots_pos) snap.journalSlots_le
    unfold Snapshot.slotDetails at hd
    split at hd
    · cases hd
    · rw [List.mem_cons, List.mem_map] at hd
      rcases hd with rfl | ⟨i, -, rfl⟩
      · exact length_blockDetail hslot _
      · exact length_eventDetail hslot _ _ _
  · exact length_eventDetail (by decide) _ _ _

theorem length_dataLine {id ordinal : UInt32} {ds : List (List Char)}
    (h : ∀ d ∈ ds, d.length ≤ 72) : ∀ line ∈ dataLines id ordinal ds, line.length < 120 := by
  induction ds generalizing ordinal with
  | nil => simp [dataLines]
  | cons d ds ih =>
    intro line hline
    rw [dataLines, List.mem_cons] at hline
    rcases hline with rfl | hline
    · have hd := h d List.mem_cons_self
      have hid := length_dec_u32 id
      have hordinal := length_dec_u32 ordinal
      unfold dataLine
      simp
      omega
    · exact ih (fun d hd => h d (List.mem_cons_of_mem _ hd)) line hline

/-- **A dump's lines fit their buffer**, and so a frame. -/
theorem length_lines (bd : BootDiagnostics) (fault : TotemFaultRecord) (snap : Snapshot)
    (id : UInt32) : ∀ line ∈ preamble bd fault ++ snap.script id, line.length < 120 := by
  have hboot (previous : Bool) : (totemBootDiagnosticsFormat bd 120 previous).length < 120 := by
    unfold totemBootDiagnosticsFormat
    rw [List.length_take]
    omega
  have hfault : (faultLine fault).length < 120 := by
    unfold faultLine
    rw [List.length_take]
    omega
  intro line hline
  rcases List.mem_append.mp hline with hline | hline
  · rcases mem_preamble hline with ⟨previous, rfl⟩ | rfl
    · exact hboot previous
    · exact hfault
  · rw [Snapshot.script, List.mem_cons, List.mem_append, List.mem_singleton] at hline
    rcases hline with rfl | hline | rfl
    · exact snap.length_beginLine id
    · exact length_dataLine (fun d hd => length_detail hd) line hline
    · exact Snapshot.length_endLine id _

/-- A journal with a saved block: the tail of a frame, the end of a dump under
way, and the dump after a battery frame, in two chunks. -/
theorem dump_read_iff_saved :
    let j := ((loadedSys smallConfig).persistNow 0).j
    let sent := (totemHostEventLogDump (fun _ => 0) 7 bareBoot ⟨0, 0, 0, 0, 0, 0⟩ j.snapshot).1.sent
    (readDiagDump asciiDigits [[1, eof] ++ frame (linePayload (Snapshot.endLine 3 0)),
      ([0x4b, 0x31] :: sent.map linePayload).flatMap frame]).code = .some 0 := by
  intro j sent
  have hsends := sends_dump (fun _ => 0) 7 bareBoot ⟨0, 0, 0, 0, 0, 0⟩ j.snapshot
  have hsent : sent = preamble bareBoot ⟨0, 0, 0, 0, 0, 0⟩ ++ j.snapshot.script 7 :=
    (hsends.all (hsends.ok fun _ => rfl)).1.trans (List.nil_append _)
  have hshort (line : List Char) (h : line.length < 120) : (linePayload line).length ≤ 512 := by
    simp [linePayload, Utf8.encodeAscii]
    omega
  have hiff := (dump_read_iff asciiDigits j 7 (fun _ => 0) bareBoot ⟨0, 0, 0, 0, 0, 0⟩ [1, eof]
    [linePayload (Snapshot.endLine 3 0)] ([0x4b, 0x31] :: sent.map linePayload)
    [[1, eof] ++ frame (linePayload (Snapshot.endLine 3 0)),
      ([0x4b, 0x31] :: sent.map linePayload).flatMap frame] (by simp) (by decide) ?_ ?_ ?_).1
  · refine hiff.mpr fun line hline => List.mem_cons_of_mem _ (List.mem_map_of_mem ?_)
    rw [hsent]
    exact List.mem_append_right _ hline
  · intro p hp
    simp only [List.cons_append, List.nil_append, List.mem_cons, List.mem_map] at hp
    rcases hp with rfl | rfl | ⟨line, hline, rfl⟩
    · exact hshort _ (Snapshot.length_endLine 3 0)
    · decide
    · exact hshort line (length_lines _ _ _ _ line (hsent ▸ hline))
  · intro p hp line hline
    rw [List.mem_singleton.mp hp, lineOf_linePayload (by unfold Snapshot.endLine; simp),
      Option.some.injEq] at hline
    rw [← hline]
    exact matchBegin_endLine 0
  · rw [List.filter_cons_of_neg (by decide)]
    exact List.filter_sublist

/-- **Success means a whole dump.** Whatever bytes the port gave, cut into
chunks anyhow: if the reader returns 0, the lines it read end with the end line
of a dump whose data lines came with all ordinals, in order, since its begin
line, as many as that announced. -/
theorem dump_read_sound (dg : Digits) (chunks : List (List UInt8))
    (h : (readDiagDump dg chunks).code = .some 0) :
    ∃ before line after b, (runEach Deframer.feedByte .new chunks).2.filterMap lineOf =
        before ++ line :: after ∧
      progress dg (before ++ [line]) = .some (b, List.range b.lines) ∧
      b.lines = b.blocks + b.persisted + b.ram ∧ matchEnd dg line = .some (b.id, b.lines) := by
  obtain ⟨text, htext⟩ := code_eq_zero.mp h
  have hread := ((readDiagDump_eq dg chunks).2 text).mp htext
  rcases DumpRead.readLines_cases dg (s := .new) rfl rfl
    ((runEach Deframer.feedByte .new chunks).2.filterMap lineOf) with
    hnone | ⟨before, line, after, he, hbefore, recognized, hreport⟩
  · rw [hread] at hnone
    cases hnone
  · rw [hread] at hreport
    obtain ⟨b, hprogress, hsum, hend⟩ :=
      DumpVerifier.accepted_whole hbefore (DumpRead.complete_of_report hreport.symm)
    exact ⟨before, line, after, b, he, hprogress, hsum, hend⟩

theorem dump_read_sound_empty :
    let snap := (HostEventLog.init smallConfig).snapshot
    let chunk := ((snap.script 7).map linePayload).flatMap frame
    ∃ before line after b, (runEach Deframer.feedByte .new [chunk]).2.filterMap lineOf =
        before ++ line :: after ∧
      progress asciiDigits (before ++ [line]) = .some (b, List.range b.lines) ∧
      b.lines = b.blocks + b.persisted + b.ram ∧
      matchEnd asciiDigits line = .some (b.id, b.lines) := by
  intro snap chunk
  have hlong : ∀ p ∈ (snap.script 7).map linePayload, p.length ≤ 512 := by
    intro p hp
    obtain ⟨line, hline, rfl⟩ := List.mem_map.mp hp
    have hlen := length_lines bareBoot ⟨0, 0, 0, 0, 0, 0⟩ snap 7 line
      (List.mem_append_right _ hline)
    simp [linePayload, Utf8.encodeAscii]
    omega
  have hascii : ∀ line ∈ snap.script 7, Utf8.Ascii line := fun line hline =>
    ascii_lines bareBoot ⟨0, 0, 0, 0, 0, 0⟩ snap 7 line (List.mem_append_right _ hline)
  have hlines : (snap.script 7).filter (recognised asciiDigits) = snap.script 7 :=
    List.filter_eq_self.mpr fun l hl => recognised_script hl
  have hchunk : [chunk].flatten = [] ++ ((snap.script 7).map linePayload).flatMap frame := by
    simp [chunk]
  have hread : ((runEach Deframer.feedByte .new [chunk]).2.filterMap lineOf).filter
      (recognised asciiDigits) = snap.script 7 := by
    rw [payloads_read hchunk List.not_mem_nil hlong, filterMap_linePayload hascii, hlines]
  exact dump_read_sound asciiDigits [chunk] (code_eq_zero.mpr
    ⟨_, ((readDiagDump_eq asciiDigits [chunk]).2 _).mpr
      (DumpRead.readLines_script rfl rfl hread).1⟩)

end TotemZmk
