/-
`totem_host_event_log_dump`: the lines a dump sends, and what becomes of it
when a line cannot be sent.

* `Dump.script`: the lines of a dump, in the order they are sent.
* `expected_eq`: the begin line announces as many data lines as there are.
* `sends_dump`: a dump sends its script up to the first line that fails.
-/
import TotemZmk.Lib.Text
import TotemZmk.Lib.Rotation
import TotemZmk.Journal.State
import Mathlib.Algebra.GroupWithZero.Nat

namespace TotemZmk

open Text

/-- The fields of `struct totem_fault_record` a dump prints. -/
structure TotemFaultRecord where
  kind : UInt8
  reason : UInt16
  pc : UInt32
  lr : UInt32
  thread : UInt32
  uptimeMs : UInt32
deriving DecidableEq, Repr

/-- `TOTEM_FAULT_NONE` -/
def totemFaultNone : UInt8 := 0

def eagain : Int := 11
def emsgsize : Int := 122

/-- `%08x` -/
def hex8 (x : UInt32) : List Char :=
  let digits := Nat.toDigits 16 x.toNat
  List.replicate (8 - digits.length) '0' ++ digits

/-- `totem_boot_diagnostics_format`, into a buffer of `len` bytes. -/
def totemBootDiagnosticsFormat (bd : BootDiagnostics) (len : Nat) (previous : Bool) : List Char :=
  let text :=
    if previous then
      "totem_boot previous uptime=".toList ++ dec bd.savedPreviousUptime.toNat ++
        " profile=".toList ++ decInt bd.savedPreviousProfile.toInt ++
        " endpoint=".toList ++ decInt bd.savedPreviousEndpoint.toInt
    else
      "totem_boot current count=".toList ++ dec bd.count.toNat ++
        " raw=".toList ++ hex8 bd.rawReset ++
        " available=".toList ++ dec bd.rawAvailable.toNat ++
        " read=".toList ++ decInt bd.resetReadResult ++
        " ram=".toList ++ dec bd.ramSurvived.toNat ++
        " fault=".toList ++ dec bd.faultStatus.toNat ++
        " counter=".toList ++ dec bd.counterStatus.toNat
  text.take (len - 1)

/-! ## Sending -/

/-- A dump under way: how often `totem_studio_send_diag_line` was called, the
lines it took, and `ordinal`. -/
structure DumpState where
  calls : Nat
  sent : List (List Char)
  ordinal : UInt32

/-- What `dump_send` does in `attempts` attempts, when the `n`-th call of
`totem_studio_send_diag_line` answers `answer n`. -/
def sendAttempts (answer : Nat → Int) (line : List Char) : Nat → DumpState → DumpState × Int
  | 0, st => (st, -eagain)
  | attempts + 1, st =>
    let err := answer st.calls
    let st := { st with
      calls := st.calls + 1
      sent := if err = 0 then st.sent ++ [line] else st.sent }
    if err ≠ -eagain then (st, err) else sendAttempts answer line attempts st

/-- `dump_send` -/
def dumpSend (answer : Nat → Int) (line : List Char) (st : DumpState) : DumpState × Int :=
  sendAttempts answer line 40 st

/-- The line of `dump_data`. -/
def dataLine (id ordinal : UInt32) (detail : List Char) : List Char :=
  "totem_diag d=".toList ++ dec id.toNat ++ " n=".toList ++ dec ordinal.toNat ++ [' '] ++ detail

/-- `dump_data` -/
def dumpData (answer : Nat → Int) (id : UInt32) (detail : List Char) (st : DumpState) :
    DumpState × Int :=
  let line := dataLine id st.ordinal detail
  if 120 ≤ line.length then (st, -emsgsize)
  else
    let (st, err) := dumpSend answer line st
    if err = 0 then ({ st with ordinal := st.ordinal + 1 }, err) else (st, err)

/-- The detail of `dump_event`. -/
def eventDetail (e : TotemHostEvent) (source : Char) (slot : Nat) (seq : UInt32) : List Char :=
  "e s=".toList ++ [source] ++ dec slot ++ " q=".toList ++ dec seq.toNat ++
    " t=".toList ++ dec e.uptimeMs.toNat ++ " k=".toList ++ dec e.type.toNat ++
    " i=".toList ++ decInt e.idx.toInt ++ " a=".toList ++ decInt e.active.toInt ++
    " r=".toList ++ dec e.reason.toNat ++ " w=".toList ++ dec e.thrashWin.toNat ++
    " x=".toList ++ dec e.extra.toNat

/-- The detail of a block. -/
def blockDetail (slot : Nat) (b : TotemDiagBlock) : List Char :=
  "b s=".toList ++ dec slot ++ " j=".toList ++ dec b.journalSeq.toNat ++
    " first=".toList ++ dec b.firstEventSeq.toNat ++ " count=".toList ++ dec b.count.toNat

/-- A detail printed into 90 bytes, then `dump_data`. -/
def dumpDetail (answer : Nat → Int) (id : UInt32) (detail : List Char) (st : DumpState) :
    DumpState × Int :=
  if 90 ≤ detail.length then (st, -emsgsize) else dumpData answer id detail st

/-- `dump_event` -/
def dumpEvent (answer : Nat → Int) (id : UInt32) (e : TotemHostEvent) (source : Char) (slot : Nat)
    (seq : UInt32) (st : DumpState) : DumpState × Int :=
  dumpDetail answer id (eventDetail e source slot seq) st

/-- Go on unless there was an error (`goto out`). -/
def andThen (r : DumpState × Int) (next : DumpState → DumpState × Int) : DumpState × Int :=
  if r.2 = 0 then next r.1 else r

/-- A loop that an error leaves. -/
def forEach {α : Type} (body : α → DumpState → DumpState × Int) : List α → DumpState → DumpState × Int
  | [], st => (st, 0)
  | a :: as, st => andThen (body a st) (forEach body as)

/-! ## The dump -/

/-- What a dump is made from: the snapshot it takes under `ring_mu`. The bounds
are those of the build. -/
structure Snapshot where
  journalSlots : Nat
  /-- `dump_tmp`, `n` -/
  ram : List TotemHostEvent
  seq : UInt32
  /-- `dump_blocks`, where `dump_valid` -/
  blocks : Nat → Option TotemDiagBlock
  startSlot : Nat
  journalSlots_pos : 0 < journalSlots
  journalSlots_le : journalSlots ≤ 10
  ram_lt : ram.length < 65536

/-- The snapshot of the journal. -/
def HostEventLog.snapshot {cfg : Config} (j : HostEventLog cfg) : Snapshot where
  journalSlots := cfg.journalSlots
  ram := j.ringGetOrdered
  seq := j.ringSeq
  blocks := j.restored
  startSlot := j.nextSlot
  journalSlots_pos := cfg.journalSlots_pos
  journalSlots_le := cfg.journalSlots_le
  ram_lt := by
    have := j.ring.count_le
    have := cfg.ringCap_lt
    rw [ringGetOrdered, Circular.Ring.length_toList]
    omega

namespace Snapshot

variable (snap : Snapshot)

/-- A slot counted in `blocks` and `persistent_events`. -/
def countSlot (c : UInt8 × UInt32) (slot : Nat) : UInt8 × UInt32 :=
  match snap.blocks slot with
  | .some b => (c.1 + 1, c.2 + b.count.toUInt32)
  | .none => c

/-- `blocks` and `persistent_events` -/
def counts : UInt8 × UInt32 := (List.range snap.journalSlots).foldl snap.countSlot (0, 0)

/-- `expected` -/
def expected : UInt32 :=
  snap.counts.1.toUInt32 + snap.counts.2 + UInt32.ofNat snap.ram.length

def beginLine (id : UInt32) : List Char :=
  "totem_diag begin id=".toList ++ dec id.toNat ++ " lines=".toList ++ dec snap.expected.toNat ++
    " blocks=".toList ++ dec snap.counts.1.toNat ++
    " persisted=".toList ++ dec snap.counts.2.toNat ++
    " ram=".toList ++ dec snap.ram.length ++ " seq=".toList ++ dec snap.seq.toNat

def endLine (id lines : UInt32) : List Char :=
  "totem_diag end id=".toList ++ dec id.toNat ++ " lines=".toList ++ dec lines.toNat ++
    " status=ok".toList

/-- The number of the `i`-th RAM event. -/
def ramSeq (i : Nat) : UInt32 := snap.seq - UInt32.ofNat snap.ram.length + UInt32.ofNat i + 1

/-- The body of the loop over the slots. -/
def dumpSlot (answer : Nat → Int) (id : UInt32) (off : Nat) (st : DumpState) : DumpState × Int :=
  let slot := (snap.startSlot + off) % snap.journalSlots
  match snap.blocks slot with
  | .none => (st, 0)
  | .some b =>
    andThen (dumpDetail answer id (blockDetail slot b) st)
      (forEach (fun i => dumpEvent answer id (b.event i) 'p' slot (b.firstEventSeq + UInt32.ofNat i))
        (List.range b.count.toNat))

/-- The loop over the slots. -/
def dumpBlocks (answer : Nat → Int) (id : UInt32) (st : DumpState) : DumpState × Int :=
  forEach (snap.dumpSlot answer id) (List.range snap.journalSlots) st

/-- The loop over the RAM events. -/
def dumpRam (answer : Nat → Int) (id : UInt32) (st : DumpState) : DumpState × Int :=
  forEach (fun i => dumpEvent answer id (snap.ram.getD i .zero) 'r' 0 (snap.ramSeq i))
    (List.range snap.ram.length) st

/-- The dump from the begin line on. -/
def dump (answer : Nat → Int) (id : UInt32) (st : DumpState) : DumpState × Int :=
  andThen
    (if 120 ≤ (snap.beginLine id).length then (st, -emsgsize)
    else dumpSend answer (snap.beginLine id) st) fun st =>
  andThen (snap.dumpBlocks answer id st) fun st =>
  andThen (snap.dumpRam answer id st) fun st =>
  if st.ordinal = snap.expected ∧ (endLine id st.ordinal).length < 120 then
    dumpSend answer (endLine id st.ordinal) st
  else (st, 0)

end Snapshot

/-- The line of a saved fault. -/
def faultLine (fault : TotemFaultRecord) : List Char :=
  ("totem_fault saved kind=".toList ++ dec fault.kind.toNat ++ " reason=".toList ++
    dec fault.reason.toNat ++ " pc=".toList ++ hex8 fault.pc ++ " lr=".toList ++ hex8 fault.lr ++
    " thread=".toList ++ hex8 fault.thread ++ " at=".toList ++ dec fault.uptimeMs.toNat).take 119

/-- `totem_host_event_log_dump`, with the last error. -/
def totemHostEventLogDump (answer : Nat → Int) (id : UInt32) (bd : BootDiagnostics)
    (fault : TotemFaultRecord) (snap : Snapshot) : DumpState × Int :=
  andThen (dumpSend answer (totemBootDiagnosticsFormat bd 120 false) ⟨0, [], 0⟩) fun st =>
  andThen (dumpSend answer (totemBootDiagnosticsFormat bd 120 true) st) fun st =>
  andThen (if fault.kind ≠ totemFaultNone then dumpSend answer (faultLine fault) st else (st, 0))
    fun st =>
  snap.dump answer id st

/-! ## The script -/

namespace Snapshot

variable (snap : Snapshot)

/-- The details of a slot's block and its events. -/
def slotDetails (slot : Nat) : List (List Char) :=
  match snap.blocks slot with
  | .none => []
  | .some b => blockDetail slot b :: (List.range b.count.toNat).map fun i =>
    eventDetail (b.event i) 'p' slot (b.firstEventSeq + UInt32.ofNat i)

/-- The details of the data lines, in order. -/
def details : List (List Char) :=
  ((List.range snap.journalSlots).flatMap fun off =>
    snap.slotDetails (Rotation.slotAt snap.journalSlots snap.startSlot off)) ++
  (List.range snap.ram.length).map fun i =>
    eventDetail (snap.ram.getD i .zero) 'r' 0 (snap.ramSeq i)

end Snapshot

/-- Data lines numbered from an ordinal on. -/
def dataLines (id : UInt32) : UInt32 → List (List Char) → List (List Char)
  | _, [] => []
  | ordinal, d :: ds => dataLine id ordinal d :: dataLines id (ordinal + 1) ds

/-- The lines of the dump proper. -/
def Snapshot.script (snap : Snapshot) (id : UInt32) : List (List Char) :=
  snap.beginLine id :: (dataLines id 0 snap.details ++ [Snapshot.endLine id snap.expected])

/-- The lines sent before. -/
def preamble (bd : BootDiagnostics) (fault : TotemFaultRecord) : List (List Char) :=
  [totemBootDiagnosticsFormat bd 120 false, totemBootDiagnosticsFormat bd 120 true] ++
    if fault.kind ≠ totemFaultNone then [faultLine fault] else []

theorem dataLines_append (id ordinal : UInt32) (ds ds' : List (List Char)) :
    dataLines id ordinal (ds ++ ds') =
      dataLines id ordinal ds ++ dataLines id (ordinal + UInt32.ofNat ds.length) ds' := by
  induction ds generalizing ordinal with
  | nil => simp [dataLines]
  | cons d ds ih =>
    simp only [List.cons_append, dataLines, ih, List.length_cons, UInt32.ofNat_add]
    rw [UInt32.add_assoc, UInt32.add_comm 1]
    rfl

@[simp] theorem length_dataLines (id ordinal : UInt32) (ds : List (List Char)) :
    (dataLines id ordinal ds).length = ds.length := by
  induction ds generalizing ordinal with
  | nil => rfl
  | cons d ds ih => rw [dataLines, List.length_cons, ih, List.length_cons]

/-! ## The number of lines -/

namespace Snapshot

variable (snap : Snapshot)

theorem length_slotDetails (slot : Nat) : (snap.slotDetails slot).length =
    match snap.blocks slot with
    | .none => 0
    | .some b => 1 + b.count.toNat := by
  unfold slotDetails
  split <;> simp [Nat.add_comm]

/-- The two counters of the begin line, over the first slots. -/
theorem counts_range {n : Nat} (h : n ≤ 10) :
    let c := (List.range n).foldl snap.countSlot (0, 0)
    c.1.toNat ≤ n ∧ c.2.toNat ≤ 255 * n ∧
      c.1.toNat + c.2.toNat = ((List.range n).map fun slot => (snap.slotDetails slot).length).sum := by
  induction n with
  | zero => simp
  | succ n ih =>
    obtain ⟨hblocks, hevents, hsum⟩ := ih (by omega)
    rw [List.range_succ, List.foldl_append, List.map_append, List.sum_append, ← hsum]
    generalize (List.range n).foldl snap.countSlot (0, 0) = c at *
    simp only [List.foldl_cons, List.foldl_nil, List.map_cons, List.map_nil, List.sum_cons,
      List.sum_nil, countSlot, length_slotDetails]
    cases snap.blocks n with
    | none => dsimp only; omega
    | some b =>
      have hcount := b.count.toNat_lt
      have hone : (1 : UInt8).toNat = 1 := rfl
      simp only [UInt8.toNat_add, UInt32.toNat_add, UInt8.toNat_toUInt32, hone]
      omega

theorem counts_spec : snap.counts.1.toNat ≤ 10 ∧ snap.counts.2.toNat ≤ 2550 ∧
    snap.counts.1.toNat + snap.counts.2.toNat + snap.ram.length = snap.details.length := by
  have hle := snap.journalSlots_le
  obtain ⟨hblocks, hevents, hsum⟩ := snap.counts_range hle
  have hdetails : snap.details.length =
      ((List.range snap.journalSlots).map fun slot => (snap.slotDetails slot).length).sum +
        snap.ram.length := by
    have hperm := (Rotation.slotAt_perm snap.journalSlots snap.startSlot).map
      fun slot => (snap.slotDetails slot).length
    rw [details, List.length_append, List.length_flatMap, List.length_map, List.length_range,
      ← hperm.sum_nat, List.map_map]
    rfl
  refine ⟨?_, ?_, ?_⟩
  · exact Nat.le_trans hblocks hle
  · exact Nat.le_trans hevents (by omega)
  · rw [hdetails, ← hsum]
    rfl

/-- **The begin line announces the data lines there are.** -/
theorem expected_eq : snap.expected.toNat = snap.details.length ∧
    snap.expected.toNat = snap.counts.1.toNat + snap.counts.2.toNat + snap.ram.length := by
  obtain ⟨hblocks, hevents, hsum⟩ := snap.counts_spec
  have hram := snap.ram_lt
  have heq : snap.expected.toNat = snap.counts.1.toNat + snap.counts.2.toNat + snap.ram.length := by
    simp only [expected, UInt32.toNat_add, UInt8.toNat_toUInt32, UInt32.toNat_ofNat']
    omega
  exact ⟨heq.trans hsum, heq⟩

end Snapshot

/-! ## What is sent -/

/-- What a part of a dump does: it sends its lines, or those up to the first
that cannot be sent, and leaves the next ordinal. -/
structure Sends (answer : Nat → Int) (r : DumpState × Int) (st : DumpState)
    (lines : List (List Char)) (ordinal : UInt32) : Prop where
  sent : ∃ l, l <+: lines ∧ r.1.sent = st.sent ++ l
  all : r.2 = 0 → r.1.sent = st.sent ++ lines ∧ r.1.ordinal = ordinal
  ok : (∀ n, answer n = 0) → r.2 = 0

theorem andThen_assoc (r : DumpState × Int) (f g : DumpState → DumpState × Int) :
    andThen (andThen r f) g = andThen r fun st => andThen (f st) g := by
  by_cases h : r.2 = 0
  · simp only [andThen, if_pos h]
  · simp only [andThen, if_neg h]

namespace Sends

variable {answer : Nat → Int} {r : DumpState × Int} {st : DumpState}
  {lines lines' : List (List Char)} {ordinal ordinal' : UInt32} {id : UInt32}

theorem nothing : Sends answer (st, 0) st [] st.ordinal :=
  ⟨⟨[], List.prefix_refl _, by simp⟩, fun _ => by simp, fun _ => rfl⟩

/-- Two parts, the second only after the first went well. -/
theorem andThen {next : DumpState → DumpState × Int} (h : Sends answer r st lines ordinal)
    (hnext : r.1.ordinal = ordinal → Sends answer (next r.1) r.1 lines' ordinal') :
    Sends answer (andThen r next) st (lines ++ lines') ordinal' := by
  unfold TotemZmk.andThen
  split
  · rename_i hr
    obtain ⟨hsent, hord⟩ := h.all hr
    have hn := hnext hord
    refine ⟨?_, fun h0 => ?_, hn.ok⟩
    · obtain ⟨l, hl, he⟩ := hn.sent
      exact ⟨lines ++ l, (List.prefix_append_right_inj _).mpr hl,
        by rw [he, hsent, List.append_assoc]⟩
    · obtain ⟨he, ho⟩ := hn.all h0
      exact ⟨by rw [he, hsent, List.append_assoc], ho⟩
  · rename_i hr
    refine ⟨?_, fun h0 => absurd h0 hr, h.ok⟩
    obtain ⟨l, hl, he⟩ := h.sent
    exact ⟨l, hl.trans (List.prefix_append _ _), he⟩

theorem sendAttempts_spec (answer : Nat → Int) (line : List Char) (attempts : Nat) (st : DumpState) :
    let r := sendAttempts answer line attempts st
    r.1.ordinal = st.ordinal ∧ r.1.sent = if r.2 = 0 then st.sent ++ [line] else st.sent := by
  induction attempts generalizing st with
  | zero => exact ⟨rfl, rfl⟩
  | succ attempts ih =>
    simp only [sendAttempts]
    split
    · exact ⟨rfl, rfl⟩
    · rename_i hagain
      have h0 : answer st.calls ≠ 0 := by
        simp only [eagain, ne_eq, Decidable.not_not] at hagain
        omega
      rw [if_neg h0]
      exact ih _

theorem send (line : List Char) (st : DumpState) :
    Sends answer (dumpSend answer line st) st [line] st.ordinal := by
  obtain ⟨hord, hsent⟩ := sendAttempts_spec answer line 40 st
  refine ⟨?_, fun h0 => ?_, fun hok => ?_⟩
  · by_cases h0 : (dumpSend answer line st).2 = 0
    · exact ⟨[line], List.prefix_refl _, hsent.trans (if_pos h0)⟩
    · exact ⟨[], List.nil_prefix, by rw [List.append_nil]; exact hsent.trans (if_neg h0)⟩
  · exact ⟨hsent.trans (if_pos h0), hord⟩
  · simp [dumpSend, TotemZmk.sendAttempts, hok, eagain]

/-- A detail within the buffers, and the ordinal moves on. -/
theorem detail {detail : List Char} (h : detail.length ≤ 72) (st : DumpState) :
    Sends answer (dumpDetail answer id detail st) st [dataLine id st.ordinal detail]
      (st.ordinal + 1) := by
  have hline : ¬120 ≤ (dataLine id st.ordinal detail).length := by
    have hid := length_dec_u32 id
    have hn := length_dec_u32 st.ordinal
    unfold dataLine
    simp
    omega
  have hsend : Sends answer _ st [dataLine id st.ordinal detail] st.ordinal := send _ st
  rw [dumpDetail, if_neg (by omega), dumpData, if_neg hline]
  simp only
  generalize dumpSend answer (dataLine id st.ordinal detail) st = r at *
  split
  · rename_i h0
    exact ⟨hsend.sent, fun _ => ⟨(hsend.all h0).1, by rw [(hsend.all h0).2]⟩, fun _ => h0⟩
  · rename_i h0
    exact ⟨hsend.sent, fun h => absurd h h0, hsend.ok⟩

end Sends

/-- Parts that send numbered details. -/
def SendsData (answer : Nat → Int) (id : UInt32) (r : DumpState × Int) (st : DumpState)
    (ds : List (List Char)) : Prop :=
  Sends answer r st (dataLines id st.ordinal ds) (st.ordinal + UInt32.ofNat ds.length)

namespace SendsData

variable {answer : Nat → Int} {r : DumpState × Int} {st : DumpState} {id : UInt32}

theorem nothing : SendsData answer id (st, 0) st [] := by
  have h : Sends answer (st, 0) st [] st.ordinal := .nothing
  simpa [SendsData, dataLines] using h

theorem andThen {next : DumpState → DumpState × Int} {ds ds' : List (List Char)}
    (h : SendsData answer id r st ds) (hnext : SendsData answer id (next r.1) r.1 ds') :
    SendsData answer id (andThen r next) st (ds ++ ds') := by
  unfold SendsData
  rw [dataLines_append, List.length_append, UInt32.ofNat_add, ← UInt32.add_assoc]
  refine Sends.andThen h fun hord => ?_
  rw [← hord]
  exact hnext

theorem forEach {α : Type} {body : α → DumpState → DumpState × Int} {as : List α}
    {details : α → List (List Char)}
    (h : ∀ a ∈ as, ∀ st, SendsData answer id (body a st) st (details a)) (st : DumpState) :
    SendsData answer id (forEach body as st) st (as.flatMap details) := by
  induction as generalizing st with
  | nil => exact nothing
  | cons a as ih =>
    rw [List.flatMap_cons]
    exact (h a List.mem_cons_self st).andThen (ih (fun a ha => h a (List.mem_cons_of_mem _ ha)) _)

theorem detail {detail : List Char} (h : detail.length ≤ 72) (st : DumpState) :
    SendsData answer id (dumpDetail answer id detail st) st [detail] := Sends.detail h st

end SendsData

/-! ## The whole dump -/

theorem length_blockDetail {slot : Nat} (h : slot < 10) (b : TotemDiagBlock) :
    (blockDetail slot b).length ≤ 72 := by
  have h₁ := length_dec_le (n := slot) (k := 1) (by decide) h
  have h₂ := length_dec_u32 b.journalSeq
  have h₃ := length_dec_u32 b.firstEventSeq
  have h₄ := length_dec_u8 b.count
  unfold blockDetail
  simp
  omega

theorem length_eventDetail {slot : Nat} (h : slot < 10) (e : TotemHostEvent) (source : Char)
    (seq : UInt32) : (eventDetail e source slot seq).length ≤ 72 := by
  have h₁ := length_dec_le (n := slot) (k := 1) (by decide) h
  have h₂ := length_dec_u32 seq
  have h₃ := length_dec_u32 e.uptimeMs
  have h₄ := length_dec_u8 e.type
  have h₅ := length_decInt_i8 e.idx
  have h₆ := length_decInt_i8 e.active
  have h₇ := length_dec_u8 e.reason
  have h₈ := length_dec_u8 e.thrashWin
  have h₉ := length_dec_u8 e.extra
  unfold eventDetail
  simp
  omega

theorem SendsData.events {answer : Nat → Int} {id : UInt32} {slot : Nat} (h : slot < 10)
    (event : Nat → TotemHostEvent) (source : Char) (seq : Nat → UInt32) (n : Nat) (st : DumpState) :
    SendsData answer id
      (TotemZmk.forEach (fun i => dumpEvent answer id (event i) source slot (seq i)) (List.range n) st)
      st ((List.range n).map fun i => eventDetail (event i) source slot (seq i)) := by
  rw [List.map_eq_flatMap]
  refine .forEach (fun i _ st => ?_) st
  unfold dumpEvent
  exact .detail (length_eventDetail h (event i) source (seq i)) st

namespace Snapshot

variable {answer : Nat → Int} {id : UInt32} (snap : Snapshot)

theorem sendsData_slot (off : Nat) (st : DumpState) :
    SendsData answer id (snap.dumpSlot answer id off st) st
      (snap.slotDetails (Rotation.slotAt snap.journalSlots snap.startSlot off)) := by
  have hslot : Rotation.slotAt snap.journalSlots snap.startSlot off < 10 :=
    Nat.lt_of_lt_of_le (Nat.mod_lt _ snap.journalSlots_pos) snap.journalSlots_le
  have hat : (snap.startSlot + off) % snap.journalSlots =
      Rotation.slotAt snap.journalSlots snap.startSlot off := rfl
  simp only [dumpSlot, slotDetails, hat]
  generalize Rotation.slotAt snap.journalSlots snap.startSlot off = slot at *
  cases snap.blocks slot with
  | none => exact .nothing
  | some b =>
    have hblock : SendsData answer id (dumpDetail answer id (blockDetail slot b) st) st
        [blockDetail slot b] := .detail (length_blockDetail hslot b) st
    exact hblock.andThen (.events hslot b.event 'p' (fun i => b.firstEventSeq + UInt32.ofNat i) _ _)

theorem sendsData_details (answer : Nat → Int) (id : UInt32) (st : DumpState) :
    SendsData answer id (TotemZmk.andThen (snap.dumpBlocks answer id st) (snap.dumpRam answer id)) st
      snap.details := by
  have hblocks : SendsData answer id (snap.dumpBlocks answer id st) st _ :=
    .forEach (fun off _ st => snap.sendsData_slot off st) st
  exact hblocks.andThen (.events (by decide) (snap.ram.getD · .zero) 'r' snap.ramSeq _ _)

theorem length_beginLine (id : UInt32) : (snap.beginLine id).length < 120 := by
  have h₁ := length_dec_u32 id
  have h₂ := length_dec_u32 snap.expected
  have h₃ := length_dec_u8 snap.counts.1
  have h₄ := length_dec_u32 snap.counts.2
  have h₅ : (dec snap.ram.length).length ≤ 5 :=
    length_dec_le (by decide) (Nat.lt_of_lt_of_le snap.ram_lt (by decide))
  have h₆ := length_dec_u32 snap.seq
  unfold beginLine
  simp
  omega

theorem length_endLine (id lines : UInt32) : (endLine id lines).length < 120 := by
  have h₁ := length_dec_u32 id
  have h₂ := length_dec_u32 lines
  unfold endLine
  simp
  omega

theorem sends_script {st : DumpState} (hst : st.ordinal = 0) :
    Sends answer (snap.dump answer id st) st (snap.script id) snap.expected := by
  have hlen := snap.length_beginLine id
  rw [dump, if_neg (by omega)]
  refine (Sends.send (snap.beginLine id) st).andThen fun hord => ?_
  generalize (dumpSend answer (snap.beginLine id) st).1 = st' at *
  rw [hst] at hord
  have hexpected : UInt32.ofNat snap.details.length = snap.expected := by
    rw [← snap.expected_eq.1, UInt32.ofNat_toNat]
  have hdata := snap.sendsData_details answer id st'
  rw [SendsData, hord, hexpected, UInt32.zero_add] at hdata
  rw [← andThen_assoc]
  refine hdata.andThen fun hord' => ?_
  rw [if_pos ⟨hord', length_endLine _ _⟩, hord']
  exact hord' ▸ .send _ _

end Snapshot

/-- **What a dump sends**: its lines, or those up to the first that cannot be
sent, and all of them when every send succeeds. -/
theorem sends_dump (answer : Nat → Int) (id : UInt32) (bd : BootDiagnostics) (fault : TotemFaultRecord)
    (snap : Snapshot) : Sends answer (totemHostEventLogDump answer id bd fault snap) ⟨0, [], 0⟩
      (preamble bd fault ++ snap.script id) snap.expected := by
  rw [preamble, List.append_assoc]
  refine (Sends.send _ _).andThen fun h₁ => ?_
  refine (Sends.send (totemBootDiagnosticsFormat bd 120 true) _).andThen fun h₂ => ?_
  generalize dumpSend answer (totemBootDiagnosticsFormat bd 120 false) ⟨0, [], 0⟩ = r₁ at *
  generalize dumpSend answer (totemBootDiagnosticsFormat bd 120 true) r₁.1 = r₂ at *
  have h₀ : r₂.1.ordinal = 0 := h₂.trans h₁
  split
  · refine (Sends.send (faultLine fault) _).andThen fun h₃ => ?_
    exact snap.sends_script (h₃.trans h₀)
  · exact Sends.nothing.andThen fun _ => snap.sends_script h₀

end TotemZmk
