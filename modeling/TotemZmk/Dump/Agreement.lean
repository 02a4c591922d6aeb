/-
The firmware's dump and the host's verifier: the verifier accepts a dump
exactly when all of it arrived.

* `matchBegin_beginLine`, `matchData_dataLine`, `matchEnd_endLine`: the
  patterns read the lines the firmware formats, and no others.
* `complete_iff_script`: of the lines of a dump, only all of them complete it.
* `dump_accepted_iff`: nor do lines lost, mixed in, or of dumps before change that.
-/
import TotemZmk.Journal.ExactlyOnce
import TotemZmk.Dump.Verifier
import TotemZmk.Dump.Firmware
import Mathlib.Data.List.Nodup
import Mathlib.Data.List.Perm.Subperm

namespace TotemZmk

open Text

variable {dg : Digits} {id : UInt32}

/-! ## The formatted lines -/

theorem space_head {q s : List Char} (h : q.head? = .some ' ') :
    ∀ c ∈ (q ++ s).head?, dg.value c = .none := by
  obtain ⟨q', rfl⟩ := List.head?_eq_some_iff.mp h
  exact plain_head (by decide) (by decide)

theorem matchBegin_beginLine (snap : Snapshot) : matchBegin dg (snap.beginLine id) =
    .some ⟨id.toNat, snap.expected.toNat, snap.counts.1.toNat, snap.counts.2.toNat, snap.ram.length,
      snap.seq.toNat⟩ := by
  have hline : snap.beginLine id = "totem_diag begin id=".toList ++ (dec id.toNat ++
      (" lines=".toList ++ (dec snap.expected.toNat ++ (" blocks=".toList ++
      (dec snap.counts.1.toNat ++ (" persisted=".toList ++ (dec snap.counts.2.toNat ++
      (" ram=".toList ++ (dec snap.ram.length ++ (" seq=".toList ++
      (dec snap.seq.toNat ++ []))))))))))) := by
    unfold Snapshot.beginLine
    simp only [List.append_assoc, List.append_nil]
  rw [hline]
  refine (field_bind _ _ _ (space_head (by simp))).trans ?_
  refine (field_bind _ _ _ (space_head (by simp))).trans ?_
  refine (field_bind _ _ _ (space_head (by simp))).trans ?_
  refine (field_bind _ _ _ (space_head (by simp))).trans ?_
  refine (field_bind _ _ _ (space_head (by simp))).trans ?_
  exact field_bind _ _ _ nil_head

theorem matchBegin_dataLine (ordinal : UInt32) (d : List Char) :
    matchBegin dg (dataLine id ordinal d) = .none := by
  refine field_bind_none ?_ _
  have h : 'b' ≠ 'd' := by decide
  unfold dataLine
  simp only [List.append_assoc]
  exact lit_of_ne (p := "totem_diag ".toList) h _ _

theorem matchBegin_endLine (lines : UInt32) :
    matchBegin dg (Snapshot.endLine id lines) = .none := by
  refine field_bind_none ?_ _
  have h : 'b' ≠ 'e' := by decide
  unfold Snapshot.endLine
  simp only [List.append_assoc]
  exact lit_of_ne (p := "totem_diag ".toList) h _ _

theorem matchData_dataLine (ordinal : UInt32) {d : List Char} (hne : d ≠ []) (hnl : '\n' ∉ d) :
    matchData dg (dataLine id ordinal d) = .some (id.toNat, ordinal.toNat) := by
  have hline : dataLine id ordinal d = "totem_diag d=".toList ++ (dec id.toNat ++
      (" n=".toList ++ (dec ordinal.toNat ++ ([' '] ++ d)))) := by
    unfold dataLine
    simp only [List.append_assoc]
  rw [hline]
  refine (field_bind _ _ _ (space_head (by simp))).trans ?_
  refine (field_bind _ _ _ (space_head (by simp))).trans ?_
  exact if_pos (someLine_of_forall hne hnl)

theorem matchData_endLine (lines : UInt32) : matchData dg (Snapshot.endLine id lines) = .none := by
  refine field_bind_none ?_ _
  have h : 'd' ≠ 'e' := by decide
  unfold Snapshot.endLine
  simp only [List.append_assoc]
  exact lit_of_ne (p := "totem_diag ".toList) h _ _

theorem matchEnd_endLine (lines : UInt32) :
    matchEnd dg (Snapshot.endLine id lines) = .some (id.toNat, lines.toNat) := by
  have hline : Snapshot.endLine id lines = "totem_diag end id=".toList ++ (dec id.toNat ++
      (" lines=".toList ++ (dec lines.toNat ++ (" status=ok".toList ++ [])))) := by
    unfold Snapshot.endLine
    simp only [List.append_assoc, List.append_nil]
  rw [hline]
  refine (field_bind _ _ _ (space_head (by simp))).trans ?_
  refine (field_bind _ _ _ (space_head (by simp))).trans ?_
  dsimp only
  rw [lit_append]
  rfl

theorem recognised_of_head {line : List Char} (h : line.take 7 ≠ "totem_d".toList) :
    recognised dg line = false := by
  have hlit (p : List Char) : lit ("totem_d".toList ++ p) line = .none := by
    cases hl : lit ("totem_d".toList ++ p) line with
    | none => rfl
    | some t =>
      rw [eq_of_lit hl] at h
      exact absurd rfl h
  have hb : lit "totem_diag begin id=".toList line = .none := hlit "iag begin id=".toList
  have hd : lit "totem_diag d=".toList line = .none := hlit "iag d=".toList
  have he : lit "totem_diag end id=".toList line = .none := hlit "iag end id=".toList
  unfold recognised matchBegin matchData matchEnd
  rw [hb, hd, he]
  rfl

/-- The lines sent before the begin line mean nothing to the verifier. -/
theorem recognised_preamble {bd : BootDiagnostics} {fault : TotemFaultRecord} {line : List Char}
    (h : line ∈ preamble bd fault) : recognised dg line = false := by
  have hboot (previous : Bool) :
      recognised dg (totemBootDiagnosticsFormat bd 120 previous) = false := by
    refine recognised_of_head ?_
    unfold totemBootDiagnosticsFormat
    cases previous <;> simp
  have hfault : recognised dg (faultLine fault) = false := by
    refine recognised_of_head ?_
    unfold faultLine
    simp
  unfold preamble at h
  split at h
  · simp only [List.mem_append, List.mem_cons, List.not_mem_nil, or_false] at h
    rcases h with (rfl | rfl) | rfl
    · exact hboot _
    · exact hboot _
    · exact hfault
  · simp only [List.append_nil, List.mem_cons, List.not_mem_nil, or_false] at h
    rcases h with rfl | rfl
    · exact hboot _
    · exact hboot _

/-! ## The script -/

theorem newline_not_mem_blockDetail (slot : Nat) (b : TotemDiagBlock) :
    blockDetail slot b ≠ [] ∧ '\n' ∉ blockDetail slot b := by
  unfold blockDetail
  simp [newline_not_mem_dec]

theorem newline_not_mem_eventDetail (e : TotemHostEvent) {source : Char} (h : source ≠ '\n')
    (slot : Nat) (seq : UInt32) :
    eventDetail e source slot seq ≠ [] ∧ '\n' ∉ eventDetail e source slot seq := by
  unfold eventDetail
  simp [newline_not_mem_dec, newline_not_mem_decInt, h.symm]

theorem detail_ok {snap : Snapshot} {d : List Char} (h : d ∈ snap.details) : d ≠ [] ∧ '\n' ∉ d := by
  unfold Snapshot.details at h
  rw [List.mem_append, List.mem_flatMap, List.mem_map] at h
  rcases h with ⟨off, -, hd⟩ | ⟨i, -, rfl⟩
  · unfold Snapshot.slotDetails at hd
    split at hd
    · cases hd
    · rw [List.mem_cons, List.mem_map] at hd
      rcases hd with rfl | ⟨i, -, rfl⟩
      · exact newline_not_mem_blockDetail _ _
      · exact newline_not_mem_eventDetail _ (by decide) _ _
  · exact newline_not_mem_eventDetail _ (by decide) _ _

/-- What the verifier reads in the data lines: the id and consecutive ordinals. -/
theorem map_matchData {ds : List (List Char)} {ordinal : UInt32}
    (hok : ∀ d ∈ ds, d ≠ [] ∧ '\n' ∉ d) (h : ordinal.toNat + ds.length < 2 ^ 32) :
    (dataLines id ordinal ds).map (matchData dg) =
      (List.range' ordinal.toNat ds.length).map fun n => .some (id.toNat, n) := by
  induction ds generalizing ordinal with
  | nil => rfl
  | cons d ds ih =>
    simp only [List.length_cons] at h
    obtain ⟨hne, hnl⟩ := hok d List.mem_cons_self
    have hnext : (ordinal + 1).toNat = ordinal.toNat + 1 := by
      have hone : (1 : UInt32).toNat = 1 := rfl
      rw [UInt32.toNat_add, hone]
      exact Nat.mod_eq_of_lt (by omega)
    rw [dataLines, List.map_cons, matchData_dataLine ordinal hne hnl,
      ih (fun d hd => hok d (List.mem_cons_of_mem _ hd)) (by omega), hnext, List.length_cons,
      List.range'_succ, List.map_cons]

theorem matchBegin_dataLines {ds : List (List Char)} {ordinal : UInt32} {line : List Char}
    (h : line ∈ dataLines id ordinal ds) : matchBegin dg line = .none := by
  induction ds generalizing ordinal with
  | nil => cases h
  | cons d ds ih =>
    rw [dataLines, List.mem_cons] at h
    rcases h with rfl | h
    · exact matchBegin_dataLine ordinal d
    · exact ih h

/-- What the verifier reads in all data lines of a dump. -/
theorem map_matchData_details (snap : Snapshot) :
    (dataLines id 0 snap.details).map (matchData dg) =
      (List.range snap.details.length).map fun n => .some (id.toNat, n) := by
  have hlt := snap.expected.toNat_lt
  rw [snap.expected_eq.1] at hlt
  have hzero : (0 : UInt32).toNat = 0 := rfl
  have h : (dataLines id 0 snap.details).map (matchData dg) = _ :=
    map_matchData (fun d hd => detail_ok hd) (by omega)
  rwa [hzero, ← List.range_eq_range'] at h

theorem recognised_script {snap : Snapshot} {line : List Char} (h : line ∈ snap.script id) :
    recognised dg line = true := by
  rw [Snapshot.script, List.mem_cons, List.mem_append, List.mem_singleton] at h
  unfold recognised
  rcases h with rfl | h | rfl
  · simp [matchBegin_beginLine]
  · have hmem := List.mem_map_of_mem (f := matchData dg) h
    rw [map_matchData_details, List.mem_map] at hmem
    obtain ⟨n, -, hn⟩ := hmem
    simp [← hn]
  · simp [matchEnd_endLine]

theorem nodup_script (snap : Snapshot) : (snap.script id).Nodup := by
  have hdata : (dataLines id 0 snap.details).Nodup := by
    refine .of_map (matchData asciiDigits) ?_
    rw [map_matchData_details]
    refine List.Nodup.map ?_ List.nodup_range
    intro n m h
    simpa using h
  have hend : Snapshot.endLine id snap.expected ∉ dataLines id 0 snap.details := by
    intro h
    have hmem := List.mem_map_of_mem (f := matchData asciiDigits) h
    rw [map_matchData_details, List.mem_map, matchData_endLine] at hmem
    obtain ⟨n, -, hn⟩ := hmem
    cases hn
  have hbegin : snap.beginLine id ∉ dataLines id 0 snap.details ++ [Snapshot.endLine id snap.expected] := by
    intro h
    have hnone : matchBegin asciiDigits (snap.beginLine id) = .none := by
      rw [List.mem_append, List.mem_singleton] at h
      rcases h with h | h
      · exact matchBegin_dataLines h
      · rw [h, matchBegin_endLine]
    rw [matchBegin_beginLine] at hnone
    cases hnone
  refine List.nodup_cons.mpr ⟨hbegin, List.nodup_append.mpr ⟨hdata, List.nodup_singleton _, ?_⟩⟩
  intro l hl l' hl'
  rw [List.mem_singleton] at hl'
  rintro rfl
  exact hend (hl' ▸ hl)

/-! ## Acceptance -/

open DumpVerifier

/-- Without a begin line of the dump, the verifier is not at that dump. -/
theorem dumpId_feedAll {n : Nat} {v : DumpVerifier} {lines : List (List Char)}
    (hv : v.dumpId ≠ .some n) (h : ∀ l ∈ lines, ∀ b, matchBegin dg l = .some b → b.id ≠ n) :
    (v.feedAll dg lines).dumpId ≠ .some n := by
  induction lines generalizing v with
  | nil => exact hv
  | cons l lines ih =>
    rw [feedAll_cons]
    refine ih ?_ fun l hl => h l (List.mem_cons_of_mem _ hl)
    cases hb : matchBegin dg l with
    | some b =>
      rw [feed_begin hb]
      simpa using h l List.mem_cons_self b hb
    | none =>
      rw [dumpId_feed hb]
      exact hv

/-- **Of the lines of a dump, only all of them complete it.** -/
theorem complete_iff_script {snap : Snapshot} {v : DumpVerifier} {lines : List (List Char)}
    (hv : v.dumpId ≠ .some id.toNat) (h : lines.Sublist (snap.script id)) :
    ((v.feedAll dg lines).complete = true ∧ (v.feedAll dg lines).dumpId = .some id.toNat) ↔
      lines = snap.script id := by
  have hexp := snap.expected_eq
  rw [Snapshot.script] at h ⊢
  rw [List.sublist_cons_iff] at h
  rcases h with h | ⟨rest, rfl, h⟩
  · -- the begin line is lost
    refine ⟨fun hc => ?_, fun he => ?_⟩
    · refine absurd hc.2 (dumpId_feedAll hv fun l hl b hb => ?_)
      have hmem := h.subset hl
      rw [List.mem_append, List.mem_singleton] at hmem
      rcases hmem with hmem | rfl
      · rw [matchBegin_dataLines hmem] at hb
        cases hb
      · rw [matchBegin_endLine] at hb
        cases hb
    · have hlen := h.length_le
      rw [he, List.length_cons] at hlen
      omega
  · rw [feedAll_cons, feed_begin (matchBegin_beginLine snap), if_neg (by simp [← hexp.2])]
    obtain ⟨data, fin, rfl, hdata, hfin⟩ := List.sublist_append_iff.mp h
    have hread := hdata.map (matchData dg)
    rw [map_matchData_details, List.sublist_map_iff] at hread
    obtain ⟨ns, hns, hmap⟩ := hread
    have hcount : data.length = ns.length := by
      have := congrArg List.length hmap
      rwa [List.length_map, List.length_map] at this
    rw [feedAll_append]
    have hb : ∀ l ∈ data, matchBegin dg l = .none :=
      fun l hl => matchBegin_dataLines (hdata.subset hl)
    obtain ⟨hid, hexpected, hcomplete, herr, hnext⟩ := feedAll_data hb hmap
      (rfl : (⟨.some id.toNat, .some snap.expected.toNat, 0, .none, false⟩ :
        DumpVerifier).dumpId = .some id.toNat)
    generalize feedAll dg ⟨.some id.toNat, .some snap.expected.toNat, 0, .none, false⟩ data = w at *
    dsimp only at hexpected hcomplete herr hnext
    rw [Nat.zero_add] at hnext
    rcases List.sublist_singleton.mp hfin with rfl | rfl
    · -- the end line is lost
      refine ⟨fun hc => ?_, fun he => ?_⟩
      · exact absurd (hcomplete.symm.trans hc.1) (by decide)
      · have hlen := hdata.length_le
        have hlen' := congrArg List.length he
        simp only [List.length_cons, List.length_append, List.length_nil] at hlen'
        omega
    · have hnone : matchBegin dg (Snapshot.endLine id snap.expected) = .none := matchBegin_endLine _
      have hend := feed_end hnone (by rw [matchData_endLine]; rfl) (matchEnd_endLine _) hid
      rw [feedAll_cons, feedAll_nil, hend, dumpId_feed hnone, hexpected]
      refine ⟨fun hc => ?_, fun he => ?_⟩
      · obtain ⟨⟨hnone, -, hlines⟩, -⟩ := hc
        rw [hnext hnone, Option.some.injEq, hexp.1] at hlines
        rw [hdata.eq_of_length (by rw [length_dataLines]; omega)]
      · have hdata' : data = dataLines id 0 snap.details := by
          simpa using he
        have hlen : ns.length = snap.details.length := by
          rw [← hcount, hdata', length_dataLines]
        have hrange : ns = List.range snap.details.length := hns.eq_of_length (by simpa using hlen)
        have hnone : w.error = .none := by
          refine herr.mpr ⟨rfl, ?_⟩
          rw [hlen, hrange, List.range_eq_range']
        refine ⟨⟨hnone, rfl, ?_⟩, hid⟩
        rw [hnext hnone, hlen, hexp.1]

/-- Of the lines a dump sends, the verifier recognises those of its script. -/
theorem filter_recognised {answer : Nat → Int} {bd : BootDiagnostics} {fault : TotemFaultRecord}
    {snap : Snapshot} {lines : List (List Char)}
    (h : (lines.filter (recognised dg)).Sublist (totemHostEventLogDump answer id bd fault snap).1.sent) :
    (lines.filter (recognised dg)).Sublist (snap.script id) := by
  obtain ⟨sent, hprefix, hsent⟩ := (sends_dump answer id bd fault snap).sent
  rw [hsent, List.nil_append] at h
  have hfilter := (h.trans hprefix.sublist).filter (recognised dg)
  have hpre : (preamble bd fault).filter (recognised dg) = [] :=
    List.filter_eq_nil_iff.mpr fun l hl => by simp [recognised_preamble hl]
  have hscript : (snap.script id).filter (recognised dg) = snap.script id :=
    List.filter_eq_self.mpr fun l hl => recognised_script hl
  simpa only [List.filter_filter, Bool.and_self, List.filter_append, hpre, hscript, List.nil_append]
    using hfilter

/-- **No partial dump is accepted, and every full one is.** The begin line
announces the data lines there are, and all lines are sent when no send fails.
Let the verifier be fed lines of other dumps and then, among lines that match
none of its patterns, some of the lines this dump sent, in order: it reports
this dump complete exactly when none of the dump's lines is missing. Whatever
it is fed, it turns complete only at the end line of a dump whose data lines
came with all ordinals, in order, since its begin line. -/
theorem dump_accepted_iff {cfg : Config} (dg : Digits) (j : HostEventLog cfg) (id : UInt32)
    (answer : Nat → Int) (bd : BootDiagnostics) (fault : TotemFaultRecord)
    (before lines : List (List Char))
    (hbefore : ∀ l ∈ before, ∀ b, matchBegin dg l = .some b → b.id ≠ id.toNat)
    (hlines : (lines.filter (recognised dg)).Sublist
      (totemHostEventLogDump answer id bd fault j.snapshot).1.sent) :
    j.snapshot.details.length = j.snapshot.expected.toNat ∧
    ((∀ n, answer n = 0) → (totemHostEventLogDump answer id bd fault j.snapshot).1.sent =
      preamble bd fault ++ j.snapshot.script id) ∧
    (((init.feedAll dg (before ++ lines)).complete = true ∧
      (init.feedAll dg (before ++ lines)).dumpId = .some id.toNat) ↔
        ∀ l ∈ j.snapshot.script id, l ∈ lines) ∧
    ∀ fed line, (init.feedAll dg fed).complete = false →
      (init.feedAll dg (fed ++ [line])).complete = true →
        ∃ b, progress dg (fed ++ [line]) = .some (b, List.range b.lines) ∧
          b.lines = b.blocks + b.persisted + b.ram ∧ matchEnd dg line = .some (b.id, b.lines) := by
  have hsends := sends_dump answer id bd fault j.snapshot
  have hsub := filter_recognised hlines
  have hv : (init.feedAll dg before).dumpId ≠ .some id.toNat :=
    dumpId_feedAll (Option.some_ne_none _).symm hbefore
  refine ⟨j.snapshot.expected_eq.1.symm, fun h0 => ?_, ?_, fun fed line => accepted_whole⟩
  · have hsent := (hsends.all (hsends.ok h0)).1
    rwa [List.nil_append] at hsent
  · rw [feedAll_append, ← feedAll_filter, complete_iff_script hv hsub]
    refine ⟨fun he l hl => ?_, fun hall => ?_⟩
    · rw [← he] at hl
      exact List.mem_of_mem_filter hl
    · have hsubset : j.snapshot.script id ⊆ lines.filter (recognised dg) :=
        fun l hl => List.mem_filter.mpr ⟨hall l hl, recognised_script hl⟩
      exact hsub.eq_of_length_le ((nodup_script _).subperm hsubset).length_le

/-- A journal with a saved block, dumped after a dump that was cut short. -/
theorem dump_accepted_iff_saved :
    let j := ((loadedSys smallConfig).persistNow 0).j
    let other := (HostEventLog.init smallConfig).snapshot.beginLine 3
    let sent := (totemHostEventLogDump (fun _ => 0) 7 bareBoot ⟨0, 0, 0, 0, 0, 0⟩ j.snapshot).1.sent
    (init.feedAll asciiDigits ([other] ++ sent)).complete = true ∧
      (init.feedAll asciiDigits ([other] ++ sent)).dumpId = .some 7 := by
  intro j other sent
  have hother : ∀ l ∈ [other], ∀ b, matchBegin asciiDigits l = .some b → b.id ≠ 7 := by
    intro l hl b hb
    rw [List.mem_singleton.mp hl, matchBegin_beginLine] at hb
    cases hb
    decide
  obtain ⟨-, hsent, haccepted, -⟩ := dump_accepted_iff asciiDigits j 7 (fun _ => 0) bareBoot
    ⟨0, 0, 0, 0, 0, 0⟩ [other] sent hother List.filter_sublist
  refine haccepted.mpr fun l hl => ?_
  have hmem := List.mem_append_right (preamble bareBoot ⟨0, 0, 0, 0, 0, 0⟩) hl
  rwa [← hsent fun _ => rfl] at hmem

end TotemZmk
