/-
The signal line of `totem_studio_extras.c`: one piece for each connection, in a
buffer of `CONFIG_ZMK_STUDIO_LOG_LINE_MAX` characters.

* `rssiOne_holds`: what one connection does to the line.
* `rssi_line_whole`: what the line says, and that nothing is written past its end.
-/
import TotemZmk.Host.Env
import TotemZmk.Lib.CString
import TotemZmk.Lib.Text

namespace TotemZmk

open Text

/-- What `read_conn_rssi` is told. -/
structure RssiReply where
  handleErr : Int
  created : Bool
  sendErr : Int
  rssi : Int8
deriving DecidableEq, Repr

/-- `read_conn_rssi` -/
def readConnRssi (reply : RssiReply) : Int8 :=
  if reply.handleErr ≠ 0 ∨ reply.created = false ∨ reply.sendErr ≠ 0 then 127 else reply.rssi

/-- What `rssi_one` asks of a connection. -/
structure RssiConn where
  infoErr : Int
  connected : Bool
  role : BtConnRole
  profileIndex : Int
  reply : RssiReply
deriving DecidableEq, Repr

/-- `struct rssi_acc` -/
structure RssiAcc (lineMax : Nat) where
  line : CBuffer lineMax
  n : UInt32
  peers : UInt8
  hosts : UInt8
  split : UInt8
deriving DecidableEq, Repr

namespace RssiConn

/-- The keyboard's other half. -/
def isSplit (conn : RssiConn) : Bool := conn.profileIndex < 0 && conn.role = .central

/-- A computer. -/
def isHost (conn : RssiConn) : Bool := 0 ≤ conn.profileIndex

/-- A connection that `rssi_one` looks at. -/
def isUp (conn : RssiConn) : Bool := conn.infoErr = 0 && conn.connected

/-- A signal, 127 being none. -/
def signal (rssi : Int8) : List Char := if rssi = 127 then "--".toList else decInt rssi.toInt

/-- The piece of a connection. -/
def piece (conn : RssiConn) : List Char :=
  let rssi := readConnRssi conn.reply
  if conn.isSplit then " split=".toList ++ signal rssi
  else if conn.isHost then
    " idx".toList ++ decInt conn.profileIndex ++ "=".toList ++ signal rssi
  else " other=".toList ++ decInt rssi.toInt

end RssiConn

namespace RssiAcc

variable {lineMax : Nat}

/-- `struct rssi_acc acc = {0}` -/
def zero (lineMax : Nat) : RssiAcc lineMax := ⟨.zero lineMax, 0, 0, 0, 0⟩

/-- `split` and `hosts` -/
def count (acc : RssiAcc lineMax) (conn : RssiConn) : RssiAcc lineMax :=
  if conn.isSplit then { acc with split := acc.split + 1 }
  else if conn.isHost then { acc with hosts := acc.hosts + 1 }
  else acc

/-- `rssi_one`, of which `.none` is a write past the end of the line. -/
def rssiOne (acc : RssiAcc lineMax) (conn : RssiConn) : Option (RssiAcc lineMax) :=
  if conn.isUp then
    let acc := acc.count conn
    -- `sizeof` and `n` are `size_t`
    if UInt32.ofNat lineMax - 16 ≤ acc.n then .some acc
    else
      (acc.line.format acc.n.toNat (UInt32.ofNat lineMax - acc.n).toNat conn.piece).map fun line =>
        if 0 < conn.piece.length then
          { acc with line, n := acc.n + UInt32.ofNat conn.piece.length, peers := acc.peers + 1 }
        else { acc with line }
  else .some acc

/-- `bt_conn_foreach` -/
def scan (acc : RssiAcc lineMax) : List RssiConn → Option (RssiAcc lineMax)
  | [] => .some acc
  | conn :: conns => (acc.rssiOne conn).bind fun acc => scan acc conns

end RssiAcc

/-- What `heartbeat_work_cb` asks besides. -/
structure HeartbeatEnv where
  streaming : Bool
  uptimeMs : UInt32
  transport : ZmkTransport
  advState : List Char
deriving DecidableEq, Repr

/-- `hid` -/
def HeartbeatEnv.hid (env : HeartbeatEnv) : List Char :=
  match env.transport with
  | .usb => "usb".toList
  | .ble => "ble".toList
  | .none => "none".toList

/-- The first line. -/
def logLine (env : HeartbeatEnv) (hosts split : UInt8) : List Char :=
  "totem_log t=".toList ++ dec (env.uptimeMs / 1000).toNat ++ "s usb=1 hid=".toList ++ env.hid ++
    " adv=".toList ++ env.advState ++ " hosts=".toList ++ dec hosts.toNat ++ " split=".toList ++
    dec split.toNat ++ "\n".toList

/-- The second. -/
def rssiLine (peers : UInt8) (line : List Char) : List Char :=
  if peers = 0 then "totem_ble rssi none\n".toList
  else "totem_ble rssi".toList ++ line ++ "\n".toList

/-- What `heartbeat_work_cb` prints, each time it runs. -/
def heartbeat (lineMax : Nat) (env : HeartbeatEnv) (conns : List RssiConn) :
    Option (List (List Char)) :=
  if env.streaming then
    (RssiAcc.scan (.zero lineMax) conns).map fun acc =>
      [logLine env acc.hosts acc.split, rssiLine acc.peers acc.line.content]
  else .some []

/-! ## The pieces -/

namespace RssiConn

theorem nul_not_mem_decInt (i : Int) : CBuffer.nul ∉ decInt i := by
  have hdec (n : Nat) : CBuffer.nul ∉ dec n := fun h => absurd (isDigit_of_mem_dec h) (by decide)
  have hminus : CBuffer.nul ≠ '-' := by decide
  unfold decInt
  split
  · rw [List.mem_cons, not_or]
    exact ⟨hminus, hdec _⟩
  · exact hdec _

theorem nul_not_mem_signal (rssi : Int8) : CBuffer.nul ∉ signal rssi := by
  unfold signal
  split
  · decide
  · exact nul_not_mem_decInt _

theorem nul_not_mem_piece (conn : RssiConn) : CBuffer.nul ∉ conn.piece := by
  have hsplit : CBuffer.nul ∉ " split=".toList := by decide
  have hidx : CBuffer.nul ∉ " idx".toList := by decide
  have heq : CBuffer.nul ∉ "=".toList := by decide
  have hother : CBuffer.nul ∉ " other=".toList := by decide
  unfold piece
  dsimp only
  split
  · rw [List.mem_append, not_or]
    exact ⟨hsplit, nul_not_mem_signal _⟩
  · split
    · rw [List.mem_append, List.mem_append, List.mem_append, not_or, not_or, not_or]
      exact ⟨⟨⟨hidx, nul_not_mem_decInt _⟩, heq⟩, nul_not_mem_signal _⟩
    · rw [List.mem_append, not_or]
      exact ⟨hother, nul_not_mem_decInt _⟩

theorem length_signal_le (rssi : Int8) : (signal rssi).length ≤ 4 := by
  unfold signal
  split
  · decide
  · exact length_decInt_i8 rssi

theorem length_piece_le (conn : RssiConn) (h : conn.profileIndex < 1000000) : conn.piece.length ≤ 15 := by
  have hsplit : " split=".toList.length = 7 := by decide
  have hidx : " idx".toList.length = 4 := by decide
  have heq : "=".toList.length = 1 := by decide
  have hother : " other=".toList.length = 7 := by decide
  have hsignal := length_signal_le (readConnRssi conn.reply)
  have hrssi := length_decInt_i8 (readConnRssi conn.reply)
  unfold piece
  dsimp only
  split
  · rw [List.length_append, hsplit]
    omega
  · split
    · rename_i hhost
      have hhost : 0 ≤ conn.profileIndex := of_decide_eq_true hhost
      have hdec : (decInt conn.profileIndex).length ≤ 6 := by
        unfold decInt
        rw [if_neg (by omega)]
        exact length_dec_le (by decide) (by omega)
      rw [List.length_append, List.length_append, List.length_append, hidx, heq]
      omega
    · rw [List.length_append, hother]
      omega

theorem length_piece_pos (conn : RssiConn) : 0 < conn.piece.length := by
  have hsplit : " split=".toList.length = 7 := by decide
  have hidx : " idx".toList.length = 4 := by decide
  have hother : " other=".toList.length = 7 := by decide
  unfold piece
  dsimp only
  split
  · rw [List.length_append, hsplit]
    omega
  · split
    · rw [List.length_append, List.length_append, List.length_append, hidx]
      omega
    · rw [List.length_append, hother]
      omega

end RssiConn

/-! ## The line -/

namespace RssiAcc

variable {lineMax : Nat} {acc : RssiAcc lineMax} {shown : List (List Char)}

/-- The line holds the pieces shown, and `n` and `peers` count them. -/
structure Holds (acc : RssiAcc lineMax) (shown : List (List Char)) : Prop where
  line : acc.line.Holds shown.flatten
  n : acc.n.toNat = shown.flatten.length
  peers : acc.peers = UInt8.ofNat shown.length

/-- The line takes no more pieces. -/
def Full (lineMax : Nat) (shown : List (List Char)) : Prop := lineMax ≤ shown.flatten.length + 16

instance (lineMax : Nat) (shown : List (List Char)) : Decidable (Full lineMax shown) :=
  inferInstanceAs (Decidable (_ ≤ _))

theorem holds_zero (h : 0 < lineMax) : (zero lineMax).Holds [] :=
  ⟨CBuffer.holds_zero h, rfl, rfl⟩

theorem toNat_size (hmax : lineMax < 4294967296) : (UInt32.ofNat lineMax).toNat = lineMax := by
  rw [UInt32.toNat_ofNat']
  omega

/-- `acc->n >= sizeof(acc->line) - 16` -/
theorem Holds.full_iff (h : acc.Holds shown) (hsize : 16 ≤ lineMax) (hmax : lineMax < 4294967296) :
    UInt32.ofNat lineMax - 16 ≤ acc.n ↔ Full lineMax shown := by
  have hnat := toNat_size hmax
  have hsub : (UInt32.ofNat lineMax - 16).toNat = lineMax - 16 := by
    rw [UInt32.toNat_sub_of_le _ _ (by rw [UInt32.le_iff_toNat_le, hnat]; exact hsize), hnat]
    rfl
  rw [UInt32.le_iff_toNat_le, hsub, h.n]
  unfold Full
  omega

theorem Holds.count (h : acc.Holds shown) (conn : RssiConn) : (acc.count conn).Holds shown := by
  unfold RssiAcc.count
  split
  · exact ⟨h.line, h.n, h.peers⟩
  · split
    · exact ⟨h.line, h.n, h.peers⟩
    · exact h

/-- **One connection** that is up adds its piece, unless the line is full. -/
theorem rssiOne_holds {conn : RssiConn} (h : acc.Holds shown) (hsize : 16 ≤ lineMax)
    (hmax : lineMax < 4294967296) (hidx : conn.profileIndex < 1000000) :
    ∃ acc', acc.rssiOne conn = .some acc' ∧
      acc'.Holds (if conn.isUp ∧ ¬ Full lineMax shown then shown ++ [conn.piece] else shown) := by
  unfold rssiOne
  cases hup : conn.isUp with
  | false => exact ⟨acc, rfl, by simpa using h⟩
  | true =>
    have hcount := h.count conn
    have hiff := hcount.full_iff hsize hmax
    by_cases hfull : Full lineMax shown
    · refine ⟨acc.count conn, ?_, ?_⟩
      · simp [hiff.mpr hfull]
      · simpa [hfull] using hcount
    · have hroom : ¬ lineMax ≤ shown.flatten.length + 16 := hfull
      have hlen := conn.length_piece_le hidx
      have hn : (acc.count conn).n.toNat = shown.flatten.length := hcount.n
      have hleft : (UInt32.ofNat lineMax - (acc.count conn).n).toNat =
          lineMax - shown.flatten.length := by
        have hnat := toNat_size hmax
        rw [UInt32.toNat_sub_of_le _ _ (by rw [UInt32.le_iff_toNat_le]; omega), hnat, hn]
      obtain ⟨line, hformat, hline⟩ : ∃ line, (acc.count conn).line.format shown.flatten.length
          (lineMax - shown.flatten.length) conn.piece = .some line ∧
          line.Holds (shown.flatten ++ conn.piece) :=
        hcount.line.format conn.nul_not_mem_piece (by omega) (by omega)
      let added : RssiAcc lineMax := { acc.count conn with
        line
        n := (acc.count conn).n + UInt32.ofNat conn.piece.length
        peers := (acc.count conn).peers + 1 }
      refine ⟨added, ?_, ?_⟩
      · rw [if_pos rfl]
        dsimp only
        rw [if_neg fun hle => hfull (hiff.mp hle), hn, hleft, hformat, Option.map_some,
          if_pos conn.length_piece_pos]
      · rw [if_pos ⟨rfl, hfull⟩]
        refine ⟨?_, ?_, ?_⟩
        · rw [List.flatten_append, List.flatten_singleton]
          exact hline
        · have hpiece : (UInt32.ofNat conn.piece.length).toNat = conn.piece.length := by
            rw [UInt32.toNat_ofNat']
            omega
          show ((acc.count conn).n + UInt32.ofNat conn.piece.length).toNat = _
          rw [UInt32.toNat_add, hn, hpiece, List.flatten_append, List.flatten_singleton,
            List.length_append]
          omega
        · show (acc.count conn).peers + 1 = UInt8.ofNat (shown ++ [conn.piece]).length
          rw [hcount.peers, List.length_append, List.length_singleton, UInt8.ofNat_add]
          rfl

/-- The pieces of the connections that are up. -/
def pieces (conns : List RssiConn) : List (List Char) :=
  (conns.filter RssiConn.isUp).map RssiConn.piece

/-- **The whole scan** writes within the line, and adds pieces from the first on, until
the line is full. -/
theorem scan_holds (conns : List RssiConn) (h : acc.Holds shown) (hsize : 16 ≤ lineMax)
    (hmax : lineMax < 4294967296) (hidx : ∀ conn ∈ conns, conn.profileIndex < 1000000) :
    ∃ acc' added, acc.scan conns = .some acc' ∧ acc'.Holds (shown ++ added) ∧
      added <+: pieces conns ∧ (added = pieces conns ∨ Full lineMax (shown ++ added)) ∧
      (Full lineMax shown → added = []) := by
  induction conns generalizing acc shown with
  | nil =>
    refine ⟨acc, [], rfl, ?_, List.prefix_rfl, .inl rfl, fun _ => rfl⟩
    rw [List.append_nil]
    exact h
  | cons conn conns ih =>
    obtain ⟨acc₁, hone, hholds⟩ :=
      rssiOne_holds h hsize hmax (hidx conn List.mem_cons_self)
    obtain ⟨acc', added, hscan, hadded, hprefix, hall, hnone⟩ :=
      ih hholds fun conn' hm => hidx conn' (List.mem_cons_of_mem _ hm)
    have hscan' : acc.scan (conn :: conns) = .some acc' := by
      show (acc.rssiOne conn).bind _ = _
      rw [hone]
      exact hscan
    cases hup : conn.isUp with
    | false =>
      have hpieces : pieces (conn :: conns) = pieces conns := by simp [pieces, hup]
      rw [if_neg (by simp [hup])] at hadded hall hnone
      rw [hpieces]
      exact ⟨acc', added, hscan', hadded, hprefix, hall, hnone⟩
    | true =>
      have hpieces : pieces (conn :: conns) = conn.piece :: pieces conns := by simp [pieces, hup]
      by_cases hfull : Full lineMax shown
      · rw [if_neg fun hboth => hboth.2 hfull] at hadded hnone
        have hnil := hnone hfull
        subst hnil
        refine ⟨acc', [], hscan', hadded, List.nil_prefix, .inr ?_, fun _ => rfl⟩
        rw [List.append_nil]
        exact hfull
      · rw [if_pos ⟨hup, hfull⟩, List.append_assoc, List.singleton_append] at hadded hall
        refine ⟨acc', conn.piece :: added, hscan', hadded, ?_, ?_, fun hfull' => absurd hfull' hfull⟩
        · rw [hpieces, List.cons_prefix_cons]
          exact ⟨rfl, hprefix⟩
        · rw [hpieces, List.cons.injEq]
          exact hall.imp_left fun hrest => ⟨rfl, hrest⟩

/-- `hosts` and `split` count a connection that is up, shown or not. -/
theorem rssiOne_counts {conn : RssiConn} {acc' : RssiAcc lineMax}
    (h : acc.rssiOne conn = .some acc') :
    acc'.hosts = acc.hosts + UInt8.ofNat (conn.isUp && conn.isHost).toNat ∧
    acc'.split = acc.split + UInt8.ofNat (conn.isUp && conn.isSplit).toNat := by
  have hcount : acc'.hosts = (if conn.isUp then acc.count conn else acc).hosts ∧
      acc'.split = (if conn.isUp then acc.count conn else acc).split := by
    unfold rssiOne at h
    cases hup : conn.isUp with
    | false =>
      rw [hup] at h
      cases h
      exact ⟨rfl, rfl⟩
    | true =>
      rw [hup, if_pos rfl] at h
      dsimp only at h
      split at h
      · cases h
        exact ⟨rfl, rfl⟩
      · obtain ⟨line, -, hline⟩ := Option.map_eq_some_iff.mp h
        rw [← hline]
        split <;> exact ⟨rfl, rfl⟩
  have hapart : conn.isSplit = true → conn.isHost = false := by
    unfold RssiConn.isSplit RssiConn.isHost
    intro hsplit
    simp at hsplit ⊢
    omega
  rw [hcount.1, hcount.2]
  cases hup : conn.isUp with
  | false => simp
  | true =>
    unfold RssiAcc.count
    cases hsplit : conn.isSplit with
    | true => simp [hapart hsplit]
    | false => cases hhost : conn.isHost <;> simp

theorem scan_counts {conns : List RssiConn} {acc' : RssiAcc lineMax}
    (h : acc.scan conns = .some acc') :
    acc'.hosts = acc.hosts + UInt8.ofNat (conns.countP fun conn => conn.isUp && conn.isHost) ∧
    acc'.split = acc.split + UInt8.ofNat (conns.countP fun conn => conn.isUp && conn.isSplit) := by
  induction conns generalizing acc with
  | nil =>
    cases h
    simp
  | cons conn conns ih =>
    obtain ⟨acc₁, hone, hscan⟩ := Option.bind_eq_some_iff.mp h
    obtain ⟨hhosts, hsplit⟩ := rssiOne_counts hone
    obtain ⟨ihhosts, ihsplit⟩ := ih hscan
    have hadd (p : RssiConn → Bool) (a : UInt8) :
        a + UInt8.ofNat (p conn).toNat + UInt8.ofNat (conns.countP p) =
          a + UInt8.ofNat ((conn :: conns).countP p) := by
      rw [UInt8.add_assoc, ← UInt8.ofNat_add, List.countP_cons, Nat.add_comm (conns.countP p)]
      cases p conn <;> rfl
    rw [ihhosts, ihsplit, hhosts, hsplit]
    exact ⟨hadd (fun conn => conn.isUp && conn.isHost) _, hadd (fun conn => conn.isUp && conn.isSplit) _⟩

end RssiAcc

/-- **The signal line is made of whole pieces.** Whatever connections there are, with
profile indices of at most six digits and a line of more than 16 characters:
nothing is written past the end of the line. The heartbeat counts every computer
and every link to the other half that is up, and its second line has the pieces of
the connections that are up, from the first on, each in full: all of them, or as
many as leave less than 16 characters. It says that there is none exactly when none
is up. -/
theorem rssi_line_whole (lineMax : Nat) (env : HeartbeatEnv) (conns : List RssiConn)
    (hsize : 16 < lineMax) (hmax : lineMax < 4294967296)
    (hidx : ∀ conn ∈ conns, conn.profileIndex < 1000000) (hfew : conns.length < 256)
    (hon : env.streaming = true) :
    ∃ shown, heartbeat lineMax env conns = .some
        [logLine env (UInt8.ofNat (conns.countP fun conn => conn.isUp && conn.isHost))
          (UInt8.ofNat (conns.countP fun conn => conn.isUp && conn.isSplit)),
        if RssiAcc.pieces conns = [] then "totem_ble rssi none\n".toList
        else "totem_ble rssi".toList ++ shown.flatten ++ "\n".toList] ∧
      shown.flatten.length < lineMax ∧ shown <+: RssiAcc.pieces conns ∧
      (shown = RssiAcc.pieces conns ∨ lineMax ≤ shown.flatten.length + 16) := by
  obtain ⟨acc, shown, hscan, hholds, hprefix, hall, -⟩ :=
    RssiAcc.scan_holds conns (RssiAcc.holds_zero (by omega)) (by omega) hmax hidx
  rw [List.nil_append] at hholds hall
  obtain ⟨hhosts, hsplit⟩ := RssiAcc.scan_counts hscan
  refine ⟨shown, ?_, hholds.line.length_lt, hprefix, hall⟩
  unfold heartbeat
  rw [if_pos hon, hscan, Option.map_some, hhosts, hsplit, hholds.line.content_eq]
  have hfull : shown = [] → RssiAcc.pieces conns = [] := by
    intro hnil
    rw [hnil] at hall
    rcases hall with hall | hfull
    · exact hall.symm
    · exact absurd hfull (Nat.not_le.mpr hsize)
  have hnone : RssiAcc.pieces conns = [] → shown = [] := by
    intro hnil
    rw [hnil] at hprefix
    exact List.prefix_nil.mp hprefix
  have hlen : shown.length < 256 := by
    have hle := hprefix.length_le
    have hfilter := List.length_filter_le RssiConn.isUp conns
    unfold RssiAcc.pieces at hle
    rw [List.length_map] at hle
    omega
  have hpeers : acc.peers = 0 ↔ RssiAcc.pieces conns = [] := by
    rw [hholds.peers, ← UInt8.toNat_inj, UInt8.toNat_ofNat', Nat.mod_eq_of_lt hlen]
    exact List.length_eq_zero_iff.trans ⟨hfull, hnone⟩
  unfold rssiLine
  rw [if_congr hpeers rfl rfl]
  have hzero (n : Nat) : (RssiAcc.zero lineMax).hosts + UInt8.ofNat n = UInt8.ofNat n :=
    UInt8.zero_add _
  have hzero' (n : Nat) : (RssiAcc.zero lineMax).split + UInt8.ofNat n = UInt8.ofNat n :=
    UInt8.zero_add _
  rw [hzero, hzero']

/-- Two computers and the other half, of which one says how strong it is, in a line
that has room for two. -/
theorem rssi_line_whole_full :
    ∃ shown : List (List Char), heartbeat 30 ⟨true, 61000, .ble, "none".toList⟩
        [⟨0, true, .central, -1, ⟨0, true, 0, -40⟩⟩, ⟨0, true, .peripheral, 0, ⟨0, true, 0, 127⟩⟩,
          ⟨0, true, .peripheral, 2, ⟨0, true, 0, -71⟩⟩] =
      .some ["totem_log t=61s usb=1 hid=ble adv=none hosts=2 split=1\n".toList,
        "totem_ble rssi".toList ++ shown.flatten ++ "\n".toList] := by
  obtain ⟨shown, h, -⟩ := rssi_line_whole 30 ⟨true, 61000, .ble, "none".toList⟩
    [⟨0, true, .central, -1, ⟨0, true, 0, -40⟩⟩, ⟨0, true, .peripheral, 0, ⟨0, true, 0, 127⟩⟩,
      ⟨0, true, .peripheral, 2, ⟨0, true, 0, -71⟩⟩] (by decide) (by decide) (by decide) (by decide) rfl
  exact ⟨shown, h⟩

end TotemZmk
