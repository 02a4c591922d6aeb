/-
Class A suspicion: `class_a_note_auth_event` on the three-entry array it keeps,
over runs of the callbacks of `exclusive_host.c` and of evictions.

`ExclusiveHost` holds the entries in use as a list; `ClassAFails` is the array,
with an access outside it answered by `.none`, and steps beside it.

* `class_a_exact`: the array holds the newest failures of the last minute, and
  a suspicion is recorded at the third and later, unless the ring holds two
  recent evictions.
* `class_a_suspect_after_switch`: evictions before a profile switch do not
  count.
-/
import TotemZmk.Host.Flap
import TotemZmk.Lib.InPlace

namespace TotemZmk

open Trace (Run)
open Window (Falling latest recent)

/-- `class_a_fail_ts` and `class_a_fail_count`. -/
structure ClassAFails where
  ts : Vector Int ExclusiveHost.classAFailThreshold
  count : Nat

namespace ClassAFails

open ExclusiveHost (classAFailThreshold classAWindowMs)

/-- At power-up. -/
def boot₀ : ClassAFails := ⟨Vector.replicate _ 0, 0⟩

/-- The entries in use. -/
def entries (s : ClassAFails) : List Int := s.ts.toList.take s.count

/-- The part of `class_a_note_auth_event` that keeps the last failures. -/
def keep (now : Int) (s : ClassAFails) : Option ClassAFails := do
  let (ts, kept) ← InPlace.compact (fun t => now - t ≤ classAWindowMs) s.count 0 0 s.ts
  if kept < classAFailThreshold then
    let ts ← InPlace.store kept now ts
    return ⟨ts, kept + 1⟩
  else
    let ts ← InPlace.shiftDown (classAFailThreshold - 1) 1 ts
    let ts ← InPlace.store (classAFailThreshold - 1) now ts
    return ⟨ts, kept⟩

/-- `class_a_note_auth_event`, where `thrash_win_count` answers `win`. -/
def noteAuthEvent (cfg : ExclusiveConfig) (env : HostEnv) (now : Int) (isFail : Bool) (win : Nat)
    (s : ClassAFails) : Option (ClassAFails × List HostAct) :=
  if cfg.thrashDetect = false then .some (s, [])
  else if isFail = false then .some ({ s with count := 0 }, [])
  else do
    let s ← s.keep now
    if classAFailThreshold ≤ s.count ∧ win < 2 then
      return (s, [.record (env.activeRecord totemHevtClassASuspect (UInt8.ofNat s.count)
        (UInt8.ofNat win) 0)])
    else return (s, [])

/-! ## The array and the list -/

/-- The array holds the list. -/
structure Holds (s : ClassAFails) (ts : List Int) : Prop where
  count_le : s.count ≤ classAFailThreshold
  entries : s.entries = ts

variable {s : ClassAFails} {ts : List Int} {now : Int}

theorem Holds.count (h : s.Holds ts) : s.count = ts.length := by
  have hle := h.count_le
  rw [← h.entries]
  simp [ClassAFails.entries, hle]

theorem holds_boot₀ : boot₀.Holds [] := ⟨Nat.zero_le _, rfl⟩

/-- **Compaction, append and shift** stay inside the array, and do to it what
`class_a_note_auth_event` does to the list. -/
theorem Holds.keep (h : s.Holds ts) (now : Int) :
    let kept := ts.filter fun t => now - t ≤ classAWindowMs
    ∃ s', s.keep now = .some s' ∧
      s'.Holds ((if kept.length < classAFailThreshold then kept else kept.tail) ++ [now]) := by
  obtain ⟨cells, hcompact, hkept⟩ := InPlace.compact_eq
    (fun t : Int => decide (now - t ≤ classAWindowMs)) s.ts (Nat.zero_add s.count ▸ h.count_le)
    (Nat.le_refl 0)
  have hfound : (s.ts.toList.drop 0).take s.count = ts := h.entries
  rw [hfound, Nat.zero_add] at hcompact hkept
  simp only [List.take_zero, List.nil_append] at hkept
  have hlength : (ts.filter fun t => now - t ≤ classAWindowMs).length ≤ classAFailThreshold :=
    Nat.le_trans (List.length_filter_le _ _) (h.count ▸ h.count_le)
  intro kept
  unfold ClassAFails.keep
  rw [hcompact]
  by_cases hroom : kept.length < classAFailThreshold
  · rw [if_pos hroom]
    refine ⟨⟨cells.set kept.length now hroom, kept.length + 1⟩, ?_, hroom, ?_⟩
    · refine (if_pos hroom).trans ?_
      rw [InPlace.store_eq hroom]
      rfl
    · show (cells.set kept.length now hroom).toList.take (kept.length + 1) = kept ++ [now]
      rw [InPlace.take_set, hkept]
  · have hfull : kept.length = classAFailThreshold := Nat.le_antisymm hlength (Nat.not_lt.mp hroom)
    have hinside : 0 + 1 + (classAFailThreshold - 1) ≤ classAFailThreshold := by decide
    obtain ⟨shifted, hshift, htake⟩ := InPlace.shiftDown_eq cells hinside
    have hlast : classAFailThreshold - 1 < classAFailThreshold := by decide
    rw [if_neg hroom]
    refine ⟨⟨shifted.set _ now hlast, kept.length⟩, ?_, hlength, ?_⟩
    · refine (if_neg hroom).trans ?_
      rw [hshift]
      dsimp only [Option.bind_eq_bind, Option.bind_some]
      rw [InPlace.store_eq hlast]
      rfl
    · show (shifted.set _ now hlast).toList.take kept.length = kept.tail ++ [now]
      have htail : kept.tail = (cells.toList.drop 1).take (classAFailThreshold - 1) := by
        have hcells : cells.toList.take classAFailThreshold = kept :=
          (congrArg (cells.toList.take ·) hfull.symm).trans hkept
        rw [← hcells, ← List.drop_one, List.drop_take]
      rw [htail, hfull]
      refine (InPlace.take_set hlast now shifted).trans ?_
      rw [Nat.zero_add] at htake
      rw [htake]
      rfl

/-- **The array makes the list's decisions**, and never leaves its bounds. -/
theorem Holds.noteAuthEvent {profiles : Nat} {host : ExclusiveHost profiles}
    (h : s.Holds host.classAFailTs) (cfg : ExclusiveConfig) (env : HostEnv) (now : Int)
    (isFail : Bool) :
    ∃ s', s.noteAuthEvent cfg env now isFail (host.thrashWinCount cfg now) =
        .some (s', (host.classANoteAuthEvent cfg env now isFail).2) ∧
      s'.Holds (host.classANoteAuthEvent cfg env now isFail).1.classAFailTs := by
  unfold ClassAFails.noteAuthEvent ExclusiveHost.classANoteAuthEvent
  by_cases hdetect : cfg.thrashDetect = false
  · rw [if_pos hdetect, if_pos hdetect]
    exact ⟨s, rfl, h⟩
  rw [if_neg hdetect, if_neg hdetect]
  by_cases hfail : isFail = false
  · rw [if_pos hfail, if_pos hfail]
    exact ⟨_, rfl, Nat.zero_le _, rfl⟩
  rw [if_neg hfail, if_neg hfail]
  obtain ⟨s', hkeep, hholds⟩ := h.keep now
  have hcount : s'.count = (host.classAKeep now).classAFailTs.length := hholds.count
  have hwin : (host.classAKeep now).thrashWinCount cfg now = host.thrashWinCount cfg now := rfl
  refine ⟨s', ?_, ?_⟩
  · dsimp only
    rw [hkeep, hwin, ← hcount]
    simp only [Option.bind_eq_bind, Option.bind_some]
    split <;> rfl
  · dsimp only
    split <;> exact hholds

end ClassAFails

namespace ExclusiveHost

variable {profiles : Nat} {cfg : ExclusiveConfig} {env : HostEnv} {now : Int}
  {s : ExclusiveHost profiles} {cause : Cause}

/-- The authentication event a connection callback notes, if it notes one: of
the active profile, whether it failed. -/
def authEvent (env : HostEnv) : Cause → Option Bool
  | .securityChanged idx level err =>
    if idx = env.activeProfileIndex then
      if err ≠ 0 then .some true
      else if btSecurityL2 ≤ level then .some false
      else .none
    else .none
  | .disconnected conn reason =>
    if conn.profileIndex = env.activeProfileIndex ∧ reason = btHciErrAuthFail then .some true
    else .none
  | .connected _ _ | .identityResolved _ | .profileChanged | .evictWork | .retryWork
  | .fallbackWork => .none

theorem handle_unnoted (hc : connCallback cause = true) (hn : authEvent env cause = .none) :
    (s.handle cfg env now cause).1.classAFailTs = s.classAFailTs := by
  cases cause with
  | connected idx err =>
    show (s.connected cfg env now idx err).1.classAFailTs = _
    unfold ExclusiveHost.connected
    dsimp only
    split <;> rfl
  | securityChanged idx level err =>
    show (s.securityChanged cfg env now idx level err).1.classAFailTs = _
    dsimp only [authEvent] at hn
    unfold ExclusiveHost.securityChanged
    by_cases hidx : idx = env.activeProfileIndex
    · rw [if_pos hidx] at hn
      by_cases herr : err ≠ 0
      · rw [if_pos herr] at hn
        cases hn
      · rw [if_neg herr] at hn
        by_cases hlevel : btSecurityL2 ≤ level
        · rw [if_pos hlevel] at hn
          cases hn
        · dsimp only
          rw [if_pos hidx, if_neg herr, if_neg hlevel]
          rfl
    · dsimp only
      rw [if_neg hidx]
      rfl
  | disconnected conn reason =>
    show (s.disconnected cfg env now conn reason).1.classAFailTs = _
    dsimp only [authEvent] at hn
    unfold ExclusiveHost.disconnected
    by_cases hfail : conn.profileIndex = env.activeProfileIndex ∧ reason = btHciErrAuthFail
    · rw [if_pos hfail] at hn
      cases hn
    · rw [if_neg hfail]
  | identityResolved idx => rfl
  | profileChanged => cases hc
  | evictWork => cases hc
  | retryWork => cases hc
  | fallbackWork => cases hc

theorem handle_noted (cfg : ExclusiveConfig) (now : Int) (s : ExclusiveHost profiles) {isFail : Bool}
    (hn : authEvent env cause = .some isFail) :
    (s.handle cfg env now cause).1.classAFailTs =
        (s.classANoteAuthEvent cfg env now isFail).1.classAFailTs ∧
      ∃ shown, (s.handle cfg env now cause).2 =
          .record shown :: (s.classANoteAuthEvent cfg env now isFail).2 ∧
        shown.type ≠ totemHevtClassASuspect := by
  cases cause with
  | securityChanged idx level err =>
    show (s.securityChanged cfg env now idx level err).1.classAFailTs = _ ∧
      ∃ shown, (s.securityChanged cfg env now idx level err).2 = _ ∧ _
    dsimp only [authEvent] at hn
    unfold ExclusiveHost.securityChanged
    by_cases hidx : idx = env.activeProfileIndex
    · rw [if_pos hidx] at hn ⊢
      by_cases herr : err ≠ 0
      · rw [if_pos herr] at hn
        cases hn
        rw [if_pos herr, if_pos herr]
        exact ⟨rfl, _, rfl, (by decide : totemHevtSecFail ≠ totemHevtClassASuspect)⟩
      · rw [if_neg herr] at hn
        by_cases hlevel : btSecurityL2 ≤ level
        · rw [if_pos hlevel] at hn
          cases hn
          rw [if_neg herr, if_neg herr, if_pos hlevel]
          exact ⟨rfl, _, rfl, (by decide : totemHevtSecOk ≠ totemHevtClassASuspect)⟩
        · rw [if_neg hlevel] at hn
          cases hn
    · rw [if_neg hidx] at hn
      cases hn
  | disconnected conn reason =>
    show (s.disconnected cfg env now conn reason).1.classAFailTs = _ ∧
      ∃ shown, (s.disconnected cfg env now conn reason).2 = _ ∧ _
    dsimp only [authEvent] at hn
    unfold ExclusiveHost.disconnected
    by_cases hfail : conn.profileIndex = env.activeProfileIndex ∧ reason = btHciErrAuthFail
    · rw [if_pos hfail] at hn ⊢
      cases hn
      exact ⟨rfl, _, rfl, (by decide : totemHevtDisc ≠ totemHevtClassASuspect)⟩
    · rw [if_neg hfail] at hn
      cases hn
  | connected idx err => cases hn
  | identityResolved idx => cases hn
  | profileChanged => cases hn
  | evictWork => cases hn
  | retryWork => cases hn
  | fallbackWork => cases hn

theorem dropNote_fails (hd : cfg.thrashDetect = true) (idx : Int) (active : Nat) :
    (s.dropNote cfg env now idx active).1.classAFailTs = s.classAFailTs := by
  rw [dropNote_host hd]
  show (s.bgNoteEvict cfg now idx).classAFailTs = s.classAFailTs
  unfold bgNoteEvict
  split <;> rfl

/-- A profile-changed event forgets the failures on a switch. -/
theorem profileChanged_fails (hd : cfg.thrashDetect = true) (env : HostEnv) (now : Int)
    (s : ExclusiveHost profiles) : (s.profileChanged cfg env now).1.classAFailTs =
      if s.switched env then [] else s.classAFailTs := by
  unfold ExclusiveHost.profileChanged
  by_cases hs : s.switched env = true
  · dsimp only
    rw [if_pos hs, if_pos hs]
    unfold classANoteAuthEvent
    rw [hd, if_neg (by decide), if_pos rfl]
    rfl
  · dsimp only
    rw [if_neg hs, if_neg hs]
    rfl

end ExclusiveHost

/-! ## Runs -/

/-- The module, with the array beside it, the uptime, and as in `Flap` the profile
whose host a scan is disconnecting. -/
structure ClassA (profiles : Nat) where
  host : ExclusiveHost profiles
  fails : Option ClassAFails
  now : Int
  dropping : Option (Int × Nat)

namespace ClassA

open ExclusiveHost (SameGuards connCallback authEvent thrashWindowMs classAWindowMs
  classAFailThreshold)

variable {profiles : Nat}

inductive Obs where
  /-- A failure: the array and the calls `class_a_note_auth_event` came to, and
  all the calls of its handler. -/
  | failed (time : Int) (noted : Option (ClassAFails × List HostAct)) (acts : List HostAct)
  | succeeded
  | evicted (idx : Int) (time : Int)
  | profileChanged (active : Nat)

/-- At power-up, the uptime being `now`. -/
def boot₀ (profiles : Nat) (now : Int) : ClassA profiles :=
  ⟨.boot₀ profiles, .some .boot₀, now, .none⟩

/-- `class_a_note_auth_event` on the array. -/
def noted (cfg : ExclusiveConfig) (env : HostEnv) (isFail : Bool) (s : ClassA profiles) :
    Option (ClassAFails × List HostAct) :=
  s.fails.bind fun fails =>
    fails.noteAuthEvent cfg env s.now isFail (s.host.thrashWinCount cfg s.now)

/-- One step of any context. -/
inductive Step (cfg : ExclusiveConfig) : ClassA profiles → Option Obs → ClassA profiles → Prop where
  | tick {s} (t : Int) (h : s.now ≤ t) :
    Step cfg s .none { s with now := t, host := s.host.expire t }
  | callback {s} (cause : ExclusiveHost.Cause) (env : HostEnv) (hc : connCallback cause = true)
    (hn : authEvent env cause = .none) :
    Step cfg s .none { s with host := (s.host.handle cfg env s.now cause).1 }
  | fail {s} (cause : ExclusiveHost.Cause) (env : HostEnv) (hc : connCallback cause = true)
    (hn : authEvent env cause = .some true) :
    Step cfg s
      (.some (.failed s.now (s.noted cfg env true) (s.host.handle cfg env s.now cause).2))
      { s with
        host := (s.host.handle cfg env s.now cause).1
        fails := (s.noted cfg env true).map Prod.fst }
  | succeed {s} (cause : ExclusiveHost.Cause) (env : HostEnv) (hc : connCallback cause = true)
    (hn : authEvent env cause = .some false) :
    Step cfg s (.some .succeeded)
      { s with
        host := (s.host.handle cfg env s.now cause).1
        fails := (s.noted cfg env false).map Prod.fst }
  | profileChanged {s} (env : HostEnv) :
    Step cfg s (.some (.profileChanged env.activeProfileIndex))
      { s with
        host := (s.host.profileChanged cfg env s.now).1
        fails := if s.host.switched env then (s.noted cfg env false).map Prod.fst else s.fails }
  /-- A scan visits a connection, and may begin to disconnect it. -/
  | visit {s} (env : HostEnv) (conn : HostConn) (hidx : conn.profileIndex < profiles)
    (hd : s.dropping = .none) :
    Step cfg s .none
      { s with
        host := (s.host.dropCheck cfg env s.now false conn).1
        dropping := if (s.host.dropCheck cfg env s.now false conn).2.2 then
          .some (conn.profileIndex, env.activeProfileIndex) else .none }
  | keep {s} {idx : Int} {active : Nat} (hd : s.dropping = .some (idx, active)) :
    Step cfg s .none { s with dropping := .none }
  | evict {s} (env : HostEnv) {idx : Int} {active : Nat} (hd : s.dropping = .some (idx, active)) :
    Step cfg s (.some (.evicted idx s.now))
      { s with host := (s.host.dropNote cfg env s.now idx active).1, dropping := .none }

/-! ## The history -/

/-- What `Flap` would observe. -/
def Obs.guard : Obs → Option Flap.Obs
  | .evicted idx time => .some (.evicted idx time)
  | .profileChanged active => .some (.profileChanged active)
  | .failed _ _ _ | .succeeded => .none

/-- The evictions since the last switch, newest first. -/
def evictions (h : List Obs) : List Int := Flap.times (h.filterMap Obs.guard)

/-- A profile-changed event after `h` that finds another profile than the last. -/
def isSwitch (active : Nat) (h : List Obs) : Bool := Flap.isSwitch active (h.filterMap Obs.guard)

/-- The failures since the last success or switch, newest first. -/
def failures : List Obs → List Int
  | [] => []
  | .failed time _ _ :: h => time :: failures h
  | .succeeded :: _ => []
  | .evicted _ _ :: h => failures h
  | .profileChanged active :: h => if isSwitch active h then [] else failures h

/-! ## What a step keeps -/

/-- What the list holds after the failures `ts`. -/
def kept : List Int → List Int
  | [] => []
  | t :: ts => latest classAWindowMs t classAFailThreshold (t :: ts)

/-- The failures still recent are the newest recent ones. -/
theorem filter_kept {ts : List Int} {now : Int} (hf : Falling ts) (hpast : ∀ t ∈ ts, t ≤ now) :
    ((kept ts).filter fun t => now - t ≤ classAWindowMs) =
      latest classAWindowMs now classAFailThreshold ts := by
  cases ts with
  | nil => rfl
  | cons t ts => exact Window.filter_latest hf (hpast t List.mem_cons_self) _

/-- **One more failure**, as `classAKeep` keeps it. -/
theorem classAKeep_kept {ts : List Int} {now : Int} (hf : Falling ts) (hpast : ∀ t ∈ ts, t ≤ now)
    {host : ExclusiveHost profiles} (hkept : host.classAFailTs = kept ts) :
    (host.classAKeep now).classAFailTs = kept (now :: ts) := by
  have hthreshold : classAFailThreshold = 2 + 1 := rfl
  unfold ExclusiveHost.classAKeep kept
  dsimp only
  rw [hkept, filter_kept hf hpast, hthreshold, Window.latest_cons_now (by decide)]
  exact congrArg (· ++ [now]) (Window.latest_tail 2)

/-- The ring holds the last evictions, and the list the last failures; the
array holds the list. -/
structure Inv (h : List Obs) (s : ClassA profiles) : Prop where
  lastActiveProfile : s.host.lastActiveProfile =
    (Flap.lastProfile (h.filterMap Obs.guard)).elim (-1) fun p => (p : Int)
  evictionsPast : ∀ t ∈ evictions h, t ≤ s.now
  evictionsFall : Falling (evictions h)
  ring : s.host.thrashRing.toList = (evictions h).reverse.rtake thrashRingSize
  failuresPast : ∀ t ∈ failures h, t ≤ s.now
  failuresFall : Falling (failures h)
  kept : s.host.classAFailTs = kept (failures h)
  holds : ∃ fails, s.fails = .some fails ∧ fails.Holds s.host.classAFailTs

variable {cfg : ExclusiveConfig} {env : HostEnv} {h : List Obs} {s s' : ClassA profiles}
  {o : Option Obs}

theorem inv_of_none (hlast : s.host.lastActiveProfile =
      (Flap.lastProfile (h.filterMap Obs.guard)).elim (-1) fun p => (p : Int))
    (hevictions : evictions h = []) (hring : s.host.thrashRing.toList = [])
    (hfailures : failures h = []) (hts : s.host.classAFailTs = [])
    (hholds : ∃ fails, s.fails = .some fails ∧ fails.Holds []) : Inv h s where
  lastActiveProfile := hlast
  evictionsPast := by simp [hevictions]
  evictionsFall := by simp [hevictions, Falling]
  ring := by
    rw [hevictions, hring]
    rfl
  failuresPast := by simp [hfailures]
  failuresFall := by simp [hfailures, Falling]
  kept := by
    rw [hfailures, hts]
    rfl
  holds := by
    rw [hts]
    exact hholds

theorem inv_boot₀ (now : Int) : Inv [] (boot₀ profiles now) :=
  inv_of_none rfl rfl rfl rfl rfl ⟨_, rfl, ClassAFails.holds_boot₀⟩

/-- What the array and the list come to on an authentication event. -/
theorem Inv.noted (hi : Inv h s) (cfg : ExclusiveConfig) (env : HostEnv) (isFail : Bool) :
    ∃ fails, s.noted cfg env isFail =
        .some (fails, (s.host.classANoteAuthEvent cfg env s.now isFail).2) ∧
      fails.Holds (s.host.classANoteAuthEvent cfg env s.now isFail).1.classAFailTs := by
  obtain ⟨fails, hfails, hholds⟩ := hi.holds
  obtain ⟨fails', hnote, hholds'⟩ := hholds.noteAuthEvent cfg env s.now isFail
  refine ⟨fails', ?_, hholds'⟩
  unfold ClassA.noted
  rw [hfails]
  exact hnote

theorem Inv.same {host : ExclusiveHost profiles} (hi : Inv h s) (hg : SameGuards s.host host)
    (hts : host.classAFailTs = s.host.classAFailTs) : Inv h { s with host := host } :=
  { hi with
    lastActiveProfile := hg.lastActiveProfile.trans hi.lastActiveProfile
    ring := hg.thrashRing ▸ hi.ring
    kept := hts.trans hi.kept
    holds := hts ▸ hi.holds }

theorem Inv.tick {t : Int} (hi : Inv h s) (ht : s.now ≤ t) :
    Inv h { s with now := t, host := s.host.expire t } :=
  { hi with
    evictionsPast := fun u hu => Int.le_trans (hi.evictionsPast u hu) ht
    failuresPast := fun u hu => Int.le_trans (hi.failuresPast u hu) ht }

theorem classANoteAuthEvent_fail (hd : cfg.thrashDetect = true) (host : ExclusiveHost profiles)
    (now : Int) : (host.classANoteAuthEvent cfg env now true).1.classAFailTs =
      (host.classAKeep now).classAFailTs := by
  unfold ExclusiveHost.classANoteAuthEvent
  rw [hd, if_neg (by decide), if_neg (by decide)]
  dsimp only
  split <;> rfl

theorem classANoteAuthEvent_ok (hd : cfg.thrashDetect = true) (host : ExclusiveHost profiles)
    (now : Int) : (host.classANoteAuthEvent cfg env now false).1.classAFailTs = [] := by
  unfold ExclusiveHost.classANoteAuthEvent
  rw [hd, if_neg (by decide), if_pos rfl]

theorem Inv.handled (hi : Inv h s) (cfg : ExclusiveConfig) {cause : ExclusiveHost.Cause}
    {isFail : Bool} (hn : authEvent env cause = .some isFail) :
    ∃ fails, (s.noted cfg env isFail).map Prod.fst = .some fails ∧
      fails.Holds (s.host.handle cfg env s.now cause).1.classAFailTs := by
  obtain ⟨fails, hnoted, hholds⟩ := hi.noted cfg env isFail
  refine ⟨fails, ?_, ?_⟩
  · rw [hnoted]
    rfl
  · rw [(ExclusiveHost.handle_noted cfg s.now s.host hn).1]
    exact hholds

theorem Inv.fail (hd : cfg.thrashDetect = true) (hi : Inv h s) {cause : ExclusiveHost.Cause}
    (hc : connCallback cause = true) (hn : authEvent env cause = .some true)
    (acts : List HostAct) :
    Inv (.failed s.now (s.noted cfg env true) acts :: h)
      { s with
        host := (s.host.handle cfg env s.now cause).1
        fails := (s.noted cfg env true).map Prod.fst } := by
  have hg := ExclusiveHost.handle_connCallback cfg env s.now s.host hc
  have hts := (ExclusiveHost.handle_noted cfg s.now s.host hn).1
  refine ⟨hg.lastActiveProfile.trans hi.lastActiveProfile, hi.evictionsPast, hi.evictionsFall,
    hg.thrashRing ▸ hi.ring, ?_, ?_, ?_, hi.handled cfg hn⟩
  · intro t ht
    rcases List.mem_cons.mp ht with rfl | ht
    · exact Int.le_refl _
    · exact hi.failuresPast t ht
  · exact List.pairwise_cons.mpr ⟨hi.failuresPast, hi.failuresFall⟩
  · dsimp only
    rw [hts, classANoteAuthEvent_fail hd]
    exact classAKeep_kept hi.failuresFall hi.failuresPast hi.kept

theorem Inv.succeed (hd : cfg.thrashDetect = true) (hi : Inv h s) {cause : ExclusiveHost.Cause}
    (hc : connCallback cause = true) (hn : authEvent env cause = .some false) :
    Inv (.succeeded :: h)
      { s with
        host := (s.host.handle cfg env s.now cause).1
        fails := (s.noted cfg env false).map Prod.fst } := by
  have hg := ExclusiveHost.handle_connCallback cfg env s.now s.host hc
  have hts := (ExclusiveHost.handle_noted cfg s.now s.host hn).1
  refine ⟨hg.lastActiveProfile.trans hi.lastActiveProfile, hi.evictionsPast, hi.evictionsFall,
    hg.thrashRing ▸ hi.ring, fun _ ht => absurd ht List.not_mem_nil, .nil, ?_, hi.handled cfg hn⟩
  exact hts.trans (classANoteAuthEvent_ok hd s.host s.now)

theorem evictions_profileChanged (active : Nat) (h : List Obs) :
    evictions (.profileChanged active :: h) = if isSwitch active h then [] else evictions h := by
  show (if Flap.isSwitch _ _ then [] else Flap.sinceSwitch _).map Prod.snd = _
  unfold isSwitch
  split <;> rfl

theorem Inv.switch (hd : cfg.thrashDetect = true) (hi : Inv h s) {env : HostEnv}
    (hsw : isSwitch env.activeProfileIndex h = true) (hs : s.host.switched env = true) :
    Inv (.profileChanged env.activeProfileIndex :: h)
      { s with
        host := (s.host.profileChanged cfg env s.now).1
        fails := (s.noted cfg env false).map Prod.fst } := by
  have hguards := ExclusiveHost.profileChanged_guards cfg env s.now s.host
  rw [if_pos hs, ExclusiveHost.thrashClear, if_pos hd] at hguards
  obtain ⟨fails, hnoted, hholds⟩ := hi.noted cfg env false
  rw [classANoteAuthEvent_ok hd] at hholds
  refine inv_of_none hguards.lastActiveProfile ?_ ?_ ?_ ?_ ⟨fails, ?_, hholds⟩
  · rw [evictions_profileChanged, if_pos hsw]
  · dsimp only
    rw [hguards.thrashRing]
    rfl
  · rw [failures, if_pos hsw]
  · exact (ExclusiveHost.profileChanged_fails hd env s.now s.host).trans (if_pos hs)
  · rw [hnoted]
    rfl

/-- An event that finds the same profile, or the first, forgets nothing. -/
theorem Inv.stay (hd : cfg.thrashDetect = true) (hi : Inv h s) {env : HostEnv}
    (hsw : isSwitch env.activeProfileIndex h = false) (hs : s.host.switched env = false) :
    Inv (.profileChanged env.activeProfileIndex :: h)
      { s with host := (s.host.profileChanged cfg env s.now).1 } := by
  have hno : ¬isSwitch env.activeProfileIndex h = true := by simp [hsw]
  have hstays : ¬s.host.switched env = true := by simp [hs]
  have hguards := ExclusiveHost.profileChanged_guards cfg env s.now s.host
  rw [if_neg hstays] at hguards
  have hts := (ExclusiveHost.profileChanged_fails hd env s.now s.host).trans (if_neg hstays)
  have hevictions := (evictions_profileChanged env.activeProfileIndex h).trans (if_neg hno)
  have hfailures : failures (.profileChanged env.activeProfileIndex :: h) = failures h := by
    rw [failures, if_neg hno]
  refine ⟨hguards.lastActiveProfile, ?_, ?_, ?_, ?_, ?_, ?_, ?_⟩
  · rw [hevictions]
    exact hi.evictionsPast
  · rw [hevictions]
    exact hi.evictionsFall
  · rw [hevictions, hguards.thrashRing]
    exact hi.ring
  · rw [hfailures]
    exact hi.failuresPast
  · rw [hfailures]
    exact hi.failuresFall
  · rw [hfailures]
    exact hts.trans hi.kept
  · rw [hts]
    exact hi.holds

theorem Inv.profileChanged (hd : cfg.thrashDetect = true) (hi : Inv h s) (env : HostEnv) :
    Inv (.profileChanged env.activeProfileIndex :: h)
      { s with
        host := (s.host.profileChanged cfg env s.now).1
        fails := if s.host.switched env then (s.noted cfg env false).map Prod.fst
          else s.fails } := by
  have hswitch : s.host.switched env = isSwitch env.activeProfileIndex h :=
    Flap.switched_eq hi.lastActiveProfile env
  cases hs : s.host.switched env with
  | true => exact hi.switch hd (hswitch.symm.trans hs) hs
  | false => exact hi.stay hd (hswitch.symm.trans hs) hs

/-- Whom a scan is disconnecting does not matter until it is done. -/
theorem Inv.dropping (hi : Inv h s) (dropping : Option (Int × Nat)) :
    Inv h { s with dropping := dropping } := { hi with }

theorem Inv.visit (hi : Inv h s) (env : HostEnv) (conn : HostConn) :
    Inv h { s with host := (s.host.dropCheck cfg env s.now false conn).1 } := by
  rcases ExclusiveHost.dropCheck_cases cfg env s.now false conn s.host with
    ⟨-, he⟩ | ⟨host, acts, hg, hts, -, he⟩
  · rw [he]
    exact hi
  · rw [he]
    exact hi.same hg hts

theorem Inv.evict (hd : cfg.thrashDetect = true) (hi : Inv h s) (env : HostEnv) (idx : Int)
    (active : Nat) :
    Inv (.evicted idx s.now :: h)
      { s with host := (s.host.dropNote cfg env s.now idx active).1 } := by
  have hhost := ExclusiveHost.dropNote_host hd env s.now idx active s.host
  have hts : (s.host.dropNote cfg env s.now idx active).1.classAFailTs = s.host.classAFailTs :=
    ExclusiveHost.dropNote_fails hd idx active
  have hrest := ExclusiveHost.bgNoteEvict_rest cfg s.now idx s.host
  refine ⟨?_, ?_, ?_, ?_, hi.failuresPast, hi.failuresFall, hts.trans hi.kept, hts ▸ hi.holds⟩
  · rw [hhost]
    exact hrest.2.trans hi.lastActiveProfile
  · intro t ht
    rcases List.mem_cons.mp ht with rfl | ht
    · exact Int.le_refl _
    · exact hi.evictionsPast t ht
  · exact List.pairwise_cons.mpr ⟨hi.evictionsPast, hi.evictionsFall⟩
  · rw [hhost]
    show (s.host.thrashRing.push s.now).toList = (s.now :: evictions h).reverse.rtake _
    rw [List.reverse_cons]
    exact s.host.thrashRing.toList_push_history hi.ring s.now

theorem Inv.step (hd : cfg.thrashDetect = true) (hi : Inv h s) (hs : Step cfg s o s') :
    Inv (o.toList ++ h) s' := by
  cases hs with
  | tick t ht => exact hi.tick ht
  | callback cause env hc hn =>
    exact hi.same (ExclusiveHost.handle_connCallback cfg env s.now s.host hc)
      (ExclusiveHost.handle_unnoted hc hn)
  | fail cause env hc hn => exact hi.fail hd hc hn _
  | succeed cause env hc hn => exact hi.succeed hd hc hn
  | profileChanged env => exact hi.profileChanged hd env
  | visit env conn => exact (hi.visit env conn).dropping _
  | keep => exact hi.dropping .none
  | @evict env idx active => exact (hi.evict hd env idx active).dropping .none

/-- The records of suspicion among a handler's calls. -/
def Suspects (acts : List HostAct) : Prop :=
  ∃ r, .record r ∈ acts ∧ r.type = totemHevtClassASuspect

/-- When `class_a_note_auth_event` records one. -/
theorem suspects_classA (hd : cfg.thrashDetect = true) (env : HostEnv) (now : Int)
    (host : ExclusiveHost profiles) :
    Suspects (host.classANoteAuthEvent cfg env now true).2 ↔
      classAFailThreshold ≤ (host.classAKeep now).classAFailTs.length ∧
        host.thrashWinCount cfg now < 2 := by
  have hwin : (host.classAKeep now).thrashWinCount cfg now = host.thrashWinCount cfg now := rfl
  unfold ExclusiveHost.classANoteAuthEvent
  rw [hd, if_neg (by decide), if_neg (by decide)]
  dsimp only
  rw [hwin]
  split
  · rename_i hsuspect
    exact ⟨fun _ => hsuspect, fun _ => ⟨_, List.mem_singleton.mpr rfl, rfl⟩⟩
  · rename_i hnot
    refine ⟨?_, fun h => absurd h hnot⟩
    intro hx
    obtain ⟨r, hmem, -⟩ := hx
    cases hmem

/-- **What a failure comes to**, in terms of the history. -/
theorem Inv.failure (hd : cfg.thrashDetect = true) (hi : Inv h s) {cause : ExclusiveHost.Cause}
    (hn : authEvent env cause = .some true) :
    let inWindow := (s.now :: failures h).filter fun t => s.now - t ≤ classAWindowMs
    ∃ fails suspects, s.noted cfg env true = .some (fails, suspects) ∧
      fails.count = min classAFailThreshold inWindow.length ∧
      fails.entries = (inWindow.take classAFailThreshold).reverse ∧
      (Suspects (s.host.handle cfg env s.now cause).2 ↔
        classAFailThreshold ≤ inWindow.length ∧
          recent (thrashWindowMs cfg) s.now (evictions h) < 2) := by
  intro inWindow
  obtain ⟨fails, hnoted, hholds⟩ := hi.noted cfg env true
  obtain ⟨-, shown, hacts, hshown⟩ := ExclusiveHost.handle_noted cfg s.now s.host hn
  have hkept : (s.host.classAKeep s.now).classAFailTs =
      (inWindow.take classAFailThreshold).reverse :=
    classAKeep_kept hi.failuresFall hi.failuresPast hi.kept
  have hlength : (s.host.classAKeep s.now).classAFailTs.length =
      min classAFailThreshold inWindow.length := by
    rw [hkept]
    simp
  rw [classANoteAuthEvent_fail hd] at hholds
  refine ⟨fails, _, hnoted, hholds.count.trans hlength, hholds.entries.trans hkept, ?_⟩
  have hshown' : Suspects (s.host.handle cfg env s.now cause).2 ↔
      Suspects (s.host.classANoteAuthEvent cfg env s.now true).2 := by
    rw [hacts]
    simp [Suspects, hshown]
  rw [hshown', suspects_classA hd, hlength,
    ExclusiveHost.thrashWinCount_eq hd hi.ring hi.evictionsFall]
  have hsize : thrashRingSize = 16 := rfl
  omega

end ClassA

/-- **Class A suspicion is an exact sliding window.** In every run, with thrash
detection: no index outside the array is used. After a failure the array holds
the failures since the last success or switch that are at most 60000 ms old,
this one included and up to the three newest, in order; and a suspicion is
recorded with it exactly when there are at least three such failures, and fewer
than two of the evictions since the last switch in the thrash window. -/
theorem class_a_exact {profiles : Nat} (cfg : ExclusiveConfig) (hdetect : cfg.thrashDetect = true)
    {t₀ : Int} {h : List ClassA.Obs} {s : ClassA profiles}
    (hr : Run (ClassA.Step cfg) (.boot₀ profiles t₀) h s) :
    (∃ fails, s.fails = .some fails) ∧
    ∀ later earlier time noted acts, h = later ++ .failed time noted acts :: earlier →
      let inWindow := (time :: ClassA.failures earlier).filter fun t => time - t ≤ 60000
      ∃ fails suspects, noted = .some (fails, suspects) ∧
        fails.count = min 3 inWindow.length ∧
        fails.entries = (inWindow.take 3).reverse ∧
        (ClassA.Suspects acts ↔ 3 ≤ inWindow.length ∧
          ((ClassA.evictions earlier).countP fun t =>
            time - t ≤ ExclusiveHost.thrashWindowMs cfg) < 2) := by
  refine ⟨?_, ?_⟩
  · have hi : ClassA.Inv h s := hr.invariant (ClassA.inv_boot₀ t₀) (ClassA.Inv.step hdetect)
    obtain ⟨fails, hfails, -⟩ := hi.holds
    exact ⟨fails, hfails⟩
  · intro later earlier time noted acts he
    obtain ⟨s₁, s₂, hr₁, hs, -⟩ := hr.split he
    have hi : ClassA.Inv earlier s₁ :=
      hr₁.invariant (ClassA.inv_boot₀ t₀) (ClassA.Inv.step hdetect)
    cases hs with
    | fail cause env hc hn => exact hi.failure hdetect hn

/-- Profile 1 is selected. -/
def switchedAway : HostEnv := { besideActive with activeProfileIndex := 1 }

/-- Three failures at once, and no eviction. -/
theorem class_a_exact_thrice :
    ∃ (h : List ClassA.Obs) (s : ClassA 5), Run (ClassA.Step totemConfig) (.boot₀ 5 1) h s ∧
      ∃ noted acts earlier, h = .failed 1 noted acts :: earlier ∧ ClassA.Suspects acts ∧
        ∃ fails suspects, noted = .some (fails, suspects) ∧ fails.count = 3 ∧
          fails.entries = [1, 1, 1] := by
  have hrun : Run (ClassA.Step totemConfig) (.boot₀ 5 1) _ _ :=
    Run.refl.shows (.fail (.securityChanged 0 2 5) besideActive rfl rfl)
      |>.shows (.fail (.securityChanged 0 2 5) besideActive rfl rfl)
      |>.shows (.fail (.securityChanged 0 2 5) besideActive rfl rfl)
  obtain ⟨fails, suspects, hnoted, hcount, hentries, hsuspects⟩ :=
    (class_a_exact totemConfig rfl hrun).2 [] _ _ _ _ rfl
  exact ⟨_, _, hrun, _, _, _, rfl, hsuspects.mpr (by decide), fails, suspects, hnoted, hcount,
    hentries⟩

/-- All evictions, newest first. -/
def ClassA.allEvictions : List ClassA.Obs → List Int
  | [] => []
  | .evicted _ time :: h => time :: allEvictions h
  | .failed _ _ _ :: h | .succeeded :: h | .profileChanged _ :: h => allEvictions h

/-- The hosts of profiles 1 and 2 are evicted within the thrash window, but before a
switch: the third failure after it is suspicious all the same. -/
theorem class_a_suspect_after_switch :
    ∃ h, ∃ s : ClassA 5, Run (ClassA.Step totemConfig) (.boot₀ 5 1) h s ∧
      ∃ noted acts earlier, h = .failed 1 noted acts :: earlier ∧ ClassA.Suspects acts ∧
        ¬((ClassA.allEvictions earlier).countP fun t =>
          1 - t ≤ ExclusiveHost.thrashWindowMs totemConfig) < 2 := by
  have hrun : Run (ClassA.Step totemConfig) (.boot₀ 5 1) _ _ :=
    Run.refl.shows (.profileChanged besideActive)
      |>.quiet (.visit besideActive backgroundHost (by decide) rfl)
      |>.shows (.evict besideActive (by rfl))
      |>.quiet (.visit besideActive { backgroundHost with profileIndex := 2 } (by decide) rfl)
      |>.shows (.evict besideActive (by rfl))
      |>.shows (.profileChanged switchedAway)
      |>.shows (.fail (.securityChanged 1 2 5) switchedAway rfl rfl)
      |>.shows (.fail (.securityChanged 1 2 5) switchedAway rfl rfl)
      |>.shows (.fail (.securityChanged 1 2 5) switchedAway rfl rfl)
  refine ⟨_, _, hrun, _, _, _, rfl, ⟨switchedAway.activeRecord totemHevtClassASuspect 3 0 0, ?_, rfl⟩, ?_⟩
  · decide
  · decide

end TotemZmk
