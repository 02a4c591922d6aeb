/-
Background eviction does not flap: over runs of the callbacks of
`exclusive_host.c`, of the visits its scans make, and of `bt_conn_disconnect`
calls that take time and succeed or fail.

A scan runs on the system work queue, so one visit ends before the next begins;
callbacks run meanwhile. A visit of any connection at any time stands for every
scan: `evictEach_run`.

* `bg_eviction_cannot_flap`: between two switches evictions of a profile keep
  their distance, and no window holds more than the cap.
* `thrashWinCount_eq`: what `thrash_win_count` counts.
-/
import TotemZmk.Host.Exclusive
import TotemZmk.Lib.Run
import TotemZmk.Lib.Window

namespace TotemZmk

open Circular (Ring cell)
open Trace (Run)
open Window (Falling Capped recent)

namespace ExclusiveHost

variable {profiles : Nat} {cfg : ExclusiveConfig} {env : HostEnv} {now : Int}
  {s s' : ExclusiveHost profiles}

/-! ## What `thrash_win_count` counts -/

/-- The rounds left count what the scan back has still to visit, up to the
first entry too old. -/
theorem thrashWinLoop_eq (windowMs now : Int) (ring : Ring Int thrashRingSize) (todo i n : Nat)
    (h : i + todo = ring.count) : thrashWinLoop windowMs now ring todo i n =
      n + ((ring.toList.reverse.drop i).takeWhile fun t => now - t ≤ windowMs).length := by
  induction todo generalizing i n with
  | zero =>
    rw [List.drop_eq_nil_of_le (by simp; omega)]
    rfl
  | succ todo ih =>
    rw [thrashWinLoop, ring.drop_reverse (by omega)]
    split
    · rename_i hold
      have hstop := decide_eq_false (Int.not_le.mpr hold)
      rw [List.takeWhile_cons, if_neg (ne_true_of_eq_false hstop)]
      rfl
    · rename_i hrecent
      have hgo := decide_eq_true (Int.not_lt.mp hrecent)
      rw [ih (i + 1) (n + 1) (by omega), List.takeWhile_cons, if_pos hgo, List.length_cons]
      omega

/-- **`thrash_win_count` counts the recent evictions**, as far as the ring
reaches, where the ring holds the last of the times `ts`. -/
theorem thrashWinCount_eq (hd : cfg.thrashDetect = true) {ts : List Int}
    (hring : s.thrashRing.toList = ts.reverse.rtake thrashRingSize) (hf : Falling ts) :
    s.thrashWinCount cfg now = min thrashRingSize (recent (thrashWindowMs cfg) now ts) := by
  have hnewest : s.thrashRing.toList.reverse = ts.take thrashRingSize := by
    rw [hring, List.rtake_eq_reverse_take_reverse, List.reverse_reverse, List.reverse_reverse]
  rw [thrashWinCount, if_pos hd, thrashWinLoop_eq _ _ _ _ _ _ (Nat.zero_add _), List.drop_zero,
    hnewest, Window.length_takeWhile_take hf, Nat.zero_add]

/-! ## The ignore times -/

theorem ignoreUntil_bgNoteEvict (hpos : cfg.bgEvictIgnoreMs ≠ 0) {idx : Int} (hidx : 0 ≤ idx)
    (hlt : idx < profiles) (now : Int) (s : ExclusiveHost profiles) (other : Int) :
    (s.bgNoteEvict cfg now idx).ignoreUntil other =
      if other = idx then .some (now + cfg.bgEvictIgnoreMs) else s.ignoreUntil other := by
  have hnat : idx.toNat < profiles := by omega
  have hnote : ¬(cfg.bgEvictIgnoreMs = 0 ∨ idx < 0) := by omega
  rw [bgNoteEvict, if_neg hnote]
  unfold ignoreUntil
  by_cases hother : other < 0
  · rw [if_pos hother, if_pos hother, if_neg (by omega)]
  rw [if_neg hother, if_neg hother]
  dsimp only
  rw [Vector.getElem?_setIfInBounds]
  by_cases heq : other = idx
  · rw [heq, if_pos rfl, if_pos hnat, if_pos rfl]
  · rw [if_neg (by omega), if_neg heq]

theorem bgNoteEvict_rest (cfg : ExclusiveConfig) (now idx : Int) (s : ExclusiveHost profiles) :
    (s.bgNoteEvict cfg now idx).thrashRing = s.thrashRing ∧
      (s.bgNoteEvict cfg now idx).lastActiveProfile = s.lastActiveProfile := by
  unfold bgNoteEvict
  split <;> exact ⟨rfl, rfl⟩

theorem dropNote_host (hd : cfg.thrashDetect = true) (env : HostEnv) (now idx : Int) (active : Nat)
    (s : ExclusiveHost profiles) : (s.dropNote cfg env now idx active).1 =
      { s.bgNoteEvict cfg now idx with thrashRing := s.thrashRing.push now } := by
  show ((s.bgNoteEvict cfg now idx).thrashNoteBgEvict cfg env now).1 = _
  unfold thrashNoteBgEvict
  rw [if_pos hd, ← (bgNoteEvict_rest cfg now idx s).1]

theorem le_of_not_ignored {idx until_ : Int} (hs : s.bgShouldIgnore now idx = false)
    (hu : s.ignoreUntil idx = .some until_) (hpos : 0 < until_) : until_ ≤ now := by
  rw [bgShouldIgnore, hu] at hs
  dsimp only at hs
  rw [if_neg (by omega)] at hs
  simpa using hs

/-! ## What the handlers do to the guards -/

theorem sameGuards_requestEvict (now : Int) (s : ExclusiveHost profiles) :
    SameGuards s (s.requestEvict now) := ⟨rfl, rfl, rfl⟩

theorem SameGuards.trans {s'' : ExclusiveHost profiles} (h : SameGuards s s')
    (h' : SameGuards s' s'') : SameGuards s s'' where
  bgIgnoreUntil := h'.bgIgnoreUntil.trans h.bgIgnoreUntil
  thrashRing := h'.thrashRing.trans h.thrashRing
  lastActiveProfile := h'.lastActiveProfile.trans h.lastActiveProfile

theorem SameGuards.ignoreUntil (h : SameGuards s s') (idx : Int) :
    s'.ignoreUntil idx = s.ignoreUntil idx := by
  unfold ExclusiveHost.ignoreUntil
  rw [h.bgIgnoreUntil]

/-- The Bluetooth thread's callbacks, profile switches apart. -/
def connCallback : Cause → Bool
  | .connected _ _ | .securityChanged _ _ _ | .disconnected _ _ | .identityResolved _ => true
  | .profileChanged | .evictWork | .retryWork | .fallbackWork => false

theorem handle_connCallback (cfg : ExclusiveConfig) (env : HostEnv) (now : Int)
    (s : ExclusiveHost profiles) {cause : Cause} (hc : connCallback cause = true) :
    SameGuards s (s.handle cfg env now cause).1 := by
  cases cause with
  | connected idx err =>
    show SameGuards s (s.connected cfg env now idx err).1
    unfold ExclusiveHost.connected
    dsimp only
    split
    · exact .refl
    · exact ⟨rfl, rfl, rfl⟩
  | securityChanged idx level err =>
    show SameGuards s (s.securityChanged cfg env now idx level err).1
    unfold ExclusiveHost.securityChanged
    dsimp only
    refine .trans ?_ (sameGuards_requestEvict now _)
    split
    · split
      · exact (classANoteAuthEvent_cases cfg env now true s).1
      · split
        · exact (classANoteAuthEvent_cases cfg env now false s).1
        · exact .refl
    · exact .refl
  | disconnected conn reason =>
    show SameGuards s (s.disconnected cfg env now conn reason).1
    unfold ExclusiveHost.disconnected
    dsimp only
    split
    · exact (classANoteAuthEvent_cases cfg env now true s).1
    · exact .refl
  | identityResolved idx => exact sameGuards_requestEvict now s
  | profileChanged => cases hc
  | evictWork => cases hc
  | retryWork => cases hc
  | fallbackWork => cases hc

/-- The guards after `exclusive_host_profile_changed`: forgotten on a switch,
and kept on an event that finds the same profile. -/
theorem profileChanged_guards (cfg : ExclusiveConfig) (env : HostEnv) (now : Int)
    (s : ExclusiveHost profiles) :
    SameGuards
      (if s.switched env then
        (({ s with lastActiveProfile := (env.activeProfileIndex : Int) } :
          ExclusiveHost profiles).thrashClear cfg).bgClearIgnores
      else { s with lastActiveProfile := (env.activeProfileIndex : Int) })
      (s.profileChanged cfg env now).1 := by
  unfold ExclusiveHost.profileChanged
  dsimp only
  refine .trans ?_ (sameGuards_requestEvict now _)
  split
  · exact (classANoteAuthEvent_cases cfg env now false _).1
  · exact .refl

end ExclusiveHost

/-! ## Runs -/

/-- The module, the uptime, and the profile whose host the scan is
disconnecting, with the active profile it had read. -/
structure Flap (profiles : Nat) where
  host : ExclusiveHost profiles
  now : Int
  dropping : Option (Int × Nat)

namespace Flap

open ExclusiveHost (SameGuards connCallback thrashWindowMs)

inductive Obs where
  /-- A `bt_conn_disconnect` of a host of profile `idx` succeeded. -/
  | evicted (idx : Int) (time : Int)
  | profileChanged (active : Nat)
deriving DecidableEq, Repr

/-- At power-up, the uptime being `now`. -/
def boot₀ (profiles : Nat) (now : Int) : Flap profiles := ⟨.boot₀ profiles, now, .none⟩

/-- One step of any context. `zmk_ble_profile_index` answers a profile, or a
negative error. -/
inductive Step {profiles : Nat} (cfg : ExclusiveConfig) :
    Flap profiles → Option Obs → Flap profiles → Prop where
  | tick {s} (t : Int) (h : s.now ≤ t) :
    Step cfg s .none { s with now := t, host := s.host.expire t }
  | callback {s} (cause : ExclusiveHost.Cause) (env : HostEnv) (hc : connCallback cause = true) :
    Step cfg s .none { s with host := (s.host.handle cfg env s.now cause).1 }
  | profileChanged {s} (env : HostEnv) :
    Step cfg s (.some (.profileChanged env.activeProfileIndex))
      { s with host := (s.host.profileChanged cfg env s.now).1 }
  /-- A scan visits a connection, and may begin to disconnect it. -/
  | visit {s} (env : HostEnv) (conn : HostConn) (hidx : conn.profileIndex < profiles)
    (hd : s.dropping = .none) :
    Step cfg s .none
      { s with
        host := (s.host.dropCheck cfg env s.now false conn).1
        dropping := if (s.host.dropCheck cfg env s.now false conn).2.2 then
          .some (conn.profileIndex, env.activeProfileIndex) else .none }
  | fail {s} {idx : Int} {active : Nat} (hd : s.dropping = .some (idx, active)) :
    Step cfg s .none { s with dropping := .none }
  | succeed {s} (env : HostEnv) {idx : Int} {active : Nat} (hd : s.dropping = .some (idx, active)) :
    Step cfg s (.some (.evicted idx s.now))
      { s with host := (s.host.dropNote cfg env s.now idx active).1, dropping := .none }

/-! ## The history -/

/-- The profile the last profile-changed event found, if there was one. -/
def lastProfile : List Obs → Option Nat
  | [] => .none
  | .profileChanged active :: _ => .some active
  | .evicted _ _ :: h => lastProfile h

/-- A profile-changed event after `h` that finds another profile than the last. -/
def isSwitch (active : Nat) (h : List Obs) : Bool :=
  match lastProfile h with
  | .some before => before ≠ active
  | .none => false

/-- The evictions since the last switch, newest first: the profile and the time. -/
def sinceSwitch : List Obs → List (Int × Int)
  | [] => []
  | .evicted idx time :: h => (idx, time) :: sinceSwitch h
  | .profileChanged active :: h => if isSwitch active h then [] else sinceSwitch h

/-- When they were. -/
def times (h : List Obs) : List Int := (sinceSwitch h).map Prod.snd

/-! ## What a step keeps -/

variable {profiles : Nat} {cfg : ExclusiveConfig} {h : List Obs} {s s' : Flap profiles}
  {o : Option Obs}

/-- The ring holds the last evictions, the ignore times reach past each, and
what is being disconnected has passed both guards. -/
structure Inv (cfg : ExclusiveConfig) (h : List Obs) (s : Flap profiles) : Prop where
  lastActiveProfile : s.host.lastActiveProfile = (lastProfile h).elim (-1) fun p => (p : Int)
  past : ∀ e ∈ sinceSwitch h, 0 < e.2 ∧ e.2 ≤ s.now
  falling : Falling (times h)
  ring : s.host.thrashRing.toList = (times h).reverse.rtake thrashRingSize
  ignored : cfg.bgEvictIgnoreMs ≠ 0 → ∀ e ∈ sinceSwitch h, ∃ until_,
    s.host.ignoreUntil e.1 = .some until_ ∧ e.2 + cfg.bgEvictIgnoreMs ≤ until_
  dropping : ∀ idx active, s.dropping = .some (idx, active) → (0 ≤ idx ∧ idx < profiles) ∧
    (∀ e ∈ sinceSwitch h, e.1 = idx → e.2 + cfg.bgEvictIgnoreMs ≤ s.now) ∧
    recent (thrashWindowMs cfg) s.now (times h) < cfg.bgEvictCap
  apart : (sinceSwitch h).Pairwise fun (later earlier : Int × Int) =>
    later.1 = earlier.1 → earlier.2 + cfg.bgEvictIgnoreMs ≤ later.2
  capped : Capped (thrashWindowMs cfg) cfg.bgEvictCap (times h)
  positive : 0 < s.now

theorem inv_boot₀ {now : Int} (hpos : 0 < now) : Inv cfg [] (boot₀ profiles now) where
  lastActiveProfile := rfl
  past := fun e he => absurd he List.not_mem_nil
  falling := .nil
  ring := rfl
  ignored := fun _ e he => absurd he List.not_mem_nil
  dropping := by rintro idx active ⟨⟩
  apart := .nil
  capped := trivial
  positive := hpos

theorem Inv.same {host : ExclusiveHost profiles} (hi : Inv cfg h s) (hg : SameGuards s.host host) :
    Inv cfg h { s with host := host } where
  lastActiveProfile := hg.lastActiveProfile.trans hi.lastActiveProfile
  past := hi.past
  falling := hi.falling
  ring := by
    show host.thrashRing.toList = _
    rw [hg.thrashRing]
    exact hi.ring
  ignored := fun hpos e he => by
    obtain ⟨until_, hu, hle⟩ := hi.ignored hpos e he
    exact ⟨until_, (hg.ignoreUntil e.1).trans hu, hle⟩
  dropping := hi.dropping
  apart := hi.apart
  capped := hi.capped
  positive := hi.positive

theorem Inv.tick {t : Int} (hi : Inv cfg h s) (ht : s.now ≤ t) :
    Inv cfg h { s with now := t, host := s.host.expire t } where
  lastActiveProfile := hi.lastActiveProfile
  past := fun e he => ⟨(hi.past e he).1, Int.le_trans (hi.past e he).2 ht⟩
  falling := hi.falling
  ring := hi.ring
  ignored := hi.ignored
  dropping := fun idx active hd => by
    obtain ⟨hidx, hignored, hbelow⟩ := hi.dropping idx active hd
    refine ⟨hidx, fun e he heq => Int.le_trans (hignored e he heq) ht, ?_⟩
    exact Nat.lt_of_le_of_lt (Window.recent_le_of_le ht) hbelow
  apart := hi.apart
  capped := hi.capped
  positive := Int.lt_of_lt_of_le hi.positive ht

theorem switched_eq {host : ExclusiveHost profiles}
    (hlast : host.lastActiveProfile = (lastProfile h).elim (-1) fun p => (p : Int))
    (env : HostEnv) : host.switched env = isSwitch env.activeProfileIndex h := by
  unfold ExclusiveHost.switched isSwitch
  rw [hlast]
  cases lastProfile h with
  | none => rfl
  | some before =>
    refine decide_eq_decide.mpr ⟨fun h heq => h.2 (congrArg _ heq), fun h => ⟨?_, fun heq => ?_⟩⟩
    · exact Int.natCast_nonneg before
    · exact h (Int.ofNat_inj.mp heq)

theorem Inv.drops (hdetect : cfg.thrashDetect = true) (hi : Inv cfg h s) {env : HostEnv}
    {conn : HostConn} (hidx : conn.profileIndex < profiles)
    (hd : ExclusiveHost.Drops cfg env s.now false conn s.host) :
    (0 ≤ conn.profileIndex ∧ conn.profileIndex < profiles) ∧
      (∀ e ∈ sinceSwitch h, e.1 = conn.profileIndex → e.2 + cfg.bgEvictIgnoreMs ≤ s.now) ∧
      recent (thrashWindowMs cfg) s.now (times h) < cfg.bgEvictCap := by
  refine ⟨⟨hd.mapped, hidx⟩, fun e he heq => ?_, ?_⟩
  · obtain ⟨hpos, hpast⟩ := hi.past e he
    by_cases hzero : cfg.bgEvictIgnoreMs = 0
    · rw [hzero]
      omega
    · obtain ⟨until_, hu, hle⟩ := hi.ignored hzero e he
      rw [heq] at hu
      have hover := ExclusiveHost.le_of_not_ignored (hd.unignored rfl) hu (by omega)
      omega
  · -- The cap fits into the ring, so a count below it is the whole count.
    have hbelow := hd.below rfl hdetect
    have hcap := cfg.cap_le
    have hsize : thrashRingSize = 16 := rfl
    rw [ExclusiveHost.thrashWinCount_eq hdetect hi.ring hi.falling] at hbelow
    omega

theorem Inv.visit (hdetect : cfg.thrashDetect = true) (hi : Inv cfg h s) (env : HostEnv)
    (conn : HostConn) (hidx : conn.profileIndex < profiles) :
    Inv cfg h { s with
      host := (s.host.dropCheck cfg env s.now false conn).1
      dropping := if (s.host.dropCheck cfg env s.now false conn).2.2 then
        .some (conn.profileIndex, env.activeProfileIndex) else .none } := by
  rcases ExclusiveHost.dropCheck_cases cfg env s.now false conn s.host with
    ⟨hd, he⟩ | ⟨host, acts, hg, -, -, he⟩
  · rw [he]
    refine { hi with dropping := ?_ }
    rintro idx active hdropping
    cases hdropping
    exact hi.drops hdetect hidx hd
  · rw [he]
    exact { hi.same hg with dropping := by rintro idx active ⟨⟩ }

theorem Inv.fail (hi : Inv cfg h s) : Inv cfg h { s with dropping := .none } :=
  { hi with dropping := by rintro idx active ⟨⟩ }

theorem Inv.succeed (hdetect : cfg.thrashDetect = true) (hi : Inv cfg h s) (env : HostEnv)
    {idx : Int} {active : Nat} (hd : s.dropping = .some (idx, active)) :
    Inv cfg (.evicted idx s.now :: h)
      { s with host := (s.host.dropNote cfg env s.now idx active).1, dropping := .none } := by
  obtain ⟨⟨hmapped, hlt⟩, hignored, hbelow⟩ := hi.dropping idx active hd
  have hpast : ∀ e ∈ (idx, s.now) :: sinceSwitch h, 0 < e.2 ∧ e.2 ≤ s.now := by
    intro e he
    rcases List.mem_cons.mp he with rfl | he
    · exact ⟨hi.positive, Int.le_refl _⟩
    · exact hi.past e he
  rw [ExclusiveHost.dropNote_host hdetect]
  refine ⟨?_, hpast, ?_, ?_, ?_, by rintro idx active ⟨⟩, ?_, ?_, hi.positive⟩
  · exact (ExclusiveHost.bgNoteEvict_rest cfg s.now idx s.host).2.trans hi.lastActiveProfile
  · refine List.pairwise_cons.mpr ⟨fun t ht => ?_, hi.falling⟩
    obtain ⟨e, he, rfl⟩ := List.mem_map.mp ht
    exact (hi.past e he).2
  · show (s.host.thrashRing.push s.now).toList = (s.now :: times h).reverse.rtake _
    rw [List.reverse_cons]
    exact s.host.thrashRing.toList_push_history hi.ring s.now
  · intro hpos e he
    have hignore := ExclusiveHost.ignoreUntil_bgNoteEvict hpos hmapped hlt s.now s.host e.1
    show ∃ until_, (s.host.bgNoteEvict cfg s.now idx).ignoreUntil e.1 = .some until_ ∧ _
    by_cases heq : e.1 = idx
    · refine ⟨_, hignore.trans (if_pos heq), ?_⟩
      have hle := (hpast e he).2
      omega
    · rcases List.mem_cons.mp he with rfl | he
      · exact absurd rfl heq
      · obtain ⟨until_, hu, hle⟩ := hi.ignored hpos e he
        exact ⟨until_, hignore.trans ((if_neg heq).trans hu), hle⟩
  · refine List.pairwise_cons.mpr ⟨fun e he heq => ?_, hi.apart⟩
    exact hignored e he heq.symm
  · refine ⟨?_, hi.capped⟩
    show recent _ s.now (s.now :: times h) ≤ _
    rw [Window.recent_cons]
    split <;> omega

theorem Inv.profileChanged (hdetect : cfg.thrashDetect = true) (hi : Inv cfg h s) (env : HostEnv) :
    Inv cfg (.profileChanged env.activeProfileIndex :: h)
      { s with host := (s.host.profileChanged cfg env s.now).1 } := by
  have hswitch : s.host.switched env = isSwitch env.activeProfileIndex h :=
    switched_eq hi.lastActiveProfile env
  have hguards := ExclusiveHost.profileChanged_guards cfg env s.now s.host
  cases hsw : isSwitch env.activeProfileIndex h with
  | true =>
    rw [hswitch, hsw, if_pos rfl, ExclusiveHost.thrashClear, if_pos hdetect] at hguards
    have hnone : sinceSwitch (.profileChanged env.activeProfileIndex :: h) = [] := by
      rw [sinceSwitch, hsw, if_pos rfl]
    have htimes : times (.profileChanged env.activeProfileIndex :: h) = [] := by
      rw [times, hnone]
      rfl
    refine ⟨hguards.lastActiveProfile, ?_, ?_, ?_, ?_, ?_, ?_, ?_, hi.positive⟩
    · rw [hnone]
      exact fun e he => absurd he List.not_mem_nil
    · rw [htimes]
      exact .nil
    · show (s.host.profileChanged cfg env s.now).1.thrashRing.toList = _
      rw [htimes, hguards.thrashRing]
      rfl
    · rw [hnone]
      exact fun _ e he => absurd he List.not_mem_nil
    · rw [hnone, htimes]
      intro idx active hd
      refine ⟨(hi.dropping idx active hd).1, fun e he => absurd he List.not_mem_nil, ?_⟩
      exact cfg.one_le_cap
    · rw [hnone]
      exact .nil
    · rw [htimes]
      exact trivial
  | false =>
    rw [hswitch, hsw, if_neg (by decide)] at hguards
    have hsame : sinceSwitch (.profileChanged env.activeProfileIndex :: h) = sinceSwitch h := by
      rw [sinceSwitch, hsw, if_neg (by decide)]
    have htimes : times (.profileChanged env.activeProfileIndex :: h) = times h := by
      rw [times, hsame]
      rfl
    have hkept : Inv cfg (.profileChanged env.activeProfileIndex :: h)
        { s with host :=
          { s.host with lastActiveProfile := (env.activeProfileIndex : Int) } } := by
      refine ⟨rfl, ?_, ?_, ?_, ?_, ?_, ?_, ?_, hi.positive⟩
      · rw [hsame]
        exact hi.past
      · rw [htimes]
        exact hi.falling
      · rw [htimes]
        exact hi.ring
      · rw [hsame]
        exact hi.ignored
      · rw [hsame, htimes]
        exact hi.dropping
      · rw [hsame]
        exact hi.apart
      · rw [htimes]
        exact hi.capped
    exact hkept.same hguards

theorem Inv.step (hdetect : cfg.thrashDetect = true) (hi : Inv cfg h s) (hs : Step cfg s o s') :
    Inv cfg (o.toList ++ h) s' := by
  cases hs with
  | tick t ht => exact hi.tick ht
  | callback cause env hc => exact hi.same (ExclusiveHost.handle_connCallback cfg env s.now s.host hc)
  | profileChanged env => exact hi.profileChanged hdetect env
  | visit env conn hidx hd => exact hi.visit hdetect env conn hidx
  | fail hd => exact hi.fail
  | succeed env hd => exact hi.succeed hdetect env hd

/-! ## Scans -/

/-- One visit, with the disconnect it may make, is a run. -/
theorem dropIfNonActiveHost_run (env : HostEnv) (conn : HostConn)
    (hidx : conn.profileIndex < profiles) (hd : s.dropping = .none) :
    ∃ h, Run (Step cfg) s h
      { s with host := (s.host.dropIfNonActiveHost cfg env s.now false conn).1 } := by
  have hvisit : Run (Step cfg) s _ _ := Run.refl.quiet (.visit env conn hidx hd)
  unfold ExclusiveHost.dropIfNonActiveHost
  rcases ExclusiveHost.dropCheck_cases cfg env s.now false conn s.host with
    ⟨-, he⟩ | ⟨host, acts, -, -, -, he⟩
  · rw [he] at hvisit ⊢
    dsimp only at hvisit ⊢
    rw [if_pos rfl] at hvisit
    rw [if_pos rfl]
    split
    · have hfail := hvisit.quiet (.fail rfl)
      rw [← hd] at hfail
      exact ⟨_, hfail⟩
    · have hsucceed := hvisit.shows (.succeed env rfl)
      dsimp only at hsucceed
      rw [← hd] at hsucceed
      exact ⟨_, hsucceed⟩
  · rw [he] at hvisit ⊢
    dsimp only at hvisit ⊢
    rw [if_neg (by decide), ← hd] at hvisit
    rw [if_neg (by decide)]
    exact ⟨_, hvisit⟩

/-- **A whole scan is a run.** -/
theorem evictEach_run (env : HostEnv) (conns : List HostConn)
    (hidx : ∀ conn ∈ conns, conn.profileIndex < profiles) (hd : s.dropping = .none) :
    ∃ h, Run (Step cfg) s h
      { s with host := (ExclusiveHost.evictEach cfg env s.now false conns s.host).1 } := by
  induction conns generalizing s with
  | nil => exact ⟨[], .refl⟩
  | cons conn conns ih =>
    have hfirst : ∃ h, Run (Step cfg) s h _ :=
      dropIfNonActiveHost_run env conn (hidx conn (List.mem_cons_self ..)) hd
    obtain ⟨h, hr⟩ := hfirst
    obtain ⟨h', hr'⟩ := ih (s := { s with
      host := (s.host.dropIfNonActiveHost cfg env s.now false conn).1 })
      (fun c hc => hidx c (List.mem_cons_of_mem _ hc)) hd
    exact ⟨h' ++ h, hr.trans hr'⟩

end Flap

/-- **Background eviction cannot flap.** In every run, with thrash detection
and at a positive uptime: since the last switch, evictions of the same profile
are at least `CONFIG_TOTEM_BG_EVICT_IGNORE_MS` apart; no interval of
`THRASH_WINDOW_MS` holds more than `CONFIG_TOTEM_BG_EVICT_CAP`; and
`thrash_win_count` answers how many of them are at most that old, up to 16. -/
theorem bg_eviction_cannot_flap {profiles : Nat} (cfg : ExclusiveConfig)
    (hdetect : cfg.thrashDetect = true) {t₀ : Int} (hpos : 0 < t₀) {h : List Flap.Obs}
    {s : Flap profiles} (hr : Run (Flap.Step cfg) (.boot₀ profiles t₀) h s) :
    ((Flap.sinceSwitch h).Pairwise fun (later earlier : Int × Int) =>
        later.1 = earlier.1 → earlier.2 + cfg.bgEvictIgnoreMs ≤ later.2) ∧
      (∀ from_, ((Flap.times h).countP fun t =>
        from_ ≤ t ∧ t ≤ from_ + ExclusiveHost.thrashWindowMs cfg) ≤ cfg.bgEvictCap) ∧
      s.host.thrashWinCount cfg s.now =
        min 16 ((Flap.times h).countP fun t => s.now - t ≤ ExclusiveHost.thrashWindowMs cfg) := by
  have hi : Flap.Inv cfg h s := hr.invariant (Flap.inv_boot₀ hpos) (Flap.Inv.step hdetect)
  exact ⟨hi.apart, fun from_ => Window.countP_interval_le hi.falling hi.capped from_,
    ExclusiveHost.thrashWinCount_eq hdetect hi.ring hi.falling⟩

/-- The host of profile 1 is evicted, and again as soon as it may be. -/
theorem bg_eviction_cannot_flap_again :
    ∃ (h : List Flap.Obs) (s : Flap 5), Run (Flap.Step totemConfig) (.boot₀ 5 1) h s ∧
      Flap.times h = [10001, 1] ∧
      (Flap.sinceSwitch h).Pairwise (fun (later earlier : Int × Int) =>
        later.1 = earlier.1 → earlier.2 + 10000 ≤ later.2) ∧
      (∀ from_, ((Flap.times h).countP fun t => from_ ≤ t ∧ t ≤ from_ + 10000) ≤ 4) ∧
      s.host.thrashWinCount totemConfig s.now = 2 := by
  have hvisit : Run (Flap.Step totemConfig) (.boot₀ 5 1) _ _ :=
    Run.refl.quiet (.visit besideActive backgroundHost (by decide) rfl)
  have hevicted := hvisit.shows (.succeed besideActive (by rfl))
  have hlater := hevicted.quiet (.tick 10001 (by decide))
  have hvisit' := hlater.quiet (.visit besideActive backgroundHost (by decide) (by rfl))
  have hevicted' := hvisit'.shows (.succeed besideActive (by rfl))
  obtain ⟨hapart, hcapped, hcount⟩ :=
    bg_eviction_cannot_flap totemConfig rfl (by decide) hevicted'
  exact ⟨_, _, hevicted', rfl, hapart, hcapped, hcount⟩

end TotemZmk
