/-
Bond heal, of `exclusive_host.c`: the streak of authentication failures of the
active profile, and the work that clears its bond.

Security and disconnected callbacks, profile switches, their notifications and
the work queue take steps in any order, and the work's handler may be
interrupted before `zmk_ble_clear_bonds` reads the active profile.

* `bond_heal_clears_failed`: in orderly runs only a bond that failed often
  enough is cleared.
* `bond_heal_clears_another`: a switch while the clear is queued.
-/
import TotemZmk.Lib.Run

namespace TotemZmk

open Trace (Run RunWhere)

/-- `BT_HCI_ERR_AUTH_FAIL` -/
def btHciErrAuthFail : UInt8 := 5

/-- `BT_SECURITY_L2` -/
def btSecurityL2 : Nat := 2

/-- The active profile, `last_active_profile`, `active_auth_fail_streak`, and
whether `bond_heal_clear_active_work` is queued, or has started and not yet
cleared. -/
structure BondHeal where
  active : Nat
  lastActiveProfile : Int
  activeAuthFailStreak : UInt8
  clearQueued : Bool
  clearing : Bool
deriving DecidableEq, Repr

namespace BondHeal

/-- What can be observed: of the active profile, as it was then. -/
inductive Obs where
  /-- A switch, and whether failures were counted at the time. -/
  | selected (profile : Nat) (counting : Bool)
  /-- `exclusive_host_profile_changed`, and its `switched`. -/
  | notified (switched : Bool)
  | failed (profile : Nat)
  | ok (profile : Nat)
  | started
  | cleared (profile : Nat)
deriving DecidableEq, Repr

/-- At power-up, with the profile restored from settings. -/
def boot₀ (active : Nat) : BondHeal := ⟨active, -1, 0, false, false⟩

/-- `bond_heal_note_auth_failure` -/
def noteAuthFailure (threshold : Nat) (s : BondHeal) : BondHeal :=
  let s := { s with activeAuthFailStreak := s.activeAuthFailStreak + 1 }
  if s.activeAuthFailStreak.toNat < threshold then s else { s with clearQueued := true }

/-- `bond_heal_note_auth_ok` -/
def noteAuthOk (s : BondHeal) : BondHeal :=
  if s.activeAuthFailStreak ≠ 0 then { s with activeAuthFailStreak := 0 } else s

/-- `exclusive_host_security_changed`, as far as bond heal goes. -/
def securityChanged (threshold : Nat) (s : BondHeal) (idx : Int) (level err : Nat) : BondHeal :=
  if idx = s.active then
    if err ≠ 0 then s.noteAuthFailure threshold
    else if btSecurityL2 ≤ level then s.noteAuthOk
    else s
  else s

/-- What it shows. -/
def securityShown (s : BondHeal) (idx : Int) (level err : Nat) : Option Obs :=
  if idx = s.active then
    if err ≠ 0 then .some (.failed s.active)
    else if btSecurityL2 ≤ level then .some (.ok s.active)
    else .none
  else .none

/-- `exclusive_host_disconnected`, as far as bond heal goes. -/
def disconnected (threshold : Nat) (s : BondHeal) (idx : Int) (reason : UInt8) : BondHeal :=
  if reason = btHciErrAuthFail ∧ idx = s.active then s.noteAuthFailure threshold else s

/-- What it shows. -/
def disconnectedShown (s : BondHeal) (idx : Int) (reason : UInt8) : Option Obs :=
  if reason = btHciErrAuthFail ∧ idx = s.active then .some (.failed s.active) else .none

/-- The `switched` of `exclusive_host_profile_changed`. -/
def switched (s : BondHeal) : Bool := 0 ≤ s.lastActiveProfile ∧ s.lastActiveProfile ≠ s.active

/-- `exclusive_host_profile_changed`, as far as bond heal goes. -/
def profileChanged (s : BondHeal) : BondHeal :=
  { s with
    lastActiveProfile := s.active
    activeAuthFailStreak := if s.switched then 0 else s.activeAuthFailStreak }

/-- One step of any context. -/
inductive Step (threshold : Nat) : BondHeal → Option Obs → BondHeal → Prop where
  | select {s} (profile : Nat) (h : profile ≠ s.active) :
    Step threshold s (.some (.selected profile (s.activeAuthFailStreak ≠ 0)))
      { s with active := profile }
  | profileChanged {s} : Step threshold s (.some (.notified s.switched)) s.profileChanged
  | securityChanged {s} (idx : Int) (level err : Nat) :
    Step threshold s (s.securityShown idx level err) (s.securityChanged threshold idx level err)
  | disconnected {s} (idx : Int) (reason : UInt8) :
    Step threshold s (s.disconnectedShown idx reason) (s.disconnected threshold idx reason)
  /-- `bond_heal_clear_active_work_handler`, up to the clear. -/
  | start {s} (hq : s.clearQueued = true) (hc : s.clearing = false) :
    Step threshold s (.some .started)
      { s with clearQueued := false, clearing := true, activeAuthFailStreak := 0 }
  /-- And `zmk_ble_clear_bonds`. -/
  | clear {s} (hc : s.clearing = true) :
    Step threshold s (.some (.cleared s.active)) { s with clearing := false }

/-! ## The history -/

/-- The profile's failures since its last success and since it was last
selected. -/
def failures (profile : Nat) : List Obs → Nat
  | [] => 0
  | .failed p :: h => if p = profile then failures profile h + 1 else failures profile h
  | .ok p :: h | .selected p _ :: h => if p = profile then 0 else failures profile h
  | .notified _ :: h | .started :: h | .cleared _ :: h => failures profile h

/-- The streak was counting at the last switch, and nothing has reset it. -/
def carried : List Obs → Bool
  | [] => false
  | .selected _ counting :: _ => counting
  | .notified switched :: h => !switched && carried h
  | .ok _ :: _ | .started :: _ => false
  | .failed _ :: h | .cleared _ :: h => carried h

/-- No switch and no success while a clear is under way, and no failure that
brings a streak carried over a switch to the threshold. -/
def Orderly (threshold : Nat) (h : List Obs) (s : BondHeal) : Option Obs → Prop
  | .some (.selected _ _) | .some (.ok _) => s.clearQueued = false ∧ s.clearing = false
  | .some (.failed _) =>
    carried h = true → (s.activeAuthFailStreak + 1).toNat < threshold
  | .some (.notified _) | .some .started | .some (.cleared _) | .none => True

/-! ## What an orderly step keeps -/

variable {threshold : Nat} {h : List Obs} {s s' : BondHeal}

/-- The streak counts the active profile's own failures, and a clear under way
is for a bond that failed often enough. -/
structure Inv (threshold : Nat) (h : List Obs) (s : BondHeal) : Prop where
  streak : carried h = false → s.activeAuthFailStreak.toNat ≤ failures s.active h
  pending : s.clearQueued = true ∨ s.clearing = true → threshold ≤ failures s.active h

theorem inv_boot₀ (active : Nat) : Inv threshold [] (boot₀ active) where
  streak := fun _ => Nat.le_refl _
  pending := by rintro (h | h) <;> cases h

theorem toNat_add_one_le (n : UInt8) : (n + 1).toNat ≤ n.toNat + 1 := by
  rw [UInt8.toNat_add]
  exact Nat.mod_le _ _

theorem Inv.failure (hi : Inv threshold h s)
    (hc : carried h = true → (s.activeAuthFailStreak + 1).toNat < threshold) :
    Inv threshold (.failed s.active :: h) (s.noteAuthFailure threshold) := by
  have hone := toNat_add_one_le s.activeAuthFailStreak
  have hmore : failures s.active (.failed s.active :: h) = failures s.active h + 1 := if_pos rfl
  unfold noteAuthFailure
  dsimp only
  split
  · refine ⟨fun hcarried => ?_, fun hp => ?_⟩
    · have hle := hi.streak hcarried
      show (s.activeAuthFailStreak + 1).toNat ≤ failures s.active _
      omega
    · have hle := hi.pending hp
      show threshold ≤ failures s.active _
      omega
  · rename_i hreached
    have hcarried : carried h = false := by
      cases hh : carried h with
      | false => rfl
      | true => exact absurd (hc hh) hreached
    have hle := hi.streak hcarried
    refine ⟨fun _ => ?_, fun _ => ?_⟩
    · show (s.activeAuthFailStreak + 1).toNat ≤ failures s.active _
      omega
    · show threshold ≤ failures s.active _
      omega

theorem Inv.success (hq : s.clearQueued = false) (hc : s.clearing = false) :
    Inv threshold (.ok s.active :: h) s.noteAuthOk := by
  unfold noteAuthOk
  split
  · refine ⟨fun _ => Nat.zero_le _, ?_⟩
    rintro (hp | hp)
    · exact absurd hp (by simp [hq])
    · exact absurd hp (by simp [hc])
  · rename_i hzero
    refine ⟨fun _ => ?_, ?_⟩
    · rw [not_not.mp hzero]
      exact Nat.zero_le _
    · rintro (hp | hp)
      · exact absurd hp (by simp [hq])
      · exact absurd hp (by simp [hc])

theorem Inv.step {o : Option Obs} (hi : Inv threshold h s) (hs : Step threshold s o s')
    (hc : Orderly threshold h s o) : Inv threshold (o.toList ++ h) s' := by
  cases hs with
  | select profile hne =>
    obtain ⟨hq, hclearing⟩ := hc
    refine ⟨fun hcarried => ?_, ?_⟩
    · have hzero : s.activeAuthFailStreak = 0 := by simpa [carried] using hcarried
      show s.activeAuthFailStreak.toNat ≤ _
      rw [hzero]
      exact Nat.zero_le _
    · rintro (hp | hp)
      · exact absurd hp (by simp [hq])
      · exact absurd hp (by simp [hclearing])
  | profileChanged =>
    refine ⟨fun hcarried => ?_, hi.pending⟩
    show (if s.switched then (0 : UInt8) else s.activeAuthFailStreak).toNat ≤ failures s.active h
    cases hsw : s.switched with
    | true => exact Nat.zero_le _
    | false =>
      refine hi.streak ?_
      simpa [carried, hsw] using hcarried
  | securityChanged idx level err =>
    unfold securityShown at hc ⊢
    unfold BondHeal.securityChanged
    split
    · rename_i hidx
      rw [if_pos hidx] at hc
      split
      · rename_i herr
        rw [if_pos herr] at hc
        exact hi.failure hc
      · rename_i herr
        rw [if_neg herr] at hc
        split
        · rename_i hlevel
          rw [if_pos hlevel] at hc
          exact .success hc.1 hc.2
        · exact hi
    · exact hi
  | disconnected idx reason =>
    unfold disconnectedShown at hc ⊢
    unfold BondHeal.disconnected
    split
    · rename_i hfail
      rw [if_pos hfail] at hc
      exact hi.failure hc
    · exact hi
  | start hq hclearing =>
    refine ⟨fun _ => Nat.zero_le _, fun _ => ?_⟩
    exact hi.pending (.inl hq)
  | clear hclearing => exact ⟨hi.streak, fun hp => hi.pending (hp.imp_right fun _ => hclearing)⟩

end BondHeal

/-- **Bond heal only clears the bond that failed**, in every run in which no
switch and no success of the active profile falls between the request to clear
and the clear, and no failure brings a streak that was carried over a switch to
the threshold: the profile whose bond is cleared has itself failed `threshold`
times since its last success and since it was last selected. -/
theorem bond_heal_clears_failed (threshold active : Nat) {h : List BondHeal.Obs} {s : BondHeal}
    (hr : RunWhere (BondHeal.Step threshold) (BondHeal.Orderly threshold) (.boot₀ active) h s)
    (later earlier : List BondHeal.Obs) (profile : Nat)
    (he : h = later ++ .cleared profile :: earlier) :
    threshold ≤ BondHeal.failures profile earlier := by
  obtain ⟨s₁, s₂, hr₁, hs, -⟩ := hr.split he
  have hi : BondHeal.Inv threshold earlier s₁ :=
    hr₁.invariant (BondHeal.inv_boot₀ active) BondHeal.Inv.step
  generalize ho : Option.some (BondHeal.Obs.cleared profile) = o at hs
  cases hs with
  | clear hclearing =>
    cases ho
    exact hi.pending (.inr hclearing)
  | select profile hne => cases ho
  | profileChanged => cases ho
  | start hq hclearing => cases ho
  | securityChanged idx level err =>
    unfold BondHeal.securityShown at ho
    split at ho
    · split at ho
      · cases ho
      · split at ho <;> cases ho
    · cases ho
  | disconnected idx reason =>
    unfold BondHeal.disconnectedShown at ho
    split at ho <;> cases ho

/-- The host of profile 0 has failed twice and disconnects with an
authentication failure: the clear is queued. -/
def healing : BondHeal := ⟨0, -1, 3, true, false⟩

theorem bond_heal_clears_failed_thrice :
    ∃ (h : List BondHeal.Obs) (s : BondHeal),
      RunWhere (BondHeal.Step 3) (BondHeal.Orderly 3) (.boot₀ 0) h s ∧
      ∃ earlier, h = .cleared 0 :: earlier ∧ 3 ≤ BondHeal.failures 0 earlier := by
  have hfail : RunWhere (BondHeal.Step 3) (BondHeal.Orderly 3) (.boot₀ 0)
      [.failed 0, .failed 0, .failed 0] healing :=
    ((RunWhere.refl.shows (.securityChanged 0 1 6) (by rintro ⟨⟩)).shows
      (.securityChanged 0 1 6) (by rintro ⟨⟩)).shows (.disconnected 0 5) (by rintro ⟨⟩)
  have hclear := (hfail.shows (.start rfl rfl) trivial).shows (.clear rfl) trivial
  exact ⟨_, _, hclear, _, rfl, bond_heal_clears_failed 3 0 hclear [] _ 0 rfl⟩

/-- **Bond heal clears a bond that never failed**: the clear is queued for
profile 0, the user selects profile 1, and then the work runs. -/
theorem bond_heal_clears_another :
    ¬∀ (h : List BondHeal.Obs) (s : BondHeal), Run (BondHeal.Step 3) (.boot₀ 0) h s →
      ∀ later earlier profile, h = later ++ .cleared profile :: earlier →
        3 ≤ BondHeal.failures profile earlier := by
  intro hlaw
  have hfail : Run (BondHeal.Step 3) (.boot₀ 0) [.failed 0, .failed 0, .failed 0] healing :=
    ((Run.refl.shows (.securityChanged 0 1 6)).shows (.securityChanged 0 1 6)).shows
      (.disconnected 0 5)
  have hswitch := (hfail.shows (.select 1 (by decide))).shows .profileChanged
  have hclear := (hswitch.shows (.start rfl rfl)).shows (.clear rfl)
  have hle := hlaw _ _ hclear [] _ 1 rfl
  exact absurd hle (by decide)

end TotemZmk
