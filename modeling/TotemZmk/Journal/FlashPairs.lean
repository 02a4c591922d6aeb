/-
`__wrap_settings_save_one` in any number of contexts: each save takes a number,
of which its two records carry the last eight bits. Whoever reads the records
matches an end with the newest begin of the same `pair`.

* `Inv.step`: what every step keeps.
* `flash_pairs_match`: as long as no save is overtaken by 256 others, the match is
  right.
* `wrapSettingsSaveOne_eq`: what a save does that nothing comes between.
-/
import TotemZmk.Journal.Timing
import TotemZmk.Lib.Run

namespace TotemZmk

open Trace (RunWhere)

/-- What a save has found out when it begins. `number` is how many began before. -/
structure FlashSave where
  number : Nat
  category : UInt8
  pair : UInt8
  active : Int8
deriving DecidableEq, Repr

namespace FlashSave

/-- The record of `TOTEM_HEVT_FLASH_BEGIN`. -/
def beginRecord (save : FlashSave) (t : Int) : TimingRecord :=
  ⟨kUptimeGet32 t, totemHevtFlashBegin, -1, save.active, save.category, save.pair, 0⟩

/-- The record of `TOTEM_HEVT_FLASH_END`. -/
def endRecord (save : FlashSave) (err : Int) (t : Int) : TimingRecord :=
  ⟨kUptimeGet32 t, totemHevtFlashEnd, -1, save.active, save.category, save.pair,
    UInt8.ofNat (min err.natAbs 255)⟩

end FlashSave

/-- A save that nothing comes between captures these two records. -/
theorem Diag.wrapSettingsSaveOne_eq {cfg : Config} {profiles : Nat} (d : Diag cfg profiles)
    (name : List Char) (save : Save) (number : Nat) :
    let flash : FlashSave := ⟨number, settingsCategory name, d.writeSequence.toUInt8, save.active⟩
    let later := d.sys.now + save.ms
    d.wrapSettingsSaveOne name save =
      ((({ d with writeSequence := d.writeSequence + 1 } : Diag cfg profiles).capture
        (flash.beginRecord d.sys.now)).tick later).capture (flash.endRecord save.err later) := by
  intro flash later
  have hnow (d' : Diag cfg profiles) (record : TimingRecord) :
      (d'.capture record).sys.now = d'.sys.now := by
    rw [Diag.sys_capture]
  unfold Diag.wrapSettingsSaveOne Diag.timingCapture
  dsimp only
  rw [hnow]
  rfl

/-- Where a context is in `__wrap_settings_save_one`. -/
inductive FlashCall where
  | outside
  /-- It has its number. -/
  | taken (number : Nat) (category pair : UInt8)
  /-- And the active profile. -/
  | beginning (save : FlashSave)
  /-- In `__real_settings_save_one`. -/
  | saving (save : FlashSave)
  /-- Which returned then. -/
  | saved (save : FlashSave) (err : Int) (returned : Int)

namespace FlashCall

/-- The number of the save under way. -/
def number : FlashCall → Option Nat
  | .outside => .none
  | .taken number _ _ => .some number
  | .beginning save | .saving save | .saved save _ _ => .some save.number

/-- The `pair` it has. -/
def pair : FlashCall → Option UInt8
  | .outside => .none
  | .taken _ _ pair => .some pair
  | .beginning save | .saving save | .saved save _ _ => .some save.pair

/-- The save, once its begin is captured. -/
def begun : FlashCall → Option FlashSave
  | .outside | .taken _ _ _ | .beginning _ => .none
  | .saving save | .saved save _ _ => .some save

/-- The time by which that was. -/
def limit (now : Int) : FlashCall → Int
  | .outside | .taken _ _ _ | .beginning _ | .saving _ => now
  | .saved _ _ returned => returned

theorem of_begun {call : FlashCall} {save : FlashSave} (h : call.begun = .some save) :
    call.number = .some save.number ∧ call.pair = .some save.pair := by
  cases call with
  | outside | taken | beginning => cases h
  | saving | saved =>
    cases h
    exact ⟨rfl, rfl⟩

end FlashCall

/-- `writeSequence` counts in 32 bits what `taken` counts in full. `active` is what
`zmk_ble_active_profile_index` would answer. -/
structure FlashPairs (κ : Type) where
  writeSequence : UInt32
  taken : Nat
  calls : κ → FlashCall
  active : Int8
  now : Int

namespace FlashPairs

variable {κ : Type}

/-- The captures, each with the save it is of. -/
inductive Obs where
  | began (save : FlashSave) (record : TimingRecord)
  | ended (save : FlashSave) (err : Int) (record : TimingRecord)
deriving DecidableEq, Repr

/-- At power-up. -/
def boot₀ (κ : Type) (active : Int8) (now : Int) : FlashPairs κ :=
  ⟨0, 0, fun _ => .outside, active, now⟩

variable [DecidableEq κ]

/-- A context gets on. -/
def goesTo (s : FlashPairs κ) (c : κ) (call : FlashCall) : FlashPairs κ :=
  { s with calls := Function.update s.calls c call }

/-- One step. `timing_capture` reads the uptime before it takes its lock. -/
inductive Step : FlashPairs κ → Option Obs → FlashPairs κ → Prop where
  | tick {s} (t : Int) (h : s.now ≤ t) : Step s .none { s with now := t }
  | switch {s} (active : Int8) : Step s .none { s with active := active }
  | take {s} (c : κ) (name : List Char) (h : s.calls c = .outside) :
    Step s .none
      { s with
        writeSequence := s.writeSequence + 1
        taken := s.taken + 1
        calls := Function.update s.calls c
          (.taken s.taken (settingsCategory name) s.writeSequence.toUInt8) }
  | look {s} (c : κ) {number : Nat} {category pair : UInt8}
    (h : s.calls c = .taken number category pair) :
    Step s .none (s.goesTo c (.beginning ⟨number, category, pair, s.active⟩))
  | captureBegin {s} (c : κ) {save : FlashSave} (t : Int) (h : s.calls c = .beginning save)
    (ht : t ≤ s.now) :
    Step s (.some (.began save (save.beginRecord t))) (s.goesTo c (.saving save))
  | return {s} (c : κ) {save : FlashSave} (err : Int) (h : s.calls c = .saving save) :
    Step s .none (s.goesTo c (.saved save err s.now))
  | captureEnd {s} (c : κ) {save : FlashSave} {err returned : Int} (t : Int)
    (h : s.calls c = .saved save err returned) (hreturned : returned ≤ t) (ht : t ≤ s.now) :
    Step s (.some (.ended save err (save.endRecord err t))) (s.goesTo c .outside)

omit [DecidableEq κ] in
/-- No save under way has been overtaken by 256 others. -/
def Prompt (s : FlashPairs κ) : Prop :=
  ∀ c n, (s.calls c).number = .some n → s.taken ≤ n + 256

/-- The newest begin with a `pair`, as one who reads the records finds it. -/
def newestBegin (pair : UInt8) : List Obs → Option (FlashSave × TimingRecord)
  | [] => .none
  | .began save record :: h => if record.pair = pair then .some (save, record) else newestBegin pair h
  | .ended _ _ _ :: h => newestBegin pair h

/-- The numbers of the saves that ended. -/
def ends (h : List Obs) : List Nat :=
  h.filterMap fun
    | .ended save _ _ => .some save.number
    | .began _ _ => .none

/-! ## What a step keeps -/

/-- The saves under way have their own numbers, and each has the newest begin of
its `pair`. -/
structure Inv (h : List Obs) (s : FlashPairs κ) : Prop where
  sequence : s.writeSequence.toNat % 256 = s.taken % 256
  below : ∀ c n, (s.calls c).number = .some n → n < s.taken
  distinct : ∀ c c' n, (s.calls c).number = .some n → (s.calls c').number = .some n → c = c'
  pairs : ∀ c n p, (s.calls c).number = .some n → (s.calls c).pair = .some p → p.toNat = n % 256
  newest : ∀ c save, (s.calls c).begun = .some save → ∃ t,
    newestBegin save.pair h = .some (save, save.beginRecord t) ∧ t ≤ (s.calls c).limit s.now
  ended : (ends h).Nodup ∧ ∀ n ∈ ends h, n < s.taken ∧ ∀ c, (s.calls c).number ≠ .some n

variable {h : List Obs} {s s' : FlashPairs κ} {o : Option Obs}

omit [DecidableEq κ] in
theorem inv_boot₀ (active : Int8) (now : Int) : Inv [] (boot₀ κ active now) where
  sequence := rfl
  below := nofun
  distinct := nofun
  pairs := nofun
  newest := nofun
  ended := ⟨List.nodup_nil, nofun⟩

omit [DecidableEq κ] in
theorem limit_mono {call : FlashCall} {now t : Int} (ht : now ≤ t) : call.limit now ≤ call.limit t := by
  cases call with
  | saved save err returned => exact Int.le_refl _
  | outside | taken | beginning | saving => exact ht

theorem Inv.goesTo (hi : Inv h s) (c : κ) {call : FlashCall} {h' : List Obs}
    (hnumber : call.number = (s.calls c).number) (hpair : call.pair = (s.calls c).pair)
    (hends : ends h' = ends h)
    (hothers : ∀ c' save, c' ≠ c → (s.calls c').begun = .some save →
      newestBegin save.pair h' = newestBegin save.pair h)
    (hbegun : ∀ save, call.begun = .some save → ∃ t,
      newestBegin save.pair h' = .some (save, save.beginRecord t) ∧ t ≤ call.limit s.now) :
    Inv h' (s.goesTo c call) := by
  have hnumbers (c' : κ) : ((s.goesTo c call).calls c').number = (s.calls c').number := by
    by_cases hc : c' = c
    · subst hc
      simp [FlashPairs.goesTo, hnumber]
    · simp [FlashPairs.goesTo, hc]
  have hpairs (c' : κ) : ((s.goesTo c call).calls c').pair = (s.calls c').pair := by
    by_cases hc : c' = c
    · subst hc
      simp [FlashPairs.goesTo, hpair]
    · simp [FlashPairs.goesTo, hc]
  refine ⟨hi.sequence, ?_, ?_, ?_, ?_, hends ▸ hi.ended.1, ?_⟩
  · intro c' n hn
    rw [hnumbers] at hn
    exact hi.below c' n hn
  · intro c₁ c₂ n h₁ h₂
    rw [hnumbers] at h₁ h₂
    exact hi.distinct c₁ c₂ n h₁ h₂
  · intro c' n p hn hp
    rw [hnumbers] at hn
    rw [hpairs] at hp
    exact hi.pairs c' n p hn hp
  · intro c' save hs
    by_cases hc : c' = c
    · subst hc
      simp only [FlashPairs.goesTo, Function.update_self] at hs ⊢
      exact hbegun save hs
    · simp only [FlashPairs.goesTo, Function.update_of_ne hc] at hs ⊢
      rw [hothers c' save hc hs]
      exact hi.newest c' save hs
  · intro n hn
    obtain ⟨hlt, hnone⟩ := hi.ended.2 n (hends ▸ hn)
    refine ⟨hlt, fun c' => ?_⟩
    rw [hnumbers]
    exact hnone c'

theorem Inv.take (hi : Inv h s) (c : κ) (name : List Char) (hc : s.calls c = .outside) :
    Inv h { s with
      writeSequence := s.writeSequence + 1
      taken := s.taken + 1
      calls := Function.update s.calls c
        (.taken s.taken (settingsCategory name) s.writeSequence.toUInt8) } := by
  have hnone : (s.calls c).number = .none := by
    rw [hc]
    rfl
  refine ⟨?_, ?_, ?_, ?_, ?_, hi.ended.1, ?_⟩
  · have hseq := hi.sequence
    simp only [UInt32.toNat_add, UInt32.reduceToNat]
    omega
  · intro c' n hn
    by_cases he : c' = c
    · subst he
      simp only [Function.update_self, FlashCall.number, Option.some.injEq] at hn
      exact hn ▸ Nat.lt_succ_self _
    · simp only [Function.update_of_ne he] at hn
      exact Nat.lt_succ_of_lt (hi.below c' n hn)
  · intro c₁ c₂ n h₁ h₂
    by_cases he₁ : c₁ = c
    · by_cases he₂ : c₂ = c
      · rw [he₁, he₂]
      · subst he₁
        simp only [Function.update_self, FlashCall.number, Option.some.injEq] at h₁
        simp only [Function.update_of_ne he₂] at h₂
        have hlt := hi.below c₂ n h₂
        omega
    · simp only [Function.update_of_ne he₁] at h₁
      by_cases he₂ : c₂ = c
      · subst he₂
        simp only [Function.update_self, FlashCall.number, Option.some.injEq] at h₂
        have hlt := hi.below c₁ n h₁
        omega
      · simp only [Function.update_of_ne he₂] at h₂
        exact hi.distinct c₁ c₂ n h₁ h₂
  · intro c' n p hn hp
    by_cases he : c' = c
    · subst he
      simp only [Function.update_self, FlashCall.number, FlashCall.pair, Option.some.injEq] at hn hp
      rw [← hn, ← hp, ← hi.sequence, UInt32.toNat_toUInt8]
    · simp only [Function.update_of_ne he] at hn hp
      exact hi.pairs c' n p hn hp
  · intro c' save hs
    by_cases he : c' = c
    · subst he
      simp [FlashCall.begun] at hs
    · simp only [Function.update_of_ne he] at hs ⊢
      exact hi.newest c' save hs
  · intro n hn
    obtain ⟨hlt, hother⟩ := hi.ended.2 n hn
    refine ⟨Nat.lt_succ_of_lt hlt, fun c' => ?_⟩
    by_cases he : c' = c
    · subst he
      simp only [Function.update_self, FlashCall.number, ne_eq, Option.some.injEq]
      omega
    · simp only [Function.update_of_ne he]
      exact hother c'

omit [DecidableEq κ] in
theorem Inv.pair_ne (hi : Inv h s) (hprompt : Prompt s) {c c' : κ} {n n' : Nat} {p p' : UInt8}
    (hne : c' ≠ c) (hn : (s.calls c).number = .some n) (hn' : (s.calls c').number = .some n')
    (hp : (s.calls c).pair = .some p) (hp' : (s.calls c').pair = .some p') : p ≠ p' := by
  intro he
  subst he
  have hmod : n % 256 = n' % 256 := (hi.pairs c n p hn hp).symm.trans (hi.pairs c' n' p hn' hp')
  have hlt := hi.below c n hn
  have hlt' := hi.below c' n' hn'
  have hnear := hprompt c n hn
  have hnear' := hprompt c' n' hn'
  have heq : n = n' := by omega
  exact hne (hi.distinct c' c n (heq ▸ hn') hn)

/-- A begin is the newest of its `pair`, which is not that of another save under
way. -/
theorem Inv.captureBegin (hi : Inv h s) (hprompt : Prompt s) (c : κ) {save : FlashSave} {t : Int}
    (hc : s.calls c = .beginning save) (ht : t ≤ s.now) :
    Inv (.began save (save.beginRecord t) :: h) (s.goesTo c (.saving save)) := by
  have hnumber : (s.calls c).number = .some save.number := by rw [hc]; rfl
  have hpair : (s.calls c).pair = .some save.pair := by rw [hc]; rfl
  refine hi.goesTo c hnumber.symm hpair.symm rfl ?_ ?_
  · intro c' save' hne hs
    obtain ⟨hn', hp'⟩ := FlashCall.of_begun hs
    exact if_neg (hi.pair_ne hprompt hne hnumber hn' hpair hp')
  · intro save' hs
    cases hs
    exact ⟨t, if_pos rfl, ht⟩

/-- An end leaves no save under way without its begin. -/
theorem Inv.captureEnd (hi : Inv h s) (c : κ) {save : FlashSave} {err returned t : Int}
    (hc : s.calls c = .saved save err returned) :
    Inv (.ended save err (save.endRecord err t) :: h) (s.goesTo c .outside) := by
  have hnumber : (s.calls c).number = .some save.number := by rw [hc]; rfl
  have hnumbers (c' : κ) (hne : c' ≠ c) : (s.goesTo c .outside).calls c' = s.calls c' :=
    Function.update_of_ne hne _ _
  have houtside : (s.goesTo c .outside).calls c = .outside := Function.update_self ..
  have hunder {c' : κ} {n : Nat} (hn : ((s.goesTo c .outside).calls c').number = .some n) :
      c' ≠ c ∧ (s.calls c').number = .some n := by
    have hne : c' ≠ c := by
      intro he
      rw [he, houtside] at hn
      cases hn
    exact ⟨hne, hnumbers c' hne ▸ hn⟩
  refine ⟨hi.sequence, ?_, ?_, ?_, ?_, ?_, ?_⟩
  · intro c' n hn
    exact hi.below c' n (hunder hn).2
  · intro c₁ c₂ n h₁ h₂
    exact hi.distinct c₁ c₂ n (hunder h₁).2 (hunder h₂).2
  · intro c' n p hn hp
    obtain ⟨hne, hn⟩ := hunder hn
    rw [hnumbers c' hne] at hp
    exact hi.pairs c' n p hn hp
  · intro c' save' hs
    obtain ⟨hn', -⟩ := FlashCall.of_begun hs
    have hne := (hunder hn').1
    rw [hnumbers c' hne] at hs ⊢
    exact hi.newest c' save' hs
  · have hnew : save.number ∉ ends h := fun hm => (hi.ended.2 _ hm).2 c hnumber
    exact List.nodup_cons.mpr ⟨hnew, hi.ended.1⟩
  · intro n hn
    have hn : n ∈ save.number :: ends h := hn
    obtain rfl | hn := List.mem_cons.mp hn
    · refine ⟨hi.below c _ hnumber, fun c' hn' => ?_⟩
      obtain ⟨hne, hn'⟩ := hunder hn'
      exact hne (hi.distinct c' c _ hn' hnumber)
    · obtain ⟨hlt, hnone⟩ := hi.ended.2 n hn
      exact ⟨hlt, fun c' hn' => hnone c' (hunder hn').2⟩

theorem Inv.step (hi : Inv h s) (hs : Step s o s') (hprompt : Prompt s) : Inv (o.toList ++ h) s' := by
  cases hs with
  | tick t ht =>
    refine ⟨hi.sequence, hi.below, hi.distinct, hi.pairs, ?_, hi.ended⟩
    intro c save hs
    obtain ⟨t₀, hnewest, hle⟩ := hi.newest c save hs
    exact ⟨t₀, hnewest, Int.le_trans hle (limit_mono ht)⟩
  | switch active => exact ⟨hi.sequence, hi.below, hi.distinct, hi.pairs, hi.newest, hi.ended⟩
  | take c name hc => exact hi.take c name hc
  | look c hc =>
    exact hi.goesTo c (by rw [hc]; rfl) (by rw [hc]; rfl) rfl (fun _ _ _ _ => rfl) nofun
  | captureBegin c t hc ht => exact hi.captureBegin hprompt c hc ht
  | @«return» c save err hc =>
    refine hi.goesTo c (by rw [hc]; rfl) (by rw [hc]; rfl) rfl (fun _ _ _ _ => rfl) ?_
    intro save' hs
    cases hs
    have hnewest := hi.newest c save (by rw [hc]; rfl)
    rw [hc] at hnewest
    exact hnewest
  | captureEnd c t hc hreturned ht => exact hi.captureEnd c hc

end FlashPairs

/-- **Flash records pair up.** In any run of saves in any number of contexts, in
which none is overtaken by 256 others: one who reads the records and matches an
end with the newest begin of the same `pair` finds the begin of the same save,
with the same profile and category and no later uptime. And no save ends twice. -/
theorem flash_pairs_match {κ : Type} [DecidableEq κ] (active : Int8) (t₀ : Int)
    {h : List FlashPairs.Obs} {s : FlashPairs κ}
    (hr : RunWhere FlashPairs.Step (fun _ s _ => FlashPairs.Prompt s) (.boot₀ κ active t₀) h s) :
    (∀ later save err r earlier, h = later ++ .ended save err r :: earlier → ∃ t t',
      FlashPairs.newestBegin r.pair earlier = .some (save, save.beginRecord t) ∧
        r = save.endRecord err t' ∧ t ≤ t') ∧
    (FlashPairs.ends h).Nodup := by
  have hinv {h : List FlashPairs.Obs} {s : FlashPairs κ}
      (hr : RunWhere FlashPairs.Step (fun _ s _ => FlashPairs.Prompt s) (.boot₀ κ active t₀) h s) :
      FlashPairs.Inv h s :=
    hr.invariant (FlashPairs.inv_boot₀ active t₀) fun hi hs hprompt => hi.step hs hprompt
  refine ⟨?_, (hinv hr).ended.1⟩
  intro later save err r earlier he
  obtain ⟨s₁, s₂, hr₁, hs, -⟩ := hr.split he
  cases hs with
  | captureEnd c t' hc hreturned ht =>
    obtain ⟨t, hnewest, hle⟩ := (hinv hr₁).newest c save (by rw [hc]; rfl)
    rw [hc] at hle
    exact ⟨t, t', hnewest, rfl, Int.le_trans hle hreturned⟩

/-- Two saves that overlap: the first ends while the second is under way. -/
theorem flash_pairs_match_overlapping :
    let first : FlashSave := ⟨0, settingsCategory "th/dlog/0".toList, 0, 2⟩
    let second : FlashSave := ⟨1, settingsCategory "bt/keys".toList, 1, 2⟩
    ∃ t t', FlashPairs.newestBegin 0
        [.began second (second.beginRecord 5), .began first (first.beginRecord 5)] =
      .some (first, first.beginRecord t) ∧ first.endRecord 0 5 = first.endRecord 0 t' ∧ t ≤ t' := by
  intro first second
  have hprompt {s : FlashPairs Bool} (h : s.taken ≤ 256) : FlashPairs.Prompt s :=
    fun _ n _ => Nat.le_trans h (Nat.le_add_left _ n)
  have hfirst : RunWhere FlashPairs.Step (fun _ s _ => FlashPairs.Prompt s) (.boot₀ Bool 2 5) _ _ :=
    RunWhere.refl.quiet (.take true "th/dlog/0".toList rfl) (hprompt (by decide))
  have hsecond := hfirst.quiet (.take false "bt/keys".toList rfl) (hprompt (by decide))
  have hlooked := (hsecond.quiet (.look true rfl) (hprompt (by decide))).quiet (.look false rfl)
    (hprompt (by decide))
  have hbegan := (hlooked.shows (.captureBegin true 5 rfl (Int.le_refl _)) (hprompt (by decide))).shows
    (.captureBegin false 5 rfl (Int.le_refl _)) (hprompt (by decide))
  have hended := (hbegan.quiet (.return true 0 rfl) (hprompt (by decide))).shows
    (.captureEnd true 5 rfl (Int.le_refl _) (Int.le_refl _)) (hprompt (by decide))
  exact (flash_pairs_match 2 5 hended).1 [] first 0 _ _ rfl

end TotemZmk
