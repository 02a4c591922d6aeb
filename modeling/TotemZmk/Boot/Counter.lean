/-
The boot counter of `boot_diagnostics.c`, over any number of boots: a reset
clears the RAM and keeps the flash; in between the settings deliver the stored
value, `totem_boot_diagnostics_loaded` counts, and
`totem_boot_diagnostics_persist` saves.

* `boot_counter_exact`: what is in RAM and what is written, in every boot, and
  what the stored counter comes to.
-/
import TotemZmk.Journal.Boot
import TotemZmk.Lib.Crc
import TotemZmk.Lib.Run
import TotemZmk.Journal.Restore

namespace TotemZmk

open Bytes
open Trace (Run)

/-- `sizeof(boot_counter)` -/
def counterSize : Nat := 8

/-- The bytes of `boot_counter`. -/
def counterBytes (count crc : UInt32) : List UInt8 := putU32 count ++ putU32 crc

/-- `boot_settings_set`, where `read_cb` answers `rc` after it put `data` into
`boot_counter`. -/
def bootSettingsSet (cfg : Config) (bd : BootDiagnostics) (name : List Char) (len : Nat) (rc : Int)
    (data : List UInt8) : BootDiagnostics × Int :=
  if name ≠ "count".toList then (bd, -2) -- `-ENOENT`
  else if bd.bootLoaded then (bd, 0)
  else if len ≠ counterSize then ({ bd with counterStatus := 2 }, 0)
  else
    let data := data.take len
    let bytes := data ++ (counterBytes bd.count bd.crc).drop data.length
    let (count, bytes) := readU32 bytes
    let (crc, _) := readU32 bytes
    (if rc ≠ counterSize ∨ crc ≠ counterCrc cfg count then
        { bd with count := 0, crc := 0, counterStatus := 2 }
      else { bd with count := count, crc := crc, counterStatus := 1 },
      if rc < 0 then rc else 0)

namespace BootCounter

/-- What a read of the stored value comes to. -/
structure Delivery where
  len : Nat
  rc : Int
  data : List UInt8
deriving DecidableEq, Repr

/-- The bytes it leaves in a cleared `boot_counter`. -/
def Delivery.bytes (v : Delivery) : List UInt8 :=
  let data := v.data.take v.len
  data ++ (counterBytes 0 0).drop data.length

/-- Full length, and a matching CRC. -/
def Delivery.Intact (cfg : Config) (v : Delivery) : Prop :=
  v.len = counterSize ∧ v.rc = counterSize ∧
    (readU32 (readU32 v.bytes).2).1 = counterCrc cfg (readU32 v.bytes).1

instance (cfg : Config) (v : Delivery) : Decidable (v.Intact cfg) := by
  unfold Delivery.Intact
  infer_instance

/-- The count it restores. -/
def Delivery.count (cfg : Config) (v : Delivery) : UInt32 :=
  if v.Intact cfg then (readU32 v.bytes).1 else 0

/-- A read of stored bytes without an error. -/
def Delivery.whole (bytes : List UInt8) : Delivery := ⟨bytes.length, bytes.length, bytes⟩

end BootCounter

open BootCounter (Delivery)

/-- The keyboard, as far as the counter goes. -/
structure BootCounter where
  /-- The stored bytes of `tboot/count`. -/
  flash : Option (List UInt8)
  boot : BootDiagnostics
  /-- The stored value has been delivered in this boot. -/
  delivered : Bool

namespace BootCounter

/-- What a history remembers. -/
inductive Obs where
  /-- The keyboard was reset. -/
  | boot
  | settings (name : List Char) (v : Delivery)
  /-- `totem_boot_diagnostics_loaded` was called, with this in flash. -/
  | loaded (flash : Option (List UInt8))
  /-- `totem_boot_diagnostics_persist` was called, and wrote nothing. -/
  | idle
  /-- It wrote these bytes. -/
  | written (bytes : List UInt8) (ok : Bool)
deriving DecidableEq, Repr

/-- The statics of `boot_diagnostics.c` when `main` is entered. -/
def Fresh (bd : BootDiagnostics) : Prop :=
  bd.bootLoaded = false ∧ bd.counterPending = false ∧ bd.count = 0 ∧ bd.crc = 0 ∧
    bd.counterStatus = 0

/-- One call, or a reset. A save that fails leaves the stored value alone. -/
inductive Step (cfg : Config) : BootCounter → Option Obs → BootCounter → Prop where
  | boot {s} (bd : BootDiagnostics) (hb : Fresh bd) :
    Step cfg s (.some .boot) ⟨s.flash, bd, false⟩
  | settings {s} (name : List Char) (v : Delivery)
      (hd : name = "count".toList → s.delivered = false) :
    Step cfg s (.some (.settings name v))
      { s with
        boot := (bootSettingsSet cfg s.boot name v.len v.rc v.data).1
        delivered := s.delivered || decide (name = "count".toList) }
  | loaded {s} (previousUptime : UInt32) (previousProfile previousEndpoint : Int8) :
    Step cfg s (.some (.loaded s.flash))
      { s with
        boot := (totemBootDiagnosticsLoaded cfg s.boot previousUptime previousProfile
          previousEndpoint).1 }
  | idle {s} (hp : s.boot.counterPending = false) (err : Int) :
    Step cfg s (.some .idle) { s with boot := totemBootDiagnosticsPersist s.boot err }
  | persist {s} (hp : s.boot.counterPending = true) (err : Int) :
    Step cfg s (.some (.written (counterBytes s.boot.count s.boot.crc) (decide (err = 0))))
      { s with
        flash := if err = 0 then .some (counterBytes s.boot.count s.boot.crc) else s.flash
        boot := totemBootDiagnosticsPersist s.boot err }

/-! ## The current boot -/

/-- `totem_boot_diagnostics_loaded` was called in this boot. -/
def isLoaded : List Obs → Bool
  | [] | .boot :: _ => false
  | .loaded _ :: _ => true
  | .settings _ _ :: h | .idle :: h | .written _ _ :: h => isLoaded h

/-- A save of this boot succeeded. -/
def isSaved : List Obs → Bool
  | [] | .boot :: _ => false
  | .written _ ok :: h => ok || isSaved h
  | .settings _ _ :: h | .loaded _ :: h | .idle :: h => isSaved h

/-- What was delivered before the first `totem_boot_diagnostics_loaded`. -/
def delivery : List Obs → Option Delivery
  | [] | .boot :: _ => .none
  | .settings name v :: h =>
    if name = "count".toList ∧ isLoaded h = false then .some v else delivery h
  | .loaded _ :: h | .idle :: h | .written _ _ :: h => delivery h

/-- The restored value, or 0. -/
def restored (cfg : Config) (h : List Obs) : UInt32 :=
  match delivery h with
  | .none => 0
  | .some v => v.count cfg

/-- The number of this boot. -/
def number (cfg : Config) (h : List Obs) : UInt32 := restored cfg h + 1

/-! ## Over the boots -/

/-- The boots that had a successful save. -/
def savedBoots : List Obs → Nat
  | [] => 0
  | .written _ ok :: h => if ok = true ∧ isSaved h = false then savedBoots h + 1 else savedBoots h
  | .boot :: h | .settings _ _ :: h | .loaded _ :: h | .idle :: h => savedBoots h

/-- Whenever a boot counted, it had been delivered what was stored, intact, or
nothing where nothing is stored. -/
def Delivered (cfg : Config) : List Obs → Prop
  | [] => True
  | .loaded flash :: h =>
    (isLoaded h = true ∨ delivery h = flash.map Delivery.whole ∧
      ∀ v, delivery h = .some v → v.Intact cfg) ∧ Delivered cfg h
  | .boot :: h | .settings _ _ :: h | .idle :: h | .written _ _ :: h => Delivered cfg h

/-- The count that is stored, 0 where nothing is. -/
def stored : Option (List UInt8) → UInt32
  | .none => 0
  | .some bytes => (readU32 bytes).1

/-! ## What a step keeps -/

/-- What holds of a history and the state it leads to. -/
structure Inv (cfg : Config) (h : List Obs) (s : BootCounter) : Prop where
  loaded : s.boot.bootLoaded = isLoaded h
  fresh : isLoaded h = false → delivery h = .none → s.boot.count = 0 ∧ s.boot.crc = 0
  delivered : isLoaded h = false → s.delivered = false → delivery h = .none
  before : isLoaded h = false → s.boot.count = restored cfg h
  after : isLoaded h = true →
    s.boot.count = number cfg h ∧ s.boot.crc = counterCrc cfg s.boot.count
  pending : s.boot.counterPending = (isLoaded h && !isSaved h)
  saved : isSaved h = true → isLoaded h = true

theorem inv_fresh {cfg : Config} {flash : Option (List UInt8)} {bd : BootDiagnostics} (hb : Fresh bd)
    {h : List Obs} (hl : isLoaded h = false) (hs : isSaved h = false) (hd : delivery h = .none) :
    Inv cfg h ⟨flash, bd, false⟩ where
  loaded := by rw [hl]; exact hb.1
  fresh := fun _ _ => ⟨hb.2.2.1, hb.2.2.2.1⟩
  delivered := fun _ _ => hd
  before := by
    intro _
    unfold restored
    rw [hd]
    exact hb.2.2.1
  after := by intro hl'; rw [hl] at hl'; cases hl'
  pending := by rw [hl, hs]; exact hb.2.1
  saved := by intro hs'; rw [hs] at hs'; cases hs'

section

variable {cfg : Config} {h : List Obs} {s : BootCounter}

/-- The value a callback leaves in a cleared counter. -/
theorem count_bootSettingsSet {bd : BootDiagnostics} (hl : bd.bootLoaded = false)
    (hz : bd.count = 0 ∧ bd.crc = 0) (v : Delivery) :
    (bootSettingsSet cfg bd "count".toList v.len v.rc v.data).1.count = v.count cfg ∧
      (bootSettingsSet cfg bd "count".toList v.len v.rc v.data).1.bootLoaded = false ∧
      (bootSettingsSet cfg bd "count".toList v.len v.rc v.data).1.counterPending =
        bd.counterPending := by
  unfold bootSettingsSet
  rw [if_neg (fun hne => hne rfl), if_neg (by simp [hl])]
  by_cases hlen : v.len = counterSize
  · rw [if_neg (fun hne => hne hlen)]
    simp only [hz]
    split
    · rename_i hbad
      refine ⟨?_, hl, rfl⟩
      rw [Delivery.count, if_neg]
      intro hx
      obtain ⟨-, hrc, hcrc⟩ := hx
      exact hbad.elim (fun hne => hne hrc) fun hne => hne hcrc
    · rename_i hgood
      rw [not_or, not_not, not_not] at hgood
      refine ⟨?_, hl, rfl⟩
      rw [Delivery.count, if_pos ⟨hlen, hgood.1, hgood.2⟩]
      rfl
  · rw [if_pos hlen]
    refine ⟨?_, hl, rfl⟩
    rw [Delivery.count, if_neg fun hi => hlen hi.1]
    exact hz.1

theorem Inv.settings (hi : Inv cfg h s) (name : List Char) (v : Delivery)
    (hd : name = "count".toList → s.delivered = false) :
    Inv cfg (.settings name v :: h)
      { s with
        boot := (bootSettingsSet cfg s.boot name v.len v.rc v.data).1
        delivered := s.delivered || decide (name = "count".toList) } := by
  by_cases hname : name = "count".toList
  · subst hname
    cases hl : isLoaded h with
    | true =>
      -- A late callback is ignored.
      have hboot : (bootSettingsSet cfg s.boot "count".toList v.len v.rc v.data).1 = s.boot := by
        unfold bootSettingsSet
        rw [if_neg (fun hne => hne rfl), if_pos (hi.loaded.trans hl)]
      have hdelivery : delivery (.settings "count".toList v :: h) = delivery h := by
        simp [delivery, hl]
      have hloaded : isLoaded (.settings "count".toList v :: h) = true := hl
      have hnumber : number cfg (.settings "count".toList v :: h) = number cfg h := by
        unfold number restored
        rw [hdelivery]
      refine ⟨?_, ?_, ?_, ?_, ?_, ?_, hi.saved⟩
      · rw [hboot]
        exact hi.loaded
      · intro hno; rw [hloaded] at hno; cases hno
      · intro hno; rw [hloaded] at hno; cases hno
      · intro hno; rw [hloaded] at hno; cases hno
      · intro _
        rw [hboot, hnumber]
        exact hi.after hl
      · rw [hboot]
        exact hi.pending
    | false =>
      have hz := hi.fresh hl (hi.delivered hl (hd rfl))
      obtain ⟨hcount, hbl, hp⟩ := @count_bootSettingsSet cfg s.boot (hi.loaded.trans hl) hz v
      have hdelivery : delivery (.settings "count".toList v :: h) = .some v := by
        simp [delivery, hl]
      have hloaded : isLoaded (.settings "count".toList v :: h) = false := hl
      refine ⟨?_, ?_, ?_, ?_, ?_, ?_, hi.saved⟩
      · exact hbl.trans hloaded.symm
      · intro _ hno; rw [hdelivery] at hno; cases hno
      · intro _ hno; simp at hno
      · intro _
        unfold restored
        rw [hdelivery]
        exact hcount
      · intro hyes; rw [hloaded] at hyes; cases hyes
      · exact hp.trans hi.pending
  · have hboot : (bootSettingsSet cfg s.boot name v.len v.rc v.data).1 = s.boot := by
      unfold bootSettingsSet
      rw [if_pos hname]
    have hdelivery : delivery (.settings name v :: h) = delivery h := by
      rw [delivery, if_neg fun hc => hname hc.1]
    have hrestored : restored cfg (.settings name v :: h) = restored cfg h := by
      unfold restored
      rw [hdelivery]
    refine ⟨?_, ?_, ?_, ?_, ?_, ?_, hi.saved⟩
    · rw [hboot]
      exact hi.loaded
    · rw [hboot, hdelivery]
      exact hi.fresh
    · rw [hdelivery]
      intro hl hno
      exact hi.delivered hl (by rw [Bool.or_eq_false_iff] at hno; exact hno.1)
    · rw [hboot, hrestored]
      exact hi.before
    · unfold number
      rw [hboot, hrestored]
      exact hi.after
    · rw [hboot]
      exact hi.pending

theorem Inv.load (hi : Inv cfg h s) (flash : Option (List UInt8)) (u : UInt32) (p e : Int8) :
    Inv cfg (.loaded flash :: h)
      { s with boot := (totemBootDiagnosticsLoaded cfg s.boot u p e).1 } := by
  have hl := hi.loaded
  unfold totemBootDiagnosticsLoaded
  cases hload : isLoaded h with
  | true =>
    rw [hload] at hl
    rw [if_pos hl]
    refine ⟨hl, ?_, ?_, ?_, fun _ => hi.after hload, ?_, fun _ => rfl⟩
    · intro hno; cases hno
    · intro hno; cases hno
    · intro hno; cases hno
    · rw [hi.pending, hload]
      rfl
  | false =>
    rw [hload] at hl
    have hs : isSaved h = false := by
      by_contra hyes
      have := hi.saved (by simpa using hyes)
      rw [hload] at this
      cases this
    rw [if_neg (by simp [hl])]
    refine ⟨rfl, ?_, ?_, ?_, ?_, ?_, fun _ => rfl⟩
    · intro hno; cases hno
    · intro hno; cases hno
    · intro hno; cases hno
    · intro _
      refine ⟨?_, rfl⟩
      show s.boot.count + 1 = restored cfg h + 1
      rw [hi.before hload]
    · show true = (true && !isSaved h)
      rw [hs]
      rfl

theorem Inv.idle (hi : Inv cfg h s) (hp : s.boot.counterPending = false) (err : Int) :
    Inv cfg (.idle :: h) { s with boot := totemBootDiagnosticsPersist s.boot err } := by
  have hboot : totemBootDiagnosticsPersist s.boot err = s.boot := by
    unfold totemBootDiagnosticsPersist
    rw [if_neg (by simp [hp])]
  rw [hboot]
  exact ⟨hi.loaded, hi.fresh, hi.delivered, hi.before, hi.after, hi.pending, hi.saved⟩

theorem Inv.persist (hi : Inv cfg h s) (hp : s.boot.counterPending = true) (err : Int)
    (flash : Option (List UInt8)) (bytes : List UInt8) :
    Inv cfg (.written bytes (decide (err = 0)) :: h)
      { s with flash := flash, boot := totemBootDiagnosticsPersist s.boot err } := by
  have hpending := hi.pending
  rw [hp, eq_comm, Bool.and_eq_true] at hpending
  unfold totemBootDiagnosticsPersist
  by_cases he : err = 0
  · rw [if_pos ⟨hp, he⟩]
    refine ⟨hi.loaded, hi.fresh, hi.delivered, hi.before, hi.after, ?_, fun _ => hpending.1⟩
    simp [isSaved, he]
  · rw [if_neg fun hc => he hc.2]
    refine ⟨hi.loaded, hi.fresh, hi.delivered, hi.before, hi.after, ?_, fun _ => hpending.1⟩
    simpa [isSaved, isLoaded, he] using hi.pending

theorem Inv.step {s' : BootCounter} {o : Option Obs} (hi : Inv cfg h s) (hs : Step cfg s o s') :
    Inv cfg (o.toList ++ h) s' := by
  cases hs with
  | boot bd hb => exact inv_fresh hb rfl rfl rfl
  | settings name v hd => exact hi.settings name v hd
  | loaded u p e => exact hi.load _ u p e
  | idle hp err => exact hi.idle hp err
  | persist hp err => exact hi.persist hp err _ _

theorem inv_run {flash : Option (List UInt8)} {bd : BootDiagnostics} (hb : Fresh bd)
    (hr : Run (Step cfg) ⟨flash, bd, false⟩ h s) : Inv cfg h s :=
  hr.invariant (inv_fresh hb rfl rfl rfl) Inv.step

/-! ## The stored counter -/

theorem stored_counterBytes (count crc : UInt32) :
    stored (.some (counterBytes count crc)) = count := by
  rw [stored, counterBytes, readU32_putU32]

theorem count_whole {bytes : List UInt8} (hi : (Delivery.whole bytes).Intact cfg) :
    (Delivery.whole bytes).count cfg = stored (.some bytes) := by
  have hlen : bytes.length = 8 := hi.1
  have hbytes : (Delivery.whole bytes).bytes = bytes := by
    unfold Delivery.bytes Delivery.whole
    dsimp only
    rw [List.take_length, hlen]
    exact List.append_nil bytes
  rw [Delivery.count, if_pos hi, hbytes, stored]

/-- What a boot writes is intact when it is read back. -/
theorem intact_counterBytes (cfg : Config) (count : UInt32) :
    (Delivery.whole (counterBytes count (counterCrc cfg count))).Intact cfg := by
  have hlen : (counterBytes count (counterCrc cfg count)).length = 8 := by simp [counterBytes]
  have hbytes : (Delivery.whole (counterBytes count (counterCrc cfg count))).bytes =
      putU32 count ++ (putU32 (counterCrc cfg count) ++ []) := by
    unfold Delivery.bytes Delivery.whole
    dsimp only
    rw [List.take_length, hlen, List.append_nil]
    exact List.append_nil _
  refine ⟨hlen, by rw [Delivery.whole, hlen]; rfl, ?_⟩
  rw [hbytes, readU32_putU32, readU32_putU32]

/-- With intact deliveries, what is stored has grown by the boots that saved;
this boot's number is one more until it is saved. -/
structure Grown (first : UInt32) (h : List Obs) (s : BootCounter) : Prop where
  total : stored s.flash = first + UInt32.ofNat (savedBoots h)
  unsaved : isLoaded h = true → isSaved h = false → s.boot.count = stored s.flash + 1

theorem Grown.step {first : UInt32} {s' : BootCounter} {o : Option Obs} (hi : Inv cfg h s)
    (hg : Delivered cfg h → Grown first h s) (hs : Step cfg s o s')
    (hd : Delivered cfg (o.toList ++ h)) : Grown first (o.toList ++ h) s' := by
  have hi' := hi.step hs
  cases hs with
  | boot bd hb => exact ⟨(hg hd).total, by intro hl; cases hl⟩
  | settings name v hdel =>
    refine ⟨(hg hd).total, ?_⟩
    intro hl hsv
    have hcount := (hg hd).unsaved hl hsv
    -- The call comes after the count, and is ignored.
    have hboot : (bootSettingsSet cfg s.boot name v.len v.rc v.data).1 = s.boot := by
      unfold bootSettingsSet
      split
      · rfl
      · rw [if_pos (hi.loaded.trans hl)]
    show (bootSettingsSet cfg s.boot name v.len v.rc v.data).1.count = _
    rw [hboot]
    exact hcount
  | loaded u p e =>
    have hboth : Delivered cfg (.loaded s.flash :: h) := hd
    obtain ⟨hfirst, hd⟩ := hboth
    refine ⟨(hg hd).total, ?_⟩
    intro _ hsv
    have hcount := (hi'.after rfl).1
    rw [hcount]
    show restored cfg h + 1 = stored s.flash + 1
    rcases hfirst with hl | ⟨hdel, hint⟩
    · have hold := (hg hd).unsaved hl hsv
      rw [(hi.after hl).1] at hold
      exact hold
    · unfold restored
      cases hf : s.flash with
      | none =>
        rw [hf] at hdel
        rw [hdel]
        rfl
      | some bytes =>
        rw [hf, Option.map_some] at hdel
        rw [hdel]
        rw [← count_whole (hint _ hdel)]
  | idle hp err =>
    have hboot : totemBootDiagnosticsPersist s.boot err = s.boot := by
      unfold totemBootDiagnosticsPersist
      rw [if_neg (by simp [hp])]
    rw [hboot]
    exact ⟨(hg hd).total, (hg hd).unsaved⟩
  | persist hp err =>
    have hpending := hi.pending
    rw [hp, eq_comm, Bool.and_eq_true, Bool.not_eq_true'] at hpending
    have hcount := (hg hd).unsaved hpending.1 hpending.2
    have hstored := (hg hd).total
    by_cases he : err = 0
    · refine ⟨?_, by intro _ hsv; simp [isSaved, he] at hsv⟩
      show stored (if err = 0 then _ else _) = first + UInt32.ofNat (savedBoots (.written _ _ :: h))
      rw [if_pos he, stored_counterBytes, hcount, hstored, savedBoots,
        if_pos ⟨by simp [he], hpending.2⟩, UInt32.ofNat_add, UInt32.add_assoc]
      rfl
    · refine ⟨?_, ?_⟩
      · show stored (if err = 0 then _ else _) = first + UInt32.ofNat (savedBoots (.written _ _ :: h))
        rw [if_neg he, savedBoots, if_neg (by simp [he])]
        exact hstored
      · intro _ _
        show (totemBootDiagnosticsPersist s.boot err).count = stored (if err = 0 then _ else _) + 1
        unfold totemBootDiagnosticsPersist
        rw [if_neg he, if_neg fun hc => he hc.2]
        exact hcount

end

end BootCounter

/-- **The boot counter counts boots exactly.** Once counted, RAM holds the
restored value plus one for the rest of the boot, whatever is delivered late.
Every write is of this number with its CRC, and comes before any that
succeeded in the boot; a persist call that writes nothing found nothing left
to save. With the stored value delivered intact before each count, the stored
counter grows by the number of boots that had a successful save. -/
theorem boot_counter_exact {cfg : Config} {flash : Option (List UInt8)} {bd : BootDiagnostics}
    (hb : BootCounter.Fresh bd) {h : List BootCounter.Obs} {s : BootCounter}
    (hr : Run (BootCounter.Step cfg) ⟨flash, bd, false⟩ h s) :
    (BootCounter.isLoaded h = true → s.boot.count = BootCounter.number cfg h) ∧
    (∀ later bytes ok earlier, h = later ++ .written bytes ok :: earlier →
      BootCounter.isLoaded earlier = true ∧ BootCounter.isSaved earlier = false ∧
      bytes = counterBytes (BootCounter.number cfg earlier)
        (counterCrc cfg (BootCounter.number cfg earlier))) ∧
    (∀ later earlier, h = later ++ .idle :: earlier →
      BootCounter.isLoaded earlier = false ∨ BootCounter.isSaved earlier = true) ∧
    (BootCounter.Delivered cfg h → BootCounter.stored s.flash =
      BootCounter.stored flash + UInt32.ofNat (BootCounter.savedBoots h)) := by
  have hi := BootCounter.inv_run hb hr
  refine ⟨fun hl => (hi.after hl).1, ?_, ?_, ?_⟩
  · intro later bytes ok earlier he
    obtain ⟨s₁, s₂, h₁, hs, -⟩ := hr.split he
    have hi₁ := BootCounter.inv_run hb h₁
    generalize ho : Option.some (BootCounter.Obs.written bytes ok) = o at hs
    cases hs with
    | persist hp err =>
      have hpending := hi₁.pending
      rw [hp, eq_comm, Bool.and_eq_true, Bool.not_eq_true'] at hpending
      obtain ⟨hcount, hcrc⟩ := hi₁.after hpending.1
      simp only [Option.some.injEq, BootCounter.Obs.written.injEq] at ho
      refine ⟨hpending.1, hpending.2, ?_⟩
      rw [ho.1, hcrc, hcount]
    | boot | settings | loaded | idle => cases ho
  · intro later earlier he
    obtain ⟨s₁, s₂, h₁, hs, -⟩ := hr.split he
    have hi₁ := BootCounter.inv_run hb h₁
    generalize ho : Option.some BootCounter.Obs.idle = o at hs
    cases hs with
    | idle hp err =>
      have hpending := hi₁.pending
      rw [hp, eq_comm, Bool.and_eq_false_iff, Bool.not_eq_false'] at hpending
      exact hpending
    | boot | settings | loaded | persist => cases ho
  · intro hd
    have hgrown := hr.invariant_with
      (P := BootCounter.Inv cfg)
      (Q := fun h s => BootCounter.Delivered cfg h →
        BootCounter.Grown (BootCounter.stored flash) h s)
      (BootCounter.inv_run hb) (fun _ => ⟨(UInt32.add_zero _).symm, by intro hl; cases hl⟩)
      (fun hi hg hs hd => BootCounter.Grown.step hi hg hs hd)
    exact (hgrown hd).total

/-- A boot with nothing to report. -/
def freshBoot : BootDiagnostics := ⟨0, 0, 0, 0, 0, 0, false, false, 0, 0, 0, 0, 0⟩

/-- Two boots on empty flash, each with a successful save. -/
theorem boot_counter_exact_twice :
    ∃ h s, Run (BootCounter.Step shippedConfig) ⟨.none, freshBoot, false⟩ h s ∧
      BootCounter.savedBoots h = 2 ∧ BootCounter.stored s.flash = 2 := by
  let bytes := counterBytes 1 (counterCrc shippedConfig 1)
  have hfresh : BootCounter.Fresh freshBoot := ⟨rfl, rfl, rfl, rfl, rfl⟩
  have hload : Run (BootCounter.Step shippedConfig) ⟨.none, freshBoot, false⟩ [.loaded .none] _ :=
    Run.refl.shows (.loaded 0 (-1) (-1))
  have hsave := hload.shows (.persist rfl 0)
  have hboot : Run (BootCounter.Step shippedConfig) ⟨.none, freshBoot, false⟩
      [.boot, .written bytes true, .loaded .none] ⟨.some bytes, freshBoot, false⟩ :=
    hsave.shows (.boot freshBoot hfresh)
  have hdeliver := hboot.shows (.settings "count".toList (Delivery.whole bytes) fun _ => rfl)
  have hload' : Run (BootCounter.Step shippedConfig) ⟨.none, freshBoot, false⟩
      [.loaded (.some bytes), .settings "count".toList (Delivery.whole bytes), .boot,
        .written bytes true, .loaded .none] _ := hdeliver.shows (.loaded 0 (-1) (-1))
  have hsave' := hload'.shows (.persist (BootCounter.inv_run hfresh hload').pending 0)
  refine ⟨_, _, hsave', rfl, ?_⟩
  refine (boot_counter_exact hfresh hsave').2.2.2 ⟨.inr ⟨rfl, ?_⟩, .inr ⟨rfl, ?_⟩, trivial⟩
  · intro v hv
    cases hv
    exact BootCounter.intact_counterBytes shippedConfig 1
  · intro v hv
    cases hv


end TotemZmk
