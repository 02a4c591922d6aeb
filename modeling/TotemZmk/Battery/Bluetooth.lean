/-
The levels over Bluetooth: which half `totem_battery_windows.py` shows each level of
a device for.

* `half_for_plain`: a level without a description is of the half no description
  names, if they name the other.
* `readService_eq`: what a service adds, and which levels its status is of.
* `ble_levels_exact`: what each half is shown with.
-/
import TotemZmk.Battery.Snapshot

namespace TotemZmk

open Text

/-- `str.lower` -/
abbrev Lower := List Char → List Char

/-- `sub in text` -/
def isIn (sub text : List Char) : Bool := text.tails.any fun tail => sub.isPrefixOf tail

/-- `named_half` -/
def namedHalf (lower : Lower) (description : List Char) : Option Half :=
  let text := lower description
  if isIn "left".toList text || isIn "central".toList text then .some .left
  else if isIn "right".toList text || isIn "peripheral".toList text then .some .right
  else .none

/-- `half_for` -/
def halfFor (lower : Lower) (description : Option (List Char)) (siblings : List (Option (List Char))) :
    Option Half :=
  match description with
  | .some description => namedHalf lower description
  | .none =>
    let named := siblings.filterMap fun d => d.bind (namedHalf lower)
    if named ≠ [] ∧ ∀ half ∈ named, half = .left then .some .right
    else if named ≠ [] ∧ ∀ half ∈ named, half = .right then .some .left
    else .none

/-- `charging_from_status` -/
def chargingFromStatus (value : List UInt8) : Option Bool :=
  match value with
  | _ :: low :: high :: _ =>
    let powerState := low.toNat ||| (high.toNat <<< 8)
    let state := (powerState >>> 5) &&& 0x3
    if state = 1 then .some true
    else if state = 2 ∨ state = 3 then .some false
    else .none
  | _ => .none

/-- A characteristic of the Battery Service, with what reading it gave: a status,
a level, with its User Description if there is one, or another. -/
inductive BatteryChar where
  | status (value : Option (List UInt8))
  | level (value : Option (List UInt8)) (description : Option (List UInt8))
  | other
deriving DecidableEq, Repr

/-- `text.decode("utf-8", errors="replace").rstrip("\x00")` -/
def decodeDescription (text : List UInt8) : List Char :=
  ((Utf8.decodeReplace text).reverse.dropWhile fun c => c = '\x00').reverse

/-- An entry of `raw`: the description, the level, and whether it is charging. -/
structure RawLevel where
  description : Option (List Char)
  percent : Nat
  charging : Option Bool
deriving DecidableEq, Repr

/-- The body of the loop over a service's characteristics: `charging`, and the
levels so far. -/
def readChar (read : Option Bool × List (Option (List Char) × Nat)) (char : BatteryChar) :
    Option Bool × List (Option (List Char) × Nat) :=
  match char with
  | .status (.some value) => (chargingFromStatus value, read.2)
  | .level (.some (percent :: _)) description =>
    (read.1, read.2 ++ [(description.map decodeDescription, percent.toNat)])
  | .status .none | .level .none _ | .level (.some []) _ | .other => read

/-- What a service adds to `raw`. The status belongs to the levels without a
description. -/
def readService (chars : List BatteryChar) : List RawLevel :=
  let (charging, levels) := chars.foldl readChar (.none, [])
  levels.map fun (description, percent) =>
    ⟨description, percent, if description = .none then charging else .none⟩

/-- `raw`. A service whose characteristics could not be read is left out. -/
def rawLevels (services : List (Option (List BatteryChar))) : List RawLevel :=
  services.flatMap fun chars => (chars.map readService).getD []

/-- The body of the loop over `raw`. -/
def assignLevel (lower : Lower) (siblings : List (Option (List Char))) (result : Levels)
    (level : RawLevel) : Levels :=
  match halfFor lower level.description siblings with
  | .some half => Dict.set result half (level.percent, level.charging)
  | .none => result

/-- `result`, as the loop over `raw` leaves it. -/
def assignLevels (lower : Lower) (raw : List RawLevel) : Levels :=
  raw.foldl (assignLevel lower (raw.map RawLevel.description)) []

/-- `read_levels`, where the service could be opened. -/
def readLevels (lower : Lower) (services : List (Option (List BatteryChar))) : Levels :=
  let raw := rawLevels services
  let result := assignLevels lower raw
  match result, raw with
  -- not a split: one level
  | [], [level] => Dict.set result .left (level.percent, level.charging)
  | _, _ => result

/-! ## Which half a level is of -/

/-- The descriptions name a half. -/
def Names (lower : Lower) (siblings : List (Option (List Char))) (half : Half) : Prop :=
  ∃ description, .some description ∈ siblings ∧ namedHalf lower description = .some half

section

variable {lower : Lower} {siblings : List (Option (List Char))} {half : Half}

theorem mem_named : half ∈ siblings.filterMap (fun d => d.bind (namedHalf lower)) ↔
    Names lower siblings half := by
  simp [Names, List.mem_filterMap, Option.bind_eq_some_iff]

theorem only_iff {named : List Half} : (named ≠ [] ∧ ∀ half' ∈ named, half' = half) ↔
    half ∈ named ∧ half.other ∉ named := by
  have hother (half' : Half) : half' = half ∨ half' = half.other := by
    cases half <;> cases half' <;> decide
  have hne : half.other ≠ half := by cases half <;> decide
  constructor
  · intro h
    obtain ⟨hsome, hall⟩ := h
    obtain ⟨half', hm⟩ := List.exists_mem_of_ne_nil _ hsome
    exact ⟨hall half' hm ▸ hm, fun hm' => hne (hall _ hm')⟩
  · intro h
    obtain ⟨hm, hnone⟩ := h
    refine ⟨List.ne_nil_of_mem hm, fun half' hm' => ?_⟩
    exact (hother half').resolve_right fun he => hnone (he ▸ hm')

/-- **A level without a description** is of the half that no description names, if
they name the other. -/
theorem half_for_plain : halfFor lower .none siblings = .some half ↔
    Names lower siblings half.other ∧ ¬ Names lower siblings half := by
  have honly (half : Half) : (siblings.filterMap (fun d => d.bind (namedHalf lower)) ≠ [] ∧
      ∀ half' ∈ siblings.filterMap (fun d => d.bind (namedHalf lower)), half' = half) ↔
      Names lower siblings half ∧ ¬ Names lower siblings half.other := by
    rw [only_iff, mem_named, mem_named]
  have hleft : Half.left.other = .right := rfl
  have hright : Half.right.other = .left := rfl
  classical
  unfold halfFor
  dsimp only
  rw [if_congr (honly .left) rfl (if_congr (honly .right) rfl rfl), hleft, hright]
  by_cases hl : Names lower siblings .left
  · by_cases hr : Names lower siblings .right
    · cases half <;> simp [hl, hr, hleft, hright]
    · cases half <;> simp [hl, hr, hleft, hright]
  · by_cases hr : Names lower siblings .right
    · cases half <;> simp [hl, hr, hleft, hright]
    · cases half <;> simp [hl, hr, hleft, hright]

/-! ## What each half is shown with -/

/-- The levels whose description names a half. -/
def described (lower : Lower) (raw : List RawLevel) (half : Half) : List RawLevel :=
  raw.filter fun level => level.description.bind (namedHalf lower) = .some half

/-- The levels without a description. -/
def plain (raw : List RawLevel) : List RawLevel :=
  raw.filter fun level => level.description = .none

/-- What is shown of a level. -/
def RawLevel.shown (level : RawLevel) : Nat × Option Bool := (level.percent, level.charging)

variable {raw : List RawLevel}

theorem names_iff : Names lower (raw.map RawLevel.description) half ↔
    described lower raw half ≠ [] := by
  have hmem (level : RawLevel) : level ∈ described lower raw half ↔
      level ∈ raw ∧ level.description.bind (namedHalf lower) = .some half := by
    simp [described]
  constructor
  · intro h
    obtain ⟨description, hm, hnamed⟩ := h
    obtain ⟨level, hm, hd⟩ := List.mem_map.mp hm
    exact List.ne_nil_of_mem ((hmem level).mpr ⟨hm, by rw [hd]; exact hnamed⟩)
  · intro h
    obtain ⟨level, hm⟩ := List.exists_mem_of_ne_nil _ h
    obtain ⟨hm, hnamed⟩ := (hmem level).mp hm
    obtain ⟨description, hd, hnamed⟩ := Option.bind_eq_some_iff.mp hnamed
    exact ⟨description, List.mem_map.mpr ⟨level, hm, hd⟩, hnamed⟩

/-- Which half a level is shown for. -/
def RawLevel.halfOf (lower : Lower) (raw : List RawLevel) (level : RawLevel) : Option Half :=
  halfFor lower level.description (raw.map RawLevel.description)

/-- The levels shown for a half that a description names are those it names. -/
theorem shown_described (h : described lower raw half ≠ []) :
    raw.filter (fun level => level.halfOf lower raw = .some half) = described lower raw half := by
  refine List.filter_congr fun level _ => decide_eq_decide.mpr ?_
  unfold RawLevel.halfOf
  cases hd : level.description with
  | some description => exact Iff.rfl
  | none =>
    rw [half_for_plain, names_iff, names_iff]
    simp [h]

/-- No description names a half without described levels. -/
theorem not_named {description : List Char} {level : RawLevel} (h : described lower raw half = [])
    (hm : level ∈ raw) (hd : level.description = .some description) :
    ¬ halfFor lower (.some description) (raw.map RawLevel.description) = .some half := by
  intro hnamed
  have hnamed : namedHalf lower description = .some half := hnamed
  have hmem : level ∈ described lower raw half := by
    simp [described, hm, hd, hnamed]
  rw [h] at hmem
  exact List.not_mem_nil hmem

theorem shown_plain (h : described lower raw half = [])
    (hother : described lower raw half.other ≠ []) :
    raw.filter (fun level => level.halfOf lower raw = .some half) = plain raw := by
  refine List.filter_congr fun level hm => decide_eq_decide.mpr ?_
  unfold RawLevel.halfOf
  cases hd : level.description with
  | some description => simpa using not_named h hm hd
  | none =>
    rw [half_for_plain, names_iff, names_iff]
    simp [h, hother]

theorem shown_none (h : described lower raw half = [])
    (hother : described lower raw half.other = []) :
    raw.filter (fun level => level.halfOf lower raw = .some half) = [] := by
  refine List.filter_eq_nil_iff.mpr fun level hm => ?_
  rw [decide_eq_true_eq]
  unfold RawLevel.halfOf
  cases hd : level.description with
  | some description => exact not_named h hm hd
  | none =>
    rw [half_for_plain, names_iff]
    simp [hother]

theorem get_assignLevel (result : Levels) (level : RawLevel) :
    Dict.get (assignLevel lower (raw.map RawLevel.description) result level) half =
      if level.halfOf lower raw = .some half then .some level.shown else Dict.get result half := by
  unfold assignLevel
  change Dict.get (match level.halfOf lower raw with
    | .some half => Dict.set result half (level.percent, level.charging)
    | .none => result) half = _
  cases level.halfOf lower raw with
  | none => simp
  | some half' => simp [Dict.get_set, RawLevel.shown, eq_comm]

theorem get_assignLevels (lower : Lower) (raw : List RawLevel) (half : Half) :
    Dict.get (assignLevels lower raw) half =
    ((raw.filter fun level => level.halfOf lower raw = .some half).map RawLevel.shown).getLast? := by
  unfold assignLevels
  rw [Dict.get_foldl get_assignLevel, Dict.get_nil, Option.or_none]

/-- Without a level shown, none of the halves is named. -/
theorem assignLevels_eq_nil (h : assignLevels lower raw = []) : described lower raw half = [] := by
  by_contra hsome
  have hget := get_assignLevels lower raw half
  rw [h, shown_described hsome, Dict.get_nil, eq_comm, List.getLast?_eq_none_iff] at hget
  exact hsome (List.map_eq_nil_iff.mp hget)

/-! ## What a service adds -/

/-- The charge state that a status was read to say. -/
def BatteryChar.charge : BatteryChar → Option (Option Bool)
  | .status value => value.map chargingFromStatus
  | .level _ _ | .other => .none

/-- The description and the percentage of a level that was read. -/
def BatteryChar.reading : BatteryChar → Option (Option (List Char) × Nat)
  | .level (.some (percent :: _)) description =>
    .some (description.map decodeDescription, percent.toNat)
  | .level (.some []) _ | .level .none _ | .status _ | .other => .none

theorem readChar_foldl (chars : List BatteryChar) (charging : Option Bool)
    (levels : List (Option (List Char) × Nat)) :
    chars.foldl readChar (charging, levels) =
      ((chars.filterMap BatteryChar.charge).getLast?.getD charging,
        levels ++ chars.filterMap BatteryChar.reading) := by
  induction chars generalizing charging levels with
  | nil => simp
  | cons char chars ih =>
    rw [List.foldl_cons]
    cases char with
    | status value =>
      cases value with
      | none => simp [readChar, ih, BatteryChar.charge, BatteryChar.reading, List.filterMap_cons]
      | some value =>
        simp [readChar, ih, BatteryChar.charge, BatteryChar.reading, List.filterMap_cons,
          List.getLast?_cons]
    | level value description =>
      match value with
      | .none | .some [] => simp [readChar, ih, BatteryChar.charge, BatteryChar.reading, List.filterMap_cons]
      | .some (percent :: value) =>
        simp [readChar, ih, BatteryChar.charge, BatteryChar.reading, List.filterMap_cons]
    | other => simp [readChar, ih, BatteryChar.charge, BatteryChar.reading, List.filterMap_cons]

/-- **A service** adds its levels in their order, and the last status read is of
those without a description, wherever it stands among them. -/
theorem readService_eq (chars : List BatteryChar) :
    readService chars = (chars.filterMap BatteryChar.reading).map fun (description, percent) =>
      ⟨description, percent, if description = .none then
        (chars.filterMap BatteryChar.charge).getLast?.join else .none⟩ := by
  unfold readService
  rw [readChar_foldl, List.nil_append]
  cases (chars.filterMap BatteryChar.charge).getLast? <;> rfl

theorem charging_of_described {services : List (Option (List BatteryChar))} {level : RawLevel}
    (hm : level ∈ rawLevels services) (hd : level.description ≠ .none) : level.charging = .none := by
  obtain ⟨chars, -, hm⟩ := List.mem_flatMap.mp hm
  cases chars with
  | none => exact absurd hm List.not_mem_nil
  | some chars =>
    rw [Option.map_some, Option.getD_some, readService_eq] at hm
    obtain ⟨reading, -, hlevel⟩ := List.mem_map.mp hm
    rw [← hlevel] at hd ⊢
    exact if_neg hd

/-- Where some half is named, `read_levels` returns what the loop left. -/
theorem readLevels_of_named {services : List (Option (List BatteryChar))}
    (h : described lower (rawLevels services) half ≠ []) :
    readLevels lower services = assignLevels lower (rawLevels services) := by
  have hsome : assignLevels lower (rawLevels services) ≠ [] := fun hnil =>
    h (assignLevels_eq_nil hnil)
  unfold readLevels
  dsimp only
  split
  · rename_i hnil _
    exact absurd hnil hsome
  · rfl

theorem assignLevels_of_none (h : ∀ half, described lower raw half = []) :
    assignLevels lower raw = [] := by
  refine Dict.eq_nil_of_get fun half => ?_
  rw [get_assignLevels, shown_none (h half) (h half.other)]
  rfl

/-- **What each half is shown with.** The last level whose description names it,
without a charge state. A half that none names has the last level without a
description, where the other half is named. Where neither is, a single level is of
the left half. -/
theorem ble_levels_exact (lower : Lower) (services : List (Option (List BatteryChar))) (half : Half) :
    Dict.get (readLevels lower services) half =
      match (described lower (rawLevels services) half).getLast?,
        (described lower (rawLevels services) half.other).getLast? with
      | .some level, _ => .some (level.percent, .none)
      | .none, .some _ => (plain (rawLevels services)).getLast?.map RawLevel.shown
      | .none, .none =>
        match half, rawLevels services with
        | .left, [level] => .some level.shown
        | _, _ => .none := by
  cases hnamed : (described lower (rawLevels services) half).getLast? with
  | some level =>
    have hsome : described lower (rawLevels services) half ≠ [] := by
      intro h
      simp [h] at hnamed
    have hmem := List.mem_filter.mp (List.mem_of_getLast? hnamed)
    have hdesc : level.description ≠ .none := by
      intro h
      simp [h] at hmem
    rw [readLevels_of_named hsome, get_assignLevels, shown_described hsome, List.getLast?_map, hnamed]
    simp [RawLevel.shown, charging_of_described hmem.1 hdesc]
  | none =>
    have hnone := List.getLast?_eq_none_iff.mp hnamed
    cases hother : (described lower (rawLevels services) half.other).getLast? with
    | some level =>
      have hsome : described lower (rawLevels services) half.other ≠ [] := by
        intro h
        simp [h] at hother
      rw [readLevels_of_named hsome, get_assignLevels, shown_plain hnone hsome, List.getLast?_map]
    | none =>
      have hnone' := List.getLast?_eq_none_iff.mp hother
      have hall (half' : Half) : described lower (rawLevels services) half' = [] := by
        cases half <;> cases half' <;> assumption
      unfold readLevels
      dsimp only
      rw [assignLevels_of_none hall]
      cases hraw : rawLevels services with
      | nil => cases half <;> rfl
      | cons level rest =>
        cases rest with
        | nil => cases half <;> rfl
        | cons level' rest => cases half <;> rfl

end

end TotemZmk
