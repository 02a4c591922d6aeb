/-
The flash rate limit, and that it starves no event.

A save starts no sooner than `PERSIST_MIN_INTERVAL_MS` after the one before it
ended. And unless a call is in progress, an event that asked for a save and waits
for it has `persist_work` due within that interval after its record or after the
last save, whichever is later: further records may move the deadline, but
never past that bound (`deadline_moved_or_lost` moves it, and has an event
wait for ever past the last event number).

* `Work` lemmas: what `schedule_persist_coalesced` does to the due time.
* `Paced.step`, `Alarm.step`: the two invariants.
* `flash_rate_limited`: the theorem about the keyboard.
-/
import TotemZmk.Journal.ExactlyOnce

namespace TotemZmk

open Zephyr (Work)

variable {cfg : Config} {tr : List Obs}

/-! ## Times along a run -/

/-- When the last save of this boot ended. -/
def lastEnd : List Obs → Option Int
  | [] => .none
  | .boot :: _ => .none
  | .saved _ _ t :: _ => .some t
  | .ready _ :: tr => lastEnd tr
  | .recorded _ _ _ :: tr => lastEnd tr
  | .loaded _ :: tr => lastEnd tr
  | .formed _ _ :: tr => lastEnd tr

/-- Every save starts the minimum interval after the end of the one before it. -/
def RateLimited (cfg : Config) : List Obs → Prop
  | [] => True
  | .formed _ t :: tr =>
    (∀ t', lastEnd tr = .some t' → t' + cfg.persistMinIntervalMs ≤ t) ∧ RateLimited cfg tr
  | .boot :: tr => RateLimited cfg tr
  | .ready _ :: tr => RateLimited cfg tr
  | .recorded _ _ _ :: tr => RateLimited cfg tr
  | .loaded _ :: tr => RateLimited cfg tr
  | .saved _ _ _ :: tr => RateLimited cfg tr

/-- When `zmk_settings_loaded` returned in this boot. -/
def loadedAt : List Obs → Int
  | [] => 0
  | .boot :: _ => 0
  | .loaded t :: _ => t
  | .ready _ :: tr => loadedAt tr
  | .recorded _ _ _ :: tr => loadedAt tr
  | .formed _ _ :: tr => loadedAt tr
  | .saved _ _ _ :: tr => loadedAt tr

/-- An event that asked for a save waits for it: it is among the last
`RING_CAP` recorded, and no block saved in this boot holds it. -/
structure Pending (cfg : Config) (tr : List Obs) (i : Nat) (e : Recorded) : Prop where
  recorded : (recorded cfg tr)[i]? = .some e
  persist : e.persist = true
  inRing : (TotemZmk.recorded cfg tr).length ≤ i + cfg.ringCap
  unsaved : ∀ w ∈ written cfg tr, ¬ (w.block.first ≤ tail tr + i + 1 ∧ tail tr + i + 1 ≤ w.block.last)

/-- An event of the ring that asked for a save, and whose number is above the last one
saved. -/
structure Waiting (cfg : Config) (tr : List Obs) (i : Nat) (e : Recorded) : Prop where
  recorded : (recorded cfg tr)[i]? = .some e
  persist : e.persist = true
  inRing : (TotemZmk.recorded cfg tr).length ≤ i + cfg.ringCap
  above : lastSaved cfg tr < tail tr + i + 1

theorem Pending.waiting {i : Nat} {e : Recorded} {v : View cfg} (h : Pending cfg tr i e)
    (hj : Journaled cfg tr v) : Waiting cfg tr i e := by
  refine ⟨h.recorded, h.persist, h.inRing, ?_⟩
  by_contra hle
  rcases hj.once.saved_or_lost (show tail tr < tail tr + i + 1 by omega) (by omega) with
    ⟨w, hw, hin⟩ | ⟨w, hw, hlost⟩
  · exact h.unsaved w hw hin
  · have hformed := hj.formed_le w hw
    have hring := h.inRing
    obtain ⟨hlen, -⟩ := List.getElem?_eq_some_iff.mp h.recorded
    unfold total at hformed
    omega

/-! ## The due time -/

/-- `persist_work` is due at `b` at the latest. -/
def HostEventLog.DueBy (j : HostEventLog cfg) (b : Int) : Prop :=
  ∃ d, j.persistWork.due = .some d ∧ d ≤ b

namespace HostEventLog

variable {j : HostEventLog cfg} {now b : Int}

theorem DueBy.mono {b' : Int} (h : j.DueBy b) (hb : b ≤ b') : j.DueBy b' := by
  obtain ⟨d, hd, hle⟩ := h
  exact ⟨d, hd, Int.le_trans hle hb⟩

theorem persistWait_nonneg (j : HostEventLog cfg) (now : Int) (urgent : Bool) :
    0 ≤ j.persistWait now urgent := by
  simp only [persistWait]
  split
  · omega
  · split <;> omega

/-- No wait goes past the minimum interval after now, or after the last save. -/
theorem persistWait_le (j : HostEventLog cfg) (urgent : Bool) (hl : j.lastPersistUptimeMs ≤ now) :
    now + j.persistWait now urgent ≤ now + cfg.persistMinIntervalMs := by
  simp only [persistWait]
  split
  · omega
  · split <;> omega

/-- An urgent request waits not at all, or until the rate limit allows a save. -/
theorem persistWait_urgent (j : HostEventLog cfg) (now : Int) :
    j.persistWait now true = 0 ∨
      now + j.persistWait now true = j.lastPersistUptimeMs + cfg.persistMinIntervalMs := by
  simp only [persistWait]
  split
  · exact .inr (by omega)
  · exact .inl rfl

/-- Whatever is requested, the item is then due within the interval. -/
theorem dueBy_schedule (urgent : Bool) (hr : j.journalReady = true)
    (hc : j.persistWork.cancelling = false) (ht : j.persistWork.Timely now)
    (hl : j.lastPersistUptimeMs ≤ now)
    (hd : ∀ d, j.persistWork.due = .some d → d ≤ now + cfg.persistMinIntervalMs) :
    (j.schedulePersistCoalesced now urgent).DueBy (now + cfg.persistMinIntervalMs) := by
  have hwait := j.persistWait_nonneg now urgent
  have hle := j.persistWait_le urgent hl
  simp only [DueBy, schedulePersistCoalesced, hr, Bool.not_true, Bool.false_eq_true, if_false]
  cases urgent with
  | true =>
    obtain ⟨e, he, hle'⟩ := Work.due_reschedule hc ht hwait
    exact ⟨e, he, by omega⟩
  | false =>
    have hdue : ∃ e, (j.persistWork.schedule now (j.persistWait now false)).due = .some e ∧
        (e ≤ now + j.persistWait now false ∨ j.persistWork.due = .some e) := Work.due_schedule hc
    obtain ⟨e, he, hor⟩ := hdue
    rcases hor with hle' | hold
    · exact ⟨e, he, by omega⟩
    · exact ⟨e, he, hd e hold⟩

/-- A request keeps an item due as early as it was, but for the interval after
the last save. -/
theorem DueBy.schedule (h : j.DueBy b) (urgent : Bool) (hr : j.journalReady = true)
    (hc : j.persistWork.cancelling = false) (ht : j.persistWork.Timely now)
    (hb : j.lastPersistUptimeMs + cfg.persistMinIntervalMs ≤ b) :
    (j.schedulePersistCoalesced now urgent).DueBy b := by
  obtain ⟨d, hd, hle⟩ := h
  simp only [DueBy, schedulePersistCoalesced, hr, Bool.not_true, Bool.false_eq_true, if_false]
  cases urgent with
  | true =>
    obtain ⟨e, he, hle'⟩ := Work.due_reschedule hc ht (j.persistWait_nonneg now true)
    rcases j.persistWait_urgent now with h0 | hlast
    · rw [h0] at he ⊢
      exact ⟨e, he, Int.le_trans (Work.due_reschedule_now hc ht hd he) hle⟩
    · exact ⟨e, he, by omega⟩
  | false => exact ⟨d, by rw [Work.schedule_armed (by rw [Work.armed_eq_due, hd]; rfl)]; exact hd, hle⟩

/-! ## The work item keeps up -/

/-- The work item is never overdue, never being cancelled, and waits for no
timeout beyond the interval. -/
structure Punctual (j : HostEventLog cfg) (now : Int) : Prop where
  timely : j.persistWork.Timely now
  cancelling : j.persistWork.cancelling = false
  last_le : j.lastPersistUptimeMs ≤ now
  delayed_le : ∀ d, j.persistWork.delayed = .some d → d ≤ now + cfg.persistMinIntervalMs

namespace Punctual

variable {j' : HostEventLog cfg}

theorem congr (h : j.Punctual now) (hw : j'.persistWork = j.persistWork)
    (hl : j'.lastPersistUptimeMs = j.lastPersistUptimeMs) : j'.Punctual now :=
  ⟨hw ▸ h.timely, hw ▸ h.cancelling, hl ▸ h.last_le, hw ▸ h.delayed_le⟩

theorem init (cfg : Config) : (HostEventLog.init cfg).Punctual 0 :=
  ⟨.idle, rfl, Int.le_refl 0, by simp [HostEventLog.init, Work.idle]⟩

theorem due_le (h : j.Punctual now) (d : Int) (hd : j.persistWork.due = .some d) :
    d ≤ now + cfg.persistMinIntervalMs := by
  cases hq : j.persistWork.queued with
  | none => exact h.delayed_le d (by simpa [Work.due, hq] using hd)
  | some q =>
    have hqd : q = d := by simpa [Work.due, hq] using hd
    have := h.timely.queued q hq
    omega

theorem tick (h : j.Punctual now) {t : Int} (ht : now ≤ t) :
    HostEventLog.Punctual { j with persistWork := j.persistWork.expire t } t := by
  refine ⟨h.timely.expire ht, ?_, Int.le_trans h.last_le ht, ?_⟩
  · rw [Work.cancelling_expire]
    exact h.cancelling
  · intro d hd
    have := h.delayed_le d (Work.delayed_expire hd)
    omega

theorem schedule (h : j.Punctual now) (urgent : Bool) :
    (j.schedulePersistCoalesced now urgent).Punctual now := by
  have hwait := j.persistWait_nonneg now urgent
  have hle := j.persistWait_le urgent h.last_le
  unfold schedulePersistCoalesced
  split
  · exact h.congr rfl rfl
  · split
    · refine ⟨h.timely.reschedule hwait, ?_, h.last_le, ?_⟩
      · rw [Work.cancelling_reschedule]
        exact h.cancelling
      · intro d hd
        rw [Work.delayed_reschedule hd]
        exact hle
    · refine ⟨h.timely.schedule hwait, ?_, h.last_le, ?_⟩
      · rw [Work.cancelling_schedule]
        exact h.cancelling
      · intro d hd
        rcases Work.delayed_schedule hd with hd | rfl
        · exact h.delayed_le d hd
        · exact hle

theorem start (h : j.Punctual now) :
    HostEventLog.Punctual { j with persistWork := j.persistWork.start } now :=
  ⟨h.timely.start, h.cancelling, h.last_le, h.delayed_le⟩

theorem finish (h : j.Punctual now) :
    HostEventLog.Punctual { j with persistWork := j.persistWork.finish } now :=
  ⟨h.timely.finish, rfl, h.last_le, h.delayed_le⟩

theorem dueBy (h : j.Punctual now) (urgent : Bool) (hr : j.journalReady = true) :
    (j.schedulePersistCoalesced now urgent).DueBy (now + cfg.persistMinIntervalMs) :=
  dueBy_schedule urgent hr h.cancelling h.timely h.last_le h.due_le

theorem skip (h : j.Punctual now) (hf : j.persistForm now = (j', .none)) : j'.Punctual now := by
  unfold persistForm at hf
  split at hf
  · cases hf
    exact h
  · split at hf
    · cases hf
      exact h.schedule true
    · split at hf
      · cases hf
        exact h.congr rfl rfl
      · cases hf

end Punctual

/-! ## What a call leaves waiting -/

/-- A record that asks for a save is an entry into the ring and a request. -/
theorem recordEvent_persist (j : HostEventLog cfg) (now : Int) (e : TotemHostEvent) :
    ∃ (j₁ : HostEventLog cfg) (urgent : Bool),
      j.recordEvent now e true = j₁.schedulePersistCoalesced now urgent ∧
      j₁.persistWork = j.persistWork ∧ j₁.lastPersistUptimeMs = j.lastPersistUptimeMs ∧
      j₁.journalReady = j.journalReady :=
  ⟨(j.ringPut e true).1, (j.ringPut e true).2, rfl, rfl, rfl, rfl⟩

/-- A call that forms no block of a ready journal: the item is due once the
rate limit allows a save, or there is nothing to save. -/
theorem dueBy_skip {j' : HostEventLog cfg} (h : j.Punctual now) (hr : j.journalReady = true)
    (hf : j.persistForm now = (j', .none)) :
    j'.DueBy (j.lastPersistUptimeMs + cfg.persistMinIntervalMs) ∨ j.ringSeq < j.firstNew := by
  rw [persistForm, if_neg (by simp [hr])] at hf
  split at hf
  · rename_i hsoon
    cases hf
    refine .inl ?_
    have hwait : now + j.persistWait now true = j.lastPersistUptimeMs + cfg.persistMinIntervalMs := by
      rw [persistWait, if_pos hsoon]
      omega
    obtain ⟨e, he, hle⟩ := Work.due_reschedule h.cancelling h.timely (j.persistWait_nonneg now true)
    exact ⟨e, by simpa [schedulePersistCoalesced, hr] using he, by omega⟩
  · split at hf
    · rename_i hnew
      exact .inr hnew
    · cases hf

/-- After a save the code requests the next one, or all is saved. -/
theorem persistFinish_cases (j : HostEventLog cfg) (now : Int) (call : PersistCall) (err : Int) :
    ∃ j₁ : HostEventLog cfg, j₁.persistWork = j.persistWork ∧ j₁.lastPersistUptimeMs = now ∧
      j₁.journalReady = j.journalReady ∧
      (j.persistFinish now call err = j₁.schedulePersistCoalesced now true ∨
        j.persistFinish now call err = j₁ ∧ ¬ j₁.persistedEventSeq < j₁.ringSeq) := by
  by_cases herr : err = 0
  · subst herr
    refine ⟨{ j with
      lastPersistUptimeMs := now
      persistedEventSeq := call.lastCopiedSeq
      restoredBlocks := Function.update j.restoredBlocks call.slot call.block
      restoredValid := Function.update j.restoredValid call.slot true
      nextSlot := (call.slot + 1) % cfg.journalSlots }, rfl, rfl, rfl, ?_⟩
    simp only [persistFinish, ne_eq, not_true_eq_false, if_false]
    split
    · exact .inl rfl
    · rename_i hdone
      exact .inr ⟨rfl, fun hlt => hdone (.inr hlt)⟩
  · refine ⟨{ j with lastPersistUptimeMs := now, persistRequested := true }, rfl, rfl, rfl, .inl ?_⟩
    simp [persistFinish, herr]

theorem persistFinish_last (j : HostEventLog cfg) (now : Int) (call : PersistCall) (err : Int) :
    (j.persistFinish now call err).lastPersistUptimeMs = now ∧
      (j.persistFinish now call err).journalReady = j.journalReady := by
  obtain ⟨j₁, -, hl, hr, hor⟩ := j.persistFinish_cases now call err
  rcases hor with he | ⟨he, -⟩
  · rw [he]
    exact ⟨hl, hr⟩
  · rw [he]
    exact ⟨hl, hr⟩

theorem Punctual.persistFinish (h : j.Punctual now) (call : PersistCall) (err : Int) :
    (j.persistFinish now call err).Punctual now := by
  obtain ⟨j₁, hw, hl, -, hor⟩ := j.persistFinish_cases now call err
  have hj₁ : j₁.Punctual now :=
    ⟨hw ▸ h.timely, hw ▸ h.cancelling, Int.le_of_eq hl, hw ▸ h.delayed_le⟩
  rcases hor with he | ⟨he, -⟩
  · rw [he]
    exact hj₁.schedule true
  · rw [he]
    exact hj₁

/-- After a save, the item is due within the interval, or all is saved. -/
theorem dueBy_finish (h : j.Punctual now) (hr : j.journalReady = true) (call : PersistCall)
    (err : Int) : (j.persistFinish now call err).DueBy (now + cfg.persistMinIntervalMs) ∨
      ¬ (j.persistFinish now call err).persistedEventSeq < (j.persistFinish now call err).ringSeq := by
  obtain ⟨j₁, hw, hl, hr₁, hor⟩ := j.persistFinish_cases now call err
  have hj₁ : j₁.Punctual now :=
    ⟨hw ▸ h.timely, hw ▸ h.cancelling, Int.le_of_eq hl, hw ▸ h.delayed_le⟩
  rcases hor with he | ⟨he, hdone⟩
  · rw [he]
    exact .inl (hj₁.dueBy true (hr₁.trans hr))
  · rw [he]
    exact .inr hdone

theorem zmkSettingsLoaded_work (j : HostEventLog cfg) :
    j.zmkSettingsLoaded.persistWork = j.persistWork ∧
      j.zmkSettingsLoaded.lastPersistUptimeMs = j.lastPersistUptimeMs := by
  unfold zmkSettingsLoaded
  split <;> exact ⟨rfl, rfl⟩

end HostEventLog

/-! ## The rate limit -/

section

variable {s s' : Sys cfg} {obs : List Obs}

/-- **The rate limit, along a run**: the code remembers when the last save ended. -/
theorem Reach.paced {flash : Flash} (h : Reach cfg flash tr s)
    (hpos : ∀ b ok t, .saved b ok t ∈ tr → 0 < t) : RateLimited cfg tr ∧
      ∀ t, lastEnd tr = .some t → s.j.lastPersistUptimeMs = t ∧ 0 < t := by
  induction h with
  | boot => exact ⟨trivial, by simp [lastEnd]⟩
  | @step tr s obs s' _ hs ih =>
    obtain ⟨hrate, hlast⟩ := ih fun b ok t hm => hpos b ok t (List.mem_append_right _ hm)
    cases hs with
    | tick t ht => exact ⟨hrate, hlast⟩
    | record r => exact ⟨hrate, hlast⟩
    | recordTiming e => exact ⟨hrate, hlast⟩
    | settingsSet slot bytes _ _ _ _ =>
      refine ⟨hrate, fun t ht => ?_⟩
      rw [(s.j.settingsSetStored_work slot bytes).2.1]
      exact hlast t ht
    | load _ _ =>
      refine ⟨hrate, fun t ht => ?_⟩
      rw [s.j.zmkSettingsLoaded_work.2]
      exact hlast t ht
    | bootRecord _ => exact ⟨hrate, hlast⟩
    | @loadReturn p _ => cases p <;> exact ⟨hrate, hlast⟩
    | workRun _ _ => exact ⟨hrate, hlast⟩
    | persistSkip byHandler _ _ hf =>
      obtain ⟨pr, w, rfl⟩ := HostEventLog.persistForm_none hf
      cases byHandler <;> exact ⟨hrate, hlast⟩
    | persistForm byHandler _ _ hf =>
      obtain ⟨-, -, hsoon, rfl, -⟩ := HostEventLog.persistForm_some hf
      refine ⟨⟨fun t' ht' => ?_, hrate⟩, hlast⟩
      obtain ⟨heq, hpos'⟩ := hlast t' ht'
      by_contra hlt
      exact hsoon ⟨by omega, by omega⟩
    | @persistEnd call byHandler counterErr err _ =>
      refine ⟨hrate, fun t ht => ?_⟩
      cases ht
      refine ⟨?_, hpos _ _ _ List.mem_cons_self⟩
      cases byHandler <;> exact (s.j.persistFinish_last s.now call err).1
    | reboot bd _ _ => exact ⟨hrate, by simp [lastEnd]⟩

/-! ## No event is forgotten -/

/-- A call that will see to the events waiting is in progress. -/
def Sys.Attending (s : Sys cfg) : Prop :=
  s.inflight ≠ .none ∨ s.handlerWaiting = true ∨ ∃ rs, s.loadCall = .some ⟨rs, true⟩

/-- By when an event that waits is to be saved. -/
def Sys.limit (s : Sys cfg) (tr : List Obs) (e : Recorded) : Int :=
  max (max e.at_ (loadedAt tr)) s.j.lastPersistUptimeMs + cfg.persistMinIntervalMs

/-- Unless a call is at work, the item is due in time for every event that waits. -/
structure Alarm (cfg : Config) (tr : List Obs) (s : Sys cfg) : Prop where
  punctual : s.j.Punctual s.now
  covered : s.j.journalReady = true → total cfg tr + 1 < 2 ^ 32 → ¬ s.Attending →
    ∀ i e, Waiting cfg tr i e → s.j.DueBy (s.limit tr e)

/-- When the last number saved is the last there is, nothing waits. -/
theorem Waiting.not_done {i : Nat} {e : Recorded} (h : Waiting cfg tr i e)
    (hinv : Inv cfg tr s.view) (hr : s.j.journalReady = true) (hb : total cfg tr + 1 < 2 ^ 32) :
    s.j.persistedEventSeq < s.j.ringSeq := by
  have hp : s.j.persistedEventSeq.toNat = lastSaved cfg tr := (hinv.journaled hr hb).persisted
  have hq : s.j.ringSeq.toNat = total cfg tr := hinv.numbered.ringSeq_toNat hr hb
  obtain ⟨hlen, -⟩ := List.getElem?_eq_some_iff.mp h.recorded
  have habove := h.above
  rw [UInt32.lt_iff_toNat_lt, hp, hq]
  unfold total
  omega

/-- After a record, what waits has waited before, or is the event recorded. -/
theorem waiting_of_recorded {i : Nat} {r : Recorded} {e : TotemHostEvent} {persist : Bool} {t : Int}
    (h : Waiting cfg (.recorded e persist t :: tr) i r) :
    Waiting cfg tr i r ∨ r = ⟨e, persist, t⟩ := by
  have hget := h.recorded
  have hring := h.inRing
  rw [recorded, List.length_append, List.length_singleton] at hring
  rw [recorded] at hget
  by_cases hi : i < (recorded cfg tr).length
  · rw [List.getElem?_append_left hi] at hget
    exact .inl ⟨hget, h.persist, by omega, h.above⟩
  · rw [List.getElem?_append_right (by omega), List.getElem?_singleton] at hget
    split at hget
    · exact .inr (Option.some.inj hget).symm
    · cases hget

theorem Alarm.record (h : Alarm cfg tr s) (e : TotemHostEvent) (persist : Bool)
    (hj : s'.j = s.j.recordEvent s.now e persist) (hn : s'.now = s.now)
    (ha : s.Attending → s'.Attending) : Alarm cfg (.recorded e persist s.now :: tr) s' := by
  have hcovered : s.j.journalReady = true → total cfg (.recorded e persist s.now :: tr) + 1 < 2 ^ 32 →
      ¬ s'.Attending → ∀ i r, Waiting cfg tr i r → s.j.DueBy (s.limit tr r) := by
    intro hr hb hna i r hw
    rw [total_recorded] at hb
    exact h.covered hr (by omega) (fun hat => hna (ha hat)) i r hw
  cases persist with
  | false =>
    refine ⟨by rw [hj, hn]; exact h.punctual.congr rfl rfl, ?_⟩
    intro hr hb hna i r hw
    rw [hj] at hr
    rcases waiting_of_recorded hw with hw' | rfl
    · have hdue := hcovered hr hb hna i r hw'
      rw [Sys.limit, hj]
      exact hdue
    · cases hw.persist
  | true =>
    obtain ⟨j₁, urgent, he, hw₁, hl₁, hr₁⟩ := s.j.recordEvent_persist s.now e
    have hp₁ := h.punctual.congr hw₁ hl₁
    rw [he] at hj
    refine ⟨by rw [hj, hn]; exact hp₁.schedule urgent, ?_⟩
    intro hr hb hna i r hw
    rw [hj] at hr ⊢
    have hr' : j₁.journalReady = true := hr
    have hlast : s'.j.lastPersistUptimeMs = s.j.lastPersistUptimeMs := by
      rw [hj]
      exact hl₁
    have hlimit : s'.limit (.recorded e true s.now :: tr) r = s.limit tr r := by
      rw [Sys.limit, Sys.limit, hlast, loadedAt]
    rw [hlimit]
    rcases waiting_of_recorded hw with hw' | rfl
    · obtain ⟨d, hd, hle⟩ := hcovered (hr₁ ▸ hr') hb hna i r hw'
      refine HostEventLog.DueBy.schedule ⟨d, hw₁ ▸ hd, hle⟩ urgent hr' hp₁.cancelling hp₁.timely ?_
      rw [hl₁, Sys.limit]
      omega
    · refine (hp₁.dueBy urgent hr').mono ?_
      dsimp only [Sys.limit]
      omega

/-- Nothing waits for longer when only the clock and the work item's handler
move on. -/
theorem Alarm.of_due (h : Alarm cfg tr s) (hp : s'.j.Punctual s'.now)
    (hr : s'.j.journalReady = s.j.journalReady)
    (hl : s'.j.lastPersistUptimeMs = s.j.lastPersistUptimeMs)
    (ha : s.Attending → s'.Attending)
    (hd : ¬ s'.Attending → s'.j.persistWork.due = s.j.persistWork.due) : Alarm cfg tr s' := by
  refine ⟨hp, ?_⟩
  intro hr' hb hna i e hw
  obtain ⟨d, hdue, hle⟩ := h.covered (hr ▸ hr') hb (fun hat => hna (ha hat)) i e hw
  refine ⟨d, (hd hna).trans hdue, ?_⟩
  rw [Sys.limit, hl]
  exact hle

theorem Alarm.skip (h : Alarm cfg tr s) (hinv : Inv cfg tr s.view) {j' : HostEventLog cfg}
    (hf : s.j.persistForm s.now = (j', .none)) (hp : s'.j.Punctual s'.now)
    (hw : s'.j.persistWork.due = j'.persistWork.due) (hr : s'.j.journalReady = s.j.journalReady)
    (hl : s'.j.lastPersistUptimeMs = s.j.lastPersistUptimeMs) : Alarm cfg tr s' := by
  refine ⟨hp, ?_⟩
  intro hr' hb hna i e hwait
  rw [hr] at hr'
  rcases HostEventLog.dueBy_skip h.punctual hr' hf with hdue | hnew
  · obtain ⟨d, hd, hle⟩ := hdue
    refine ⟨d, hw.trans hd, ?_⟩
    rw [Sys.limit, hl]
    omega
  · -- Nothing in the ring is new.
    have hc := hinv.numbered.counts (hinv.journaled hr' hb) hr' hb
    rcases (HostEventLog.ringSeq_lt_firstNew hc).mp hnew with h0 | hdone
    · have hcount := Circular.Ring.count_of_history hinv.numbered.ring
      have hring := hwait.inRing
      obtain ⟨hlen, -⟩ := List.getElem?_eq_some_iff.mp hwait.recorded
      have h0' : s.view.ring.count = 0 := h0
      have := cfg.ringCap_pos
      rw [List.length_map] at hcount
      omega
    · have hlt := hwait.not_done hinv hr' hb
      rw [hdone] at hlt
      exact absurd hlt (UInt32.lt_irrefl _)

theorem Alarm.persistEnd (h : Alarm cfg tr s) {tr' : List Obs} {call : PersistCall} {err : Int}
    (hinv' : Inv cfg tr' s'.view) (hr : s.j.journalReady = true) (hp : s'.j.Punctual s'.now)
    (hw : s'.j.persistWork.due = (s.j.persistFinish s.now call err).persistWork.due)
    (hq : s'.j.ringSeq = (s.j.persistFinish s.now call err).ringSeq)
    (hs : s'.j.persistedEventSeq = (s.j.persistFinish s.now call err).persistedEventSeq)
    (hl : s'.j.lastPersistUptimeMs = s.now) : Alarm cfg tr' s' := by
  refine ⟨hp, ?_⟩
  intro hr' hb hna i e hwait
  rcases HostEventLog.dueBy_finish h.punctual hr call err with hdue | hdone
  · obtain ⟨d, hd, hle⟩ := hdue
    refine ⟨d, hw.trans hd, ?_⟩
    rw [Sys.limit, hl]
    omega
  · have hlt := hwait.not_done hinv' hr' hb
    rw [hq, hs] at hlt
    exact absurd hlt hdone

/-- The settings are loaded: what the ring then holds waits for the return of
`zmk_settings_loaded`. -/
theorem Alarm.load (h : Alarm cfg tr s)
    (hinv' : Inv cfg (.ready s.j.persistedEventSeq.toNat :: tr) s'.view)
    (hj : s'.j = s.j.zmkSettingsLoaded) (hn : s'.now = s.now) {rs : List RecordArgs}
    (hl : s'.loadCall = .some ⟨rs, s.j.zmkSettingsLoaded.pending⟩) :
    Alarm cfg (.ready s.j.persistedEventSeq.toNat :: tr) s' := by
  refine ⟨?_, ?_⟩
  · rw [hj, hn]
    exact h.punctual.congr s.j.zmkSettingsLoaded_work.1 s.j.zmkSettingsLoaded_work.2
  · intro hr' hb hna i e hw
    have hlt := hw.not_done hinv' hr' hb
    rw [hj] at hlt
    have hpending : s.j.zmkSettingsLoaded.pending = true := decide_eq_true hlt
    rw [hpending] at hl
    exact absurd (.inr (.inr ⟨rs, hl⟩)) hna

theorem Alarm.loadReturn (h : Alarm cfg tr s) (hr : s.j.journalReady = true)
    (hle : loadedAt tr ≤ s.now) {p : Bool}
    (hl : s.loadCall = .some ⟨[], p⟩)
    (hj : s'.j = if p then s.j.schedulePersistCoalesced s.now true else s.j) (hn : s'.now = s.now)
    (hi : s'.inflight = s.inflight) (hh : s'.handlerWaiting = s.handlerWaiting) :
    Alarm cfg (.loaded s.now :: tr) s' := by
  cases p with
  | true =>
    refine ⟨by rw [hj, hn]; exact h.punctual.schedule true, ?_⟩
    intro hr' hb hna i e hw
    rw [hj]
    refine (h.punctual.dueBy true hr).mono ?_
    dsimp only [Sys.limit, loadedAt]
    omega
  | false =>
    refine ⟨by rw [hj, hn]; exact h.punctual.congr rfl rfl, ?_⟩
    intro hr' hb hna i e hw
    have hna' : ¬ s.Attending := by
      rintro (hat | hat | ⟨rs, hat⟩)
      · exact hna (.inl (hi ▸ hat))
      · exact hna (.inr (.inl (hh ▸ hat)))
      · rw [hl] at hat
        cases hat
    have hdue := h.covered hr hb hna' i e ⟨hw.recorded, hw.persist, hw.inRing, hw.above⟩
    rw [hj]
    refine hdue.mono ?_
    have hlast : s'.j.lastPersistUptimeMs = s.j.lastPersistUptimeMs := congrArg _ hj
    dsimp only [Sys.limit, loadedAt]
    rw [hlast]
    omega

/-- A boot's call of `zmk_settings_loaded` is one of a ready journal, and it
returned in the past. -/
theorem Reach.loading {flash : Flash} (h : Reach cfg flash tr s) :
    loadedAt tr ≤ s.now ∧ (s.loadCall ≠ .none → s.j.journalReady = true) := by
  induction h with
  | boot => exact ⟨Int.le_refl 0, fun hl => absurd rfl hl⟩
  | @step tr s obs s' _ hs ih =>
    obtain ⟨hle, hload⟩ := ih
    cases hs with
    | tick t ht => exact ⟨Int.le_trans hle ht, hload⟩
    | settingsSet slot bytes hr _ _ _ =>
      refine ⟨hle, fun hl => ?_⟩
      rw [hload hl] at hr
      cases hr
    | load hr _ =>
      refine ⟨hle, fun _ => ?_⟩
      rw [HostEventLog.zmkSettingsLoaded_eq hr]
    | bootRecord hl => exact ⟨hle, fun _ => hload (by rw [hl]; simp)⟩
    | @loadReturn p hl => exact ⟨Int.le_refl _, fun hl' => absurd rfl hl'⟩
    | persistSkip byHandler _ _ hf =>
      obtain ⟨pr, w, rfl⟩ := HostEventLog.persistForm_none hf
      cases byHandler <;> exact ⟨hle, hload⟩
    | persistForm byHandler _ _ hf =>
      obtain ⟨-, -, -, rfl, -⟩ := HostEventLog.persistForm_some hf
      exact ⟨hle, hload⟩
    | @persistEnd call byHandler counterErr err _ =>
      refine ⟨hle, fun hl => ?_⟩
      have hr := (s.j.persistFinish_last s.now call err).2.trans (hload hl)
      cases byHandler <;> exact hr
    | reboot bd _ _ => exact ⟨Int.le_refl 0, fun hl => absurd rfl hl⟩
    | _ => exact ⟨hle, hload⟩

/-- **Every step keeps an alarm set.** -/
theorem Alarm.step (h : Alarm cfg tr s) (hreach : ∃ flash, Reach cfg flash tr s)
    (hs : Step s obs s') : Alarm cfg (obs ++ tr) s' := by
  obtain ⟨flash, hreach⟩ := hreach
  have hinv := hreach.view.inv
  have hinv' := (hreach.step hs).view.inv
  have hin := hreach.view.inRange
  cases hs with
  | tick t ht =>
    refine h.of_due (h.punctual.tick ht) rfl rfl (fun hat => hat) fun _ => ?_
    exact Work.due_expire h.punctual.cancelling t
  | record r => exact h.record (r.event _) true rfl rfl fun hat => hat
  | recordTiming e => exact h.record e false rfl rfl fun hat => hat
  | settingsSet slot bytes hr hs hb hd =>
    obtain ⟨hw, hl, hr'⟩ := s.j.settingsSetStored_work slot bytes
    refine ⟨h.punctual.congr hw hl, fun hready => ?_⟩
    rw [hr', hr] at hready
    cases hready
  | load hr hd => exact h.load hinv' rfl rfl rfl
  | @bootRecord r rs p hl =>
    refine h.record (r.event _) true rfl rfl ?_
    rintro (hat | hat | ⟨rs', hat⟩)
    · exact .inl hat
    · exact .inr (.inl hat)
    · rw [hl, Option.some.injEq, LoadCall.mk.injEq] at hat
      exact .inr (.inr ⟨rs, by rw [hat.2]⟩)
  | @loadReturn p hl =>
    exact h.loadReturn (hreach.loading.2 (by rw [hl]; simp)) hreach.loading.1 hl rfl rfl rfl rfl
  | workRun hq hr =>
    refine h.of_due h.punctual.start rfl rfl (fun _ => .inr (.inl rfl)) fun hna => ?_
    exact absurd (.inr (.inl rfl)) hna
  | @persistSkip byHandler j' hi hh hf =>
    have hp := h.punctual.skip hf
    obtain ⟨pr, w, rfl⟩ := HostEventLog.persistForm_none hf
    cases byHandler
    · exact h.skip hinv hf hp rfl rfl rfl
    · exact h.skip hinv hf hp.finish rfl rfl rfl
  | persistForm byHandler hi hh hf =>
    obtain ⟨-, -, -, rfl, -⟩ := HostEventLog.persistForm_some hf
    refine ⟨h.punctual.congr rfl rfl, fun _ _ hna => ?_⟩
    exact absurd (.inl (Option.some_ne_none _)) hna
  | @persistEnd call byHandler counterErr err hi =>
    have hr : s.j.journalReady = true :=
      (hin.inflight call (by simp [Sys.view, hi])).2
    have hp := h.punctual.persistFinish call err
    have hlast := (s.j.persistFinish_last s.now call err).1
    cases byHandler
    · exact h.persistEnd hinv' hr hp rfl rfl rfl hlast
    · exact h.persistEnd hinv' hr hp.finish rfl rfl rfl hlast
  | reboot bd hb hf =>
    refine ⟨.init cfg, fun hr => ?_⟩
    cases hr

end

/-- **An alarm is set**, along every run. -/
theorem Reach.alarm {flash : Flash} {s : Sys cfg} (h : Reach cfg flash tr s) : Alarm cfg tr s := by
  induction h with
  | boot =>
    refine ⟨.init cfg, fun hr => ?_⟩
    cases hr
  | step hreach hs ih => exact ih.step ⟨_, hreach⟩ hs

/-! ## The theorem -/

/-- **Flash is written at most once an interval, and no event is left behind.**
In every run (a) when the clock is positive at every save, a save starts at
least the minimum interval after the one before it ended; and (b) once the
journal is ready, as long as event numbers stay below 2³² - 1 and while no
journal call is in progress, `persist_work` is due for every event that asked
for a save and waits for it, within the interval after its record (or after
`zmk_settings_loaded` returned) or after the last save. -/
theorem flash_rate_limited {flash : Flash} {s : Sys cfg} (h : Reach cfg flash tr s) :
    ((∀ b ok t, .saved b ok t ∈ tr → 0 < t) → RateLimited cfg tr) ∧
    (s.j.journalReady = true → total cfg tr + 1 < 2 ^ 32 → s.inflight = .none →
      s.handlerWaiting = false → s.loadCall = .none → ∀ i e, Pending cfg tr i e →
        ∃ d, s.j.persistWork.due = .some d ∧
          d ≤ max (max e.at_ (loadedAt tr)) s.j.lastPersistUptimeMs + cfg.persistMinIntervalMs) := by
  refine ⟨fun hpos => (h.paced hpos).1, ?_⟩
  intro hr hb hi hh hl i e hp
  refine h.alarm.covered hr hb ?_ i e (hp.waiting (h.view.inv.journaled hr hb))
  rintro (hat | hat | ⟨rs, hat⟩)
  · exact hat hi
  · rw [hh] at hat
    cases hat
  · rw [hl] at hat
    cases hat

/-! ## The deadline moves, and an event is left behind -/

theorem Reach.records {flash : Flash} {s : Sys cfg} (h : Reach cfg flash tr s) (rs : List RecordArgs) :
    Reach cfg flash ((rs.map fun r => .recorded (r.event (kUptimeGet32 s.now)) true s.now).reverse ++ tr)
      { s with j := s.j.recordAll s.now rs } := by
  induction rs generalizing tr s with
  | nil => exact h
  | cons r rs ih =>
    have hrest := ih (h.step (.record r))
    simpa [HostEventLog.recordAll] using hrest

/-- A record of a test. -/
def probe : RecordArgs := ⟨0, 0, 0, 0, 0, 0⟩

/-- The keyboard half a second after its first boot, when a save ended, and
four more records of which the next is the tenth. -/
def halfSecondSys : Sys smallConfig :=
  let s := (loadedSys smallConfig)
  let s := { s with now := 500, j := { s.j with persistWork := s.j.persistWork.expire 500 } }
  let s := s.persistNow 0
  { s with j := s.j.recordAll s.now (List.replicate 4 probe) }

def halfSecondTrace : List Obs :=
  List.replicate 4 (.recorded (probe.event 500) true 500) ++
    .saved (loadedSys smallConfig).j.persistBlock true 500 ::
      .formed (loadedSys smallConfig).j.persistBlock 500 :: loadedTrace smallConfig

theorem reach_halfSecondSys : Reach smallConfig emptyFlash halfSecondTrace halfSecondSys := by
  have htick := (reach_loadedSys smallConfig).step (.tick 500 (show (0 : Int) ≤ 500 by decide))
  exact (htick.persistNow rfl rfl (by decide) (by decide) 0).records (List.replicate 4 probe)

theorem pending_halfSecond : Pending smallConfig halfSecondTrace 5 ⟨probe.event 500, true, 500⟩ where
  recorded := by decide
  persist := rfl
  inRing := by decide
  unsaved := by decide

theorem flash_rate_limited_halfSecond : RateLimited smallConfig halfSecondTrace ∧
    ∃ d, halfSecondSys.j.persistWork.due = .some d ∧ d ≤ max (max 500 0) 500 + 5000 := by
  obtain ⟨hrate, hdue⟩ := flash_rate_limited reach_halfSecondSys
  refine ⟨hrate ?_, hdue rfl (by decide) rfl rfl rfl 5 _ pending_halfSecond⟩
  intro b ok t hm
  simp [halfSecondTrace, loadedTrace] at hm
  omega

/-- Past the last number, the work item's handler forms no block. -/
theorem reach_forgotten : ∃ tr i e s, Reach smallConfig emptyFlash tr s ∧
    s.j.journalReady = true ∧ s.inflight = .none ∧ s.handlerWaiting = false ∧ s.loadCall = .none ∧
    Pending smallConfig tr i e ∧ s.j.persistWork.armed = false := by
  obtain ⟨tr, s, h, hnow, hi, hh, hl, hr, hc, hq, hp, -, hlp, hw, hes, htotal, w, hwr, -, hwlast⟩ :=
    reach_lastSaved
  -- One more event, for which the pending timeout is left as it is.
  have hrec := h.step (.record probe)
  have hput : s.j.totemHostEventLogRecord s.now probe =
      { s.j with
        ring := s.j.ring.push (probe.event (kUptimeGet32 s.now))
        ringSeq := 0
        eventsSincePersist := 6
        persistRequested := true } := by
    simp [HostEventLog.totemHostEventLogRecord, HostEventLog.recordEvent, HostEventLog.ringPut, hes,
      HostEventLog.schedulePersistCoalesced, hr, hw, hq, Work.schedule, smallConfig]
  rw [hput] at hrec
  -- The timeout expires, and the handler starts.
  have htick := hrec.step (.tick 5001 (show s.now ≤ 5001 by rw [hnow]; decide))
  have hexpire : s.j.persistWork.expire 5001 = ⟨.none, .some 5000, false, false⟩ := by
    rw [hw]
    decide
  dsimp only at htick
  rw [hexpire] at htick
  have hrun := htick.step (.workRun rfl rfl)
  -- `persisted_event_seq + 1` is past the ring's last number.
  have hcount : (s.j.ring.push (probe.event (kUptimeGet32 s.now))).count = 32 := by
    rw [Circular.Ring.count_push, hc]
    rfl
  have hform (j : HostEventLog smallConfig) (hr : j.journalReady = true)
      (hlp : j.lastPersistUptimeMs = 1) (hq : j.ringSeq = 0) (hc : j.ring.count = 32)
      (hp : j.persistedEventSeq = 0xFFFFFFFF) :
      j.persistForm 5001 = ({ j with persistRequested := false }, .none) := by
    have hnew : j.ringSeq < j.firstNew := by
      unfold HostEventLog.firstNew HostEventLog.firstAvailable
      rw [hq, hc, hp]
      decide
    rw [HostEventLog.persistForm, if_neg (by simp [hr]), if_neg (by rw [hlp]; decide), if_pos hnew]
  have hskip := hrun.step (.persistSkip true hi (fun _ => rfl) (hform _ hr hlp rfl hcount hp))
  refine ⟨_, (recorded smallConfig tr).length, ⟨probe.event (kUptimeGet32 s.now), true, s.now⟩, _,
    hskip, hr, hi, rfl, hl, ⟨?_, rfl, ?_, ?_⟩, rfl⟩
  · simp [recorded]
  · simp [recorded, smallConfig]
  · intro w' hw'
    have hmem : w' ∈ written smallConfig tr := hw'
    have hlast : tail tr + (recorded smallConfig tr).length + 1 = 2 ^ 32 := by
      rw [← total]
      omega
    rw [hwr, List.mem_singleton] at hmem
    rw [hmem, hwlast]
    show ¬ (_ ∧ tail tr + (recorded smallConfig tr).length + 1 ≤ _)
    omega

/-- **The deadline may move, and past the last number an event is left
behind.** A tenth record moves the deadline from 5000 to 5500 while events wait; and
when events 2³² - 32 to 2³² - 1 are saved, the work item finds nothing new in the next
event. -/
theorem deadline_moved_or_lost :
    (¬ ∀ (cfg : Config) (flash : Flash) (tr : List Obs) (s : Sys cfg), Reach cfg flash tr s →
      s.j.journalReady = true → total cfg tr + 1 < 2 ^ 32 → s.inflight = .none →
      s.handlerWaiting = false → s.loadCall = .none → ∀ i e, Pending cfg tr i e →
        ∀ r d, s.j.persistWork.due = .some d →
          ∃ d', (s.j.totemHostEventLogRecord s.now r).persistWork.due = .some d' ∧ d' ≤ d) ∧
    ¬ ∀ (cfg : Config) (flash : Flash) (tr : List Obs) (s : Sys cfg), Reach cfg flash tr s →
      s.j.journalReady = true → s.inflight = .none → s.handlerWaiting = false →
      s.loadCall = .none → ∀ i e, Pending cfg tr i e → s.j.persistWork.armed = true := by
  constructor
  · intro hall
    obtain ⟨d', hd', hle⟩ := hall smallConfig emptyFlash _ _ reach_halfSecondSys rfl (by decide) rfl
      rfl rfl 5 _ pending_halfSecond probe 5000 rfl
    have hmoved : (halfSecondSys.j.totemHostEventLogRecord halfSecondSys.now probe).persistWork.due =
        .some 5500 := rfl
    rw [hmoved, Option.some.injEq] at hd'
    omega
  · intro hall
    obtain ⟨tr, i, e, s, h, hr, hi, hh, hl, hp, hidle⟩ := reach_forgotten
    rw [hall smallConfig emptyFlash tr s h hr hi hh hl i e hp] at hidle
    cases hidle

end TotemZmk
