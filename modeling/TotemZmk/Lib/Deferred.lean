/-
A delayable work item that brings the items of a table in line: a callback
puts its handler off by a delay, and the handler walks the items, reads what
each should be asked, and asks it. The environment changes at any step, and owes
the callbacks of a change from then on.

* `Inv.step`: what each step keeps. Either a run of the handler is coming, or
  what it has done so far is up to date.
* `settled`: at rest every item was last asked what it should be.
* `starts_le`: the handler runs no more than it was called for.
-/
import TotemZmk.Lib.Run
import TotemZmk.Lib.Work

namespace Deferred

open Trace (Run)
open Zephyr (Work)

variable {σ κ ι α β ρ : Type}

/-- A handler: what it reads once, the items it then walks, what it reads of
each, and what it asks of it, where it gets that far. -/
structure Handler (σ ι α β ρ : Type) where
  enter : σ → α
  items : α → List ι
  look : α → σ → ι → Option β
  act : β → σ → ι → Option ρ

/-- What the handler lives in: the changes, with the callbacks each owes and the
items whose last request counts no more; and which callbacks put the handler off,
by how much. -/
structure Environment (σ κ ι : Type) where
  Change : σ → List κ → (ι → Bool) → σ → Prop
  schedules : κ → Bool
  delay : Int
  delay_nonneg : 0 ≤ delay

/-- Where the handler is. -/
inductive Phase (ι α β : Type) where
  | outside
  | walking (a : α) (todo : List ι)
  | acting (i : ι) (b : β) (a : α) (todo : List ι)

/-- What the handler read first. -/
def Phase.entered : Phase ι α β → Option α
  | .outside => .none
  | .walking a _ | .acting _ _ a _ => .some a

/-- The items it has yet to come to. -/
def Phase.todo : Phase ι α β → List ι
  | .outside => []
  | .walking _ todo | .acting _ _ _ todo => todo

/-- The runs going on. -/
def Phase.runs : Phase ι α β → Nat
  | .outside => 0
  | .walking _ _ | .acting _ _ _ _ => 1

/-- `last` is what each item was last asked. -/
structure State (σ κ ι α β ρ : Type) where
  env : σ
  owed : List κ
  work : Work
  phase : Phase ι α β
  last : ι → Option ρ
  now : Int

/-- What can be observed. -/
inductive Obs (σ κ ι α ρ : Type) where
  | called (k : κ)
  | started (a : α)
  | requested (env : σ) (i : ι) (r : ρ)
  | finished (a : α)

/-- What the handler read first, each time it finished, newest first. -/
def finishes (h : List (Obs σ κ ι α ρ)) : List α :=
  h.filterMap fun
    | .finished a => .some a
    | _ => .none

/-- What the handler read each time it started. -/
def reads (h : List (Obs σ κ ι α ρ)) : List α :=
  h.filterMap fun
    | .started a => .some a
    | _ => .none

/-- How often it started. -/
def starts (h : List (Obs σ κ ι α ρ)) : Nat := (reads h).length

/-- How often it was called for. -/
def calls (schedules : κ → Bool) (h : List (Obs σ κ ι α ρ)) : Nat :=
  h.countP fun
    | .called k => schedules k
    | _ => false

/-- At power-up. -/
def boot₀ (env : σ) (work : Work) (now : Int) : State σ κ ι α β ρ :=
  ⟨env, [], work, .outside, fun _ => .none, now⟩

/-- One step. -/
inductive Step [DecidableEq ι] (H : Handler σ ι α β ρ) (E : Environment σ κ ι) :
    State σ κ ι α β ρ → Option (Obs σ κ ι α ρ) → State σ κ ι α β ρ → Prop where
  | tick {s} (t : Int) (h : s.now ≤ t) :
    Step H E s .none { s with work := s.work.expire t, now := t }
  | change {s} (ks : List κ) (gone : ι → Bool) (env : σ) (h : E.Change s.env ks gone env) :
    Step H E s .none
      { s with
        env := env
        owed := s.owed ++ ks
        last := fun i => if gone i then .none else s.last i }
  | callback {s before k after} (h : s.owed = before ++ k :: after) :
    Step H E s (.some (.called k))
      { s with
        owed := before ++ after
        work := if E.schedules k then s.work.reschedule s.now E.delay else s.work }
  | start {s} (hq : s.work.queued.isSome) (hp : s.phase = .outside) :
    Step H E s (.some (.started (H.enter s.env)))
      { s with work := s.work.start, phase := .walking (H.enter s.env) (H.items (H.enter s.env)) }
  | skip {s i a todo} (hp : s.phase = .walking a (i :: todo)) (hl : H.look a s.env i = .none) :
    Step H E s .none { s with phase := .walking a todo }
  | look {s i a todo b} (hp : s.phase = .walking a (i :: todo)) (hl : H.look a s.env i = .some b) :
    Step H E s .none { s with phase := .acting i b a todo }
  | pass {s i b a todo} (hp : s.phase = .acting i b a todo) (ha : H.act b s.env i = .none) :
    Step H E s .none { s with phase := .walking a todo }
  | request {s i b a todo r} (hp : s.phase = .acting i b a todo) (ha : H.act b s.env i = .some r) :
    Step H E s (.some (.requested s.env i r))
      { s with phase := .walking a todo, last := Function.update s.last i (.some r) }
  | finish {s a} (hp : s.phase = .walking a []) :
    Step H E s (.some (.finished a)) { s with work := s.work.finish, phase := .outside }

theorem Step.next [DecidableEq ι] {H : Handler σ ι α β ρ} {E : Environment σ κ ι}
    {s : State σ κ ι α β ρ} {k : κ} {after : List κ} (h : s.owed = k :: after) :
    Step H E s (.some (.called k))
      { s with
        owed := after
        work := if E.schedules k then s.work.reschedule s.now E.delay else s.work } := by
  have howed : s.owed = [] ++ k :: after := h
  exact .callback howed

/-- A run of the handler is coming. -/
def State.coming (E : Environment σ κ ι) (s : State σ κ ι α β ρ) : Prop :=
  (∃ k ∈ s.owed, E.schedules k = true) ∨ s.work.armed = true

/-- The handler asks each item what it `should`, and a change that does not call
for it leaves an item that should be asked something as it was. -/
structure Sound (H : Handler σ ι α β ρ) (E : Environment σ κ ι) (should : σ → ι → Option ρ) :
    Prop where
  leads : ∀ {env i r}, should env i = .some r → i ∈ H.items (H.enter env) ∧
    ∃ b, H.look (H.enter env) env i = .some b ∧ H.act b env i = .some r
  enters : ∀ {env ks gone env'}, E.Change env ks gone env' → (∀ k ∈ ks, E.schedules k = false) →
    H.enter env' = H.enter env
  keeps : ∀ {env ks gone env' i r}, E.Change env ks gone env' →
    (∀ k ∈ ks, E.schedules k = false) → should env' i = .some r →
      should env i = .some r ∧ gone i = false ∧
        ∀ b, H.act b env i = .some r → H.act b env' i = .some r

variable {H : Handler σ ι α β ρ} {E : Environment σ κ ι} {should : σ → ι → Option ρ}
  {h : List (Obs σ κ ι α ρ)} {s s' : State σ κ ι α β ρ} {o : Option (Obs σ κ ι α ρ)}

/-- What the handler has done so far goes with the environment as it is. -/
structure UpToDate (H : Handler σ ι α β ρ) (should : σ → ι → Option ρ)
    (h : List (Obs σ κ ι α ρ)) (s : State σ κ ι α β ρ) : Prop where
  entered : ∀ {a}, s.phase.entered = .some a → a = H.enter s.env
  finished : s.phase = .outside → ∀ a ∈ (finishes h).head?, a = H.enter s.env
  acting : ∀ {i b a todo r}, s.phase = .acting i b a todo → should s.env i = .some r →
    H.act b s.env i = .some r
  done : ∀ {i r}, should s.env i = .some r →
    s.last i = .some r ∨ i ∈ s.phase.todo ∨ ∃ b a todo, s.phase = .acting i b a todo

/-- The item of the work is never cancelled, and a run is coming or the last is
up to date. -/
structure Inv (H : Handler σ ι α β ρ) (E : Environment σ κ ι) (should : σ → ι → Option ρ)
    (h : List (Obs σ κ ι α ρ)) (s : State σ κ ι α β ρ) : Prop where
  cancelling : s.work.cancelling = false
  timely : s.work.Timely s.now
  upToDate : s.coming E ∨ UpToDate H should h s

theorem inv_boot₀ {env : σ} {work : Work} {now : Int} (hc : work.cancelling = false)
    (ht : work.Timely now) (hw : work.armed = true ∨ ∀ i, should env i = .none) :
    Inv H E should [] (boot₀ env work now : State σ κ ι α β ρ) where
  cancelling := hc
  timely := ht
  upToDate := by
    obtain hw | hw := hw
    · exact .inl (.inr hw)
    · refine .inr ⟨nofun, fun _ => nofun, nofun, ?_⟩
      intro i r hr
      rw [show should (boot₀ env work now : State σ κ ι α β ρ).env i = _ from hw i] at hr
      cases hr

/-! ## What a step keeps -/

theorem finishes_append (o : Option (Obs σ κ ι α ρ)) (h : List (Obs σ κ ι α ρ)) :
    finishes (o.toList ++ h) = finishes o.toList ++ finishes h :=
  List.filterMap_append

theorem UpToDate.start (hH : Sound H E should) {work : Work} :
    UpToDate H should (.started (H.enter s.env) :: h)
      { s with work := work, phase := .walking (H.enter s.env) (H.items (H.enter s.env)) } where
  entered := by
    intro a ha
    cases ha
    rfl
  finished := nofun
  acting := nofun
  done := fun hr => .inr (.inl (hH.leads hr).1)

theorem UpToDate.change (hH : Sound H E should) (hu : UpToDate H should h s) {ks : List κ}
    {gone : ι → Bool} {env : σ} (hc : E.Change s.env ks gone env)
    (hks : ∀ k ∈ ks, E.schedules k = false) :
    UpToDate H should h
      { s with
        env := env
        owed := s.owed ++ ks
        last := fun i => if gone i then .none else s.last i } where
  entered := fun ha => (hu.entered ha).trans (hH.enters hc hks).symm
  finished := fun hp a ha => (hu.finished hp a ha).trans (hH.enters hc hks).symm
  acting := by
    intro i b a todo r hp hr
    obtain ⟨hbefore, -, hact⟩ := hH.keeps hc hks hr
    exact hact b (hu.acting hp hbefore)
  done := by
    intro i r hr
    obtain ⟨hbefore, hgone, -⟩ := hH.keeps hc hks hr
    simpa [hgone] using hu.done hbefore

/-- An item that should be asked something is looked at. -/
theorem UpToDate.looks (hH : Sound H E should) (hu : UpToDate H should h s) {i : ι} {a : α}
    {todo : List ι} {r : ρ} (hp : s.phase = .walking a (i :: todo))
    (hr : should s.env i = .some r) :
    ∃ b, H.look a s.env i = .some b ∧ H.act b s.env i = .some r := by
  have ha : a = H.enter s.env := hu.entered (by rw [hp]; rfl)
  rw [ha]
  exact (hH.leads hr).2

theorem UpToDate.skip (hH : Sound H E should) (hu : UpToDate H should h s) {i : ι} {a : α}
    {todo : List ι} (hp : s.phase = .walking a (i :: todo)) (hl : H.look a s.env i = .none) :
    UpToDate H should h { s with phase := .walking a todo } where
  entered := by
    intro a' ha
    exact hu.entered (by rw [hp]; exact ha)
  finished := nofun
  acting := nofun
  done := by
    intro i' r hr
    obtain hlast | hmem | ⟨b, a', todo', hacting⟩ := hu.done hr
    · exact .inl hlast
    · rw [hp] at hmem
      obtain rfl | hmem := List.mem_cons.mp hmem
      · obtain ⟨b, hb, -⟩ := hu.looks hH hp hr
        rw [hl] at hb
        cases hb
      · exact .inr (.inl hmem)
    · rw [hp] at hacting
      cases hacting

theorem UpToDate.look (hH : Sound H E should) (hu : UpToDate H should h s) {i : ι} {a : α} {b : β}
    {todo : List ι} (hp : s.phase = .walking a (i :: todo)) (hl : H.look a s.env i = .some b) :
    UpToDate H should h { s with phase := .acting i b a todo } where
  entered := by
    intro a' ha
    exact hu.entered (by rw [hp]; exact ha)
  finished := nofun
  acting := by
    intro i' b' a' todo' r hacting hr
    cases hacting
    obtain ⟨b', hb, hact⟩ := hu.looks hH hp hr
    rw [hl] at hb
    cases hb
    exact hact
  done := by
    intro i' r hr
    obtain hlast | hmem | ⟨b', a', todo', hacting⟩ := hu.done hr
    · exact .inl hlast
    · rw [hp] at hmem
      obtain rfl | hmem := List.mem_cons.mp hmem
      · exact .inr (.inr ⟨b, a, todo, rfl⟩)
      · exact .inr (.inl hmem)
    · rw [hp] at hacting
      cases hacting

/-- An item acted on has been asked what it should be. -/
theorem UpToDate.acted [DecidableEq ι] (hu : UpToDate H should h s) {i : ι} {a : α} {b : β}
    {todo : List ι} (hp : s.phase = .acting i b a todo) {last : ι → Option ρ}
    (hlast : ∀ i', i' ≠ i → last i' = s.last i')
    (hact : ∀ r, H.act b s.env i = .some r → last i = .some r) :
    UpToDate H should h { s with phase := .walking a todo, last := last } where
  entered := by
    intro a' ha
    exact hu.entered (by rw [hp]; exact ha)
  finished := nofun
  acting := nofun
  done := by
    intro i' r hr
    by_cases he : i' = i
    · subst he
      exact .inl (hact r (hu.acting hp hr))
    · obtain hsome | hmem | ⟨b', a', todo', hacting⟩ := hu.done hr
      · exact .inl ((hlast i' he).trans hsome)
      · rw [hp] at hmem
        exact .inr (.inl hmem)
      · rw [hp] at hacting
        cases hacting
        exact absurd rfl he

theorem UpToDate.finish (hu : UpToDate H should h s) {a : α} {work : Work}
    (hp : s.phase = .walking a []) :
    UpToDate H should (.finished a :: h) { s with work := work, phase := .outside } where
  entered := nofun
  finished := by
    intro _ a' ha
    cases ha
    exact hu.entered (by rw [hp]; rfl)
  acting := nofun
  done := by
    intro i r hr
    obtain hlast | hmem | ⟨b, a', todo, hacting⟩ := hu.done hr
    · exact .inl hlast
    · rw [hp] at hmem
      cases hmem
    · rw [hp] at hacting
      cases hacting

/-- A callback that is no call, and a request, show no end of the handler. -/
theorem UpToDate.shown (hu : UpToDate H should h s) {o : Obs σ κ ι α ρ}
    (ho : finishes [o] = []) : UpToDate H should (o :: h) s where
  entered := hu.entered
  finished := by
    intro hp a ha
    have hsame : finishes (o :: h) = finishes h := by
      rw [← List.singleton_append, finishes, List.filterMap_append, ← finishes, ho]
      rfl
    rw [hsame] at ha
    exact hu.finished hp a ha
  acting := hu.acting
  done := hu.done

theorem Inv.step [DecidableEq ι] (hH : Sound H E should) (hi : Inv H E should h s)
    (hs : Step H E s o s') : Inv H E should (o.toList ++ h) s' := by
  cases hs with
  | tick t ht =>
    refine ⟨by simpa using hi.cancelling, hi.timely.expire ht, ?_⟩
    obtain (hk | ha) | hu := hi.upToDate
    · exact .inl (.inl hk)
    · exact .inl (.inr ((Work.armed_expire hi.cancelling t).trans ha))
    · exact .inr ⟨hu.entered, hu.finished, hu.acting, hu.done⟩
  | change ks gone env hc =>
    refine ⟨hi.cancelling, hi.timely, ?_⟩
    obtain (⟨k, hk, hsched⟩ | ha) | hu := hi.upToDate
    · exact .inl (.inl ⟨k, List.mem_append_left _ hk, hsched⟩)
    · exact .inl (.inr ha)
    · by_cases hks : ∀ k ∈ ks, E.schedules k = false
      · exact .inr (hu.change hH hc hks)
      · push Not at hks
        obtain ⟨k, hk, hsched⟩ := hks
        exact .inl (.inl ⟨k, List.mem_append_right _ hk, by simpa using hsched⟩)
  | @callback before k after howed =>
    have hcancel : (if E.schedules k then s.work.reschedule s.now E.delay else s.work).cancelling =
        false := by
      split
      · exact Work.cancelling_reschedule.trans hi.cancelling
      · exact hi.cancelling
    have htimely : (if E.schedules k then s.work.reschedule s.now E.delay else s.work).Timely
        s.now := by
      split
      · exact hi.timely.reschedule E.delay_nonneg
      · exact hi.timely
    refine ⟨hcancel, htimely, ?_⟩
    by_cases hsched : E.schedules k = true
    · refine .inl (.inr ?_)
      dsimp only
      rw [if_pos hsched]
      exact Work.armed_reschedule hi.cancelling hi.timely E.delay_nonneg
    · obtain (⟨k', hk', hsched'⟩ | ha) | hu := hi.upToDate
      · -- The callback delivered is another.
        refine .inl (.inl ⟨k', ?_, hsched'⟩)
        rw [howed, List.mem_append, List.mem_cons] at hk'
        obtain hk' | rfl | hk' := hk'
        · exact List.mem_append_left _ hk'
        · exact absurd hsched' hsched
        · exact List.mem_append_right _ hk'
      · refine .inl (.inr ?_)
        dsimp only
        rw [if_neg hsched]
        exact ha
      · have hshown := hu.shown (o := .called k) rfl
        exact .inr ⟨hshown.entered, hshown.finished, hshown.acting, hshown.done⟩
  | start hq hp => exact ⟨hi.cancelling, hi.timely.start, .inr (.start hH)⟩
  | skip hp hl =>
    refine ⟨hi.cancelling, hi.timely, ?_⟩
    exact hi.upToDate.imp id fun hu => hu.skip hH hp hl
  | look hp hl =>
    refine ⟨hi.cancelling, hi.timely, ?_⟩
    exact hi.upToDate.imp id fun hu => hu.look hH hp hl
  | pass hp ha =>
    refine ⟨hi.cancelling, hi.timely, ?_⟩
    refine hi.upToDate.imp id fun hu => hu.acted hp (fun _ _ => rfl) fun r hr => ?_
    rw [ha] at hr
    cases hr
  | @request i b a todo r hp ha =>
    refine ⟨hi.cancelling, hi.timely, ?_⟩
    refine hi.upToDate.imp id fun hu => ?_
    refine (hu.acted hp (fun i' hne => Function.update_of_ne hne _ _) fun r' hr => ?_).shown rfl
    rw [Function.update_self, ← ha, hr]
  | finish hp =>
    refine ⟨rfl, hi.timely.finish, ?_⟩
    exact hi.upToDate.imp id fun hu => hu.finish hp

theorem inv_run [DecidableEq ι] (hH : Sound H E should) {env : σ} {work : Work} {now : Int}
    (hc : work.cancelling = false) (ht : work.Timely now)
    (hw : work.armed = true ∨ ∀ i, should env i = .none)
    (hr : Run (Step H E) (boot₀ env work now) h s) : Inv H E should h s :=
  hr.invariant (inv_boot₀ hc ht hw) fun hi hs => hi.step hH hs

/-- Nothing that calls for a run is owed, and none is waiting or going on. -/
structure AtRest (E : Environment σ κ ι) (s : State σ κ ι α β ρ) : Prop where
  owed : ∀ k ∈ s.owed, E.schedules k = false
  armed : s.work.armed = false
  phase : s.phase = .outside

/-- **At rest, everything is as it should be**: each item was last asked what it
should be, and the handler last read what there is. -/
theorem settled [DecidableEq ι] (hH : Sound H E should) {env : σ} {work : Work} {now : Int}
    (hc : work.cancelling = false) (ht : work.Timely now)
    (hw : work.armed = true ∨ ∀ i, should env i = .none)
    (hr : Run (Step H E) (boot₀ env work now) h s) (hrest : AtRest E s) :
    (∀ i r, should s.env i = .some r → s.last i = .some r) ∧
      ∀ a ∈ (finishes h).head?, a = H.enter s.env := by
  obtain (⟨k, hk, hsched⟩ | ha) | hu := (inv_run hH hc ht hw hr).upToDate
  · rw [hrest.owed k hk] at hsched
    cases hsched
  · rw [hrest.armed] at ha
    cases ha
  · refine ⟨fun i r hr => ?_, hu.finished hrest.phase⟩
    obtain hlast | hmem | ⟨b, a, todo, hacting⟩ := hu.done hr
    · exact hlast
    · rw [hrest.phase] at hmem
      cases hmem
    · rw [hrest.phase] at hacting
      cases hacting

/-- The handler walks the items of what it read when it started. -/
structure Walks (H : Handler σ ι α β ρ) (h : List (Obs σ κ ι α ρ)) (phase : Phase ι α β) :
    Prop where
  read : ∀ {a}, phase.entered = .some a → (reads h).head? = .some a
  todo : ∀ {a i}, phase.entered = .some a → i ∈ phase.todo → i ∈ H.items a
  acting : ∀ {i b a todo}, phase = .acting i b a todo → i ∈ H.items a

theorem walks_run [DecidableEq ι] {env : σ} {work : Work} {now : Int}
    (hr : Run (Step H E) (boot₀ env work now) h s) : Walks H h s.phase := by
  refine hr.invariant (P := fun h s => Walks H h s.phase) ⟨nofun, nofun, nofun⟩
    fun {h s o s'} hw hs => ?_
  cases hs with
  | tick | change | callback => exact ⟨hw.read, hw.todo, hw.acting⟩
  | start hq hp =>
    refine ⟨?_, ?_, nofun⟩
    · intro a ha
      cases ha
      rfl
    · intro a i ha hi
      cases ha
      exact hi
  | @skip i a todo hp hl =>
    rw [hp] at hw
    exact ⟨hw.read, fun ha hi => hw.todo ha (List.mem_cons_of_mem _ hi), nofun⟩
  | @look i a todo b hp hl =>
    rw [hp] at hw
    refine ⟨hw.read, fun ha hi => hw.todo ha (List.mem_cons_of_mem _ hi), ?_⟩
    intro i' b' a' todo' hacting
    cases hacting
    exact hw.todo rfl List.mem_cons_self
  | pass hp ha | request hp ha =>
    rw [hp] at hw
    exact ⟨hw.read, hw.todo, nofun⟩
  | finish hp => exact ⟨nofun, nofun, nofun⟩

/-- **Whatever was asked**, the handler got that far, with an item of what it
read when it last started. -/
theorem requested [DecidableEq ι] {env : σ} {work : Work} {now : Int}
    (hr : Run (Step H E) (boot₀ env work now) h s) {later earlier : List (Obs σ κ ι α ρ)}
    {env' : σ} {i : ι} {r : ρ} (he : h = later ++ .requested env' i r :: earlier) :
    (∃ a, (reads earlier).head? = .some a ∧ i ∈ H.items a) ∧ ∃ b, H.act b env' i = .some r := by
  obtain ⟨s₁, s₂, hr₁, hs, -⟩ := hr.split he
  have hw := walks_run hr₁
  cases hs with
  | @request _ b a todo _ hp ha =>
    rw [hp] at hw
    exact ⟨⟨a, hw.read rfl, hw.acting rfl⟩, b, ha⟩

theorem last_requested [DecidableEq ι] {env : σ} {work : Work} {now : Int}
    (hr : Run (Step H E) (boot₀ env work now) h s) {i : ι} {r : ρ} (hl : s.last i = .some r) :
    ∃ later env' earlier, h = later ++ .requested env' i r :: earlier := by
  refine hr.invariant (P := fun h s => ∀ i r, s.last i = .some r →
    ∃ later env' earlier, h = later ++ .requested env' i r :: earlier) nofun
    (fun {h s o s'} hi hs i r hl => ?_) i r hl
  have hbefore : s.last i = .some r →
      ∃ later env' earlier, o.toList ++ h = later ++ .requested env' i r :: earlier := by
    intro hl
    obtain ⟨later, env', earlier, he⟩ := hi i r hl
    exact ⟨o.toList ++ later, env', earlier, by rw [he, List.append_assoc]⟩
  cases hs with
  | change ks gone env' hc =>
    dsimp only at hl
    split at hl
    · cases hl
    · exact hbefore hl
  | @request i' b a todo r' hp ha =>
    dsimp only at hl
    by_cases he : i = i'
    · subst he
      rw [Function.update_self] at hl
      cases hl
      exact ⟨[], s.env, h, rfl⟩
    · rw [Function.update_of_ne he] at hl
      exact hbefore hl
  | tick | callback | start | skip | look | pass | finish => exact hbefore hl

/-! ## How often the handler runs -/

theorem starts_append (o : Option (Obs σ κ ι α ρ)) (h : List (Obs σ κ ι α ρ)) :
    starts (o.toList ++ h) = starts o.toList + starts h := by
  rw [starts, reads, List.filterMap_append, List.length_append]
  rfl

theorem calls_append (schedules : κ → Bool) (o : Option (Obs σ κ ι α ρ))
    (h : List (Obs σ κ ι α ρ)) :
    calls schedules (o.toList ++ h) = calls schedules o.toList + calls schedules h :=
  List.countP_append

/-- A start uses a run up, and only a call brings one. -/
theorem Step.runs [DecidableEq ι] (hs : Step H E s o s') :
    starts o.toList + s'.work.runs ≤ calls E.schedules o.toList + s.work.runs := by
  cases hs with
  | tick t ht => simpa [starts, reads, calls] using Work.runs_expire_le
  | change | skip | look | pass | request | finish => exact Nat.le_of_eq rfl
  | @callback before k after howed =>
    by_cases hsched : E.schedules k = true
    · have hle : (s.work.reschedule s.now E.delay).runs ≤ s.work.runs + 1 :=
        Work.runs_reschedule_le
      simp [starts, reads, calls, hsched]
      omega
    · simp [starts, reads, calls, hsched]
  | start hq hp =>
    have hstart := Work.runs_start hq
    simp [starts, reads, calls]
    omega

/-- **The handler runs no more than it was called for.** -/
theorem starts_le [DecidableEq ι] {env : σ} {work : Work} {now : Int}
    (hr : Run (Step H E) (boot₀ env work now) h s) :
    starts h + s.work.runs ≤ calls E.schedules h + work.runs := by
  refine hr.invariant (P := fun h s => starts h + s.work.runs ≤ calls E.schedules h + work.runs)
    (Nat.le_refl _) fun {h s o s'} hle hs => ?_
  have hstep := hs.runs
  rw [starts_append, calls_append]
  omega

theorem starts_eq [DecidableEq ι] {env : σ} {work : Work} {now : Int}
    (hr : Run (Step H E) (boot₀ env work now) h s) :
    starts h = (finishes h).length + s.phase.runs := by
  refine hr.invariant (P := fun h s => starts h = (finishes h).length + s.phase.runs) rfl
    fun {h s o s'} heq hs => ?_
  rw [starts_append, finishes_append, heq, List.length_append]
  cases hs with
  | tick | change => simp [starts, reads, finishes]
  | callback => simp [starts, reads, finishes]
  | start hq hp => simp [starts, reads, finishes, hp, Phase.runs, Nat.add_comm]
  | skip hp | look hp | pass hp | request hp | finish hp =>
    simp [starts, reads, finishes, hp, Phase.runs, Nat.add_comm]

theorem armed_or_started [DecidableEq ι] {env : σ} {work : Work} {now : Int}
    (hc : work.cancelling = false) (ht : work.Timely now) (ha : work.armed = true)
    (hr : Run (Step H E) (boot₀ env work now) h s) : s.work.armed = true ∨ 0 < starts h := by
  refine (hr.invariant (P := fun h s => s.work.cancelling = false ∧ s.work.Timely s.now ∧
    (s.work.armed = true ∨ 0 < starts h)) ⟨hc, ht, .inl ha⟩ fun {h s o s'} hi hs => ?_).2.2
  obtain ⟨hcancel, htimely, hleft⟩ := hi
  rw [starts_append]
  have hlater : s.work.armed = true ∨ 0 < starts o.toList + starts h :=
    hleft.imp id fun hpos => Nat.lt_of_lt_of_le hpos (Nat.le_add_left _ _)
  cases hs with
  | tick t hle =>
    refine ⟨by simpa using hcancel, htimely.expire hle, hlater.imp (fun harmed => ?_) id⟩
    exact (Work.armed_expire hcancel t).trans harmed
  | change | skip | look | pass | request => exact ⟨hcancel, htimely, hlater⟩
  | @callback before k after howed =>
    dsimp only
    split
    · exact ⟨Work.cancelling_reschedule.trans hcancel, htimely.reschedule E.delay_nonneg,
        .inl (Work.armed_reschedule hcancel htimely E.delay_nonneg)⟩
    · exact ⟨hcancel, htimely, hlater⟩
  | start hq hp => exact ⟨hcancel, htimely.start, .inr (Nat.lt_of_lt_of_le Nat.one_pos
      (Nat.le_add_right _ _))⟩
  | finish hp => exact ⟨rfl, htimely.finish, hlater⟩

end Deferred
