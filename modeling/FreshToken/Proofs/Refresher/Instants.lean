import FreshToken.Proofs.Refresher.Reports
/-!
# Moves and their instants

What a refresher does depends on its moves and the instants at which it makes them.  It does not
matter in how many steps time went on in between, who looked at its snapshot, or what the calendar
said.
-/

namespace FreshToken

/-- A snapshot without what the calendar said. -/
def Snapshot.untimed (s : Snapshot) : Snapshot := { s with refreshedAt := none, expiresAt := none }

def Signal.untimed : Signal → Signal
  | .ended outcome _ => .ended outcome 0
  | .published s => .published s.untimed
  | .shown s => .shown s.untimed
  | s => s

namespace Refresher

/-! ## Without the calendar -/

def untimed (r : Refresher) : Refresher := { r with snapshot := r.snapshot.untimed }

/-- A move without what the calendar says, and with another call of the authenticator. -/
def Move.sketch (g : Call → Call) : Move → Move
  | .accept call => .accept (g call)
  | .fire call => .fire (g call)
  | .finish _ => .finish 0
  | m => m

def Event.untimed (e : Event) : Event := { e with signal := e.signal.untimed }

def sketch {ε : Type} (event : ε → ε) (p : Refresher × List ε) : Refresher × List ε :=
  (p.1.untimed, p.2.map event)

/-- Only readers and the end of an attempt look at the snapshot, and only the latter changes it. -/
theorem move?_snapshot (r : Refresher) (x : Snapshot) {m : Move} (unread : m ≠ .read)
    (unfinished : ∀ clock, m ≠ .finish clock) :
    { r with snapshot := x }.move? m =
      (r.move? m).map fun p => ({ p.1 with snapshot := x }, p.2) := by
  cases m with
  | send c =>
    simp only [move?]
    split
    · rfl
    · by_cases hstopped : r.isStopped = true
      · rw [if_pos hstopped]
        exact if_pos hstopped
      · rw [if_neg hstopped]
        exact if_neg hstopped
  | enter | resume =>
    simp only [move?, Option.map_map]
    rfl
  | launch =>
    simp only [move?]
    split
    · simp only [arm]
      split <;> rfl
    · rfl
  | accept call =>
    simp only [move?]
    split <;> rfl
  | fire call =>
    simp only [move?]
    split
    · split <;> rfl
    · rfl
  | wait t =>
    by_cases hwait : (!r.isReady) = true ∧ r.now ≤ t ∧ r.wake?.all (t ≤ ·) = true
    · simp only [move?]
      rw [if_pos hwait]
      exact if_pos hwait
    · simp only [move?]
      rw [if_neg hwait]
      exact if_neg hwait
  | read => exact absurd rfl unread
  | finish clock => exact absurd rfl (unfinished clock)
  | withdraw | stop => rfl

theorem untimed_arm (r : Refresher) (d : Duration) : (r.arm d).untimed = r.untimed.arm d := by
  by_cases hlt : r.now + d.toNanos < clockBound
  · rw [arm_of_lt hlt, arm_of_lt (r := r.untimed) hlt]
    rfl
  · have hle := Nat.le_of_not_lt hlt
    rw [arm_of_le hle, arm_of_le (r := r.untimed) hle]
    rfl

theorem sketch_conclude (r : Refresher) (a : Answer) (clock : Nat) :
    sketch Signal.untimed (r.untimed.conclude a 0) =
      sketch Signal.untimed (r.conclude a clock) := by
  cases a with
  | issued t =>
    simp only [conclude, succeed, count, sketch, untimed_arm]
    rfl
  | refused f =>
    simp only [conclude, fail, count, sketch, untimed_arm]
    rfl
  | breakdown => rfl

/-- What the calendar says makes no difference to a move. -/
theorem sketch_move? (r : Refresher) (m : Move) :
    (r.untimed.move? (m.sketch id)).map (sketch Signal.untimed) =
      (r.move? m).map (sketch Signal.untimed) := by
  have hframe (unread : m ≠ .read) (unfinished : ∀ clock, m ≠ .finish clock) :
      (r.untimed.move? m).map (sketch Signal.untimed) =
        (r.move? m).map (sketch Signal.untimed) := by
    have hsame := move?_snapshot r r.snapshot unread unfinished
    have huntimed := move?_snapshot r r.snapshot.untimed unread unfinished
    calc (r.untimed.move? m).map (sketch Signal.untimed)
      _ = ((r.move? m).map fun p => ({ p.1 with snapshot := r.snapshot }, p.2)).map
          (sketch Signal.untimed) := by
        rw [untimed, huntimed, Option.map_map, Option.map_map]
        rfl
      _ = (r.move? m).map (sketch Signal.untimed) := by rw [← hsame]
  cases m with
  | read => rfl
  | finish clock =>
    cases hphase : r.phase with
    | fetching fetch =>
      have hconclude := sketch_conclude r fetch.answer clock
      by_cases hdue : fetch.ends ≤ r.now
      · have hleft : r.untimed.move? (.finish 0) = some (r.untimed.conclude fetch.answer 0) := by
          simp only [move?, untimed, hphase, if_pos hdue]
        rw [Move.sketch, hleft, Option.map_some, hconclude]
        simp only [move?, hphase, if_pos hdue, Option.map_some]
      · simp only [Move.sketch, move?, untimed, hphase, if_neg hdue]
    | _ => simp only [Move.sketch, move?, untimed, hphase]
  | _ => exact hframe (by simp) (by simp)

theorem sketch_timed? {r₁ r₂ : Refresher} {m₁ m₂ : Move} (hr : r₁.untimed = r₂.untimed)
    (hm : m₁.sketch id = m₂.sketch id) :
    (timed? r₁ m₁).map (sketch Event.untimed) = (timed? r₂ m₂).map (sketch Event.untimed) := by
  have hevents (r : Refresher) (m : Move) : (timed? r m).map (sketch Event.untimed) =
      ((r.untimed.move? (m.sketch id)).map (sketch Signal.untimed)).map fun p =>
        (p.1, p.2.map (Event.mk r.untimed.now)) := by
    rw [sketch_move?, timed?, Option.map_map, Option.map_map]
    congr 1
    funext p
    simp only [Function.comp_apply, sketch, List.map_map]
    rfl
  rw [hevents, hevents, hr, hm]

/-! ## Instants -/

def asOf (r : Refresher) (t : Nat) : Refresher := { r with now := t }

def Move.ends (now : Nat) : Move → Nat
  | .wait t => t
  | _ => now

/-- A move whose call of the authenticator, if there is one, comes to something else. -/
def Move.answered (call : Call) : Move → Move
  | .accept _ => .accept call
  | .fire _ => .fire call
  | m => m

def Move.calls (now : Nat) : Move → List Nat
  | .accept _ | .fire _ => [now]
  | _ => []

/-- A move with its instant, if it is more than to wait or to be read. -/
def Move.row (now : Nat) : Move → List (Nat × Move)
  | .wait _ | .read => []
  | m => [(now, m)]

/-- What a refresher does, and when. -/
def timetable (now : Nat) : List Move → List (Nat × Move)
  | [] => []
  | m :: rest => m.row now ++ timetable (m.ends now) rest

@[simp] theorem Move.ends_sketch (g : Call → Call) (now : Nat) (m : Move) :
    (m.sketch g).ends now = m.ends now := by
  cases m <;> rfl

theorem timetable_sketch (g : Call → Call) (now : Nat) (ms : List Move) :
    timetable now (ms.map (Move.sketch g)) =
      (timetable now ms).map (Prod.map id (Move.sketch g)) := by
  induction ms generalizing now with
  | nil => rfl
  | cons m rest ih =>
    have hrow : (m.sketch g).row now = (m.row now).map (Prod.map id (Move.sketch g)) := by
      cases m <;> rfl
    rw [List.map_cons, timetable, timetable, List.map_append, Move.ends_sketch, hrow, ih]

def replay? (r : Refresher) (m : Nat × Move) : Option (Refresher × List Event) :=
  timed? (r.asOf m.1) m.2

@[simp] def Event.unshown? (e : Event) : Option Event :=
  if e.shown?.isNone then some e else none

abbrev unshown (es : List Event) : List Event := es.filterMap Event.unshown?

/-- Which calls a move makes and when it is over does not depend on the state. -/
theorem times_of_move? {r r' : Refresher} {m : Move} {signals : List Signal}
    (h : r.move? m = some (r', signals)) :
    r'.now = m.ends r.now ∧
      (begun (signals.map (Event.mk r.now))).map Prod.fst = m.calls r.now := by
  cases m with
  | send c =>
    simp only [move?] at h
    split at h
    · cases h
    · split at h <;> cases h <;> exact ⟨rfl, rfl⟩
  | enter | resume =>
    simp only [move?, Option.map_eq_some_iff] at h
    obtain ⟨_, _, heq⟩ := h
    cases heq
    exact ⟨rfl, rfl⟩
  | launch =>
    simp only [move?] at h
    split at h <;> cases h
    exact ⟨now_arm .., rfl⟩
  | accept call =>
    simp only [move?] at h
    split at h <;> cases h
    exact ⟨rfl, rfl⟩
  | fire call =>
    simp only [move?] at h
    split at h
    · split at h <;> cases h
      exact ⟨rfl, rfl⟩
    · cases h
  | finish clock =>
    simp only [move?] at h
    split at h
    · rename_i fetch _
      split at h
      · have hconclude : r.conclude fetch.answer clock = (r', signals) := Option.some.inj h
        cases hanswer : fetch.answer with
        | breakdown =>
          rw [hanswer] at hconclude
          cases hconclude
          exact ⟨rfl, rfl⟩
        | _ =>
          rw [hanswer] at hconclude
          cases hconclude
          exact ⟨now_arm .., rfl⟩
      · cases h
    · cases h
  | wait t =>
    simp only [move?] at h
    split at h <;> cases h
    exact ⟨rfl, rfl⟩
  | withdraw | read | stop =>
    cases h
    exact ⟨rfl, rfl⟩

/-- A run follows from its timetable.  It may be replayed from a state of an earlier time, as
waiting does no more than to let time go on. -/
theorem replay_timetable (r₀ : Refresher) {r r' : Refresher} {ms : List Move} {es : List Event}
    (lag : r₀.asOf r.now = r) (h : Machine.run? timed? r ms = some (r', es)) :
    ∃ r₁ log, Machine.run? replay? r₀ (timetable r.now ms) = some (r₁, log) ∧
      r₁.asOf r'.now = r' ∧ unshown log = unshown es := by
  induction ms generalizing r₀ r es with
  | nil =>
    cases h
    exact ⟨r₀, [], rfl, lag, rfl⟩
  | cons m rest ih =>
    obtain ⟨next, front, back, htimed, hrest, rfl⟩ := Machine.of_run?_cons h
    obtain ⟨⟨after, signals⟩, hmove, heq⟩ := Option.map_eq_some_iff.1 htimed
    obtain ⟨rfl, rfl⟩ := Prod.mk.inj heq
    have hnow := (times_of_move? hmove).1
    rw [timetable, ← hnow, unshown, List.filterMap_append, ← unshown, ← unshown]
    have hreplayed (hrow : m.row r.now = [(r.now, m)]) :
        ∃ r₁ log, Machine.run? replay? r₀ (m.row r.now ++ timetable after.now rest) =
            some (r₁, log) ∧ r₁.asOf r'.now = r' ∧
          unshown log = unshown (signals.map (Event.mk r.now)) ++ unshown back := by
      obtain ⟨r₁, log, hreplay, hlag, hlog⟩ := ih after rfl hrest
      have hfirst : replay? r₀ (r.now, m) = some (after, signals.map (Event.mk r.now)) := by
        rw [replay?, lag]
        exact htimed
      refine ⟨r₁, signals.map (Event.mk r.now) ++ log, ?_, hlag, ?_⟩
      · rw [hrow]
        exact Machine.run?_step hfirst hreplay
      · rw [unshown, List.filterMap_append, ← unshown, ← unshown, hlog]
    cases m with
    | wait t =>
      simp only [move?] at hmove
      split at hmove <;> cases hmove
      -- The replay does not wait, so its state lags behind further.
      have hlag : r₀.asOf t = { r with now := t } := congrArg (fun r => r.asOf t) lag
      exact ih r₀ hlag hrest
    | read =>
      cases hmove
      exact ih r₀ lag hrest
    | _ => exact hreplayed rfl

section
variable {r r' : Refresher} {t t' : Nat} {es : List Event}

theorem timed?_wait (unready : r.isReady = false) (forward : r.now ≤ t)
    (early : ∀ wake ∈ r.wake?, t ≤ wake) : timed? r (.wait t) = some (r.asOf t, []) := by
  have hearly : r.wake?.all (t ≤ ·) = true := by simpa [Option.all_eq_true] using early
  rw [timed?, move?, if_pos ⟨by rw [unready]; rfl, forward, hearly⟩]
  rfl

/-- Until the next deadline there is nothing to do. -/
theorem unready_asOf (unready : r.isReady = false) (late : ∀ wake ∈ r.wake?, t < wake) :
    (r.asOf t).isReady = false ∧ (r.asOf t).wake? = r.wake? := by
  have hwake : (r.asOf t).wake? = r.wake? := by
    cases hphase : r.phase with
    | starting first =>
      rw [ready_of_starting hphase] at unready
      cases unready
    | _ => simp only [wake?, asOf, hphase]
  have hlate : r.wake?.any (· ≤ t) = false := by
    simp only [Option.any_eq_false, decide_eq_false_iff_not, Nat.not_le]
    exact late
  refine ⟨?_, hwake⟩
  rw [isReady, Bool.or_eq_false_iff, Bool.or_eq_false_iff] at unready ⊢
  rw [hwake]
  exact ⟨⟨unready.1.1, hlate⟩, unready.2⟩

/-- Time may stop anywhere on its way. -/
theorem run?_wait (h : r.run? [.wait t] = some (r', es)) (later : r.now ≤ t') (earlier : t' < t) :
    r.run? [.wait t', .wait t] = some (r', es) := by
  by_cases hwait : (!r.isReady) = true ∧ r.now ≤ t ∧ r.wake?.all (t ≤ ·) = true
  · have hunready : r.isReady = false := by simpa using hwait.1
    have hearly : ∀ wake ∈ r.wake?, t ≤ wake := by simpa [Option.all_eq_true] using hwait.2.2
    have hlate : ∀ wake ∈ r.wake?, t' < wake := fun wake hmem =>
      Nat.lt_of_lt_of_le earlier (hearly wake hmem)
    obtain ⟨hunready', hwake⟩ := unready_asOf hunready hlate
    have hwhole := timed?_wait hunready hwait.2.1 hearly
    have hfirst := timed?_wait hunready later fun wake hmem => Nat.le_of_lt (hlate wake hmem)
    have hnext : timed? (r.asOf t') (.wait t) = some (r.asOf t, []) :=
      timed?_wait hunready' (Nat.le_of_lt earlier) (hwake ▸ hearly)
    rw [run?_eq_machine] at h ⊢
    rw [Machine.run?_one hwhole] at h
    rw [← h]
    exact Machine.run?_step hfirst (Machine.run?_one hnext)
  · have hnone : r.move? (.wait t) = none := if_neg hwait
    simp only [run?, hnone] at h
    cases h

end

/-! ## Runs at the same instants -/

theorem unshown_untimed (es : List Event) :
    unshown (es.map Event.untimed) = (unshown es).map Event.untimed := by
  rw [unshown, List.filterMap_map, List.map_filterMap]
  apply List.filterMap_congr
  rintro ⟨t, s⟩ _
  cases s <;> rfl

section
variable {r₁ r₂ r₁' r₂' : Refresher} {es₁ es₂ : List Event} {ms₁ ms₂ : List Move}

theorem sketch_of_timetable (hr : r₁.untimed = r₂.untimed)
    (same : (timetable r₁.now ms₁).map (Prod.map id (Move.sketch id)) =
      (timetable r₂.now ms₂).map (Prod.map id (Move.sketch id)))
    (h₁ : Machine.run? timed? r₁ ms₁ = some (r₁', es₁))
    (h₂ : Machine.run? timed? r₂ ms₂ = some (r₂', es₂)) :
    (r₁'.asOf 0).untimed = (r₂'.asOf 0).untimed ∧
      (unshown es₁).map Event.untimed = (unshown es₂).map Event.untimed := by
  obtain ⟨s₁, log₁, hreplay₁, hlag₁, hlog₁⟩ := replay_timetable r₁ rfl h₁
  obtain ⟨s₂, log₂, hreplay₂, hlag₂, hlog₂⟩ := replay_timetable r₂ rfl h₂
  have hstep {a b : Refresher} {m n : Nat × Move} (hab : a.untimed = b.untimed)
      (hmn : Prod.map id (Move.sketch id) m = Prod.map id (Move.sketch id) n) :
      (replay? a m).map (sketch Event.untimed) = (replay? b n).map (sketch Event.untimed) := by
    obtain ⟨htime, hmove⟩ := Prod.mk.inj hmn
    have hasOf : (a.asOf m.1).untimed = (b.asOf n.1).untimed := by
      rw [show m.1 = n.1 from htime]
      exact congrArg (fun r => r.asOf n.1) hab
    exact sketch_timed? hasOf hmove
  have halike := Machine.run?_alike hstep hr same
  rw [hreplay₁, hreplay₂] at halike
  obtain ⟨hstate, hlog⟩ := Prod.mk.inj (Option.some.inj halike)
  constructor
  · rw [← hlag₁, ← hlag₂]
    exact congrArg (fun r => r.asOf 0) hstate
  · rw [← hlog₁, ← hlog₂, ← unshown_untimed, ← unshown_untimed, hlog]

theorem of_opening_run?_nil {policy : Policy} {tick now clock : Nat} {call : Call} {r : Refresher}
    {es : List Event} (h : Opening.run? policy tick now call clock [] = some (r, es)) :
    ∃ t, (Fetch.start tick policy.fetchTimeout now call).answer = .issued t ∧
      r = opened policy tick (.start tick policy.fetchTimeout now call) t clock ∧
      es = openingEvents now (.start tick policy.fetchTimeout now call) t clock := by
  cases hfault : policy.fault? with
  | some f => simp [Opening.run?, Opening.start, hfault] at h
  | none =>
    cases hanswer : (Fetch.start tick policy.fetchTimeout now call).answer with
    | issued t =>
      simp only [Opening.run?, Opening.start, Opening.conclude, hfault, hanswer, run?] at h
      cases h
      exact ⟨t, rfl, rfl, rfl⟩
    | _ => simp [Opening.run?, Opening.start, Opening.conclude, hfault, hanswer] at h

theorem sketch_opening {policy : Policy} {tick now clock₁ clock₂ : Nat} {call : Call}
    (h₁ : Opening.run? policy tick now call clock₁ [] = some (r₁, es₁))
    (h₂ : Opening.run? policy tick now call clock₂ [] = some (r₂, es₂)) :
    r₁.untimed = r₂.untimed ∧ (unshown es₁).map Event.untimed = (unshown es₂).map Event.untimed := by
  obtain ⟨t, hissued, rfl, rfl⟩ := of_opening_run?_nil h₁
  obtain ⟨t', hissued', rfl, rfl⟩ := of_opening_run?_nil h₂
  rw [hissued] at hissued'
  cases hissued'
  exact ⟨rfl, rfl⟩

/-- When the timer was set, and for how long. -/
@[simp] def Event.armed? (e : Event) : Option (Nat × Duration) :=
  match e.signal with
  | .note (.logged entry) => entry.next?.map (e.time, ·)
  | _ => none

abbrev armings (es : List Event) : List (Nat × Duration) := es.filterMap Event.armed?

def Completed.untimed (c : Completed) : Completed := { c with clock := 0 }

/-- Refreshers that did the same at the same instants. -/
structure Alike (r₁ r₂ : Refresher) (es₁ es₂ : List Event) : Prop where
  begun : begun es₁ = begun es₂
  completed : (completed es₁).map Completed.untimed = (completed es₂).map Completed.untimed
  published : (published es₁).map (Prod.map id Snapshot.untimed) =
    (published es₂).map (Prod.map id Snapshot.untimed)
  accepted : accepted es₁ = accepted es₂
  launched : launched es₁ = launched es₂
  fired : fired es₁ = fired es₂
  armings : armings es₁ = armings es₂
  notes : notes es₁ = notes es₂
  snapshot : r₁.snapshot.untimed = r₂.snapshot.untimed
  schedule : r₁.schedule = r₂.schedule
  phase : r₁.phase = r₂.phase
  tally : r₁.tally = r₂.tally
  queue : r₁.queue = r₂.queue

/-- A view that neither shows what readers saw nor what the calendar said. -/
theorem filterMap_of_sketch {α : Type} {view : Event → Option α}
    (hview : ∀ e, (Event.unshown? e).bind (fun e => view e.untimed) = view e)
    (hlog : (unshown es₁).map Event.untimed = (unshown es₂).map Event.untimed) :
    es₁.filterMap view = es₂.filterMap view := by
  have hsketch (es : List Event) :
      ((unshown es).map Event.untimed).filterMap view = es.filterMap view := by
    rw [List.filterMap_map, unshown, List.filterMap_filterMap]
    apply List.filterMap_congr
    intro e _
    exact hview e
  rw [← hsketch, hlog, hsketch]

theorem alike_of_sketch (hstate : (r₁.asOf 0).untimed = (r₂.asOf 0).untimed)
    (hlog : (unshown es₁).map Event.untimed = (unshown es₂).map Event.untimed) :
    Alike r₁ r₂ es₁ es₂ := by
  constructor
  case completed =>
    rw [List.map_filterMap, List.map_filterMap]
    refine filterMap_of_sketch ?_ hlog
    rintro ⟨t, s⟩
    cases s <;> rfl
  case published =>
    rw [List.map_filterMap, List.map_filterMap]
    refine filterMap_of_sketch ?_ hlog
    rintro ⟨t, s⟩
    cases s <;> rfl
  case snapshot => exact congrArg Refresher.snapshot hstate
  case schedule => exact congrArg (fun r => r.schedule) hstate
  case phase => exact congrArg (fun r => r.phase) hstate
  case tally => exact congrArg (fun r => r.tally) hstate
  case queue => exact congrArg (fun r => r.queue) hstate
  all_goals
    refine filterMap_of_sketch ?_ hlog
    rintro ⟨t, s⟩
    cases s <;> rfl

/-- Caches that are opened at the same time and then do the same at the same instants are alike. -/
theorem alike_of_timetable {policy : Policy} {tick now clock₁ clock₂ : Nat} {call : Call}
    (h₁ : Opening.run? policy tick now call clock₁ ms₁ = some (r₁, es₁))
    (h₂ : Opening.run? policy tick now call clock₂ ms₂ = some (r₂, es₂))
    (same : let opens := (Fetch.start tick policy.fetchTimeout now call).ends
      (timetable opens ms₁).map (Prod.map id (Move.sketch id)) =
        (timetable opens ms₂).map (Prod.map id (Move.sketch id))) :
    Alike r₁ r₂ es₁ es₂ := by
  obtain ⟨s₁, front₁, back₁, hopening₁, hrun₁, rfl⟩ :=
    of_opening_run?_append ((List.nil_append ms₁).symm ▸ h₁)
  obtain ⟨s₂, front₂, back₂, hopening₂, hrun₂, rfl⟩ :=
    of_opening_run?_append ((List.nil_append ms₂).symm ▸ h₂)
  rw [run?_eq_machine] at hrun₁ hrun₂
  obtain ⟨hopened, hfront⟩ := sketch_opening hopening₁ hopening₂
  obtain ⟨t₁, _, rfl, _⟩ := of_opening_run?_nil hopening₁
  obtain ⟨t₂, _, rfl, _⟩ := of_opening_run?_nil hopening₂
  obtain ⟨hstate, hback⟩ := sketch_of_timetable hopened same hrun₁ hrun₂
  apply alike_of_sketch hstate
  rw [unshown, unshown, List.filterMap_append, List.filterMap_append, List.map_append,
    List.map_append, hfront, hback]

end

end Refresher

end FreshToken
