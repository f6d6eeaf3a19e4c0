import FreshToken.Proofs.Refresher.Flight
/-!
# The time limit

An attempt waits for the authenticator until its answer is there or the limit is reached, whatever
commands arrive meanwhile.  An answer that comes too late is as good as none: the attempt is an
ordinary failure, and nothing that happens afterwards depends on the late call.
-/

namespace FreshToken

/-- Until when an attempt that begins at `start` waits.  Without an end that the clock can tell it
waits for thirty years. -/
inductive Limit (tick : Nat) (timeout : Duration) (start : Nat) : Nat → Prop where
  | timeout (told : start + timeout.toNanos < clockBound) :
    Limit tick timeout start (roundUp tick (start + timeout.toNanos))
  | thirtyYears (untold : clockBound ≤ start + timeout.toNanos)
    (told : start + thirtyYears.toNanos < clockBound) :
    Limit tick timeout start (roundUp tick (start + thirtyYears.toNanos))

/-- The call is not over by the limit, if it ever is. -/
def Call.IsLate (call : Call) (start limit : Nat) : Prop :=
  ∀ nanos, call.takes = some nanos → limit < start + nanos

/-- What a call that is waited for from `start` on comes to, and when. -/
inductive Decided (tick : Nat) (timeout : Duration) (start : Nat) (call : Call) : Fetch → Prop where
  | own (limit : Nat) (waits : Limit tick timeout start limit) (nanos : Nat)
    (takes : call.takes = some nanos) (inTime : start + nanos ≤ limit) :
    Decided tick timeout start call ⟨start + nanos, call.answer⟩
  | cutOff (limit : Nat) (waits : Limit tick timeout start limit)
    (late : call.IsLate start limit) :
    Decided tick timeout start call ⟨limit, .refused (.timedOut timeout)⟩
  /-- The clock can tell neither limit. -/
  | broken (untold : clockBound ≤ start + timeout.toNanos)
    (neither : clockBound ≤ start + thirtyYears.toNanos) :
    Decided tick timeout start call ⟨start, .breakdown⟩

/-! ## Limits -/

theorem dvd_roundUp {tick : Nat} (h : 0 < tick) (instant : Nat) : tick ∣ roundUp tick instant := by
  have hdiv := Nat.div_add_mod instant tick
  by_cases hmod : instant % tick = 0
  · rw [roundUp, hmod, Nat.sub_zero, Nat.mod_self, Nat.add_zero]
    exact Nat.dvd_of_mod_eq_zero hmod
  · have hlt := Nat.mod_lt instant h
    rw [roundUp, Nat.mod_eq_of_lt (by omega : tick - instant % tick < tick)]
    refine ⟨instant / tick + 1, ?_⟩
    rw [Nat.mul_add, Nat.mul_one]
    omega

/-- No multiple of the tick lies between an instant and the one that it is rounded up to. -/
theorem roundUp_le_of_dvd {tick instant m : Nat} (hpos : 0 < tick) (h : instant ≤ m)
    (hdvd : tick ∣ m) : roundUp tick instant ≤ m := by
  obtain ⟨k, hk⟩ := dvd_roundUp hpos instant
  obtain ⟨n, rfl⟩ := hdvd
  have hround := roundUp_lt hpos instant
  have hlt : k < n + 1 := by
    apply Nat.lt_of_mul_lt_mul_left (a := tick)
    rw [Nat.mul_add, Nat.mul_one, ← hk]
    omega
  rw [hk]
  exact Nat.mul_le_mul_left tick (Nat.le_of_lt_succ hlt)

theorem roundUp_mono (tick : Nat) {a b : Nat} (h : a ≤ b) : roundUp tick a ≤ roundUp tick b := by
  by_cases hzero : tick = 0
  · subst hzero
    simpa [roundUp] using h
  · have hpos : 0 < tick := Nat.pos_of_ne_zero hzero
    exact roundUp_le_of_dvd hpos (Nat.le_trans h (le_roundUp tick b)) (dvd_roundUp hpos b)

section
variable {tick start limit : Nat} {timeout : Duration}

theorem limit_iff : Limit tick timeout start limit ↔ deadline? tick start timeout = some limit := by
  constructor
  · intro h
    cases h with
    | timeout told => rw [deadline?, waitEnd?_of_lt told, Option.map_some]
    | thirtyYears untold told =>
      rw [deadline?, waitEnd?_of_le untold, instantAfter?, if_pos told, Option.map_some]
  · intro h
    by_cases told : start + timeout.toNanos < clockBound
    · rw [deadline?, waitEnd?_of_lt told, Option.map_some, Option.some.injEq] at h
      exact h ▸ .timeout told
    · have untold := Nat.le_of_not_lt told
      rw [deadline?, waitEnd?_of_le untold, instantAfter?] at h
      split at h
      · rename_i told
        rw [Option.map_some, Option.some.injEq] at h
        exact h ▸ .thirtyYears untold told
      · cases h

theorem untold_of_deadline? (h : deadline? tick start timeout = none) :
    clockBound ≤ start + timeout.toNanos ∧ clockBound ≤ start + thirtyYears.toNanos := by
  constructor
  · by_contra hlt
    have hlimit : Limit tick timeout start _ := .timeout (Nat.lt_of_not_le hlt)
    rw [limit_iff.1 hlimit] at h
    cases h
  · by_contra hlt
    by_cases told : start + timeout.toNanos < clockBound
    · rw [limit_iff.1 (.timeout told)] at h
      cases h
    · rw [limit_iff.1 (.thirtyYears (Nat.le_of_not_lt told) (Nat.lt_of_not_le hlt))] at h
      cases h

/-- No attempt waits longer than the policy allows. -/
theorem Limit.le (h : Limit tick timeout start limit) :
    limit ≤ roundUp tick (start + timeout.toNanos) := by
  cases h with
  | timeout => exact Nat.le_refl _
  | thirtyYears untold told => exact roundUp_mono tick (by omega)

end

namespace Fetch

variable {tick now limit : Nat} {timeout : Duration} {call : Call}

theorem start_of_limit (h : Limit tick timeout now limit) :
    start tick timeout now call = await timeout now limit call := by
  rw [start, limit_iff.1 h]

theorem await_of_late (late : call.IsLate now limit) :
    await timeout now limit call = cutOff timeout limit := by
  rw [await]
  split
  · rename_i nanos htakes
    rw [if_neg (Nat.not_le_of_lt (late nanos htakes))]
  · rfl

theorem decided_start (tick now : Nat) (timeout : Duration) (call : Call) :
    Decided tick timeout now call (start tick timeout now call) := by
  cases hdeadline : deadline? tick now timeout with
  | none =>
    obtain ⟨huntold, hneither⟩ := untold_of_deadline? hdeadline
    rw [start, hdeadline]
    exact .broken huntold hneither
  | some limit =>
    have hlimit := limit_iff.2 hdeadline
    rw [start_of_limit hlimit]
    by_cases late : call.IsLate now limit
    · rw [await_of_late late]
      exact .cutOff limit hlimit late
    · obtain ⟨nanos, htakes, hle⟩ :
          ∃ nanos, call.takes = some nanos ∧ now + nanos ≤ limit := by
        simpa [Call.IsLate] using late
      simp only [await, htakes, if_pos hle]
      exact .own limit hlimit nanos htakes hle

/-- Late calls are all alike. -/
theorem start_congr_of_late {other : Call} (late : ∀ limit, Limit tick timeout now limit →
      call.IsLate now limit ∧ other.IsLate now limit) :
    start tick timeout now other = start tick timeout now call := by
  cases hdeadline : deadline? tick now timeout with
  | none => rw [start, start, hdeadline]
  | some limit =>
    have hlimit := limit_iff.2 hdeadline
    rw [start_of_limit hlimit, start_of_limit hlimit, await_of_late (late limit hlimit).1,
      await_of_late (late limit hlimit).2]

end Fetch

theorem Decided.ends_le {tick start : Nat} {timeout : Duration} {call : Call} {fetch : Fetch}
    (h : Decided tick timeout start call fetch) :
    fetch.ends ≤ roundUp tick (start + timeout.toNanos) := by
  cases h with
  | own limit waits nanos takes inTime => exact Nat.le_trans inTime waits.le
  | cutOff limit waits => exact waits.le
  | broken =>
    have hle := le_roundUp tick (start + timeout.toNanos)
    show start ≤ _
    omega

theorem Opening.start_of_valid {policy : Policy} (valid : policy.Valid) (tick now : Nat)
    (call : Call) : Opening.start policy tick now call =
      .ok (⟨policy, tick, .start tick policy.fetchTimeout now call⟩,
        [.note (.logged (.span .initialFetch)), .note (.counted .refresh .attempt),
          .began .opening]) := by
  rw [Opening.start, show policy.fault? = none from valid]

/-- Where the first attempt fails there is no refresher that could run. -/
theorem Opening.run?_of_failed {policy : Policy} {tick now clock : Nat} {call : Call} {o : Opening}
    {front back : List Signal} {failure : Failure}
    (hstart : Opening.start policy tick now call = .ok (o, front))
    (hconclude : o.conclude clock = (.error failure, back)) (moves : List Refresher.Move) :
    Opening.run? policy tick now call clock moves = none := by
  simp only [Opening.run?, hstart, hconclude]

namespace Refresher

/-! ## An attempt and what happens to it -/

/-- How far an attempt has come, with all that happened since it began. -/
inductive Attempt (fetch : Fetch) (r : Refresher) (es : List Event) : Prop where
  | underWay (fetching : r.phase = .fetching fetch) (early : r.now ≤ fetch.ends)
      (none : completed es = [])
  | ended (a : Completed) (later : List Completed) (first : completed es = a :: later)
      (time : a.time = fetch.ends) (answer : fetch.answer = .ofOutcome a.outcome)
  /-- The refresher stopped meanwhile, or the attempt broke down. -/
  | lost (stopped : r.phase = .stopped) (none : completed es = [])
      (why : ∃ e ∈ es, e.signal = .dropped ∨
        e.signal = .broke ∧ e.time = fetch.ends ∧ fetch.answer = .breakdown)

section
variable {fetch : Fetch} {r r' : Refresher} {es : List Event} {signals : List Signal}

theorem Attempt.step_underWay (fetching : r.phase = .fetching fetch) (early : r.now ≤ fetch.ends)
    (none : completed es = []) (h : Step r r' signals) :
    Attempt fetch r' (es ++ signals.map (Event.mk r.now)) := by
  cases h with
  | launch first starting =>
    rw [fetching] at starting
    cases starting
  | accept armed c call idle | fire armed call idle =>
    rw [fetching] at idle
    cases idle
  | succeed fetch' t clock fetching' due answer =>
    rw [fetching] at fetching'
    cases fetching'
    exact .ended ⟨r.now, clock, .ok t⟩ [] (by simp [none]) (Nat.le_antisymm early due) answer
  | fail fetch' f clock fetching' due answer =>
    rw [fetching] at fetching'
    cases fetching'
    exact .ended ⟨r.now, clock, .error f⟩ [] (by simp [none]) (Nat.le_antisymm early due) answer
  | collapse fetch' fetching' due answer =>
    rw [fetching] at fetching'
    cases fetching'
    have hnow : r.now = fetch.ends := Nat.le_antisymm early due
    exact .lost rfl (by simp [none]) ⟨⟨r.now, .broke⟩, by simp, Or.inr ⟨rfl, hnow, answer⟩⟩
  | wait target unready forward hearly =>
    have htarget : target ≤ fetch.ends := hearly _ (by simp [wake?, fetching])
    exact .underWay fetching htarget (by simp [none])
  | stop => exact .lost rfl (by simp [none]) ⟨⟨r.now, .dropped⟩, by simp, Or.inl rfl⟩
  | _ => exact .underWay fetching early (by simp [none])

theorem Attempt.step (hr : Attempt fetch r es) (h : Step r r' signals) :
    Attempt fetch r' (es ++ signals.map (Event.mk r.now)) := by
  cases hr with
  | underWay fetching early none => exact step_underWay fetching early none h
  | ended a later first time answer =>
    refine .ended a (later ++ completed (signals.map (Event.mk r.now))) ?_ time answer
    simp only [List.filterMap_append, first, List.cons_append]
  | lost stopped none why =>
    obtain ⟨e, he, hwhy⟩ := why
    obtain ⟨hstopped, _, _, hcompleted, _⟩ := h.of_stopped stopped
    refine .lost hstopped ?_ ⟨e, List.mem_append_left _ he, hwhy⟩
    simp only [List.filterMap_append, none, hcompleted, List.append_nil]

/-! ### Every attempt can end -/

/-- Some moves end all attempts at a given instant, although nobody drops the cache. -/
def CanEnd (r : Refresher) (instant : Nat) : Prop :=
  ∃ moves r' log, .stop ∉ moves ∧ r.run? moves = some (r', log) ∧ r'.now = instant ∧
    r'.inFlight = 0

theorem CanEnd.cons {instant : Nat} {m : Move} (hmove : r.move? m = some (r', signals))
    (hm : m ≠ .stop) (h : CanEnd r' instant) : CanEnd r instant := by
  obtain ⟨moves, final, log, hstop, hrun, hnow, hends⟩ := h
  refine ⟨m :: moves, final, signals.map (Event.mk r.now) ++ log, ?_, ?_, hnow, hends⟩
  · simp [hstop, hm.symm]
  · simp [run?, hmove, hrun]

theorem inFlight_conclude (r : Refresher) (answer : Answer) (clock : Nat) :
    (r.conclude answer clock).1.inFlight = 0 := by
  cases answer with
  | issued t => exact inFlight_arm ..
  | refused f => exact inFlight_arm ..
  | breakdown => rfl

theorem now_conclude (r : Refresher) (answer : Answer) (clock : Nat) :
    (r.conclude answer clock).1.now = r.now := by
  cases answer with
  | issued t => exact now_arm ..
  | refused f => exact now_arm ..
  | breakdown => rfl

theorem canEnd_of_due (fetching : r.phase = .fetching fetch) (due : r.now = fetch.ends) :
    CanEnd r fetch.ends := by
  have hmove : r.move? (.finish 0) = some (r.conclude fetch.answer 0) := by
    simp only [move?, fetching, due, Nat.le_refl, if_true]
  have hnow : (r.conclude fetch.answer 0).1.now = fetch.ends := by rw [now_conclude, due]
  exact CanEnd.cons hmove (by simp) ⟨[], _, [], by simp, rfl, hnow, inFlight_conclude ..⟩

theorem canEnd_of_calm (fetching : r.phase = .fetching fetch) (early : r.now ≤ fetch.ends)
    (calm : r.queue.canEnter = false) : CanEnd r fetch.ends := by
  rcases Nat.eq_or_lt_of_le early with hdue | hlt
  · exact canEnd_of_due fetching hdue
  · have hmove : r.move? (.wait fetch.ends) = some ({ r with now := fetch.ends }, []) := by
      simp [move?, isReady, wake?, fetching, calm, hlt, early]
    exact CanEnd.cons hmove (by simp) (canEnd_of_due fetching rfl)

/-- An attempt can end when its time has come, however many callers wait in line. -/
theorem canEnd (fetching : r.phase = .fetching fetch) (early : r.now ≤ fetch.ends) :
    CanEnd r fetch.ends := by
  cases hready : r.queue.canEnter with
  | false => exact canEnd_of_calm fetching early hready
  | true =>
    -- Time goes on only when the slot is filled, which leaves no room for another command.
    obtain ⟨hvacant, hline⟩ : r.queue.slot = none ∧ r.queue.waiting ≠ [] := by
      simpa [Queue.canEnter] using hready
    obtain ⟨c, rest, hwaiting⟩ := List.exists_cons_of_ne_nil hline
    have hmove : r.move? .enter = some (
        { r with queue := { r.queue with slot := some c, isAttended := true, waiting := rest } },
        [.entered c]) := by
      simp only [move?, Queue.enter?, hvacant, hwaiting, Option.map_some]
    exact CanEnd.cons hmove (by simp) (canEnd_of_calm fetching early (by simp [Queue.canEnter]))

/-! ### Failures -/

/-- An attempt that fails leaves the last token and the schedule as they were. -/
structure FailsWith (f : AuthFault) (schedule : Option Duration) (r r' : Refresher) : Prop where
  snapshot : r'.snapshot =
    { r.snapshot with lastFault := some f, attempt := r.snapshot.attempt + 1 }
  tally : r'.tally = { r.tally with failures := r.tally.failures + 1 }
  kept : r'.schedule = schedule
  now : r'.now = r.now
  /-- The next attempt follows after the delay of a failure, while the clock can tell when. -/
  next : r'.phase = .idle (r.now + (r.policy.delayAfterFailure schedule).toNanos) ∨
    r'.phase = .stopped ∧ clockBound ≤ r.now + Policy.oneYear.toNanos

theorem failsWith_settled (r : Refresher) (f : AuthFault) (clock : Nat) :
    FailsWith f r.schedule r (r.settled (.error f) clock) where
  snapshot := snapshot_settled
  tally := tally_settled
  kept := schedule_settled
  now := now_settled
  next := by
    rcases phase_settled r (.error f) clock with ⟨hidle, _⟩ | ⟨hstop, _⟩
    · exact Or.inl hidle
    · have hbound := stopped_settled hstop
      have hyear := r.policy.delayAfter_le_oneYear (.error f) r.schedule
      exact Or.inr ⟨hstop, Nat.le_trans hbound (Nat.add_le_add_left hyear _)⟩

theorem failsWith_of_finish {f : AuthFault} {clock : Nat} (fetching : r.phase = .fetching fetch)
    (answer : fetch.answer = .refused f) (h : r.move? (.finish clock) = some (r', signals)) :
    FailsWith f r.schedule r r' := by
  simp only [move?, fetching] at h
  split at h
  · rw [answer] at h
    cases h
    exact failsWith_settled r f clock
  · cases h

end

/-! ## Attempts in a run -/

inductive Begins : (Call → Move) → Prop where
  | accept : Begins .accept
  | fire : Begins .fire

section
variable {begins : Call → Move} {call : Call} {r r' : Refresher} {signals : List Signal}

/-- Only what becomes of its call matters for an attempt. -/
theorem Begins.move?_eq (h : Begins begins) {other : Call}
    (same : Fetch.start r.tick r.policy.fetchTimeout r.now other =
      .start r.tick r.policy.fetchTimeout r.now call) :
    r.move? (begins other) = r.move? (begins call) := by
  cases h with
  | accept => simp only [move?, Refresher.accept, attempt, count, same]
  | fire => simp only [move?, attempt, count, same]

theorem Begins.begun (h : Begins begins) (hmove : r.move? (begins call) = some (r', signals)) :
    r'.phase = .fetching (.start r.tick r.policy.fetchTimeout r.now call) ∧ r'.now = r.now ∧
      completed (signals.map (Event.mk r.now)) = [] ∧
      ∃ cause, Refresher.begun (signals.map (Event.mk r.now)) = [(r.now, cause)] := by
  cases h with
  | accept =>
    simp only [move?] at hmove
    split at hmove
    · cases hmove
      exact ⟨rfl, rfl, rfl, _, rfl⟩
    · cases hmove
  | fire =>
    simp only [move?] at hmove
    split at hmove
    · split at hmove
      · cases hmove
        exact ⟨rfl, rfl, rfl, _, rfl⟩
      · cases hmove
    · cases hmove

end

theorem attempt_of_run? {fetch : Fetch} {r r' : Refresher} {es new : List Event}
    {moves : List Move} (hr : Attempt fetch r es) (h : r.run? moves = some (r', new)) :
    Attempt fetch r' (es ++ new) :=
  run?_induction Attempt.step hr h

/-- The first attempt of a cache.  If it fails there is no refresher. -/
structure FirstAttempt (policy : Policy) (tick now : Nat) (call : Call) (o : Opening) :
    Prop where
  ends_le : o.fetch.ends ≤ roundUp tick (now + policy.fetchTimeout.toNanos)
  /-- The answer of its own call counts if it is there by the limit. -/
  decided : Decided tick policy.fetchTimeout now call o.fetch
  opens : ∀ t, o.fetch.answer = .issued t → ∀ clock, ∃ r es,
    Opening.run? policy tick now call clock [] = some (r, es) ∧ r.now = o.fetch.ends ∧
      completed es = [⟨o.fetch.ends, clock, .ok t⟩]
  fails : ∀ f, o.fetch.answer = .refused f → ∀ clock,
    o.conclude clock =
        (.error (.returned (.authentication f)), [.note (.counted .refresh .failure)]) ∧
      ∀ moves, Opening.run? policy tick now call clock moves = none
  breaks : o.fetch.answer = .breakdown → ∀ clock,
    o.conclude clock = (.error .breakdown, []) ∧
      ∀ moves, Opening.run? policy tick now call clock moves = none
  /-- Nothing depends on a call that is late. -/
  forgets : ∀ other : Call, (∀ limit, Limit tick policy.fetchTimeout now limit →
      call.IsLate now limit ∧ other.IsLate now limit) →
    Opening.start policy tick now other = Opening.start policy tick now call

theorem exists_firstAttempt {policy : Policy} (valid : policy.Valid) (tick now : Nat)
    (call : Call) :
    ∃ o signals, Opening.start policy tick now call = .ok (o, signals) ∧
      FirstAttempt policy tick now call o := by
  have hstart := Opening.start_of_valid valid tick now
  refine ⟨_, _, hstart call, ?_⟩
  have hdecided := Fetch.decided_start tick now policy.fetchTimeout call
  constructor
  case ends_le => exact hdecided.ends_le
  case decided => exact hdecided
  case opens =>
    intro t hissued clock
    have hissued : (Fetch.start tick policy.fetchTimeout now call).answer = .issued t := hissued
    simp only [Opening.run?, hstart, Opening.conclude, hissued, run?, Option.map_some]
    exact ⟨_, _, rfl, rfl, rfl⟩
  case fails =>
    intro f hrefused clock
    have hconclude : Opening.conclude ⟨policy, tick, .start tick policy.fetchTimeout now call⟩
        clock = (.error (.returned (.authentication f)), [.note (.counted .refresh .failure)]) := by
      rw [Opening.conclude, hrefused]
    exact ⟨hconclude, Opening.run?_of_failed (hstart call) hconclude⟩
  case breaks =>
    intro hbroken clock
    have hconclude : Opening.conclude ⟨policy, tick, .start tick policy.fetchTimeout now call⟩
        clock = (.error .breakdown, []) := by
      rw [Opening.conclude, hbroken]
    exact ⟨hconclude, Opening.run?_of_failed (hstart call) hconclude⟩
  case forgets =>
    intro other late
    rw [hstart, hstart, Fetch.start_congr_of_late late]

/-- An attempt that begins at `start`, and what it has come to when `new` has happened since. -/
structure LaterAttempt (policy : Policy) (tick : Nat) (call : Call) (start : Nat) (fetch : Fetch)
    (r : Refresher) (es new : List Event) : Prop where
  begins : ∃ cause, (begun new).head? = some (start, cause)
  ends_le : fetch.ends ≤ roundUp tick (start + policy.fetchTimeout.toNanos)
  decided : Decided tick policy.fetchTimeout start call fetch
  attempt : Attempt fetch r new
  /-- While it is under way it can end in time. -/
  canEnd : r.phase = .fetching fetch → CanEnd r fetch.ends
  fails : ∀ f, fetch.answer = .refused f → r.phase = .fetching fetch →
    ∀ clock r' signals, r.move? (.finish clock) = some (r', signals) →
      FailsWith f (requested es) r r'

theorem exists_laterAttempt {policy : Policy} {tick now clock : Nat} {first call : Call}
    {begins : Call → Move} {front back : List Move} {r : Refresher} {es : List Event}
    (hbegins : Begins begins)
    (h : Opening.run? policy tick now first clock (front ++ begins call :: back) = some (r, es)) :
    ∃ before earlier new fetch,
      Opening.run? policy tick now first clock front = some (before, earlier) ∧
        es = earlier ++ new ∧ LaterAttempt policy tick call before.now fetch r es new ∧
        ∀ other : Call, (∀ limit, Limit tick policy.fetchTimeout before.now limit →
            call.IsLate before.now limit ∧ other.IsLate before.now limit) →
          Opening.run? policy tick now first clock (front ++ begins other :: back) =
            some (r, es) := by
  have hr := reached_of_run? h
  obtain ⟨before, earlier, new, hfront, hrest, rfl⟩ := of_opening_run?_append h
  have hbefore := reached_of_run? hfront
  rw [run?_eq_machine] at hrest
  obtain ⟨after, began, rest, hmove, hback, rfl⟩ := Machine.of_run?_cons hrest
  obtain ⟨⟨r₁, signals⟩, hmoved, heq⟩ := Option.map_eq_some_iff.1 hmove
  cases heq
  obtain ⟨hfetching, hnow, hnone, cause, hbegun⟩ := hbegins.begun hmoved
  rw [hbefore.tick_eq, hbefore.policy_eq] at hfetching
  rw [← run?_eq_machine] at hback
  have hattempt : Attempt (.start tick policy.fetchTimeout before.now call) r
      (signals.map (Event.mk before.now) ++ rest) := by
    refine attempt_of_run? (.underWay hfetching ?_ hnone) hback
    rw [hnow]
    exact Fetch.le_ends_start ..
  have hdecided := Fetch.decided_start tick before.now policy.fetchTimeout call
  refine ⟨before, earlier, _, .start tick policy.fetchTimeout before.now call, hfront, rfl,
    ⟨⟨cause, ?_⟩, hdecided.ends_le, hdecided, hattempt, ?_, ?_⟩, ?_⟩
  · simp only [List.filterMap_append, hbegun, List.singleton_append, List.head?_cons]
  · exact fun hphase => canEnd hphase (hr.now_le_ends hphase)
  · intro f hrefused hphase clock' r' signals' hfinish
    rw [← hr.schedule_eq]
    exact failsWith_of_finish hphase hrefused hfinish
  · intro other late
    have hsame : Fetch.start before.tick before.policy.fetchTimeout before.now other =
        .start before.tick before.policy.fetchTimeout before.now call := by
      rw [hbefore.tick_eq, hbefore.policy_eq, Fetch.start_congr_of_late late]
    refine opening_run?_append hfront ?_
    rw [run?_eq_machine] at hback ⊢
    refine Machine.run?_step ?_ hback
    rw [timed?, hbegins.move?_eq hsame, ← timed?, hmove]

/-- A policy whose limit the clock cannot tell. -/
def endlessPolicy : Policy := { Policy.standard with fetchTimeout := .longest }

/-- A call that gets its token after thirty-one years. -/
def slowCall : Call := ⟨some 977616000000000000, promptCall.answer⟩

end Refresher

end FreshToken
