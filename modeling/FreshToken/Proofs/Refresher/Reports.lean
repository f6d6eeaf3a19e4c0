import FreshToken.Proofs.Refresher.Flight
import FreshToken.Proofs.Refresher.History
/-!
# What is reported

Counters and log entries are written at different moments of a turn, some before a snapshot is
published and some after.  Read together they tell exactly what happened: the numbers are those of
the snapshot, and each entry of the log belongs to one turn of the loop.
-/

namespace FreshToken

/-- The entry for an attempt that ended, when the next one follows after `next`. -/
def Entry.ofOutcome (attempt : Nat) (outcome : Except AuthFault IssuedToken) (next : Duration) :
    Entry :=
  match outcome with
  | .ok t => .refreshed attempt t.lifetime next
  | .error f => .refreshFailed attempt f next

def Entry.next? : Entry → Option Duration
  | .refreshed _ _ next | .refreshFailed _ _ next => some next
  | _ => none

theorem Entry.next?_ofOutcome (attempt : Nat) (outcome : Except AuthFault IssuedToken)
    (next : Duration) : (Entry.ofOutcome attempt outcome next).next? = some next := by
  cases outcome <;> rfl

namespace Refresher

def entries (es : List Event) : List Entry := (notes es).filterMap Note.entry?

/-- The counters after a run, if nobody else counts. -/
def counters (es : List Event) : Counters := (notes es).foldl Counters.hear .zero

theorem entries_append (es new : List Event) : entries (es ++ new) = entries es ++ entries new := by
  simp only [entries, List.filterMap_append]

theorem counters_append (es new : List Event) :
    counters (es ++ new) = (notes new).foldl Counters.hear (counters es) := by
  simp only [counters, List.filterMap_append, List.foldl_append]

/-! ## Turns of the loop -/

/-- One attempt with its cause, its outcome and the snapshot that it published. -/
structure Turn where
  cause : Cause
  /-- The interval that is in force. -/
  schedule : Option Duration
  outcome : Option (Except AuthFault IssuedToken)
  published : Option Snapshot

def Turn.begin (cause : Cause) (earlier : List Turn) : Turn where
  cause := cause
  schedule := match cause with
    | .command c => c.interval
    | _ => earlier.head?.bind Turn.schedule
  outcome := none
  published := none

def Event.turn (turns : List Turn) (e : Event) : List Turn :=
  match e.signal with
  | .began cause => .begin cause turns :: turns
  | .ended outcome _ => turns.modifyHead fun turn => { turn with outcome := some outcome }
  | .published s => turns.modifyHead fun turn => { turn with published := some s }
  | _ => turns

def turns (es : List Event) : List Turn := es.foldl Event.turn []

theorem turns_append (es new : List Event) : turns (es ++ new) = new.foldl Event.turn (turns es) :=
  List.foldl_append

def Turn.entries (policy : Policy) (turn : Turn) : List Entry :=
  let ended := match turn.outcome, turn.published with
    | some outcome, some s =>
      [Entry.ofOutcome s.attempt outcome (policy.delayAfter outcome turn.schedule)]
    | _, _ => []
  match turn.cause with
  | .opening => [.span .initialFetch]
  | .command c => .rescheduled c.interval :: .span .refresh :: ended
  | .timer => .span .refresh :: ended

def Turn.IsOver (turn : Turn) : Prop := turn.outcome.isSome ∧ turn.published.isSome

/-- What the newest turn has to do with the refresher. -/
def Turn.Fits (turn : Turn) (r : Refresher) (es : List Event) : Prop :=
  match r.phase with
  | .starting _ => turn.cause = .opening ∧ turn.IsOver
  | .idle armed => turn.IsOver ∧ (turn.cause ≠ .opening →
    ∃ last, (completed es).getLast? = some last ∧ turn.outcome = some last.outcome ∧
      armed = last.time + (r.policy.delayAfter last.outcome turn.schedule).toNanos)
  | .fetching _ => turn.cause ≠ .opening ∧ turn.outcome = none ∧ turn.published = none
  | .stopped => True

section
variable {policy : Policy} {tick : Nat} {r : Refresher} {es : List Event}

/-- The newest turn is the one under way, and all others are over. -/
structure Newest (r : Refresher) (es : List Event) (turn : Turn) (earlier : List Turn) : Prop where
  eq : turns es = turn :: earlier
  schedule : turn.schedule = r.schedule
  fits : turn.Fits r es
  past : ∀ t ∈ earlier, t.IsOver

theorem Newest.keep {turn : Turn} {earlier : List Turn} (h : Newest r es turn earlier)
    {r' : Refresher} {new : List Event} (quiet : new.foldl Event.turn (turns es) = turns es)
    (hcompleted : completed new = []) (hschedule : r'.schedule = r.schedule)
    (hpolicy : r'.policy = r.policy) (hphase : r'.phase = r.phase) :
    Newest r' (es ++ new) turn earlier where
  eq := by rw [turns_append, quiet, h.eq]
  schedule := h.schedule.trans hschedule.symm
  fits := by
    have hfits := h.fits
    simp only [Turn.Fits, hphase, hpolicy, List.filterMap_append, hcompleted, List.append_nil]
    exact hfits
  past := h.past

theorem Newest.settled {turn : Turn} {earlier : List Turn} (h : Newest r es turn earlier)
    (outcome : Except AuthFault IssuedToken) (clock : Nat) {new : List Event}
    (hturns : new.foldl Event.turn (turn :: earlier) =
      { turn with outcome := some outcome, published := some (r.snapshot.after outcome clock) } ::
        earlier)
    (hcompleted : completed new = [⟨r.now, clock, outcome⟩]) :
    Newest (r.settled outcome clock) (es ++ new)
      { turn with outcome := some outcome, published := some (r.snapshot.after outcome clock) }
      earlier where
  eq := by rw [turns_append, h.eq, hturns]
  schedule := h.schedule.trans schedule_settled.symm
  fits := by
    rcases phase_settled r outcome clock with ⟨hidle, _⟩ | ⟨hstop, _⟩
    · simp only [Turn.Fits, hidle, policy_settled, List.filterMap_append, hcompleted]
      refine ⟨⟨rfl, rfl⟩, fun _ => ⟨⟨r.now, clock, outcome⟩, by simp, rfl, ?_⟩⟩
      rw [h.schedule]
    · simp only [Turn.Fits, hstop]
  past := h.past

theorem Reached.exists_newest (h : Reached policy tick r es) :
    ∃ turn earlier, Newest r es turn earlier := by
  induction h with
  | opened now call t clock valid issued =>
    exact ⟨_, [], rfl, rfl, ⟨rfl, rfl, rfl⟩, by simp⟩
  | @step r r' es signals hr hstep ih =>
    obtain ⟨turn, earlier, hnew⟩ := ih
    have hfits := hnew.fits
    cases hstep with
    | launch first starting =>
      simp only [Turn.Fits, starting] at hfits
      refine ⟨turn, earlier, ?_, ?_, ?_, hnew.past⟩
      · exact (turns_append es _).trans hnew.eq
      · rw [schedule_arm, hnew.schedule]
      · rcases phase_arm r first with ⟨hidle, _⟩ | ⟨hstop, _⟩
        · simp only [Turn.Fits, hidle]
          exact ⟨hfits.2, fun hcause => absurd hfits.1 hcause⟩
        · simp only [Turn.Fits, hstop]
    | accept armed c call idle =>
      simp only [Turn.Fits, idle] at hfits
      refine ⟨.begin (.command c) (turn :: earlier), turn :: earlier, ?_, rfl, ?_, ?_⟩
      · rw [turns_append, hnew.eq]
        rfl
      · exact ⟨by simp [Turn.begin], rfl, rfl⟩
      · exact List.forall_mem_cons.2 ⟨hfits.1, hnew.past⟩
    | fire armed call idle due =>
      simp only [Turn.Fits, idle] at hfits
      refine ⟨.begin .timer (turn :: earlier), turn :: earlier, ?_, hnew.schedule, ?_, ?_⟩
      · rw [turns_append, hnew.eq]
        rfl
      · exact ⟨by simp [Turn.begin], rfl, rfl⟩
      · exact List.forall_mem_cons.2 ⟨hfits.1, hnew.past⟩
    | succeed fetch t clock => exact ⟨_, earlier, hnew.settled (.ok t) clock rfl rfl⟩
    | fail fetch f clock => exact ⟨_, earlier, hnew.settled (.error f) clock rfl rfl⟩
    | collapse | stop =>
      exact ⟨turn, earlier, (turns_append es _).trans hnew.eq, hnew.schedule, trivial, hnew.past⟩
    | _ => exact ⟨turn, earlier, hnew.keep rfl rfl rfl rfl rfl⟩

/-! ## Counters and log -/

theorem Reached.attempts_eq (h : Reached policy tick r es) :
    r.tally.attempts = (begun es).length := by
  induction h with
  | opened now call t clock valid issued => rfl
  | @step r r' es signals hr hstep ih =>
    cases hstep with
    | accept | fire | succeed | fail => simpa [Tally.count, Outcome.ofResult] using ih
    | _ => simpa [Refresher.stop] using ih

theorem Reached.successes_eq (h : Reached policy tick r es) :
    r.tally.successes = ((completed es).filterMap Completed.issued?).length := by
  induction h with
  | opened now call t clock valid issued => rfl
  | @step r r' es signals hr hstep ih =>
    cases hstep with
    | accept | fire | succeed | fail =>
      simpa [Tally.count, Outcome.ofResult, Completed.issued?] using ih
    | _ => simpa [Refresher.stop] using ih

theorem Reached.attempt_eq (h : Reached policy tick r es) :
    r.snapshot.attempt = (completed es).length := by
  rw [h.snapshot_eq, snapshotOf]

theorem Reached.attempts_inFlight (h : Reached policy tick r es) (alive : r.phase ≠ .stopped) :
    r.tally.attempts = r.snapshot.attempt + r.inFlight :=
  calc r.tally.attempts = (begun es).length := h.attempts_eq
    _ = (completed es).length + r.inFlight := h.begun_length alive
    _ = r.snapshot.attempt + r.inFlight := by rw [h.attempt_eq]

theorem Reached.over_eq (h : Reached policy tick r es) :
    r.tally.successes + r.tally.failures = (completed es).length := by
  induction h with
  | opened now call t clock valid issued => rfl
  | @step r r' es signals hr hstep ih =>
    cases hstep with
    | accept | fire => simpa [Tally.count] using ih
    | succeed | fail =>
      simp [Tally.count, Outcome.ofResult] at ih ⊢
      omega
    | _ => simpa [Refresher.stop] using ih

theorem Reached.counters_eq (h : Reached policy tick r es) : counters es = ⟨r.tally, .zero⟩ := by
  induction h with
  | opened now call t clock valid issued => rfl
  | @step r r' es signals hr hstep ih =>
    rw [counters_append, ih]
    cases hstep with
    | launch | succeed | fail => simp [Counters.hear, Counters.count, Outcome.ofResult]
    | _ => rfl

/-- The end of a turn adds one entry, with the number of the snapshot that it publishes. -/
theorem Newest.entries_settled {turn : Turn} {earlier : List Turn} (h : Newest r es turn earlier)
    {fetch : Fetch} (fetching : r.phase = .fetching fetch)
    (outcome : Except AuthFault IssuedToken) (clock : Nat) :
    Turn.entries r.policy
        { turn with
          outcome := some outcome
          published := some (r.snapshot.after outcome clock) } =
      turn.entries r.policy ++
        [.ofOutcome (r.snapshot.attempt + 1) outcome (r.policy.delayAfter outcome r.schedule)] := by
  have hfits := h.fits
  simp only [Turn.Fits, fetching] at hfits
  obtain ⟨hcause, houtcome, _⟩ := hfits
  have hattempt : (r.snapshot.after outcome clock).attempt = r.snapshot.attempt + 1 := by
    cases outcome <;> rfl
  rw [← h.schedule]
  cases hc : turn.cause with
  | opening => exact absurd hc hcause
  | command c => simp [Turn.entries, hc, houtcome, hattempt]
  | timer => simp [Turn.entries, hc, houtcome, hattempt]

theorem Reached.entries_eq (h : Reached policy tick r es) :
    Refresher.entries es = (turns es).reverse.flatMap (Turn.entries policy) := by
  induction h with
  | opened now call t clock valid issued => rfl
  | @step r r' es signals hr hstep ih =>
    obtain ⟨turn, earlier, hnew⟩ := hr.exists_newest
    rw [hnew.eq, List.reverse_cons, List.flatMap_append, List.flatMap_singleton] at ih
    rw [entries_append, turns_append, hnew.eq, ih, List.append_assoc]
    cases hstep with
    | accept armed c call idle | fire armed call idle due =>
      simp [Refresher.entries, Event.turn, Turn.begin, Turn.entries, Note.entry?]
    | succeed fetch t clock fetching =>
      have hended := hnew.entries_settled fetching (.ok t) clock
      rw [hr.policy_eq] at hended
      simp [Refresher.entries, Event.turn, Note.entry?, hr.policy_eq, hended, Entry.ofOutcome]
    | fail fetch f clock fetching =>
      have hended := hnew.entries_settled fetching (.error f) clock
      rw [hr.policy_eq] at hended
      simp [Refresher.entries, Event.turn, Note.entry?, hr.policy_eq, hended, Entry.ofOutcome]
    | _ => simp [Refresher.entries, Event.turn, Note.entry?]

/-! ## Turns and attempts -/

theorem causes_modifyHead {f : Turn → Turn} (hf : ∀ turn, (f turn).cause = turn.cause)
    (l : List Turn) : (l.modifyHead f).map Turn.cause = l.map Turn.cause := by
  cases l with
  | nil => rfl
  | cons turn earlier => simp [hf]

/-- There is one turn for each attempt. -/
theorem causes_eq (es : List Event) :
    (turns es).reverse.map Turn.cause = (begun es).map Prod.snd := by
  rw [List.map_reverse, List.reverse_eq_iff]
  induction es using List.reverseRecOn with
  | nil => rfl
  | append_singleton es e ih =>
    obtain ⟨time, signal⟩ := e
    rw [turns_append]
    cases signal with
    | began cause => simp [Event.turn, Turn.begin, ih]
    | ended | published => simp [Event.turn, causes_modifyHead, ih]
    | _ => simp [Event.turn, ih]

theorem Reached.opening_first (h : Reached policy tick r es) :
    ∃ later, (begun es).map Prod.snd = .opening :: later ∧ .opening ∉ later := by
  induction h with
  | opened now call t clock valid issued => exact ⟨[], rfl, by simp⟩
  | @step r r' es signals hr hstep ih =>
    obtain ⟨later, hbegun, hlater⟩ := ih
    cases hstep with
    | accept armed c call => exact ⟨later ++ [.command c], by simp [hbegun], by simp [hlater]⟩
    | fire => exact ⟨later ++ [.timer], by simp [hbegun], by simp [hlater]⟩
    | _ => exact ⟨later, by simpa using hbegun, hlater⟩

/-- What the turns say of outcomes and snapshots is what happened. -/
theorem Reached.turns_eq (h : Reached policy tick r es) :
    (turns es).reverse.filterMap Turn.outcome = (completed es).map Completed.outcome ∧
      (turns es).reverse.filterMap Turn.published = (published es).map Prod.snd := by
  induction h with
  | opened now call t clock valid issued => exact ⟨rfl, rfl⟩
  | @step r r' es signals hr hstep ih =>
    obtain ⟨turn, earlier, hnew⟩ := hr.exists_newest
    have hfits := hnew.fits
    rw [hnew.eq] at ih
    rw [turns_append, hnew.eq]
    cases hstep with
    | accept | fire => simpa [Event.turn, Turn.begin] using ih
    | succeed fetch t clock fetching | fail fetch f clock fetching =>
      simp only [Turn.Fits, fetching] at hfits
      simpa [Event.turn, hfits.2.1, hfits.2.2] using ih
    | _ => simpa [Event.turn] using ih

/-- While the timer is set, the last entry of the log says for how long it was set. -/
theorem Reached.announced (h : Reached policy tick r es) {armed : Nat} {next : Duration}
    (idle : r.phase = .idle armed)
    (hnext : (Refresher.entries es).getLast?.bind Entry.next? = some next) :
    ∃ last, (completed es).getLast? = some last ∧ armed = last.time + next.toNanos := by
  obtain ⟨turn, earlier, hnew⟩ := h.exists_newest
  have hfits := hnew.fits
  simp only [Turn.Fits, idle] at hfits
  obtain ⟨⟨_, hpublished⟩, hlast⟩ := hfits
  obtain ⟨s, hs⟩ := Option.isSome_iff_exists.1 hpublished
  have hcause : turn.cause ≠ .opening := by
    intro hc
    -- The first turn adds no entry but its span.
    have hentries : turn.entries policy = [.span .initialFetch] := by rw [Turn.entries, hc]
    rw [h.entries_eq, hnew.eq, List.reverse_cons, List.flatMap_append, List.flatMap_singleton,
      hentries, List.getLast?_concat] at hnext
    cases hnext
  obtain ⟨last, hcompleted, houtcome, harmed⟩ := hlast hcause
  have hended : ∃ front, turn.entries policy =
      front ++ [.ofOutcome s.attempt last.outcome (policy.delayAfter last.outcome turn.schedule)] := by
    cases hc : turn.cause with
    | opening => exact absurd hc hcause
    | command c => exact ⟨[.rescheduled c.interval, .span .refresh], by
        simp only [Turn.entries, hc, houtcome, hs, List.cons_append, List.nil_append]⟩
    | timer => exact ⟨[.span .refresh], by
        simp only [Turn.entries, hc, houtcome, hs, List.cons_append, List.nil_append]⟩
  obtain ⟨front, hentries⟩ := hended
  rw [h.entries_eq, hnew.eq, List.reverse_cons, List.flatMap_append, List.flatMap_singleton,
    hentries, ← List.append_assoc, List.getLast?_concat, Option.bind_some,
    Entry.next?_ofOutcome] at hnext
  cases hnext
  exact ⟨last, hcompleted, by rw [harmed, h.policy_eq]⟩

end

/-! ## Dropped caches -/

/-- A stopped refresher that is as `r` was, and a log without notes. -/
structure Still (r s : Refresher) (log : List Event) : Prop where
  stopped : s.phase = .stopped
  tally : s.tally = r.tally
  snapshot : s.snapshot = r.snapshot
  notes : Refresher.notes log = []

theorem Still.step {r s s' : Refresher} {log : List Event} {signals : List Signal}
    (h : Still r s log) (hstep : Step s s' signals) :
    Still r s' (log ++ signals.map (Event.mk s.now)) := by
  obtain ⟨hstopped, hsnapshot, htally, _, hnotes⟩ := hstep.of_stopped h.stopped
  refine ⟨hstopped, htally.trans h.tally, hsnapshot.trans h.snapshot, ?_⟩
  simp only [List.filterMap_append, h.notes, hnotes, List.append_nil]

theorem still_of_run? {r r' : Refresher} {moves : List Move} {es : List Event}
    (stopped : r.phase = .stopped) (h : r.run? moves = some (r', es)) : Still r r' es :=
  @run?_induction (Still r) Still.step r r' [] es moves ⟨stopped, rfl, rfl, rfl⟩ h

/-- A dropped refresher counts and reports nothing any more. -/
theorem still_of_stop {policy : Policy} {tick now clock : Nat} {call : Call}
    {front back : List Move} {r before : Refresher} {es earlier : List Event}
    (h : Opening.run? policy tick now call clock (front ++ .stop :: back) = some (r, es))
    (hfront : Opening.run? policy tick now call clock front = some (before, earlier)) :
    r.tally = before.tally ∧ r.snapshot = before.snapshot ∧ notes es = notes earlier := by
  obtain ⟨middle, log, new, hmiddle, hrest, rfl⟩ := of_opening_run?_append h
  rw [hfront] at hmiddle
  cases hmiddle
  rw [run?_eq_machine] at hrest
  obtain ⟨after, dropped, rest, hmove, hback, rfl⟩ := Machine.of_run?_cons hrest
  cases hmove
  rw [← run?_eq_machine] at hback
  have hstill := still_of_run? rfl hback
  refine ⟨hstill.tally, hstill.snapshot, ?_⟩
  simp only [List.filterMap_append, hstill.notes, List.append_nil]
  exact List.append_nil _

/-- The numbers and the log of a run tell what happened in it. -/
structure Reported (policy : Policy) (r : Refresher) (es : List Event) : Prop where
  /-- Attempts are calls of the authenticator: those that ended and the one under way. -/
  attempts : r.tally.attempts = (begun es).length
  inFlight : r.phase ≠ .stopped → r.tally.attempts = r.snapshot.attempt + r.inFlight
  over_eq : r.tally.successes + r.tally.failures = r.snapshot.attempt
  successes : r.snapshot.attempt = (completed es).length ∧
    r.tally.successes = ((completed es).filterMap Completed.issued?).length
  counters : Refresher.counters es = ⟨r.tally, .zero⟩
  /-- The log is what the turns add to it, one after the other. -/
  entries : Refresher.entries es = (turns es).reverse.flatMap (Turn.entries policy)
  /-- There is one turn for each attempt, and the first one alone is the opening. -/
  causes : (turns es).reverse.map Turn.cause = (begun es).map Prod.snd
  opening : ∃ later, (begun es).map Prod.snd = .opening :: later ∧ .opening ∉ later
  outcomes : (turns es).reverse.filterMap Turn.outcome = (completed es).map Completed.outcome
  published : (turns es).reverse.filterMap Turn.published = (published es).map Prod.snd
  /-- Only the newest turn is not over, if there is an attempt under way. -/
  closed : ∀ turn ∈ (turns es).tail, turn.IsOver
  idle : ∀ armed, r.phase = .idle armed → ∀ turn ∈ turns es, turn.IsOver
  schedule : (turns es).head?.map Turn.schedule = some r.schedule
  /-- The timer is set for the delay that the last entry announces. -/
  announced : ∀ armed next, r.phase = .idle armed →
    (Refresher.entries es).getLast?.bind Entry.next? = some next →
    ∃ last, (completed es).getLast? = some last ∧ armed = last.time + next.toNanos

/-- In every run the numbers, the log and the timer agree with the attempts, the commands and the
snapshots.  When the cache is dropped, an attempt that was under way stays counted, with neither an
outcome nor an entry. -/
theorem reports_agree {policy : Policy} {tick now clock : Nat} {call : Call}
    {moves : List Move} {r : Refresher} {es : List Event}
    (h : Opening.run? policy tick now call clock moves = some (r, es)) :
    Reported policy r es ∧
      ∀ front back before earlier, moves = front ++ .stop :: back →
        Opening.run? policy tick now call clock front = some (before, earlier) →
        r.tally = before.tally ∧ r.snapshot = before.snapshot ∧ notes es = notes earlier ∧
          (before.phase ≠ .stopped →
            r.tally.attempts = r.snapshot.attempt + before.inFlight) := by
  have hr := reached_of_run? h
  obtain ⟨turn, earlier, hnew⟩ := hr.exists_newest
  refine ⟨?_, fun front back before earlier heq hfront => ?_⟩
  · constructor
    case attempts => exact hr.attempts_eq
    case inFlight => exact hr.attempts_inFlight
    case over_eq => rw [hr.over_eq, hr.attempt_eq]
    case successes => exact ⟨hr.attempt_eq, hr.successes_eq⟩
    case counters => exact hr.counters_eq
    case entries => exact hr.entries_eq
    case causes => exact causes_eq es
    case opening => exact hr.opening_first
    case outcomes => exact hr.turns_eq.1
    case published => exact hr.turns_eq.2
    case closed =>
      rw [hnew.eq]
      exact hnew.past
    case idle =>
      intro armed hidle
      have hfits := hnew.fits
      simp only [Turn.Fits, hidle] at hfits
      rw [hnew.eq]
      exact List.forall_mem_cons.2 ⟨hfits.1, hnew.past⟩
    case schedule => rw [hnew.eq, List.head?_cons, Option.map_some, hnew.schedule]
    case announced => exact fun armed next idle hnext => hr.announced idle hnext
  · obtain ⟨htally, hsnapshot, hnotes⟩ := still_of_stop (heq ▸ h) hfront
    refine ⟨htally, hsnapshot, hnotes, fun alive => ?_⟩
    rw [htally, hsnapshot]
    exact (reached_of_run? hfront).attempts_inFlight alive

theorem reports_agree_of_dropped :
    ∃ r es, Opening.run? .standard 1000000 0 promptCall 0 (cutOffMoves.take 5 ++ .stop :: [.read]) =
        some (r, es) ∧
      r.tally = ⟨2, 1, 0⟩ ∧ r.tally.attempts = r.snapshot.attempt + 1 ∧
      counters es = ⟨r.tally, .zero⟩ := by
  have hruns : (Opening.run? .standard 1000000 0 promptCall 0
      (cutOffMoves.take 5 ++ .stop :: [.read])).map (fun p => p.1.tally) = some ⟨2, 1, 0⟩ := by rfl
  obtain ⟨⟨r, es⟩, h, htally⟩ := Option.map_eq_some_iff.1 hruns
  have hfronts : (Opening.run? .standard 1000000 0 promptCall 0 (cutOffMoves.take 5)).map
      (fun p => p.1.inFlight) = some 1 := by rfl
  obtain ⟨⟨before, earlier⟩, hfront, hflight⟩ := Option.map_eq_some_iff.1 hfronts
  obtain ⟨hreported, hdropped⟩ := reports_agree h
  obtain ⟨_, _, _, hattempts⟩ := hdropped _ [.read] before earlier rfl hfront
  have halive : before.phase ≠ .stopped := by
    intro hstopped
    simp [inFlight, hstopped] at hflight
  have hattempts := hattempts halive
  rw [hflight] at hattempts
  exact ⟨r, es, h, htally, hattempts, hreported.counters⟩

end Refresher

end FreshToken
