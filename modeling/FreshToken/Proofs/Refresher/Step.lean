import FreshToken.Cache.Refresher
import FreshToken.Proofs.Policy.Delays
/-!
# What one move does

`Step` says once what can happen to a refresher, with the refresher afterwards and all signals
written out.  Every invariant is shown for its cases and then holds of all that `Reached` reaches:
a refresher whose first attempt got a token, after any moves.
-/

namespace FreshToken

def Snapshot.after (s : Snapshot) (outcome : Except AuthFault IssuedToken) (clock : Nat) :
    Snapshot :=
  match outcome with
  | .ok t => s.succeeded t clock
  | .error f => s.failed f

namespace Refresher

/-! ## Arming the timer -/

theorem arm_of_lt {r : Refresher} {d : Duration} (h : r.now + d.toNanos < clockBound) :
    r.arm d = { r with phase := .idle (r.now + d.toNanos) } := by
  rw [arm, instantAfter?, if_pos h]

theorem arm_of_le {r : Refresher} {d : Duration} (h : clockBound ≤ r.now + d.toNanos) :
    r.arm d = r.stop := by
  rw [arm, instantAfter?, if_neg (Nat.not_lt.2 h)]

theorem arm_cases (r : Refresher) (d : Duration) :
    r.arm d = { r with phase := .idle (r.now + d.toNanos) } ∨ r.arm d = r.stop := by
  rcases Nat.lt_or_ge (r.now + d.toNanos) clockBound with h | h
  · exact Or.inl (arm_of_lt h)
  · exact Or.inr (arm_of_le h)

/-- Arming the timer changes the phase, and the queue if the refresher stops. -/
theorem arm_eq (r : Refresher) (d : Duration) :
    r.arm d = { r with phase := (r.arm d).phase, queue := (r.arm d).queue } := by
  rcases arm_cases r d with h | h
  · rw [h]
  · rw [h, stop]

section
variable (r : Refresher) (d : Duration)

@[simp] theorem policy_arm : (r.arm d).policy = r.policy := by rw [arm_eq]

@[simp] theorem tick_arm : (r.arm d).tick = r.tick := by rw [arm_eq]

@[simp] theorem now_arm : (r.arm d).now = r.now := by rw [arm_eq]

@[simp] theorem schedule_arm : (r.arm d).schedule = r.schedule := by rw [arm_eq]

@[simp] theorem snapshot_arm : (r.arm d).snapshot = r.snapshot := by rw [arm_eq]

@[simp] theorem tally_arm : (r.arm d).tally = r.tally := by rw [arm_eq]

/-- An armed refresher is idle or has stopped. -/
theorem phase_arm :
    ((r.arm d).phase = .idle (r.now + d.toNanos) ∧ (r.arm d).queue = r.queue) ∨
      ((r.arm d).phase = .stopped ∧ (r.arm d).queue = r.queue.close) := by
  rcases arm_cases r d with h | h
  · exact Or.inl (by simp [h])
  · exact Or.inr (by simp [h, stop])

variable {r d}

theorem armed_arm {armed : Nat} (h : (r.arm d).phase = .idle armed) :
    armed = r.now + d.toNanos := by
  rcases phase_arm r d with ⟨hidle, _⟩ | ⟨hstop, _⟩
  · rw [hidle] at h
    cases h
    rfl
  · rw [hstop] at h
    cases h

theorem stopped_arm (h : (r.arm d).phase = .stopped) : clockBound ≤ r.now + d.toNanos := by
  rcases Nat.lt_or_ge (r.now + d.toNanos) clockBound with hlt | hge
  · rw [arm_of_lt hlt] at h
    cases h
  · exact hge

theorem queue_arm_cases (r : Refresher) (d : Duration) :
    (r.arm d).queue = r.queue ∨ (r.arm d).queue = r.queue.close :=
  (phase_arm r d).imp And.right And.right

theorem queue_arm (h : (r.arm d).phase ≠ .stopped) : (r.arm d).queue = r.queue := by
  rcases phase_arm r d with ⟨_, hqueue⟩ | ⟨hstop, _⟩
  · exact hqueue
  · exact absurd hstop h

theorem arm_not_starting {first : Duration} : (r.arm d).phase ≠ .starting first := by
  rcases phase_arm r d with ⟨h, _⟩ | ⟨h, _⟩ <;> rw [h] <;> simp

theorem arm_not_fetching {fetch : Fetch} : (r.arm d).phase ≠ .fetching fetch := by
  rcases phase_arm r d with ⟨h, _⟩ | ⟨h, _⟩ <;> rw [h] <;> simp

end

/-! ## The end of an attempt -/

/-- The refresher after an attempt that ends with `outcome`. -/
def settled (r : Refresher) (outcome : Except AuthFault IssuedToken) (clock : Nat) : Refresher :=
  { r with
    tally := r.tally.count (Outcome.ofResult outcome)
    snapshot := r.snapshot.after outcome clock }.arm (r.policy.delayAfter outcome r.schedule)

section
variable {r : Refresher} {outcome : Except AuthFault IssuedToken} {clock : Nat}

@[simp] theorem policy_settled : (r.settled outcome clock).policy = r.policy := policy_arm ..

@[simp] theorem tick_settled : (r.settled outcome clock).tick = r.tick := tick_arm ..

@[simp] theorem now_settled : (r.settled outcome clock).now = r.now := now_arm ..

@[simp] theorem schedule_settled : (r.settled outcome clock).schedule = r.schedule :=
  schedule_arm ..

@[simp] theorem snapshot_settled :
    (r.settled outcome clock).snapshot = r.snapshot.after outcome clock :=
  snapshot_arm ..

@[simp] theorem tally_settled :
    (r.settled outcome clock).tally = r.tally.count (Outcome.ofResult outcome) :=
  tally_arm ..

theorem phase_settled (r : Refresher) (outcome : Except AuthFault IssuedToken) (clock : Nat) :
    ((r.settled outcome clock).phase =
        .idle (r.now + (r.policy.delayAfter outcome r.schedule).toNanos) ∧
        (r.settled outcome clock).queue = r.queue) ∨
      ((r.settled outcome clock).phase = .stopped ∧
        (r.settled outcome clock).queue = r.queue.close) :=
  phase_arm ..

theorem armed_settled {armed : Nat} (h : (r.settled outcome clock).phase = .idle armed) :
    armed = r.now + (r.policy.delayAfter outcome r.schedule).toNanos := by
  unfold settled at h
  rw [armed_arm h]

theorem stopped_settled (h : (r.settled outcome clock).phase = .stopped) :
    clockBound ≤ r.now + (r.policy.delayAfter outcome r.schedule).toNanos := by
  unfold settled at h
  have hbound := stopped_arm h
  exact hbound

theorem queue_settled_cases (r : Refresher) (outcome : Except AuthFault IssuedToken)
    (clock : Nat) :
    (r.settled outcome clock).queue = r.queue ∨ (r.settled outcome clock).queue = r.queue.close :=
  queue_arm_cases ..

theorem queue_settled (h : (r.settled outcome clock).phase ≠ .stopped) :
    (r.settled outcome clock).queue = r.queue :=
  queue_arm h

theorem settled_not_starting {first : Duration} :
    (r.settled outcome clock).phase ≠ .starting first :=
  arm_not_starting

theorem settled_not_fetching {fetch : Fetch} : (r.settled outcome clock).phase ≠ .fetching fetch :=
  arm_not_fetching

end

/-! ## When time goes on -/

theorem ready_of_starting {r : Refresher} {first : Duration} (h : r.phase = .starting first) :
    r.isReady = true := by
  simp [isReady, wake?, h]

/-- Time goes on between attempts only when nobody waits. -/
theorem nobody_waits {r : Refresher} {armed : Nat} (h : r.phase = .idle armed)
    (unready : r.isReady = false) : r.queue.slot = none ∧ r.queue.waiting = [] := by
  simp only [isReady, h, Queue.canEnter, Bool.or_eq_false_iff] at unready
  obtain ⟨⟨hline, _⟩, hslot⟩ := unready
  have hslot : r.queue.slot = none := by simpa using hslot
  exact ⟨hslot, by simpa [hslot] using hline⟩

/-! ## Steps -/

inductive Step (r : Refresher) : Refresher → List Signal → Prop where
  | refuse (c : Command) (free : r.queue.isFree c.caller = true) (stopped : r.phase = .stopped) :
    Step r r [.arrived c, .returned c.caller (.error .closed)]
  | join (c : Command) (free : r.queue.isFree c.caller = true) (alive : r.phase ≠ .stopped) :
    Step r { r with queue := r.queue.join c } [.arrived c]
  | enter (c : Command) (rest : List Command) (vacant : r.queue.slot = none)
      (first : r.queue.waiting = c :: rest) :
    Step r
      { r with queue := { r.queue with slot := some c, isAttended := true, waiting := rest } }
      [.entered c]
  | withdraw (caller : Nat) :
    Step r { r with queue := r.queue.withdraw caller } [.withdrew caller]
  | resume (caller : Nat) (answer : Except Error Unit)
      (answered : (caller, answer) ∈ r.queue.answers) :
    Step r
      { r with queue := { r.queue with answers := r.queue.answers.filter (·.1 ≠ caller) } }
      [.returned caller answer]
  | read : Step r r [.shown r.snapshot]
  | launch (first : Duration) (starting : r.phase = .starting first) :
    Step r (r.arm first) [.launched]
  | accept (armed : Nat) (c : Command) (call : Call) (idle : r.phase = .idle armed)
      (next : r.queue.slot = some c) :
    Step r
      { r with
        schedule := c.interval
        tally := r.tally.count .attempt
        phase := .fetching (.start r.tick r.policy.fetchTimeout r.now call)
        queue := { r.queue with
          slot := none
          isAttended := false
          answers := r.queue.answers ++
            if r.queue.isAttended then [(c.caller, .ok ())] else [] } }
      [.note (.logged (.rescheduled c.interval)), .accepted c, .note (.logged (.span .refresh)),
        .note (.counted .refresh .attempt), .began (.command c)]
  | fire (armed : Nat) (call : Call) (idle : r.phase = .idle armed)
      (due : roundUp r.tick armed ≤ r.now) :
    Step r
      { r with
        tally := r.tally.count .attempt
        phase := .fetching (.start r.tick r.policy.fetchTimeout r.now call) }
      [.fired, .note (.logged (.span .refresh)), .note (.counted .refresh .attempt),
        .began .timer]
  | succeed (fetch : Fetch) (t : IssuedToken) (clock : Nat) (fetching : r.phase = .fetching fetch)
      (due : fetch.ends ≤ r.now) (answer : fetch.answer = .issued t) :
    Step r (r.settled (.ok t) clock)
      [.note (.counted .refresh .success), .ended (.ok t) clock,
        .published (r.snapshot.after (.ok t) clock),
        .note (.logged (.refreshed (r.snapshot.attempt + 1) t.lifetime
          (r.policy.delayAfter (.ok t) r.schedule)))]
  | fail (fetch : Fetch) (f : AuthFault) (clock : Nat) (fetching : r.phase = .fetching fetch)
      (due : fetch.ends ≤ r.now) (answer : fetch.answer = .refused f) :
    Step r (r.settled (.error f) clock)
      [.note (.counted .refresh .failure),
        .note (.logged (.refreshFailed (r.snapshot.attempt + 1) f
          (r.policy.delayAfter (.error f) r.schedule))),
        .ended (.error f) clock, .published (r.snapshot.after (.error f) clock)]
  | collapse (fetch : Fetch) (fetching : r.phase = .fetching fetch) (due : fetch.ends ≤ r.now)
      (answer : fetch.answer = .breakdown) : Step r r.stop [.broke]
  | wait (target : Nat) (unready : r.isReady = false) (forward : r.now ≤ target)
      (early : ∀ wake ∈ r.wake?, target ≤ wake) : Step r { r with now := target } []
  | stop : Step r r.stop [.dropped]

theorem step_of_send {r r' : Refresher} {c : Command} {signals : List Signal}
    (h : r.move? (.send c) = some (r', signals)) : Step r r' signals := by
  simp only [move?] at h
  split at h
  · cases h
  · rename_i hfree
    have hfree : r.queue.isFree c.caller = true := by simpa using hfree
    split at h
    · rename_i hstop
      cases h
      refine .refuse c hfree ?_
      unfold isStopped at hstop
      split at hstop
      · assumption
      · cases hstop
    · rename_i hstop
      cases h
      refine .join c hfree fun hphase => hstop ?_
      rw [isStopped, hphase]

theorem step_of_enter {r r' : Refresher} {signals : List Signal}
    (h : r.move? .enter = some (r', signals)) : Step r r' signals := by
  simp only [move?, Queue.enter?] at h
  split at h
  · rename_i c rest hslot hwaiting
    cases h
    exact .enter c rest hslot hwaiting
  · cases h

theorem step_of_resume {r r' : Refresher} {caller : Nat} {signals : List Signal}
    (h : r.move? (.resume caller) = some (r', signals)) : Step r r' signals := by
  simp only [move?, Queue.resume?, Option.map_map, Option.map_eq_some_iff] at h
  obtain ⟨⟨n, a⟩, hfind, heq⟩ := h
  obtain rfl : n = caller := by simpa using List.find?_some hfind
  cases heq
  exact .resume n a (List.mem_of_find?_eq_some hfind)

theorem step_of_accept {r r' : Refresher} {call : Call} {signals : List Signal}
    (h : r.move? (.accept call) = some (r', signals)) : Step r r' signals := by
  simp only [move?] at h
  split at h
  · rename_i armed c queue hidle htaken
    obtain ⟨c', hslot, heq⟩ := Option.map_eq_some_iff.1 htaken
    cases heq
    cases h
    exact .accept armed c call hidle hslot
  · cases h

theorem step_of_fire {r r' : Refresher} {call : Call} {signals : List Signal}
    (h : r.move? (.fire call) = some (r', signals)) : Step r r' signals := by
  simp only [move?] at h
  split at h
  · rename_i armed hidle
    split at h
    · rename_i hdue
      cases h
      exact .fire armed call hidle hdue
    · cases h
  · cases h

theorem step_of_finish {r r' : Refresher} {clock : Nat} {signals : List Signal}
    (h : r.move? (.finish clock) = some (r', signals)) : Step r r' signals := by
  simp only [move?] at h
  split at h
  · rename_i fetch hfetching
    split at h
    · rename_i hdue
      cases hanswer : fetch.answer with
      | issued t =>
        rw [hanswer] at h
        cases h
        exact .succeed fetch t clock hfetching hdue hanswer
      | refused f =>
        rw [hanswer] at h
        cases h
        exact .fail fetch f clock hfetching hdue hanswer
      | breakdown =>
        rw [hanswer] at h
        cases h
        exact .collapse fetch hfetching hdue hanswer
    · cases h
  · cases h

theorem step_of_wait {r r' : Refresher} {target : Nat} {signals : List Signal}
    (h : r.move? (.wait target) = some (r', signals)) : Step r r' signals := by
  simp only [move?] at h
  split at h
  · rename_i hwait
    obtain ⟨hready, hforward, hearly⟩ := hwait
    cases h
    exact .wait target (by simpa using hready) hforward (by simpa [Option.all_eq_true] using hearly)
  · cases h

theorem step_of_move? {r r' : Refresher} {m : Move} {signals : List Signal}
    (h : r.move? m = some (r', signals)) : Step r r' signals := by
  cases m with
  | send c => exact step_of_send h
  | enter => exact step_of_enter h
  | withdraw caller =>
    cases h
    exact .withdraw caller
  | resume caller => exact step_of_resume h
  | read =>
    cases h
    exact .read
  | launch =>
    simp only [move?] at h
    split at h
    · rename_i first hstarting
      cases h
      exact .launch first hstarting
    · cases h
  | accept call => exact step_of_accept h
  | fire call => exact step_of_fire h
  | finish clock => exact step_of_finish h
  | wait target => exact step_of_wait h
  | stop =>
    cases h
    exact .stop

/-! ## Runs -/

/-- What every step keeps holds after every run. -/
theorem run?_induction {P : Refresher → List Event → Prop}
    (hstep : ∀ {r r' signals es}, P r es → Step r r' signals →
      P r' (es ++ signals.map (Event.mk r.now)))
    {r r' : Refresher} {es es' : List Event} {moves : List Move} (hr : P r es)
    (h : r.run? moves = some (r', es')) : P r' (es ++ es') := by
  induction moves generalizing r es es' with
  | nil =>
    cases h
    simpa using hr
  | cons m rest ih =>
    simp only [run?, bind, Option.bind_eq_some_iff, pure] at h
    obtain ⟨⟨middle, signals⟩, hmove, ⟨final, events⟩, hrest, heq⟩ := h
    cases heq
    rw [← List.append_assoc]
    exact ih (hstep hr (step_of_move? hmove)) hrest

/-- A refresher right after its first attempt, which got a token. -/
def opened (policy : Policy) (tick : Nat) (fetch : Fetch) (t : IssuedToken) (clock : Nat) :
    Refresher :=
  ⟨policy, tick, fetch.ends, none, Snapshot.empty.succeeded t clock, ⟨1, 1, 0⟩,
    .starting (policy.delayAfterSuccess t.lifetime), .empty⟩

def openingEvents (now : Nat) (fetch : Fetch) (t : IssuedToken) (clock : Nat) : List Event :=
  [⟨now, .note (.logged (.span .initialFetch))⟩, ⟨now, .note (.counted .refresh .attempt)⟩,
    ⟨now, .began .opening⟩, ⟨fetch.ends, .note (.counted .refresh .success)⟩,
    ⟨fetch.ends, .ended (.ok t) clock⟩,
    ⟨fetch.ends, .published (Snapshot.empty.succeeded t clock)⟩]

/-- The refreshers that come out of a first attempt and then take steps, with all that happened. -/
inductive Reached (policy : Policy) (tick : Nat) : Refresher → List Event → Prop where
  | opened (now : Nat) (call : Call) (t : IssuedToken) (clock : Nat) (valid : policy.Valid)
      (issued : (Fetch.start tick policy.fetchTimeout now call).answer = .issued t) :
    Reached policy tick
      (opened policy tick (.start tick policy.fetchTimeout now call) t clock)
      (openingEvents now (.start tick policy.fetchTimeout now call) t clock)
  | step {r r' : Refresher} {es : List Event} {signals : List Signal}
      (reached : Reached policy tick r es) (step : Step r r' signals) :
    Reached policy tick r' (es ++ signals.map (Event.mk r.now))

theorem reached_of_run? {policy : Policy} {tick now clock : Nat} {call : Call}
    {moves : List Move} {r : Refresher} {es : List Event}
    (h : Opening.run? policy tick now call clock moves = some (r, es)) :
    Reached policy tick r es := by
  cases hfault : policy.fault? with
  | some f => simp [Opening.run?, Opening.start, hfault] at h
  | none =>
    cases hanswer : (Fetch.start tick policy.fetchTimeout now call).answer with
    | refused f => simp [Opening.run?, Opening.start, Opening.conclude, hfault, hanswer] at h
    | breakdown => simp [Opening.run?, Opening.start, Opening.conclude, hfault, hanswer] at h
    | issued t =>
      simp only [Opening.run?, Opening.start, Opening.conclude, hfault, hanswer,
        Option.map_eq_some_iff] at h
      obtain ⟨⟨final, events⟩, hrun, heq⟩ := h
      cases heq
      exact run?_induction .step (.opened now call t clock hfault hanswer) hrun

section
variable {policy : Policy} {tick : Nat} {r : Refresher} {es : List Event}

theorem Reached.valid (h : Reached policy tick r es) : policy.Valid := by
  induction h with
  | opened now call t clock valid issued => exact valid
  | step _ _ ih => exact ih

theorem Step.policy_eq {r r' : Refresher} {signals : List Signal} (h : Step r r' signals) :
    r'.policy = r.policy := by
  cases h <;> simp [Refresher.stop]

theorem Step.tick_eq {r r' : Refresher} {signals : List Signal} (h : Step r r' signals) :
    r'.tick = r.tick := by
  cases h <;> simp [Refresher.stop]

theorem Step.alive {r r' : Refresher} {signals : List Signal} (h : Step r r' signals)
    (alive : r'.phase ≠ .stopped) : r.phase ≠ .stopped := by
  cases h with
  | launch first starting => simp [starting]
  | accept armed c call idle | fire armed call idle => simp [idle]
  | succeed fetch t clock fetching | fail fetch f clock fetching => simp [fetching]
  | collapse | stop => exact absurd rfl alive
  | _ => exact alive

theorem Step.now_le {r r' : Refresher} {signals : List Signal} (h : Step r r' signals) :
    r.now ≤ r'.now := by
  cases h with
  | wait target _ forward _ => exact forward
  | _ => simp [Refresher.stop]

theorem Reached.policy_eq (h : Reached policy tick r es) : r.policy = policy := by
  induction h with
  | opened now call t clock valid issued => rfl
  | step _ hstep ih => rw [hstep.policy_eq, ih]

theorem Reached.tick_eq (h : Reached policy tick r es) : r.tick = tick := by
  induction h with
  | opened now call t clock valid issued => rfl
  | step _ hstep ih => rw [hstep.tick_eq, ih]

theorem Reached.time_le (h : Reached policy tick r es) : ∀ e ∈ es, e.time ≤ r.now := by
  induction h with
  | opened now call t clock valid issued =>
    simp [openingEvents, Refresher.opened, Fetch.le_ends_start]
  | @step r r' es signals _ hstep ih =>
    have hnow := hstep.now_le
    intro e he
    rcases List.mem_append.1 he with he | he
    · exact Nat.le_trans (ih e he) hnow
    · obtain ⟨s, _, rfl⟩ := List.mem_map.1 he
      exact hnow

end

end Refresher

end FreshToken
