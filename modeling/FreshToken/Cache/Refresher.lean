import FreshToken.Cache.Fetch
import FreshToken.Cache.Queue
import FreshToken.Cache.Snapshot
import FreshToken.Observation
/-!
# The refresher

What keeps a token fresh.  Between attempts it waits for a deadline or a command; a command starts
an attempt at once and its interval governs the schedule from then on.  When both are there, either
may come first.  Commands are never accepted while an attempt is under way.
-/

namespace FreshToken

inductive Phase where
  /-- It has yet to begin, and then waits for `first`. -/
  | starting (first : Duration)
  /-- It waits for the instant `armed`. -/
  | idle (armed : Nat)
  | fetching (fetch : Fetch)
  | stopped

structure Refresher where
  policy : Policy
  tick : Nat
  now : Nat
  /-- The interval of the last command. -/
  schedule : Option Duration
  snapshot : Snapshot
  tally : Tally
  phase : Phase
  queue : Queue

inductive Cause where
  | opening
  | command (c : Command)
  | timer

inductive Signal where
  | note (n : Note)
  | arrived (c : Command)
  | entered (c : Command)
  | withdrew (caller : Nat)
  | returned (caller : Nat) (answer : Except Error Unit)
  | launched
  | accepted (c : Command)
  /-- The armed instant is reached. -/
  | fired
  /-- An attempt begins: the authenticator is called. -/
  | began (cause : Cause)
  /-- An attempt ends at an instant of the calendar. -/
  | ended (outcome : Except AuthFault IssuedToken) (clock : Nat)
  | published (s : Snapshot)
  | shown (s : Snapshot)
  /-- An attempt breaks down, and the refresher with it. -/
  | broke
  | dropped

namespace Refresher

def isStopped (r : Refresher) : Bool :=
  match r.phase with
  | .stopped => true
  | _ => false

def wake? (r : Refresher) : Option Nat :=
  match r.phase with
  | .starting _ => some r.now
  | .idle armed => some (roundUp r.tick armed)
  | .fetching fetch => some fetch.ends
  | .stopped => none

def isReady (r : Refresher) : Bool :=
  r.queue.canEnter || r.wake?.any (· ≤ r.now) ||
    match r.phase with
    | .idle _ => r.queue.slot.isSome
    | _ => false

def count (r : Refresher) (o : Outcome) : Refresher × Signal :=
  ({ r with tally := r.tally.count o }, .note (.counted .refresh o))

def stop (r : Refresher) : Refresher := { r with phase := .stopped, queue := r.queue.close }

/-- The timer is set.  It cannot be set past what the clock can tell. -/
def arm (r : Refresher) (d : Duration) : Refresher :=
  match instantAfter? r.now d with
  | some instant => { r with phase := .idle instant }
  | none => r.stop

def attempt (r : Refresher) (cause : Cause) (call : Call) : Refresher × List Signal :=
  let (r, counted) := r.count .attempt
  ({ r with phase := .fetching (.start r.tick r.policy.fetchTimeout r.now call) },
    [.note (.logged (.span .refresh)), counted, .began cause])

def accept (r : Refresher) (c : Command) (queue : Queue) (call : Call) :
    Refresher × List Signal :=
  let (r, signals) := { r with schedule := c.interval, queue := queue }.attempt (.command c) call
  (r, .note (.logged (.rescheduled c.interval)) :: .accepted c :: signals)

def succeed (r : Refresher) (t : IssuedToken) (clock : Nat) : Refresher × List Signal :=
  let next := r.policy.delayWithOverride t.lifetime r.schedule
  let snapshot := r.snapshot.succeeded t clock
  let (r, counted) := r.count .success
  ({ r with snapshot := snapshot }.arm next,
    [counted, .ended (.ok t) clock, .published snapshot,
      .note (.logged (.refreshed snapshot.attempt t.lifetime next))])

def fail (r : Refresher) (f : AuthFault) (clock : Nat) : Refresher × List Signal :=
  let next := r.policy.delayAfterFailure r.schedule
  let snapshot := r.snapshot.failed f
  let (r, counted) := r.count .failure
  ({ r with snapshot := snapshot }.arm next,
    [counted, .note (.logged (.refreshFailed snapshot.attempt f next)),
      .ended (.error f) clock, .published snapshot])

def conclude (r : Refresher) (a : Answer) (clock : Nat) : Refresher × List Signal :=
  match a with
  | .issued t => r.succeed t clock
  | .refused f => r.fail f clock
  | .breakdown => (r.stop, [.broke])

/-! ## Moves -/

/-- What can happen to a refresher.  The calls of the authenticator, the readings of the clock and
what callers and readers do come from outside. -/
inductive Move where
  /-- A call is made with a number that is free. -/
  | send (c : Command)
  | enter
  | withdraw (caller : Nat)
  | resume (caller : Nat)
  | read
  | launch
  | accept (call : Call)
  | fire (call : Call)
  /-- The attempt under way ends; `clock` is the instant that the calendar says. -/
  | finish (clock : Nat)
  /-- Time goes on. -/
  | wait (target : Nat)
  | stop

/-- The refresher after a move, with its signals, if the move is possible.  Time goes on only
when there is nothing to do, and not past the next deadline. -/
def move? (r : Refresher) : Move → Option (Refresher × List Signal)
  | .send c =>
    if !r.queue.isFree c.caller then none
    else if r.isStopped then some (r, [.arrived c, .returned c.caller (.error .closed)])
    else some ({ r with queue := r.queue.join c }, [.arrived c])
  | .enter => r.queue.enter?.map fun (c, queue) => ({ r with queue := queue }, [.entered c])
  | .withdraw caller => some ({ r with queue := r.queue.withdraw caller }, [.withdrew caller])
  | .resume caller =>
    (r.queue.resume? caller).map fun (a, queue) => ({ r with queue := queue }, [.returned caller a])
  | .read => some (r, [.shown r.snapshot])
  | .launch =>
    match r.phase with
    | .starting first => some (r.arm first, [.launched])
    | _ => none
  | .accept call =>
    match r.phase, r.queue.take? with
    | .idle _, some (c, queue) => some (r.accept c queue call)
    | _, _ => none
  | .fire call =>
    match r.phase with
    | .idle armed =>
      if roundUp r.tick armed ≤ r.now then
        let (r, signals) := r.attempt .timer call
        some (r, .fired :: signals)
      else none
    | _ => none
  | .finish clock =>
    match r.phase with
    | .fetching fetch => if fetch.ends ≤ r.now then some (r.conclude fetch.answer clock) else none
    | _ => none
  | .wait t =>
    if !r.isReady ∧ r.now ≤ t ∧ r.wake?.all (t ≤ ·) then some ({ r with now := t }, []) else none
  | .stop => some (r.stop, [.dropped])

structure Event where
  time : Nat
  signal : Signal

def run? (r : Refresher) : List Move → Option (Refresher × List Event)
  | [] => some (r, [])
  | m :: rest => do
    let (after, signals) ← r.move? m
    let (final, events) ← after.run? rest
    return (final, signals.map (Event.mk r.now) ++ events)

end Refresher

/-! ## The first attempt -/

structure Opening where
  policy : Policy
  tick : Nat
  fetch : Fetch

namespace Opening

def start (policy : Policy) (tick now : Nat) (call : Call) :
    Except Policy.Fault (Opening × List Signal) :=
  match policy.fault? with
  | some f => .error f
  | none => .ok (⟨policy, tick, .start tick policy.fetchTimeout now call⟩,
      [.note (.logged (.span .initialFetch)), .note (.counted .refresh .attempt),
        .began .opening])

def conclude (o : Opening) (clock : Nat) : Except Failure Refresher × List Signal :=
  match o.fetch.answer with
  | .issued t =>
    let snapshot := Snapshot.empty.succeeded t clock
    (.ok ⟨o.policy, o.tick, o.fetch.ends, none, snapshot, ⟨1, 1, 0⟩,
        .starting (o.policy.delayAfterSuccess t.lifetime), .empty⟩,
      [.note (.counted .refresh .success), .ended (.ok t) clock, .published snapshot])
  | .refused f => (.error (.returned (.authentication f)), [.note (.counted .refresh .failure)])
  | .breakdown => (.error .breakdown, [])

/-- A cache that is opened at `now` and then makes moves, with all that happened since. -/
def run? (policy : Policy) (tick now : Nat) (call : Call) (clock : Nat)
    (moves : List Refresher.Move) : Option (Refresher × List Refresher.Event) :=
  match start policy tick now call with
  | .error _ => none
  | .ok (o, front) =>
    match o.conclude clock with
    | (.error _, _) => none
    | (.ok r, back) => (r.run? moves).map fun (final, events) =>
        (final, front.map (.mk now) ++ back.map (.mk r.now) ++ events)

end Opening

end FreshToken
