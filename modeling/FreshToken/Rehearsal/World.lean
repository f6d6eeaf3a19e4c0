import FreshToken.Client.Builder
import FreshToken.Rehearsal.Script
/-!
# A world on a virtual clock

A cache, an executor and what goes on around them.  Time moves only when there is nothing to do,
and then to the next instant at which something happens.  What happens at one instant happens in
the order in which its timers were set, except that whoever drives the rehearsal comes first.
-/

namespace FreshToken.Rehearsal

abbrev Source := TokenSource Unit (List Line)

def Source.lines (lines : List Line) : Source := .custom lines

structure Session where
  credentials : Credentials
  source : Source
  refresher : Refresher

inductive TaskState where
  | pending
  | cancelled
  | done (result : Except Error Json.Value)

def TaskState.isPending : TaskState → Bool
  | .pending => true
  | _ => false

structure Arrival where
  /-- The number of the task that waits for it; zero is whoever drives. -/
  caller : Nat
  flight : Flight
  time : Nat
  /-- Timers set earlier have lower stamps. -/
  stamp : Nat
  answer : Except TransportFault Response

structure World where
  now : Nat
  tick : Nat
  session : Option Session
  executor : Executor
  tokenAnswers : List Canned
  answers : List Canned
  arrivals : List Arrival
  tasks : List TaskState
  /-- Whether whoever drives still holds the cache. -/
  isHeld : Bool
  stamp : Nat
  refresherStamp : Nat
  calls : Nat
  counters : Counters
  /-- What whoever drives waits for has ended so. -/
  outcome : Option (Except Error Json.Value)
  log : List Entry
  callTimes : List Nat
  sent : List Sent

/-- What the calendar says at the start of a rehearsal: the first day of 2026. -/
def epoch : Nat := 379472342400000000000

namespace World

def start (tick capacity : Nat) (tokenAnswers answers : List Canned) : World :=
  ⟨0, tick, none, .start capacity, tokenAnswers, answers, [], [], true, 0, 0, 0, .zero, none, [],
    [], []⟩

def clock (w : World) : Nat := epoch + w.now

def hear (w : World) (n : Note) : World :=
  { w with counters := w.counters.hear n, log := w.log ++ n.entry?.toList }

def hearAll (w : World) (notes : List Note) : World := notes.foldl hear w

def settleCaller (w : World) (caller : Nat) (result : Except Error Json.Value) : World :=
  match caller with
  | 0 => { w with outcome := some result }
  | i + 1 =>
    { w with tasks := w.tasks.modify i fun t => if t.isPending then .done result else t }

def receive (w : World) (s : Signal) : World :=
  match s with
  | .note n => w.hear n
  | .returned caller answer => w.settleCaller caller (answer.map fun _ => .null)
  | _ => w

def refresher? (w : World) : Option Refresher := w.session.map Session.refresher

def setRefresher (w : World) (r : Refresher) : World :=
  { w with session := w.session.map fun s => { s with refresher := r } }

def move (w : World) (m : Refresher.Move) : World :=
  match w.refresher?.bind fun r => r.move? m with
  | none => w
  | some (r, signals) => signals.foldl receive (w.setRefresher r)

def passTo (w : World) (t : Nat) : World := { w with now := t }.move (.wait t)

def usher (w : World) : World :=
  let answers := (w.refresher?.map fun r => r.queue.answers).getD []
  (answers.foldl (fun w a => w.move (.resume a.1)) w).move .enter

/-! ## Requests -/

/-- A request is sent; the next answer that is written down is the one to come. -/
def exchange (w : World) (url : Url) (body : Option (List UInt8)) : Canned × World :=
  let w := { w with sent := w.sent ++ [Sent.mk w.now url body] }
  if asksForToken url then
    (w.tokenAnswers.head?.getD .exhausted, { w with tokenAnswers := w.tokenAnswers.tail })
  else (w.answers.head?.getD .exhausted, { w with answers := w.answers.tail })

def get (url : Url) : StateM World (Except TransportFault Response) := fun w =>
  let (canned, w) := w.exchange url none
  (canned.answer [], { w with now := firesAt w.tick w.now canned.delay })

/-- A rehearsal as the surroundings of its cache, in which calls for tokens are counted. -/
def surroundings : Surroundings World Unit (List Line) where
  tick := World.tick
  now := World.now
  clock := World.clock
  passTo t w := { w with now := t }
  hear := receive
  authenticate lines c := fun w =>
    let n := w.calls + 1
    (scriptedCall lines n w.tick w.now c,
      { w with calls := n, callTimes := w.callTimes ++ [w.now] })
  get _ url := fun w => get url { w with calls := w.calls + 1 }

/-- The call that the next attempt to get a token makes, while the time stands still. -/
def call (w : World) (source : Source) (c : Credentials) : Call × World :=
  (source.call surroundings c).run w

abbrev Request := FreshToken.Request

def dispatch (w : World) (caller : Nat) (flight : Flight) (url : Url)
    (body : Option (List UInt8)) : World :=
  let (canned, w) := w.exchange url body
  let arrival : Arrival := ⟨caller, flight, firesAt w.tick w.now canned.delay, w.stamp,
    canned.answer (body.getD [])⟩
  { w with arrivals := w.arrivals ++ [arrival], stamp := w.stamp + 1 }

def authorize (w : World) (url : Url) : Except Error Url :=
  match w.refresher? with
  | some r => r.snapshot.authorize url
  | none => .ok url

def request (w : World) (caller : Nat) (q : Request) : World :=
  match w.authorize q.url with
  | .error e => w.settleCaller caller (.error e)
  | .ok url =>
    match q.payload with
    | none =>
      let (executor, notes) := w.executor.beginGet w.stamp q.reader
      (({ w with executor := executor }).hearAll notes).dispatch caller ⟨w.stamp, none, q.reader⟩
        url none
    | some payload =>
      let (executor, notes, result) := w.executor.beginPost w.stamp q.reader payload
      let after := ({ w with executor := executor }).hearAll notes
      match result with
      | .error e => after.settleCaller caller (.error e)
      | .ok body => after.dispatch caller ⟨w.stamp, some body, q.reader⟩ url (some body)

def arrive (w : World) (a : Arrival) : World :=
  let (executor, notes, result) := w.executor.finish a.flight a.answer
  (({ w with executor := executor,
             arrivals := w.arrivals.filter (·.stamp ≠ a.stamp) }).hearAll notes).settleCaller
    a.caller result

/-! ## What is next -/

def turnRefresher (w : World) (s : Session) : World :=
  let (move, w) : Refresher.Move × World :=
    match s.refresher.phase, s.refresher.queue.slot with
    | .starting _, _ => (.launch, w)
    | .idle _, some _ =>
      let (call, w) := w.call s.source s.credentials
      (.accept call, w)
    | .idle _, none =>
      let (call, w) := w.call s.source s.credentials
      (.fire call, w)
    | _, _ => (.finish w.clock, w)
  let w := (w.move move).usher
  { w with refresherStamp := w.stamp, stamp := w.stamp + 1 }

def comesFirst (a : Arrival) (others : List Arrival) : Bool :=
  others.all fun b =>
    if a.caller = 0 then true else if b.caller = 0 then false else a.stamp ≤ b.stamp

def nextArrival? (w : World) : Option Arrival :=
  let due := w.arrivals.filter fun a => a.time ≤ w.now
  due.find? fun a => comesFirst a due

def readySession? (w : World) : Option Session :=
  w.session.filter fun s => s.refresher.isReady

/-- A cache that nobody holds is dropped, and its refresher stops.  A refresher that has something
to do does that first. -/
def release (w : World) : World :=
  if w.isHeld || w.tasks.any TaskState.isPending || w.readySession?.isSome then w
  else w.move .stop

def turn? (w : World) : Option World :=
  let next := match w.nextArrival?, w.readySession? with
    | some a, some s =>
      if a.caller = 0 || a.stamp < w.refresherStamp then some (w.arrive a)
      else some (w.turnRefresher s)
    | some a, none => some (w.arrive a)
    | none, some s => some (w.turnRefresher s)
    | none, none => none
  next.map release

def turns : (fuel : Nat) → World → World
  | 0, w => w
  | fuel + 1, w =>
    match w.turn? with
    | some w => turns fuel w
    | none => w

def commands (w : World) : Nat :=
  match w.refresher? with
  | some r => r.queue.waiting.length + (if r.queue.slot.isSome then 1 else 0)
  | none => 0

/-- Everything that happens at this instant.  Each command is accepted once and its attempt ends
once, one attempt may be under way and one deadline may be reached, the refresher begins once, and
each answer arrives once. -/
def settle (w : World) : World :=
  turns (2 * w.commands + w.arrivals.length + 5) w

def nextTime? (w : World) : Option Nat :=
  let times := (w.refresher?.bind Refresher.wake?).toList ++ w.arrivals.map Arrival.time
  times.foldl (fun best t => some (min t (best.getD t))) none

/-- Time goes on to `target`, over at most `fuel` instants at which something happens. -/
def advance (target : Nat) : (fuel : Nat) → World → World
  | 0, w => w.passTo target
  | fuel + 1, w =>
    let w := w.settle
    match w.nextTime? with
    | some t => if t ≤ target then advance target fuel (w.passTo t) else w.passTo target
    | none => w.passTo target

/-- Time goes on to `target` and everything happens that is due by then.  Instants lie at least a
tick apart, or a nanosecond if timers are exact. -/
def advanceTo (w : World) (target : Nat) : World :=
  (advance target ((target - w.now) / max w.tick 1 + 1) w).settle

def isStopped (w : World) : Bool := w.refresher?.any Refresher.isStopped

/-- Time goes on until a command of whoever drives is accepted or never will be, over at most
`fuel` instants. -/
def await : (fuel : Nat) → World → World
  | 0, w => w
  | fuel + 1, w =>
    let w := w.settle
    match w.outcome, w.nextTime? with
    | none, some t => if w.isStopped then w else await fuel (w.passTo (max w.now t))
    | _, _ => w

end World

end FreshToken.Rehearsal
