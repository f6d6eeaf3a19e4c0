import FreshToken.Rehearsal.World
import FreshToken.Url.Parser
/-!
# Rehearsals

A rehearsal opens a cache, a client or an executor in a fresh world and takes it through steps.
Every step ends only when nothing more happens at its last instant.
-/

namespace FreshToken.Rehearsal

inductive Act where
  | sleep (d : Duration)
  /-- A command is sent, and its acceptance is waited for. -/
  | command (interval : Option Duration)
  /-- A command is sent in the background. -/
  | spawnCommand (interval : Option Duration)
  | request (q : World.Request)
  | spawnRequest (q : World.Request)
  /-- A task in the background is given up. -/
  | cancel (i : Nat)
  | token
  /-- Whoever drives lets go of the cache. -/
  | drop
  /-- Something is looked at that changes nothing. -/
  | look
  /-- The address of a request does not parse. -/
  | badUrl (f : Url.Fault)

inductive Reply where
  | nothing
  | result (r : Except Error Json.Value)
  /-- The cache is not held any more. -/
  | dropped

namespace World

def send (w : World) (caller : Nat) (interval : Option Duration) : World :=
  (w.move (.send ⟨caller, interval⟩)).usher

def spawn (w : World) : Nat × World :=
  (w.tasks.length + 1, { w with tasks := w.tasks ++ [.pending] })

/-- A task is given up, if it is still under way: its place in line and its request are gone, a
buffer goes back, and a command in the slot stays. -/
def cancel (w : World) (i : Nat) : World :=
  match w.tasks[i]? with
  | some .pending =>
    let w := { w with tasks := w.tasks.set i .cancelled }
    let w := w.move (.withdraw (i + 1))
    let w := match w.arrivals.find? (·.caller = i + 1) with
      | some a =>
        let (executor, notes) := w.executor.land a.flight
        ({ w with executor := executor,
                  arrivals := w.arrivals.filter (·.stamp ≠ a.stamp) }).hearAll notes
      | none => w
    w.release
  | _ => w

def takeOutcome (w : World) : Reply × World :=
  (.result (w.outcome.getD (.error .closed)), { w with outcome := none })

def arrivalTime? (w : World) : Option Nat :=
  (w.arrivals.find? (·.caller = 0)).map Arrival.time

def actHolding (w : World) : Act → Reply × World
  | .command interval =>
    let w := w.send 0 interval
    (World.await (w.commands + w.arrivals.length + 4) w).takeOutcome
  | .spawnCommand interval =>
    let (caller, w) := w.spawn
    (.nothing, (w.send caller interval).settle)
  | .request q =>
    let w := w.request 0 q
    match w.arrivalTime? with
    | some t => (w.advanceTo t).takeOutcome
    | none => w.settle.takeOutcome
  | .spawnRequest q =>
    let (caller, w) := w.spawn
    (.nothing, (w.request caller q).settle)
  | .token =>
    match w.refresher? with
    | some r => (.result (r.snapshot.result.map fun t => .string t.exposed), w)
    | none => (.nothing, w)
  | .badUrl f => (.result (.error (.config (.endpoint f))), w)
  | _ => (.nothing, w)

def act (w : World) : Act → Reply × World
  | .sleep d => (.nothing, w.advanceTo (firesAt w.tick w.now d))
  | .cancel i => (.nothing, (w.cancel i).settle)
  | .drop => (.nothing, ({ w with isHeld := false }).release.settle)
  | a => if w.isHeld then w.actHolding a else (.dropped, w)

def clear (w : World) : World := { w with log := [], callTimes := [], sent := [] }

def play (w : World) : List Act → List (Reply × World)
  | [] => []
  | a :: rest =>
    let (reply, after) := w.clear.act a
    (reply, after) :: play after rest

def attend (w : World) (c : Credentials) (source : Source) (r : Refresher) : World :=
  { w with session := some ⟨c, source, r⟩, refresherStamp := w.stamp, stamp := w.stamp + 1 }.settle

def openCache (w : World) (c : Credentials) (source : Source) (policy : Policy) :
    Except Failure Unit × World :=
  match (surroundings.openCache c source policy).run w with
  | (.error f, w) => (.error f, w)
  | (.ok r, w) => (.ok (), w.attend c source r)

def build (w : World) (b : ClientBuilder Unit (List Line)) : Except Failure Unit × World :=
  match (b.build surroundings).run w with
  | (.error f, w) => (.error f, w)
  | (.ok client, w) =>
    (.ok (), { w with executor := client.executor }.attend client.credentials client.source
      client.refresher)

def builder (plan : ClientPlan) (lines : List Line) : ClientBuilder Unit (List Line) :=
  (ClientBuilder.new plan.appId plan.appSecret ()).turned
    ((plan.tokenEndpoint.map .tokenEndpoint).toList ++
      [.poolCapacity plan.poolCapacity, .policy plan.policy] ++
      if plan.isCustom then [.authenticator lines] else [])

def openClient (w : World) (plan : ClientPlan) (lines : List Line) :
    Except Failure Unit × World :=
  w.build (builder plan lines)

def authenticate (w : World) (e : TokenEndpoint) (c : Credentials) :
    Nat → List (Except AuthFault IssuedToken) × World
  | 0 => ([], w)
  | n + 1 =>
    let (result, w) := (e.authenticate get c).run w
    let (results, w) := authenticate w e c n
    (result :: results, w)

end World

end FreshToken.Rehearsal
