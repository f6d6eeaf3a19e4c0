import FreshToken.Client
import FreshToken.Executor.Calls
/-!
# Traffic of a client

A refresher and any number of calls, all at the same time.  A call of the client reads one snapshot,
when it is made.  The executor and its pool may also be used without the client.
-/

namespace FreshToken

structure Traffic where
  refresher : Refresher
  calls : Calls (SharedPool (List UInt8))

namespace Traffic

inductive Move where
  | refresh (m : Refresher.Move)
  /-- A request of the client, to an address that has no token yet. -/
  | call (q : Request)
  | execute (m : Calls.Move (SharedPool.Move (List UInt8)))

inductive Signal where
  | refresh (e : Refresher.Event)
  /-- A request fails before anything is asked of the executor. -/
  | refused (q : Request) (e : Error)
  | execute (e : Calls.Signal (SharedPool.Signal (List UInt8)))

def execute? (s : Traffic) (m : Calls.Move (SharedPool.Move (List UInt8))) :
    Option (Traffic × List Signal) :=
  (s.calls.move? (.pooled byteBuffers) m).map fun (calls, es) =>
    ({ s with calls := calls }, es.map .execute)

def move? (s : Traffic) : Move → Option (Traffic × List Signal)
  | .refresh m =>
    (s.refresher.move? m).map fun (r, signals) =>
      ({ s with refresher := r }, (signals.map (.mk s.refresher.now)).map .refresh)
  | .call q =>
    match s.refresher.snapshot.authorize q.url with
    | .ok url => s.execute? (.call { q with url := url })
    | .error e => some (s, [.refused q e])
  | .execute m => s.execute? m

def run? (policy : Policy) (tick now : Nat) (call : Call) (clock capacity : Nat)
    (moves : List Move) : Option (Traffic × List Signal) := do
  let (r, front) ← Opening.run? policy tick now call clock []
  let (s, back) ← Machine.run? move? ⟨r, .start (.start capacity)⟩ moves
  return (s, front.map .refresh ++ back)

end Traffic

end FreshToken
