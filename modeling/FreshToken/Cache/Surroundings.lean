import FreshToken.Cache.Refresher
/-!
# Surroundings of a cache

Where tokens come from, and what else a cache needs while it is opened: a clock, and someone who
hears what happens.  Nothing here says what authenticators and transports answer.
-/

namespace FreshToken

/-- Where tokens come from: an authenticator of the caller's own, or an endpoint that a transport
reaches. -/
inductive TokenSource (τ α : Type) where
  | custom (a : α)
  | endpoint (transport : τ) (e : TokenEndpoint)

structure Surroundings (σ τ α : Type) where
  tick : σ → Nat
  now : σ → Nat
  /-- The instant that the calendar says. -/
  clock : σ → Nat
  passTo : Nat → σ → σ
  hear : σ → Signal → σ
  authenticate : α → Credentials → StateM σ Call
  get : τ → Url → StateM σ (Except TransportFault Response)

section
variable {σ τ α : Type} (env : Surroundings σ τ α)

/-- A token is asked for, while the time stands still.  How long an endpoint takes shows on the
clock. -/
def TokenSource.call (c : Credentials) : TokenSource τ α → StateM σ Call
  | .custom a => env.authenticate a c
  | .endpoint transport e => fun s =>
    let (result, after) := (e.authenticate (env.get transport) c).run s
    (⟨some (env.now after - env.now s), .ofOutcome result⟩, env.passTo (env.now s) after)

def Surroundings.finishOpening (o : Opening) (signals : List Signal) :
    StateM σ (Except Failure Refresher) := fun s =>
  let after := env.passTo o.fetch.ends (signals.foldl env.hear s)
  let (result, signals) := o.conclude (env.clock after)
  (result, signals.foldl env.hear after)

def Surroundings.openCache (c : Credentials) (source : TokenSource τ α) (policy : Policy) :
    StateM σ (Except Failure Refresher) := fun s =>
  match policy.fault? with
  | some f => (.error (.returned (.config (.policy f))), s)
  | none =>
    let (call, after) := (source.call env c).run s
    match Opening.start policy (env.tick s) (env.now s) call with
    | .error f => (.error (.returned (.config (.policy f))), after)
    | .ok (o, signals) => (env.finishOpening o signals).run after

end

end FreshToken
