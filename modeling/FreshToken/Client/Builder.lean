import FreshToken.Cache.Surroundings
import FreshToken.Client
/-!
# Building a client

A builder holds what a client is made of, and its knobs can be turned in any order.  What it holds
is looked at before anything is asked, then the first token is fetched, and only then there is a
client.
-/

namespace FreshToken

structure Client (τ α : Type) where
  credentials : Credentials
  source : TokenSource τ α
  refresher : Refresher
  transport : τ
  executor : Executor

structure ClientBuilder (τ α : Type) where
  appId : String
  appSecret : String
  transport : τ
  /-- The token endpoint, if it is not the usual one. -/
  tokenEndpoint : Option Url
  poolCapacity : Nat
  policy : Policy
  /-- An authenticator of the caller's own, in place of the token endpoint. -/
  authenticator : Option α

namespace ClientBuilder

variable {σ τ υ α : Type}

def new (appId appSecret : String) (transport : τ) : ClientBuilder τ α :=
  ⟨appId, appSecret, transport, none, Pool.usualCapacity, .standard, none⟩

/-! ## Knobs -/

/-- Another transport, of another type perhaps, which is shared with others already. -/
def withSharedTransport (b : ClientBuilder τ α) (transport : υ) : ClientBuilder υ α where
  appId := b.appId
  appSecret := b.appSecret
  transport := transport
  tokenEndpoint := b.tokenEndpoint
  poolCapacity := b.poolCapacity
  policy := b.policy
  authenticator := b.authenticator

def withTransport (b : ClientBuilder τ α) (transport : υ) : ClientBuilder υ α :=
  b.withSharedTransport transport

def withTokenEndpoint (b : ClientBuilder τ α) (url : Url) : ClientBuilder τ α :=
  { b with tokenEndpoint := some url }

def withPoolCapacity (b : ClientBuilder τ α) (capacity : Nat) : ClientBuilder τ α :=
  { b with poolCapacity := capacity }

def withPolicy (b : ClientBuilder τ α) (policy : Policy) : ClientBuilder τ α :=
  { b with policy := policy }

def withAuthenticator (b : ClientBuilder τ α) (a : α) : ClientBuilder τ α :=
  { b with authenticator := some a }

/-- One turn of a knob.  All transports are in `τ`, whatever type each of them has. -/
inductive Knob (τ α : Type) where
  | transport (transport : τ)
  | sharedTransport (transport : τ)
  | tokenEndpoint (url : Url)
  | poolCapacity (capacity : Nat)
  | policy (policy : Policy)
  | authenticator (a : α)

def turn (b : ClientBuilder τ α) : Knob τ α → ClientBuilder τ α
  | .transport transport => b.withTransport transport
  | .sharedTransport transport => b.withSharedTransport transport
  | .tokenEndpoint url => b.withTokenEndpoint url
  | .poolCapacity capacity => b.withPoolCapacity capacity
  | .policy policy => b.withPolicy policy
  | .authenticator a => b.withAuthenticator a

def turned (b : ClientBuilder τ α) (knobs : List (Knob τ α)) : ClientBuilder τ α :=
  knobs.foldl turn b

/-! ## The client -/

def plan (b : ClientBuilder τ α) : ClientPlan :=
  ⟨b.appId, b.appSecret, b.tokenEndpoint, b.poolCapacity, b.policy, b.authenticator.isSome⟩

def source (b : ClientBuilder τ α) (e? : Option TokenEndpoint) : TokenSource τ α :=
  match b.authenticator with
  | some a => .custom a
  | none => .endpoint b.transport (e?.getD .usual)

def check (b : ClientBuilder τ α) : Except ConfigFault (Credentials × TokenSource τ α) :=
  b.plan.check.map fun (c, e?) => (c, b.source e?)

/-- A client with a cache that is open.  If there can be no pool of the capacity, the cache is
dropped before its refresher does anything. -/
def assemble (b : ClientBuilder τ α) (c : Credentials) (source : TokenSource τ α)
    (r : Refresher) : Except Failure (Client τ α) :=
  match Executor.make? b.poolCapacity with
  | some executor => .ok ⟨c, source, r, b.transport, executor⟩
  | none => .error .breakdown

def build (env : Surroundings σ τ α) (b : ClientBuilder τ α) :
    StateM σ (Except Failure (Client τ α)) := fun s =>
  match b.check with
  | .error f => (.error (.returned (.config f)), s)
  | .ok (c, source) =>
    let (opened, after) := (env.openCache c source b.policy).run s
    (opened.bind (b.assemble c source), after)

end ClientBuilder

end FreshToken
