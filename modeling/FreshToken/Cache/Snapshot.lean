import FreshToken.TokenEndpoint
/-!
# Snapshots

What readers see of the cache: the token of the last success and the failure of the last attempt,
if it was one.  A snapshot never changes; every attempt makes a new one from the one before.
-/

namespace FreshToken

/-- The last nanosecond of the calendar, at the end of the year 9999.  Instants of the calendar are
counted from its first one, at the beginning of the year -9999. -/
def calendarEnd : Nat := 631107417599999999999

/-- The seconds of a lifetime that can be added to an instant are below this bound. -/
def lifetimeBound : Nat := 9223372036854775808

def expiry? (now : Nat) (lifetime : Duration) : Option Nat :=
  if lifetime.seconds < lifetimeBound ∧ now + lifetime.toNanos ≤ calendarEnd then
    some (now + lifetime.toNanos)
  else none

/-- Token and failure as one attempt left them. -/
structure Snapshot where
  /-- The token of the last attempt that got one. -/
  token : Option (Secret .token)
  /-- Why the last attempt failed, if it did. -/
  lastFault : Option AuthFault
  /-- The number of the last attempt; the first one is 1.  It has 64 bits and is taken not to run
  over. -/
  attempt : Nat
  /-- When the token was issued, in nanoseconds of the calendar. -/
  refreshedAt : Option Nat
  /-- When the token is over, if the calendar reaches so far. -/
  expiresAt : Option Nat

namespace Snapshot

def empty : Snapshot := ⟨none, none, 0, none, none⟩

instance : Inhabited Snapshot := ⟨empty⟩

def succeeded (s : Snapshot) (t : IssuedToken) (now : Nat) : Snapshot :=
  ⟨some t.token, none, s.attempt + 1, some now, expiry? now t.lifetime⟩

/-- After an attempt that got none: what is known of the last token stays. -/
def failed (s : Snapshot) (f : AuthFault) : Snapshot :=
  { s with lastFault := some f, attempt := s.attempt + 1 }

def isFresh (s : Snapshot) : Bool := s.token.isSome && s.lastFault.isNone

def result (s : Snapshot) : Except Error (Secret .token) :=
  match s.lastFault with
  | some f => .error (.authentication f)
  | none =>
    match s.token with
    | some t => .ok t
    | none => .error .notFetched

/-- The time between issue and expiry, in nanoseconds. -/
def lifetime? (s : Snapshot) : Option Nat := do return (← s.expiresAt) - (← s.refreshedAt)

/-- A snapshot as a record, where the two instants have names only. -/
def record (s : Snapshot) : Text.Record :=
  .fields "CredentialState" [
    ("token", .optional (s.token.map fun _ => .word (Text.quoted Secret.redacted))),
    ("last_error", .optional (s.lastFault.map AuthFault.record)),
    ("attempt", .nat s.attempt),
    ("refreshed_at", .optional (s.refreshedAt.map fun _ => .word "R")),
    ("expires_at", .optional (s.expiresAt.map fun _ => .word "E"))]

@[simp] theorem attempt_succeeded (s : Snapshot) (t : IssuedToken) (now : Nat) :
    (s.succeeded t now).attempt = s.attempt + 1 := rfl

@[simp] theorem attempt_failed (s : Snapshot) (f : AuthFault) :
    (s.failed f).attempt = s.attempt + 1 := rfl

end Snapshot

end FreshToken
