import FreshToken.Duration.Text
import FreshToken.Text.Record
/-!
# Refresh policy

When a token is fetched again, and how long one fetch may take.  After a success the next fetch
is due a safety margin before the token expires, or at half its lifetime if the margin would take
more than half of it; after a failure it is due on the fallback cadence.  A requested interval can
only shorten these delays.  No delay is below the minimum or above one year.
-/

namespace FreshToken

structure Policy where
  /-- How long before its expiry a token is replaced. -/
  safetyMargin : Duration
  /-- Delay before the attempt that follows a failed one. -/
  fallbackInterval : Duration
  /-- Lower bound of every delay. -/
  minInterval : Duration
  /-- Upper bound of a single fetch. -/
  fetchTimeout : Duration
  deriving DecidableEq

namespace Policy

def oneYear : Duration := .whole 31536000 (by decide)

/-- Five minutes of margin, a retry every minute, at least a second between fetches, and half a
minute for each fetch. -/
def standard : Policy where
  safetyMargin := .whole 300 (by decide)
  fallbackInterval := .whole 60 (by decide)
  minInterval := .whole 1 (by decide)
  fetchTimeout := .whole 30 (by decide)

instance : Inhabited Policy := ⟨standard⟩

inductive Fault where
  /-- Delays could be zero, so the refresh loop could spin. -/
  | minIntervalZero
  /-- Retries would come sooner than the minimum allows. -/
  | fallbackBelowMin
  /-- Every fetch would time out at once. -/
  | fetchTimeoutZero
  deriving DecidableEq, Repr

def Fault.reason : Fault → String
  | .minIntervalZero => "min_interval must be positive"
  | .fallbackBelowMin => "fallback_interval must not be shorter than min_interval"
  | .fetchTimeoutZero => "fetch_timeout must be positive"

def fault? (p : Policy) : Option Fault :=
  if p.minInterval.isZero then some .minIntervalZero
  else if p.fallbackInterval < p.minInterval then some .fallbackBelowMin
  else if p.fetchTimeout.isZero then some .fetchTimeoutZero
  else none

/-- A policy under which the refresh loop neither spins nor waits for a fetch that cannot end. -/
def Valid (p : Policy) : Prop := p.fault? = none

instance (p : Policy) : Decidable p.Valid := inferInstanceAs (Decidable (p.fault? = none))

def delayAfterSuccess (p : Policy) (lifetime : Duration) : Duration :=
  min (max (max (lifetime - p.safetyMargin) lifetime.half) p.minInterval) oneYear

def delayWithOverride (p : Policy) (lifetime : Duration) (requested : Option Duration) :
    Duration :=
  let derived := p.delayAfterSuccess lifetime
  match requested with
  | some interval => min (max (min interval derived) p.minInterval) oneYear
  | none => min derived oneYear

def delayAfterFailure (p : Policy) (requested : Option Duration) : Duration :=
  match requested with
  | some interval => min (max (min interval p.fallbackInterval) p.minInterval) oneYear
  | none => min p.fallbackInterval oneYear

def record (p : Policy) : Text.Record :=
  .fields "RefreshPolicy" [("safety_margin", .word p.safetyMargin.text),
    ("fallback_interval", .word p.fallbackInterval.text),
    ("min_interval", .word p.minInterval.text),
    ("fetch_timeout", .word p.fetchTimeout.text)]

/-! ## Validity in nanoseconds -/

theorem valid_iff {p : Policy} :
    p.Valid ↔ 0 < p.minInterval.toNanos ∧
      p.minInterval.toNanos ≤ p.fallbackInterval.toNanos ∧ 0 < p.fetchTimeout.toNanos := by
  unfold Valid fault?
  by_cases hmin : p.minInterval.isZero = true
  · have h := Duration.isZero_iff.1 hmin
    rw [if_pos hmin]
    exact ⟨(nomatch ·), fun ⟨h', _⟩ => by omega⟩
  · have h : p.minInterval.toNanos ≠ 0 := fun h => hmin (Duration.isZero_iff.2 h)
    rw [if_neg hmin]
    by_cases hback : p.fallbackInterval < p.minInterval
    · have h' := Duration.lt_iff_toNanos.1 hback
      rw [if_pos hback]
      exact ⟨(nomatch ·), fun ⟨_, h'', _⟩ => by omega⟩
    · have h' : ¬ _ := fun h => hback (Duration.lt_iff_toNanos.2 h)
      rw [if_neg hback]
      by_cases hfetch : p.fetchTimeout.isZero = true
      · have h'' := Duration.isZero_iff.1 hfetch
        rw [if_pos hfetch]
        exact ⟨(nomatch ·), fun ⟨_, _, h'''⟩ => by omega⟩
      · have h'' : p.fetchTimeout.toNanos ≠ 0 := fun h => hfetch (Duration.isZero_iff.2 h)
        rw [if_neg hfetch]
        exact ⟨fun _ => by omega, fun _ => rfl⟩

theorem valid_standard : standard.Valid := by decide

end Policy

end FreshToken
