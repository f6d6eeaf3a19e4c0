import FreshToken.TokenEndpoint
/-!
# Bounds on delays

Every delay that a valid policy hands out lies between its shortest one and a year, and a requested
interval never makes a delay longer.  All bounds are in nanoseconds, where the two parts of a
duration do not show.
-/

namespace FreshToken.Policy

open Duration

def shortest (p : Policy) : Duration := min p.minInterval oneYear

def delayAfter (p : Policy) (outcome : Except AuthFault IssuedToken)
    (requested : Option Duration) : Duration :=
  match outcome with
  | .ok t => p.delayWithOverride t.lifetime requested
  | .error _ => p.delayAfterFailure requested

/-- What no delay after an attempt exceeds, whatever interval was requested. -/
def longestAfter (p : Policy) (outcome : Except AuthFault IssuedToken) : Duration :=
  match outcome with
  | .ok t => p.delayAfterSuccess t.lifetime
  | .error _ => p.fallbackInterval

theorem toNanos_delayAfterSuccess (p : Policy) (lifetime : Duration) :
    (p.delayAfterSuccess lifetime).toNanos =
      min (max (max (lifetime.toNanos - p.safetyMargin.toNanos) (lifetime.toNanos / 2))
        p.minInterval.toNanos) oneYear.toNanos := by
  simp only [delayAfterSuccess, toNanos_min, toNanos_max, toNanos_sub, toNanos_half]

theorem delayWithOverride_none (p : Policy) (lifetime : Duration) :
    p.delayWithOverride lifetime none = p.delayAfterSuccess lifetime := by
  apply toNanos_inj.1
  simp only [delayWithOverride, toNanos_min, toNanos_delayAfterSuccess]
  generalize oneYear.toNanos = year
  omega

/-- If the floor exceeds the cap, both sides are the cap, and otherwise neither is below the
floor. -/
theorem clamp_le (requested derived floor cap : Nat) :
    min (max (min requested (min (max derived floor) cap)) floor) cap ≤
      min (max derived floor) cap := by
  omega

theorem floor_le_clamp (delay floor cap : Nat) : min floor cap ≤ min (max delay floor) cap := by
  omega

/-- A requested interval only shortens the delay after a success. -/
theorem delayWithOverride_le (p : Policy) (lifetime : Duration) (requested : Option Duration) :
    (p.delayWithOverride lifetime requested).toNanos ≤
      (p.delayAfterSuccess lifetime).toNanos := by
  cases requested with
  | none => exact Nat.le_of_eq (by rw [delayWithOverride_none])
  | some interval =>
    simp only [delayWithOverride, toNanos_min, toNanos_max, toNanos_delayAfterSuccess]
    exact clamp_le ..

theorem delayAfterFailure_le {p : Policy} (hp : p.Valid) (requested : Option Duration) :
    (p.delayAfterFailure requested).toNanos ≤ p.fallbackInterval.toNanos := by
  have hback := (valid_iff.1 hp).2.1
  cases requested with
  | none =>
    simp only [delayAfterFailure, toNanos_min]
    omega
  | some interval =>
    simp only [delayAfterFailure, toNanos_min, toNanos_max]
    omega

theorem delayAfter_le_longestAfter {p : Policy} (hp : p.Valid)
    (outcome : Except AuthFault IssuedToken) (requested : Option Duration) :
    (p.delayAfter outcome requested).toNanos ≤ (p.longestAfter outcome).toNanos := by
  cases outcome with
  | ok t => exact delayWithOverride_le p t.lifetime requested
  | error f => exact delayAfterFailure_le hp requested

theorem shortest_pos {p : Policy} (hp : p.Valid) : 0 < p.shortest.toNanos := by
  have hmin := (valid_iff.1 hp).1
  have hyear : 0 < oneYear.toNanos := by decide
  rw [shortest, toNanos_min]
  omega

theorem shortest_le_delayAfterSuccess (p : Policy) (lifetime : Duration) :
    p.shortest.toNanos ≤ (p.delayAfterSuccess lifetime).toNanos := by
  simp only [shortest, toNanos_min, toNanos_delayAfterSuccess]
  exact floor_le_clamp ..

theorem shortest_le_delayWithOverride (p : Policy) (lifetime : Duration)
    (requested : Option Duration) :
    p.shortest.toNanos ≤ (p.delayWithOverride lifetime requested).toNanos := by
  cases requested with
  | none =>
    rw [delayWithOverride_none]
    exact shortest_le_delayAfterSuccess p lifetime
  | some interval =>
    simp only [shortest, delayWithOverride, toNanos_min, toNanos_max]
    exact floor_le_clamp ..

theorem shortest_le_delayAfterFailure {p : Policy} (hp : p.Valid)
    (requested : Option Duration) :
    p.shortest.toNanos ≤ (p.delayAfterFailure requested).toNanos := by
  have hback := (valid_iff.1 hp).2.1
  cases requested with
  | none =>
    simp only [shortest, delayAfterFailure, toNanos_min]
    omega
  | some interval =>
    simp only [shortest, delayAfterFailure, toNanos_min, toNanos_max]
    exact floor_le_clamp ..

theorem shortest_le_delayAfter {p : Policy} (hp : p.Valid)
    (outcome : Except AuthFault IssuedToken) (requested : Option Duration) :
    p.shortest.toNanos ≤ (p.delayAfter outcome requested).toNanos := by
  cases outcome with
  | ok t => exact shortest_le_delayWithOverride p t.lifetime requested
  | error f => exact shortest_le_delayAfterFailure hp requested

theorem delayAfter_le_oneYear (p : Policy) (outcome : Except AuthFault IssuedToken)
    (requested : Option Duration) :
    (p.delayAfter outcome requested).toNanos ≤ oneYear.toNanos := by
  cases outcome <;> cases requested <;>
    simp only [delayAfter, delayWithOverride, delayAfterFailure, toNanos_min] <;>
    exact Nat.min_le_right _ _

theorem delayAfter_pos {p : Policy} (hp : p.Valid) (outcome : Except AuthFault IssuedToken)
    (requested : Option Duration) : 0 < (p.delayAfter outcome requested).toNanos :=
  Nat.lt_of_lt_of_le (shortest_pos hp) (shortest_le_delayAfter hp outcome requested)

end FreshToken.Policy
