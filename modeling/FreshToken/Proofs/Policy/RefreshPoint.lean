import FreshToken.Proofs.Policy.Delays
import Mathlib.Algebra.Group.Nat.Defs
/-!
# When a token is replaced

The delay after a success is half of the lifetime up to twice the margin, and the lifetime less the
margin from there on, kept between the shortest delay and a year.  It is computed on seconds and
nanoseconds: here every number on the way is checked against the width of its word, and none is
too large or below zero.
-/

namespace FreshToken

/-! ## Words -/

/-- A number in a word of so many bits; there is none where it overflows. -/
def word? (bits n : Nat) : Option Nat := if n < 2 ^ bits then some n else none

def wordSub? (a b : Nat) : Option Nat := if b ≤ a then some (a - b) else none

theorem word?_of_lt {bits n : Nat} (h : n < 2 ^ bits) : word? bits n = some n := if_pos h

theorem wordSub?_of_le {a b : Nat} (h : b ≤ a) : wordSub? a b = some (a - b) := if_pos h

theorem wordSub?_of_lt {a b : Nat} (h : a < b) : wordSub? a b = none := if_neg (Nat.not_le.2 h)

namespace Duration

theorem ofParts?_of_toNanos {d : Duration} {s n : Nat} (hn : n < nanosPerSecond)
    (h : d.toNanos = nanosPerSecond * s + n) : ofParts? s n = some d := by
  have hnanos := d.nanos_lt
  have hseconds : d.seconds = s ∧ d.nanos = n := by
    simp only [toNanos, nanosPerSecond] at *
    omega
  obtain ⟨rfl, rfl⟩ := hseconds
  rw [ofParts?, dif_pos ⟨d.seconds_lt, hn⟩]

/-- The difference of two durations, with 64 bits for seconds and 32 bits for nanoseconds.  A second
is borrowed where the nanoseconds ask for it, and without one to borrow nothing is left. -/
def subInWords? (a b : Duration) : Option Duration :=
  match wordSub? a.seconds b.seconds with
  | none => some zero
  | some seconds =>
    if b.nanos ≤ a.nanos then do
      ofParts? seconds (← wordSub? a.nanos b.nanos)
    else
      match wordSub? seconds 1 with
      | none => some zero
      | some seconds => do
        let lent ← word? 32 (a.nanos + nanosPerSecond)
        ofParts? seconds (← wordSub? lent b.nanos)

/-- Half of a duration.  An odd second is carried over to the nanoseconds, in 64 bits. -/
def halfInWords? (d : Duration) : Option Duration := do
  let carry ← word? 64 (nanosPerSecond * (d.seconds % 2))
  let odd ← word? 64 (carry + d.nanos % 2)
  let rest ← word? 32 (odd / 2)
  let nanos ← word? 32 (d.nanos / 2 + rest)
  ofParts? (d.seconds / 2) nanos

theorem sub_eq_zero {a b : Duration} (h : a.toNanos ≤ b.toNanos) : a - b = zero := by
  apply toNanos_inj.1
  rw [toNanos_sub, toNanos_zero]
  omega

theorem subInWords?_eq (a b : Duration) : a.subInWords? b = some (a - b) := by
  have ha := a.nanos_lt
  have hb := b.nanos_lt
  have hsub := toNanos_sub a b
  unfold subInWords?
  by_cases hseconds : b.seconds ≤ a.seconds
  · rw [wordSub?_of_le hseconds]
    by_cases hnanos : b.nanos ≤ a.nanos
    · simp only [if_pos hnanos, wordSub?_of_le hnanos]
      refine ofParts?_of_toNanos (Nat.lt_of_le_of_lt (Nat.sub_le _ _) ha) ?_
      rw [hsub]
      simp only [toNanos, nanosPerSecond] at *
      omega
    · simp only [if_neg hnanos]
      by_cases hborrow : 1 ≤ a.seconds - b.seconds
      · have hlent : a.nanos + nanosPerSecond < 2 ^ 32 := by
          simp only [nanosPerSecond] at *
          omega
        have hless : b.nanos ≤ a.nanos + nanosPerSecond := by omega
        simp only [wordSub?_of_le hborrow, word?_of_lt hlent, wordSub?_of_le hless,
          Option.bind_eq_bind, Option.bind_some]
        refine ofParts?_of_toNanos ?_ ?_
        · omega
        · rw [hsub]
          simp only [toNanos, nanosPerSecond] at *
          omega
      · rw [wordSub?_of_lt (Nat.lt_of_not_le hborrow), sub_eq_zero]
        simp only [toNanos, nanosPerSecond] at *
        omega
  · rw [wordSub?_of_lt (Nat.lt_of_not_le hseconds), sub_eq_zero]
    simp only [toNanos, nanosPerSecond] at *
    omega

theorem halfInWords?_eq (d : Duration) : d.halfInWords? = some d.half := by
  have hd := d.nanos_lt
  have hcarry : nanosPerSecond * (d.seconds % 2) < 2 ^ 64 := by
    simp only [nanosPerSecond]
    omega
  have hodd : nanosPerSecond * (d.seconds % 2) + d.nanos % 2 < 2 ^ 64 := by
    simp only [nanosPerSecond]
    omega
  have hrest : (nanosPerSecond * (d.seconds % 2) + d.nanos % 2) / 2 < 2 ^ 32 := by
    simp only [nanosPerSecond]
    omega
  have hnanos : d.nanos / 2 + (nanosPerSecond * (d.seconds % 2) + d.nanos % 2) / 2 <
      nanosPerSecond := by
    simp only [nanosPerSecond] at *
    omega
  have hword : d.nanos / 2 + (nanosPerSecond * (d.seconds % 2) + d.nanos % 2) / 2 < 2 ^ 32 := by
    simp only [nanosPerSecond] at *
    omega
  simp only [halfInWords?, Option.bind_eq_bind, word?_of_lt hcarry, word?_of_lt hodd,
    word?_of_lt hrest, word?_of_lt hword, Option.bind_some]
  refine ofParts?_of_toNanos hnanos ?_
  rw [toNanos_half]
  simp only [toNanos, nanosPerSecond]
  omega

end Duration

namespace Policy

open Duration

/-- The delay after a success, computed in words; comparing two durations needs no more. -/
def delayInWords? (p : Policy) (lifetime : Duration) : Option Duration := do
  let early ← lifetime.subInWords? p.safetyMargin
  let half ← lifetime.halfInWords?
  return min (max (max early half) p.minInterval) oneYear

theorem delayInWords?_eq (p : Policy) (lifetime : Duration) :
    p.delayInWords? lifetime = some (p.delayAfterSuccess lifetime) := by
  simp only [delayInWords?, subInWords?_eq, halfInWords?_eq]
  rfl

/-! ## The refresh point -/

/-- When a token is due to be replaced, in nanoseconds after its issue: at half its lifetime if the
margin would take more, and a margin before its end otherwise. -/
def refreshPoint (p : Policy) (lifetime : Duration) : Nat :=
  if lifetime.toNanos ≤ 2 * p.safetyMargin.toNanos then lifetime.toNanos / 2
  else lifetime.toNanos - p.safetyMargin.toNanos

theorem refreshPoint_eq (p : Policy) (lifetime : Duration) :
    p.refreshPoint lifetime =
      max (lifetime.toNanos - p.safetyMargin.toNanos) (lifetime.toNanos / 2) := by
  by_cases hshort : lifetime.toNanos ≤ 2 * p.safetyMargin.toNanos
  · rw [refreshPoint, if_pos hshort]
    omega
  · rw [refreshPoint, if_neg hshort]
    omega

theorem toNanos_delayAfterSuccess_eq (p : Policy) (lifetime : Duration) :
    (p.delayAfterSuccess lifetime).toNanos =
      min oneYear.toNanos (max p.minInterval.toNanos (p.refreshPoint lifetime)) := by
  rw [toNanos_delayAfterSuccess, ← refreshPoint_eq, Nat.max_comm, Nat.min_comm]

theorem refreshPoint_le (p : Policy) (lifetime : Duration) :
    p.refreshPoint lifetime ≤ lifetime.toNanos := by
  rw [refreshPoint_eq]
  omega

theorem refreshPoint_lt {p : Policy} {lifetime : Duration} (margin : 0 < p.safetyMargin.toNanos)
    (alive : 0 < lifetime.toNanos) : p.refreshPoint lifetime < lifetime.toNanos := by
  rw [refreshPoint_eq]
  omega

/-- What is left of the lifetime is the margin or half of the lifetime, whichever is less.  Both
sides are doubled, so that an odd nanosecond is not lost. -/
theorem refreshPoint_leaves (p : Policy) (lifetime : Duration) :
    2 * p.refreshPoint lifetime + min (2 * p.safetyMargin.toNanos) lifetime.toNanos ≤
      2 * lifetime.toNanos := by
  rw [refreshPoint_eq]
  omega

structure Replaces (p : Policy) (lifetime : Duration) : Prop where
  computed : p.delayInWords? lifetime = some (p.delayAfterSuccess lifetime)
  closed : (p.delayAfterSuccess lifetime).toNanos =
    min oneYear.toNanos (max p.minInterval.toNanos (p.refreshPoint lifetime))
  in_time : p.minInterval ≤ lifetime → p.delayAfterSuccess lifetime ≤ lifetime
  ahead : p.minInterval < lifetime → zero < p.safetyMargin → p.delayAfterSuccess lifetime < lifetime
  /-- The margin or half of the lifetime is left, whichever is less. -/
  leaves : p.minInterval.toNanos ≤ p.refreshPoint lifetime →
    2 * (p.delayAfterSuccess lifetime).toNanos +
        min (2 * p.safetyMargin.toNanos) lifetime.toNanos ≤ 2 * lifetime.toNanos
  /-- Otherwise the minimum is what sets the delay. -/
  forced : p.refreshPoint lifetime < p.minInterval.toNanos →
    p.delayAfterSuccess lifetime = p.shortest

theorem refresh_point_law (p : Policy) (lifetime : Duration) : p.Replaces lifetime := by
  have hclosed := toNanos_delayAfterSuccess_eq p lifetime
  have hle := refreshPoint_le p lifetime
  constructor
  case computed => exact delayInWords?_eq p lifetime
  case closed => exact hclosed
  case in_time =>
    intro hmin
    rw [le_iff_toNanos] at *
    omega
  case ahead =>
    intro hmin hmargin
    rw [lt_iff_toNanos] at *
    rw [toNanos_zero] at hmargin
    have hlt := refreshPoint_lt (p := p) hmargin (Nat.zero_lt_of_lt hmin)
    omega
  case leaves =>
    intro hpoint
    have hleaves := refreshPoint_leaves p lifetime
    omega
  case forced =>
    intro hpoint
    apply toNanos_inj.1
    rw [shortest, toNanos_min]
    omega

/-- A token that lives just short of twice the margin is replaced at half its lifetime, where half a
nanosecond is dropped. -/
theorem refresh_point_law_oddLifetime :
    let lifetime : Duration := ⟨599, 999999999, by decide, by decide⟩
    standard.minInterval < lifetime ∧ zero < standard.safetyMargin ∧
      standard.minInterval.toNanos ≤ standard.refreshPoint lifetime ∧
      standard.delayAfterSuccess lifetime = ⟨299, 999999999, by decide, by decide⟩ ∧
      standard.delayAfterSuccess lifetime < lifetime ∧
      2 * (standard.delayAfterSuccess lifetime).toNanos +
        min (2 * standard.safetyMargin.toNanos) lifetime.toNanos ≤ 2 * lifetime.toNanos := by
  intro lifetime
  have hmin : standard.minInterval < lifetime := by decide
  have hmargin : zero < standard.safetyMargin := by decide
  have hpoint : standard.minInterval.toNanos ≤ standard.refreshPoint lifetime := by decide
  have hlaw := refresh_point_law standard lifetime
  exact ⟨hmin, hmargin, hpoint, by decide, hlaw.ahead hmin hmargin, hlaw.leaves hpoint⟩

end Policy

end FreshToken
