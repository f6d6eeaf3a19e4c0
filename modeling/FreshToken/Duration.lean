/-!
# Lengths of time

A duration is kept as whole seconds, which fit 64 bits, and the nanoseconds beyond them.  Its
value in nanoseconds is a plain natural number, and every operation here is tied to that number
by one lemma, so that later proofs never look at the carry between the two parts.
-/

namespace FreshToken

def nanosPerSecond : Nat := 1000000000

def secondsBound : Nat := 18446744073709551616

/-- A length of time: whole seconds below `2 ^ 64` and less than a second of nanoseconds. -/
structure Duration where
  seconds : Nat
  /-- Nanoseconds beyond the whole seconds. -/
  nanos : Nat
  seconds_lt : seconds < secondsBound := by decide
  nanos_lt : nanos < nanosPerSecond := by decide
  deriving DecidableEq

namespace Duration

def toNanos (d : Duration) : Nat := nanosPerSecond * d.seconds + d.nanos

def zero : Duration := ⟨0, 0, by decide, by decide⟩

def longest : Duration := ⟨18446744073709551615, 999999999, by decide, by decide⟩

def whole (s : Nat) (h : s < secondsBound) : Duration := ⟨s, 0, h, by decide⟩

def ofSeconds? (s : Nat) : Option Duration :=
  if h : s < secondsBound then some (whole s h) else none

def ofParts? (s n : Nat) : Option Duration :=
  if h : s < secondsBound ∧ n < nanosPerSecond then some ⟨s, n, h.1, h.2⟩ else none

instance : Inhabited Duration := ⟨zero⟩

@[ext] theorem ext {a b : Duration} (hs : a.seconds = b.seconds) (hn : a.nanos = b.nanos) :
    a = b := by
  cases a; cases b; simp_all

theorem toNanos_inj {a b : Duration} : a.toNanos = b.toNanos ↔ a = b := by
  constructor
  · intro h
    have ha := a.nanos_lt
    have hb := b.nanos_lt
    simp only [toNanos, nanosPerSecond] at *
    exact ext (by omega) (by omega)
  · rintro rfl; rfl

@[simp] theorem toNanos_zero : zero.toNanos = 0 := rfl

/-! ## Order -/

def le (a b : Duration) : Prop :=
  a.seconds < b.seconds ∨ (a.seconds = b.seconds ∧ a.nanos ≤ b.nanos)

instance : LE Duration := ⟨le⟩
instance : LT Duration := ⟨fun a b => ¬ b ≤ a⟩
instance (a b : Duration) : Decidable (a ≤ b) :=
  inferInstanceAs (Decidable (a.seconds < b.seconds ∨ (a.seconds = b.seconds ∧ a.nanos ≤ b.nanos)))
instance (a b : Duration) : Decidable (a < b) := inferInstanceAs (Decidable (¬ b ≤ a))
instance : Max Duration := ⟨fun a b => if a ≤ b then b else a⟩
instance : Min Duration := ⟨fun a b => if a ≤ b then a else b⟩

theorem le_iff_toNanos {a b : Duration} : a ≤ b ↔ a.toNanos ≤ b.toNanos := by
  have ha := a.nanos_lt
  have hb := b.nanos_lt
  show (a.seconds < b.seconds ∨ (a.seconds = b.seconds ∧ a.nanos ≤ b.nanos)) ↔ _
  simp only [toNanos, nanosPerSecond] at *
  omega

theorem lt_iff_toNanos {a b : Duration} : a < b ↔ a.toNanos < b.toNanos := by
  show ¬ b ≤ a ↔ _
  rw [le_iff_toNanos]
  omega

theorem toNanos_max (a b : Duration) : (max a b).toNanos = max a.toNanos b.toNanos := by
  show (if a ≤ b then b else a).toNanos = _
  split <;> rename_i h <;> rw [le_iff_toNanos] at h <;> omega

theorem toNanos_min (a b : Duration) : (min a b).toNanos = min a.toNanos b.toNanos := by
  show (if a ≤ b then a else b).toNanos = _
  split <;> rename_i h <;> rw [le_iff_toNanos] at h <;> omega

/-! ## Arithmetic -/

/-- What is left of `a` after `b`, with a borrow of one second where the nanoseconds ask for it;
nothing is left when `b` is the longer one. -/
def sub (a b : Duration) : Duration :=
  if b ≤ a then
    if b.nanos ≤ a.nanos then
      ⟨a.seconds - b.seconds, a.nanos - b.nanos,
        Nat.lt_of_le_of_lt (Nat.sub_le _ _) a.seconds_lt,
        Nat.lt_of_le_of_lt (Nat.sub_le _ _) a.nanos_lt⟩
    else
      ⟨a.seconds - b.seconds - 1, (a.nanos + nanosPerSecond - b.nanos) % nanosPerSecond,
        Nat.lt_of_le_of_lt (Nat.le_trans (Nat.sub_le _ _) (Nat.sub_le _ _)) a.seconds_lt,
        Nat.mod_lt _ (by decide)⟩
  else zero

instance : Sub Duration := ⟨sub⟩

theorem toNanos_sub (a b : Duration) : (a - b).toNanos = a.toNanos - b.toNanos := by
  have ha := a.nanos_lt
  have hb := b.nanos_lt
  show (sub a b).toNanos = _
  unfold sub
  split
  · rename_i h
    rw [le_iff_toNanos] at h
    simp only [toNanos, nanosPerSecond] at *
    split <;> simp only [] <;> omega
  · rename_i h
    rw [le_iff_toNanos] at h
    rw [toNanos_zero]
    omega

/-- Half of a duration, rounded down to a nanosecond: an odd second is carried over. -/
def half (d : Duration) : Duration :=
  ⟨d.seconds / 2, (nanosPerSecond * (d.seconds % 2) + d.nanos) / 2,
    Nat.lt_of_le_of_lt (Nat.div_le_self _ _) d.seconds_lt, by
      have := d.nanos_lt
      simp only [nanosPerSecond] at *
      omega⟩

theorem toNanos_half (d : Duration) : d.half.toNanos = d.toNanos / 2 := by
  simp only [half, toNanos, nanosPerSecond]
  omega

def isZero (d : Duration) : Bool := d.seconds == 0 && d.nanos == 0

theorem isZero_iff {d : Duration} : d.isZero = true ↔ d.toNanos = 0 := by
  simp only [isZero, toNanos, nanosPerSecond, Bool.and_eq_true, beq_iff_eq]
  omega

end Duration

end FreshToken
