import FreshToken.TokenEndpoint
/-!
# Fetches

One attempt to get a token: a call of an authenticator that is waited for no longer than the
policy allows.  Instants are nanoseconds from some start.  Timers fire only at multiples of a
tick, so a deadline is rounded up to the next one; a tick of zero means exact timers.
-/

namespace FreshToken

/-- Instants that the clock can tell lie below this bound: `2 ^ 63` seconds. -/
def clockBound : Nat := 9223372036854775808 * nanosPerSecond

def instantAfter? (now : Nat) (d : Duration) : Option Nat :=
  if now + d.toNanos < clockBound then some (now + d.toNanos) else none

def thirtyYears : Duration := .whole 946080000 (by decide)

/-- When a wait is over that begins at `now`.  If the clock cannot tell, the wait is thirty years
long instead; if it cannot tell that either, there is no waiting. -/
def waitEnd? (now : Nat) (d : Duration) : Option Nat :=
  (instantAfter? now d).or (instantAfter? now thirtyYears)

/-- The first multiple of the tick that is not before an instant. -/
def roundUp (tick instant : Nat) : Nat := instant + (tick - instant % tick) % tick

/-- When a timer fires that is set at `now` for the time `d`.  Timers hold all instants that the
clock can tell. -/
def deadline? (tick now : Nat) (d : Duration) : Option Nat := (waitEnd? now d).map (roundUp tick)

theorem le_roundUp (tick instant : Nat) : instant ≤ roundUp tick instant := Nat.le_add_right _ _

theorem roundUp_lt {tick : Nat} (h : 0 < tick) (instant : Nat) :
    roundUp tick instant < instant + tick :=
  Nat.add_lt_add_left (Nat.mod_lt _ h) _

theorem roundUp_le (tick instant : Nat) : roundUp tick instant ≤ instant + tick := by
  rcases Nat.eq_zero_or_pos tick with rfl | h
  · simp [roundUp]
  · exact Nat.le_of_lt (roundUp_lt h instant)

theorem waitEnd?_of_lt {now : Nat} {d : Duration} (h : now + d.toNanos < clockBound) :
    waitEnd? now d = some (now + d.toNanos) := by
  rw [waitEnd?, instantAfter?, if_pos h, Option.some_or]

theorem waitEnd?_of_le {now : Nat} {d : Duration} (h : clockBound ≤ now + d.toNanos) :
    waitEnd? now d = instantAfter? now thirtyYears := by
  rw [waitEnd?, instantAfter?, if_neg (Nat.not_lt_of_le h), Option.none_or]

/-- A wait that is cut to thirty years would have been longer. -/
theorem mem_waitEnd? {now limit : Nat} {d : Duration} (h : waitEnd? now d = some limit) :
    now ≤ limit ∧ limit ≤ now + d.toNanos := by
  by_cases hlt : now + d.toNanos < clockBound
  · rw [waitEnd?_of_lt hlt, Option.some.injEq] at h
    omega
  · rw [waitEnd?_of_le (Nat.le_of_not_lt hlt), instantAfter?] at h
    split at h
    · rw [Option.some.injEq] at h
      omega
    · cases h

theorem mem_deadline? {tick now limit : Nat} {d : Duration}
    (h : deadline? tick now d = some limit) : now ≤ limit ∧ limit ≤ now + d.toNanos + tick := by
  obtain ⟨instant, hinstant, rfl⟩ := Option.map_eq_some_iff.1 h
  have hmem := mem_waitEnd? hinstant
  have hle := le_roundUp tick instant
  have hround := roundUp_le tick instant
  omega

inductive Answer where
  | issued (t : IssuedToken)
  | refused (f : AuthFault)
  /-- It breaks down, and with it whoever waits for it. -/
  | breakdown

def Answer.ofOutcome : Except AuthFault IssuedToken → Answer
  | .ok t => .issued t
  | .error f => .refused f

/-- A call of an authenticator: the nanoseconds it takes, if it ends at all, and what it comes
to.  It need not end at a tick. -/
structure Call where
  takes : Option Nat
  answer : Answer

structure Fetch where
  ends : Nat
  answer : Answer

namespace Fetch

def cutOff (timeout : Duration) (limit : Nat) : Fetch := ⟨limit, .refused (.timedOut timeout)⟩

/-- The attempt that waits for a call from `now` to `limit`.  The call's own answer counts if it is
there when the time is up. -/
def await (timeout : Duration) (now limit : Nat) (call : Call) : Fetch :=
  match call.takes with
  | some nanos => if now + nanos ≤ limit then ⟨now + nanos, call.answer⟩ else cutOff timeout limit
  | none => cutOff timeout limit

/-- The attempt that begins at `now`.  Without a limit that the clock can tell it breaks down. -/
def start (tick : Nat) (timeout : Duration) (now : Nat) (call : Call) : Fetch :=
  match deadline? tick now timeout with
  | some limit => await timeout now limit call
  | none => ⟨now, .breakdown⟩

theorem ends_await_le (timeout : Duration) (now limit : Nat) (call : Call) :
    (await timeout now limit call).ends ≤ limit := by
  rw [await]
  split
  · split
    · assumption
    · exact Nat.le_refl limit
  · exact Nat.le_refl limit

theorem le_ends_await (timeout : Duration) {now limit : Nat} (h : now ≤ limit) (call : Call) :
    now ≤ (await timeout now limit call).ends := by
  rw [await]
  split
  · split
    · exact Nat.le_add_right now _
    · exact h
  · exact h

theorem ends_start_le_add (tick : Nat) (timeout : Duration) (now : Nat) (call : Call) :
    (start tick timeout now call).ends ≤ now + timeout.toNanos + tick := by
  rw [start]
  split
  · rename_i limit hlimit
    exact Nat.le_trans (ends_await_le timeout now limit call) (mem_deadline? hlimit).2
  · show now ≤ now + timeout.toNanos + tick
    omega

theorem le_ends_start (tick : Nat) (timeout : Duration) (now : Nat) (call : Call) :
    now ≤ (start tick timeout now call).ends := by
  rw [start]
  split
  · rename_i limit hlimit
    exact le_ends_await timeout (mem_deadline? hlimit).1 call
  · exact Nat.le_refl now

end Fetch

end FreshToken
