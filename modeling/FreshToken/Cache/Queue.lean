import FreshToken.Error
/-!
# The queue of callers

Commands on their way to the refresher.  There is a slot for one; callers wait in line for it, and
the first in line takes it when it is free.  A caller whose command was accepted gets an answer, and
so does everyone who waits when the queue is closed.
-/

namespace FreshToken

/-- A request to refresh at once.  It sets the interval of the attempts to come, or takes it
back. -/
structure Command where
  /-- The number of the call that it comes from. -/
  caller : Nat
  interval : Option Duration
  deriving DecidableEq

/-- Commands that are not accepted, and answers that have not reached their callers. -/
structure Queue where
  slot : Option Command
  /-- Whether the caller of the command in the slot still waits for an answer. -/
  isAttended : Bool
  waiting : List Command
  /-- Answers on their way, with the calls that they answer. -/
  answers : List (Nat × Except Error Unit)

namespace Queue

def empty : Queue := ⟨none, false, [], []⟩

instance : Inhabited Queue := ⟨empty⟩

def isFree (q : Queue) (caller : Nat) : Bool :=
  q.slot.all (·.caller ≠ caller) && q.waiting.all (·.caller ≠ caller) &&
    q.answers.all (·.1 ≠ caller)

def canEnter (q : Queue) : Bool := q.slot.isNone && !q.waiting.isEmpty

def join (q : Queue) (c : Command) : Queue := { q with waiting := q.waiting ++ [c] }

def enter? (q : Queue) : Option (Command × Queue) :=
  match q.slot, q.waiting with
  | none, c :: rest => some (c, { q with slot := some c, isAttended := true, waiting := rest })
  | _, _ => none

/-- A caller gives up.  Its place in line is gone, but a command in the slot stays there. -/
def withdraw (q : Queue) (caller : Nat) : Queue where
  slot := q.slot
  isAttended := q.isAttended && q.slot.all (·.caller ≠ caller)
  waiting := q.waiting.filter (·.caller ≠ caller)
  answers := q.answers.filter (·.1 ≠ caller)

def take? (q : Queue) : Option (Command × Queue) :=
  q.slot.map fun c =>
    (c, { q with
      slot := none
      isAttended := false
      answers := q.answers ++ if q.isAttended then [(c.caller, .ok ())] else [] })

def resume? (q : Queue) (caller : Nat) : Option (Except Error Unit × Queue) :=
  (q.answers.find? (·.1 = caller)).map fun a =>
    (a.2, { q with answers := q.answers.filter (·.1 ≠ caller) })

/-- The calls that wait with a command that was not accepted. -/
def callers (q : Queue) : List Nat :=
  (if q.isAttended then q.slot.toList else []).map Command.caller ++ q.waiting.map Command.caller

def close (q : Queue) : Queue where
  slot := none
  isAttended := false
  waiting := []
  answers := q.answers ++ q.callers.map fun caller => (caller, .error .closed)

end Queue

end FreshToken
