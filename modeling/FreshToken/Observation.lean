import FreshToken.Error
/-!
# Observation

What the library reports about its work: how many operations were begun and how they ended, and a
log of spans and events.  A report never changes what is reported on.
-/

namespace FreshToken

inductive Operation where
  | refresh
  | request
  deriving DecidableEq, Repr

def Operation.label : Operation → String
  | .refresh => "refresh"
  | .request => "request"

def Operation.record : Operation → Text.Record
  | .refresh => .word "Refresh"
  | .request => .word "Request"

inductive Outcome where
  | attempt
  | success
  | failure
  deriving DecidableEq, Repr

def Outcome.label : Outcome → String
  | .attempt => "attempt"
  | .success => "success"
  | .failure => "failure"

def Outcome.record : Outcome → Text.Record
  | .attempt => .word "Attempt"
  | .success => .word "Success"
  | .failure => .word "Failure"

def Outcome.ofResult {ε α : Type} : Except ε α → Outcome
  | .ok _ => .success
  | .error _ => .failure

/-! ## Counting -/

/-- How many operations of one kind were begun, and how they ended.  These are counters of 64 bits,
which are taken not to run over. -/
structure Tally where
  attempts : Nat
  successes : Nat
  failures : Nat
  deriving DecidableEq, Repr

namespace Tally

def zero : Tally := ⟨0, 0, 0⟩

instance : Inhabited Tally := ⟨zero⟩

def count (t : Tally) : Outcome → Tally
  | .attempt => { t with attempts := t.attempts + 1 }
  | .success => { t with successes := t.successes + 1 }
  | .failure => { t with failures := t.failures + 1 }

def of (t : Tally) : Outcome → Nat
  | .attempt => t.attempts
  | .success => t.successes
  | .failure => t.failures

@[simp] theorem of_count (t : Tally) (o p : Outcome) :
    (t.count o).of p = t.of p + if p = o then 1 else 0 := by
  cases o <;> cases p <;> simp [count, of]

end Tally

structure Counters where
  refresh : Tally
  request : Tally
  deriving DecidableEq, Repr

namespace Counters

def zero : Counters := ⟨.zero, .zero⟩

instance : Inhabited Counters := ⟨zero⟩

def count (c : Counters) (op : Operation) (o : Outcome) : Counters :=
  match op with
  | .refresh => { c with refresh := c.refresh.count o }
  | .request => { c with request := c.request.count o }

def of (c : Counters) : Operation → Tally
  | .refresh => c.refresh
  | .request => c.request

def name (op : Operation) (o : Outcome) : String :=
  "token_broker_op_total\x7bop=" ++ op.label ++ ",outcome=" ++ o.label ++ "\x7d"

def readings (c : Counters) : List (String × Nat) :=
  ([Operation.refresh, .request].flatMap fun op =>
    [Outcome.attempt, .success, .failure].map fun o => (name op o, (c.of op).of o)).filter
    fun r => r.2 ≠ 0

end Counters

/-! ## The log -/

inductive Stage where
  | initialFetch
  | refresh
  | postJson
  | getJson
  deriving DecidableEq, Repr

def Stage.operation : Stage → Operation
  | .initialFetch | .refresh => .refresh
  | .postJson | .getJson => .request

def Stage.label : Stage → String
  | .initialFetch => "initial_fetch"
  | .refresh => "refresh"
  | .postJson => "post_json"
  | .getJson => "get_json"

inductive Entry where
  | span (stage : Stage)
  /-- An attempt got a token, and the next one follows after `next`. -/
  | refreshed (attempt : Nat) (lifetime next : Duration)
  /-- An attempt got none, and the next one follows after `next`. -/
  | refreshFailed (attempt : Nat) (fault : AuthFault) (next : Duration)
  | rescheduled (interval : Option Duration)
  /-- A buffer had no place in its pool. -/
  | overflow (capacity : Nat)

def Entry.text : Entry → String
  | .span stage =>
    "SPAN token_broker.op; op=" ++ stage.operation.label ++ "; stage=" ++ stage.label
  | .refreshed attempt lifetime next =>
    "INFO access token refreshed; attempt=" ++ toString attempt ++ "; valid_for=" ++
      lifetime.text ++ "; next_in=" ++ next.text
  | .refreshFailed attempt fault next =>
    "WARN access token refresh failed; keeping previous token; attempt=" ++ toString attempt ++
      "; error=" ++ fault.message ++ "; next_in=" ++ next.text
  | .rescheduled interval =>
    "DEBUG refresh schedule changed; interval=" ++
      (Text.Record.optional (interval.map fun d => .word d.text)).line
  | .overflow capacity =>
    "TRACE buffer pool full; dropping released buffer; capacity=" ++ toString capacity

inductive Note where
  | counted (op : Operation) (o : Outcome)
  | logged (e : Entry)

def Counters.hear (c : Counters) : Note → Counters
  | .counted op o => c.count op o
  | .logged _ => c

def Note.entry? : Note → Option Entry
  | .logged e => some e
  | .counted _ _ => none

end FreshToken
