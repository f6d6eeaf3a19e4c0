import FreshToken.Executor
import FreshToken.Pool.Sharing
/-!
# Calls at the same time

Any number of calls use one executor.  Each post leases a buffer, writes its body, and gives the
buffer back when the transport is done, when the payload has no JSON form or when the caller gives
up.  Where the buffers come from is a parameter: a pool, or the heap for each call anew.
-/

namespace FreshToken

/-- Where calls get buffers for their bodies. -/
structure Lender (σ μ ε : Type) where
  /-- A new lease and its number. -/
  lease : σ → Nat × σ × List ε
  /-- What is in the buffer of a lease, as soon as it is there. -/
  content? : σ → Nat → Option (List UInt8)
  fill : σ → Nat → List UInt8 → σ × List ε
  /-- The scope of a lease ends. -/
  drop : σ → Nat → σ × List ε
  isBack : σ → Nat → Bool
  /-- What goes on besides the calls, whose leases are given. -/
  move? : (Nat → Bool) → σ → μ → Option (σ × List ε)

namespace Lender

/-- A pool, which others may use too.  They keep off the buffers of calls. -/
def pooled (k : BufferKind (List UInt8)) :
    Lender (SharedPool (List UInt8)) (SharedPool.Move (List UInt8))
      (SharedPool.Signal (List UInt8)) where
  lease s := (s.borrowers.length, (s.move? k (.ask .lease)).getD (s, []))
  content? s j :=
    match s.borrowers[j]? with
    | some (.guard (some b)) => some b.content
    | _ => none
  fill s j content := (s.move? k (.write j content)).getD (s, [])
  drop s j := (s.move? k (.leave j)).getD (s, [])
  isBack s j :=
    match s.borrowers[j]? with
    | some .gone => true
    | _ => false
  move? isLeased s m := if m.target?.any isLeased then none else s.move? k m

/-- An empty buffer of its own for every call. -/
def fresh : Lender (List (List UInt8)) Empty Empty where
  lease s := (s.length, s ++ [[]], [])
  content? s j := s[j]?
  fill s j content := (s.set j content, [])
  drop s _ := (s, [])
  isBack _ _ := true
  move? _ _ m := m.elim

end Lender

namespace Calls

inductive Progress where
  /-- It waits for its buffer. -/
  | leasing (lease : Nat)
  /-- It waits for the transport, which has its body. -/
  | pending (lease? : Option Nat)
  /-- It has its result, or was given up, and its buffer goes back. -/
  | ending (lease? : Option Nat) (result? : Option (Except Error Json.Value))
  | ended

structure Job where
  request : Request
  progress : Progress

def Job.lease? (job : Job) : Option Nat :=
  match job.progress with
  | .leasing j => some j
  | .pending lease? | .ending lease? _ => lease?
  | .ended => none

inductive Move (μ : Type) where
  | call (q : Request)
  /-- The body is written, and sent if that succeeds. -/
  | encode (call : Nat)
  /-- The transport brings its answer. -/
  | answer (call : Nat) (a : Except TransportFault Response)
  /-- The caller gives up while the transport is at work. -/
  | cancel (call : Nat)
  | close (call : Nat)
  | lender (m : μ)

inductive Signal (ε : Type) where
  | called (call : Nat) (q : Request)
  | noted (call : Nat) (n : Note)
  /-- A request is given to the transport. -/
  | sent (call : Nat) (url : Url) (body? : Option (List UInt8))
  | answered (call : Nat) (a : Except TransportFault Response)
  | cancelled (call : Nat)
  | returned (call : Nat) (result : Except Error Json.Value)
  | lender (e : ε)

def opening {ε : Type} (n : Nat) (stage : Stage) : List (Signal ε) :=
  [.noted n (.logged (.span stage)), .noted n (.counted .request .attempt)]

def closing {ε : Type} (n : Nat) : Option (Except Error Json.Value) → List (Signal ε)
  | some result => [.noted n (.counted .request (.ofResult result)), .returned n result]
  | none => []

end Calls

/-- The calls on an executor, numbered in the order in which they came, with the lender of their
buffers. -/
structure Calls (σ : Type) where
  lender : σ
  jobs : List Calls.Job

namespace Calls

variable {σ μ ε : Type}

def start (lender : σ) : Calls σ := ⟨lender, []⟩

def isLeased (s : Calls σ) (j : Nat) : Bool := s.jobs.any fun job => job.lease? == some j

def set (s : Calls σ) (n : Nat) (q : Request) (p : Progress) : Calls σ :=
  { s with jobs := s.jobs.set n ⟨q, p⟩ }

def drop (L : Lender σ μ ε) (s : Calls σ) : Option Nat → Calls σ × List (Signal ε)
  | none => (s, [])
  | some j =>
    let (lender, es) := L.drop s.lender j
    ({ s with lender := lender }, es.map .lender)

def call (L : Lender σ μ ε) (s : Calls σ) (q : Request) : Calls σ × List (Signal ε) :=
  let n := s.jobs.length
  match q.payload with
  | none =>
    ({ s with jobs := s.jobs ++ [⟨q, .pending none⟩] },
      .called n q :: opening n .getJson ++ [.sent n q.url none])
  | some _ =>
    let (j, lender, es) := L.lease s.lender
    (⟨lender, s.jobs ++ [⟨q, .leasing j⟩]⟩, .called n q :: opening n .postJson ++ es.map .lender)

def encode (L : Lender σ μ ε) (s : Calls σ) (n : Nat) (q : Request) (j : Nat)
    (payload : Payload) (buffer : List UInt8) : Calls σ × List (Signal ε) :=
  let (written, fault?) := payload.encode
  let body := buffer ++ written
  let (lender, es) := L.fill s.lender j body
  let s := { s with lender := lender }
  match fault? with
  | none => (s.set n q (.pending (some j)), es.map .lender ++ [.sent n q.url (some body)])
  | some f =>
    let (s, es') := s.drop L (some j)
    (s.set n q (.ending (some j) (some (.error (.encoding f)))), es.map .lender ++ es')

def move? (L : Lender σ μ ε) (s : Calls σ) : Move μ → Option (Calls σ × List (Signal ε))
  | .call q => some (s.call L q)
  | .encode n =>
    match s.jobs[n]? with
    | some ⟨q, .leasing j⟩ =>
      match q.payload, L.content? s.lender j with
      | some payload, some buffer => some (s.encode L n q j payload buffer)
      | _, _ => none
    | _ => none
  | .answer n a =>
    match s.jobs[n]? with
    | some ⟨q, .pending lease?⟩ =>
      let (s, es) := s.drop L lease?
      some (s.set n q (.ending lease? (some (Executor.readAnswer q.reader a))), .answered n a :: es)
    | _ => none
  | .cancel n =>
    match s.jobs[n]? with
    | some ⟨q, .pending lease?⟩ =>
      let (s, es) := s.drop L lease?
      some (s.set n q (.ending lease? none), .cancelled n :: es)
    | _ => none
  | .close n =>
    match s.jobs[n]? with
    | some ⟨q, .ending lease? result?⟩ =>
      if lease?.all (L.isBack s.lender) then some (s.set n q .ended, closing n result?) else none
    | _ => none
  | .lender m =>
    (L.move? s.isLeased s.lender m).map fun (lender, es) =>
      ({ s with lender := lender }, es.map .lender)

end Calls

end FreshToken
