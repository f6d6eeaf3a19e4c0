import FreshToken.Pool
/-!
# Borrowing from a pool

Borrowers hold buffers of a pool in numbered slots.  A lease goes back to the pool when it ends,
however it ends; a plain buffer goes back only if it is released.
-/

namespace FreshToken.Pool

variable {α : Type}

inductive Slot (α : Type) where
  /-- A buffer that its holder owns. -/
  | plain (b : α)
  /-- A buffer that goes back by itself. -/
  | lease (b : α)
  | gone

def Slot.buffer? : Slot α → Option α
  | .plain b | .lease b => some b
  | .gone => none

inductive Action where
  | acquire
  | lease
  | write (slot : Nat) (text : String)
  /-- Gives a buffer back, or ends a lease. -/
  | release (slot : Nat)
  /-- Makes the buffer of a lease a plain one. -/
  | detach (slot : Nat)
  | forget (slot : Nat)
  /-- Leases a buffer, writes to it and fails; the failure ends the lease. -/
  | unwind (text : String)
  /-- Looks at a lease, or at the pool. -/
  | inspect (slot : Nat)
  | unknown

inductive Reply (α : Type) where
  | nothing
  | buffer (b : α)
  | gone
  | notALease
  | unwound
  | shown (text : String)

structure Bench (α : Type) where
  pool : Pool α
  slots : List (Slot α)
  log : List Entry

namespace Bench

def start (capacity : Nat) : Bench α := ⟨.empty capacity, [], []⟩

/-- The slot with a number; one that never was is gone. -/
def slot (w : Bench α) (i : Nat) : Slot α := (w.slots[i]?).getD .gone

def setSlot (w : Bench α) (i : Nat) (s : Slot α) : Bench α := { w with slots := w.slots.set i s }

def giveBack (k : BufferKind α) (w : Bench α) (b : α) : Bench α :=
  let (pool, entries) := w.pool.release k b
  { w with pool := pool, log := w.log ++ entries }

def leaseRecord (k : BufferKind α) (b : α) : Text.Record :=
  .call "PooledBuffer" [.optional (some (k.record b))]

def act (k : BufferKind α) (w : Bench α) : Action → Bench α × Reply α
  | .acquire =>
    let (b, pool) := w.pool.acquire k
    ({ w with pool := pool, slots := w.slots ++ [.plain b] }, .buffer b)
  | .lease =>
    let (b, pool) := w.pool.acquire k
    ({ w with pool := pool, slots := w.slots ++ [.lease b] }, .buffer b)
  | .write i text =>
    match w.slot i with
    | .plain b => (w.setSlot i (.plain (k.append b text)), .buffer (k.append b text))
    | .lease b => (w.setSlot i (.lease (k.append b text)), .buffer (k.append b text))
    | .gone => (w, .gone)
  | .release i =>
    match w.slot i with
    | .plain b | .lease b => ((w.setSlot i .gone).giveBack k b, .nothing)
    | .gone => (w, .gone)
  | .detach i =>
    match w.slot i with
    | .lease b => (w.setSlot i (.plain b), .buffer b)
    | .plain _ => (w, .notALease)
    | .gone => (w, .gone)
  | .forget i => (w.setSlot i .gone, .nothing)
  | .unwind text =>
    let (b, pool) := w.pool.acquire k
    (({ w with pool := pool }).giveBack k (k.append b text), .unwound)
  | .inspect i =>
    match w.slot i with
    | .lease b => (w, .shown (leaseRecord k b).line)
    | _ => (w, .shown w.pool.record.line)
  | .unknown => (w, .nothing)

def run (k : BufferKind α) (w : Bench α) : List Action → List (Reply α × Bench α)
  | [] => []
  | a :: rest =>
    let (w, reply) := act k w a
    (reply, w) :: run k w rest

/-- Leases that are still held end in the order of their slots. -/
def close (k : BufferKind α) (w : Bench α) : Bench α :=
  w.slots.foldl (fun w s =>
    match s with
    | .lease b => w.giveBack k b
    | _ => w) { w with slots := w.slots.map fun _ => .gone }

end Bench

end FreshToken.Pool
