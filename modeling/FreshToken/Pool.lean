import FreshToken.Observation
/-!
# Buffer pools

A free list of buffers.  The capacity bounds how many idle buffers are kept, not how many can be
out at once.  An acquire first takes from the list and then counts, a release first puts back and
then counts, so the parts are functions of their own.
-/

namespace FreshToken

structure BufferKind (α : Type) where
  /-- The buffer that the `n`-th call of the factory makes, counted from one. -/
  fresh : Nat → α
  reset : α → α
  append : α → String → α
  record : α → Text.Record

/-- A pool of buffers.  Its counters have 64 bits and are taken not to run over. -/
structure Pool (α : Type) where
  capacity : Nat
  /-- Idle buffers, the last one put back in front. -/
  idle : List α
  created : Nat
  reused : Nat
  discarded : Nat

namespace Pool

variable {α : Type}

def usualCapacity : Nat := 16

def empty (capacity : Nat) : Pool α := ⟨capacity, [], 0, 0, 0⟩

/-- Nothing that is allocated has so many bytes. -/
def allocationBound : Nat := 9223372036854775808

/-- A new pool.  Its list is allocated for the whole capacity, with `size` bytes for each buffer.
There is taken to be memory for every list below the bound. -/
def make? (size capacity : Nat) : Option (Pool α) :=
  if size * capacity < allocationBound then some (empty capacity) else none

instance : Inhabited (Pool α) := ⟨empty usualCapacity⟩

def pop (p : Pool α) : Option α × Pool α :=
  match p.idle with
  | [] => (none, p)
  | b :: rest => (some b, { p with idle := rest })

def push (p : Pool α) (b : α) : Bool × Pool α :=
  if p.idle.length < p.capacity then (true, { p with idle := b :: p.idle }) else (false, p)

def countCreated (p : Pool α) : Pool α := { p with created := p.created + 1 }

def countReused (p : Pool α) : Pool α := { p with reused := p.reused + 1 }

def countDiscarded (p : Pool α) : Pool α := { p with discarded := p.discarded + 1 }

def acquire (k : BufferKind α) (p : Pool α) : α × Pool α :=
  match p.pop with
  | (some b, p) => (b, p.countReused)
  | (none, p) => (k.fresh (p.created + 1), p.countCreated)

/-- Puts an empty buffer back; without room it is dropped, and the log says so. -/
def stow (p : Pool α) (b : α) : Pool α × List Entry :=
  match p.push b with
  | (true, p) => (p, [])
  | (false, p) => (p.countDiscarded, [.overflow p.capacity])

def release (k : BufferKind α) (p : Pool α) (b : α) : Pool α × List Entry := p.stow (k.reset b)

theorem created_release (k : BufferKind α) (p : Pool α) (b : α) :
    (p.release k b).1.created = p.created := by
  by_cases hroom : p.idle.length < p.capacity
  · simp only [release, stow, push, if_pos hroom]
  · simp only [release, stow, push, if_neg hroom]
    rfl

def record (p : Pool α) : Text.Record :=
  .fields "BufferPool" [("capacity", .nat p.capacity), ("idle", .nat p.idle.length),
    ("metrics", .fields "PoolMetrics" [("created", .nat p.created), ("reused", .nat p.reused),
      ("discarded", .nat p.discarded)])]

end Pool

/-! ## Kinds of buffers -/

def byteBuffers : BufferKind (List UInt8) where
  fresh _ := []
  reset _ := []
  append b s := b ++ s.toUTF8.toList
  record b := .list (b.map fun x => .nat x.toNat)

def textBuffers : BufferKind String where
  fresh _ := ""
  reset _ := ""
  append b s := b ++ s
  record b := .word (Text.quoted b)

/-- A buffer that knows which one it is and how often it was emptied. -/
structure LabeledBuffer where
  id : Nat
  resets : Nat
  data : String
  deriving DecidableEq, Repr

def labeledBuffers : BufferKind LabeledBuffer where
  fresh n := ⟨n, 0, ""⟩
  reset b := { b with resets := b.resets + 1, data := "" }
  append b s := { b with data := b.data ++ s }
  record b := .fields "Labeled" [("id", .nat b.id), ("resets", .nat b.resets),
    ("data", .word (Text.quoted b.data))]

end FreshToken
