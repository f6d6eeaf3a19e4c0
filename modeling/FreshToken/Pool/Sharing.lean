import FreshToken.Machine
import FreshToken.Pool
/-!
# Sharing a pool

Any number of borrowers use one pool at the same time.  Only the list of idle buffers is locked, and
only while one buffer is taken or put back: emptying a buffer, building one and counting are steps
of their own, and others may come between them.  A guard gives its buffer back when its scope ends,
by a return or by unwinding; a buffer without a guard is given back by hand or dropped.
-/

namespace FreshToken

/-- A buffer that can be told from all others, whatever is in it. -/
structure Tagged (α : Type) where
  id : Nat
  content : α

namespace SharedPool

inductive Loan where
  | plain
  | lease
  deriving DecidableEq

inductive Borrower (α : Type) where
  | asking (loan : Loan)
  /-- It took what was idle, and has yet to count that. -/
  | found (loan : Loan) (buffer? : Option (Tagged α))
  /-- Nothing was idle, which is counted, and a buffer has yet to be built. -/
  | building (loan : Loan)
  | owner (b : Tagged α)
  /-- A live guard with what it holds. -/
  | guard (buffer? : Option (Tagged α))
  /-- It gives the buffer back, and has yet to empty it. -/
  | returning (b : Tagged α)
  | emptied (b : Tagged α)
  /-- The list was full, which has yet to be counted. -/
  | refused (b : Tagged α)
  | gone

def Borrower.buffer? {α : Type} : Borrower α → Option (Tagged α)
  | .found _ buffer? | .guard buffer? => buffer?
  | .owner b | .returning b | .emptied b | .refused b => some b
  | .asking _ | .building _ | .gone => none

def Loan.borrower {α : Type} (b : Tagged α) : Loan → Borrower α
  | .plain => .owner b
  | .lease => .guard (some b)

end SharedPool

/-- A pool with its borrowers, who are numbered in the order in which they came. -/
structure SharedPool (α : Type) where
  pool : Pool (Tagged α)
  borrowers : List (SharedPool.Borrower α)
  /-- How often the factory was called. -/
  built : Nat
  /-- How many buffers there have been. -/
  issued : Nat
  /-- The buffers that are no more. -/
  discarded : List (Tagged α)

namespace SharedPool

variable {α : Type}

def start (capacity : Nat) : SharedPool α := ⟨.empty capacity, [], 0, 0, []⟩

inductive Move (α : Type) where
  | ask (loan : Loan)
  /-- A borrower goes on with what it began. -/
  | step (borrower : Nat)
  | read (borrower : Nat)
  | write (borrower : Nat) (content : α)
  /-- A buffer without a guard is given back. -/
  | release (borrower : Nat)
  /-- The scope of a guard or a buffer ends. -/
  | leave (borrower : Nat)
  | detach (borrower : Nat)
  /-- A buffer from elsewhere is given to the pool. -/
  | handIn (content : α)

/-- The borrower that a move makes use of, when it does more than go on. -/
def Move.target? : Move α → Option Nat
  | .read i | .write i _ | .release i | .leave i | .detach i => some i
  | .ask _ | .step _ | .handIn _ => none

inductive Signal (α : Type) where
  | asked (borrower : Nat) (loan : Loan)
  /-- The idle list was looked at, and the buffer taken, if there was one. -/
  | looked (borrower : Nat) (buffer? : Option (Tagged α))
  /-- The factory made a buffer. -/
  | built (borrower : Nat) (b : Tagged α)
  | handed (borrower : Nat) (loan : Loan) (b : Tagged α)
  | read (borrower : Nat) (b : Tagged α)
  | wrote (borrower : Nat) (b : Tagged α)
  | released (borrower : Nat) (b : Tagged α)
  /-- A buffer without a guard went out of scope. -/
  | lost (borrower : Nat) (b : Tagged α)
  /-- A guard went out of scope. -/
  | dropped (borrower : Nat)
  | detached (borrower : Nat) (b : Tagged α)
  | handedIn (borrower : Nat) (b : Tagged α)
  /-- The buffer was put back in the idle list. -/
  | kept (borrower : Nat) (b : Tagged α)
  /-- There was no room in the idle list. -/
  | refused (borrower : Nat) (b : Tagged α)
  | logged (e : Entry)
  /-- A guard without a buffer was used. -/
  | broken (borrower : Nat)
  /-- A guard without a buffer was detached, and the factory made one for it. -/
  | improvised (borrower : Nat)

def setBorrower (s : SharedPool α) (i : Nat) (x : Borrower α) : SharedPool α :=
  { s with borrowers := s.borrowers.set i x }

def nextBuilt (k : BufferKind α) (s : SharedPool α) : Tagged α := ⟨s.issued, k.fresh (s.built + 1)⟩

def countBuilt (s : SharedPool α) : SharedPool α :=
  { s with built := s.built + 1, issued := s.issued + 1 }

def step? (k : BufferKind α) (s : SharedPool α) (i : Nat) :
    Option (SharedPool α × List (Signal α)) :=
  match s.borrowers[i]? with
  | some (.asking loan) =>
    let (buffer?, pool) := s.pool.pop
    some ({ s with pool := pool }.setBorrower i (.found loan buffer?), [.looked i buffer?])
  | some (.found loan (some b)) =>
    some ({ s with pool := s.pool.countReused }.setBorrower i (loan.borrower b),
      [.handed i loan b])
  | some (.found loan none) =>
    some ({ s with pool := s.pool.countCreated }.setBorrower i (.building loan), [])
  | some (.building loan) =>
    let b := s.nextBuilt k
    some (s.countBuilt.setBorrower i (loan.borrower b), [.built i b, .handed i loan b])
  | some (.returning b) =>
    some (s.setBorrower i (.emptied { b with content := k.reset b.content }), [])
  | some (.emptied b) =>
    match s.pool.push b with
    | (true, pool) => some ({ s with pool := pool }.setBorrower i .gone, [.kept i b])
    | (false, _) => some (s.setBorrower i (.refused b), [.refused i b])
  | some (.refused b) =>
    some ({ s with pool := s.pool.countDiscarded, discarded := b :: s.discarded }.setBorrower i
      .gone, [.logged (.overflow s.pool.capacity)])
  | _ => none

def move? (k : BufferKind α) (s : SharedPool α) :
    Move α → Option (SharedPool α × List (Signal α))
  | .ask loan =>
    some ({ s with borrowers := s.borrowers ++ [.asking loan] }, [.asked s.borrowers.length loan])
  | .step i => s.step? k i
  | .read i =>
    match s.borrowers[i]? with
    | some (.owner b) | some (.guard (some b)) => some (s, [.read i b])
    | some (.guard none) => some (s, [.broken i])
    | _ => none
  | .write i content =>
    match s.borrowers[i]? with
    | some (.owner b) =>
      let b := { b with content := content }
      some (s.setBorrower i (.owner b), [.wrote i b])
    | some (.guard (some b)) =>
      let b := { b with content := content }
      some (s.setBorrower i (.guard (some b)), [.wrote i b])
    | some (.guard none) => some (s, [.broken i])
    | _ => none
  | .release i =>
    match s.borrowers[i]? with
    | some (.owner b) => some (s.setBorrower i (.returning b), [.released i b])
    | _ => none
  | .leave i =>
    match s.borrowers[i]? with
    | some (.owner b) =>
      some ({ s with discarded := b :: s.discarded }.setBorrower i .gone, [.lost i b])
    | some (.guard (some b)) => some (s.setBorrower i (.returning b), [.dropped i])
    | some (.guard none) => some (s.setBorrower i .gone, [.dropped i])
    | _ => none
  | .detach i =>
    match s.borrowers[i]? with
    | some (.guard (some b)) => some (s.setBorrower i (.owner b), [.detached i b])
    | some (.guard none) =>
      let b := s.nextBuilt k
      some (s.countBuilt.setBorrower i (.owner b), [.improvised i, .built i b, .detached i b])
    | _ => none
  | .handIn content =>
    let b : Tagged α := ⟨s.issued, content⟩
    some ({ s with borrowers := s.borrowers ++ [.returning b], issued := s.issued + 1 },
      [.handedIn s.borrowers.length b])

end SharedPool

end FreshToken
