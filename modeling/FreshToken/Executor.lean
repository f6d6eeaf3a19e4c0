import FreshToken.Error
import FreshToken.Json.Reader
import FreshToken.Payload
import FreshToken.Pool
import FreshToken.Url.Basic
/-!
# The executor

Requests over a transport.  The body of a post is written into a buffer of the pool, which is out
while the transport needs it and goes back however the request ends.  A request that is abandoned
ends without an outcome.
-/

namespace FreshToken

structure Request where
  /-- What is posted; nothing for a get. -/
  payload : Option Payload
  url : Url
  /-- How the body of an answer is read, whatever type is asked for; what is read is given back as
  JSON. -/
  reader : Json.Reader Json.Value

structure Flight where
  id : Nat
  /-- The buffer with the body, if there is one. -/
  buffer : Option (List UInt8)
  reader : Json.Reader Json.Value

/-- An executor with its pool and the requests under way. -/
@[ext] structure Executor where
  pool : Pool (List UInt8)
  flights : List Flight

namespace Executor

def start (capacity : Nat) : Executor := ⟨.empty capacity, []⟩

/-- The bytes that a buffer takes in the list of a pool, wherever its content is. -/
def bufferSize : Nat := 24

def make? (capacity : Nat) : Option Executor :=
  (Pool.make? bufferSize capacity).map fun pool => ⟨pool, []⟩

theorem make?_of_lt {capacity : Nat} (h : bufferSize * capacity < Pool.allocationBound) :
    make? capacity = some (start capacity) := by
  rw [make?, Pool.make?, if_pos h]
  rfl

theorem make?_of_le {capacity : Nat} (h : Pool.allocationBound ≤ bufferSize * capacity) :
    make? capacity = none := by
  rw [make?, Pool.make?, if_neg (Nat.not_lt_of_le h)]
  rfl

def record (e : Executor) : Text.Record :=
  .fields "RequestExecutor" [("pool", e.pool.record)]

def giveBack (e : Executor) (b : List UInt8) : Executor × List Note :=
  let (pool, entries) := e.pool.release byteBuffers b
  ({ e with pool := pool }, entries.map .logged)

/-- Begins a post: the body for the transport, or the fault of a payload without JSON form. -/
def beginPost (e : Executor) (id : Nat) (reader : Json.Reader Json.Value)
    (payload : Payload) :
    Executor × List Note × Except Error (List UInt8) :=
  let opening := [.logged (.span .postJson), .counted .request .attempt]
  let (buffer, pool) := e.pool.acquire byteBuffers
  let e := { e with pool := pool }
  let (written, fault?) := payload.encode
  let body := buffer ++ written
  match fault? with
  | none => ({ e with flights := e.flights ++ [⟨id, some body, reader⟩] }, opening, .ok body)
  | some f =>
    let (e, notes) := e.giveBack body
    (e, opening ++ notes ++ [.counted .request .failure], .error (.encoding f))

def beginGet (e : Executor) (id : Nat) (reader : Json.Reader Json.Value) :
    Executor × List Note :=
  ({ e with flights := e.flights ++ [⟨id, none, reader⟩] },
    [.logged (.span .getJson), .counted .request .attempt])

def land (e : Executor) (f : Flight) : Executor × List Note :=
  let e := { e with flights := e.flights.filter (·.id ≠ f.id) }
  match f.buffer with
  | some b => e.giveBack b
  | none => (e, [])

def readAnswer (reader : Json.Reader Json.Value) (answer : Except TransportFault Response) :
    Except Error Json.Value :=
  match answer with
  | .error f => .error (.transport f)
  | .ok r =>
    match r.accepted with
    | .error f => .error (.transport f)
    | .ok r => (reader.first r.body).mapError fun l => .decoding (.ofLocated r.status l)

theorem readAnswer_of_isSuccess (reader : Json.Reader Json.Value) {r : Response}
    (h : r.isSuccess = true) : readAnswer reader (.ok r) =
      (reader.first r.body).mapError fun l => .decoding (.ofLocated r.status l) := by
  simp only [readAnswer, Response.accepted, if_pos h]

def finish (e : Executor) (f : Flight) (answer : Except TransportFault Response) :
    Executor × List Note × Except Error Json.Value :=
  let result := readAnswer f.reader answer
  let (e, notes) := e.land f
  (e, notes ++ [.counted .request (.ofResult result)], result)

end Executor

end FreshToken
