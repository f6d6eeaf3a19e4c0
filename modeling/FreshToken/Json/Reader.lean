import FreshToken.Json.Fault
import FreshToken.Json.Numeral
import FreshToken.Json.Quoted
import FreshToken.Json.Scanner
/-!
# Reading typed values

A reader turns a document into a value of its type or says what is wrong where.  Readers of lists,
maps, pairs and records are made from the readers of their parts.  A reader has `room` for so many
nested containers, and walks the document in reading order, so the first fault is the one reported.
-/

namespace FreshToken.Json

abbrev Reader (α : Type) := (room : Nat) → Doc → Except Located α

/-- The nesting at which a container is refused. -/
def nestingLimit : Nat := 128

/-- The integers or floats that numerals denote; a number beyond every float is malformed. -/
def readNumeral (n : Numeral) : Except Located Value :=
  match n.value? with
  | some v => .ok v
  | none => .error (.damage .malformed)

def readQuoted (q : Quoted) : Except Located String := q.text.mapError Located.damage

def inside {α : Type} (s : Step) (r : Except Located α) : Except Located α :=
  r.mapError (Located.under s)

def Doc.found : Doc → Except Located Found
  | .null => .ok .null
  | .bool b => .ok (.bool b)
  | .number n => do
    match ← readNumeral n with
    | .int i => return .int i
    | .float x => return .float x
    | _ => return .null
  | .string q => do return .string (← readQuoted q)
  | .list _ => .ok .list
  | .object _ => .ok .object
  | .cutNumber => .error (.damage .cutOff)
  | .damaged d => .error (.damage d)

def unexpected {α : Type} (expected : String) (doc : Doc) : Except Located α := do
  throw (.mismatch (.kind (← doc.found) expected))

def enter (room : Nat) : Except Located Nat :=
  if room ≤ 1 then .error (.damage .malformed) else .ok (room - 1)

/-! ## Any value -/

mutual

def readAny (room : Nat) : Doc → Except Located Value
  | .null => .ok .null
  | .bool b => .ok (.bool b)
  | .number n => readNumeral n
  | .string q => do return .string (← readQuoted q)
  | .list items => do
    let room ← enter room
    return .list (← readAnyItems room 0 items)
  | .object members => do
    let room ← enter room
    return .object (sortMembers (← readAnyMembers room members))
  | .cutNumber => .error (.damage .cutOff)
  | .damaged d => .error (.damage d)

def readAnyItems (room i : Nat) : Items → Except Located (List Value)
  | .closed => .ok []
  | .item first rest => do
    let value ← inside (.index i) (readAny room first)
    return value :: (← readAnyItems room (i + 1) rest)
  | .broken _ d => .error (.damage d)

def readAnyMembers (room : Nat) : Members → Except Located (List (String × Value))
  | .closed => .ok []
  | .member key value rest => do
    let name ← inside .unread (readQuoted key)
    let value ← inside (.key name) (readAny room value)
    return (name, value) :: (← readAnyMembers room rest)
  | .broken d => .error ((Located.damage d).under .unread)
  | .noColon key d => do
    let _ ← inside .unread (readQuoted key)
    .error (.damage d)

end

namespace Reader

def any : Reader Value := readAny

def checked {α β : Type} (r : Reader α) (check : α → Except String β) : Reader β :=
  fun room doc => do
    let a ← r room doc
    (check a).mapError fun reason => .mismatch (.refused reason)

def map {α β : Type} (f : α → β) (r : Reader α) : Reader β :=
  fun room doc => (r room doc).map f

/-! ## Scalars -/

def unit : Reader Unit := fun _ doc =>
  match doc with
  | .null => .ok ()
  | doc => unexpected "unit" doc

def bool : Reader Bool := fun _ doc =>
  match doc with
  | .bool b => .ok b
  | doc => unexpected "a boolean" doc

def text : Reader String := fun _ doc =>
  match doc with
  | .string q => readQuoted q
  | doc => unexpected "a string" doc

def int (low high : Int) (name : String) : Reader Int := fun _ doc =>
  match doc with
  | .number n => do
    match ← readNumeral n with
    | .int i =>
      if low ≤ i ∧ i ≤ high then return i
      else throw (.mismatch (.range (.int i) name))
    | _ => unexpected name doc
  | doc => unexpected name doc

def i8 : Reader Int := int (-128) 127 "i8"

def u8 : Reader Int := int 0 255 "u8"

def u32 : Reader Int := int 0 4294967295 "u32"

def i64 : Reader Int := int (-9223372036854775808) 9223372036854775807 "i64"

def u64 : Reader Int := int 0 18446744073709551615 "u64"

def nullable {α : Type} (r : Reader α) : Reader (Option α) := fun room doc =>
  match doc with
  | .null => .ok none
  | doc => (r room doc).map some

/-! ## Containers -/

def items {α : Type} (r : Reader α) (room i : Nat) : Items → Except Located (List α)
  | .closed => .ok []
  | .item first rest => do
    let value ← inside (.index i) (r room first)
    return value :: (← items r room (i + 1) rest)
  | .broken _ d => .error (.damage d)

def list {α : Type} (r : Reader α) : Reader (List α) := fun room doc =>
  match doc with
  | .list these => do
    let room ← enter room
    items r room 0 these
  | doc => unexpected "a sequence" doc

def members {α : Type} (r : Reader α) (room : Nat) :
    Members → Except Located (List (String × α))
  | .closed => .ok []
  | .member key value rest => do
    let name ← inside .unread (readQuoted key)
    let value ← inside (.key name) (r room value)
    return (name, value) :: (← members r room rest)
  | .broken d => .error ((Located.damage d).under .unread)
  | .noColon key d => do
    let _ ← inside .unread (readQuoted key)
    .error (.damage d)

/-- An object whose members have values of one type, in ascending order of their keys. -/
def dict {α : Type} (r : Reader α) : Reader (List (String × α)) := fun room doc =>
  match doc with
  | .object these => do
    let room ← enter room
    return sortMembers (← members r room these)
  | doc => unexpected "a map" doc

def endOfItems : Items → Except Located Unit
  | .closed => .ok ()
  | .broken false d => .error (.damage d)
  | _ => .error (.damage .malformed)

def pair {α β : Type} (r : Reader α) (s : Reader β) : Reader (α × β) := fun room doc =>
  let expected := "a tuple of size 2"
  match doc with
  | .list these => do
    let room ← enter room
    match these with
    | .closed => throw (.mismatch (.length 0 expected))
    | .broken _ d => throw (.damage d)
    | .item first rest =>
      let a ← inside (.index 0) (r room first)
      match rest with
      | .closed => throw (.mismatch (.length 1 expected))
      | .broken _ d => throw (.damage d)
      | .item second rest =>
        let b ← inside (.index 1) (s room second)
        endOfItems rest
        return (a, b)
  | doc => unexpected expected doc

/-! ## Records -/

inductive Absence where
  /-- The record is refused. -/
  | refused
  /-- The field is left unset, but only where fields go by name. -/
  | unset
  /-- The field keeps the value it starts with. -/
  | filled
  deriving DecidableEq, Repr

structure Field (σ : Type) where
  name : String
  absence : Absence
  /-- How the field's value changes what is read so far. -/
  read : Reader (σ → σ)

def Field.of {σ α : Type} (name : String) (absence : Absence) (r : Reader α) (put : α → σ → σ) :
    Field σ := ⟨name, absence, r.map put⟩

def firstMissing? {σ : Type} (fields : List (Field σ)) (seen : List String) : Option String :=
  (fields.find? fun f => f.absence = .refused && !seen.contains f.name).map Field.name

/-- The record when its fields go by name; unknown fields are skipped. -/
def byName {σ : Type} (fields : List (Field σ)) (room : Nat) (seen : List String) (acc : σ) :
    Members → Except Located σ
  | .closed =>
    match firstMissing? fields seen with
    | some name => .error (.mismatch (.missing name))
    | none => .ok acc
  | .member key value rest => do
    let name ← inside .unread (readQuoted key)
    match fields.find? (·.name = name) with
    | none =>
      match value.damage? with
      | some d => .error ((Located.damage d).under (.key name))
      | none => byName fields room seen acc rest
    | some f =>
      if seen.contains name then .error (.mismatch (.duplicate name))
      else
        let put ← inside (.key name) (f.read room value)
        byName fields room (name :: seen) (put acc) rest
  | .broken d => .error ((Located.damage d).under .unread)
  | .noColon key d => do
    let name ← inside .unread (readQuoted key)
    if seen.contains name then .error (.mismatch (.duplicate name))
    else .error (.damage d)

/-- The record when its fields stand in their order, of which `i` are read. -/
def byPosition {σ : Type} (expected : String) (room i : Nat) :
    List (Field σ) → σ → Items → Except Located σ
  | [], acc, rest => do
    endOfItems rest
    return acc
  | f :: fields, acc, .item first rest => do
    let put ← inside (.index i) (f.read room first)
    byPosition expected room (i + 1) fields (put acc) rest
  | _ :: _, _, .broken _ d => .error (.damage d)
  | f :: fields, acc, .closed =>
    if f.absence = .filled then byPosition expected room (i + 1) fields acc .closed
    else .error (.mismatch (.length i expected))

def record {σ : Type} (name : String) (blank : σ) (fields : List (Field σ)) : Reader σ :=
  fun room doc =>
    match doc with
    | .object these => do
      let room ← enter room
      byName fields room [] blank these
    | .list these => do
      let room ← enter room
      let count := fields.length
      let elements := if count = 1 then " element" else " elements"
      byPosition ("struct " ++ name ++ " with " ++ toString count ++ elements) room 0 fields blank
        these
    | doc => unexpected ("struct " ++ name) doc

/-! ## From bytes -/

/-- The first value of the bytes, whatever follows it. -/
def first {α : Type} (r : Reader α) (bs : List UInt8) : Except Located α :=
  r nestingLimit (scan bs).1

/-- The only value of the bytes; nothing but blanks may follow it. -/
def whole {α : Type} (r : Reader α) (bs : List UInt8) : Except Located α := do
  let (doc, rest) := scan bs
  let a ← r nestingLimit doc
  if (skipBlanks rest).isEmpty then return a else throw (.damage .malformed)

end Reader

end FreshToken.Json
