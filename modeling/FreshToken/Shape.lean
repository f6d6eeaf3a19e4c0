import FreshToken.Credentials
/-!
# Shapes of answers

Some types of answers, each with its reader.  The value that was read is given back as JSON, so that
all shapes have answers of one type.
-/

namespace FreshToken

inductive Shape where
  /-- An acknowledgement, which may name a message. -/
  | ack
  /-- An acknowledgement that names a message. -/
  | sendResult
  /-- A number that comes back. -/
  | echo
  /-- A list of numbers. -/
  | items
  /-- Users by name, and pairs. -/
  | nested
  | unit
  | text
  | byte
  | optional
  | credentials
  | any
  deriving DecidableEq, Repr

namespace Shape

open Json

def orNull (v : Option Value) : Value := v.getD .null

/-- The members of a record as they are read; a later one of the same name replaces an earlier. -/
abbrev Members := List (String × Value)

def kept (name : String) (absence : Reader.Absence) (r : Reader Value) : Reader.Field Members :=
  .of name absence r fun v m => setMember name v m

def number (r : Reader Int) : Reader Value := r.map .int

def userReader : Reader Value :=
  (Reader.record "User" []
    [kept "id" .refused (number .u64),
      kept "tags" .refused ((Reader.list .text).map fun ts => .list (ts.map .string))]).map .object

def pairReader : Reader Value :=
  (Reader.pair .i8 .bool).map fun (n, b) => .list [.int n, .bool b]

def reader : Shape → Reader Value
  | .ack =>
    (Reader.record "Ack" [("msgid", .null)]
      [kept "errcode" .refused (number .i64),
        kept "msgid" .unset ((Reader.nullable (number .u64)).map orNull)]).map .object
  | .sendResult =>
    (Reader.record "SendResult" []
      [kept "errcode" .refused (number .i64), kept "msgid" .refused (number .u64)]).map .object
  | .echo => (Reader.record "Echo" [] [kept "value" .refused (number .u32)]).map .object
  | .items =>
    (Reader.record "Items" []
      [kept "items" .refused ((Reader.list (number .u32)).map .list)]).map .object
  | .nested =>
    (Reader.record "Nested" [("pairs", .list [])]
      [kept "users" .refused ((Reader.dict userReader).map .object),
        kept "pairs" .filled ((Reader.list pairReader).map .list)]).map .object
  | .unit => Reader.unit.map fun _ => .null
  | .text => Reader.text.map .string
  | .byte => number .u8
  | .optional => (Reader.nullable (number .i64)).map orNull
  | .credentials => Credentials.reader.map Credentials.toJson
  | .any => .any

end Shape

end FreshToken
