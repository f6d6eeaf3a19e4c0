import FreshToken.Json.Document
import FreshToken.Json.Writer
import FreshToken.Text.Quoted
/-!
# Why a document is refused

A document is refused because its bytes make no sense, or because it says something other than
what was asked for.  A path tells where reading stood.
-/

namespace FreshToken.Json

inductive Found where
  | null
  | bool (b : Bool)
  | int (n : Int)
  | float (x : Float)
  | string (s : String)
  | list
  | object

inductive Mismatch where
  /-- A value of another kind. -/
  | kind (found : Found) (expected : String)
  /-- A number out of range. -/
  | range (found : Found) (expected : String)
  /-- A list with too few items. -/
  | length (found : Nat) (expected : String)
  /-- A record without one of its fields. -/
  | missing (field : String)
  /-- A record with a field that stands twice. -/
  | duplicate (field : String)
  /-- A value of the right kind that is refused for the reason given. -/
  | refused (reason : String)

inductive Fault where
  | damage (d : Damage)
  | mismatch (m : Mismatch)

def Found.text : Found → String
  | .null => "null"
  | .bool b => "boolean `" ++ (if b then "true" else "false") ++ "`"
  | .int n => "integer `" ++ toString n ++ "`"
  | .float x => "floating point `" ++ floatLayout.text x ++ "`"
  | .string s => "string " ++ Text.quoted s
  | .list => "sequence"
  | .object => "map"

def Mismatch.message : Mismatch → String
  | .kind found expected => "invalid type: " ++ found.text ++ ", expected " ++ expected
  | .range found expected => "invalid value: " ++ found.text ++ ", expected " ++ expected
  | .length n expected => "invalid length " ++ toString n ++ ", expected " ++ expected
  | .missing field => "missing field `" ++ field ++ "`"
  | .duplicate field => "duplicate field `" ++ field ++ "`"
  | .refused reason => reason

def Fault.text : Fault → String
  | .damage .cutOff => "json:eof"
  | .damage .malformed => "json:syntax"
  | .mismatch m => "json:data:" ++ m.message

inductive Step where
  | key (name : String)
  | index (i : Nat)
  /-- Somewhere before the next key of an object is read. -/
  | unread
  deriving DecidableEq, Repr

/-- The steps after the first one: keys are set off by a point. -/
def pathRest : List Step → String
  | [] => ""
  | .key name :: rest => "." ++ name ++ pathRest rest
  | .index i :: rest => "[" ++ toString i ++ "]" ++ pathRest rest
  | .unread :: rest => ".?" ++ pathRest rest

/-- The text of a path from the root; the root itself is a point. -/
def pathText : List Step → String
  | [] => "."
  | .key name :: rest => name ++ pathRest rest
  | .index i :: rest => "[" ++ toString i ++ "]" ++ pathRest rest
  | .unread :: rest => "?" ++ pathRest rest

structure Located where
  path : List Step
  fault : Fault

namespace Located

def here (f : Fault) : Located := ⟨[], f⟩

def under (s : Step) (l : Located) : Located := ⟨s :: l.path, l.fault⟩

def damage (d : Damage) : Located := here (.damage d)

def mismatch (m : Mismatch) : Located := here (.mismatch m)

end Located

end FreshToken.Json
