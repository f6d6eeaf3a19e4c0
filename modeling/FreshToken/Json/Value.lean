/-!
# JSON values

The values that documents denote.  The members of an object are a list; a value that was read has
them in ascending order of their keys, each key once.
-/

namespace FreshToken.Json

inductive Value where
  | null
  | bool (b : Bool)
  | int (n : Int)
  | float (x : Float)
  | string (s : String)
  | list (items : List Value)
  | object (members : List (String × Value))
  deriving Inhabited

/-- The integers that are kept exactly: those of 64 bits, with or without sign. -/
def isExact (n : Int) : Bool := -9223372036854775808 ≤ n && n ≤ 18446744073709551615

/-- Members with `key` set to `value`; the order of the keys is kept ascending. -/
def setMember {α : Type} (key : String) (value : α) : List (String × α) → List (String × α)
  | [] => [(key, value)]
  | (k, v) :: rest =>
    if key < k then (key, value) :: (k, v) :: rest
    else if key = k then (key, value) :: rest
    else (k, v) :: setMember key value rest

/-- Members in ascending order of their keys; of members with one key the last one stays. -/
def sortMembers {α : Type} (members : List (String × α)) : List (String × α) :=
  members.foldl (fun sorted m => setMember m.1 m.2 sorted) []

def lookup? {α : Type} (key : String) : List (String × α) → Option α
  | [] => none
  | (k, v) :: rest => if k = key then some v else lookup? key rest

@[simp] theorem lookup?_setMember_self {α : Type} (key : String) (value : α)
    (members : List (String × α)) : lookup? key (setMember key value members) = some value := by
  induction members with
  | nil => simp [setMember, lookup?]
  | cons m rest ih =>
    obtain ⟨k, v⟩ := m
    unfold setMember
    split
    · simp [lookup?]
    · split
      · simp [lookup?]
      · rename_i h
        simp [lookup?, ih, Ne.symm h]

namespace Value

def member? (key : String) : Value → Option Value
  | .object members => lookup? key members
  | _ => none

end Value

end FreshToken.Json
