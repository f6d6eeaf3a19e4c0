import FreshToken.Json.Document
/-!
# From bytes to documents

The first value of a byte string as a document, together with the bytes after it.  Once the bytes
are damaged nothing is left over.
-/

namespace FreshToken.Json

def isBlank (b : UInt8) : Bool := b = 0x20 || b = 0x09 || b = 0x0a || b = 0x0d

def skipBlanks (bs : List UInt8) : List UInt8 := bs.dropWhile isBlank

def isDigit (b : UInt8) : Bool := 0x30 ≤ b && b ≤ 0x39

def digitValue (b : UInt8) : Nat := b.toNat - 0x30

def scanDigits (bs : List UInt8) : List Nat × List UInt8 :=
  ((bs.takeWhile isDigit).map digitValue, bs.dropWhile isDigit)

abbrev Scanned (α : Type) := α × List UInt8

def scanWord (doc : Doc) : List UInt8 → List UInt8 → Scanned Doc
  | [], bs => (doc, bs)
  | _ :: _, [] => (.damaged .cutOff, [])
  | e :: es, b :: bs => if b = e then scanWord doc es bs else (.damaged .malformed, [])

/-! ## Strings -/

def shortEscape? (b : UInt8) : Option UInt8 :=
  if b = 0x22 then some 0x22        -- quote
  else if b = 0x5c then some 0x5c   -- backslash
  else if b = 0x2f then some 0x2f   -- slash
  else if b = 0x62 then some 0x08   -- b
  else if b = 0x66 then some 0x0c   -- f
  else if b = 0x6e then some 0x0a   -- n
  else if b = 0x72 then some 0x0d   -- r
  else if b = 0x74 then some 0x09   -- t
  else none

def hexValue? (b : UInt8) : Option Nat :=
  if 0x30 ≤ b && b ≤ 0x39 then some (b.toNat - 0x30)
  else if 0x41 ≤ b && b ≤ 0x46 then some (b.toNat - 0x37)
  else if 0x61 ≤ b && b ≤ 0x66 then some (b.toNat - 0x57)
  else none

def fourHex? (a b c d : UInt8) : Option Nat :=
  match hexValue? a, hexValue? b, hexValue? c, hexValue? d with
  | some w, some x, some y, some z => some (((w * 16 + x) * 16 + y) * 16 + z)
  | _, _, _, _ => none

def Quoted.cons (p : Piece) (s : Scanned Quoted) : Scanned Quoted :=
  (⟨p :: s.1.pieces, s.1.damage⟩, s.2)

def Quoted.stop (d : Damage) : Scanned Quoted := (⟨[], some d⟩, [])

/-- The rest of a string whose opening quote is read.  An escape with fewer than four bytes after
its `u` counts as cut off, whatever these bytes are. -/
def scanString : List UInt8 → Scanned Quoted
  | [] => Quoted.stop .cutOff
  | b :: bs =>
    if b = 0x22 then (⟨[], none⟩, bs)
    else if b = 0x5c then
      match bs with
      | [] => Quoted.stop .cutOff
      | e :: es =>
        if e = 0x75 then
          match es with
          | h₁ :: h₂ :: h₃ :: h₄ :: rest =>
            match fourHex? h₁ h₂ h₃ h₄ with
            | some u => Quoted.cons (.unit u) (scanString rest)
            | none => Quoted.stop .malformed
          | _ => Quoted.stop .cutOff
        else
          match shortEscape? e with
          | some c => Quoted.cons (.byte c) (scanString es)
          | none => Quoted.stop .malformed
    else if b < 0x20 then Quoted.stop .malformed
    else Quoted.cons (.byte b) (scanString bs)

/-! ## Numbers -/

def scanExponent (negative : Bool) (whole fraction : List Nat) (bs : List UInt8) : Scanned Doc :=
  let (minus, bs) := match bs with
    | 0x2b :: rest => (false, rest)
    | 0x2d :: rest => (true, rest)
    | _ => (false, bs)
  match scanDigits bs with
  | ([], []) => (.cutNumber, [])
  | ([], _ :: _) => (.damaged .malformed, [])
  | (digits, rest) => (.number ⟨negative, whole, fraction, some (minus, digits)⟩, rest)

def scanAfterFraction (negative : Bool) (whole fraction : List Nat) :
    List UInt8 → Scanned Doc
  | [] => (.number ⟨negative, whole, fraction, none⟩, [])
  | b :: bs =>
    if b = 0x65 || b = 0x45 then scanExponent negative whole fraction bs
    else (.number ⟨negative, whole, fraction, none⟩, b :: bs)

def scanAfterWhole (negative : Bool) (whole : List Nat) : List UInt8 → Scanned Doc
  | 0x2e :: bs =>
    match scanDigits bs with
    | ([], []) => (.cutNumber, [])
    | ([], _ :: _) => (.damaged .malformed, [])
    | (digits, rest) => scanAfterFraction negative whole digits rest
  | bs => scanAfterFraction negative whole [] bs

/-- A number whose sign is read.  A leading zero stands alone. -/
def scanNumber (negative : Bool) (bs : List UInt8) : Scanned Doc :=
  match scanDigits bs with
  | ([], []) => (.cutNumber, [])
  | ([], _ :: _) => (.damaged .malformed, [])
  | (0 :: _ :: _, _) => (.damaged .malformed, [])
  | (digits, rest) => scanAfterWhole negative digits rest

/-! ## Values -/

mutual

/-- The first value; each step into it or along it takes one unit of `fuel`. -/
def scanValue : (fuel : Nat) → List UInt8 → Scanned Doc
  | 0, _ => (.damaged .cutOff, [])
  | fuel + 1, bs =>
    match skipBlanks bs with
    | [] => (.damaged .cutOff, [])
    | b :: rest =>
      if b = 0x6e then scanWord .null [0x75, 0x6c, 0x6c] rest
      else if b = 0x74 then scanWord (.bool true) [0x72, 0x75, 0x65] rest
      else if b = 0x66 then scanWord (.bool false) [0x61, 0x6c, 0x73, 0x65] rest
      else if b = 0x22 then
        let (q, rest) := scanString rest
        (.string q, rest)
      else if b = 0x5b then
        let (items, rest) := scanFirstItem fuel rest
        (.list items, rest)
      else if b = 0x7b then
        let (members, rest) := scanFirstMember fuel rest
        (.object members, rest)
      else if b = 0x2d then scanNumber true rest
      else if isDigit b then scanNumber false (b :: rest)
      else (.damaged .malformed, [])

def scanFirstItem : (fuel : Nat) → List UInt8 → Scanned Items
  | 0, _ => (.broken false .cutOff, [])
  | fuel + 1, bs =>
    match skipBlanks bs with
    | [] => (.broken false .cutOff, [])
    | b :: rest =>
      if b = 0x5d then (.closed, rest)
      else
        let (first, rest) := scanValue fuel (b :: rest)
        let (others, rest) := scanMoreItems fuel rest
        (.item first others, rest)

def scanMoreItems : (fuel : Nat) → List UInt8 → Scanned Items
  | 0, _ => (.broken false .cutOff, [])
  | fuel + 1, bs =>
    match skipBlanks bs with
    | [] => (.broken false .cutOff, [])
    | b :: rest =>
      if b = 0x5d then (.closed, rest)
      else if b = 0x2c then
        match skipBlanks rest with
        | [] => (.broken true .cutOff, [])
        | c :: rest =>
          if c = 0x5d then (.broken true .malformed, [])
          else
            let (first, rest) := scanValue fuel (c :: rest)
            let (others, rest) := scanMoreItems fuel rest
            (.item first others, rest)
      else (.broken false .malformed, [])

def scanFirstMember : (fuel : Nat) → List UInt8 → Scanned Members
  | 0, _ => (.broken .cutOff, [])
  | fuel + 1, bs =>
    match skipBlanks bs with
    | [] => (.broken .cutOff, [])
    | b :: rest =>
      if b = 0x7d then (.closed, rest)
      else if b = 0x22 then scanMember fuel rest
      else (.broken .malformed, [])

def scanMoreMembers : (fuel : Nat) → List UInt8 → Scanned Members
  | 0, _ => (.broken .cutOff, [])
  | fuel + 1, bs =>
    match skipBlanks bs with
    | [] => (.broken .cutOff, [])
    | b :: rest =>
      if b = 0x7d then (.closed, rest)
      else if b = 0x2c then
        match skipBlanks rest with
        | [] => (.broken .cutOff, [])
        | c :: rest => if c = 0x22 then scanMember fuel rest else (.broken .malformed, [])
      else (.broken .malformed, [])

def scanMember : (fuel : Nat) → List UInt8 → Scanned Members
  | 0, _ => (.broken .cutOff, [])
  | fuel + 1, bs =>
    let (key, rest) := scanString bs
    match skipBlanks rest with
    | [] => (.noColon key .cutOff, [])
    | b :: rest =>
      if b = 0x3a then
        let (value, rest) := scanValue fuel rest
        let (others, rest) := scanMoreMembers fuel rest
        (.member key value others, rest)
      else (.noColon key .malformed, [])

end

/-- The first value of `bs` and the bytes after it.  Every call reads a byte or stands just before
one that the next call reads, so twice the number of bytes is fuel enough. -/
def scan (bs : List UInt8) : Scanned Doc := scanValue (2 * bs.length + 2) bs

end FreshToken.Json
