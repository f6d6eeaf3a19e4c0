import FreshToken.Url.Address
import FreshToken.Url.Basic
import FreshToken.Url.Domain
/-!
# Reading addresses

An address is cut at its marks from the left: scheme, authority, path, query and fragment.  Some
schemes are special: their addresses have a host, a backslash counts as a slash, and hosts are
domains or numeric.  Spaces and controls around an address, and tabs and line ends anywhere in it,
do not count.
-/

namespace FreshToken.Url

inductive SchemeKind where
  /-- Schemes of the web, with the port that need not be written. -/
  | special (port : Nat)
  | file
  | other
  deriving DecidableEq, Repr

def schemeKind (scheme : String) : SchemeKind :=
  if scheme = "http" ∨ scheme = "ws" then .special 80
  else if scheme = "https" ∨ scheme = "wss" then .special 443
  else if scheme = "ftp" then .special 21
  else if scheme = "file" then .file
  else .other

/-- Whether a backslash counts as a slash, and hosts are domains. -/
def SchemeKind.isSpecial : SchemeKind → Bool
  | .other => false
  | _ => true

def SchemeKind.usualPort? : SchemeKind → Option Nat
  | .special p => some p
  | _ => none

def SchemeKind.isSlash (k : SchemeKind) (c : Char) : Bool :=
  c = '/' || (k.isSpecial && c = '\\')

def isMargin (c : Char) : Bool := c.toNat ≤ 0x20

/-- A text without spaces and controls around it, and without tabs and line ends. -/
def trimmed (s : String) : List Char :=
  (((s.toList.dropWhile isMargin).reverse.dropWhile isMargin).reverse).filter fun c =>
    !(['\t', '\n', '\r'].contains c)

def isLetter (c : Char) : Bool := ('a' ≤ c && c ≤ 'z') || ('A' ≤ c && c ≤ 'Z')

def isSchemeChar (c : Char) : Bool := isLetter c || c.isDigit || ['+', '-', '.'].contains c

def splitScheme? (cs : List Char) : Option (String × List Char) :=
  let name := cs.takeWhile isSchemeChar
  match name, cs.drop name.length with
  | first :: _, ':' :: rest =>
    if isLetter first then some (String.ofList (name.map foldCase), rest) else none
  | _, _ => none

/-! ## Authority -/

def spanAuthority (k : SchemeKind) (cs : List Char) : List Char × List Char :=
  cs.span fun c => !(k.isSlash c || c = '?' || c = '#')

/-- What stands before the last at sign, if there is one, and what follows it. -/
def splitUser (cs : List Char) : Option (List Char) × List Char :=
  if cs.contains '@' then
    let host := (cs.reverse.takeWhile (· ≠ '@')).reverse
    (some (cs.take (cs.length - host.length - 1)), host)
  else (none, cs)

def userText (cs : List Char) : List Char :=
  let name := percentEncode keepsInUser (cs.takeWhile (· ≠ ':'))
  let password := percentEncode keepsInUser ((cs.dropWhile (· ≠ ':')).drop 1)
  if name.isEmpty ∧ password.isEmpty then []
  else name ++ (if password.isEmpty then [] else ':' :: password) ++ ['@']

/-- The host in front, up to a colon that no bracket encloses, and what follows it. -/
def splitHost (inside : Bool) : List Char → List Char × List Char
  | [] => ([], [])
  | c :: rest =>
    if c = ':' ∧ !inside then ([], c :: rest)
    else
      let (host, port) := splitHost (if c = '[' then true else if c = ']' then false else inside) rest
      (c :: host, port)

/-- What no host of a scheme that is not special may have. -/
def isForbiddenInHost (c : Char) : Bool :=
  ['\x00', '\t', '\n', '\r', ' ', '#', '/', ':', '<', '>', '?', '@', '[', '\\', ']', '^', '|'].contains c

def bracketHost (cs : List Char) : Except Fault String :=
  match cs.getLast?, readAddress6? cs.dropLast with
  | some ']', some groups => .ok ("[" ++ address6Text groups ++ "]")
  | _, _ => .error .address6

def domainHost (cs : List Char) : Except Fault String :=
  match domain? (percentDecode cs) with
  | none => .error .domain
  | some [] => .error .emptyHost
  | some domain =>
    if endsInNumber domain then
      match readAddress4? domain with
      | some a => .ok (address4Text a)
      | none => .error .address4
    else .ok (String.ofList domain)

def hostText (k : SchemeKind) : List Char → Except Fault String
  | '[' :: cs => bracketHost cs
  | cs =>
    if k.isSpecial then domainHost cs
    else if cs.any isForbiddenInHost then .error .hostCharacter
    else .ok (String.ofList (percentEncode (fun c => isGraphicOrSpace c) cs))

/-- The port after the colon, unless it is the usual one. -/
def portOf (k : SchemeKind) (cs : List Char) : Except Fault (Option Nat) :=
  let digits := cs.takeWhile Char.isDigit
  let port := digits.foldl (fun n c => n * 10 + (c.toNat - 0x30)) 0
  if 65535 < port then .error .port
  else if digits.length < cs.length then .error .port
  else .ok (if digits.isEmpty ∨ some port = k.usualPort? then none else some port)

def authorityOf (k : SchemeKind) (cs : List Char) (more : Bool) : Except Fault Authority := do
  let (user, rest) := splitUser cs
  if user = some [] ∧ rest.isEmpty ∧ more then throw .emptyHost
  let (host, port) := splitHost false rest
  if host.isEmpty ∧ k.isSpecial then throw .emptyHost
  let host ← hostText k host
  let user := userText (user.getD [])
  if host.isEmpty ∧ (!port.isEmpty ∨ !user.isEmpty) then throw .emptyHost
  return ⟨String.ofList user, host, ← portOf k (port.drop 1)⟩

/-! ## Path -/

/-- A segment that stands for the one it is in. -/
def isHere (segment : List Char) : Bool :=
  ["." , "%2e", "%2E"].contains (String.ofList segment)

def isAbove (segment : List Char) : Bool :=
  ["..", ".%2e", ".%2E", "%2e.", "%2E.", "%2e%2e", "%2e%2E", "%2E%2e", "%2E%2E"].contains
    (String.ofList segment)

def driveLetter? : List Char → Option Char
  | [c, mark] => if isLetter c ∧ (mark = ':' ∨ mark = '|') then some c else none
  | _ => none

def dropSegment (k : SchemeKind) : List (List Char) → List (List Char)
  | [] => []
  | [segment] => if k = .file ∧ (driveLetter? segment).isSome then [segment] else []
  | _ :: above => above

/-- Written segments in reverse order, when the ones given are gone through. -/
def walkSegments (k : SchemeKind) (above : List (List Char)) :
    List (List Char) → List (List Char)
  | [] => above
  | segment :: rest =>
    if isAbove segment then
      let above := dropSegment k above
      walkSegments k (if rest.isEmpty then [] :: above else above) rest
    else if isHere segment then walkSegments k (if rest.isEmpty then [] :: above else above) rest
    else
      match k, above, driveLetter? segment with
      | .file, [], some c => walkSegments k [[c, ':']] rest
      | _, _, _ => walkSegments k (percentEncode keepsInPath segment :: above) rest

/-- The segments of a path.  A special address has at least one, and the path of a file does not
begin with empty ones. -/
def segmentsOf (k : SchemeKind) (cs : List Char) : List (List Char) :=
  let inner := match cs with
    | c :: rest => if k.isSlash c then rest else cs
    | [] => []
  if cs.isEmpty ∧ !k.isSpecial then []
  else if k = .file then
    match (walkSegments k [] ((Text.pieces k.isSlash inner).dropWhile List.isEmpty)).reverse.dropWhile
        List.isEmpty with
    | [] => [[]]
    | segments => segments
  else (walkSegments k [] (Text.pieces k.isSlash inner)).reverse

def pathOf (k : SchemeKind) (cs : List Char) : Path :=
  .segments ((segmentsOf k cs).map String.ofList)

/-! ## The whole -/

def spanPath (cs : List Char) : List Char × List Char := cs.span fun c => c ≠ '?' ∧ c ≠ '#'

def tailOf (k : SchemeKind) (cs : List Char) : Option String × Option String :=
  let keeps := if k.isSpecial then keepsInSpecialQuery else keepsInQuery
  let (front, back) := cs.span (· ≠ '#')
  let query := match front with
    | [] => none
    | _ :: query => some (String.ofList (percentEncode keeps query))
  let fragment := match back with
    | [] => none
    | _ :: fragment => some (String.ofList (percentEncode keepsInFragment fragment))
  (query, fragment)

def assemble (k : SchemeKind) (scheme : String) (authority : Option Authority) (cs : List Char) :
    Url :=
  let (path, tail) := spanPath cs
  let (query, fragment) := tailOf k tail
  ⟨scheme, authority, pathOf k path, query, fragment⟩

/-- An address of a file after its scheme.  The machine itself is a host without a name, and where
a drive stands in the place of the host, it is the first segment of the path. -/
def fileOf (cs : List Char) : Except Fault Url := do
  let here : Authority := ⟨"", "", none⟩
  match cs with
  | a :: b :: rest =>
    if SchemeKind.file.isSlash a ∧ SchemeKind.file.isSlash b then
      let (host, path) := spanAuthority .file rest
      if (driveLetter? host).isSome then return assemble .file "file" (some here) rest
      else if host.isEmpty then return assemble .file "file" (some here) path
      else
        let name ← hostText .file host
        let host := if name = "localhost" then "" else name
        return assemble .file "file" (some ⟨"", host, none⟩) path
    else return assemble .file "file" (some here) cs
  | _ => return assemble .file "file" (some here) cs

def hostedOf (k : SchemeKind) (scheme : String) (cs : List Char) : Except Fault Url := do
  let (front, rest) := spanAuthority k cs
  let authority ← authorityOf k front (!rest.isEmpty)
  return assemble k scheme (some authority) rest

def parse (s : String) : Except Fault Url :=
  match splitScheme? (trimmed s) with
  | none => .error .relative
  | some (scheme, rest) =>
    match schemeKind scheme, rest with
    | .file, rest => fileOf rest
    | .special p, rest =>
      hostedOf (.special p) scheme (rest.dropWhile fun c => c = '/' || c = '\\')
    | .other, '/' :: '/' :: rest => hostedOf .other scheme rest
    | .other, '/' :: rest => .ok (assemble .other scheme none ('/' :: rest))
    | .other, rest =>
      let (path, tail) := spanPath rest
      let (query, fragment) := tailOf .other tail
      .ok ⟨scheme, none, .plain (String.ofList (percentEncode isGraphicOrSpace path)), query,
        fragment⟩

end FreshToken.Url
