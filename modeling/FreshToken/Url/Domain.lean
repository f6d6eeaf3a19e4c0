import FreshToken.Text.Composition
import FreshToken.Url.Mapping
import FreshToken.Url.Punycode
/-!
# Domains

The name of a host as it is asked for on the net: mapped and composed characters, and labels that
are not ASCII in Punycode.
-/

namespace FreshToken.Url

/-- ASCII characters that no domain has: controls, the space and the marks that other parts of an
address use. -/
def isForbiddenInDomain (c : Char) : Bool :=
  c.toNat ≤ 0x20 || c.toNat = 0x7f ||
    ['%', '#', '/', ':', '<', '>', '?', '@', '[', '\\', ']', '^', '|'].contains c

def punycodeMark : List Char := ['x', 'n', '-', '-']

/-- Whether every joiner in a label follows a mark that joins. -/
def hasSoundJoiners (before : Nat) : List Char → Bool
  | [] => true
  | c :: rest =>
    ((c.toNat ≠ 0x200c && c.toNat ≠ 0x200d) || Text.markClass before = 9) &&
      hasSoundJoiners c.toNat rest

/-- Whether a label that is not ASCII may stand in a domain: it is mapped to itself, composed, and
begins with no mark. -/
def isSoundText (label : List Char) : Bool :=
  label.all (fun c => mapped? c = some [c]) && Text.composed label = label &&
    !(label.head?.any isLabelMark) && hasSoundJoiners 0 label

/-- Whether a label may stand in a domain.  One in Punycode stands for a label that is not
ASCII. -/
def isSoundLabel (label : List Char) : Bool :=
  if label.take 4 = punycodeMark then
    match Punycode.decode? (label.drop 4) with
    | some decoded => decoded.any (fun c => 128 ≤ c.toNat) && isSoundText decoded
    | none => false
  else if label.all fun c => c.toNat < 128 then true
  else isSoundText label

def asciiLabel (label : List Char) : List Char :=
  if label.all fun c => c.toNat < 128 then label else punycodeMark ++ Punycode.encode label

def domainText? (cs : List Char) : Option (List Char) :=
  if cs.all fun c => c.toNat < 128 then some (cs.map foldCase)
  else (cs.mapM mapped?).map fun parts => Text.composed parts.flatten

def domain? (bytes : List UInt8) : Option (List Char) := do
  let text ← String.fromUTF8? ⟨bytes.toArray⟩
  let labels := Text.pieces (· = '.') (← domainText? text.toList)
  if labels.all (fun l => l.all fun c => !isForbiddenInDomain c) ∧ labels.all isSoundLabel then
    return ['.'].intercalate (labels.map asciiLabel)
  else none

end FreshToken.Url
