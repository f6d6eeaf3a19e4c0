import FreshToken.Text.Quoted
import FreshToken.Text.Record
/-!
# Answers over HTTP

What a transport brings back: an answer with a status, or the failure to get one.  Answers with a
status outside the two hundreds are failures too, but only the caller makes them so.
-/

namespace FreshToken

structure Response where
  status : Nat
  /-- The words after the status, if there are any. -/
  reason : Option String
  body : List UInt8
  deriving DecidableEq

inductive TransportFault where
  | network (reason : String)
  | io (reason : String)
  /-- The answer has a status outside the two hundreds. -/
  | status (code : Nat) (text : String)
  deriving DecidableEq, Repr

def jsonContentType : String := "application/json; charset=utf-8"

def foreignFault (reason : String) : Text.Record :=
  .fields "Custom" [("kind", .word "Other"), ("error", .word (Text.quoted reason))]

namespace TransportFault

/-- The failure that a status is; the reason follows the status if there is one. -/
def ofStatus (code : Nat) (reason : Option String) : TransportFault :=
  match reason with
  | some words =>
    if words.isEmpty then .status code (toString code)
    else .status code (toString code ++ " " ++ words)
  | none => .status code (toString code)

def message : TransportFault → String
  | .network _ => "Network error occurred while calling the remote service."
  | .io _ => "I/O error occurred while calling the remote service."
  | .status _ text => "Remote service returned HTTP " ++ text ++ "."

def causes : TransportFault → List String
  | .network reason | .io reason => [reason]
  | .status _ _ => []

def record : TransportFault → Text.Record
  | .network reason => .fields "Network" [("source", foreignFault reason)]
  | .io reason => .call "Io" [foreignFault reason]
  | .status code text =>
    .fields "Status" [("status", .nat code), ("status_text", .word (Text.quoted text))]

end TransportFault

namespace Response

def isSuccess (r : Response) : Bool := 200 ≤ r.status && r.status < 300

def accepted (r : Response) : Except TransportFault Response :=
  if r.isSuccess then .ok r else .error (.ofStatus r.status r.reason)

def record (r : Response) : Text.Record :=
  .fields "TransportResponse" [("status", .nat r.status),
    ("reason", .optional (r.reason.map fun s => .word (Text.quoted s))),
    ("body", .list (r.body.map fun b => .nat b.toNat))]

end Response

end FreshToken
