import FreshToken.Credentials
import FreshToken.Http
import FreshToken.Policy
import FreshToken.Duration.Text
import FreshToken.Url.Basic
/-!
# Failures

Everything that can go wrong, as causes.  Each failure has a message, the messages of its causes
from the nearest to the farthest, and a record; none of them shows a secret.
-/

namespace FreshToken

structure DecodingFault where
  path : String
  status : Nat
  source : Json.Fault

namespace DecodingFault

def ofLocated (status : Nat) (l : Json.Located) : DecodingFault :=
  ⟨Json.pathText l.path, status, l.fault⟩

def message (f : DecodingFault) : String :=
  "Response payload could not be decoded at `" ++ f.path ++ "`."

end DecodingFault

/-- A JSON fault as a record; it carries no place in the text. -/
def jsonFaultRecord (f : Json.Fault) : Text.Record :=
  let text := match f with
    | .mismatch m => m.message
    | .damage .cutOff => "EOF while parsing a value"
    | .damage .malformed => "expected value"
  .word ("Error(" ++ Text.quoted text ++ ", line: 0, column: 0)")

def DecodingFault.record (f : DecodingFault) : Text.Record :=
  .fields "DecodingError" [("path", .word (Text.quoted f.path)), ("status", .nat f.status),
    ("source", jsonFaultRecord f.source)]

inductive AuthFault where
  | transport (f : TransportFault)
  /-- The platform refuses the credentials. -/
  | rejected (code : Int) (message : String)
  | malformed (f : DecodingFault)
  /-- The token would have expired already. -/
  | expired
  | timedOut (after : Duration)
  /-- An authenticator of the caller's own failed. -/
  | other (reason : String)

namespace AuthFault

def message : AuthFault → String
  | .transport _ => "Token endpoint request failed."
  | .rejected code message =>
    "Token endpoint rejected the credentials with code " ++ toString code ++ ": " ++ message ++ "."
  | .malformed _ => "Token endpoint returned a malformed response."
  | .expired => "Token endpoint returned a non-positive expires_in."
  | .timedOut after => "Token fetch timed out after " ++ after.text ++ "."
  | .other reason => "Authenticator failed: " ++ reason

def causes : AuthFault → List String
  | .transport f => f.message :: f.causes
  | .malformed f => [f.message, f.source.text]
  | .other reason => [reason]
  | _ => []

def record : AuthFault → Text.Record
  | .transport f => .call "Transport" [f.record]
  | .rejected code message =>
    .fields "Rejected" [("code", .word (toString code)), ("message", .word (Text.quoted message))]
  | .malformed f => .call "MalformedResponse" [f.record]
  | .expired => .word "NonPositiveExpiresIn"
  | .timedOut after => .fields "Timeout" [("after", .word after.text)]
  | .other reason => .fields "Other" [("source", foreignFault reason)]

end AuthFault

inductive ConfigFault where
  | httpClient (reason : String)
  | credentials (f : CredentialsFault)
  | endpoint (f : Url.Fault)
  /-- The address has no place for a query. -/
  | unsupportedEndpoint (url : String)
  | policy (f : Policy.Fault)

namespace ConfigFault

def message : ConfigFault → String
  | .httpClient _ => "HTTP client could not be constructed."
  | .credentials (.appId f) => f.message
  | .credentials .emptySecret => "Application secret cannot be empty."
  | .endpoint _ => "Endpoint URL is invalid."
  | .unsupportedEndpoint url => "Endpoint URL `" ++ url ++ "` cannot carry query parameters."
  | .policy f => "Refresh policy is invalid: " ++ f.reason ++ "."

def causes : ConfigFault → List String
  | .httpClient reason => [reason]
  | .endpoint f => [f.message]
  | _ => []

def record : ConfigFault → Text.Record
  | .httpClient reason => .fields "HttpClientBuild" [("source", foreignFault reason)]
  | .credentials (.appId f) => .call "InvalidAppId" [f.record]
  | .credentials .emptySecret => .word "EmptySecret"
  | .endpoint f => .fields "InvalidEndpoint" [("source", .word f.name)]
  | .unsupportedEndpoint url => .fields "UnsupportedEndpoint" [("url", .word (Text.quoted url))]
  | .policy f => .fields "InvalidRefreshPolicy" [("reason", .word (Text.quoted f.reason))]

end ConfigFault

inductive Error where
  | config (f : ConfigFault)
  | authentication (f : AuthFault)
  | encoding (f : Json.Fault)
  | transport (f : TransportFault)
  | decoding (f : DecodingFault)
  /-- No attempt to get a token has ended. -/
  | notFetched
  /-- Nobody refreshes the token any more. -/
  | closed

namespace Error

def message : Error → String
  | .config f => f.message
  | .authentication f => f.message
  | .encoding _ => "Request payload could not be encoded as JSON."
  | .transport f => f.message
  | .decoding f => f.message
  | .notFetched => "No access token has been fetched yet."
  | .closed => "Credential refresh task has stopped."

def causes : Error → List String
  | .config f => f.causes
  | .authentication f => f.causes
  | .encoding f => [f.text]
  | .transport f => f.causes
  | .decoding f => [f.source.text]
  | .notFetched | .closed => []

def record : Error → Text.Record
  | .config f => .call "Config" [f.record]
  | .authentication f => .call "Authentication" [f.record]
  | .encoding f =>
    .call "Encoding" [.fields "EncodingError" [("source", jsonFaultRecord f)]]
  | .transport f => .call "Transport" [f.record]
  | .decoding f => .call "Decoding" [f.record]
  | .notFetched => .word "NotFetched"
  | .closed => .word "Closed"

end Error

/-- Why something that was to be set up is not there. -/
inductive Failure where
  | returned (e : Error)
  /-- Whoever sets it up breaks down, and no error is returned. -/
  | breakdown

end FreshToken
