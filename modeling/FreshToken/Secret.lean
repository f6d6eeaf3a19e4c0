import FreshToken.Json.Reader
import FreshToken.Text.Record
/-!
# Secrets

Application secrets and access tokens.  Both are texts that never show: every rendering of a
secret is the same for all secrets of its role.
-/

namespace FreshToken

inductive SecretRole where
  | app
  | token
  deriving DecidableEq, Repr

def SecretRole.name : SecretRole → String
  | .app => "AppSecret"
  | .token => "TokenSecret"

structure Secret (role : SecretRole) where
  /-- The text itself, which must not reach any log. -/
  exposed : String
  deriving DecidableEq

namespace Secret

def redacted : String := "<redacted>"

def isEmpty {role : SecretRole} (s : Secret role) : Bool := s.exposed.isEmpty

def text {role : SecretRole} (_ : Secret role) : String := redacted

def record {role : SecretRole} (_ : Secret role) : Text.Record :=
  .call role.name [.word (Text.quoted redacted)]

/-- A secret as a JSON value, for storage: this is the text itself. -/
def toJson {role : SecretRole} (s : Secret role) : Json.Value := .string s.exposed

def reader (role : SecretRole) : Json.Reader (Secret role) := Json.Reader.text.map Secret.mk

end Secret

end FreshToken
