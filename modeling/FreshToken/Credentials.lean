import FreshToken.AppId
import FreshToken.Secret
/-!
# Credentials

The identifier and the secret of an application.  Made from two texts, a secret must not be empty;
read from a stored document, it may be.
-/

namespace FreshToken

structure Credentials where
  appId : AppId
  appSecret : Secret .app
  deriving DecidableEq

inductive CredentialsFault where
  | appId (f : AppIdFault)
  | emptySecret
  deriving DecidableEq, Repr

namespace Credentials

/-- Credentials made from two texts; the identifier is looked at first. -/
def ofStrings (appId appSecret : String) : Except CredentialsFault Credentials :=
  match AppId.ofString appId with
  | .error f => .error (.appId f)
  | .ok id => if appSecret.isEmpty then .error .emptySecret else .ok ⟨id, ⟨appSecret⟩⟩

def record (c : Credentials) : Text.Record :=
  .fields "AppCredentials" [("app_id", c.appId.record), ("app_secret", c.appSecret.record)]

def toJson (c : Credentials) : Json.Value :=
  .object [("app_id", c.appId.toJson), ("app_secret", c.appSecret.toJson)]

/-- Credentials of which parts may still be unread. -/
structure Draft where
  appId : Option AppId
  appSecret : Option (Secret .app)

def draftFields : List (Json.Reader.Field Draft) := [
  .of "app_id" .refused AppId.reader fun id d => { d with appId := some id },
  .of "app_secret" .refused (Secret.reader .app) fun s d => { d with appSecret := some s }]

def reader : Json.Reader Credentials :=
  (Json.Reader.record "AppCredentials" ⟨none, none⟩ draftFields).checked fun d =>
    match d with
    | ⟨some appId, some appSecret⟩ => .ok ⟨appId, appSecret⟩
    | _ => .error "credentials are incomplete"

end Credentials

end FreshToken
