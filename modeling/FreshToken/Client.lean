import FreshToken.Cache.Refresher
import FreshToken.Executor
/-!
# The client

A cache and an executor that share one transport.  Each request carries the token of the last
attempt in its query; if that attempt failed, the request fails with it and nothing is sent.
-/

namespace FreshToken

structure ClientPlan where
  appId : String
  appSecret : String
  /-- The token endpoint, if it is not the usual one. -/
  tokenEndpoint : Option Url
  poolCapacity : Nat
  policy : Policy
  /-- Whether tokens come from an authenticator of the caller's own. -/
  isCustom : Bool

namespace ClientPlan

def record (p : ClientPlan) : Text.Record :=
  .fields "ClientBuilder" [("app_id", .word (Text.quoted p.appId)),
    ("token_endpoint", .optional (p.tokenEndpoint.map fun u => .word (Text.quoted u.text))),
    ("pool_capacity", .nat p.poolCapacity), ("refresh_policy", p.policy.record),
    ("custom_authenticator", .word (if p.isCustom then "true" else "false"))]

/-- The credentials and the endpoint of a plan.  A plan with an authenticator of the caller's own
has no endpoint, whatever address it names. -/
def check (p : ClientPlan) : Except ConfigFault (Credentials × Option TokenEndpoint) :=
  match Credentials.ofStrings p.appId p.appSecret with
  | .error f => .error (.credentials f)
  | .ok c =>
    if p.isCustom then .ok (c, none)
    else
      match p.tokenEndpoint with
      | none => .ok (c, some .usual)
      | some url => (TokenEndpoint.ofUrl url).map fun e => (c, some e)

end ClientPlan

/-- The address of a request with the token of the last attempt, unless that failed. -/
def Snapshot.authorize (s : Snapshot) (url : Url) : Except Error Url :=
  s.result.map fun token => url.withPair "access_token" token.exposed

def cacheRecord (c : Credentials) (s : Snapshot) (p : Policy) : Text.Record :=
  .fields "CredentialCache" [("app_id", c.appId.record), ("state", s.record),
    ("policy", p.record)]

def clientRecord (cache : Text.Record) (e : Executor) : Text.Record :=
  .fields "Client" [("credentials", cache), ("executor", e.record)]

end FreshToken
