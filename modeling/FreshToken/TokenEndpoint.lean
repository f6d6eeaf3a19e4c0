import FreshToken.Error
import FreshToken.Json.Reader
/-!
# Token endpoint

Where the platform issues tokens.  A token is asked for with one request that carries the
credentials in its query; the answer holds a token with its lifetime, or a code that refuses it.
-/

namespace FreshToken

structure IssuedToken where
  token : Secret .token
  lifetime : Duration
  deriving DecidableEq

def IssuedToken.record (t : IssuedToken) : Text.Record :=
  .fields "IssuedToken" [("token", t.token.record), ("valid_for", .word t.lifetime.text)]

structure TokenEndpoint where
  url : Url
  hierarchical : url.isHierarchical = true
  deriving DecidableEq

namespace TokenEndpoint

def usualUrl : Url :=
  ⟨"https", some ⟨"", "api.weixin.qq.com", none⟩, .segments ["cgi-bin", "token"], none, none⟩

def usual : TokenEndpoint := ⟨usualUrl, rfl⟩

/-- An endpoint at an address, if the address has a place for a query. -/
def ofUrl (url : Url) : Except ConfigFault TokenEndpoint :=
  if h : url.isHierarchical = true then .ok ⟨url, h⟩ else .error (.unsupportedEndpoint url.text)

def record (e : TokenEndpoint) : Text.Record :=
  .fields "TokenEndpointAuthenticator" [("endpoint", .word (Text.quoted e.url.text))]

def requestUrl (e : TokenEndpoint) (c : Credentials) : Url :=
  ((e.url.withPair "grant_type" "client_credential").withPair "appid" c.appId.text).withPair
    "secret" c.appSecret.exposed

/-! ## Answers -/

structure Payload where
  accessToken : Option String
  expiresIn : Option Int
  errcode : Int
  errmsg : String
  deriving DecidableEq

def Payload.blank : Payload := ⟨none, none, 0, ""⟩

def payloadFields : List (Json.Reader.Field Payload) := [
  .of "access_token" .unset (.nullable .text) fun s p => { p with accessToken := s },
  .of "expires_in" .unset (.nullable .i64) fun n p => { p with expiresIn := n },
  .of "errcode" .filled .i64 fun n p => { p with errcode := n },
  .of "errmsg" .filled .text fun s p => { p with errmsg := s }]

def payloadReader : Json.Reader Payload :=
  .record "TokenEndpointPayload" .blank payloadFields

def lacks (status : Nat) (field : String) : AuthFault :=
  .malformed ⟨field, status, .mismatch (.missing field)⟩

/-- What an answer amounts to: a code other than zero refuses, whatever else is there; then the
token must be there, and it must not have expired. -/
def Payload.issued (status : Nat) (p : Payload) : Except AuthFault IssuedToken :=
  if p.errcode ≠ 0 then .error (.rejected p.errcode p.errmsg)
  else
    match p.accessToken with
    | none => .error (lacks status "access_token")
    | some token =>
      if token.isEmpty then .error (lacks status "access_token")
      else
        match p.expiresIn with
        | none => .error (lacks status "expires_in")
        | some seconds =>
          if seconds ≤ 0 then .error .expired
          else .ok ⟨⟨token⟩, (Duration.ofSeconds? seconds.toNat).getD .longest⟩

def readBody (status : Nat) (body : List UInt8) : Except AuthFault IssuedToken :=
  match payloadReader.first body with
  | .error l => .error (.malformed (.ofLocated status l))
  | .ok p => p.issued status

def readAnswer (answer : Except TransportFault Response) : Except AuthFault IssuedToken :=
  match answer with
  | .error f => .error (.transport f)
  | .ok r =>
    match r.accepted with
    | .error f => .error (.transport f)
    | .ok r => readBody r.status r.body

theorem readAnswer_of_isSuccess {r : Response} (h : r.isSuccess = true) :
    readAnswer (.ok r) = readBody r.status r.body := by
  simp only [readAnswer, Response.accepted, if_pos h]

def authenticate {m : Type → Type} [Monad m] (get : Url → m (Except TransportFault Response))
    (e : TokenEndpoint) (c : Credentials) : m (Except AuthFault IssuedToken) := do
  let answer ← get (e.requestUrl c)
  return readAnswer answer

end TokenEndpoint

end FreshToken
