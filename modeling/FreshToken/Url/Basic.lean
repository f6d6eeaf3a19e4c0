import FreshToken.Url.Query
/-!
# Addresses of resources

An address in its parts, each in its written form.  Changing the query touches no other part.
-/

namespace FreshToken

/-- Who answers: the written user information, the host and the port. -/
structure Url.Authority where
  /-- User name and password with the sign that ends them, or nothing. -/
  user : String
  host : String
  /-- The port, unless it is the usual one of the scheme. -/
  port : Option Nat
  deriving DecidableEq, Repr

inductive Url.Path where
  /-- A text without inner structure, as in `mailto:a@b`. -/
  | plain (text : String)
  /-- Segments, each after a slash. -/
  | segments (parts : List String)
  deriving DecidableEq, Repr

structure Url where
  scheme : String
  authority : Option Url.Authority
  path : Url.Path
  query : Option String
  fragment : Option String
  deriving DecidableEq, Repr

namespace Url

inductive Fault where
  | relative
  | emptyHost
  | port
  | address4
  | address6
  | domain
  /-- The host of a scheme that is not special has a character that is not allowed. -/
  | hostCharacter
  deriving DecidableEq, Repr

def Fault.message : Fault → String
  | .relative => "relative URL without a base"
  | .emptyHost => "empty host"
  | .port => "invalid port number"
  | .address4 => "invalid IPv4 address"
  | .address6 => "invalid IPv6 address"
  | .domain => "invalid international domain name"
  | .hostCharacter => "invalid domain character"

def Fault.name : Fault → String
  | .relative => "RelativeUrlWithoutBase"
  | .emptyHost => "EmptyHost"
  | .port => "InvalidPort"
  | .address4 => "InvalidIpv4Address"
  | .address6 => "InvalidIpv6Address"
  | .domain => "IdnaError"
  | .hostCharacter => "InvalidDomainCharacter"

def Authority.text (a : Authority) : String :=
  "//" ++ a.user ++ a.host ++
    match a.port with
    | some p => ":" ++ toString p
    | none => ""

def Path.text : Path → String
  | .plain text => text
  | .segments parts => String.join (parts.map ("/" ++ ·))

/-- The written form of a path after a scheme that no authority follows.  A path that begins with
an empty segment would look like an authority, so a point stands before it. -/
def Path.textAlone : Path → String
  | .segments ("" :: part :: parts) => "/." ++ Path.text (.segments ("" :: part :: parts))
  | path => path.text

def front (u : Url) : String :=
  u.scheme ++ ":" ++
    match u.authority with
    | some a => a.text ++ u.path.text
    | none => u.path.textAlone

def text (u : Url) : String :=
  u.front ++
    (match u.query with
      | some q => "?" ++ q
      | none => "") ++
    match u.fragment with
    | some f => "#" ++ f
    | none => ""

/-- Whether the path is made of segments, so that other addresses can be relative to it. -/
def isHierarchical (u : Url) : Bool :=
  match u.path with
  | .plain _ => false
  | .segments _ => true

def queryChars (u : Url) : List Char := (u.query.getD "").toList

def withPair (u : Url) (name value : String) : Url :=
  { u with query := some (String.ofList (appendPair u.queryChars name value)) }

end Url

end FreshToken
