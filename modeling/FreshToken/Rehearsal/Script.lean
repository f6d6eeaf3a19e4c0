import FreshToken.Client
/-!
# Scripts

What authenticators and transports answer in a rehearsal, written down beforehand.
-/

namespace FreshToken.Rehearsal

def substitute (pattern replacement : List Char) : List Char → List Char
  | [] => []
  | c :: rest =>
    if pattern.isPrefixOf (c :: rest) then
      replacement ++ substitute pattern replacement (rest.drop (pattern.length - 1))
    else c :: substitute pattern replacement rest
termination_by cs => cs.length
decreasing_by
  · simp only [List.length_drop, List.length_cons]
    omega
  · simp

/-- When a timer of a rehearsal fires.  Rehearsals are over before the clock comes to its end. -/
def firesAt (tick now : Nat) (d : Duration) : Nat := (deadline? tick now d).getD now

/-! ## Authenticators -/

inductive Cue where
  /-- A token, in which the number of the call, the application and its secret may stand. -/
  | token (template : String) (lifetime : Duration)
  | fault (f : AuthFault)
  | breakdown

structure Line where
  delay : Duration
  cue : Cue

def tokenText (template : String) (n : Nat) (c : Credentials) : String :=
  String.ofList
    (substitute "\x7bsecret\x7d".toList c.appSecret.exposed.toList
      (substitute "\x7bapp\x7d".toList c.appId.text.toList
        (substitute "\x7bn\x7d".toList (toString n).toList template.toList)))

/-- The `n`-th call of an authenticator that follows its lines; past their end the last one
stays.  It goes by a timer that is set at `now`. -/
def scriptedCall (lines : List Line) (n tick now : Nat) (c : Credentials) : Call :=
  match (lines[n - 1]?).or lines.getLast? with
  | none => ⟨none, .breakdown⟩
  | some line =>
    let answer := match line.cue with
      | .token template lifetime => .issued ⟨⟨tokenText template n c⟩, lifetime⟩
      | .fault f => .refused f
      | .breakdown => .breakdown
    ⟨some (firesAt tick now line.delay - now), answer⟩

/-! ## Transports -/

structure Canned where
  delay : Duration
  /-- Why the transport fails, if it is to fail. -/
  failure : Option TransportFault
  response : Response
  /-- Whether the body of the answer is the body of the request. -/
  isEcho : Bool

/-- The answer to a request when none is written down. -/
def Canned.exhausted : Canned :=
  ⟨.zero, some (.io "script exhausted"), ⟨200, none, []⟩, false⟩

def Canned.answer (c : Canned) (body : List UInt8) : Except TransportFault Response :=
  match c.failure with
  | some f => .error f
  | none => .ok (if c.isEcho then { c.response with body := body } else c.response)

structure Sent where
  /-- When it was sent, in nanoseconds from the start. -/
  time : Nat
  url : Url
  /-- The body of a post. -/
  body : Option (List UInt8)

def isInside (part : List Char) : List Char → Bool
  | [] => part.isEmpty
  | c :: rest => part.isPrefixOf (c :: rest) || isInside part rest

def asksForToken (url : Url) : Bool :=
  isInside "grant_type=client_credential".toList url.queryChars

end FreshToken.Rehearsal
