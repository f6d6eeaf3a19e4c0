import FreshToken.Proofs.Credentials.Stored
import FreshToken.Proofs.Refresher.Opening
import FreshToken.Proofs.Rehearsal.Deserted
/-!
# How clients are built

Only the last value of each knob counts.  What a builder holds is checked in a fixed order before
anyone is asked for a token; then one is asked, once, and there is a client exactly if that yields a
token in time and its pool can be made.
-/

namespace FreshToken

namespace ClientBuilder

variable {σ τ υ α β : Type}

/-! ## Knobs -/

namespace Knob

def transport? : Knob τ α → Option τ
  | .transport t | .sharedTransport t => some t
  | _ => none

def tokenEndpoint? : Knob τ α → Option Url
  | .tokenEndpoint url => some url
  | _ => none

def poolCapacity? : Knob τ α → Option Nat
  | .poolCapacity capacity => some capacity
  | _ => none

def policy? : Knob τ α → Option Policy
  | .policy p => some p
  | _ => none

def authenticator? : Knob τ α → Option α
  | .authenticator a => some a
  | _ => none

def carried : Knob τ α → Option (Knob υ α)
  | .transport _ | .sharedTransport _ => none
  | .tokenEndpoint url => some (.tokenEndpoint url)
  | .poolCapacity capacity => some (.poolCapacity capacity)
  | .policy p => some (.policy p)
  | .authenticator a => some (.authenticator a)

def last? (pick : Knob τ α → Option β) (knobs : List (Knob τ α)) : Option β :=
  (knobs.filterMap pick).getLast?

theorem last?_cons (pick : Knob τ α → Option β) (knob : Knob τ α) (knobs : List (Knob τ α)) :
    last? pick (knob :: knobs) = (last? pick knobs).or (pick knob) := by
  rw [last?, last?, List.filterMap_cons]
  cases pick knob with
  | none => rw [Option.or_none]
  | some x =>
    rw [List.getLast?_cons]
    cases (knobs.filterMap pick).getLast? <;> rfl

end Knob

/-- The builder with the last value of each knob, in place of what it had before. -/
def settled (b : ClientBuilder τ α) (knobs : List (Knob τ α)) : ClientBuilder τ α where
  appId := b.appId
  appSecret := b.appSecret
  transport := (Knob.last? Knob.transport? knobs).getD b.transport
  tokenEndpoint := (Knob.last? Knob.tokenEndpoint? knobs).or b.tokenEndpoint
  poolCapacity := (Knob.last? Knob.poolCapacity? knobs).getD b.poolCapacity
  policy := (Knob.last? Knob.policy? knobs).getD b.policy
  authenticator := (Knob.last? Knob.authenticator? knobs).or b.authenticator

theorem settled_cons (b : ClientBuilder τ α) (knob : Knob τ α) (knobs : List (Knob τ α)) :
    b.settled (knob :: knobs) = (b.turn knob).settled knobs := by
  simp only [settled, Knob.last?_cons, Option.or_assoc]
  cases knob <;> simp [turn, withTransport, withSharedTransport, withTokenEndpoint,
    withPoolCapacity, withPolicy, withAuthenticator, Knob.transport?, Knob.tokenEndpoint?,
    Knob.poolCapacity?, Knob.policy?, Knob.authenticator?]

theorem turned_eq_settled (b : ClientBuilder τ α) (knobs : List (Knob τ α)) :
    b.turned knobs = b.settled knobs := by
  induction knobs generalizing b with
  | nil => rfl
  | cons knob knobs ih =>
    rw [settled_cons, ← ih]
    rfl

/-- A transport of another type is as good as one from the start, and carries all else over. -/
theorem withSharedTransport_turned (b : ClientBuilder τ α) (knobs : List (Knob τ α)) (other : υ) :
    (b.turned knobs).withSharedTransport other =
      (b.withSharedTransport other).turned (knobs.filterMap Knob.carried) := by
  induction knobs generalizing b with
  | nil => rfl
  | cons knob knobs ih => cases knob <;> exact ih _

/-! ## Faults -/

/-- What makes a builder no client before anyone is asked.  What is looked at later counts only if
all before is in order, and the endpoint does not count next to an authenticator. -/
inductive Faulty (b : ClientBuilder τ α) : ConfigFault → Prop
  | appId {f : AppIdFault} (id : appIdFault? b.appId = some f) :
    Faulty b (.credentials (.appId f))
  | secret (id : appIdFault? b.appId = none) (secret : b.appSecret = "") :
    Faulty b (.credentials .emptySecret)
  | endpoint {url : Url} (id : appIdFault? b.appId = none) (secret : b.appSecret ≠ "")
    (none : b.authenticator = none) (given : b.tokenEndpoint = some url)
    (rootless : url.isHierarchical = false) : Faulty b (.unsupportedEndpoint url.text)
  | policy {f : Policy.Fault} (id : appIdFault? b.appId = none) (secret : b.appSecret ≠ "")
    (endpoint : b.authenticator = none → ∀ url, b.tokenEndpoint = some url →
      url.isHierarchical = true) (h : b.policy.fault? = some f) : Faulty b (.policy f)

inductive Draws (b : ClientBuilder τ α) : TokenSource τ α → Prop
  | custom {a : α} (h : b.authenticator = some a) : Draws b (.custom a)
  | endpoint {e : TokenEndpoint} (none : b.authenticator = none)
    (url : e.url = b.tokenEndpoint.getD TokenEndpoint.usualUrl) :
    Draws b (.endpoint b.transport e)

/-! ## Checks -/

theorem ofStrings_of_fault {appId : String} {f : AppIdFault} (h : appIdFault? appId = some f)
    (appSecret : String) : Credentials.ofStrings appId appSecret = .error (.appId f) := by
  have hid : AppId.ofString appId = .error f := AppId.ofString_eq_error.2 h
  rw [Credentials.ofStrings, hid]

theorem ofStrings_of_sound {appId : String} (h : appIdFault? appId = none) (appSecret : String) :
    Credentials.ofStrings appId appSecret =
      if appSecret = "" then .error .emptySecret else .ok ⟨⟨appId, h⟩, ⟨appSecret⟩⟩ := by
  have hid : AppId.ofString appId = .ok ⟨appId, h⟩ := AppId.ofString_text ⟨appId, h⟩
  rw [Credentials.ofStrings, hid]
  simp only [String.isEmpty_iff]

section

variable {b : ClientBuilder τ α}

theorem check_of_badCredentials {f : CredentialsFault}
    (h : Credentials.ofStrings b.appId b.appSecret = .error f) :
    b.check = .error (.credentials f) := by
  simp only [check, ClientPlan.check, plan, h, Except.map]

theorem check_of_credentials {c : Credentials}
    (h : Credentials.ofStrings b.appId b.appSecret = .ok c) :
    b.check = match b.authenticator with
      | some a => .ok (c, .custom a)
      | none => (TokenEndpoint.ofUrl (b.tokenEndpoint.getD TokenEndpoint.usualUrl)).map fun e =>
          (c, .endpoint b.transport e) := by
  obtain ⟨appId, appSecret, transport, endpoint?, capacity, policy, authenticator?⟩ := b
  simp only [check, ClientPlan.check, plan, h]
  cases authenticator? with
  | some a => rfl
  | none =>
    cases endpoint? with
    | none => rfl
    | some url =>
      change ((TokenEndpoint.ofUrl url).map fun e => (c, some e)).map _ =
        (TokenEndpoint.ofUrl url).map _
      cases TokenEndpoint.ofUrl url <;> rfl

theorem check_of_unsupported (id : appIdFault? b.appId = none) (secret : b.appSecret ≠ "")
    (none : b.authenticator = none) {url : Url} (given : b.tokenEndpoint = some url)
    (rootless : url.isHierarchical = false) :
    b.check = .error (.unsupportedEndpoint url.text) := by
  have hcredentials := (ofStrings_of_sound id b.appSecret).trans (if_neg secret)
  have hurl : TokenEndpoint.ofUrl url = .error (.unsupportedEndpoint url.text) := by
    rw [TokenEndpoint.ofUrl, dif_neg (Bool.eq_false_iff.1 rootless)]
  rw [check_of_credentials hcredentials, none, given]
  simp only [Option.getD_some, hurl, Except.map]

/-- What is in order yields the credentials as they are given, and where tokens come from. -/
theorem exists_check (id : appIdFault? b.appId = none) (secret : b.appSecret ≠ "")
    (endpoint : b.authenticator = none → ∀ url, b.tokenEndpoint = some url →
      url.isHierarchical = true) :
    ∃ c source, b.check = .ok (c, source) ∧ c.appId.text = b.appId ∧
      c.appSecret.exposed = b.appSecret ∧ b.Draws source := by
  have hcredentials := (ofStrings_of_sound id b.appSecret).trans (if_neg secret)
  have hcheck := check_of_credentials hcredentials
  cases hauthenticator : b.authenticator with
  | some a =>
    rw [hauthenticator] at hcheck
    exact ⟨_, _, hcheck, rfl, rfl, .custom hauthenticator⟩
  | none =>
    have hurl : (b.tokenEndpoint.getD TokenEndpoint.usualUrl).isHierarchical = true := by
      cases hgiven : b.tokenEndpoint with
      | none => rfl
      | some url => exact endpoint hauthenticator url hgiven
    rw [hauthenticator, TokenEndpoint.ofUrl, dif_pos hurl] at hcheck
    exact ⟨_, _, hcheck, rfl, rfl, .endpoint hauthenticator rfl⟩

/-! ## Building -/

variable {env : Surroundings σ τ α} {s : σ}

theorem build_of_check_error {f : ConfigFault} (h : b.check = .error f) :
    (b.build env).run s = (.error (.returned (.config f)), s) := by
  change b.build env s = _
  rw [build, h]

theorem build_of_check_ok {c : Credentials} {source : TokenSource τ α}
    (h : b.check = .ok (c, source)) :
    (b.build env).run s =
      (((env.openCache c source b.policy).run s).1.bind (b.assemble c source),
        ((env.openCache c source b.policy).run s).2) := by
  change b.build env s = _
  rw [build, h]
  rfl

theorem Faulty.build {f : ConfigFault} (h : b.Faulty f) :
    (b.build env).run s = (.error (.returned (.config f)), s) := by
  cases h with
  | appId id =>
    exact build_of_check_error (check_of_badCredentials (ofStrings_of_fault id b.appSecret))
  | secret id secret =>
    have hcredentials := (ofStrings_of_sound id b.appSecret).trans (if_pos secret)
    exact build_of_check_error (check_of_badCredentials hcredentials)
  | endpoint id secret none given rootless =>
    exact build_of_check_error (check_of_unsupported id secret none given rootless)
  | policy id secret endpoint h =>
    obtain ⟨c, source, hcheck, -⟩ := exists_check id secret endpoint
    rw [build_of_check_ok hcheck, env.openCache_faulty source c b.policy s h]
    rfl

/-- What is not faulty has been looked at to the end. -/
theorem sound_of_not_faulty (h : ∀ f, ¬b.Faulty f) :
    appIdFault? b.appId = none ∧ b.appSecret ≠ "" ∧
      (b.authenticator = none → ∀ url, b.tokenEndpoint = some url → url.isHierarchical = true) ∧
      b.policy.fault? = none := by
  have hid : appIdFault? b.appId = none := by
    cases hid : appIdFault? b.appId with
    | none => rfl
    | some f => exact absurd (.appId hid) (h _)
  have hsecret : b.appSecret ≠ "" := fun hempty => h _ (.secret hid hempty)
  have hendpoint : b.authenticator = none → ∀ url, b.tokenEndpoint = some url →
      url.isHierarchical = true := by
    intro hnone url hgiven
    by_contra hrootless
    exact h _ (.endpoint hid hsecret hnone hgiven (Bool.eq_false_iff.2 hrootless))
  refine ⟨hid, hsecret, hendpoint, ?_⟩
  cases hpolicy : b.policy.fault? with
  | none => rfl
  | some f => exact absurd (.policy hid hsecret hendpoint hpolicy) (h _)

/-- The list of a pool of the chosen capacity is small enough to be allocated. -/
def IsPoolable (b : ClientBuilder τ α) : Prop :=
  Executor.bufferSize * b.poolCapacity < Pool.allocationBound

theorem assemble_of_poolable (h : b.IsPoolable) (c : Credentials) (source : TokenSource τ α)
    (r : Refresher) :
    b.assemble c source r = .ok ⟨c, source, r, b.transport, .start b.poolCapacity⟩ := by
  rw [assemble, Executor.make?_of_lt h]

theorem assemble_of_not_poolable (h : ¬b.IsPoolable) (c : Credentials) (source : TokenSource τ α)
    (r : Refresher) : b.assemble c source r = .error .breakdown := by
  rw [assemble, Executor.make?_of_le (Nat.le_of_not_lt h)]

/-- A client as it comes from the builder, with the token of its first attempt. -/
structure IsNew (b : ClientBuilder τ α) (c : Credentials) (source : TokenSource τ α)
    (t : IssuedToken) (client : Client τ α) : Prop where
  credentials : client.credentials = c
  source : client.source = source
  attempt : client.refresher.snapshot.attempt = 1
  fresh : client.refresher.snapshot.isFresh = true
  token : client.refresher.snapshot.result = .ok t.token
  policy : client.refresher.policy = b.policy
  /-- It waits for its second attempt, and no commands are there. -/
  waits : client.refresher.phase = .starting (b.policy.delayAfterSuccess t.lifetime) ∧
    client.refresher.queue = .empty
  transport : client.transport = b.transport
  capacity : client.executor.pool.capacity = b.poolCapacity
  /-- The pool is empty and has lent nothing, and no request is under way. -/
  unused : client.executor.pool.idle = [] ∧ client.executor.pool.created = 0 ∧
    client.executor.pool.reused = 0 ∧ client.executor.pool.discarded = 0 ∧
    client.executor.flights = []

/-- The one attempt of a builder that is in order, and how it decides. -/
structure Fetches (env : Surroundings σ τ α) (b : ClientBuilder τ α) (asked : List (Asked τ α))
    (s : σ) (c : Credentials) (source : TokenSource τ α) (fetch : Fetch) : Prop where
  /-- Someone is asked once, and for nothing but a token. -/
  asked : ((b.build env.recorded).run (asked, s)).2.1 = asked ++ [source.asks c]
  decided : Decided (env.tick s) b.policy.fetchTimeout (env.now s)
    ((source.call env c).run s).1 fetch
  refused : ∀ f, fetch.answer = .refused f →
    ((b.build env).run s).1 = .error (.returned (.authentication f))
  broke : fetch.answer = .breakdown → ((b.build env).run s).1 = .error .breakdown
  issued : ∀ t, fetch.answer = .issued t → b.IsPoolable →
    ∃ client, ((b.build env).run s).1 = .ok client ∧ b.IsNew c source t client
  /-- A token does not help where there can be no pool. -/
  unpooled : ∀ t, fetch.answer = .issued t → ¬b.IsPoolable →
    ((b.build env).run s).1 = .error .breakdown

/-- How a builder becomes a client. -/
structure Constructs (env : Surroundings σ τ α) (b : ClientBuilder τ α)
    (asked : List (Asked τ α)) (s : σ) : Prop where
  /-- Who is asked is all that is recorded. -/
  recorded : ((b.build env.recorded).run (asked, s)).1 = ((b.build env).run s).1 ∧
    ((b.build env.recorded).run (asked, s)).2.2 = ((b.build env).run s).2
  /-- The first fault fails it, and nobody has been asked for anything. -/
  faulty : ∀ f, b.Faulty f →
    (b.build env.recorded).run (asked, s) = (.error (.returned (.config f)), asked, s)
  sound : (∀ f, ¬b.Faulty f) → ∃ c source fetch, c.appId.text = b.appId ∧
    c.appSecret.exposed = b.appSecret ∧ b.Draws source ∧ Fetches env b asked s c source fetch

theorem isNew_start {c : Credentials} {source : TokenSource τ α} {o : Opening} {clock : Nat}
    {t : IssuedToken} {r : Refresher} {signals : List Signal} (policy : o.policy = b.policy)
    (issued : o.fetch.answer = .issued t) (h : o.conclude clock = (.ok r, signals)) :
    b.IsNew c source t ⟨c, source, r, b.transport, .start b.poolCapacity⟩ := by
  rw [Opening.conclude, issued] at h
  cases h
  exact {
    credentials := rfl
    source := rfl
    attempt := rfl
    fresh := rfl
    token := rfl
    policy := policy
    waits := ⟨by rw [policy], rfl⟩
    transport := rfl
    capacity := rfl
    unused := ⟨rfl, rfl, rfl, rfl, rfl⟩ }

theorem fetches (asked : List (Asked τ α)) {c : Credentials} {source : TokenSource τ α}
    (hcheck : b.check = .ok (c, source)) (valid : b.policy.fault? = none) :
    Fetches env b asked s c source (env.firstAttempt source c b.policy s).fetch := by
  obtain ⟨signals, hopen⟩ := env.openCache_of_valid source c b.policy s valid
  let o := env.firstAttempt source c b.policy s
  obtain ⟨clock, hanswer⟩ : ∃ clock,
      ((b.build env).run s).1 = (o.conclude clock).1.bind (b.assemble c source) := by
    rw [build_of_check_ok hcheck, hopen]
    exact ⟨_, rfl⟩
  have hopened (t : IssuedToken) (ht : o.fetch.answer = .issued t) :
      ∃ r back, o.conclude clock = (.ok r, back) := by
    rw [Opening.conclude, ht]
    exact ⟨_, _, rfl⟩
  constructor
  case asked =>
    rw [build_of_check_ok hcheck, env.openCache_recorded source c b.policy asked s valid]
  case decided => exact Fetch.decided_start ..
  case refused =>
    intro f hf
    rw [hanswer, Opening.conclude, show o.fetch.answer = .refused f from hf]
    rfl
  case broke =>
    intro hbroke
    rw [hanswer, Opening.conclude, show o.fetch.answer = .breakdown from hbroke]
    rfl
  case issued =>
    intro t ht hpoolable
    obtain ⟨r, back, hr⟩ := hopened t ht
    refine ⟨_, ?_, isNew_start rfl ht hr⟩
    rw [hanswer, hr]
    exact assemble_of_poolable hpoolable c source r
  case unpooled =>
    intro t ht hpoolable
    obtain ⟨r, back, hr⟩ := hopened t ht
    rw [hanswer, hr]
    exact assemble_of_not_poolable hpoolable c source r

theorem constructs (env : Surroundings σ τ α) (b : ClientBuilder τ α) (asked : List (Asked τ α))
    (s : σ) : Constructs env b asked s where
  recorded := by
    cases hcheck : b.check with
    | error f =>
      rw [build_of_check_error hcheck, build_of_check_error hcheck]
      exact ⟨rfl, rfl⟩
    | ok made =>
      obtain ⟨c, source⟩ := made
      rw [build_of_check_ok hcheck, build_of_check_ok hcheck]
      cases hpolicy : b.policy.fault? with
      | some f =>
        rw [Surroundings.openCache_faulty _ _ _ _ _ hpolicy,
          Surroundings.openCache_faulty _ _ _ _ _ hpolicy]
        exact ⟨rfl, rfl⟩
      | none =>
        rw [env.openCache_recorded source c b.policy asked s hpolicy]
        exact ⟨rfl, rfl⟩
  faulty f hf := hf.build
  sound hsound := by
    obtain ⟨hid, hsecret, hendpoint, hpolicy⟩ := sound_of_not_faulty hsound
    obtain ⟨c, source, hcheck, happ, hexposed, hdraws⟩ := exists_check hid hsecret hendpoint
    exact ⟨c, source, _, happ, hexposed, hdraws, fetches asked hcheck hpolicy⟩

theorem keeps_build {P : σ → Prop} (hkeeps : env.Keeps P) (hs : P s) :
    P ((b.build env).run s).2 := by
  cases hcheck : b.check with
  | error f =>
    rw [build_of_check_error hcheck]
    exact hs
  | ok made =>
    rw [build_of_check_ok hcheck]
    exact hkeeps.openCache made.2 made.1 b.policy hs

end

end ClientBuilder

/-! ## What follows -/

namespace Rehearsal.World

theorem keeps_unattended : surroundings.Keeps fun w => w.session = none where
  passTo _ h := h
  hear e h := by
    cases e with
    | returned caller answer => cases caller <;> exact h
    | _ => exact h
  authenticate _ _ h := h
  get {w} _ url h := by
    change (World.exchange { w with calls := w.calls + 1 } url none).2.session = none
    rw [World.exchange]
    split <;> exact h

/-- What becomes of a rehearsal in which there is no cache when a client is built. -/
structure Concludes (w : World) (b : ClientBuilder Unit (List Line)) : Prop where
  result : (w.build b).1 = ((b.build surroundings).run w).1.map fun _ => ()
  /-- Without a client there is no cache, and nobody asks for tokens whatever is done later. -/
  deserted : ∀ f, (w.build b).1 = .error f → ∀ acts, ∀ p ∈ (w.build b).2.play acts,
    p.2.session = none ∧ p.2.calls = (w.build b).2.calls

theorem concludes {w : World} (h : w.session = none) (b : ClientBuilder Unit (List Line)) :
    w.Concludes b := by
  have hsession := ClientBuilder.keeps_build (b := b) keeps_unattended h
  constructor
  case result =>
    rw [build]
    rcases (b.build surroundings).run w with ⟨_ | client, after⟩ <;> rfl
  case deserted =>
    intro f herror acts p hp
    have hdeserted : Deserted (w.build b).2.calls (w.build b).2 := by
      refine ⟨?_, rfl⟩
      rw [build] at herror ⊢
      rcases hbuilt : (b.build surroundings).run w with ⟨_ | client, after⟩
      · rw [hbuilt] at hsession
        exact hsession
      · rw [hbuilt] at herror
        cases herror
    have hafter := hdeserted.play acts p hp
    exact ⟨hafter.session, hafter.calls⟩

end Rehearsal.World

/-- However its knobs are turned, a builder is what their last values make it, and a transport of
another type changes nothing else.  It is looked at before anyone is asked for a token, then one is
asked, and no token means no client and nobody who asks again.  Nor is there a client, although
there is a token, if its pool is beyond what can be allocated. -/
theorem ClientBuilder.construction {σ τ α : Type} (env : Surroundings σ τ α)
    (appId appSecret : String) (transport : τ) (knobs : List (Knob τ α))
    (asked : List (Asked τ α)) (s : σ) :
    (new appId appSecret transport).turned knobs = (new appId appSecret transport).settled knobs ∧
      (∀ {υ : Type} (other : υ),
        ((new appId appSecret transport).turned knobs).withSharedTransport other =
            (new appId appSecret other).turned (knobs.filterMap Knob.carried) ∧
          ((new appId appSecret transport).turned knobs).withTransport other =
            (new appId appSecret other).turned (knobs.filterMap Knob.carried)) ∧
      Constructs env ((new appId appSecret transport).turned knobs) asked s ∧
      ∀ (w : Rehearsal.World) (own : List (Knob Unit (List Rehearsal.Line))), w.session = none →
        w.Concludes ((new appId appSecret ()).turned own) := by
  refine ⟨turned_eq_settled _ knobs, ?_, constructs env _ asked s, ?_⟩
  · intro υ other
    exact ⟨withSharedTransport_turned _ knobs other, withSharedTransport_turned _ knobs other⟩
  · intro w own hsession
    exact Rehearsal.World.concludes hsession _

/-- A builder that is in order but for a capacity that no memory holds. -/
def vastBuilder : ClientBuilder Unit (List Rehearsal.Line) :=
  (ClientBuilder.new "wx" "secret" ()).turned
    [.poolCapacity 18446744073709551615, .authenticator [⟨.zero, .token "t" .longest⟩]]

/-- Building breaks down after the fetch, although none of what is looked at is faulty. -/
theorem vast_pool_breaks_build :
    (∀ f, ¬vastBuilder.Faulty f) ∧
      ((Rehearsal.World.start 0 1 [] []).build vastBuilder).1 = .error .breakdown ∧
      ((Rehearsal.World.start 0 1 [] []).build vastBuilder).2.calls = 1 := by
  refine ⟨?_, by rfl, by rfl⟩
  intro f hfaulty
  cases hfaulty with
  | appId id => cases id
  | secret id secret => exact absurd secret (by decide)
  | endpoint id secret none => cases none
  | policy id secret endpoint h => cases h

/-- An address without a place for a query. -/
def mailbox : Url := ⟨"mailto", none, .plain "a@b", none, none⟩

example : ((Rehearsal.World.start 0 1 [] []).build
    ((ClientBuilder.new "wx" "secret" ()).turned [.tokenEndpoint mailbox])).1 =
      .error (.returned (.config (.unsupportedEndpoint mailbox.text))) := by
  rfl

example : ((Rehearsal.World.start 0 1 [] []).build
    ((ClientBuilder.new "wx" "secret" ()).turned
      [.authenticator [⟨.zero, .token "t" .longest⟩], .tokenEndpoint mailbox])).1 = .ok () := by
  rfl

end FreshToken
