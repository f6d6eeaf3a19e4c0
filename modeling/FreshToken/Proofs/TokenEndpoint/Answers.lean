import FreshToken.Proofs.Json.Reading
import FreshToken.TokenEndpoint
/-!
# Answers to a request for a token

What every answer amounts to.  The transport is asked once, and its failures are passed on.  The
object in an accepted answer either has a member that makes it malformed or says one definite thing
about each of the four members that matter, in whatever order they stand and whatever else stands
among them; the first check that applies decides.
-/

namespace FreshToken.TokenEndpoint

open Json

/-! ## What an object says -/

/-- A value that stands once under its name, or the value for a name that does not stand. -/
inductive Comes {α : Type} (R : Doc → α → Prop) (absent : α) : List Doc → α → Prop
  | absent : Comes R absent [] absent
  | present {doc : Doc} {a : α} (h : R doc a) : Comes R absent [doc] a

structure Says (named : List (String × Doc)) (p : Payload) : Prop where
  token : Comes (OrNull Doc.IsText) none (valuesOf "access_token" named) p.accessToken
  lifetime : Comes (OrNull Doc.IsI64) none (valuesOf "expires_in" named) p.expiresIn
  code : Comes Doc.IsI64 0 (valuesOf "errcode" named) p.errcode
  message : Comes Doc.IsText "" (valuesOf "errmsg" named) p.errmsg

def knownNames : List String := ["access_token", "expires_in", "errcode", "errmsg"]

/-- Why the members of an object say nothing about a token. -/
inductive IsMalformed (named : List (String × Doc)) : Prop
  | repeated {name : String} (known : name ∈ knownNames)
    (h : 2 ≤ (valuesOf name named).length)
  | token {doc : Doc} (stands : doc ∈ valuesOf "access_token" named) (nonnull : doc ≠ .null)
    (h : ∀ s, ¬doc.IsText s)
  | lifetime {doc : Doc} (stands : doc ∈ valuesOf "expires_in" named) (nonnull : doc ≠ .null)
    (h : ∀ n, ¬doc.IsI64 n)
  | code {doc : Doc} (stands : doc ∈ valuesOf "errcode" named) (h : ∀ n, ¬doc.IsI64 n)
  | message {doc : Doc} (stands : doc ∈ valuesOf "errmsg" named) (h : ∀ s, ¬doc.IsText s)

/-- What is decided where the members of an object say `p`. -/
inductive Decided (status : Nat) (p : Payload) : Except AuthFault IssuedToken → Prop
  | rejected (code : p.errcode ≠ 0) : Decided status p (.error (.rejected p.errcode p.errmsg))
  | noToken (code : p.errcode = 0) (token : p.accessToken = none ∨ p.accessToken = some "") :
    Decided status p
      (.error (.malformed ⟨"access_token", status, .mismatch (.missing "access_token")⟩))
  | noLifetime {token : String} (code : p.errcode = 0) (stands : p.accessToken = some token)
    (nonempty : token ≠ "") (lifetime : p.expiresIn = none) :
    Decided status p
      (.error (.malformed ⟨"expires_in", status, .mismatch (.missing "expires_in")⟩))
  | expired {token : String} {n : Int} (code : p.errcode = 0) (stands : p.accessToken = some token)
    (nonempty : token ≠ "") (lifetime : p.expiresIn = some n) (nonpositive : n ≤ 0) :
    Decided status p (.error .expired)
  | issued {token : String} {n : Int} {d : Duration} (code : p.errcode = 0)
    (stands : p.accessToken = some token) (nonempty : token ≠ "") (lifetime : p.expiresIn = some n)
    (positive : 0 < n) (seconds : d.seconds = n) (nanos : d.nanos = 0) :
    Decided status p (.ok ⟨⟨token⟩, d⟩)

/-! ## Values under a name -/

theorem mem_valuesOf {name : String} {doc : Doc} {named : List (String × Doc)} :
    doc ∈ valuesOf name named ↔ (name, doc) ∈ named := by
  simp [valuesOf]

theorem valuesOf_append (name : String) (named others : List (String × Doc)) :
    valuesOf name (named ++ others) = valuesOf name named ++ valuesOf name others := by
  simp [valuesOf]

section Comes

variable {α : Type} {R : Doc → α → Prop} {absent a : α} {name : String} {doc : Doc}
  {named : List (String × Doc)}

theorem Comes.other {x : α} (h : Comes R absent (valuesOf name named) x) {other : String}
    (hne : other ≠ name) : Comes R absent (valuesOf name (named ++ [(other, doc)])) x := by
  have hnone : valuesOf name [(other, doc)] = [] := by simp [valuesOf, hne]
  rwa [valuesOf_append, hnone, List.append_nil]

theorem Comes.here (hnone : valuesOf name named = []) (h : R doc a) :
    Comes R absent (valuesOf name (named ++ [(name, doc)])) a := by
  have hone : valuesOf name [(name, doc)] = [doc] := by simp [valuesOf]
  rw [valuesOf_append, hnone, hone]
  exact .present h

theorem Comes.length_le {docs : List Doc} (h : Comes R absent docs a) : docs.length ≤ 1 := by
  cases h <;> simp

theorem Comes.of_mem {docs : List Doc} (h : Comes R absent docs a) (hdoc : doc ∈ docs) :
    R doc a := by
  cases h with
  | absent => cases hdoc
  | present h => rwa [List.mem_singleton.1 hdoc]

theorem Comes.unique (hR : Relator.RightUnique R) {docs : List Doc} {b : α}
    (ha : Comes R absent docs a) (hb : Comes R absent docs b) : a = b := by
  cases ha with
  | absent => cases hb; rfl
  | present ha =>
    cases hb with
    | present hb => exact hR ha hb

end Comes

/-! ## Reading the members -/

theorem not_isText_null (s : String) : ¬Doc.IsText .null s := nofun

theorem not_isI64_null (n : Int) : ¬Doc.IsI64 .null n := fun h => nomatch h.1

theorem ne_null_of_not_orNull {α : Type} {R : Doc → α → Prop} {doc : Doc}
    (h : ∀ o, ¬OrNull R doc o) : doc ≠ .null ∧ ∀ a, ¬R doc a := by
  refine ⟨?_, fun a ha => h (some a) (.value ha)⟩
  rintro rfl
  exact h none .null

theorem find?_unknown {name : String} (h : name ∉ knownNames) :
    payloadFields.find? (·.name = name) = none := by
  simp [knownNames] at h
  simp [payloadFields, Reader.Field.of, Ne.symm h.1, Ne.symm h.2.1, Ne.symm h.2.2.1,
    Ne.symm h.2.2.2]

structure Passed (before : List (String × Doc)) (seen : List String) (acc : Payload) : Prop where
  said : Says before acc
  seen : ∀ name ∈ knownNames, name ∈ seen ↔ valuesOf name before ≠ []

theorem Passed.start : Passed [] [] .blank :=
  ⟨⟨.absent, .absent, .absent, .absent⟩, fun _ _ => by simp [valuesOf]⟩

section Members

variable {before : List (String × Doc)} {seen : List String} {acc : Payload} {name : String}
  {doc : Doc}

theorem Passed.unknown (h : Passed before seen acc) (hname : name ∉ knownNames) :
    Passed (before ++ [(name, doc)]) seen acc := by
  have hne (other : String) (hother : other ∈ knownNames) : name ≠ other := by
    rintro rfl
    exact hname hother
  refine ⟨⟨h.said.token.other (hne _ (by decide)), h.said.lifetime.other (hne _ (by decide)),
    h.said.code.other (hne _ (by decide)), h.said.message.other (hne _ (by decide))⟩, ?_⟩
  intro other hother
  rw [h.seen other hother, valuesOf_append]
  simp [valuesOf, hne other hother]

theorem Passed.known (h : Passed before seen acc) {acc' : Payload}
    (hsaid : Says (before ++ [(name, doc)]) acc') :
    Passed (before ++ [(name, doc)]) (name :: seen) acc' := by
  refine ⟨hsaid, fun other hother => ?_⟩
  rw [List.mem_cons, h.seen other hother, valuesOf_append]
  by_cases hne : name = other
  · simp [valuesOf, hne]
  · simp [valuesOf, hne, Ne.symm hne]

theorem mem_valuesOf_middle (name : String) (doc : Doc) (before after : List (String × Doc)) :
    doc ∈ valuesOf name (before ++ (name, doc) :: after) :=
  mem_valuesOf.2 (List.mem_append_right _ List.mem_cons_self)

theorem isMalformed_of_seen (h : Passed before seen acc) (hknown : name ∈ knownNames)
    (hseen : name ∈ seen) (after : List (String × Doc)) :
    IsMalformed (before ++ (name, doc) :: after) := by
  have hbefore : 0 < (valuesOf name before).length :=
    List.length_pos_iff.2 ((h.seen name hknown).1 hseen)
  have hafter : 0 < (valuesOf name ((name, doc) :: after)).length :=
    List.length_pos_of_mem (mem_valuesOf.2 List.mem_cons_self)
  refine .repeated hknown ?_
  rw [valuesOf_append, List.length_append]
  omega

/-- A member with a known name is read into the payload, unless it makes the object malformed. -/
theorem Passed.field {α : Type} {r : Reader α} {R : Doc → α → Prop} {absence : Reader.Absence}
    {put : α → Payload → Payload} {key : Quoted} {bs : List UInt8} (h : Passed before seen acc)
    (hkey : key.Spells bs) (hname : key.Denotes name) (hdoc : doc.IsSpelled) (room : Nat)
    (members : Members) {after : List (String × Doc)} (hknown : name ∈ knownNames)
    (hr : r.Reads R)
    (hfind : payloadFields.find? (·.name = name) = some (.of name absence r put))
    (hgood : valuesOf name before = [] → ∀ a, R doc a →
      Says (before ++ [(name, doc)]) (put a acc))
    (hbad : (∀ a, ¬R doc a) → IsMalformed (before ++ (name, doc) :: after)) :
    (∃ seen' acc', Passed (before ++ [(name, doc)]) seen' acc' ∧
      Reader.byName payloadFields room seen acc (.member key doc members) =
        Reader.byName payloadFields room seen' acc' members) ∨
    IsMalformed (before ++ (name, doc) :: after) ∧
      ∃ l, Reader.byName payloadFields room seen acc (.member key doc members) = .error l := by
  by_cases hseen : name ∈ seen
  · exact .inr ⟨isMalformed_of_seen h hknown hseen after,
      byName_repeated hkey hname hdoc hfind hseen⟩
  · have hnone : valuesOf name before = [] :=
      Decidable.not_not.1 fun hne => hseen ((h.seen name hknown).2 hne)
    rcases byName_field hr hkey hname hdoc hfind hseen with ⟨a, ha, heq⟩ | ⟨hno, hl⟩
    · exact .inl ⟨_, _, h.known (hgood hnone a ha), heq⟩
    · exact .inr ⟨hbad hno, hl⟩

/-- Either the first member is passed, or it makes the whole object malformed. -/
theorem Passed.step {key : Quoted} {bs : List UInt8} (h : Passed before seen acc)
    (hkey : key.Spells bs) (hname : key.Denotes name) (hdoc : doc.IsSpelled) (room : Nat)
    (members : Members) (after : List (String × Doc)) :
    (∃ seen' acc', Passed (before ++ [(name, doc)]) seen' acc' ∧
      Reader.byName payloadFields room seen acc (.member key doc members) =
        Reader.byName payloadFields room seen' acc' members) ∨
    IsMalformed (before ++ (name, doc) :: after) ∧
      ∃ l, Reader.byName payloadFields room seen acc (.member key doc members) = .error l := by
  have hmem := mem_valuesOf_middle name doc before after
  obtain ⟨token, lifetime, code, message⟩ := h.said
  by_cases hknown : name ∈ knownNames
  · have hcases := hknown
    simp only [knownNames, List.mem_cons, List.not_mem_nil, or_false] at hcases
    rcases hcases with rfl | rfl | rfl | rfl
    · refine h.field hkey hname hdoc room members hknown (reads_text.nullable not_isText_null) rfl
        (fun hnone a ha => ⟨.here hnone ha, lifetime.other (by decide), code.other (by decide),
          message.other (by decide)⟩) fun hno => ?_
      obtain ⟨hnull, hno⟩ := ne_null_of_not_orNull hno
      exact .token hmem hnull hno
    · refine h.field hkey hname hdoc room members hknown (reads_i64.nullable not_isI64_null) rfl
        (fun hnone a ha => ⟨token.other (by decide), .here hnone ha, code.other (by decide),
          message.other (by decide)⟩) fun hno => ?_
      obtain ⟨hnull, hno⟩ := ne_null_of_not_orNull hno
      exact .lifetime hmem hnull hno
    · exact h.field hkey hname hdoc room members hknown reads_i64 rfl
        (fun hnone a ha => ⟨token.other (by decide), lifetime.other (by decide), .here hnone ha,
          message.other (by decide)⟩) (.code hmem)
    · exact h.field hkey hname hdoc room members hknown reads_text rfl
        (fun hnone a ha => ⟨token.other (by decide), lifetime.other (by decide),
          code.other (by decide), .here hnone ha⟩) (.message hmem)
  · rw [byName_unknown hkey hname hdoc (find?_unknown hknown)]
    exact .inl ⟨seen, acc, h.unknown hknown, rfl⟩

/-- A payload that is read from members says what they say, and only malformed ones yield none. -/
theorem byName_payload {members : Members} {named : List (String × Doc)}
    (names : members.Names named) {first : Bool} {bs : List UInt8}
    (hspells : Members.Spells first members bs) (h : Passed before seen acc) (room : Nat) :
    (∃ p, Reader.byName payloadFields room seen acc members = .ok p ∧ Says (before ++ named) p) ∨
    IsMalformed (before ++ named) ∧
      ∃ l, Reader.byName payloadFields room seen acc members = .error l := by
  induction names generalizing first bs before seen acc with
  | closed =>
    rw [List.append_nil]
    exact .inl ⟨acc, rfl, h.said⟩
  | @member key name doc members named hname _ ih =>
    cases hspells with
    | member _ hkey _ _ hvalue hrest =>
      rcases h.step hkey hname ⟨_, hvalue⟩ room members named with
        ⟨seen', acc', hpassed, heq⟩ | hmalformed
      · rw [heq, List.append_cons]
        exact ih hrest hpassed
      · exact .inr hmalformed

end Members

/-! ## Every object -/

theorem Says.not_isMalformed {named : List (String × Doc)} {p : Payload} (h : Says named p) :
    ¬IsMalformed named := by
  have horNull {α : Type} {R : Doc → α → Prop} {doc : Doc} {o : Option α} (hor : OrNull R doc o)
      (hnull : doc ≠ .null) (hno : ∀ a, ¬R doc a) : False := by
    cases hor with
    | null => exact hnull rfl
    | value ha => exact hno _ ha
  intro hmalformed
  cases hmalformed with
  | token stands nonnull hno => exact horNull (h.token.of_mem stands) nonnull hno
  | lifetime stands nonnull hno => exact horNull (h.lifetime.of_mem stands) nonnull hno
  | code stands hno => exact hno _ (h.code.of_mem stands)
  | message stands hno => exact hno _ (h.message.of_mem stands)
  | repeated known hlength =>
    simp only [knownNames, List.mem_cons, List.not_mem_nil, or_false] at known
    rcases known with rfl | rfl | rfl | rfl
    · exact absurd h.token.length_le (by omega)
    · exact absurd h.lifetime.length_le (by omega)
    · exact absurd h.code.length_le (by omega)
    · exact absurd h.message.length_le (by omega)

theorem Says.unique {named : List (String × Doc)} {p q : Payload} (hp : Says named p)
    (hq : Says named q) : p = q := by
  have htoken := hp.token.unique (rightUnique_orNull rightUnique_isText not_isText_null) hq.token
  have hlifetime :=
    hp.lifetime.unique (rightUnique_orNull rightUnique_isI64 not_isI64_null) hq.lifetime
  have hcode := hp.code.unique rightUnique_isI64 hq.code
  have hmessage := hp.message.unique rightUnique_isText hq.message
  cases p
  cases q
  simp only [Payload.mk.injEq]
  exact ⟨htoken, hlifetime, hcode, hmessage⟩

/-- What is read from an object. -/
theorem first_payload {body : List UInt8} {named : List (String × Doc)}
    (h : IsObject body named) :
    (∃ p, payloadReader.first body = .ok p ∧ Says named p) ∨
    IsMalformed named ∧ ∃ l, payloadReader.first body = .error l := by
  obtain @⟨ws, bs, vs, members, _, before, spells, names, after⟩ := h
  have hscan : scan (ws ++ (0x7b :: bs ++ vs)) = (.object members, vs) :=
    scan_of_spells (.object spells) before trivial
  have hfirst : payloadReader.first (ws ++ (0x7b :: bs ++ vs)) =
      Reader.byName payloadFields 127 [] .blank members := by
    rw [Reader.first, hscan]
    rfl
  rw [hfirst]
  exact byName_payload names spells .start 127

theorem Says.lifetime_le {named : List (String × Doc)} {p : Payload} (h : Says named p) {n : Int}
    (hn : p.expiresIn = some n) : n ≤ 9223372036854775807 := by
  have hlifetime := h.lifetime
  rw [hn] at hlifetime
  generalize valuesOf "expires_in" named = docs at hlifetime
  cases hlifetime with
  | present hor =>
    cases hor with
    | value hi64 => exact hi64.2.2

/-- The checks are made in this order. -/
theorem decided_issued {p : Payload}
    (hle : ∀ n, p.expiresIn = some n → n ≤ 9223372036854775807) (status : Nat) :
    Decided status p (p.issued status) := by
  by_cases hcode : p.errcode = 0
  · cases htoken : p.accessToken with
    | none =>
      simp only [Payload.issued, hcode, htoken]
      exact .noToken hcode (.inl htoken)
    | some token =>
      by_cases hempty : token = ""
      · simp only [Payload.issued, hcode, htoken, hempty]
        exact .noToken hcode (.inr (by rw [htoken, hempty]))
      · have hnot : token.isEmpty = false := by
          rw [← Bool.not_eq_true, String.isEmpty_iff]
          exact hempty
        cases hlifetime : p.expiresIn with
        | none =>
          simp only [Payload.issued, hcode, htoken, hnot, hlifetime]
          exact .noLifetime hcode htoken hempty hlifetime
        | some n =>
          by_cases hpositive : n ≤ 0
          · simp only [Payload.issued, hcode, htoken, hnot, hlifetime, if_pos hpositive]
            exact .expired hcode htoken hempty hlifetime hpositive
          · have hbound := hle n hlifetime
            have hseconds : n.toNat < secondsBound := by
              unfold secondsBound
              omega
            have hcast : (n.toNat : Int) = n := Int.toNat_of_nonneg (by omega)
            simp only [Payload.issued, hcode, htoken, hnot, hlifetime, if_neg hpositive,
              Duration.ofSeconds?, dif_pos hseconds, Option.getD_some]
            exact .issued hcode htoken hempty hlifetime (by omega) hcast rfl
  · simp only [Payload.issued, if_pos hcode]
    exact .rejected hcode

/-! ## Every answer -/

/-- A transport that remembers which addresses it is asked for, in their order. -/
def recorded {σ : Type} (get : Url → StateM σ (Except TransportFault Response)) (url : Url) :
    StateM (List Url × σ) (Except TransportFault Response) := fun (sent, s) =>
  let (answer, s) := (get url).run s
  (answer, (sent ++ [url], s))

/-- How a request for a token ends, by the answer to it. -/
structure Classified (answer : Except TransportFault Response)
    (result : Except AuthFault IssuedToken) : Prop where
  failed : ∀ f, answer = .error f → result = .error (.transport f)
  status : ∀ r, answer = .ok r → ¬(200 ≤ r.status ∧ r.status ≤ 299) →
    result = .error (.transport (.ofStatus r.status r.reason))
  malformed : ∀ r named, answer = .ok r → 200 ≤ r.status → r.status ≤ 299 →
    IsObject r.body named → IsMalformed named →
    ∃ f : DecodingFault, f.status = r.status ∧ result = .error (.malformed f)
  /-- The members say one thing, and that decides. -/
  decided : ∀ r named, answer = .ok r → 200 ≤ r.status → r.status ≤ 299 →
    IsObject r.body named → ¬IsMalformed named →
    ∃ p, (∀ q, Says named q ↔ q = p) ∧ Decided r.status p result

theorem readAnswer_of_success {r : Response} (hlow : 200 ≤ r.status) (hhigh : r.status ≤ 299) :
    readAnswer (.ok r) = readBody r.status r.body := by
  have hsuccess : r.isSuccess = true := by
    simp only [Response.isSuccess, Bool.and_eq_true, decide_eq_true_eq]
    omega
  exact readAnswer_of_isSuccess hsuccess

theorem classified_readAnswer (answer : Except TransportFault Response) :
    Classified answer (readAnswer answer) where
  failed := by
    rintro f rfl
    rfl
  status := by
    rintro r rfl hstatus
    have hfailure : r.isSuccess = false := by
      simp only [Response.isSuccess, Bool.and_eq_false_iff, decide_eq_false_iff_not]
      omega
    simp [readAnswer, Response.accepted, hfailure]
  malformed := by
    rintro r named rfl hlow hhigh hobject hmalformed
    rw [readAnswer_of_success hlow hhigh, readBody]
    rcases first_payload hobject with ⟨p, -, hsaid⟩ | ⟨-, l, hl⟩
    · exact absurd hmalformed hsaid.not_isMalformed
    · rw [hl]
      exact ⟨.ofLocated r.status l, rfl, rfl⟩
  decided := by
    rintro r named rfl hlow hhigh hobject hwell
    rw [readAnswer_of_success hlow hhigh, readBody]
    rcases first_payload hobject with ⟨p, hp, hsaid⟩ | ⟨hmalformed, -⟩
    · rw [hp]
      refine ⟨p, fun q => ⟨fun hq => hq.unique hsaid, ?_⟩, ?_⟩
      · rintro rfl
        exact hsaid
      · exact decided_issued (fun n hn => hsaid.lifetime_le hn) r.status
    · exact absurd hmalformed hwell

/-- A token is asked for with one request, and the answer to it decides how that ends. -/
theorem authenticate_classified {σ : Type} (get : Url → StateM σ (Except TransportFault Response))
    (e : TokenEndpoint) (c : Credentials) (sent : List Url) (s : σ) :
    let answered := (get (e.requestUrl c)).run s
    let ended := (e.authenticate (recorded get) c).run (sent, s)
    ended.2 = (sent ++ [e.requestUrl c], answered.2) ∧ Classified answered.1 ended.1 :=
  ⟨rfl, classified_readAnswer _⟩

/-- The body `{"expires_in":12,"access_token":"A"}`. -/
def sampleBody : List UInt8 :=
  "\x7b\x22expires_in\x22:12,\x22access_token\x22:\x22A\x22\x7d".toUTF8.data.toList

def sampleNamed : List (String × Doc) :=
  [("expires_in", .number ⟨false, [1, 2], [], none⟩), ("access_token", .string (.plain "A"))]

theorem isObject_sampleBody : IsObject sampleBody sampleNamed := by
  have htoken : Members.Spells false
      (.member (.plain "access_token") (.string (.plain "A")) .closed) _ :=
    .member (.comma blanks_nil blanks_nil) (Quoted.spells_plain rfl) blanks_nil blanks_nil
      (.string (Quoted.spells_plain rfl)) (.closed blanks_nil)
  have hnumber : Numeral.Spells ⟨false, [1, 2], [], none⟩ _ :=
    .mk ⟨by decide, by decide⟩ (by decide) .none .none
  have hall : Members.Spells true (.member (.plain "expires_in") (.number ⟨false, [1, 2], [], none⟩)
      (.member (.plain "access_token") (.string (.plain "A")) .closed)) _ :=
    .member (.first blanks_nil) (Quoted.spells_plain rfl) blanks_nil blanks_nil
      (.number hnumber) htoken
  have hnames : Members.Names (.member (.plain "expires_in") (.number ⟨false, [1, 2], [], none⟩)
      (.member (.plain "access_token") (.string (.plain "A")) .closed)) sampleNamed :=
    .member (Quoted.denotes_plain _) (.member (Quoted.denotes_plain _) .closed)
  exact .mk blanks_nil hall hnames blanks_nil

theorem says_sampleNamed : Says sampleNamed ⟨some "A", some 12, 0, ""⟩ where
  token := .present (.value (.mk (Quoted.denotes_plain "A")))
  lifetime := .present (.value ⟨.natural [1, 2], by decide, by decide⟩)
  code := .absent
  message := .absent

theorem issued_of_decided {status : Nat} {result : Except AuthFault IssuedToken}
    (h : Decided status ⟨some "A", some 12, 0, ""⟩ result) :
    ∃ d : Duration, d.seconds = 12 ∧ result = .ok ⟨⟨"A"⟩, d⟩ := by
  cases h with
  | rejected code => exact absurd rfl code
  | noToken _ token => exact absurd token (by decide)
  | noLifetime _ _ _ lifetime => cases lifetime
  | expired _ _ _ lifetime nonpositive =>
    cases lifetime
    exact absurd nonpositive (by decide)
  | issued _ stands _ lifetime _ seconds _ =>
    cases stands
    cases lifetime
    exact ⟨_, Int.ofNat.inj seconds, rfl⟩

theorem authenticate_classified_of_issued :
    ∃ d : Duration, d.seconds = 12 ∧
      (usual.authenticate (recorded fun _ => pure (.ok ⟨200, none, sampleBody⟩))
        ⟨⟨"wx1234567890abcdef", rfl⟩, ⟨"secret"⟩⟩).run ([], ()) =
          (.ok ⟨⟨"A"⟩, d⟩, [usual.requestUrl ⟨⟨"wx1234567890abcdef", rfl⟩, ⟨"secret"⟩⟩], ()) := by
  obtain ⟨hsent, hclassified⟩ := authenticate_classified
    (fun _ => pure (.ok ⟨200, none, sampleBody⟩)) usual
    ⟨⟨"wx1234567890abcdef", rfl⟩, ⟨"secret"⟩⟩ [] ()
  obtain ⟨p, hp, hdecided⟩ := hclassified.decided ⟨200, none, sampleBody⟩ sampleNamed rfl
    (by decide) (by decide) isObject_sampleBody says_sampleNamed.not_isMalformed
  obtain rfl := (hp _).1 says_sampleNamed
  obtain ⟨d, hseconds, hok⟩ := issued_of_decided hdecided
  exact ⟨d, hseconds, Prod.ext hok hsent⟩

end FreshToken.TokenEndpoint
