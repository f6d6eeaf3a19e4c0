import FreshToken.Proofs.Credentials.Stored
import FreshToken.Proofs.Executor.Pooling
import FreshToken.Shape
import FreshToken.TokenEndpoint
/-!
# Bodies that are accepted

The body of an accepted answer begins with a document for what is returned, with nothing but blanks
before it.  A body that does not is reported, with the status it came with.  What follows the
document is not looked at, neither for calls nor where tokens are asked for.
-/

namespace FreshToken

open Json

/-! ## Careful readers -/

namespace Shape

section
variable {r : Reader Value}

theorem careful_number {low high : Int} {name : String} :
    (number (Reader.int low high name)).Careful := (Reader.careful_int low high name).map _

theorem careful_kept (h : r.Careful) {name : String} {absence : Reader.Absence} :
    (kept name absence r).read.Careful := h.map _

theorem careful_user : userReader.Careful := by
  refine (Reader.careful_record _ _ ?_).map _
  rw [List.forall_mem_cons, List.forall_mem_singleton]
  exact ⟨careful_kept careful_number, careful_kept (Reader.careful_text.list.map _)⟩

theorem careful_pair : pairReader.Careful :=
  ((Reader.careful_int _ _ _).pair Reader.careful_bool).map _

end

theorem careful_reader (shape : Shape) : shape.reader.Careful := by
  cases shape with
  | ack =>
    refine (Reader.careful_record _ _ ?_).map _
    rw [List.forall_mem_cons, List.forall_mem_singleton]
    exact ⟨careful_kept careful_number, careful_kept (careful_number.nullable.map _)⟩
  | sendResult =>
    refine (Reader.careful_record _ _ ?_).map _
    rw [List.forall_mem_cons, List.forall_mem_singleton]
    exact ⟨careful_kept careful_number, careful_kept careful_number⟩
  | echo =>
    refine (Reader.careful_record _ _ ?_).map _
    rw [List.forall_mem_singleton]
    exact careful_kept careful_number
  | items =>
    refine (Reader.careful_record _ _ ?_).map _
    rw [List.forall_mem_singleton]
    exact careful_kept (careful_number.list.map _)
  | nested =>
    refine (Reader.careful_record _ _ ?_).map _
    rw [List.forall_mem_cons, List.forall_mem_singleton]
    exact ⟨careful_kept (careful_user.dict.map _), careful_kept (careful_pair.list.map _)⟩
  | unit => exact Reader.careful_unit.map _
  | text => exact Reader.careful_text.map _
  | byte => exact careful_number
  | optional => exact careful_number.nullable.map _
  | credentials => exact Credentials.careful_reader.map _
  | any => exact Reader.careful_any

end Shape

theorem TokenEndpoint.careful_payload : TokenEndpoint.payloadReader.Careful := by
  refine Reader.careful_record _ _ ?_
  simp only [payloadFields, List.forall_mem_cons]
  exact ⟨Reader.careful_text.nullable.map _, (Reader.careful_int _ _ _).nullable.map _,
    (Reader.careful_int _ _ _).map _, Reader.careful_text.map _, List.forall_mem_nil _⟩

/-! ## What is read -/

/-- How the body of an answer is read. -/
structure Executor.ReadsFirst (reader : Reader Value) (r : Response) : Prop where
  accepted : ∀ v, readAnswer reader (.ok r) = .ok v →
    r.isSuccess = true ∧ ∃ doc rest, Begins r.body doc rest ∧ reader nestingLimit doc = .ok v
  /-- An accepted body is one document from end to end only if nothing but blanks is left of it. -/
  whole : ∀ v, readAnswer reader (.ok r) = .ok v →
    ((∃ doc, IsWhole r.body doc ∧ reader nestingLimit doc = .ok v) ↔ Blanks (scan r.body).2)
  /-- There is no document in front that is read. -/
  refused : r.isSuccess = true →
    (∀ doc rest v, Begins r.body doc rest → reader nestingLimit doc ≠ .ok v) →
      ∃ f : DecodingFault, readAnswer reader (.ok r) = .error (.decoding f) ∧ f.status = r.status
  /-- The document in front decides, whatever follows it. -/
  decided : r.isSuccess = true → ∀ doc rest, Begins r.body doc rest → doc.Ends rest →
    readAnswer reader (.ok r) =
      (reader nestingLimit doc).mapError fun l => .decoding (.ofLocated r.status l)

/-- How the body of an accepted answer is read as one about a token. -/
structure TokenEndpoint.ReadsFirst (r : Response) (result : Except AuthFault IssuedToken) :
    Prop where
  accepted : ∀ t, result = .ok t → ∃ doc rest p, Begins r.body doc rest ∧
    payloadReader nestingLimit doc = .ok p ∧ p.issued r.status = .ok t
  whole : ∀ t, result = .ok t →
    ((∃ doc p, IsWhole r.body doc ∧ payloadReader nestingLimit doc = .ok p ∧
      p.issued r.status = .ok t) ↔ Blanks (scan r.body).2)
  refused : (∀ doc rest p, Begins r.body doc rest → payloadReader nestingLimit doc ≠ .ok p) →
    ∃ f : DecodingFault, result = .error (.malformed f) ∧ f.status = r.status
  decided : ∀ doc rest, Begins r.body doc rest → doc.Ends rest →
    (∀ l, payloadReader nestingLimit doc = .error l →
      result = .error (.malformed (.ofLocated r.status l))) ∧
    ∀ p, payloadReader nestingLimit doc = .ok p → result = p.issued r.status

theorem Executor.first_of_readAnswer {reader : Reader Value} {r : Response} {v : Value}
    (h : readAnswer reader (.ok r) = .ok v) :
    r.isSuccess = true ∧ reader.first r.body = .ok v := by
  by_cases hsuccess : r.isSuccess = true
  · rw [readAnswer_of_isSuccess reader hsuccess, mapError_eq_ok] at h
    exact ⟨hsuccess, h⟩
  · simp only [readAnswer, Response.accepted, if_neg hsuccess] at h
    cases h

theorem Executor.reads_first {reader : Reader Value} (careful : reader.Careful) (r : Response) :
    ReadsFirst reader r where
  accepted v hv := by
    obtain ⟨hsuccess, hread⟩ := first_of_readAnswer hv
    obtain ⟨doc, hbegins, hdoc⟩ := careful.begins hread
    exact ⟨hsuccess, doc, _, hbegins, hdoc⟩
  whole v hv := careful.isWhole_iff (first_of_readAnswer hv).2
  refused hsuccess hnone := by
    rw [readAnswer_of_isSuccess reader hsuccess]
    cases hread : reader.first r.body with
    | ok v =>
      obtain ⟨doc, hbegins, hv⟩ := careful.begins hread
      exact absurd hv (hnone doc _ v hbegins)
    | error l => exact ⟨.ofLocated r.status l, rfl, rfl⟩
  decided hsuccess doc rest hbegins hrest := by
    rw [readAnswer_of_isSuccess reader hsuccess, hbegins.first hrest]

theorem TokenEndpoint.readBody_eq_ok {status : Nat} {body : List UInt8} {t : IssuedToken}
    (h : readBody status body = .ok t) :
    ∃ p, payloadReader.first body = .ok p ∧ p.issued status = .ok t := by
  rw [readBody] at h
  split at h
  · cases h
  · rename_i p hread
    exact ⟨p, hread, h⟩

theorem TokenEndpoint.reads_first (r : Response) :
    ReadsFirst r (readBody r.status r.body) where
  accepted t ht := by
    obtain ⟨p, hread, hissued⟩ := readBody_eq_ok ht
    obtain ⟨doc, hbegins, hp⟩ := careful_payload.begins hread
    exact ⟨doc, _, p, hbegins, hp, hissued⟩
  whole t ht := by
    obtain ⟨p, hread, hissued⟩ := readBody_eq_ok ht
    rw [← careful_payload.isWhole_iff hread]
    constructor
    · rintro ⟨doc, -, hwhole, -, -⟩
      obtain ⟨doc, hwhole, hp⟩ := (careful_payload.isWhole_iff hread).2 hwhole.blanks
      exact ⟨doc, hwhole, hp⟩
    · rintro ⟨doc, hwhole, hp⟩
      exact ⟨doc, p, hwhole, hp, hissued⟩
  refused hnone := by
    rw [readBody]
    split
    · rename_i l hread
      exact ⟨.ofLocated r.status l, rfl, rfl⟩
    · rename_i p hread
      obtain ⟨doc, hbegins, hp⟩ := careful_payload.begins hread
      exact absurd hp (hnone doc _ p hbegins)
  decided doc rest hbegins hrest := by
    rw [readBody, hbegins.first hrest]
    refine ⟨fun l hl => by rw [hl], fun p hp => by rw [hp]⟩

/-! ## What is returned -/

namespace Calls

open Machine

variable {k : BufferKind (List UInt8)} {s : Calls (SharedPool (List UInt8))}
  {es : List (Signal (SharedPool.Signal (List UInt8)))}

/-- What a call returns was read from the front of an answer with an accepted status. -/
def ReturnsFirst (es : List (Signal (SharedPool.Signal (List UInt8)))) : Prop :=
  ∀ (n : Nat) (q : Request) (v : Value), q.reader.Careful → .called n q ∈ es →
    .returned n (.ok v) ∈ es →
      ∃ r doc rest, .answered n (.ok r) ∈ es ∧ r.isSuccess = true ∧ Begins r.body doc rest ∧
        q.reader nestingLimit doc = .ok v

theorem Courses.returns_first (hc : Courses s es) : ReturnsFirst es := by
  intro n q v hcareful hcalled hreturned
  obtain ⟨progress, -, hcourse⟩ := hc.job hcalled
  rcases hcourse.yields (mem_trace hreturned rfl rfl) with hspoiled | ⟨a, ha, hresult⟩
  · obtain ⟨p, f, -, -, hresult⟩ := hspoiled
    cases hresult
  · cases a with
    | error f => cases hresult
    | ok r =>
      obtain ⟨hsuccess, doc, rest, hbegins, hread⟩ :=
        (Executor.reads_first hcareful r).accepted v hresult.symm
      exact ⟨r, doc, rest, mem_of_mem_trace ha, hsuccess, hbegins, hread⟩

structure BodiesRead (es : List (Signal (SharedPool.Signal (List UInt8)))) : Prop where
  returned : ReturnsFirst es
  answers : ∀ reader r, reader.Careful → Executor.ReadsFirst reader r
  /-- So it is with values of no type in particular and with the typed shapes. -/
  shapes : ∀ shape : Shape, shape.reader.Careful
  /-- What a request for a token yields when its answer is accepted. -/
  tokens : ∀ {σ : Type} (get : Url → StateM σ (Except TransportFault Response))
    (e : TokenEndpoint) (c : Credentials) (before after : σ) (r : Response),
    (get (e.requestUrl c)).run before = (.ok r, after) → r.isSuccess = true →
      TokenEndpoint.ReadsFirst r ((e.authenticate get c).run before).1

theorem authenticate_of_isSuccess {σ : Type}
    {get : Url → StateM σ (Except TransportFault Response)} {e : TokenEndpoint} {c : Credentials}
    {before after : σ} {r : Response}
    (hget : (get (e.requestUrl c)).run before = (.ok r, after)) (hsuccess : r.isSuccess = true) :
    ((e.authenticate get c).run before).1 = TokenEndpoint.readBody r.status r.body := by
  have hanswer : ((e.authenticate get c).run before).1 =
      TokenEndpoint.readAnswer ((get (e.requestUrl c)).run before).1 := rfl
  rw [hanswer, hget, TokenEndpoint.readAnswer_of_isSuccess hsuccess]

/-- In every run the front of a body decides, for calls and for tokens. -/
theorem fronts_decide (hfresh : ∀ n, k.fresh n = []) (hreset : ∀ b, k.reset b = [])
    {capacity : Nat} {moves : List (Move (SharedPool.Move (List UInt8)))}
    (h : run? (move? (Lender.pooled k)) (start (SharedPool.start capacity)) moves =
      some (s, es)) : BodiesRead es where
  returned := (courses_reached hfresh hreset (reached_of_run? h)).returns_first
  answers _ r hcareful := Executor.reads_first hcareful r
  shapes := Shape.careful_reader
  tokens get e c before after r hget hsuccess := by
    rw [authenticate_of_isSuccess hget hsuccess]
    exact TokenEndpoint.reads_first r

/-! ## Bytes after a document -/

/-- The body `{"value":1}<html>`. -/
def trailingBody : List UInt8 := "\x7b\x22value\x22:1\x7d<html>".toUTF8.data.toList

/-- The body `{"access_token":"A","expires_in":12}{}`. -/
def trailingToken : List UInt8 :=
  "\x7b\x22access_token\x22:\x22A\x22,\x22expires_in\x22:12\x7d\x7b\x7d".toUTF8.data.toList

def echoGet : Request where
  payload := none
  url := ⟨"https", some ⟨"", "h", none⟩, .segments ["a"], none, none⟩
  reader := Shape.echo.reader

def trailingMoves : List (Move (SharedPool.Move (List UInt8))) :=
  [.call echoGet, .answer 0 (.ok ⟨200, none, trailingBody⟩), .close 0]

theorem run?_trailingMoves :
    ∃ s es, run? (move? (Lender.pooled byteBuffers)) (start (SharedPool.start 1)) trailingMoves =
        some (s, es) ∧ .answered 0 (.ok ⟨200, none, trailingBody⟩) ∈ es ∧
      .returned 0 (.ok (.object [("value", .int 1)])) ∈ es := by
  have hruns : (run? (move? (Lender.pooled byteBuffers)) (start (SharedPool.start 1))
      trailingMoves).map Prod.snd =
      some (.called 0 echoGet :: opening 0 .getJson ++
        [.sent 0 echoGet.url none, .answered 0 (.ok ⟨200, none, trailingBody⟩)] ++
        closing 0 (some (.ok (.object [("value", .int 1)])))) := by
    rfl
  obtain ⟨⟨s, es⟩, h, rfl⟩ := Option.map_eq_some_iff.1 hruns
  exact ⟨s, _, h, by simp [opening], by simp [closing]⟩

theorem fronts_decide_of_trailingMoves :
    ∃ s es, run? (move? (Lender.pooled byteBuffers)) (start (SharedPool.start 1)) trailingMoves =
        some (s, es) ∧ .returned 0 (.ok (.object [("value", .int 1)])) ∈ es ∧ BodiesRead es := by
  obtain ⟨s, es, h, -, hreturned⟩ := run?_trailingMoves
  exact ⟨s, es, h, hreturned, fronts_decide (fun _ => rfl) (fun _ => rfl) h⟩

theorem not_isWhole_trailingBody (doc : Doc) : ¬IsWhole trailingBody doc := fun h =>
  absurd (h.blanks 0x3c (by decide)) (by decide)

theorem not_isWhole_trailingToken (doc : Doc) : ¬IsWhole trailingToken doc := fun h =>
  absurd (h.blanks 0x7b (by decide)) (by decide)

/-- Neither a call nor a request for a token looks at what follows a document. -/
theorem trailing_bytes_pass :
    (∃ s es, run? (move? (Lender.pooled byteBuffers)) (start (SharedPool.start 1)) trailingMoves =
        some (s, es) ∧ .answered 0 (.ok ⟨200, none, trailingBody⟩) ∈ es ∧
      .returned 0 (.ok (.object [("value", .int 1)])) ∈ es ∧ ¬∃ doc, IsWhole trailingBody doc) ∧
    ((TokenEndpoint.usual.authenticate (m := StateM Unit)
        (fun _ => pure (.ok ⟨200, none, trailingToken⟩))
        ⟨⟨"wx1234567890abcdef", rfl⟩, ⟨"secret"⟩⟩).run ()).1 = .ok ⟨⟨"A"⟩, .whole 12 (by decide)⟩ ∧
      ¬∃ doc, IsWhole trailingToken doc := by
  obtain ⟨s, es, h, hanswered, hreturned⟩ := run?_trailingMoves
  refine ⟨⟨s, es, h, hanswered, hreturned, ?_⟩, rfl, ?_⟩
  · rintro ⟨doc, hwhole⟩
    exact not_isWhole_trailingBody doc hwhole
  · rintro ⟨doc, hwhole⟩
    exact not_isWhole_trailingToken doc hwhole

end Calls

end FreshToken
