import FreshToken.Proofs.Executor.Agreement
import FreshToken.Proofs.Executor.Pooling
import FreshToken.Proofs.Executor.Shapes
import FreshToken.Proofs.Json.Writing
/-!
# Values that are sent back

A post whose answers are its own body, with any status that is accepted, returns the value that was
posted if its reader restores that, whatever happened on the pool before and whatever goes on beside
it.
-/

namespace FreshToken

open Json

/-- A value with a text, which the reader gives back whenever it is meant. -/
structure Suits (r : Reader Value) (v : Value) : Prop where
  within : v.Within deepest
  restored : r.Restores id (· = v)

theorem Shape.suits {shape : Shape} {v : Value} (h : shape.Fits v) : Suits shape.reader v where
  within := shape.allWithin_fits v h
  restored := by
    intro room doc w hdoc hw hroom
    exact shape.reader_restores hdoc (hw ▸ h) hroom

namespace Executor

variable {reader : Reader Value} {v : Value} {r : Response}

/-- A body that begins with a document for a value that the reader restores. -/
theorem readAnswer_of_means {doc : Doc} {ws bs rest : List UInt8} (hdoc : doc.Spells bs)
    (hmeans : doc.Means v) (hv : Suits reader v) (hws : Blanks ws) (hrest : doc.Ends rest)
    (success : r.isSuccess = true) (body : r.body = ws ++ (bs ++ rest)) :
    readAnswer reader (.ok r) = .ok v.arranged := by
  have hdepth : v.depth < nestingLimit := Nat.lt_of_le_of_lt hv.within.shallow (by decide)
  have hread : reader.first r.body = .ok v.arranged := by
    rw [Reader.first, body, scan_of_spells hdoc hws hrest]
    exact hv.restored.read_eq hmeans rfl hdepth
  rw [readAnswer_of_isSuccess reader success, hread]
  rfl

/-- The text of a value is read as the value. -/
theorem readAnswer_of_encode (hv : Suits reader v) (success : r.isSuccess = true)
    (body : r.body = v.encode) : readAnswer reader (.ok r) = .ok v.arranged := by
  obtain ⟨doc, hdoc, hmeans⟩ := hv.within.exact.exists_doc
  refine readAnswer_of_means hdoc hmeans hv blanks_nil (blanks_nil.ends doc) success ?_
  rw [body, List.nil_append, List.append_nil]

end Executor

namespace Calls

open Machine

variable {k : BufferKind (List UInt8)} {s : Calls (SharedPool (List UInt8))}
  {es : List (Signal (SharedPool.Signal (List UInt8)))} {n : Nat} {q : Request} {v : Value}

/-- The transport answers call `n` with what the call sent, and a status that is accepted. -/
def Echoes (n : Nat) (es : List (Signal (SharedPool.Signal (List UInt8)))) : Prop :=
  ∀ a, .answered n a ∈ es → ∃ r url, a = .ok r ∧ r.isSuccess = true ∧
    .sent n url (some r.body) ∈ es

/-! ## What is returned -/

theorem Courses.echoed (hc : Courses s es) (hcalled : .called n q ∈ es)
    (hpayload : q.payload = some (.value v)) (hv : Suits q.reader v) (echoes : Echoes n es)
    {result : Except Error Value} (hreturned : .returned n result ∈ es) :
    result = .ok v.arranged := by
  obtain ⟨progress, -, hcourse⟩ := hc.job hcalled
  rcases hcourse.yields (mem_trace hreturned rfl rfl) with hspoiled | ⟨a, ha, rfl⟩
  · obtain ⟨p, f, hp, hfault, -⟩ := hspoiled
    rw [hpayload] at hp
    cases hp
    cases hfault
  · obtain ⟨r, url, rfl, hsuccess, hsent⟩ := echoes a (mem_of_mem_trace ha)
    obtain ⟨-, w, hw, hbody⟩ := hc.body hcalled hpayload hsent
    cases hw
    exact Executor.readAnswer_of_encode hv hsuccess (Option.some.inj hbody)

/-! ## That it is returned -/

/-- A post gets its buffer and sends its body without waiting for anyone. -/
theorem Leased.sends (hs : Leased s) (hfresh : ∀ n, k.fresh n = []) (hreset : ∀ b, k.reset b = [])
    (hpayload : q.payload = some (.value v)) :
    ∃ ms s' new j, run? (move? (Lender.pooled k)) s (.call q :: ms) = some (s', new) ∧
      s'.jobs[s.jobs.length]? = some ⟨q, .pending (some j)⟩ ∧
      .sent s.jobs.length q.url (some v.encode) ∈ new := by
  have hcall : s.move? (Lender.pooled k) (.call q) =
      some (⟨((Lender.pooled k).lease s.lender).2.1,
          s.jobs ++ [⟨q, .leasing s.lender.borrowers.length⟩]⟩,
        .called s.jobs.length q :: opening s.jobs.length .postJson ++
          ((Lender.pooled k).lease s.lender).2.2.map .lender) := by
    simp only [move?, call, hpayload]
    rfl
  have hjob := List.getElem?_concat_length (l := s.jobs)
    (a := ⟨q, .leasing s.lender.borrowers.length⟩)
  have hmid := (step_of_move? hcall).leased hs hfresh hreset
  obtain ⟨x, hx, hcoming⟩ := hmid.fits _ _ _ hjob rfl
  obtain ⟨i, p, ls, hlease, b, hguard⟩ := run?_alone (alone_coming (k := k) hx hcoming)
  have hready := hmid.reached hfresh hreset (reached_of_run? hlease)
  have hempty : b.content = [] := hready.clean (k := k) _ _ q _ hjob (content?_pooled hguard)
  have hsend := move?_encode_of_formed (k := k) (s := ⟨p, _⟩) hjob hpayload hguard rfl
  rw [hempty, List.nil_append] at hsend
  have hrun := run?_step hcall (run?_append hlease (run?_one hsend))
  exact ⟨_, _, _, _, hrun, getElem?_set_of_getElem? _ hjob, by simp [Payload.encode]⟩

/-- A call that has its answer returns without waiting for anyone. -/
theorem Leased.returns (hs : Leased s) (hfresh : ∀ n, k.fresh n = []) (hreset : ∀ b, k.reset b = [])
    {lease? : Option Nat} (hjob : s.jobs[n]? = some ⟨q, .pending lease?⟩)
    (a : Except TransportFault Response) :
    ∃ ms s' new, run? (move? (Lender.pooled k)) s (.answer n a :: ms) = some (s', new) ∧
      .returned n (Executor.readAnswer q.reader a) ∈ new := by
  have hanswer : s.move? (Lender.pooled k) (.answer n a) =
      some ((s.drop (Lender.pooled k) lease?).1.set n q
          (.ending lease? (some (Executor.readAnswer q.reader a))),
        .answered n a :: (s.drop (Lender.pooled k) lease?).2) := by
    simp only [move?, hjob]
  have hended := (step_of_move? hanswer).leased hs hfresh hreset
  have hjob' : ((s.drop (Lender.pooled k) lease?).1.set n q
      (.ending lease? (some (Executor.readAnswer q.reader a)))).jobs[n]? =
        some ⟨q, .ending lease? (some (Executor.readAnswer q.reader a))⟩ := by
    rw [Calls.set, jobs_drop]
    exact getElem?_set_of_getElem? _ hjob
  obtain ⟨i, s', front, hclose⟩ := hended.closes (k := k) hjob'
  exact ⟨_, _, _, run?_step hanswer hclose, by simp [closing]⟩

/-! ## Values there and back -/

/-- What becomes of values that are posted and sent back. -/
structure EchoedBack (k : BufferKind (List UInt8)) (s : Calls (SharedPool (List UInt8)))
    (es : List (Signal (SharedPool.Signal (List UInt8)))) : Prop where
  /-- A call whose value is sent back to it returns nothing but that value. -/
  returned : ∀ (n : Nat) (q : Request) (v : Value), .called n q ∈ es →
    q.payload = some (.value v) → Suits q.reader v → Echoes n es →
      ∀ result, .returned n result ∈ es → result = .ok v.arranged
  /-- A new call sends the text of its value and, once that is sent back, returns the value. -/
  returns : ∀ (q : Request) (v : Value), q.payload = some (.value v) → Suits q.reader v →
    ∃ ms s' new, run? (move? (Lender.pooled k)) s (.call q :: ms) = some (s', new) ∧
      .sent s.jobs.length q.url (some v.encode) ∈ new ∧
      ∀ r : Response, r.isSuccess = true → r.body = v.encode →
        ∃ ms' s'' more, run? (move? (Lender.pooled k)) s' (.answer s.jobs.length (.ok r) :: ms') =
            some (s'', more) ∧
          .returned s.jobs.length (.ok v.arranged) ∈ more
  /-- The arrangement of a value is the value, but for the order of members. -/
  again : ∀ (r : Reader Value) (v : Value), Suits r v →
    v.Same v.arranged ∧ (v.Ordered → v.arranged = v)
  /-- Values of no type in particular and those of the typed shapes are among them. -/
  shapes : ∀ (shape : Shape) (v : Value), shape.Fits v → Suits shape.reader v

/-- Whatever happened on the pool before, every value that its reader restores comes back as it was
posted. -/
theorem echoed_back (hfresh : ∀ n, k.fresh n = []) (hreset : ∀ b, k.reset b = []) {capacity : Nat}
    {moves : List (Move (SharedPool.Move (List UInt8)))}
    (h : run? (move? (Lender.pooled k)) (start (SharedPool.start capacity)) moves =
      some (s, es)) : EchoedBack k s es := by
  have hs := (leased_start capacity).reached hfresh hreset (reached_of_run? h)
  have hc := courses_reached hfresh hreset (reached_of_run? h)
  constructor
  case returned =>
    intro n q v hcalled hpayload hv echoes result hreturned
    exact hc.echoed hcalled hpayload hv echoes hreturned
  case returns =>
    intro q v hpayload hv
    obtain ⟨ms, s', new, j, hrun, hjob, hsent⟩ := hs.sends hfresh hreset hpayload
    refine ⟨ms, s', new, hrun, hsent, fun r hsuccess hbody => ?_⟩
    have hs' := hs.reached hfresh hreset (reached_of_run? hrun)
    obtain ⟨ms', s'', more, hrun', hreturned⟩ := hs'.returns hfresh hreset hjob (.ok r)
    rw [Executor.readAnswer_of_encode hv hsuccess hbody] at hreturned
    exact ⟨ms', s'', more, hrun', hreturned⟩
  case again =>
    intro r v hv
    exact ⟨hv.within.exact.same_arranged, Value.Ordered.arranged_eq⟩
  case shapes =>
    intro shape v hv
    exact Shape.suits hv

/-- A greatest integer, a control, a quote and a character beyond sixteen bits, in an object whose
members do not stand in order. -/
def sampleValue : Value :=
  .object [("z", .list [.int 18446744073709551615, .int (-9223372036854775808)]),
    ("a", .string "\x01\"😀")]

def samplePost : Request where
  payload := some (.value sampleValue)
  url := ⟨"https", some ⟨"", "h", none⟩, .segments ["a"], none, none⟩
  reader := Shape.any.reader

def sampleAnswer : Response := ⟨201, none, sampleValue.encode⟩

/-- A call that leaves half of a body in the only buffer, and then one that is echoed. -/
def echoMoves : List (Move (SharedPool.Move (List UInt8))) :=
  [.call spoiledPost, .lender (.step 0), .lender (.step 0), .lender (.step 0), .encode 0,
    .lender (.step 0), .lender (.step 0), .close 0, .call samplePost, .lender (.step 1),
    .lender (.step 1), .encode 1, .answer 1 (.ok sampleAnswer),
    .lender (.step 1), .lender (.step 1), .close 1]

theorem fits_sampleValue : Shape.any.Fits sampleValue := by
  have hlist : (Value.list [.int 18446744073709551615, .int (-9223372036854775808)]).Exact := by
    refine .list ?_
    rw [List.forall_mem_cons, List.forall_mem_singleton]
    exact ⟨.int rfl, .int rfl⟩
  refine ⟨.object (by decide : ["z", "a"].Nodup) ?_, by decide⟩
  rw [List.forall_mem_cons, List.forall_mem_singleton]
  exact ⟨hlist, .string _⟩

theorem suits_sampleValue : Suits samplePost.reader sampleValue := Shape.suits fits_sampleValue

theorem echoed_back_of_echoMoves :
    ∃ s es, run? (move? (Lender.pooled byteBuffers)) (start (SharedPool.start 1)) echoMoves =
        some (s, es) ∧
      .returned 1 (.ok sampleValue.arranged) ∈ es ∧ EchoedBack byteBuffers s es := by
  have hruns : (run? (move? (Lender.pooled byteBuffers)) (start (SharedPool.start 1))
      echoMoves).map (fun p => trace 1 p.2) =
      some (.called 1 samplePost :: opening 1 .postJson ++
        [.sent 1 samplePost.url (some sampleValue.encode),
          .answered 1 (.ok sampleAnswer)] ++
        closing 1 (some (Executor.readAnswer samplePost.reader (.ok sampleAnswer)))) := by
    rfl
  obtain ⟨⟨s, es⟩, h, heq⟩ := Option.map_eq_some_iff.1 hruns
  have hreturned :
      .returned 1 (Executor.readAnswer samplePost.reader (.ok sampleAnswer)) ∈ trace 1 es := by
    rw [heq]
    simp [closing]
  rw [Executor.readAnswer_of_encode suits_sampleValue rfl rfl] at hreturned
  exact ⟨s, es, h, mem_of_mem_trace hreturned, echoed_back (fun _ => rfl) (fun _ => rfl) h⟩

end Calls

end FreshToken
