import FreshToken.Proofs.Executor.Agreement
import FreshToken.Proofs.Refresher.Redaction
/-!
# Calls without their addresses

Addresses carry tokens.  The executor hands them on and looks at nothing in them: calls to other
addresses do the same, with the same buffers, reports and results.
-/

namespace FreshToken

def Request.redact (q : Request) : Request := { q with url := TokenEndpoint.usualUrl }

namespace Calls

def Job.redact (job : Job) : Job := { job with request := job.request.redact }

def Move.redact {μ : Type} : Move μ → Move μ
  | .call q => .call q.redact
  | m => m

def Signal.redact {ε : Type} : Signal ε → Signal ε
  | .called n q => .called n q.redact
  | .sent n _ body? => .sent n TokenEndpoint.usualUrl body?
  | s => s

section
variable {σ μ ε : Type} (L : Lender σ μ ε)

def redact (s : Calls σ) : Calls σ := { s with jobs := s.jobs.map Job.redact }

theorem lender_redact (s : Calls σ) : s.redact.lender = s.lender := rfl

theorem getElem?_redact (s : Calls σ) (n : Nat) :
    s.redact.jobs[n]? = (s.jobs[n]?).map Job.redact :=
  List.getElem?_map

theorem redact_set (s : Calls σ) (n : Nat) (q : Request) (p : Progress) :
    (s.set n q p).redact = s.redact.set n q.redact p := by
  simp only [redact, set, List.map_set, Job.redact]

theorem isLeased_redact (s : Calls σ) : s.redact.isLeased = s.isLeased := by
  funext j
  simp only [isLeased, redact, List.any_map]
  rfl

theorem redact_lender (es : List ε) :
    (es.map Signal.lender).map Signal.redact = es.map Signal.lender := by
  rw [List.map_map]
  rfl

theorem redact_drop (s : Calls σ) (lease? : Option Nat) :
    s.redact.drop L lease? =
      ((s.drop L lease?).1.redact, (s.drop L lease?).2.map Signal.redact) := by
  cases lease? with
  | none => rfl
  | some j => simp only [drop, redact, redact_lender]

theorem redact_call (s : Calls σ) (q : Request) :
    s.redact.call L q.redact = ((s.call L q).1.redact, (s.call L q).2.map Signal.redact) := by
  obtain ⟨payload, url, reader⟩ := q
  cases payload with
  | none => simp [call, redact, Request.redact, Job.redact, Signal.redact, opening]
  | some payload => simp [call, redact, Request.redact, Job.redact, Signal.redact, opening]

theorem redact_encode (s : Calls σ) (n : Nat) (q : Request) (j : Nat) (payload : Payload)
    (buffer : List UInt8) :
    s.redact.encode L n q.redact j payload buffer =
      ((s.encode L n q j payload buffer).1.redact,
        (s.encode L n q j payload buffer).2.map Signal.redact) := by
  rcases hencoded : payload.encode with ⟨written, _ | f⟩
  · simp only [encode, hencoded, List.map_append, redact_lender, redact_set]
    rfl
  · have hdrop := redact_drop L ⟨(L.fill s.lender j (buffer ++ written)).1, s.jobs⟩ (some j)
    simp only [encode, hencoded, List.map_append, redact_lender, redact_set, lender_redact]
    exact congrArg (fun p => (p.1.set n q.redact (.ending (some j) (some (.error (.encoding f)))),
      (L.fill s.lender j (buffer ++ written)).2.map Signal.lender ++ p.2)) hdrop

theorem move?_encode_redact (s : Calls σ) (n : Nat) :
    s.redact.move? L (.encode n) =
      (s.move? L (.encode n)).map fun p => (p.1.redact, p.2.map Signal.redact) := by
  simp only [move?, getElem?_redact]
  cases hjob : s.jobs[n]? with
  | none => rfl
  | some job =>
    obtain ⟨q, progress⟩ := job
    cases progress with
    | leasing j =>
      simp only [Option.map_some, Job.redact]
      rw [show q.redact.payload = q.payload from rfl, lender_redact]
      cases hpayload : q.payload with
      | none => rfl
      | some payload =>
        cases hcontent : L.content? s.lender j with
        | none => rfl
        | some buffer => exact congrArg some (redact_encode L s n q j payload buffer)
    | _ => rfl

theorem move?_close_redact (s : Calls σ) (n : Nat) :
    s.redact.move? L (.close n) =
      (s.move? L (.close n)).map fun p => (p.1.redact, p.2.map Signal.redact) := by
  simp only [move?, getElem?_redact]
  cases hjob : s.jobs[n]? with
  | none => rfl
  | some job =>
    obtain ⟨q, progress⟩ := job
    cases progress with
    | ending lease? result? =>
      simp only [Option.map_some, Job.redact]
      rw [lender_redact]
      split
      · cases result? <;> simp only [Option.map_some, redact_set] <;> rfl
      · rfl
    | _ => rfl

theorem move?_redact (s : Calls σ) (m : Move μ) :
    s.redact.move? L m.redact =
      (s.move? L m).map fun p => (p.1.redact, p.2.map Signal.redact) := by
  cases m with
  | call q => exact congrArg some (redact_call L s q)
  | encode n => exact move?_encode_redact L s n
  | answer n a =>
    simp only [Move.redact, move?, getElem?_redact]
    cases hjob : s.jobs[n]? with
    | none => rfl
    | some job =>
      obtain ⟨q, progress⟩ := job
      cases progress with
      | pending lease? =>
        simp only [Option.map_some, Job.redact, redact_drop, List.map_cons, redact_set]
        rfl
      | _ => rfl
  | cancel n =>
    simp only [Move.redact, move?, getElem?_redact]
    cases hjob : s.jobs[n]? with
    | none => rfl
    | some job =>
      obtain ⟨q, progress⟩ := job
      cases progress with
      | pending lease? =>
        simp only [Option.map_some, Job.redact, redact_drop, List.map_cons, redact_set]
        rfl
      | _ => rfl
  | close n => exact move?_close_redact L s n
  | lender m =>
    simp only [Move.redact, move?, isLeased_redact]
    rw [lender_redact, Option.map_map]
    congr 1
    funext p
    simp only [Function.comp_apply, redact_lender]
    rfl

end

def Signal.sights : Signal (SharedPool.Signal (List UInt8)) → List FreshToken.Sight
  | .noted _ n => [.note n]
  | .lender (.logged e) => [.note (.logged e)]
  | .returned _ (.error e) => [.error e]
  | _ => []

theorem Signal.sights_redact (s : Signal (SharedPool.Signal (List UInt8))) :
    Signal.sights s.redact = Signal.sights s := by
  cases s <;> rfl

/-- What shows of the executor that the calls use depends on its pool alone. -/
theorem record_redact (s : Calls (SharedPool (List UInt8))) :
    s.redact.executor.record = s.executor.record := rfl

end Calls

end FreshToken
