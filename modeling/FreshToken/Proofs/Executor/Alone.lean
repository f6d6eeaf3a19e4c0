import FreshToken.Proofs.Executor.Leases
import FreshToken.Proofs.Pool.Alone
/-!
# Calls that are not interrupted

No call waits for another one: who leases a buffer gets it by steps of its own, and who has a result
can return it.
-/

namespace FreshToken.Calls

open Machine

variable {k : BufferKind (List UInt8)} {s : Calls (SharedPool (List UInt8))}

/-! ## Steps for the borrower of a call -/

theorem run?_lender {ms : List (SharedPool.Move (List UInt8))} {p : SharedPool (List UInt8)}
    {es : List (SharedPool.Signal (List UInt8))}
    (h : run? (SharedPool.move? k) s.lender ms = some (p, es)) (free : ∀ m ∈ ms, m.target? = none) :
    run? (move? (Lender.pooled k)) s (ms.map .lender) =
      some ({ s with lender := p }, es.map .lender) := by
  refine run?_map (fun p => { s with lender := p }) Move.lender Signal.lender ?_ h
  intro p m p' es hm hmove
  have hfree : m.target? = none := free m hm
  simp [move?, Lender.pooled, hfree, hmove]

def steps (j i : Nat) : List (Move (SharedPool.Move (List UInt8))) :=
  List.replicate i (.lender (.step j))

theorem run?_alone {j : Nat}
    {Q : SharedPool (List UInt8) → List (SharedPool.Signal (List UInt8)) → Prop}
    (h : SharedPool.Alone k j Q s.lender) :
    ∃ i p es, run? (move? (Lender.pooled k)) s (steps j i) =
      some ({ s with lender := p }, es.map .lender) ∧ Q p es := by
  obtain ⟨i, p, es, hrun, hQ⟩ := h
  refine ⟨i, p, es, ?_, hQ⟩
  rw [steps, ← List.map_replicate]
  refine run?_lender hrun fun m hm => ?_
  rw [(List.mem_replicate.1 hm).2]
  rfl

theorem alone_coming {p : SharedPool (List UInt8)} {j : Nat} {x : SharedPool.Borrower (List UInt8)}
    (hx : p.borrowers[j]? = some x) (coming : x.Coming) :
    SharedPool.Alone k j (fun p _ => ∃ b, p.borrowers[j]? = some (.guard (some b))) p := by
  cases x with
  | asking loan =>
    cases loan with
    | plain => exact coming.elim
    | lease => exact (SharedPool.gets_asking hx).borrower hx
  | found loan buffer? =>
    cases loan with
    | plain => exact coming.elim
    | lease => exact SharedPool.alone_found hx
  | building loan =>
    cases loan with
    | plain => exact coming.elim
    | lease => exact SharedPool.alone_building hx
  | guard buffer? =>
    cases buffer? with
    | none => exact coming.elim
    | some b => exact .now ⟨b, hx⟩
  | _ => exact coming.elim

theorem alone_going {p : SharedPool (List UInt8)} {j : Nat} {x : SharedPool.Borrower (List UInt8)}
    (hx : p.borrowers[j]? = some x) (going : x.Going) :
    SharedPool.Alone k j (fun p _ => p.borrowers[j]? = some .gone) p := by
  cases x with
  | returning b => exact (SharedPool.givesBack_returning hx).gone hx
  | emptied b => exact (SharedPool.givesBack_emptied hx).gone hx
  | refused b => exact SharedPool.alone_refused hx
  | gone => exact .now hx
  | _ => exact going.elim

theorem content?_pooled {p : SharedPool (List UInt8)} {j : Nat} {b : Tagged (List UInt8)}
    (h : p.borrowers[j]? = some (.guard (some b))) :
    (Lender.pooled k).content? p j = some b.content := by
  simp only [Lender.pooled, h]

theorem isBack_pooled {p : SharedPool (List UInt8)} {j : Nat} (h : p.borrowers[j]? = some .gone) :
    (Lender.pooled k).isBack p j = true := by
  simp only [Lender.pooled, h]

/-- A call that waits for its buffer need not wait for anyone else. -/
theorem Leased.encodes {n j : Nat} {q : Request} {payload : Payload} (hs : Leased s)
    (hjob : s.jobs[n]? = some ⟨q, .leasing j⟩) (hpayload : q.payload = some payload) :
    ∃ i s' new p, run? (move? (Lender.pooled k)) s (steps j i ++ [.encode n]) = some (s', new) ∧
      s'.jobs[n]? = some ⟨q, p⟩ ∧ p.outbound q = dispatch q := by
  obtain ⟨x, hx, hcoming⟩ := hs.fits n j _ hjob rfl
  obtain ⟨i, p, es, hrun, b, hguard⟩ := run?_alone (alone_coming (k := k) hx hcoming)
  have hready := content?_pooled (k := k) hguard
  have hmove : move? (Lender.pooled k) { s with lender := p } (.encode n) =
      some (encode (Lender.pooled k) { s with lender := p } n q j payload b.content) := by
    simp only [move?, hjob, hpayload, hready]
  obtain ⟨progress, hjob', hsent⟩ := (step_of_move? hmove).encoded hjob
  exact ⟨i, _, _, progress, run?_append hrun (run?_one hmove), hjob', hsent⟩

/-- A call that has its result, or was given up, need not wait for anyone else. -/
theorem Leased.closes {n : Nat} {q : Request} {lease? : Option Nat}
    {result? : Option (Except Error Json.Value)} (hs : Leased s)
    (hjob : s.jobs[n]? = some ⟨q, .ending lease? result?⟩) :
    ∃ i s' front, run? (move? (Lender.pooled k)) s (steps (lease?.getD 0) i ++ [.close n]) =
      some (s', front ++ closing n result?) := by
  cases lease? with
  | none =>
    have hmove : s.move? (Lender.pooled k) (.close n) =
        some (s.set n q .ended, closing n result?) := by
      simp [move?, hjob]
    exact ⟨0, _, [], run?_one hmove⟩
  | some j =>
    obtain ⟨x, hx, hgoing⟩ := hs.fits n j _ hjob rfl
    obtain ⟨i, p, es, hrun, hgone⟩ := run?_alone (alone_going (k := k) hx hgoing)
    have hmove : move? (Lender.pooled k) { s with lender := p } (.close n) =
        some (Calls.set { s with lender := p } n q .ended, closing n result?) := by
      simp [move?, hjob, isBack_pooled hgone]
    exact ⟨i, _, _, run?_append hrun (run?_one hmove)⟩

end FreshToken.Calls
