import FreshToken.Proofs.Client.Gate
import FreshToken.Proofs.Executor.Balance
import FreshToken.Proofs.Refresher.Reports
/-!
# The parts of a client

The refresher and the executor of a client each make the moves that they would make alone, and each
report comes from one of them.
-/

namespace FreshToken

open Machine

/-! ## Whose report it is -/

/-- The operation that an entry is about.  A pool does not know for whom it works. -/
def Entry.operation? : Entry → Option Operation
  | .span stage => some stage.operation
  | .refreshed .. | .refreshFailed .. | .rescheduled _ => some .refresh
  | .overflow _ => none

def Note.operation? : Note → Option Operation
  | .counted op _ => some op
  | .logged e => e.operation?

def Note.isRefresh (n : Note) : Bool := n.operation? == some .refresh

theorem Refresher.Reached.all_isRefresh {policy : Policy} {tick : Nat} {r : Refresher}
    {es : List Refresher.Event} (h : Refresher.Reached policy tick r es) :
    (Refresher.notes es).all Note.isRefresh = true := by
  induction h with
  | opened now call t clock valid issued => rfl
  | @step r r' es signals hr hstep ih =>
    have hnew : (Refresher.notes (signals.map (.mk r.now))).all Note.isRefresh = true := by
      cases hstep <;> rfl
    rw [Refresher.notes, List.filterMap_append, List.all_append, ih, hnew]
    rfl

theorem SharedPool.Reached.operation? {k : BufferKind (List UInt8)} {capacity : Nat}
    {s : SharedPool (List UInt8)} {es : List (SharedPool.Signal (List UInt8))}
    (h : SharedPool.Reached k capacity s es) {e : Entry} (logged : .logged e ∈ es) :
    e.operation? = none := by
  unfold SharedPool.Reached at h
  induction h with
  | start => cases logged
  | step before move ih =>
    rcases List.mem_append.1 logged with hold | hnew
    · exact ih hold
    · cases SharedPool.step_of_move? move with
      | discard =>
        cases List.mem_singleton.1 hnew
        rfl
      | spent hspent =>
        have hr : SharedPool.Reached k capacity _ _ := before
        exact (hr.ledger_true.sound.borrower hspent).elim
      | _ => simp at hnew

theorem Calls.Step.operation? {σ μ ε : Type} {L : Lender σ μ ε} {s s' : Calls σ} {m : Calls.Move μ}
    {new : List (Calls.Signal ε)} (h : Calls.Step L s m s' new) :
    ∀ x ∈ (Calls.own new).filterMap Calls.Signal.noted?, x.operation? = some .request := by
  have hclosing (n : Nat) (result? : Option (Except Error Json.Value)) :
      ∀ x ∈ (Calls.closing n result?).filterMap Calls.Signal.noted?,
        x.operation? = some .request := by
    cases result? <;> simp [Calls.closing, Calls.Signal.noted?, Note.operation?]
  cases h with
  | close => simpa using hclosing _ _
  | _ =>
    simp [Calls.opening, Calls.Signal.noted?, Note.operation?, Entry.operation?, Stage.operation]

namespace Traffic

variable {s s' : Traffic} {m : Move} {ms : List Move} {es new : List Signal} {policy : Policy}
  {tick now clock capacity : Nat} {call : Call}

/-! ## One part at a time -/

@[simp] def Move.refresh? : Move → Option Refresher.Move
  | .refresh m => some m
  | _ => none

/-- What the refresher does, it does alone. -/
theorem Step.refresher (h : Step s m s' new) :
    Machine.run? Refresher.timed? s.refresher m.refresh?.toList =
      some (s'.refresher, refreshes new) := by
  cases h with
  | @refresh m r signals hmove =>
    have htimed : Refresher.timed? s.refresher m =
        some (r, signals.map (.mk s.refresher.now)) := by
      rw [Refresher.timed?, hmove]
      rfl
    rw [refreshes_refresh]
    exact run?_one htimed
  | refuse => rfl
  | forward | execute =>
    rw [refreshes_execute]
    rfl

theorem run?_refresher (h : Machine.run? move? s ms = some (s', es)) :
    Machine.run? Refresher.timed? s.refresher (ms.filterMap Move.refresh?) =
      some (s'.refresher, refreshes es) := by
  induction ms generalizing s es with
  | nil =>
    cases h
    rfl
  | cons m rest ih =>
    obtain ⟨after, front, back, hmove, hrest, rfl⟩ := of_run?_cons h
    rw [filterMap_cons_toList, refreshes, List.filterMap_append]
    exact run?_append (step_of_move? hmove).refresher (ih hrest)

/-- The refresher of a client is one that makes the same moves without the client. -/
theorem run?_opening (h : run? policy tick now call clock capacity ms = some (s, es)) :
    Opening.run? policy tick now call clock (ms.filterMap Move.refresh?) =
      some (s.refresher, refreshes es) := by
  obtain ⟨r, front, back, hopening, hrun, rfl⟩ := run?_eq_some_iff.1 h
  have hback : r.run? (ms.filterMap Move.refresh?) = some (s.refresher, refreshes back) := by
    rw [Refresher.run?_eq_machine]
    exact run?_refresher hrun
  rw [refreshes, List.filterMap_append, ← refreshes, ← refreshes, refreshes_refresh]
  exact Refresher.opening_run?_append hopening hback

/-- The pool of a client and what its calls report, after any moves. -/
structure Apart (capacity : Nat) (s : Traffic) (es : List Signal) : Prop where
  pool : SharedPool.Reached byteBuffers capacity s.calls.lender (Calls.loans (executed es))
  calls : ∀ x ∈ (Calls.own (executed es)).filterMap Calls.Signal.noted?,
    x.operation? = some .request

theorem Apart.executed {m : Calls.Move (SharedPool.Move (List UInt8))}
    {calls : Calls (SharedPool (List UInt8))}
    {new : List (Calls.Signal (SharedPool.Signal (List UInt8)))} (hs : Apart capacity s es)
    (h : s.calls.move? (.pooled byteBuffers) m = some (calls, new)) :
    Apart capacity { s with calls := calls } (es ++ new.map .execute) := by
  have hstep := Calls.step_of_move? h
  have happend : Traffic.executed (es ++ new.map .execute) = Traffic.executed es ++ new := by
    rw [Traffic.executed, List.filterMap_append, ← Traffic.executed, ← Traffic.executed,
      executed_execute]
  constructor
  · rw [happend, Calls.loans_append]
    exact hstep.lender_reached hs.pool
  · rw [happend, Calls.own_append, List.filterMap_append]
    intro x hx
    rcases List.mem_append.1 hx with hold | hnew
    · exact hs.calls x hold
    · exact hstep.operation? x hnew

theorem Apart.step (hs : Apart capacity s es) (h : Step s m s' new) :
    Apart capacity s' (es ++ new) := by
  have hquiet (hnone : Traffic.executed new = []) (same : s'.calls = s.calls) :
      Apart capacity s' (es ++ new) := by
    have happend : Traffic.executed (es ++ new) = Traffic.executed es := by
      rw [Traffic.executed, List.filterMap_append, ← Traffic.executed, ← Traffic.executed, hnone,
        List.append_nil]
    exact ⟨by rw [happend, same]; exact hs.pool, by rw [happend]; exact hs.calls⟩
  cases h with
  | refresh => exact hquiet (executed_refresh _) rfl
  | refuse => exact hquiet rfl rfl
  | forward _ hmove | execute hmove => exact hs.executed hmove

theorem Apart.run (hs : Apart capacity s es) (h : Machine.run? move? s ms = some (s', new)) :
    Apart capacity s' (es ++ new) := by
  induction ms generalizing s es new with
  | nil =>
    cases h
    rw [List.append_nil]
    exact hs
  | cons m rest ih =>
    obtain ⟨after, front, back, hmove, hrest, rfl⟩ := of_run?_cons h
    rw [← List.append_assoc]
    exact ih (hs.step (step_of_move? hmove)) hrest

theorem apart_of_run? (h : run? policy tick now call clock capacity ms = some (s, es)) :
    Apart capacity s es := by
  obtain ⟨r, front, back, _, hrun, rfl⟩ := run?_eq_some_iff.1 h
  have hstart : Apart capacity ⟨r, .start (.start capacity)⟩ (front.map .refresh) := by
    constructor
    · rw [executed_refresh]
      exact .start
    · rw [executed_refresh]
      exact fun x hx => absurd hx (List.not_mem_nil)
  exact hstart.run hrun

/-! ## All reports -/

@[simp] def Signal.note? : Signal → Option Note
  | .refresh e => e.note?
  | .execute e => Calls.Signal.note? e
  | .refused .. => none

abbrev notes (es : List Signal) : List Note := es.filterMap Signal.note?

def counters (es : List Signal) : Counters := (notes es).foldl Counters.hear .zero

theorem Apart.not_isRefresh {e : Calls.Signal (SharedPool.Signal (List UInt8))} {x : Note}
    (hs : Apart capacity s es) (he : .execute e ∈ es) (hx : Calls.Signal.note? e = some x) :
    x.isRefresh = false := by
  have hmem : e ∈ Traffic.executed es := List.mem_filterMap.2 ⟨_, he, rfl⟩
  cases e with
  | noted n y =>
    cases hx
    have hown : .noted n x ∈ Calls.own (Traffic.executed es) :=
      List.mem_filterMap.2 ⟨_, hmem, rfl⟩
    have hop := hs.calls x (List.mem_filterMap.2 ⟨_, hown, rfl⟩)
    rw [Note.isRefresh, hop]
    rfl
  | lender e =>
    cases e with
    | logged entry =>
      cases hx
      have hop := hs.pool.operation? (List.mem_filterMap.2 ⟨_, hmem, rfl⟩)
      rw [Note.isRefresh, Note.operation?, hop]
      rfl
    | _ => cases hx
  | _ => cases hx

/-- The reports on refreshing are those of the refresher. -/
theorem filter_notes (h : run? policy tick now call clock capacity ms = some (s, es)) :
    (notes es).filter Note.isRefresh = Refresher.notes (refreshes es) := by
  have hs := apart_of_run? h
  have hall := (Refresher.reached_of_run? (run?_opening h)).all_isRefresh
  rw [notes, List.filter_filterMap, Refresher.notes, refreshes, List.filterMap_filterMap]
  apply List.filterMap_congr
  intro e he
  cases e with
  | refresh e =>
    simp only [Signal.note?, Signal.refresh?, Option.bind_some]
    cases hx : e.note? with
    | none => rfl
    | some x =>
      have hmem : x ∈ Refresher.notes (refreshes es) :=
        List.mem_filterMap.2 ⟨e, List.mem_filterMap.2 ⟨_, he, rfl⟩, hx⟩
      have hrefresh := List.all_eq_true.1 hall x hmem
      simp [Option.filter, hrefresh]
  | refused q e => rfl
  | execute e =>
    simp only [Signal.note?, Signal.refresh?, Option.bind_none]
    cases hx : Calls.Signal.note? e with
    | none => rfl
    | some x => simp [Option.filter, hs.not_isRefresh he hx]

theorem hear_filter {c c' : Counters} (l : List Note) (h : c.refresh = c'.refresh) :
    (l.foldl Counters.hear c).refresh =
      ((l.filter Note.isRefresh).foldl Counters.hear c').refresh := by
  induction l generalizing c c' with
  | nil => exact h
  | cons x rest ih =>
    by_cases hx : x.isRefresh = true
    · rw [List.filter_cons_of_pos hx]
      apply ih
      cases x with
      | counted op o => cases op <;> simp [Counters.hear, Counters.count, h]
      | logged e => exact h
    · rw [List.filter_cons_of_neg hx]
      apply ih
      cases x with
      | counted op o =>
        cases op with
        | refresh => exact absurd rfl hx
        | request => exact h
      | logged e => exact h

/-- Requests do not count as attempts to refresh. -/
theorem counters_refresh (h : run? policy tick now call clock capacity ms = some (s, es)) :
    (counters es).refresh = s.refresher.tally := by
  have hcounters := (Refresher.reached_of_run? (run?_opening h)).counters_eq
  rw [counters, hear_filter _ rfl, filter_notes h]
  exact congrArg Counters.refresh hcounters

end Traffic

end FreshToken
