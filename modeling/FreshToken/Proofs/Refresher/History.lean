import FreshToken.Proofs.Refresher.Log
import Mathlib.Data.List.Infix
/-!
# Snapshots and the history of attempts

The current snapshot is a function of the attempts that ended: `snapshotOf` says which, without
looking at the snapshot before.  What readers are shown is always such a snapshot, whole, and
they never see an older one after a newer one.
-/

namespace FreshToken.Refresher

/-! ## The snapshot of a history -/

def Completed.issued? (a : Completed) : Option (IssuedToken × Nat) :=
  match a.outcome with
  | .ok t => some (t, a.clock)
  | .error _ => none

def Completed.fault? (a : Completed) : Option AuthFault :=
  match a.outcome with
  | .ok _ => none
  | .error f => some f

def lastIssued? (attempts : List Completed) : Option (IssuedToken × Nat) :=
  (attempts.filterMap Completed.issued?).getLast?

/-- What is known after the given attempts. -/
def snapshotOf (attempts : List Completed) : Snapshot where
  token := (lastIssued? attempts).map (·.1.token)
  lastFault := attempts.getLast?.bind Completed.fault?
  attempt := attempts.length
  refreshedAt := (lastIssued? attempts).map (·.2)
  expiresAt := (lastIssued? attempts).bind fun (t, clock) => expiry? clock t.lifetime

theorem snapshotOf_append (attempts : List Completed) (a : Completed) :
    snapshotOf (attempts ++ [a]) = (snapshotOf attempts).after a.outcome a.clock := by
  obtain ⟨time, clock, outcome⟩ := a
  cases outcome <;>
    simp [snapshotOf, lastIssued?, Completed.issued?, Completed.fault?, Snapshot.after,
      Snapshot.succeeded, Snapshot.failed]

theorem result_snapshotOf (attempts : List Completed) (a : Completed) :
    (snapshotOf (attempts ++ [a])).result =
      match a.outcome with
      | .ok t => .ok t.token
      | .error f => .error (.authentication f) := by
  obtain ⟨time, clock, outcome⟩ := a
  cases outcome <;>
    simp [snapshotOf, lastIssued?, Completed.issued?, Completed.fault?, Snapshot.result]

/-! ## Every snapshot tells its history -/

section
variable {policy : Policy} {tick : Nat} {r : Refresher} {es : List Event}

theorem Reached.snapshot_eq (h : Reached policy tick r es) :
    r.snapshot = snapshotOf (completed es) := by
  induction h with
  | opened now call t clock valid issued => rfl
  | @step r r' es signals _ hstep ih =>
    cases hstep with
    | succeed | fail => simp [ih, snapshotOf_append]
    | _ => simpa [Refresher.stop] using ih

theorem Reached.result_eq (h : Reached policy tick r es) {last : Completed}
    (hlast : (completed es).getLast? = some last) :
    r.snapshot.result =
      match last.outcome with
      | .ok t => .ok t.token
      | .error f => .error (.authentication f) := by
  obtain ⟨earlier, heq⟩ := List.getLast?_eq_some_iff.1 hlast
  rw [h.snapshot_eq, heq, result_snapshotOf]

theorem Reached.isSome_lastIssued? (h : Reached policy tick r es) :
    (lastIssued? (completed es)).isSome := by
  induction h with
  | opened now call t clock valid issued => rfl
  | @step r r' es signals _ hstep ih =>
    rw [lastIssued?, List.getLast?_isSome] at ih ⊢
    simp only [List.filterMap_append]
    exact List.append_ne_nil_of_left_ne_nil ih _

theorem tail_inits_append_singleton {α : Type} (l : List α) (a : α) :
    (l ++ [a]).inits.tail = l.inits.tail ++ [l ++ [a]] := by
  rw [List.inits_append, List.tail_append_of_ne_nil (by cases l <;> simp)]
  simp

theorem Reached.published_eq (h : Reached policy tick r es) :
    (published es).map Prod.snd = (completed es).inits.tail.map snapshotOf := by
  induction h with
  | opened now call t clock valid issued => rfl
  | @step r r' es signals hr hstep ih =>
    cases hstep with
    | succeed | fail =>
      simp [tail_inits_append_singleton, ih, snapshotOf_append, hr.snapshot_eq, -List.map_tail,
        -List.inits_append]
    | _ => simpa using ih

theorem Reached.published_attempts (h : Reached policy tick r es) :
    (published es).map (·.2.attempt) = List.range' 1 (completed es).length := by
  induction h with
  | opened now call t clock valid issued => rfl
  | @step r r' es signals hr hstep ih =>
    cases hstep with
    | succeed | fail =>
      simp [ih, List.range'_1_concat, Snapshot.after, hr.snapshot_eq, snapshotOf, Nat.add_comm]
    | _ => simpa using ih

theorem Reached.last_published (h : Reached policy tick r es) :
    (published es).getLast?.map Prod.snd = some r.snapshot := by
  induction h with
  | opened now call t clock valid issued => rfl
  | @step r r' es signals hr hstep ih =>
    cases hstep with
    | succeed | fail => simp
    | _ => simpa [Refresher.stop] using ih

theorem Reached.shown_whole (h : Reached policy tick r es) :
    Each Event.shown? (fun before s => s = snapshotOf (completed before)) es := by
  induction h with
  | opened now call t clock valid issued => exact each_of_none rfl
  | @step r r' es signals hr hstep ih =>
    refine each_append ih ?_
    cases hstep with
    | read =>
      refine each_take rfl ?_ (each_of_none rfl)
      rw [List.append_nil, hr.snapshot_eq]
    | _ => exact each_of_none rfl

/-- The attempts that readers were shown never decrease, and none is after the current one. -/
theorem Reached.shown_monotone (h : Reached policy tick r es) :
    (shown es).Pairwise (fun a b => a.attempt ≤ b.attempt) ∧
      ∀ s ∈ shown es, s.attempt ≤ r.snapshot.attempt := by
  induction h with
  | opened now call t clock valid issued => simp [openingEvents]
  | @step r r' es signals _ hstep ih =>
    obtain ⟨hsorted, hbound⟩ := ih
    cases hstep with
    | read =>
      have hshown : shown (es ++ [Signal.shown r.snapshot].map (Event.mk r.now)) =
          shown es ++ [r.snapshot] := by
        simp
      rw [hshown, List.pairwise_append]
      refine ⟨⟨hsorted, List.pairwise_singleton _ _, fun s hs last hlast => ?_⟩, fun s hs => ?_⟩
      · rw [List.mem_singleton.1 hlast]
        exact hbound s hs
      · rcases List.mem_append.1 hs with hs | hs
        · exact hbound s hs
        · rw [List.mem_singleton.1 hs]
    | succeed | fail =>
      refine ⟨by simpa using hsorted, fun s hs => ?_⟩
      have hs := hbound s (by simpa using hs)
      simp only [snapshot_settled, Snapshot.after, Snapshot.attempt_succeeded,
        Snapshot.attempt_failed]
      omega
    | _ => exact ⟨by simpa using hsorted, by simpa [Refresher.stop] using hbound⟩

end

/-- Every snapshot is exactly the history of the attempts so far.  After `n` attempts the current
snapshot and each one that a reader is shown are `snapshotOf` those attempts, the published ones
follow each other without gaps, readers never go back, and there is always a token: what a reader
gets is the token of the last attempt, or why that very attempt failed. -/
theorem snapshot_tells_history {policy : Policy} {tick now clock : Nat} {call : Call}
    {moves : List Move} {r : Refresher} {es : List Event}
    (h : Opening.run? policy tick now call clock moves = some (r, es)) :
    r.snapshot = snapshotOf (completed es) ∧
      (published es).map Prod.snd = (completed es).inits.tail.map snapshotOf ∧
      (published es).map (·.2.attempt) = List.range' 1 (completed es).length ∧
      (∀ before t s later, es = before ++ ⟨t, .shown s⟩ :: later →
        s = snapshotOf (completed before)) ∧
      (shown es).Pairwise (fun a b => a.attempt ≤ b.attempt) ∧
      r.snapshot.token.isSome ∧
      ∃ last, (completed es).getLast? = some last ∧
        r.snapshot.result =
          match last.outcome with
          | .ok t => .ok t.token
          | .error f => .error (.authentication f) := by
  have hr := reached_of_run? h
  refine ⟨hr.snapshot_eq, hr.published_eq, hr.published_attempts,
    fun before t s later heq => hr.shown_whole before _ later s heq rfl, hr.shown_monotone.1,
    ?_, ?_⟩
  · rw [hr.snapshot_eq]
    simpa [snapshotOf] using hr.isSome_lastIssued?
  · obtain ⟨earlier, last, heq⟩ := hr.exists_last
    have hlast : (completed es).getLast? = some last := by rw [heq, List.getLast?_concat]
    exact ⟨last, hlast, hr.result_eq hlast⟩

theorem snapshot_tells_history_of_cutOff :
    ∃ r es, Opening.run? .standard 1000000 0 promptCall 0 cutOffMoves = some (r, es) ∧
      (completed es).length = 2 ∧ r.snapshot = snapshotOf (completed es) := by
  have hruns : (Opening.run? .standard 1000000 0 promptCall 0 cutOffMoves).map
      (fun p => (completed p.2).length) = some 2 := by rfl
  obtain ⟨⟨r, es⟩, h, hlength⟩ := Option.map_eq_some_iff.1 hruns
  exact ⟨r, es, h, hlength, (snapshot_tells_history h).1⟩

end FreshToken.Refresher
