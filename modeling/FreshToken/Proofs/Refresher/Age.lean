import FreshToken.Proofs.Refresher.History
import FreshToken.Proofs.Refresher.Schedule
/-!
# The age of a snapshot

A snapshot is current for the longest delay that may follow its attempt, and for one more attempt.
Each of the two waits ends at a timer and may take a tick longer.  Requested intervals do not
matter, since they never make a delay longer.
-/

namespace FreshToken.Refresher

/-- How far things may have gone since a snapshot was published, if no delay after it is longer than
`longest`. -/
def InTime (r : Refresher) (published longest : Nat) : Prop :=
  match r.phase with
  | .starting first => r.now = published ∧ first.toNanos ≤ longest
  | .idle armed => r.now ≤ roundUp r.tick armed ∧ armed ≤ published + longest
  | .fetching fetch =>
    r.now ≤ fetch.ends ∧
      fetch.ends ≤ published + longest + r.policy.fetchTimeout.toNanos + 2 * r.tick
  | .stopped => True

section
variable {r : Refresher} {published longest : Nat}

theorem InTime.age_le (h : InTime r published longest) (alive : r.phase ≠ .stopped) :
    r.now ≤ published + longest + r.policy.fetchTimeout.toNanos + 2 * r.tick := by
  unfold InTime at h
  split at h
  · omega
  · rename_i armed _
    have hfire := roundUp_le r.tick armed
    omega
  · omega
  · contradiction

theorem InTime.arm {d : Duration} (hnow : r.now = published) (hd : d.toNanos ≤ longest) :
    InTime (r.arm d) published longest := by
  unfold InTime
  rcases phase_arm r d with ⟨hidle, _⟩ | ⟨hstop, _⟩
  · rw [hidle, now_arm, tick_arm]
    exact ⟨Nat.le_trans (Nat.le_add_right _ _) (le_roundUp _ _), by omega⟩
  · rw [hstop]
    trivial

theorem InTime.wait (h : InTime r published longest) {target : Nat} (unready : r.isReady = false)
    (early : ∀ wake ∈ r.wake?, target ≤ wake) :
    InTime { r with now := target } published longest := by
  unfold InTime at h ⊢
  cases hphase : r.phase with
  | starting first =>
    have hready := ready_of_starting hphase
    simp [unready] at hready
  | idle armed =>
    simp only [hphase] at h
    exact ⟨early _ (by simp [wake?, hphase]), h.2⟩
  | fetching fetch =>
    simp only [hphase] at h
    exact ⟨early _ (by simp [wake?, hphase]), h.2⟩
  | stopped => trivial

/-- An attempt that begins in time ends in time. -/
theorem InTime.ends_le (h : InTime r published longest) {armed : Nat}
    (idle : r.phase = .idle armed) (call : Call) :
    (Fetch.start r.tick r.policy.fetchTimeout r.now call).ends ≤
      published + longest + r.policy.fetchTimeout.toNanos + 2 * r.tick := by
  simp only [InTime, idle] at h
  have hfire := roundUp_le r.tick armed
  have hends := Fetch.ends_start_le_add r.tick r.policy.fetchTimeout r.now call
  omega

end

section
variable {policy : Policy} {tick : Nat} {r : Refresher} {es : List Event}

/-- `last` is the last attempt, its snapshot is the current one, and not too much time has passed
since then. -/
structure Current (policy : Policy) (r : Refresher) (es : List Event) (last : Completed) :
    Prop where
  isLast : (completed es).getLast? = some last
  isShown : (published es).getLast? = some (last.time, r.snapshot)
  past : last.time ≤ r.now
  inTime : InTime r last.time (policy.longestAfter last.outcome).toNanos

theorem Current.keep {last : Completed} (h : Current policy r es last) {r' : Refresher}
    {new : List Event} (hcompleted : completed new = []) (hpublished : published new = [])
    (hsnapshot : r'.snapshot = r.snapshot) (hnow : r.now ≤ r'.now)
    (hin : InTime r' last.time (policy.longestAfter last.outcome).toNanos) :
    Current policy r' (es ++ new) last where
  isLast := by simp only [List.filterMap_append, hcompleted, List.append_nil, h.isLast]
  isShown := by
    simp only [List.filterMap_append, hpublished, List.append_nil, h.isShown, hsnapshot]
  past := Nat.le_trans h.past hnow
  inTime := hin

theorem Reached.exists_current (h : Reached policy tick r es) :
    ∃ last, Current policy r es last := by
  induction h with
  | opened now call t clock valid issued =>
    exact ⟨_, rfl, rfl, Nat.le_refl _, rfl, Nat.le_refl _⟩
  | @step r r' es signals hr hstep ih =>
    obtain ⟨last, hlast⟩ := ih
    have hnow := hstep.now_le
    have hin := hlast.inTime
    cases hstep with
    | succeed fetch t clock =>
      refine ⟨⟨r.now, clock, .ok t⟩, by simp, by simp, by simp, InTime.arm rfl ?_⟩
      rw [hr.policy_eq]
      exact Policy.delayAfter_le_longestAfter hr.valid ..
    | fail fetch f clock =>
      refine ⟨⟨r.now, clock, .error f⟩, by simp, by simp, by simp, InTime.arm rfl ?_⟩
      rw [hr.policy_eq]
      exact Policy.delayAfter_le_longestAfter hr.valid ..
    | launch first starting =>
      simp only [InTime, starting] at hin
      exact ⟨last, hlast.keep rfl rfl (snapshot_arm ..) hnow (InTime.arm hin.1 hin.2)⟩
    | accept armed c call idle | fire armed call idle =>
      exact ⟨last, hlast.keep rfl rfl rfl hnow ⟨Fetch.le_ends_start .., hin.ends_le idle call⟩⟩
    | collapse | stop => exact ⟨last, hlast.keep rfl rfl rfl hnow trivial⟩
    | wait target unready forward early =>
      exact ⟨last, hlast.keep rfl rfl rfl hnow (hin.wait unready early)⟩
    | _ => exact ⟨last, hlast.keep rfl rfl rfl hnow hin⟩

end

/-- A snapshot is never current for longer than the delay that may follow its attempt, the time that
one more attempt may take, and two ticks.  So if a token outlasts all that, no reader gets it when
it is over, whatever intervals were requested and whatever attempts failed. -/
theorem age_bounded {policy : Policy} {tick now clock : Nat} {call : Call} {moves : List Move}
    {r : Refresher} {es : List Event}
    (h : Opening.run? policy tick now call clock moves = some (r, es))
    (alive : r.phase ≠ .stopped) :
    ∃ last, (completed es).getLast? = some last ∧
      (published es).getLast? = some (last.time, r.snapshot) ∧
      last.time ≤ r.now ∧
      (∀ t, last.outcome = .ok t →
        r.now - last.time ≤
          (policy.delayAfterSuccess t.lifetime).toNanos + policy.fetchTimeout.toNanos + 2 * tick) ∧
      (∀ f, last.outcome = .error f →
        r.now - last.time ≤
          policy.fallbackInterval.toNanos + policy.fetchTimeout.toNanos + 2 * tick) ∧
      ∀ token, r.snapshot.result = .ok token →
        ∃ t, last.outcome = .ok t ∧ t.token = token ∧
          ((policy.delayAfterSuccess t.lifetime).toNanos + policy.fetchTimeout.toNanos + 2 * tick ≤
              t.lifetime.toNanos →
            r.now - last.time ≤ t.lifetime.toNanos) := by
  have hr := reached_of_run? h
  obtain ⟨last, hcompleted, hpublished, hpast, hin⟩ := hr.exists_current
  have hage := hin.age_le alive
  rw [hr.policy_eq, hr.tick_eq] at hage
  refine ⟨last, hcompleted, hpublished, hpast, fun t ht => ?_, fun f hf => ?_,
    fun token htoken => ?_⟩
  · rw [ht, Policy.longestAfter] at hage
    omega
  · rw [hf, Policy.longestAfter] at hage
    omega
  · rw [hr.result_eq hcompleted] at htoken
    cases houtcome : last.outcome with
    | ok t =>
      rw [houtcome] at hage htoken
      cases htoken
      refine ⟨t, rfl, rfl, fun hlifetime => ?_⟩
      rw [Policy.longestAfter] at hage
      omega
    | error f =>
      rw [houtcome] at htoken
      cases htoken

theorem age_bounded_of_cutOff :
    ∃ r es last, Opening.run? .standard 1000000 0 promptCall 0 cutOffMoves = some (r, es) ∧
      (r.now = 90002000000 ∧ r.phase ≠ .stopped) ∧
      (completed es).getLast? = some last ∧ last.time ≤ r.now ∧
      ∀ f, last.outcome = .error f → r.now - last.time ≤
        Policy.standard.fallbackInterval.toNanos + Policy.standard.fetchTimeout.toNanos +
          2 * 1000000 := by
  have hruns : (Opening.run? .standard 1000000 0 promptCall 0 cutOffMoves).map
      (fun p => (p.1.now, p.1.phase)) = some (90002000000, .idle 90002000000) := by rfl
  obtain ⟨⟨r, es⟩, h, heq⟩ := Option.map_eq_some_iff.1 hruns
  obtain ⟨hnow, hphase⟩ := Prod.mk.inj heq
  have halive : r.phase ≠ .stopped := by
    rw [hphase]
    simp
  obtain ⟨last, hlast, _, hpast, _, hfailed, _⟩ := age_bounded h halive
  exact ⟨r, es, last, h, ⟨hnow, halive⟩, hlast, hpast, hfailed⟩

end FreshToken.Refresher
