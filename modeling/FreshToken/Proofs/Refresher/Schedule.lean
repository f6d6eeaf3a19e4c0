import FreshToken.Proofs.Refresher.Log
/-!
# The schedule

Between attempts the timer is set for an instant that the log determines: `due?` computes it from
the last attempt and the last accepted command, whatever came before.  Attempts begin only then or
on a command, and no two of them lie too close together.
-/

namespace FreshToken.Refresher

/-- The interval that the last accepted command asked for. -/
def requested (es : List Event) : Option Duration := (accepted es).getLast?.bind (·.2.interval)

/-- Since when the refresher waits: the end of the last attempt, or the beginning of its own work
if there was only the first attempt. -/
def waitsSince? (es : List Event) : Option Nat :=
  match completed es with
  | [_] => (launched es).getLast?
  | attempts => attempts.getLast?.map Completed.time

def due? (policy : Policy) (es : List Event) : Option Nat := do
  let since ← waitsSince? es
  let last ← (completed es).getLast?
  return since + (policy.delayAfter last.outcome (requested es)).toNanos

section
variable {policy : Policy} {tick : Nat} {r : Refresher} {es : List Event}

/-- Only attempts that end, commands that are accepted and the launch move the timer. -/
theorem due?_append (policy : Policy) {es new : List Event} (hcompleted : completed new = [])
    (haccepted : accepted new = []) (hlaunched : launched new = []) :
    due? policy (es ++ new) = due? policy es := by
  simp only [due?, waitsSince?, requested, List.filterMap_append, hcompleted, haccepted, hlaunched,
    List.append_nil]

/-- After an attempt that ends the timer is set anew. -/
theorem due?_ended (policy : Policy) {es new : List Event} {a : Completed}
    (hbefore : completed es ≠ []) (hcompleted : completed new = [a])
    (haccepted : accepted new = []) :
    due? policy (es ++ new) =
      some (a.time + (policy.delayAfter a.outcome (requested es)).toNanos) := by
  -- There are two attempts by now, so the launch does not matter any more.
  have hwaits : waitsSince? (es ++ new) = some a.time := by
    simp only [waitsSince?, List.filterMap_append, hcompleted]
    split
    · rename_i heq
      obtain ⟨hnil, _⟩ | ⟨_, hcons⟩ := List.append_eq_singleton_iff.1 heq
      · exact absurd hnil hbefore
      · cases hcons
    · simp
  simp [due?, hwaits, requested, List.filterMap_append, hcompleted, haccepted]

theorem Reached.schedule_eq (h : Reached policy tick r es) : r.schedule = requested es := by
  induction h with
  | opened now call t clock valid issued => rfl
  | step _ hstep ih =>
    cases hstep with
    | accept => simp [requested]
    | _ => simpa [requested, Refresher.stop] using ih

/-- Before the launch there was only the first attempt, and no command was accepted. -/
theorem Reached.starting (h : Reached policy tick r es) {first : Duration}
    (starting : r.phase = .starting first) :
    accepted es = [] ∧ ∃ a, completed es = [a] ∧ r.now = a.time ∧
      first = policy.delayAfter a.outcome none := by
  induction h with
  | opened now call t clock valid issued =>
    refine ⟨rfl, _, rfl, rfl, ?_⟩
    cases starting
    exact (policy.delayWithOverride_none t.lifetime).symm
  | @step r r' es signals _ hstep ih =>
    cases hstep with
    | launch => exact absurd starting arm_not_starting
    | succeed | fail => exact absurd starting settled_not_starting
    | accept | fire | collapse | stop => cases starting
    | wait _ unready =>
      have hready := ready_of_starting (r := r) starting
      simp [unready] at hready
    | _ => simpa using ih starting

/-- While the refresher waits, the timer is set for what the log says. -/
theorem Reached.due?_eq (h : Reached policy tick r es) {armed : Nat}
    (idle : r.phase = .idle armed) : due? policy es = some armed := by
  induction h with
  | opened now call t clock valid issued => cases idle
  | @step r r' es signals hr hstep ih =>
    cases hstep with
    | launch first starting =>
      obtain ⟨haccepted, a, hcompleted, _, hfirst⟩ := hr.starting starting
      simp [due?, waitsSince?, requested, haccepted, hcompleted, armed_arm idle, hfirst]
    | succeed fetch t clock | fail fetch f clock =>
      rw [due?_ended policy hr.completed_ne_nil rfl rfl, armed_settled idle, hr.policy_eq,
        hr.schedule_eq]
    | accept | fire | collapse | stop => cases idle
    | _ => simpa [due?_append] using ih idle

/-- The timer is never later than the first tick that is not before the instant it is set for. -/
theorem Reached.now_le_roundUp (h : Reached policy tick r es) {armed : Nat}
    (idle : r.phase = .idle armed) : r.now ≤ roundUp tick armed := by
  induction h with
  | opened now call t clock valid issued => cases idle
  | @step r r' es signals hr hstep ih =>
    cases hstep with
    | launch =>
      rw [armed_arm idle, now_arm]
      exact Nat.le_trans (Nat.le_add_right _ _) (le_roundUp _ _)
    | succeed | fail =>
      rw [armed_settled idle, now_settled]
      exact Nat.le_trans (Nat.le_add_right _ _) (le_roundUp _ _)
    | accept | fire | collapse | stop => cases idle
    | wait target unready forward early =>
      rw [← hr.tick_eq]
      have idle : r.phase = .idle armed := idle
      exact early _ (by simp [wake?, idle])
    | _ => exact ih idle

theorem Reached.shortest_le_settled (h : Reached policy tick r es)
    {outcome : Except AuthFault IssuedToken} {clock armed : Nat}
    (idle : (r.settled outcome clock).phase = .idle armed) :
    ∀ a ∈ begun es, a.1 + policy.shortest.toNanos ≤ armed := by
  intro a ha
  have hbegun := h.begun_le a ha
  have hshort := policy.shortest_le_delayAfter h.valid outcome r.schedule
  rw [armed_settled idle, h.policy_eq]
  omega

/-- Whenever the timer is set, the attempts so far lie far enough back. -/
theorem Reached.shortest_le (h : Reached policy tick r es) {armed : Nat}
    (idle : r.phase = .idle armed) :
    ∀ a ∈ begun es, a.1 + policy.shortest.toNanos ≤ armed := by
  induction h with
  | opened now call t clock valid issued => cases idle
  | @step r r' es signals hr hstep ih =>
    cases hstep with
    | launch first starting =>
      obtain ⟨_, last, _, _, hfirst⟩ := hr.starting starting
      intro a ha
      have hbegun := hr.begun_le a (by simpa using ha)
      have hshort := policy.shortest_le_delayAfter hr.valid last.outcome none
      rw [armed_arm idle, hfirst]
      omega
    | succeed | fail => simpa using hr.shortest_le_settled idle
    | accept | fire | collapse | stop => cases idle
    | _ => simpa using ih idle

/-- An attempt that no command asked for begins late enough after all earlier ones. -/
theorem Reached.spaced (h : Reached policy tick r es) :
    (begun es).Pairwise fun a b =>
      (∀ c, b.2 ≠ .command c) → a.1 + policy.shortest.toNanos ≤ b.1 := by
  induction h with
  | opened now call t clock valid issued => simp [openingEvents]
  | @step r r' es signals hr hstep ih =>
    cases hstep with
    | accept => simpa [List.pairwise_append] using ih
    | fire armed call idle due =>
      have hshort := hr.shortest_le idle
      have harmed := le_roundUp r.tick armed
      simp only [List.filterMap_append, List.pairwise_append]
      refine ⟨ih, by simp, fun a ha b hb _ => ?_⟩
      have hb : b = (r.now, .timer) := by simpa using hb
      rw [hb]
      have := hshort a ha
      omega
    | _ => simpa using ih

/-- Every attempt has its cause: the opening, a command that was accepted at that instant, or the
instant for which the timer was set. -/
theorem Reached.caused (h : Reached policy tick r es) :
    Each Event.begun? (fun before attempt =>
      match attempt.2 with
      | .opening => begun before = []
      | .command c => (accepted before).getLast? = some (attempt.1, c)
      | .timer => (due? policy before).map (roundUp tick) = some attempt.1) es := by
  induction h with
  | opened now call t clock valid issued =>
    exact each_skip rfl (each_skip rfl (each_take rfl rfl (each_of_none rfl)))
  | @step r r' es signals hr hstep ih =>
    refine each_append ih ?_
    cases hstep with
    | accept armed c call =>
      refine each_skip rfl (each_skip rfl (each_skip rfl (each_skip rfl
        (each_take rfl ?_ (each_of_none rfl)))))
      simp
    | fire armed call idle due =>
      refine each_skip rfl (each_skip rfl (each_skip rfl
        (each_take rfl ?_ (each_of_none rfl))))
      have htime : roundUp tick armed = r.now := by
        rw [hr.tick_eq] at due
        exact Nat.le_antisymm due (hr.now_le_roundUp idle)
      simp [due?_append, hr.due?_eq idle, htime]
    | _ => exact each_of_none rfl

/-- A refresher stops only when the cache is dropped, when the authenticator breaks down, or in the
last year that the clock can tell. -/
theorem Reached.stopped (h : Reached policy tick r es) (stopped : r.phase = .stopped) :
    (∃ e ∈ es, e.signal = .dropped ∨ e.signal = .broke) ∨
      clockBound ≤ r.now + Policy.oneYear.toNanos := by
  induction h with
  | opened now call t clock valid issued => cases stopped
  | @step r r' es signals hr hstep ih =>
    cases hstep with
    | launch first starting =>
      obtain ⟨_, last, _, _, hfirst⟩ := hr.starting starting
      have hbound := stopped_arm stopped
      have hyear := policy.delayAfter_le_oneYear last.outcome none
      rw [hfirst] at hbound
      rw [now_arm]
      exact Or.inr (by omega)
    | succeed fetch t clock | fail fetch f clock =>
      have hbound := stopped_settled stopped
      have hyear := fun outcome => r.policy.delayAfter_le_oneYear outcome r.schedule
      rw [now_settled]
      exact Or.inr (Nat.le_trans hbound (Nat.add_le_add_left (hyear _) _))
    | collapse | stop => exact Or.inl (by simp)
    | accept | fire => cases stopped
    | wait target unready forward early =>
      rcases ih stopped with ⟨e, he, hsignal⟩ | hbound
      · exact Or.inl ⟨e, List.mem_append_left _ he, hsignal⟩
      · exact Or.inr (Nat.le_trans hbound (Nat.add_le_add_right forward _))
    | _ =>
      rcases ih stopped with ⟨e, he, hsignal⟩ | hbound
      · exact Or.inl ⟨e, List.mem_append_left _ he, hsignal⟩
      · exact Or.inr hbound

end

/-- Between attempts the timer is set for the instant that the last attempt and the last accepted
command determine.  An attempt begins only then or on a command, and late enough unless a command
asked for it.  Whatever lifetimes are reported and intervals requested, delays lie within bounds,
and the clock tells the instant for which the timer is set up to its last year. -/
theorem schedule_law {policy : Policy} {tick now clock : Nat} {call : Call} {moves : List Move}
    {r : Refresher} {es : List Event}
    (h : Opening.run? policy tick now call clock moves = some (r, es)) :
    (∀ armed, r.phase = .idle armed →
      due? policy es = some armed ∧ r.now ≤ roundUp tick armed) ∧
      (∀ before t cause later, es = before ++ ⟨t, .began cause⟩ :: later →
        match cause with
        | .opening => begun before = []
        | .command c => (accepted before).getLast? = some (t, c)
        | .timer => (due? policy before).map (roundUp tick) = some t) ∧
      (begun es).Pairwise (fun a b =>
        (∀ c, b.2 ≠ .command c) → a.1 + policy.shortest.toNanos ≤ b.1) ∧
      (∀ outcome interval,
        policy.shortest.toNanos ≤ (policy.delayAfter outcome interval).toNanos ∧
          (policy.delayAfter outcome interval).toNanos ≤ Policy.oneYear.toNanos ∧
          0 < (policy.delayAfter outcome interval).toNanos) ∧
      (r.phase = .stopped →
        (∃ e ∈ es, e.signal = .dropped ∨ e.signal = .broke) ∨
          clockBound ≤ r.now + Policy.oneYear.toNanos) := by
  have hr := reached_of_run? h
  refine ⟨fun armed idle => ⟨hr.due?_eq idle, hr.now_le_roundUp idle⟩,
    fun before t cause later heq => hr.caused before _ later (t, cause) heq rfl, hr.spaced,
    fun outcome interval => ⟨?_, ?_, ?_⟩, hr.stopped⟩
  · exact policy.shortest_le_delayAfter hr.valid outcome interval
  · exact policy.delayAfter_le_oneYear outcome interval
  · exact Policy.delayAfter_pos hr.valid outcome interval

theorem schedule_law_of_cutOff :
    ∃ r es, Opening.run? .standard 1000000 0 promptCall 0 cutOffMoves = some (r, es) ∧
      r.phase = .idle 90002000000 ∧ due? .standard es = some 90002000000 := by
  have hruns : (Opening.run? .standard 1000000 0 promptCall 0 cutOffMoves).map
      (fun p => p.1.phase) = some (.idle 90002000000) := by rfl
  obtain ⟨⟨r, es⟩, h, hidle⟩ := Option.map_eq_some_iff.1 hruns
  exact ⟨r, es, h, hidle, ((schedule_law h).1 _ hidle).1⟩

end FreshToken.Refresher
