import FreshToken.Proofs.Refresher.Schedule
/-!
# One attempt at a time

Attempts and commands, counted and in order.  An attempt begins only when all earlier ones are over,
each has exactly one cause, and commands are accepted in the order in which they took the slot.
None is stuck there, or stays for longer than one attempt takes.
-/

namespace FreshToken.Refresher

def inFlight (r : Refresher) : Nat :=
  match r.phase with
  | .fetching _ => 1
  | _ => 0

@[simp] theorem inFlight_arm (r : Refresher) (d : Duration) : (r.arm d).inFlight = 0 := by
  rcases phase_arm r d with ⟨h, _⟩ | ⟨h, _⟩ <;> rw [inFlight, h]

@[simp] theorem inFlight_settled (r : Refresher) (outcome : Except AuthFault IssuedToken)
    (clock : Nat) : (r.settled outcome clock).inFlight = 0 := inFlight_arm ..

def byCommand? : Nat × Cause → Option (Nat × Command)
  | (t, .command c) => some (t, c)
  | _ => none

section
variable {policy : Policy} {tick : Nat} {r : Refresher} {es : List Event}

theorem Reached.begun_length (h : Reached policy tick r es) (alive : r.phase ≠ .stopped) :
    (begun es).length = (completed es).length + r.inFlight := by
  induction h with
  | opened now call t clock valid issued => rfl
  | @step r r' es signals _ hstep ih =>
    have hsame := ih (hstep.alive alive)
    cases hstep with
    | launch first starting =>
      simp only [inFlight, starting] at hsame
      simpa using hsame
    | accept armed c call idle | fire armed call idle =>
      simp only [inFlight, idle] at hsame
      simpa [inFlight] using hsame
    | succeed fetch t clock fetching | fail fetch f clock fetching =>
      simp only [inFlight, fetching] at hsame
      simpa using hsame
    | collapse | stop => exact absurd rfl alive
    | _ => simpa [inFlight] using hsame

theorem Reached.begun_of_idle (h : Reached policy tick r es) {armed : Nat}
    (idle : r.phase = .idle armed) : (begun es).length = (completed es).length := by
  have hcount := h.begun_length (by simp [idle])
  simpa only [inFlight, idle, Nat.add_zero] using hcount

/-- An attempt begins only when all earlier ones are over. -/
theorem Reached.begins_alone (h : Reached policy tick r es) :
    Each Event.begun? (fun before _ => (begun before).length = (completed before).length) es := by
  induction h with
  | opened now call t clock valid issued =>
    exact each_skip rfl (each_skip rfl (each_take rfl rfl (each_of_none rfl)))
  | @step r r' es signals hr hstep ih =>
    refine each_append ih ?_
    cases hstep with
    | accept armed c call idle =>
      refine each_skip rfl (each_skip rfl (each_skip rfl (each_skip rfl
        (each_take rfl ?_ (each_of_none rfl)))))
      simpa using hr.begun_of_idle idle
    | fire armed call idle =>
      refine each_skip rfl (each_skip rfl (each_skip rfl
        (each_take rfl ?_ (each_of_none rfl))))
      simpa using hr.begun_of_idle idle
    | _ => exact each_of_none rfl

theorem Reached.accepts_alone (h : Reached policy tick r es) :
    Each Event.accepted? (fun before _ => (begun before).length = (completed before).length)
      es := by
  induction h with
  | opened now call t clock valid issued => exact each_of_none rfl
  | @step r r' es signals hr hstep ih =>
    refine each_append ih ?_
    cases hstep with
    | accept armed c call idle =>
      refine each_skip rfl (each_take rfl ?_ (each_of_none rfl))
      simpa using hr.begun_of_idle idle
    | _ => exact each_of_none rfl

/-- Each accepted command, and nothing else but the timer, causes one attempt. -/
theorem Reached.accepted_eq (h : Reached policy tick r es) :
    (begun es).filterMap byCommand? = accepted es := by
  induction h with
  | opened now call t clock valid issued => rfl
  | @step r r' es signals hr hstep ih =>
    cases hstep with
    | accept | fire => simpa [byCommand?, List.filterMap_cons] using ih
    | _ => simpa using ih

theorem Reached.begun_count (h : Reached policy tick r es) :
    (begun es).length = 1 + (accepted es).length + (fired es).length := by
  induction h with
  | opened now call t clock valid issued => rfl
  | @step r r' es signals hr hstep ih =>
    cases hstep with
    | accept | fire =>
      simp at ih ⊢
      omega
    | _ => simpa using ih

theorem Reached.entered_eq (h : Reached policy tick r es) (alive : r.phase ≠ .stopped) :
    (entered es).map Prod.snd = (accepted es).map Prod.snd ++ r.queue.slot.toList := by
  induction h with
  | opened now call t clock valid issued => rfl
  | @step r r' es signals _ hstep ih =>
    have hsame := ih (hstep.alive alive)
    cases hstep with
    | enter c rest vacant => simpa [vacant] using hsame
    | accept armed c call idle next => simpa [next] using hsame
    | launch => simpa [queue_arm alive] using hsame
    | succeed | fail => simpa [queue_settled alive] using hsame
    | collapse | stop => exact absurd rfl alive
    | _ => simpa [Queue.join, Queue.withdraw] using hsame

/-- Commands are accepted in the order in which they took the slot. -/
theorem Reached.accepted_prefix (h : Reached policy tick r es) :
    (accepted es).map Prod.snd <+: (entered es).map Prod.snd := by
  induction h with
  | opened now call t clock valid issued => simp [openingEvents]
  | @step r r' es signals hr hstep ih =>
    cases hstep with
    | enter c =>
      have hprefix := ih.trans (List.prefix_append _ [c])
      simpa using hprefix
    | accept armed c call idle next =>
      have hentered := hr.entered_eq (by simp [idle])
      simp only [next, Option.toList_some] at hentered
      simp [hentered]
    | _ => simpa using ih

/-! ## How long a command waits -/

theorem Reached.now_le_ends (h : Reached policy tick r es) {fetch : Fetch}
    (fetching : r.phase = .fetching fetch) : r.now ≤ fetch.ends := by
  induction h with
  | opened now call t clock valid issued => cases fetching
  | @step r r' es signals hr hstep ih =>
    cases hstep with
    | launch => exact absurd fetching arm_not_fetching
    | succeed | fail => exact absurd fetching settled_not_fetching
    | collapse | stop => cases fetching
    | accept | fire =>
      cases fetching
      exact Fetch.le_ends_start ..
    | wait target unready forward early =>
      have fetching : r.phase = .fetching fetch := fetching
      exact early _ (by simp [wake?, fetching])
    | _ => exact ih fetching

theorem Reached.ends_le (h : Reached policy tick r es) {fetch : Fetch}
    (fetching : r.phase = .fetching fetch) :
    fetch.ends ≤ r.now + policy.fetchTimeout.toNanos + tick := by
  induction h with
  | opened now call t clock valid issued => cases fetching
  | @step r r' es signals hr hstep ih =>
    cases hstep with
    | launch => exact absurd fetching arm_not_fetching
    | succeed | fail => exact absurd fetching settled_not_fetching
    | collapse | stop => cases fetching
    | accept | fire =>
      cases fetching
      rw [hr.policy_eq, hr.tick_eq]
      exact Fetch.ends_start_le_add ..
    | wait target unready forward early =>
      have hends := ih fetching
      show fetch.ends ≤ target + _ + _
      omega
    | _ => exact ih fetching

/-- What is known of a command that took the slot at `since` and is still there. -/
def Awaited (r : Refresher) (since : Nat) : Prop :=
  match r.phase with
  | .starting _ => r.now = since
  | .idle armed =>
    r.now = since ∨ r.now < armed ∧ r.now ≤ since + r.policy.fetchTimeout.toNanos + r.tick
  | .fetching fetch => fetch.ends ≤ since + r.policy.fetchTimeout.toNanos + r.tick
  | .stopped => True

theorem Awaited.settled {since : Nat} (h : Reached policy tick r es) (hr : Awaited r since)
    {fetch : Fetch} (fetching : r.phase = .fetching fetch)
    (outcome : Except AuthFault IssuedToken) (clock : Nat) :
    Awaited (r.settled outcome clock) since := by
  simp only [Awaited, fetching] at hr
  have hends := h.now_le_ends fetching
  have hpos := Policy.delayAfter_pos h.valid outcome r.schedule
  rw [← h.policy_eq] at hpos
  rcases phase_settled r outcome clock with ⟨hidle, _⟩ | ⟨hstop, _⟩
  · simp only [Awaited, hidle, now_settled, policy_settled, tick_settled]
    omega
  · simp only [Awaited, hstop]

theorem Reached.awaited (h : Reached policy tick r es) {c : Command}
    (full : r.queue.slot = some c) :
    ∃ since, (entered es).getLast? = some (since, c) ∧ Awaited r since := by
  induction h with
  | opened now call t clock valid issued => cases full
  | @step r r' es signals hr hstep ih =>
    cases hstep with
    | enter c' rest vacant first =>
      cases full
      refine ⟨r.now, by simp, ?_⟩
      unfold Awaited
      split
      · rfl
      · exact Or.inl rfl
      · rename_i fetch hfetching
        have hends := hr.ends_le hfetching
        rw [← hr.policy_eq, ← hr.tick_eq] at hends
        exact hends
      · trivial
    | launch first starting =>
      rcases phase_arm r first with ⟨hidle, hqueue⟩ | ⟨hstop, hqueue⟩
      · obtain ⟨since, hentered, hsince⟩ := ih (by rw [← hqueue, full])
        simp only [Awaited, starting] at hsince
        exact ⟨since, by simpa using hentered, by simp [Awaited, hidle, hsince]⟩
      · rw [hqueue] at full
        cases full
    | accept => cases full
    | fire armed call idle due =>
      obtain ⟨since, hentered, hsince⟩ := ih full
      refine ⟨since, by simpa using hentered, ?_⟩
      -- The timer would come later if the command had waited for an attempt.
      have harmed := le_roundUp r.tick armed
      have hends := Fetch.ends_start_le_add r.tick r.policy.fetchTimeout r.now call
      simp only [Awaited, idle] at hsince ⊢
      omega
    | succeed fetch t clock fetching | fail fetch f clock fetching =>
      rcases phase_settled r _ clock with ⟨_, hqueue⟩ | ⟨_, hqueue⟩
      · obtain ⟨since, hentered, hsince⟩ := ih (by rw [← hqueue, full])
        exact ⟨since, by simpa using hentered, hsince.settled hr fetching _ clock⟩
      · rw [hqueue] at full
        cases full
    | collapse | stop => cases full
    | wait target unready forward early =>
      obtain ⟨since, hentered, hsince⟩ := ih full
      refine ⟨since, by simpa using hentered, ?_⟩
      cases hphase : r.phase with
      | starting first =>
        have hready := ready_of_starting hphase
        simp [unready] at hready
      | idle armed =>
        have hvacant := (nobody_waits hphase unready).1
        have full : r.queue.slot = some c := full
        simp [hvacant] at full
      | fetching fetch =>
        simp only [Awaited, hphase] at hsince ⊢
        exact hsince
      | stopped => trivial
    | _ =>
      obtain ⟨since, hentered, hsince⟩ := ih full
      exact ⟨since, by simpa using hentered, hsince⟩

/-- A command leaves the slot as soon as one attempt can have been waited for. -/
theorem Reached.waits (h : Reached policy tick r es) (alive : r.phase ≠ .stopped) {c : Command}
    (full : r.queue.slot = some c) :
    ∃ since, (entered es).getLast? = some (since, c) ∧
      r.now ≤ since + policy.fetchTimeout.toNanos + tick := by
  obtain ⟨since, hentered, hsince⟩ := h.awaited full
  refine ⟨since, hentered, ?_⟩
  rw [← h.policy_eq, ← h.tick_eq]
  unfold Awaited at hsince
  split at hsince
  · omega
  · omega
  · rename_i fetch hfetching
    have hends := h.now_le_ends hfetching
    omega
  · contradiction

/-! ## Every command in the slot can be accepted -/

/-- Some moves accept a command or stop the refresher, although nobody drops the cache. -/
def CanServe (r : Refresher) (c : Command) : Prop :=
  ∃ moves r' log, .stop ∉ moves ∧ r.run? moves = some (r', log) ∧
    (c ∈ (accepted log).map Prod.snd ∨ r'.phase = .stopped)

theorem CanServe.cons {r' : Refresher} {c : Command} {m : Move} {signals : List Signal}
    (hmove : r.move? m = some (r', signals)) (hm : m ≠ .stop) (h : CanServe r' c) :
    CanServe r c := by
  obtain ⟨moves, final, log, hstop, hrun, hserved⟩ := h
  refine ⟨m :: moves, final, signals.map (Event.mk r.now) ++ log, ?_, ?_, ?_⟩
  · simp [hstop, hm.symm]
  · simp [run?, hmove, hrun]
  · refine hserved.imp_left fun haccepted => ?_
    simp only [List.filterMap_append, List.map_append]
    exact List.mem_append_right _ haccepted

theorem canServe_of_stopped (c : Command) (h : r.phase = .stopped) : CanServe r c :=
  ⟨[], r, [], by simp, rfl, Or.inr h⟩

theorem canServe_of_idle {c : Command} {armed : Nat} (idle : r.phase = .idle armed)
    (full : r.queue.slot = some c) : CanServe r c := by
  let call : Call := ⟨none, .breakdown⟩
  have hmove : ∃ queue, r.move? (.accept call) = some (r.accept c queue call) := by
    simp only [move?, idle, Queue.take?, full, Option.map_some]
    exact ⟨_, rfl⟩
  obtain ⟨queue, hmove⟩ := hmove
  refine ⟨[.accept call], (r.accept c queue call).1,
    (r.accept c queue call).2.map (Event.mk r.now), by simp, ?_, Or.inl ?_⟩
  · simp [run?, hmove]
  · simp [accept, attempt, count]

theorem canServe_arm {c : Command} (full : r.queue.slot = some c) (d : Duration) :
    CanServe (r.arm d) c := by
  rcases phase_arm r d with ⟨hidle, hqueue⟩ | ⟨hstop, _⟩
  · exact canServe_of_idle hidle (by rw [hqueue, full])
  · exact canServe_of_stopped c hstop

theorem canServe_conclude {c : Command} (full : r.queue.slot = some c) (answer : Answer)
    (clock : Nat) : CanServe (r.conclude answer clock).1 c := by
  cases answer with
  | issued t => exact canServe_arm (by exact full) _
  | refused f => exact canServe_arm (by exact full) _
  | breakdown => exact canServe_of_stopped c rfl

theorem canServe_of_due {c : Command} {fetch : Fetch} (fetching : r.phase = .fetching fetch)
    (due : fetch.ends ≤ r.now) (full : r.queue.slot = some c) : CanServe r c := by
  have hmove : r.move? (.finish 0) = some (r.conclude fetch.answer 0) := by
    simp [move?, fetching, due]
  exact CanServe.cons hmove (by simp) (canServe_conclude full fetch.answer 0)

/-- A command in the slot can be accepted, or the refresher stops by itself. -/
theorem canServe {c : Command} (full : r.queue.slot = some c) : CanServe r c := by
  cases hphase : r.phase with
  | starting first =>
    have hmove : r.move? .launch = some (r.arm first, [.launched]) := by simp [move?, hphase]
    exact CanServe.cons hmove (by simp) (canServe_arm full first)
  | idle armed => exact canServe_of_idle hphase full
  | fetching fetch =>
    rcases Nat.lt_or_ge r.now fetch.ends with hlt | hge
    · -- The command waits until the attempt ends, and then it is accepted.
      have hmove : r.move? (.wait fetch.ends) = some ({ r with now := fetch.ends }, []) := by
        simp [move?, isReady, Queue.canEnter, wake?, hphase, full, hlt, Nat.le_of_lt hlt]
      exact CanServe.cons hmove (by simp) (canServe_of_due hphase (Nat.le_refl _) full)
    · exact canServe_of_due hphase hge full
  | stopped => exact canServe_of_stopped c hphase

end

end FreshToken.Refresher
