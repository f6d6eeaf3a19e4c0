import FreshToken.Proofs.Refresher.Flight
/-!
# Handing over commands

What becomes of a call, from its arrival to its answer.  A call is answered only when its own
command was accepted, and by then the attempts that it found under way are over.  A command that
waits when an attempt ends comes before the timer, because every delay is positive.
-/

namespace FreshToken

def Queue.pending (q : Queue) : List Command := q.slot.toList ++ q.waiting

theorem Queue.pending_of_closed {q q' : Queue} (h : q' = q ∨ q' = q.close) :
    q'.pending.Sublist q.pending := by
  rcases h with rfl | rfl
  · exact List.Sublist.refl _
  · exact List.nil_sublist _

/-- The number of a call is in use while its command is not accepted. -/
theorem Queue.busy_of_pending {q : Queue} {c : Command} (h : c ∈ q.pending) :
    q.isFree c.caller = false := by
  rw [← Bool.not_eq_true]
  intro hfree
  simp only [isFree, Bool.and_eq_true, Option.all_eq_true, List.all_eq_true] at hfree
  rcases List.mem_append.1 h with hslot | hwaiting
  · have hother := hfree.1.1 c (by simpa using hslot)
    simp at hother
  · have hother := hfree.1.2 c hwaiting
    simp at hother

/-- The number of a call is in use while its answer is on its way. -/
theorem Queue.busy_of_answer {q : Queue} {caller : Nat} {answer : Except Error Unit}
    (h : (caller, answer) ∈ q.answers) : q.isFree caller = false := by
  rw [← Bool.not_eq_true]
  intro hfree
  simp only [isFree, Bool.and_eq_true, List.all_eq_true] at hfree
  have hother := hfree.2 _ h
  simp at hother

theorem Queue.answer_of_closed {q q' : Queue} (h : q' = q ∨ q' = q.close) {caller : Nat}
    (hanswer : (caller, .ok ()) ∈ q'.answers) : (caller, .ok ()) ∈ q.answers := by
  rcases h with rfl | rfl
  · exact hanswer
  · rcases List.mem_append.1 hanswer with hold | hnew
    · exact hold
    · obtain ⟨_, _, heq⟩ := List.mem_map.1 hnew
      cases heq

namespace Refresher

/-! ## Who waits -/

section
variable {r r' : Refresher} {signals : List Signal}

theorem Step.arrived_free (h : Step r r' signals) {c : Command} (hc : .arrived c ∈ signals) :
    r.queue.isFree c.caller = true := by
  cases h with
  | refuse c' free | join c' free =>
    obtain rfl : c = c' := by simpa using hc
    exact free
  | _ => simp at hc

/-- A step adds at most the command of a call that arrives, as the last one. -/
theorem Step.pending (h : Step r r' signals) :
    r'.queue.pending.Sublist r.queue.pending ∨
      ∃ c, signals = [.arrived c] ∧ r'.queue.pending = r.queue.pending ++ [c] := by
  cases h with
  | join c => exact Or.inr ⟨c, rfl, by simp [Queue.pending, Queue.join]⟩
  | enter c rest vacant first => exact Or.inl (by simp [Queue.pending, vacant, first])
  | withdraw caller =>
    exact Or.inl ((List.Sublist.refl _).append List.filter_sublist)
  | accept => exact Or.inl (List.sublist_append_right _ _)
  | launch => exact Or.inl (Queue.pending_of_closed (queue_arm_cases ..))
  | succeed | fail => exact Or.inl (Queue.pending_of_closed (queue_settled_cases ..))
  | collapse | stop => exact Or.inl (Queue.pending_of_closed (Or.inr rfl))
  | _ => exact Or.inl (List.Sublist.refl _)

end

section
variable {policy : Policy} {tick : Nat} {r : Refresher} {es : List Event}

theorem Reached.callers_nodup (h : Reached policy tick r es) :
    (r.queue.pending.map Command.caller).Nodup := by
  induction h with
  | opened now call t clock valid issued => exact List.nodup_nil
  | @step r r' es signals _ hstep ih =>
    rcases hstep.pending with hsub | ⟨c, hsignals, hpending⟩
    · exact ih.sublist (hsub.map _)
    · have hfree := hstep.arrived_free (c := c) (by simp [hsignals])
      rw [hpending, List.map_append]
      refine List.nodup_append.2 ⟨ih, by simp, fun n hn m hm heq => ?_⟩
      obtain ⟨d, hd, rfl⟩ := List.mem_map.1 hn
      obtain rfl : m = c.caller := by simpa using hm
      have hbusy := Queue.busy_of_pending hd
      rw [heq, hfree] at hbusy
      cases hbusy

/-! ## Calls and their answers -/

/-- A call with the command `c` arrived between `before` and `after`, and is its caller's last. -/
def LastCall (es : List Event) (c : Command) (before after : List Event) : Prop :=
  (∃ t, es = before ++ ⟨t, .arrived c⟩ :: after) ∧
    ∀ e ∈ after, ∀ c', e.signal = .arrived c' → c'.caller ≠ c.caller

/-- A call stays its caller's last as long as something of it is left. -/
theorem LastCall.step {es : List Event} {c : Command} {before after : List Event}
    (h : LastCall es c before after) {r r' : Refresher} {signals : List Signal}
    (hstep : Step r r' signals) (hc : r.queue.isFree c.caller = false) :
    LastCall (es ++ signals.map (Event.mk r.now)) c before
      (after ++ signals.map (Event.mk r.now)) := by
  obtain ⟨⟨t, heq⟩, hafter⟩ := h
  refine ⟨⟨t, by simp [heq]⟩, fun e he c' hsignal => ?_⟩
  rcases List.mem_append.1 he with he | he
  · exact hafter e he c' hsignal
  · obtain ⟨s, hs, rfl⟩ := List.mem_map.1 he
    intro hcaller
    have hfree := hstep.arrived_free (c := c') (by simpa [← hsignal] using hs)
    rw [hcaller, hc] at hfree
    cases hfree

/-- Every command that is not accepted belongs to a call. -/
theorem Reached.called (h : Reached policy tick r es) :
    ∀ c ∈ r.queue.pending, ∃ before after, LastCall es c before after := by
  induction h with
  | opened now call t clock valid issued => intro c hc; cases hc
  | @step r r' es signals _ hstep ih =>
    intro c hc
    rcases hstep.pending with hsub | ⟨c', hsignals, hpending⟩
    · obtain ⟨before, after, hcall⟩ := ih c (hsub.subset hc)
      exact ⟨before, _, hcall.step hstep (Queue.busy_of_pending (hsub.subset hc))⟩
    · rw [hpending] at hc
      rcases List.mem_append.1 hc with hc | hc
      · obtain ⟨before, after, hcall⟩ := ih c hc
        exact ⟨before, _, hcall.step hstep (Queue.busy_of_pending hc)⟩
      · obtain rfl : c = c' := by simpa using hc
        exact ⟨es, [], ⟨r.now, by simp [hsignals]⟩, by simp⟩

/-- Only the acceptance of its command answers a call well. -/
theorem Step.answered {r' : Refresher} {signals : List Signal} (h : Step r r' signals)
    {caller : Nat} (hanswer : (caller, .ok ()) ∈ r'.queue.answers) :
    (caller, .ok ()) ∈ r.queue.answers ∨
      r.inFlight = 0 ∧ r.phase ≠ .stopped ∧
        ∃ c ∈ r.queue.pending, c.caller = caller ∧ .accepted c ∈ signals := by
  cases h with
  | withdraw | resume => exact Or.inl (List.mem_filter.1 hanswer).1
  | accept armed c call idle next =>
    rcases List.mem_append.1 hanswer with hold | hnew
    · exact Or.inl hold
    · split at hnew
      · obtain rfl : caller = c.caller := by simpa using hnew
        exact Or.inr ⟨by simp [inFlight, idle], by simp [idle], c, by simp [Queue.pending, next],
          rfl, by simp⟩
      · cases hnew
  | launch => exact Or.inl (Queue.answer_of_closed (queue_arm_cases ..) hanswer)
  | succeed | fail => exact Or.inl (Queue.answer_of_closed (queue_settled_cases ..) hanswer)
  | collapse | stop => exact Or.inl (Queue.answer_of_closed (Or.inr rfl) hanswer)
  | _ => exact Or.inl hanswer

/-- A call that is about to be answered well had its command accepted since it arrived, and the
attempts that began before it are over. -/
theorem Reached.answered (h : Reached policy tick r es) {caller : Nat}
    (hanswer : (caller, .ok ()) ∈ r.queue.answers) :
    ∃ c before after, c.caller = caller ∧ LastCall es c before after ∧
      c ∈ (accepted after).map Prod.snd ∧ (begun before).length ≤ (completed es).length := by
  induction h with
  | opened now call t clock valid issued => cases hanswer
  | @step r r' es signals hr hstep ih =>
    rcases hstep.answered hanswer with hold | ⟨hdone, alive, c, hpending, hcaller, haccepted⟩
    · obtain ⟨c, before, after, hcaller, hcall, haccepted, hbegun⟩ := ih hold
      have hbusy := Queue.busy_of_answer hold
      rw [← hcaller] at hbusy
      refine ⟨c, before, _, hcaller, hcall.step hstep hbusy, ?_, ?_⟩
      · simp only [List.filterMap_append, List.map_append]
        exact List.mem_append_left _ haccepted
      · exact Nat.le_trans hbegun (length_filterMap_le_append ..)
    · obtain ⟨before, after, hcall⟩ := hr.called c hpending
      refine ⟨c, before, _, hcaller, hcall.step hstep (Queue.busy_of_pending hpending), ?_, ?_⟩
      · simp only [List.filterMap_append, List.map_append]
        refine List.mem_append_right _ (List.mem_map.2 ⟨(r.now, c), ?_, rfl⟩)
        exact List.mem_filterMap.2 ⟨⟨r.now, .accepted c⟩, List.mem_map_of_mem haccepted, rfl⟩
      · have hcount := hr.begun_length alive
        obtain ⟨t, heq⟩ := hcall.1
        calc (begun before).length
          _ ≤ (begun es).length := by
            rw [heq]
            exact length_filterMap_le_append ..
          _ = (completed es).length := by rw [hcount, hdone, Nat.add_zero]
          _ ≤ (completed (es ++ signals.map (Event.mk r.now))).length :=
            length_filterMap_le_append ..

theorem Reached.returned (h : Reached policy tick r es) :
    Each Event.returned? (fun before caller =>
      ∃ c b after, c.caller = caller ∧ LastCall before c b after ∧
        c ∈ (accepted after).map Prod.snd ∧ (begun b).length ≤ (completed before).length) es := by
  induction h with
  | opened now call t clock valid issued => exact each_of_none rfl
  | @step r r' es signals hr hstep ih =>
    refine each_append ih ?_
    cases hstep with
    | resume caller answer answered =>
      cases answer with
      | ok =>
        refine each_take rfl ?_ (each_of_none rfl)
        rw [List.append_nil]
        exact hr.answered answered
      | error => exact each_of_none rfl
    | _ => exact each_of_none rfl

/-! ## Commands come before the timer -/

def Settled (c : Command) (after : List Event) : Prop :=
  c ∈ (accepted after).map Prod.snd ∨
    ∃ inLine t later, after = inLine ++ ⟨t, .withdrew c.caller⟩ :: later ∧
      c ∉ (entered inLine).map Prod.snd

theorem Settled.append {c : Command} {after : List Event} (h : Settled c after)
    (new : List Event) : Settled c (after ++ new) := by
  rcases h with haccepted | ⟨inLine, t, later, heq, hentered⟩
  · simp only [Settled, List.filterMap_append, List.map_append]
    exact Or.inl (List.mem_append_left _ haccepted)
  · exact Or.inr ⟨inLine, t, later ++ new, by simp [heq], hentered⟩

def Placed (r : Refresher) (c : Command) (after : List Event) : Prop :=
  r.queue.slot = some c ∨ c ∈ r.queue.waiting ∧ c ∉ (entered after).map Prod.snd

/-- If an attempt ended in `after`, the timer is set for later than now. -/
def Early (r : Refresher) (after : List Event) : Prop :=
  ∀ armed, r.phase = .idle armed → completed after ≠ [] → r.now < armed

theorem Placed.pending {c : Command} {after : List Event} (h : Placed r c after) :
    c ∈ r.queue.pending := by
  rcases h with hslot | ⟨hline, _⟩
  · simp [Queue.pending, hslot]
  · exact List.mem_append_right _ hline

theorem Placed.step (h : Reached policy tick r es) {r' : Refresher} {signals : List Signal}
    (hstep : Step r r' signals) (alive : r'.phase ≠ .stopped) {c : Command} {after : List Event}
    (hplaced : Placed r c after) :
    Settled c (after ++ signals.map (Event.mk r.now)) ∨
      Placed r' c (after ++ signals.map (Event.mk r.now)) := by
  cases hstep with
  | join c' =>
    rcases hplaced with hslot | ⟨hline, hentered⟩
    · exact Or.inr (Or.inl hslot)
    · exact Or.inr (Or.inr ⟨List.mem_append_left _ hline, by simpa using hentered⟩)
  | enter c' rest vacant first =>
    rcases hplaced with hslot | ⟨hline, hentered⟩
    · rw [vacant] at hslot
      cases hslot
    · rw [first] at hline
      rcases List.mem_cons.1 hline with rfl | hrest
      · exact Or.inr (Or.inl rfl)
      · -- Callers in line differ, so it is another command that takes the slot.
        have hdistinct := h.callers_nodup
        simp only [Queue.pending, vacant, first, Option.toList_none, List.nil_append,
          List.map_cons, List.nodup_cons] at hdistinct
        have hne : c ≠ c' := by
          rintro rfl
          exact hdistinct.1 (List.mem_map_of_mem hrest)
        exact Or.inr (Or.inr ⟨hrest, by simpa [hne] using hentered⟩)
  | withdraw caller =>
    rcases hplaced with hslot | ⟨hline, hentered⟩
    · exact Or.inr (Or.inl hslot)
    · by_cases hcaller : c.caller = caller
      · exact Or.inl (Or.inr ⟨after, r.now, [], by simp [hcaller], hentered⟩)
      · refine Or.inr (Or.inr ⟨?_, by simpa using hentered⟩)
        simp [Queue.withdraw, hline, hcaller]
  | accept armed c' call idle next =>
    rcases hplaced with hslot | ⟨hline, hentered⟩
    · rw [next] at hslot
      cases hslot
      exact Or.inl (Or.inl (by simp))
    · exact Or.inr (Or.inr ⟨hline, by simpa using hentered⟩)
  | launch => exact Or.inr (by simpa [Placed, queue_arm alive] using hplaced)
  | succeed | fail => exact Or.inr (by simpa [Placed, queue_settled alive] using hplaced)
  | collapse | stop => exact absurd rfl alive
  | _ => exact Or.inr (by simpa [Placed] using hplaced)

theorem Early.step (h : Reached policy tick r es) {r' : Refresher} {signals : List Signal}
    (hstep : Step r r' signals) {c : Command} (hpending : c ∈ r.queue.pending)
    {after : List Event} (hearly : Early r after) :
    Early r' (after ++ signals.map (Event.mk r.now)) := by
  intro armed idle hended
  cases hstep with
  | launch first starting =>
    obtain ⟨_, last, _, _, hfirst⟩ := h.starting starting
    rw [armed_arm idle, now_arm, hfirst]
    exact Nat.lt_add_of_pos_right (Policy.delayAfter_pos h.valid ..)
  | succeed | fail =>
    rw [armed_settled idle, now_settled, h.policy_eq]
    exact Nat.lt_add_of_pos_right (Policy.delayAfter_pos h.valid ..)
  | accept | fire | collapse | stop => cases idle
  | wait target unready forward early =>
    -- Between attempts time goes on only when nobody waits.
    obtain ⟨hvacant, hnobody⟩ := nobody_waits (r := r) idle unready
    simp [Queue.pending, hvacant, hnobody] at hpending
  | _ => exact hearly armed idle (by simpa using hended)

theorem Reached.settled_or_waits (h : Reached policy tick r es) (alive : r.phase ≠ .stopped) :
    Since Event.arrived? (fun c after => Settled c after ∨ Placed r c after ∧ Early r after)
      es := by
  induction h with
  | opened now call t clock valid issued => exact since_of_none rfl
  | @step r r' es signals hr hstep ih =>
    refine since_append ((ih (hstep.alive alive)).mono fun c after hafter => ?_) ?_
    · rcases hafter with hsettled | ⟨hplaced, hearly⟩
      · exact Or.inl (hsettled.append _)
      · exact (hplaced.step hr hstep alive).imp_right fun hstays =>
          ⟨hstays, hearly.step hr hstep hplaced.pending⟩
    · cases hstep with
      | refuse c free stopped => exact absurd stopped alive
      | join c =>
        refine since_singleton rfl (Or.inr ⟨Or.inr ⟨by simp [Queue.join], by simp⟩, ?_⟩)
        exact fun armed idle hended => absurd rfl hended
      | _ => exact since_of_none rfl

/-- When the timer fires, no command is left that waited when an attempt ended. -/
theorem Reached.fires_last (h : Reached policy tick r es) :
    Each Event.fired? (fun before _ =>
      Since Event.arrived? (fun c after => completed after ≠ [] → Settled c after) before) es := by
  induction h with
  | opened now call t clock valid issued => exact each_of_none rfl
  | @step r r' es signals hr hstep ih =>
    refine each_append ih ?_
    cases hstep with
    | fire armed call idle due =>
      refine each_take rfl ?_ (each_of_none rfl)
      rw [List.append_nil]
      refine (hr.settled_or_waits (by simp [idle])).mono fun c after hafter hended => ?_
      rcases hafter with hsettled | ⟨_, hearly⟩
      · exact hsettled
      · have hlater := hearly armed idle hended
        have harmed := le_roundUp r.tick armed
        omega
    | _ => exact each_of_none rfl

end

/-- Commands are handed over one by one, in order, each for one attempt. -/
structure Handoff (policy : Policy) (tick : Nat) (r : Refresher) (es : List Event) : Prop where
  /-- An attempt begins only when no other is under way, and so a command is accepted. -/
  alone : ∀ before t cause later, es = before ++ ⟨t, .began cause⟩ :: later →
    (begun before).length = (completed before).length
  idle : ∀ before t c later, es = before ++ ⟨t, .accepted c⟩ :: later →
    (begun before).length = (completed before).length
  /-- Apart from the one under way, every attempt that began has ended. -/
  inFlight : r.phase ≠ .stopped → (begun es).length = (completed es).length + r.inFlight
  /-- Commands are accepted in the order in which they take the slot. -/
  inOrder : (accepted es).map Prod.snd <+: (entered es).map Prod.snd
  /-- What took the slot was accepted or is still there. -/
  kept : r.phase ≠ .stopped →
    (entered es).map Prod.snd = (accepted es).map Prod.snd ++ r.queue.slot.toList
  /-- No command stays in the slot for longer than one attempt takes. -/
  prompt : r.phase ≠ .stopped → ∀ c, r.queue.slot = some c →
    ∃ since, (entered es).getLast? = some (since, c) ∧
      r.now ≤ since + policy.fetchTimeout.toNanos + tick
  /-- No command is stuck in the slot, unless the refresher stops by itself. -/
  served : ∀ c, r.queue.slot = some c → r.CanServe c
  /-- Each command starts one attempt at the instant at which it is accepted. -/
  starts : (begun es).filterMap byCommand? = accepted es
  /-- The interval of the command that was accepted last is the schedule. -/
  governs : ∀ t c, (accepted es).getLast? = some (t, c) → r.schedule = c.interval
  /-- A call is answered well only when its own command was accepted and the attempts that it found
  under way are over. -/
  answered : ∀ before t caller later, es = before ++ ⟨t, .returned caller (.ok ())⟩ :: later →
    ∃ c b after, c.caller = caller ∧ LastCall before c b after ∧
      c ∈ (accepted after).map Prod.snd ∧ (begun b).length ≤ (completed before).length
  /-- When the timer fires, every command that had arrived before an attempt ended was accepted,
  unless its caller gave up while it was in line. -/
  first : ∀ before t later, es = before ++ ⟨t, .fired⟩ :: later →
    ∀ b t' c after, before = b ++ ⟨t', .arrived c⟩ :: after → completed after ≠ [] →
      Settled c after
  /-- Every attempt has its cause: the opening, a command or the timer. -/
  counted : (begun es).length = 1 + (accepted es).length + (fired es).length

/-- In every run commands are handed over one by one, in order, each for one attempt, whoever gives
up and whenever the timer fires. -/
theorem handoff {policy : Policy} {tick now clock : Nat} {call : Call} {moves : List Move}
    {r : Refresher} {es : List Event}
    (h : Opening.run? policy tick now call clock moves = some (r, es)) :
    Handoff policy tick r es := by
  have hr := reached_of_run? h
  constructor
  case alone =>
    intro before t cause later heq
    exact hr.begins_alone before _ later (t, cause) heq rfl
  case idle =>
    intro before t c later heq
    exact hr.accepts_alone before _ later (t, c) heq rfl
  case inFlight => exact hr.begun_length
  case inOrder => exact hr.accepted_prefix
  case kept => exact hr.entered_eq
  case prompt => exact fun alive c full => hr.waits alive full
  case served => exact fun c full => canServe full
  case starts => exact hr.accepted_eq
  case governs =>
    intro t c hlast
    rw [hr.schedule_eq, requested, hlast, Option.bind_some]
  case answered =>
    intro before t caller later heq
    exact hr.returned before _ later caller heq rfl
  case first =>
    intro before t later heq b t' c after hbefore hended
    exact hr.fires_last before _ later t heq rfl b _ after c hbefore rfl hended
  case counted => exact hr.begun_count

theorem handoff_of_cutOff :
    ∃ r es, Opening.run? .standard 1000000 0 promptCall 0 cutOffMoves = some (r, es) ∧
      (accepted es).map (fun a => (a.1, a.2.caller)) = [(2000000, 1)] ∧
      Handoff .standard 1000000 r es := by
  have hruns : (Opening.run? .standard 1000000 0 promptCall 0 cutOffMoves).map
      (fun p => (accepted p.2).map (fun a => (a.1, a.2.caller))) = some [(2000000, 1)] := by rfl
  obtain ⟨⟨r, es⟩, h, haccepted⟩ := Option.map_eq_some_iff.1 hruns
  exact ⟨r, es, h, haccepted, handoff h⟩

end Refresher

end FreshToken
