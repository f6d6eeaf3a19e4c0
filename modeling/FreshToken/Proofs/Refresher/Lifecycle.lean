import FreshToken.Proofs.Refresher.Reports
import FreshToken.Proofs.Refresher.Schedule
import FreshToken.Proofs.Refresher.Handoff
import Mathlib.Data.List.Nodup
/-!
# The life of a refresher and its callers

As long as a refresher lives nobody is told that it is closed.  When it stops, in the middle of
whatever it does, calls whose commands were accepted are answered well and all others are told that
it is closed.  What it has published and counted stays as it was.
-/

namespace FreshToken

/-! ## The numbers of calls -/

namespace Queue

variable {q : Queue} {c : Command} {caller : Nat}

def keys (q : Queue) : List Nat := q.pending.map Command.caller ++ q.answers.map Prod.fst

theorem not_mem_keys_of_isFree (free : q.isFree caller = true) : caller ∉ q.keys := by
  intro hmem
  rcases List.mem_append.1 hmem with hpending | hanswer
  · obtain ⟨c, hc, rfl⟩ := List.mem_map.1 hpending
    rw [busy_of_pending hc] at free
    cases free
  · obtain ⟨⟨n, answer⟩, ha, rfl⟩ := List.mem_map.1 hanswer
    rw [busy_of_answer ha] at free
    cases free

/-- The caller of a command that is not accepted, and has not given up. -/
def Attends (q : Queue) (c : Command) : Prop :=
  c ∈ q.waiting ∨ q.slot = some c ∧ q.isAttended = true

theorem Attends.pending (h : q.Attends c) : c ∈ q.pending := by
  rcases h with hwaiting | ⟨hslot, _⟩
  · exact List.mem_append_right _ hwaiting
  · exact List.mem_append_left _ (by rw [hslot]; exact List.mem_singleton_self c)

theorem Attends.close (h : q.Attends c) : (c.caller, .error .closed) ∈ q.close.answers := by
  apply List.mem_append_right
  apply List.mem_map.2
  refine ⟨c.caller, ?_, rfl⟩
  rcases h with hwaiting | ⟨hslot, hattended⟩
  · exact List.mem_append_right _ (List.mem_map_of_mem hwaiting)
  · apply List.mem_append_left
    rw [if_pos hattended, hslot]
    exact List.mem_singleton_self c.caller

theorem callers_sublist (q : Queue) : q.callers.Sublist (q.pending.map Command.caller) := by
  rw [callers, pending, List.map_append]
  refine List.Sublist.append ?_ (List.Sublist.refl _)
  split
  · exact List.Sublist.refl _
  · exact List.nil_sublist _

theorem keys_close (q : Queue) : q.close.keys = q.answers.map Prod.fst ++ q.callers := by
  simp [keys, pending, close, Function.comp_def]

theorem nodup_close (h : q.keys.Nodup) : q.close.keys.Nodup := by
  rw [keys_close]
  apply List.perm_append_comm.nodup_iff.1
  exact h.sublist (q.callers_sublist.append (List.Sublist.refl _))

theorem nodup_of_closed {q' : Queue} (h : q.keys.Nodup) (closed : q' = q ∨ q' = q.close) :
    q'.keys.Nodup := by
  rcases closed with rfl | rfl
  · exact h
  · exact nodup_close h

theorem mem_answers_of_closed {q' : Queue} {a : Nat × Except Error Unit} (ha : a ∈ q.answers)
    (closed : q' = q ∨ q' = q.close) : a ∈ q'.answers := by
  rcases closed with rfl | rfl
  · exact ha
  · exact List.mem_append_left _ ha

/-- Every call has one answer. -/
theorem answer_unique {a b : Except Error Unit} (h : q.keys.Nodup) (ha : (caller, a) ∈ q.answers)
    (hb : (caller, b) ∈ q.answers) : a = b := by
  have hkeys : (q.answers.map Prod.fst).Nodup := (List.nodup_append.1 h).2.1
  have heq := List.inj_on_of_nodup_map hkeys ha hb rfl
  exact congrArg Prod.snd heq

/-- A call that waits is not answered. -/
theorem Attends.unanswered {a : Except Error Unit} (h : q.keys.Nodup) (hc : q.Attends c) :
    (c.caller, a) ∉ q.answers := by
  intro ha
  have hapart := (List.nodup_append.1 h).2.2
  exact hapart _ (List.mem_map_of_mem hc.pending) _ (List.mem_map_of_mem ha) rfl

end Queue

namespace Refresher

section
variable {r r' : Refresher} {signals : List Signal}

theorem Step.keys_nodup (h : Step r r' signals) (hk : r.queue.keys.Nodup) :
    r'.queue.keys.Nodup := by
  cases h with
  | join c free =>
    have hnew := Queue.not_mem_keys_of_isFree free
    have hkeys : (r.queue.join c).keys.Perm (c.caller :: r.queue.keys) := by
      simp only [Queue.keys, Queue.pending, Queue.join, List.map_append, List.map_cons,
        List.map_nil, List.append_assoc, List.singleton_append]
      rw [← List.append_assoc, ← List.append_assoc]
      exact List.perm_middle
    exact hkeys.nodup_iff.2 (List.nodup_cons.2 ⟨hnew, hk⟩)
  | enter c rest vacant first =>
    simpa [Queue.keys, Queue.pending, vacant, first] using hk
  | withdraw caller =>
    refine hk.sublist (List.Sublist.append (List.Sublist.map _ ?_) (List.filter_sublist.map _))
    exact (List.Sublist.refl _).append List.filter_sublist
  | resume caller answer answered =>
    exact hk.sublist ((List.Sublist.refl _).append (List.filter_sublist.map _))
  | accept armed c call idle next =>
    have hkeys : r.queue.keys = c.caller :: (r.queue.waiting.map Command.caller ++
        r.queue.answers.map Prod.fst) := by
      simp [Queue.keys, Queue.pending, next]
    rw [hkeys] at hk
    cases hattended : r.queue.isAttended with
    | false =>
      simpa [Queue.keys, Queue.pending, hattended] using (List.nodup_cons.1 hk).2
    | true =>
      have hperm := List.perm_append_singleton c.caller
        (r.queue.waiting.map Command.caller ++ r.queue.answers.map Prod.fst)
      have hback := hperm.nodup_iff.2 hk
      simpa [Queue.keys, Queue.pending, hattended] using hback
  | launch => exact Queue.nodup_of_closed hk (queue_arm_cases ..)
  | succeed | fail => exact Queue.nodup_of_closed hk (queue_settled_cases ..)
  | collapse | stop => exact Queue.nodup_close hk
  | _ => exact hk

end

/-! ## Where a call stands -/

/-- What has become of a call.  An answer comes with whether the command was accepted before. -/
inductive Standing where
  | waiting
  | accepted
  | answered (accepted : Bool) (answer : Except Error Unit)
  | withdrawn

def Standing.next (caller : Nat) (st : Standing) (s : Signal) : Standing :=
  match st, s with
  | .waiting, .accepted c => if c.caller = caller then .accepted else st
  | .waiting, .returned n answer => if n = caller then .answered false answer else st
  | .accepted, .returned n answer => if n = caller then .answered true answer else st
  | .waiting, .withdrew n | .accepted, .withdrew n => if n = caller then .withdrawn else st
  | _, _ => st

def standing (caller : Nat) (after : List Event) : Standing :=
  after.foldl (fun st e => st.next caller e.signal) .waiting

theorem standing_append (caller : Nat) (after : List Event) (now : Nat) (signals : List Signal) :
    standing caller (after ++ signals.map (Event.mk now)) =
      signals.foldl (Standing.next caller) (standing caller after) := by
  rw [standing, List.foldl_append, List.foldl_map, ← standing]

/-- What the refresher owes a call. -/
def Stands (r : Refresher) (c : Command) : Standing → Prop
  | .waiting =>
    (r.phase ≠ .stopped ∧ r.queue.Attends c) ∨
      r.phase = .stopped ∧ (c.caller, .error .closed) ∈ r.queue.answers
  | .accepted => (c.caller, .ok ()) ∈ r.queue.answers
  | .answered true answer => answer = .ok ()
  | .answered false answer => answer = .error .closed ∧ r.phase = .stopped
  | .withdrawn => True

def Concerns (caller : Nat) : Signal → Prop
  | .accepted c => c.caller = caller
  | .returned n _ | .withdrew n => n = caller
  | _ => False

section
variable {r r' : Refresher} {c : Command} {st : Standing} {signals : List Signal} {caller : Nat}

/-- What happens to others does not matter to a call. -/
theorem foldl_next (others : ∀ s ∈ signals, ¬ Concerns caller s) :
    signals.foldl (Standing.next caller) st = st := by
  induction signals with
  | nil => rfl
  | cons s rest ih =>
    have hsame : st.next caller s = st := by
      have hs := others s List.mem_cons_self
      cases st <;> cases s <;> simp_all [Standing.next, Concerns]
    rw [List.foldl_cons, hsame]
    exact ih fun s' hs' => others s' (List.mem_cons_of_mem s hs')

theorem foldl_next_final (final : st ≠ .waiting ∧ st ≠ .accepted) :
    signals.foldl (Standing.next caller) st = st := by
  apply List.foldl_fixed'
  intro s
  cases st with
  | waiting | accepted => simp at final
  | answered | withdrawn => rfl

/-- An answer stays on its way until its call takes it or gives up. -/
theorem Step.due {answer : Except Error Unit} (h : Step r r' signals) (hk : r.queue.keys.Nodup)
    (due : (caller, answer) ∈ r.queue.answers) :
    ((caller, answer) ∈ r'.queue.answers ∧ ∀ s ∈ signals, ¬ Concerns caller s) ∨
      signals = [.withdrew caller] ∨ signals = [.returned caller answer] := by
  have hbusy := Queue.busy_of_answer due
  cases h with
  | refuse c free =>
    refine Or.inl ⟨due, ?_⟩
    have hne : c.caller ≠ caller := by
      rintro rfl
      rw [hbusy] at free
      cases free
    simp [Concerns, hne]
  | withdraw n =>
    by_cases hn : n = caller
    · exact Or.inr (Or.inl (by rw [hn]))
    · refine Or.inl ⟨List.mem_filter.2 ⟨due, ?_⟩, by simp [Concerns, hn]⟩
      simpa using fun heq : caller = n => hn heq.symm
  | resume n a answered =>
    by_cases hn : n = caller
    · subst hn
      rw [Queue.answer_unique hk due answered]
      exact Or.inr (Or.inr rfl)
    · refine Or.inl ⟨List.mem_filter.2 ⟨due, ?_⟩, by simp [Concerns, hn]⟩
      simpa using fun heq : caller = n => hn heq.symm
  | accept armed c call idle next =>
    refine Or.inl ⟨List.mem_append_left _ due, ?_⟩
    have hapart := (List.nodup_append.1 hk).2.2
    have hne : c.caller ≠ caller :=
      hapart _ (List.mem_map_of_mem (by simp [Queue.pending, next])) _ (List.mem_map_of_mem due)
    simp [Concerns, hne]
  | launch =>
    exact Or.inl ⟨Queue.mem_answers_of_closed due (queue_arm_cases ..), by simp [Concerns]⟩
  | succeed | fail =>
    exact Or.inl ⟨Queue.mem_answers_of_closed due (queue_settled_cases ..), by simp [Concerns]⟩
  | collapse | stop => exact Or.inl ⟨List.mem_append_left _ due, by simp [Concerns]⟩
  | _ => exact Or.inl ⟨due, by simp [Concerns]⟩

/-- What a step does for a call that waits at a living refresher. -/
theorem Step.attended (h : Step r r' signals) (hk : r.queue.keys.Nodup)
    (alive : r.phase ≠ .stopped) (hc : r.queue.Attends c) :
    (r'.queue.Attends c ∧ r'.phase ≠ .stopped ∧ ∀ s ∈ signals, ¬ Concerns c.caller s) ∨
      (r'.phase = .stopped ∧ (c.caller, .error .closed) ∈ r'.queue.answers ∧
        ∀ s ∈ signals, ¬ Concerns c.caller s) ∨
      signals = [.withdrew c.caller] ∨
      (c.caller, .ok ()) ∈ r'.queue.answers ∧
        signals.foldl (Standing.next c.caller) .waiting = .accepted := by
  -- Where the timer is set, the queue is as it was, or closed if that cannot be done.
  have harmed {armed : Nat} (hothers : ∀ s ∈ signals, ¬ Concerns c.caller s)
      (harm : (r'.phase = .idle armed ∧ r'.queue = r.queue) ∨
        (r'.phase = .stopped ∧ r'.queue = r.queue.close)) :
      (r'.queue.Attends c ∧ r'.phase ≠ .stopped ∧ ∀ s ∈ signals, ¬ Concerns c.caller s) ∨
        (r'.phase = .stopped ∧ (c.caller, .error .closed) ∈ r'.queue.answers ∧
          ∀ s ∈ signals, ¬ Concerns c.caller s) := by
    rcases harm with ⟨hphase, hqueue⟩ | ⟨hphase, hqueue⟩
    · exact Or.inl ⟨by rwa [hqueue], by simp [hphase], hothers⟩
    · exact Or.inr ⟨hphase, by rw [hqueue]; exact hc.close, hothers⟩
  cases h with
  | refuse _ _ stopped => exact absurd stopped alive
  | join c' =>
    refine Or.inl ⟨hc.imp_left fun hline => List.mem_append_left _ hline, alive, by simp [Concerns]⟩
  | enter c' rest vacant first =>
    refine Or.inl ⟨?_, alive, by simp [Concerns]⟩
    rcases hc with hline | ⟨hslot, _⟩
    · rw [first] at hline
      rcases List.mem_cons.1 hline with rfl | hrest
      · exact Or.inr ⟨rfl, rfl⟩
      · exact Or.inl hrest
    · rw [vacant] at hslot
      cases hslot
  | withdraw n =>
    by_cases hn : n = c.caller
    · exact Or.inr (Or.inr (Or.inl (by rw [hn])))
    · refine Or.inl ⟨?_, alive, by simp [Concerns, hn]⟩
      have hne : c.caller ≠ n := fun heq => hn heq.symm
      rcases hc with hline | ⟨hslot, hattended⟩
      · exact Or.inl (List.mem_filter.2 ⟨hline, by simpa using hne⟩)
      · exact Or.inr ⟨hslot, by simp [Queue.withdraw, hslot, hattended, hne]⟩
  | resume n a answered =>
    refine Or.inl ⟨hc, alive, ?_⟩
    have hne : n ≠ c.caller := by
      rintro rfl
      exact hc.unanswered hk answered
    simp [Concerns, hne]
  | accept armed c' call idle next =>
    rcases hc with hline | ⟨hslot, hattended⟩
    · refine Or.inl ⟨Or.inl hline, by simp, ?_⟩
      have hdistinct : (c'.caller :: r.queue.waiting.map Command.caller).Nodup := by
        have hpending := (List.nodup_append.1 hk).1
        rwa [Queue.pending, next] at hpending
      have hne : c'.caller ≠ c.caller := fun heq =>
        (List.nodup_cons.1 hdistinct).1 (heq ▸ List.mem_map_of_mem hline)
      simp [Concerns, hne]
    · rw [next] at hslot
      cases hslot
      refine Or.inr (Or.inr (Or.inr ⟨?_, by simp [Standing.next]⟩))
      simp [hattended]
  | launch first =>
    exact or_assoc.1 (Or.inl (harmed (by simp [Concerns]) (phase_arm r first)))
  | succeed fetch t clock =>
    exact or_assoc.1 (Or.inl (harmed (by simp [Concerns]) (phase_settled r (.ok t) clock)))
  | fail fetch f clock =>
    exact or_assoc.1 (Or.inl (harmed (by simp [Concerns]) (phase_settled r (.error f) clock)))
  | collapse | stop => exact Or.inr (Or.inl ⟨rfl, hc.close, by simp [Concerns]⟩)
  | fire => exact Or.inl ⟨hc, by simp, by simp [Concerns]⟩
  | read | wait => exact Or.inl ⟨hc, alive, by simp [Concerns]⟩

theorem Stands.step (hst : Stands r c st) (h : Step r r' signals) (hk : r.queue.keys.Nodup) :
    Stands r' c (signals.foldl (Standing.next c.caller) st) := by
  cases st with
  | waiting =>
    rcases hst with ⟨alive, hc⟩ | ⟨stopped, hanswer⟩
    · rcases h.attended hk alive hc with ⟨hc', alive', hothers⟩ | ⟨stopped', hanswer, hothers⟩ |
        rfl | ⟨hanswer, haccepted⟩
      · rw [foldl_next hothers]
        exact Or.inl ⟨alive', hc'⟩
      · rw [foldl_next hothers]
        exact Or.inr ⟨stopped', hanswer⟩
      · simp [Standing.next, Stands]
      · rw [haccepted]
        exact hanswer
    · have stopped' := (h.of_stopped stopped).1
      rcases h.due hk hanswer with ⟨hanswer', hothers⟩ | rfl | rfl
      · rw [foldl_next hothers]
        exact Or.inr ⟨stopped', hanswer'⟩
      · simp [Standing.next, Stands]
      · simpa [Standing.next, Stands] using stopped'
  | accepted =>
    rcases h.due hk hst with ⟨hanswer', hothers⟩ | rfl | rfl
    · rw [foldl_next hothers]
      exact hanswer'
    · simp [Standing.next, Stands]
    · simp [Standing.next, Stands]
  | answered accepted answer =>
    rw [foldl_next_final (by simp)]
    cases accepted with
    | true => exact hst
    | false => exact ⟨hst.1, (h.of_stopped hst.2).1⟩
  | withdrawn =>
    rw [foldl_next_final (by simp)]
    trivial

end

section
variable {policy : Policy} {tick : Nat} {r : Refresher} {es : List Event}

theorem Reached.keys_nodup (h : Reached policy tick r es) : r.queue.keys.Nodup := by
  induction h with
  | opened now call t clock valid issued => exact List.nodup_nil
  | step _ hstep ih => exact hstep.keys_nodup ih

theorem Reached.stands (h : Reached policy tick r es) :
    Since Event.arrived? (fun c after => Stands r c (standing c.caller after)) es := by
  induction h with
  | opened now call t clock valid issued => exact since_of_none rfl
  | @step r r' es signals hr hstep ih =>
    refine since_append (ih.mono fun c after hst => ?_) ?_
    · rw [standing_append]
      exact hst.step hstep hr.keys_nodup
    · cases hstep with
      | refuse c free stopped =>
        have hsplit : [Signal.arrived c, .returned c.caller (.error .closed)].map (Event.mk r.now) =
            [⟨r.now, .arrived c⟩] ++ [⟨r.now, .returned c.caller (.error .closed)⟩] := rfl
        rw [hsplit]
        refine since_append (since_singleton rfl ?_) (since_of_none rfl)
        simpa [standing, Standing.next, Stands] using stopped
      | join c free alive =>
        exact since_singleton rfl (Or.inl ⟨alive, Or.inl (List.mem_append_right _ (by simp))⟩)
      | _ => exact since_of_none rfl

/-- Nobody is told that a living refresher is closed. -/
theorem Reached.unclosed (h : Reached policy tick r es) (alive : r.phase ≠ .stopped) :
    (∀ caller e, (caller, .error e) ∉ r.queue.answers) ∧
      ∀ time caller e, ⟨time, .returned caller (.error e)⟩ ∉ es := by
  induction h with
  | opened now call t clock valid issued =>
    exact ⟨fun caller e h => (by cases h), by simp [openingEvents]⟩
  | @step r r' es signals hr hstep ih =>
    obtain ⟨hanswers, hlog⟩ := ih (hstep.alive alive)
    have hquiet (h : ∀ caller e, .returned caller (.error e) ∉ signals) :
        ∀ time caller e,
          ⟨time, .returned caller (.error e)⟩ ∉ es ++ signals.map (Event.mk r.now) := by
      intro time caller e hmem
      rcases List.mem_append.1 hmem with hold | hnew
      · exact hlog time caller e hold
      · obtain ⟨s, hs, heq⟩ := List.mem_map.1 hnew
        cases heq
        exact h caller e hs
    cases hstep with
    | refuse c free stopped => exact absurd stopped alive
    | resume n answer answered =>
      refine ⟨fun caller e hmem => hanswers caller e (List.mem_filter.1 hmem).1, hquiet ?_⟩
      intro caller e hmem
      cases List.mem_singleton.1 hmem
      exact hanswers n e answered
    | withdraw =>
      exact ⟨fun caller e hmem => hanswers caller e (List.mem_filter.1 hmem).1, hquiet (by simp)⟩
    | accept armed c call idle next =>
      refine ⟨fun caller e hmem => ?_, hquiet (by simp)⟩
      rcases List.mem_append.1 hmem with hold | hnew
      · exact hanswers caller e hold
      · split at hnew <;> simp at hnew
    | launch =>
      rw [queue_arm alive]
      exact ⟨hanswers, hquiet (by simp)⟩
    | succeed | fail =>
      rw [queue_settled alive]
      exact ⟨hanswers, hquiet (by simp)⟩
    | collapse | stop => exact absurd rfl alive
    | _ => exact ⟨hanswers, hquiet (by simp)⟩

end

/-! ## After the end -/

/-- A stopped refresher that is as `r` was, and a log in which nothing is attempted. -/
structure Silent (r s : Refresher) (log : List Event) : Prop extends Still r s log where
  begun : Refresher.begun log = []
  accepted : Refresher.accepted log = []
  completed : Refresher.completed log = []
  published : Refresher.published log = []
  shown : ∀ x ∈ Refresher.shown log, x = r.snapshot

theorem Silent.step {r s s' : Refresher} {log : List Event} {signals : List Signal}
    (h : Silent r s log) (hstep : Step s s' signals) :
    Silent r s' (log ++ signals.map (Event.mk s.now)) := by
  have hstopped := h.stopped
  have hsilent : Refresher.begun (signals.map (Event.mk s.now)) = [] ∧
      Refresher.accepted (signals.map (Event.mk s.now)) = [] ∧
      Refresher.completed (signals.map (Event.mk s.now)) = [] ∧
      Refresher.published (signals.map (Event.mk s.now)) = [] ∧
      ∀ x ∈ Refresher.shown (signals.map (Event.mk s.now)), x = s.snapshot := by
    cases hstep with
    | launch first starting =>
      rw [hstopped] at starting
      cases starting
    | accept armed c call idle | fire armed call idle =>
      rw [hstopped] at idle
      cases idle
    | succeed fetch t clock fetching | fail fetch f clock fetching | collapse fetch fetching =>
      rw [hstopped] at fetching
      cases fetching
    | _ => simp
  obtain ⟨hbegun, haccepted, hcompleted, hpublished, hshown⟩ := hsilent
  refine ⟨h.toStill.step hstep, ?_, ?_, ?_, ?_, fun x hx => ?_⟩
  · simp only [List.filterMap_append, h.begun, hbegun, List.append_nil]
  · simp only [List.filterMap_append, h.accepted, haccepted, List.append_nil]
  · simp only [List.filterMap_append, h.completed, hcompleted, List.append_nil]
  · simp only [List.filterMap_append, h.published, hpublished, List.append_nil]
  · simp only [List.filterMap_append, List.mem_append] at hx
    rcases hx with hold | hnew
    · exact h.shown x hold
    · rw [hshown x hnew, h.snapshot]

theorem silent_of_run? {r r' : Refresher} {moves : List Move} {es : List Event}
    (stopped : r.phase = .stopped) (h : r.run? moves = some (r', es)) : Silent r r' es :=
  @run?_induction (Silent r) Silent.step r r' [] es moves
    ⟨⟨stopped, rfl, rfl, rfl⟩, rfl, rfl, rfl, rfl, by simp⟩ h

/-! ## The whole life -/

/-- An answer that is on its way can be taken at once. -/
theorem resumes {r : Refresher} {caller : Nat} {answer : Except Error Unit}
    (hk : r.queue.keys.Nodup) (due : (caller, answer) ∈ r.queue.answers) :
    ∃ r', r.move? (.resume caller) = some (r', [.returned caller answer]) := by
  have hfound : (r.queue.answers.find? (·.1 = caller)).isSome :=
    List.find?_isSome.2 ⟨_, due, by simp⟩
  obtain ⟨⟨n, found⟩, hfind⟩ := Option.isSome_iff_exists.1 hfound
  obtain rfl : n = caller := by simpa using List.find?_some hfind
  obtain rfl := Queue.answer_unique hk due (List.mem_of_find?_eq_some hfind)
  simp only [move?, Queue.resume?, hfind, Option.map_some]
  exact ⟨_, rfl⟩

theorem refuses {r : Refresher} {c : Command} (stopped : r.phase = .stopped)
    (free : r.queue.isFree c.caller = true) :
    r.move? (.send c) = some (r, [.arrived c, .returned c.caller (.error .closed)]) := by
  simp [move?, free, isStopped, stopped]

theorem length_issued_add_faults (l : List Completed) :
    (l.filterMap Completed.issued?).length + (l.filterMap Completed.fault?).length = l.length := by
  induction l with
  | nil => rfl
  | cons a rest ih =>
    obtain ⟨time, clock, outcome⟩ := a
    cases outcome <;>
      simp only [List.filterMap_cons, Completed.issued?, Completed.fault?, List.length_cons] <;>
      omega

/-- What holds of a refresher and its callers, living or not. -/
structure Lifecycle (r : Refresher) (es : List Event) : Prop where
  /-- Only a drop or a breakdown ends it, as long as the clock can tell the next deadline. -/
  stopped : r.phase = .stopped → (∃ e ∈ es, e.signal = .dropped ∨ e.signal = .broke) ∨
    clockBound ≤ r.now + Policy.oneYear.toNanos
  unclosed : r.phase ≠ .stopped →
    (∀ caller e, (caller, .error e) ∉ r.queue.answers) ∧
      ∀ time caller e, ⟨time, .returned caller (.error e)⟩ ∉ es
  /-- Every call that came stands where its command and the refresher's phase put it. -/
  stands : ∀ before t c after, es = before ++ ⟨t, .arrived c⟩ :: after →
    Stands r c (standing c.caller after)
  resumes : ∀ caller answer, (caller, answer) ∈ r.queue.answers →
    ∃ r', r.move? (.resume caller) = some (r', [.returned caller answer])
  refuses : r.phase = .stopped → ∀ c, r.queue.isFree c.caller = true →
    r.move? (.send c) = some (r, [.arrived c, .returned c.caller (.error .closed)])
  snapshot : r.snapshot = snapshotOf (completed es)
  successes : r.tally.successes = ((completed es).filterMap Completed.issued?).length
  failures : r.tally.failures = ((completed es).filterMap Completed.fault?).length

/-- A refresher lives until it is dropped or breaks down, and whenever that is, everyone gets the
right answer, nothing more is attempted, and what was published and counted stays. -/
theorem lives_until_dropped {policy : Policy} {tick now clock : Nat} {call : Call}
    {moves : List Move} {r : Refresher} {es : List Event}
    (h : Opening.run? policy tick now call clock moves = some (r, es)) :
    Lifecycle r es ∧
      ∀ front back before earlier, moves = front ++ back →
        Opening.run? policy tick now call clock front = some (before, earlier) →
        before.phase = .stopped → ∃ later, es = earlier ++ later ∧ Silent before r later := by
  have hr := reached_of_run? h
  refine ⟨?_, fun front back before earlier heq hfront stopped => ?_⟩
  · constructor
    case stopped => exact hr.stopped
    case unclosed => exact hr.unclosed
    case stands =>
      intro before t c after heq
      exact hr.stands before _ after c heq rfl
    case resumes => exact fun caller answer due => Refresher.resumes hr.keys_nodup due
    case refuses => exact fun stopped c free => Refresher.refuses stopped free
    case snapshot => exact hr.snapshot_eq
    case successes => exact hr.successes_eq
    case failures =>
      have hover := hr.over_eq
      have hsuccesses := hr.successes_eq
      have hsplit := length_issued_add_faults (completed es)
      omega
  · obtain ⟨middle, log, later, hmiddle, hrest, rfl⟩ := of_opening_run?_append (heq ▸ h)
    rw [hfront] at hmiddle
    cases hmiddle
    exact ⟨later, rfl, silent_of_run? stopped hrest⟩

/-- The cache is dropped in the middle of an attempt that a command began.  Its caller has yet to
learn that, another command is in the slot and a third one in line. -/
def droppedMoves : List Move :=
  [.launch, .send ⟨1, none⟩, .enter, .accept ⟨none, .breakdown⟩, .send ⟨2, none⟩, .enter,
    .send ⟨3, none⟩, .stop]

/-- Their callers take their answers, and one more comes. -/
def lateMoves : List Move := [.resume 1, .resume 2, .send ⟨4, none⟩, .read]

theorem lives_until_dropped_of_late :
    ∃ r es before earlier later,
      Opening.run? .standard 1000000 0 promptCall 0 (droppedMoves ++ lateMoves) = some (r, es) ∧
        Opening.run? .standard 1000000 0 promptCall 0 droppedMoves = some (before, earlier) ∧
        before.phase = .stopped ∧ r.tally = ⟨2, 1, 0⟩ ∧
        r.queue.answers = [(3, .error .closed)] ∧ es = earlier ++ later ∧
        Lifecycle r es ∧ Silent before r later := by
  have hruns : (Opening.run? .standard 1000000 0 promptCall 0 (droppedMoves ++ lateMoves)).map
      (fun p => (p.1.tally, p.1.queue.answers)) = some (⟨2, 1, 0⟩, [(3, .error .closed)]) := by
    rfl
  have hfronts : (Opening.run? .standard 1000000 0 promptCall 0 droppedMoves).map
      (fun p => p.1.phase) = some .stopped := by rfl
  obtain ⟨⟨r, es⟩, h, heq⟩ := Option.map_eq_some_iff.1 hruns
  obtain ⟨⟨before, earlier⟩, hfront, hstopped⟩ := Option.map_eq_some_iff.1 hfronts
  obtain ⟨hlife, hend⟩ := lives_until_dropped h
  obtain ⟨later, hlog, hsilent⟩ := hend droppedMoves lateMoves before earlier rfl hfront hstopped
  exact ⟨r, es, before, earlier, later, h, hfront, hstopped, congrArg Prod.fst heq,
    congrArg Prod.snd heq, hlog, hlife, hsilent⟩

end Refresher

end FreshToken
