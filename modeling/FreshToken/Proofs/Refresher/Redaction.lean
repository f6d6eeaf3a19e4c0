import FreshToken.Proofs.Refresher.Log
/-!
# Redaction

Tokens and snapshots with their secrets blotted out.  Every move of a refresher does the same to a
redacted refresher as to the refresher itself, so runs that differ only in the texts of tokens stay
alike, and whatever they let be seen is the same.
-/

namespace FreshToken

def Secret.redact {role : SecretRole} (_ : Secret role) : Secret role := ⟨Secret.redacted⟩

def Credentials.redact (c : Credentials) : Credentials := { c with appSecret := c.appSecret.redact }

def IssuedToken.redact (t : IssuedToken) : IssuedToken := { t with token := t.token.redact }

def Answer.redact : Answer → Answer
  | .issued t => .issued t.redact
  | .refused f => .refused f
  | .breakdown => .breakdown

def Call.redact (call : Call) : Call := { call with answer := call.answer.redact }

def Fetch.redact (fetch : Fetch) : Fetch := { fetch with answer := fetch.answer.redact }

def Snapshot.redact (s : Snapshot) : Snapshot := { s with token := s.token.map Secret.redact }

def Phase.redact : Phase → Phase
  | .starting first => .starting first
  | .idle armed => .idle armed
  | .fetching fetch => .fetching fetch.redact
  | .stopped => .stopped

def Signal.redact : Signal → Signal
  | .ended outcome clock => .ended (outcome.map IssuedToken.redact) clock
  | .published s => .published s.redact
  | .shown s => .shown s.redact
  | s => s

namespace Refresher

def redact (r : Refresher) : Refresher :=
  { r with snapshot := r.snapshot.redact, phase := r.phase.redact }

def Move.redact : Move → Move
  | .accept call => .accept call.redact
  | .fire call => .fire call.redact
  | m => m

def Event.redact (e : Event) : Event := { e with signal := e.signal.redact }

end Refresher

/-! ## What is done to redacted things -/

theorem Fetch.redact_await (timeout : Duration) (now limit : Nat) (call : Call) :
    (Fetch.await timeout now limit call).redact = .await timeout now limit call.redact := by
  obtain ⟨takes, answer⟩ := call
  cases takes with
  | none => rfl
  | some nanos =>
    by_cases hle : now + nanos ≤ limit
    · simp only [await, Call.redact, if_pos hle, Fetch.redact]
    · simp only [await, Call.redact, if_neg hle, Fetch.redact, cutOff, Answer.redact]

theorem Fetch.redact_start (tick : Nat) (timeout : Duration) (now : Nat) (call : Call) :
    (Fetch.start tick timeout now call).redact = .start tick timeout now call.redact := by
  rw [Fetch.start, Fetch.start]
  split
  · exact redact_await timeout now _ call
  · rfl

namespace Refresher

theorem phase_redact (r : Refresher) : r.redact.phase = r.phase.redact := rfl

theorem queue_redact (r : Refresher) : r.redact.queue = r.queue := rfl

theorem redact_arm (r : Refresher) (d : Duration) : (r.arm d).redact = r.redact.arm d := by
  rcases Nat.lt_or_ge (r.now + d.toNanos) clockBound with hlt | hge
  · rw [arm_of_lt hlt, arm_of_lt (r := r.redact) hlt]
    rfl
  · rw [arm_of_le hge, arm_of_le (r := r.redact) hge]
    rfl

theorem redact_attempt (r : Refresher) (cause : Cause) (call : Call) :
    r.redact.attempt cause call.redact =
      ((r.attempt cause call).1.redact, (r.attempt cause call).2.map Signal.redact) := by
  simp only [attempt, count, redact, Phase.redact, Fetch.redact_start, List.map_cons,
    List.map_nil, Signal.redact]

theorem redact_accept (r : Refresher) (c : Command) (queue : Queue) (call : Call) :
    r.redact.accept c queue call.redact =
      ((r.accept c queue call).1.redact, (r.accept c queue call).2.map Signal.redact) := by
  have hattempt := redact_attempt { r with schedule := c.interval, queue := queue } (.command c)
    call
  exact congrArg (fun q => (q.1, .note (.logged (.rescheduled c.interval)) :: .accepted c :: q.2))
    hattempt

theorem redact_conclude (r : Refresher) (answer : Answer) (clock : Nat) :
    r.redact.conclude answer.redact clock =
      ((r.conclude answer clock).1.redact, (r.conclude answer clock).2.map Signal.redact) := by
  cases answer with
  | issued t =>
    simp only [conclude, Answer.redact, succeed, count, redact_arm]
    rfl
  | refused f =>
    simp only [conclude, Answer.redact, fail, count, redact_arm]
    rfl
  | breakdown => rfl

theorem isStopped_redact (r : Refresher) : r.redact.isStopped = r.isStopped := by
  cases hphase : r.phase <;> simp only [isStopped, redact, hphase, Phase.redact]

theorem wake?_redact (r : Refresher) : r.redact.wake? = r.wake? := by
  cases hphase : r.phase <;> simp only [wake?, redact, hphase, Phase.redact, Fetch.redact]

theorem isReady_redact (r : Refresher) : r.redact.isReady = r.isReady := by
  rw [isReady, isReady, wake?_redact]
  cases hphase : r.phase <;> simp only [redact, hphase, Phase.redact]

/-- A redacted refresher makes redacted moves as the refresher makes its own. -/
theorem move?_redact (r : Refresher) (m : Move) :
    r.redact.move? m.redact =
      (r.move? m).map fun p => (p.1.redact, p.2.map Signal.redact) := by
  cases m with
  | send c =>
    simp only [Move.redact, move?, isStopped_redact, queue_redact]
    split
    · rfl
    · split <;> rfl
  | enter =>
    simp only [Move.redact, move?, queue_redact]
    cases r.queue.enter? <;> rfl
  | withdraw caller => rfl
  | resume caller =>
    simp only [Move.redact, move?, queue_redact]
    cases r.queue.resume? caller <;> rfl
  | read => rfl
  | launch =>
    cases hphase : r.phase with
    | starting first =>
      simp only [Move.redact, move?, phase_redact, hphase, Phase.redact, Option.map_some,
        redact_arm]
      rfl
    | _ => simp only [Move.redact, move?, phase_redact, hphase, Phase.redact, Option.map_none]
  | accept call =>
    cases hphase : r.phase with
    | idle armed =>
      simp only [Move.redact, move?, phase_redact, queue_redact, hphase, Phase.redact]
      cases r.queue.take? with
      | none => rfl
      | some p => exact congrArg some (redact_accept r p.1 p.2 call)
    | _ => simp only [Move.redact, move?, phase_redact, hphase, Phase.redact, Option.map_none]
  | fire call =>
    cases hphase : r.phase with
    | idle armed =>
      simp only [Move.redact, move?, phase_redact, hphase, Phase.redact, redact_attempt]
      rw [show r.redact.tick = r.tick from rfl, show r.redact.now = r.now from rfl]
      split <;> rfl
    | _ => simp only [Move.redact, move?, phase_redact, hphase, Phase.redact, Option.map_none]
  | finish clock =>
    cases hphase : r.phase with
    | fetching fetch =>
      simp only [Move.redact, move?, phase_redact, hphase, Phase.redact, Fetch.redact,
        redact_conclude]
      rw [show r.redact.now = r.now from rfl]
      split <;> rfl
    | _ => simp only [Move.redact, move?, phase_redact, hphase, Phase.redact, Option.map_none]
  | wait target =>
    simp only [Move.redact, move?, isReady_redact, wake?_redact]
    rw [show r.redact.now = r.now from rfl]
    split <;> rfl
  | stop => rfl

theorem redact_events (t : Nat) (signals : List Signal) :
    (signals.map Signal.redact).map (Event.mk t) =
      (signals.map (Event.mk t)).map Event.redact := by
  rw [List.map_map, List.map_map]
  rfl

theorem move?_alike {r₁ r₂ : Refresher} {m₁ m₂ : Move} (hr : r₁.redact = r₂.redact)
    (hm : m₁.redact = m₂.redact) :
    (r₁.move? m₁).map (fun p => (p.1.redact, p.2.map Signal.redact)) =
      (r₂.move? m₂).map fun p => (p.1.redact, p.2.map Signal.redact) := by
  rw [← move?_redact, ← move?_redact, hr, hm]

theorem run?_alike {r₁ r₂ : Refresher} {moves₁ moves₂ : List Move} (hr : r₁.redact = r₂.redact)
    (hmoves : moves₁.map Move.redact = moves₂.map Move.redact) :
    (r₁.run? moves₁).map (fun p => (p.1.redact, p.2.map Event.redact)) =
      (r₂.run? moves₂).map fun p => (p.1.redact, p.2.map Event.redact) := by
  rw [run?_eq_machine, run?_eq_machine]
  refine Machine.run?_alike ?_ hr hmoves
  intro r₁ r₂ m₁ m₂ hr hm
  have hnow : r₁.redact.now = r₂.redact.now := by rw [hr]
  have hmove := congrArg (Option.map fun p => (p.1, p.2.map (Event.mk r₁.now)))
    (move?_alike hr hm)
  simp only [Option.map_map, Function.comp_def, redact_events] at hmove
  simp only [timed?, Option.map_map, Function.comp_def]
  rw [hmove]
  exact congrArg (fun t => (r₂.move? m₂).map fun p =>
    (p.1.redact, (p.2.map (Event.mk t)).map Event.redact)) hnow

end Refresher

/-! ## What can be seen -/

/-- Something that somebody may read or write to a log. -/
inductive Sight where
  | text (s : String)
  | record (r : Text.Record)
  | error (e : Error)
  | note (n : Note)

def Sight.texts : Sight → List String
  | .text s => [s]
  | .record r => [r.line, r.pretty]
  | .error e => e.message :: e.record.line :: e.record.pretty :: e.causes
  | .note (.logged e) => [e.text]
  | .note (.counted op o) => [Counters.name op o]

def Secret.sights {role : SecretRole} (s : Secret role) : List Sight :=
  [.text s.text, .record s.record]

def IssuedToken.sights (t : IssuedToken) : List Sight := .record t.record :: t.token.sights

def Snapshot.sights (s : Snapshot) : List Sight :=
  .record s.record :: match s.result with
    | .ok t => t.sights
    | .error e => [.error e]

def Signal.sights : Signal → List Sight
  | .note n => [.note n]
  | .ended (.ok t) _ => t.sights
  | .ended (.error f) _ => [.error (.authentication f)]
  | .published s | .shown s => s.sights
  | .returned _ (.error e) => [.error e]
  | _ => []

theorem Snapshot.record_redact (s : Snapshot) : s.redact.record = s.record := by
  obtain ⟨token, lastFault, attempt, refreshedAt, expiresAt⟩ := s
  cases token <;> rfl

theorem Snapshot.result_redact (s : Snapshot) : s.redact.result = s.result.map Secret.redact := by
  obtain ⟨token, lastFault, attempt, refreshedAt, expiresAt⟩ := s
  cases lastFault with
  | some f => rfl
  | none => cases token <;> rfl

theorem Snapshot.sights_redact (s : Snapshot) : s.redact.sights = s.sights := by
  rw [Snapshot.sights, Snapshot.sights, record_redact, result_redact]
  cases s.result <;> rfl

theorem Signal.sights_redact (s : Signal) : s.redact.sights = s.sights := by
  cases s with
  | ended outcome => cases outcome <;> rfl
  | published s | shown s => exact s.sights_redact
  | _ => rfl

def Refresher.seen (es : List Refresher.Event) : List Sight := es.flatMap (·.signal.sights)

theorem Refresher.seen_redact (es : List Refresher.Event) :
    Refresher.seen (es.map Refresher.Event.redact) = Refresher.seen es := by
  rw [seen, seen, List.flatMap_map]
  congr 1
  funext e
  exact e.signal.sights_redact

namespace Opening

def redact (o : Opening) : Opening := { o with fetch := o.fetch.redact }

theorem start_redact (policy : Policy) (tick now : Nat) (call : Call) :
    Opening.start policy tick now call.redact =
      (Opening.start policy tick now call).map fun p =>
        (p.1.redact, p.2.map Signal.redact) := by
  rw [Opening.start, Opening.start, ← Fetch.redact_start]
  cases policy.fault? <;> rfl

theorem conclude_redact (o : Opening) (clock : Nat) :
    o.redact.conclude clock =
      ((o.conclude clock).1.map Refresher.redact, (o.conclude clock).2.map Signal.redact) := by
  obtain ⟨policy, tick, ends, answer⟩ := o
  cases answer <;> rfl

/-- A cache that was opened with a redacted call is a redacted cache. -/
theorem run?_nil_redact (policy : Policy) (tick now : Nat) (call : Call) (clock : Nat) :
    Opening.run? policy tick now call.redact clock [] =
      (Opening.run? policy tick now call clock []).map fun p =>
        (p.1.redact, p.2.map Refresher.Event.redact) := by
  rw [Opening.run?, Opening.run?, start_redact]
  cases Opening.start policy tick now call with
  | error f => rfl
  | ok p =>
    simp only [Except.map, conclude_redact]
    obtain ⟨result, back⟩ := p.1.conclude clock
    cases result with
    | error e => rfl
    | ok r =>
      simp only [Refresher.run?, Option.map_some, List.append_nil, List.map_append,
        Refresher.redact_events]
      rfl

theorem run?_alike (policy : Policy) (tick now clock : Nat) {call₁ call₂ : Call}
    (hcall : call₁.redact = call₂.redact) {moves₁ moves₂ : List Refresher.Move}
    (hmoves : moves₁.map Refresher.Move.redact = moves₂.map Refresher.Move.redact) :
    (Opening.run? policy tick now call₁ clock moves₁).map
        (fun p => (p.1.redact, p.2.map Refresher.Event.redact)) =
      (Opening.run? policy tick now call₂ clock moves₂).map
        fun p => (p.1.redact, p.2.map Refresher.Event.redact) := by
  have hopen := run?_nil_redact policy tick now call₁ clock
  rw [hcall, run?_nil_redact] at hopen
  rw [Refresher.opening_run?_eq, Refresher.opening_run?_eq policy tick now call₂]
  refine Machine.bind_alike hopen.symm fun p q hlook => ?_
  obtain ⟨hr, hevents⟩ := Prod.mk.inj hlook
  exact Machine.append_alike hevents (Refresher.run?_alike hr hmoves)

end Opening

end FreshToken
