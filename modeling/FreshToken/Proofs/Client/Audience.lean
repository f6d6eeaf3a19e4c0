import FreshToken.Proofs.Client.Parts
import FreshToken.Proofs.Refresher.Instants
/-!
# The audience of a client

Anybody may look at a client while it works, and send requests through it.  The refresher goes on as
if nobody did, and those who look never wait for it.
-/

namespace FreshToken

inductive Look where
  /-- The token of the last attempt, or its failure. -/
  | token
  | count (o : Outcome)
  | cache
  | client

inductive Glance where
  | token (result : Except Error (Secret .token))
  | count (n : Nat)
  | record (r : Text.Record)

def Traffic.glance (c : Credentials) (s : Traffic) : Look → Glance
  | .token => .token s.refresher.snapshot.result
  | .count o => .count (s.refresher.tally.of o)
  | .cache => .record (cacheRecord c s.refresher.snapshot s.refresher.policy)
  | .client =>
    .record (clientRecord (cacheRecord c s.refresher.snapshot s.refresher.policy) s.calls.executor)

namespace Audience

open Machine

inductive Move where
  | traffic (m : Traffic.Move)
  | look (l : Look)

inductive Signal where
  | traffic (e : Traffic.Signal)
  | glanced (l : Look) (g : Glance)

def move? (c : Credentials) (s : Traffic) : Move → Option (Traffic × List Signal)
  | .traffic m => (s.move? m).map fun p => (p.1, p.2.map .traffic)
  | .look l => some (s, [.glanced l (s.glance c l)])

def run? (c : Credentials) (policy : Policy) (tick now : Nat) (call : Call)
    (clock capacity : Nat) (moves : List Move) : Option (Traffic × List Signal) := do
  let (s, front) ← Traffic.run? policy tick now call clock capacity []
  let (final, back) ← Machine.run? (move? c) s moves
  return (final, front.map .traffic ++ back)

/-! ## Without the audience -/

@[simp] def Move.traffic? : Move → Option Traffic.Move
  | .traffic m => some m
  | .look _ => none

@[simp] def Signal.traffic? : Signal → Option Traffic.Signal
  | .traffic e => some e
  | .glanced .. => none

abbrev parts (ms : List Move) : List Traffic.Move := ms.filterMap Move.traffic?

abbrev tasks (ms : List Move) : List Refresher.Move := (parts ms).filterMap Traffic.Move.refresh?

abbrev acts (es : List Signal) : List Traffic.Signal := es.filterMap Signal.traffic?

variable {c : Credentials} {s s' : Traffic} {m : Move} {ms ns : List Move} {es new : List Signal}
  {policy : Policy} {tick now clock capacity : Nat} {call : Call}

theorem acts_traffic (l : List Traffic.Signal) : acts (l.map .traffic) = l := by
  rw [acts, List.filterMap_map]
  exact List.filterMap_some

theorem acts_append (es new : List Signal) : acts (es ++ new) = acts es ++ acts new :=
  List.filterMap_append

theorem run?_eq_some_iff :
    run? c policy tick now call clock capacity ms = some (s, es) ↔
      ∃ first front back, Traffic.run? policy tick now call clock capacity [] = some (first, front) ∧
        Machine.run? (move? c) first ms = some (s, back) ∧ es = front.map .traffic ++ back := by
  simp only [run?, bind, Option.bind_eq_some_iff, pure, Option.some.injEq, Prod.mk.injEq,
    Prod.exists]
  constructor
  · rintro ⟨first, front, hopening, s', back, hrun, rfl, rfl⟩
    exact ⟨first, front, back, hopening, hrun, rfl⟩
  · rintro ⟨first, front, back, hopening, hrun, rfl⟩
    exact ⟨first, front, hopening, s, back, hrun, rfl, rfl⟩

theorem run?_parts (h : Machine.run? (move? c) s ms = some (s', es)) :
    Machine.run? Traffic.move? s (parts ms) = some (s', acts es) := by
  induction ms generalizing s es with
  | nil =>
    cases h
    rfl
  | cons m rest ih =>
    obtain ⟨after, front, back, hmove, hrest, rfl⟩ := of_run?_cons h
    rw [acts_append]
    cases m with
    | traffic m =>
      obtain ⟨⟨_, signals⟩, htraffic, heq⟩ := Option.map_eq_some_iff.1 hmove
      obtain ⟨rfl, rfl⟩ := Prod.mk.inj heq
      rw [acts_traffic]
      exact run?_step htraffic (ih hrest)
    | look l =>
      cases hmove
      exact ih hrest

/-- A client does in front of an audience what it does without. -/
theorem run?_traffic (h : run? c policy tick now call clock capacity ms = some (s, es)) :
    Traffic.run? policy tick now call clock capacity (parts ms) = some (s, acts es) := by
  obtain ⟨first, front, back, hopening, hrun, rfl⟩ := run?_eq_some_iff.1 h
  obtain ⟨r, log, none, hopened, hnone, rfl⟩ := Traffic.run?_eq_some_iff.1 hopening
  cases hnone
  rw [acts_append, acts_traffic, List.append_nil]
  exact Traffic.run?_eq_some_iff.2 ⟨r, log, _, hopened, run?_parts hrun, rfl⟩

/-- The refresher of a client does with an audience what it does alone. -/
theorem run?_tasks (h : run? c policy tick now call clock capacity ms = some (s, es)) :
    Opening.run? policy tick now call clock (tasks ms) =
      some (s.refresher, Traffic.refreshes (acts es)) :=
  Traffic.run?_opening (run?_traffic h)

/-! ## Onlookers -/

/-- Whether a move asks nothing of the refresher but to be seen. -/
def Move.IsOnlooker : Move → Prop
  | .look _ | .traffic (.call _) | .traffic (.execute _) | .traffic (.refresh .read) => True
  | .traffic (.refresh _) => False

/-- The second run is the first one with onlookers put in at any instants, and maybe with other
readings of the calendar.  Calls of the authenticator are the same as far as `g` tells. -/
inductive Inserted (g : Call → Call) : List Move → List Move → Prop where
  | nil : Inserted g [] []
  | keep {m m' : Refresher.Move} {ms ns : List Move} (same : m.sketch g = m'.sketch g)
      (rest : Inserted g ms ns) :
    Inserted g (.traffic (.refresh m) :: ms) (.traffic (.refresh m') :: ns)
  | insert {o : Move} {ms ns : List Move} (onlooker : o.IsOnlooker) (rest : Inserted g ms ns) :
    Inserted g ms (o :: ns)
  /-- An onlooker of the first run, whose call may have another number in the second. -/
  | own {o : Move} {ms ns : List Move} (onlooker : o.IsOnlooker) (rest : Inserted g ms ns) :
    Inserted g (o :: ms) ns
  /-- Time stops at `t'` on its way to `t`, for onlookers. -/
  | pause {t : Nat} (t' : Nat) {ms ns : List Move}
      (rest : Inserted g (.traffic (.refresh (.wait t)) :: ms) ns) :
    Inserted g (.traffic (.refresh (.wait t)) :: ms) (.traffic (.refresh (.wait t')) :: ns)

/-- What the refresher is to do and when, as far as `g` tells. -/
def schedule (g : Call → Call) (now : Nat) (ms : List Move) : List (Nat × Refresher.Move) :=
  Refresher.timetable now ((tasks ms).map (Refresher.Move.sketch g))

theorem schedule_onlooker (g : Call → Call) (now : Nat) (ms : List Move)
    (onlooker : m.IsOnlooker) : schedule g now (m :: ms) = schedule g now ms := by
  cases m with
  | look => rfl
  | traffic m =>
    cases m with
    | call | execute => rfl
    | refresh m =>
      cases m with
      | read => rfl
      | _ => exact onlooker.elim

theorem schedule_refresh (g : Call → Call) (now : Nat) (m : Refresher.Move) (ms : List Move) :
    schedule g now (.traffic (.refresh m) :: ms) =
      (m.sketch g).row now ++ schedule g (m.ends now) ms := by
  rw [← m.ends_sketch g]
  rfl

theorem Inserted.schedule_eq {g : Call → Call} (h : Inserted g ms ns) (now : Nat) :
    schedule g now ms = schedule g now ns := by
  induction h generalizing now with
  | nil => rfl
  | @keep m m' ms ns same rest ih =>
    have hends : m.ends now = m'.ends now := by
      rw [← m.ends_sketch g, same, m'.ends_sketch g]
    rw [schedule_refresh, schedule_refresh, same, hends, ih]
  | insert onlooker rest ih => rw [schedule_onlooker g now _ onlooker, ih]
  | own onlooker rest ih => rw [schedule_onlooker g now _ onlooker, ih]
  -- A wait says no more than when the next move is made, and the later one has the last word.
  | pause t' rest ih => exact ih t'

/-! ## One transport for all -/

inductive Ask where
  | token (t : Nat)
  | request (url : Url) (body? : Option (List UInt8))

def Ask.isToken : Ask → Bool
  | .token _ => true
  | .request .. => false

@[simp] def ask? : Traffic.Signal → Option Ask
  | .refresh e => e.begun?.map fun b => .token b.1
  | .execute (.sent _ url body?) => some (.request url body?)
  | _ => none

abbrev asks (es : List Signal) : List Ask := (acts es).filterMap ask?

/-- What a call for a token comes to that is made at an instant, after all that the transport was
asked before. -/
abbrev Transport := List Ask → Nat → Call

/-- Calls for tokens come to the same whatever else the transport is asked for. -/
def Transport.IgnoresRequests (T : Transport) : Prop :=
  ∀ asked t, T asked t = T (asked.filter Ask.isToken) t

def Move.answered (call : Call) : Move → Move
  | .traffic (.refresh m) => .traffic (.refresh (m.answered call))
  | m => m

/-- The moves of a run with the calls that a transport makes of them. -/
def served (c : Credentials) (T : Transport) (s : Traffic) (es : List Signal) :
    List Move → List Move
  | [] => []
  | m :: rest =>
    m.answered (T (asks es) s.refresher.now) ::
      match move? c s m with
      | some (s', new) => served c T s' (es ++ new) rest
      | none => rest

theorem filter_asks (es : List Signal) :
    (asks es).filter Ask.isToken =
      ((Refresher.begun (Traffic.refreshes (acts es))).map Prod.fst).map Ask.token := by
  unfold asks
  generalize acts es = l
  rw [List.filter_filterMap, Refresher.begun, Traffic.refreshes, List.filterMap_filterMap,
    List.map_filterMap, List.map_filterMap]
  apply List.filterMap_congr
  intro e _
  cases e with
  | refresh e =>
    simp only [ask?, Traffic.Signal.refresh?, Option.bind_some, Option.map_map]
    cases e.begun? <;> rfl
  | refused => rfl
  | execute e => cases e <;> rfl

/-- A timetable with the calls of a transport that is asked for nothing but tokens. -/
def fill (T : Transport) (asked : List Ask) :
    List (Nat × Refresher.Move) → List (Nat × Refresher.Move)
  | [] => []
  | (t, m) :: rest => (t, m.answered (T asked t)) :: fill T (asked ++ (m.calls t).map .token) rest

structure Transport.Serves (T : Transport) (c : Credentials) (policy : Policy) (tick now : Nat)
    (call : Call) (clock capacity : Nat) (ms : List Move) : Prop where
  opening : call = T [] now
  calls : ∀ s es, Traffic.run? policy tick now call clock capacity [] = some (s, es) →
    served c T s (es.map .traffic) ms = ms

def unknown (_ : Call) : Call := ⟨none, .breakdown⟩

theorem fill_row {T : Transport} {asked : List Ask} {t : Nat} {m : Refresher.Move}
    (answered : m.answered (T asked t) = m) (rest : List (Nat × Refresher.Move)) :
    fill T asked ((m.sketch unknown).row t ++ rest) =
      (m.sketch id).row t ++ fill T (asked ++ (m.calls t).map .token) rest := by
  cases m with
  | accept call =>
    rw [← Refresher.Move.accept.inj answered]
    rfl
  | fire call =>
    rw [← Refresher.Move.fire.inj answered]
    rfl
  | wait | read =>
    have hnone : asked = asked ++ [] := (List.append_nil asked).symm
    exact congrArg (fun l => fill T l rest) hnone
  | _ => rfl

theorem step_tasks (h : move? c s m = some (s', new)) :
    Machine.run? Refresher.timed? s.refresher (tasks [m]) =
      some (s'.refresher, Traffic.refreshes (acts new)) :=
  Traffic.run?_refresher (run?_parts (run?_one h))

/-- The calls that a move makes are the tokens that the transport is asked for. -/
theorem tokens_append {m : Refresher.Move} (es : List Signal)
    (h : move? c s (.traffic (.refresh m)) = some (s', new)) :
    s'.refresher.now = m.ends s.refresher.now ∧
      (asks (es ++ new)).filter Ask.isToken =
        (asks es).filter Ask.isToken ++ (m.calls s.refresher.now).map .token := by
  obtain ⟨after, front, back, htimed, hnone, hlog⟩ := of_run?_cons (step_tasks h)
  cases hnone
  rw [List.append_nil] at hlog
  obtain ⟨⟨r, signals⟩, hmove, heq⟩ := Option.map_eq_some_iff.1 htimed
  obtain ⟨rfl, rfl⟩ := Prod.mk.inj heq
  obtain ⟨hnow, hcalls⟩ := Refresher.times_of_move? hmove
  refine ⟨hnow, ?_⟩
  rw [asks, acts_append, List.filterMap_append, List.filter_append, filter_asks new, hlog, hcalls]

/-- With a transport that ignores requests, a timetable without calls tells what all calls come
to. -/
theorem schedule_of_served {T : Transport} (ignores : T.IgnoresRequests)
    (h : Machine.run? (move? c) s ms = some (s', new)) (hserved : served c T s es ms = ms) :
    schedule id s.refresher.now ms =
      fill T ((asks es).filter Ask.isToken) (schedule unknown s.refresher.now ms) := by
  induction ms generalizing s es new with
  | nil => rfl
  | cons m rest ih =>
    obtain ⟨after, front, back, hmove, hrest, rfl⟩ := of_run?_cons h
    rw [served, hmove] at hserved
    obtain ⟨hcall, hserved⟩ := List.cons.inj hserved
    have hlater := ih hrest hserved
    -- An onlooker takes no time and asks for no token, so both sides stay as they are.
    have hidle (onlooker : m.IsOnlooker) (hnone : tasks [m] = []) :
        schedule id s.refresher.now (m :: rest) =
          fill T ((asks es).filter Ask.isToken) (schedule unknown s.refresher.now (m :: rest)) := by
      have htasks := step_tasks hmove
      rw [hnone] at htasks
      obtain ⟨hstate, hlog⟩ := Prod.mk.inj (Option.some.inj htasks)
      rw [asks, acts_append, List.filterMap_append, List.filter_append, filter_asks front, ← hlog,
        ← hstate] at hlater
      rw [schedule_onlooker id _ _ onlooker, schedule_onlooker unknown _ _ onlooker]
      simpa using hlater
    cases m with
    | look l => exact hidle trivial rfl
    | traffic m =>
      cases m with
      | call q | execute m => exact hidle trivial rfl
      | refresh m =>
        obtain ⟨hnow, htokens⟩ := tokens_append es hmove
        rw [hnow, htokens] at hlater
        -- The transport was asked for more than tokens, but answers as if it was not.
        have hanswered : m.answered (T ((asks es).filter Ask.isToken) s.refresher.now) = m := by
          rw [← ignores]
          exact Traffic.Move.refresh.inj (Move.traffic.inj hcall)
        rw [schedule_refresh, schedule_refresh, hlater, fill_row hanswered]

/-! ## Nobody is noticed -/

/-- What two clients do to keep their tokens fresh is the same. -/
structure SameRefresh (s₁ s₂ : Traffic) (es₁ es₂ : List Signal) : Prop where
  refresher : Refresher.Alike s₁.refresher s₂.refresher (Traffic.refreshes (acts es₁))
    (Traffic.refreshes (acts es₂))
  reports : (Traffic.notes (acts es₁)).filter Note.isRefresh =
    (Traffic.notes (acts es₂)).filter Note.isRefresh
  counters : (Traffic.counters (acts es₁)).refresh = (Traffic.counters (acts es₂)).refresh

/-- The refresher of a client and its audience do not wait for each other. -/
structure Unnoticed (c : Credentials) (s : Traffic) (es : List Signal) : Prop where
  looks : ∀ l, move? c s (.look l) = some (s, [.glanced l (s.glance c l)])
  calls : ∀ q, ∃ s' new, move? c s (.traffic (.call q)) = some (s', new)
  still : ∀ m s' new, m.IsOnlooker → move? c s m = some (s', new) → s'.refresher = s.refresher
  /-- The refresher can do in the client all that it could do without. -/
  free : ∀ moves r log, s.refresher.run? moves = some (r, log) →
    Machine.run? (move? c) s (moves.map fun m => .traffic (.refresh m)) =
      some ({ s with refresher := r }, log.map fun e => .traffic (.refresh e))
  /-- Onlookers may come at any time while the refresher waits. -/
  pause : ∀ t t' r log, s.refresher.run? [.wait t] = some (r, log) → s.refresher.now ≤ t' →
    t' < t → s.refresher.run? [.wait t', .wait t] = some (r, log)
  /-- While an attempt is under way, readers get at once what the one before published. -/
  during : ∀ fetch, s.refresher.phase = .fetching fetch →
    (Refresher.begun (Traffic.refreshes (acts es))).length =
        (Refresher.published (Traffic.refreshes (acts es))).length + 1 ∧
      ∃ last, (Refresher.published (Traffic.refreshes (acts es))).getLast?.map Prod.snd =
          some last ∧
        move? c s (.traffic (.refresh .read)) =
          some (s, [.traffic (.refresh ⟨s.refresher.now, .shown last⟩)]) ∧
        move? c s (.look .token) = some (s, [.glanced .token (.token last.result)])
  counters : (Traffic.counters (acts es)).refresh = s.refresher.tally

section
variable {call₁ call₂ : Call} {clock₁ clock₂ capacity₁ capacity₂ : Nat} {c₁ c₂ : Credentials}
  {ms₁ ms₂ : List Move} {s₁ s₂ : Traffic} {es₁ es₂ : List Signal}

theorem sameRefresh_of_schedule
    (h₁ : run? c₁ policy tick now call clock₁ capacity₁ ms₁ = some (s₁, es₁))
    (h₂ : run? c₂ policy tick now call clock₂ capacity₂ ms₂ = some (s₂, es₂))
    (same : schedule id (Fetch.start tick policy.fetchTimeout now call).ends ms₁ =
      schedule id (Fetch.start tick policy.fetchTimeout now call).ends ms₂) :
    SameRefresh s₁ s₂ es₁ es₂ := by
  rw [schedule, schedule, Refresher.timetable_sketch, Refresher.timetable_sketch] at same
  have halike := Refresher.alike_of_timetable (run?_tasks h₁) (run?_tasks h₂) same
  refine ⟨halike, ?_, ?_⟩
  · rw [Traffic.filter_notes (run?_traffic h₁), Traffic.filter_notes (run?_traffic h₂),
      halike.notes]
  · rw [Traffic.counters_refresh (run?_traffic h₁), Traffic.counters_refresh (run?_traffic h₂),
      halike.tally]

/-- All calls of a client that a transport serves follow from its schedule. -/
theorem schedule_of_serves {T : Transport} (ignores : T.IgnoresRequests)
    (serves : T.Serves c policy tick now call clock capacity ms)
    (h : run? c policy tick now call clock capacity ms = some (s, es)) :
    schedule id (Fetch.start tick policy.fetchTimeout now call).ends ms =
      fill T [.token now]
        (schedule unknown (Fetch.start tick policy.fetchTimeout now call).ends ms) := by
  obtain ⟨first, front, back, hopening, hrun, rfl⟩ := run?_eq_some_iff.1 h
  have hserved := serves.calls first front hopening
  have hschedule := schedule_of_served ignores hrun hserved
  have hopened := Traffic.run?_opening hopening
  obtain ⟨t, _, hfirst, hlog⟩ := Refresher.of_opening_run?_nil hopened
  rw [filter_asks, acts_traffic, hlog, hfirst] at hschedule
  exact hschedule

theorem refresher_of_onlooker (onlooker : m.IsOnlooker) (h : move? c s m = some (s', new)) :
    s'.refresher = s.refresher := by
  have htasks := step_tasks h
  have hidle (hnone : tasks [m] = []) : s'.refresher = s.refresher := by
    rw [hnone] at htasks
    exact (congrArg Prod.fst (Option.some.inj htasks)).symm
  cases m with
  | look l => exact hidle rfl
  | traffic m =>
    cases m with
    | call q | execute m => exact hidle rfl
    | refresh m =>
      cases m with
      | read =>
        cases h
        rfl
      | _ => exact onlooker.elim

theorem free_refresher {moves : List Refresher.Move} {r : Refresher} {log : List Refresher.Event}
    (h : s.refresher.run? moves = some (r, log)) :
    Machine.run? (move? c) s (moves.map fun m => .traffic (.refresh m)) =
      some ({ s with refresher := r }, log.map fun e => .traffic (.refresh e)) := by
  rw [Refresher.run?_eq_machine] at h
  have hstep (r : Refresher) (m : Refresher.Move) (r' : Refresher) (es : List Refresher.Event)
      (_ : m ∈ moves) (htimed : Refresher.timed? r m = some (r', es)) :
      move? c { s with refresher := r } (.traffic (.refresh m)) =
        some ({ s with refresher := r' }, es.map fun e => .traffic (.refresh e)) := by
    obtain ⟨⟨after, signals⟩, hmove, heq⟩ := Option.map_eq_some_iff.1 htimed
    cases heq
    simp only [move?, Traffic.move?, hmove, Option.map_some, List.map_map]
    rfl
  exact run?_map (fun r => { s with refresher := r }) _ _ hstep h

theorem unnoticed_of_run? (h : run? c policy tick now call clock capacity ms = some (s, es)) :
    Unnoticed c s es := by
  have hr := Refresher.reached_of_run? (run?_tasks h)
  constructor
  case looks => exact fun l => rfl
  case calls =>
    intro q
    obtain ⟨s', new, hcall⟩ := s.exists_call q
    exact ⟨s', _, by rw [move?, hcall, Option.map_some]⟩
  case still => exact fun m s' new onlooker hmove => refresher_of_onlooker onlooker hmove
  case free => exact fun moves r log hrun => free_refresher hrun
  case pause =>
    intro t t' r log hwait later earlier
    exact Refresher.run?_wait hwait later earlier
  case during =>
    intro fetch hphase
    have hbegun := hr.begun_length (by rw [hphase]; simp)
    have hpublished := congrArg List.length hr.published_attempts
    rw [List.length_map, List.length_range'] at hpublished
    simp only [Refresher.inFlight, hphase] at hbegun
    exact ⟨by omega, s.refresher.snapshot, hr.last_published, rfl, rfl⟩
  case counters => exact Traffic.counters_refresh (run?_traffic h)

/-- Nobody who looks at a client or uses it is noticed by its refresher.  A run into which such
moves are put, at any instants, refreshes as it did without: if the calls of the authenticator come
to the same, or if they go through the transport of the requests and this does not mind the
requests. -/
theorem audience_unnoticed
    (h₁ : run? c₁ policy tick now call₁ clock₁ capacity₁ ms₁ = some (s₁, es₁))
    (h₂ : run? c₂ policy tick now call₂ clock₂ capacity₂ ms₂ = some (s₂, es₂)) :
    (call₁ = call₂ → Inserted id ms₁ ms₂ → SameRefresh s₁ s₂ es₁ es₂) ∧
      (∀ T : Transport, T.IgnoresRequests →
        T.Serves c₁ policy tick now call₁ clock₁ capacity₁ ms₁ →
        T.Serves c₂ policy tick now call₂ clock₂ capacity₂ ms₂ →
        Inserted unknown ms₁ ms₂ → SameRefresh s₁ s₂ es₁ es₂) ∧
      Unnoticed c₂ s₂ es₂ := by
  refine ⟨?_, ?_, unnoticed_of_run? h₂⟩
  · rintro rfl inserted
    exact sameRefresh_of_schedule h₁ h₂ (inserted.schedule_eq _)
  · intro T ignores serves₁ serves₂ inserted
    obtain rfl : call₁ = call₂ := serves₁.opening.trans serves₂.opening.symm
    have hcalls₁ := schedule_of_serves ignores serves₁ h₁
    have hcalls₂ := schedule_of_serves ignores serves₂ h₂
    apply sameRefresh_of_schedule h₁ h₂
    rw [hcalls₁, hcalls₂, inserted.schedule_eq]

end

def demo : Credentials := ⟨⟨"wx_demo", by decide⟩, ⟨"secret"⟩⟩

/-- The first token is good and no other attempt ends. -/
def onceThenSilent : Transport := fun asked _ =>
  if (asked.filter Ask.isToken).isEmpty then Refresher.promptCall else ⟨none, .breakdown⟩

/-- A command begins an attempt, which is cut off. -/
def quietMoves : List Move :=
  [.traffic (.refresh .launch), .traffic (.refresh (.send ⟨1, none⟩)), .traffic (.refresh .enter),
    .traffic (.refresh (.accept ⟨none, .breakdown⟩)), .traffic (.refresh (.wait 30002000000)),
    .traffic (.refresh (.finish 30))]

/-- Meanwhile a post is sent and given up, and later another one is refused. -/
def busyMoves : List Move :=
  [.traffic (.refresh .launch), .look .cache, .traffic (.refresh (.send ⟨1, none⟩)),
    .traffic (.refresh .enter), .traffic (.refresh (.accept ⟨none, .breakdown⟩)),
    .traffic (.call Traffic.greeting), .traffic (.execute (.lender (.step 0))),
    .traffic (.execute (.lender (.step 0))), .traffic (.execute (.lender (.step 0))),
    .traffic (.execute (.encode 0)), .traffic (.refresh (.wait 10000000000)),
    .traffic (.refresh .read), .look .token, .traffic (.execute (.cancel 0)),
    .traffic (.refresh (.wait 30002000000)), .traffic (.refresh (.finish 31)),
    .traffic (.call Traffic.greeting), .look (.count .failure)]

theorem audience_unnoticed_busyMoves :
    ∃ s₁ es₁ s₂ es₂,
      run? demo .standard 1000000 0 Refresher.promptCall 0 1 quietMoves = some (s₁, es₁) ∧
        run? demo .standard 1000000 0 Refresher.promptCall 1 1 busyMoves = some (s₂, es₂) ∧
        (asks es₁).length = 2 ∧ (asks es₂).length = 3 ∧ s₂.refresher.tally = ⟨2, 1, 1⟩ ∧
        Inserted id quietMoves busyMoves ∧ Inserted unknown quietMoves busyMoves ∧
        onceThenSilent.IgnoresRequests ∧
        onceThenSilent.Serves demo .standard 1000000 0 Refresher.promptCall 0 1 quietMoves ∧
        onceThenSilent.Serves demo .standard 1000000 0 Refresher.promptCall 1 1 busyMoves ∧
        SameRefresh s₁ s₂ es₁ es₂ ∧ Unnoticed demo s₂ es₂ := by
  have hquiet : (run? demo .standard 1000000 0 Refresher.promptCall 0 1 quietMoves).map
      (fun p => (asks p.2).length) = some 2 := by rfl
  have hbusy : (run? demo .standard 1000000 0 Refresher.promptCall 1 1 busyMoves).map
      (fun p => ((asks p.2).length, p.1.refresher.tally)) = some (3, ⟨2, 1, 1⟩) := by rfl
  have hinserted (g : Call → Call) : Inserted g quietMoves busyMoves :=
    .keep rfl (.insert trivial (.keep rfl (.keep rfl (.keep rfl (.insert trivial (.insert trivial
      (.insert trivial (.insert trivial (.insert trivial (.pause _ (.insert trivial (.insert trivial
        (.insert trivial (.keep rfl (.keep rfl (.insert trivial (.insert trivial
          .nil)))))))))))))))))
  have hignores : onceThenSilent.IgnoresRequests := by
    intro asked t
    simp [onceThenSilent]
  have hserved₁ : (Traffic.run? .standard 1000000 0 Refresher.promptCall 0 1 []).map
      (fun p => served demo onceThenSilent p.1 (p.2.map .traffic) quietMoves) =
        some quietMoves := by rfl
  have hserved₂ : (Traffic.run? .standard 1000000 0 Refresher.promptCall 1 1 []).map
      (fun p => served demo onceThenSilent p.1 (p.2.map .traffic) busyMoves) =
        some busyMoves := by rfl
  have hserves (clock : Nat) (ms : List Move)
      (hserved : (Traffic.run? .standard 1000000 0 Refresher.promptCall clock 1 []).map
        (fun p => served demo onceThenSilent p.1 (p.2.map .traffic) ms) = some ms) :
      onceThenSilent.Serves demo .standard 1000000 0 Refresher.promptCall clock 1 ms := by
    refine ⟨rfl, fun s es hopening => ?_⟩
    rw [hopening] at hserved
    exact Option.some.inj hserved
  obtain ⟨⟨s₁, es₁⟩, h₁, hasks₁⟩ := Option.map_eq_some_iff.1 hquiet
  obtain ⟨⟨s₂, es₂⟩, h₂, hend⟩ := Option.map_eq_some_iff.1 hbusy
  obtain ⟨hasks₂, htally⟩ := Prod.mk.inj hend
  have hserves₁ := hserves 0 quietMoves hserved₁
  have hserves₂ := hserves 1 busyMoves hserved₂
  obtain ⟨_, hshared, hunnoticed⟩ := audience_unnoticed h₁ h₂
  exact ⟨s₁, es₁, s₂, es₂, h₁, h₂, hasks₁, hasks₂, htally, hinserted id, hinserted unknown,
    hignores, hserves₁, hserves₂, hshared onceThenSilent hignores hserves₁ hserves₂
      (hinserted unknown), hunnoticed⟩

end Audience

end FreshToken
