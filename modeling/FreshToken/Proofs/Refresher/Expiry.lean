import FreshToken.Proofs.Refresher.History
import FreshToken.Proofs.Refresher.Instants
/-!
# When a token is over

A snapshot dates the token that it holds, and no other: the issue is what the calendar said when the
attempt that got the token ended, and the expiry lies exactly one lifetime later.  A token whose
lifetime reaches past the calendar has no expiry, and this is all that comes of it.
-/

namespace FreshToken

/-! ## The calendar -/

/-- Whether a year has a day more.  Years count from the year -10000, a multiple of 400. -/
def isLeap (year : Nat) : Bool := year % 4 == 0 && (year % 100 != 0 || year % 400 == 0)

/-- The days of the first years of the calendar, of which the year -9999 is the first. -/
def daysOfYears : Nat → Nat
  | 0 => 0
  | years + 1 => daysOfYears years + if isLeap (years + 1) then 366 else 365

theorem daysOfYears_eq (years : Nat) :
    daysOfYears years + years / 100 = 365 * years + years / 4 + years / 400 := by
  induction years with
  | zero => rfl
  | succ years ih =>
    rw [daysOfYears]
    by_cases hleap : isLeap (years + 1) = true
    · rw [if_pos hleap]
      simp only [isLeap, Bool.and_eq_true, Bool.or_eq_true, beq_iff_eq, bne_iff_ne] at hleap
      rcases hleap with ⟨hfour, hhundred | hfourHundred⟩
      · omega
      · omega
    · rw [if_neg hleap]
      simp only [isLeap, Bool.and_eq_true, Bool.or_eq_true, beq_iff_eq, bne_iff_ne, not_and_or,
        not_or] at hleap
      rcases hleap with hfour | ⟨hhundred, hfourHundred⟩
      · omega
      · omega

/-- The calendar has the years from -9999 to 9999. -/
theorem calendarEnd_add_one :
    calendarEnd + 1 = nanosPerSecond * (24 * 60 * 60 * daysOfYears (9999 + 1 + 9999)) := by
  have hdays : daysOfYears (9999 + 1 + 9999) = 7304484 := by
    have heq := daysOfYears_eq (9999 + 1 + 9999)
    omega
  rw [hdays]
  rfl

/-- The bound on the seconds of a lifetime never decides: such lifetimes pass the calendar. -/
theorem expiry?_eq (now : Nat) (lifetime : Duration) :
    expiry? now lifetime =
      if now + lifetime.toNanos ≤ calendarEnd then some (now + lifetime.toNanos) else none := by
  by_cases hfits : now + lifetime.toNanos ≤ calendarEnd
  · have hseconds : lifetime.seconds < lifetimeBound := by
      simp only [Duration.toNanos, nanosPerSecond, calendarEnd, lifetimeBound] at *
      omega
    rw [expiry?, if_pos ⟨hseconds, hfits⟩, if_pos hfits]
  · rw [expiry?, if_neg fun h => hfits h.2, if_neg hfits]

/-! ## What a snapshot says -/

/-- The snapshot holds a token that was issued when the calendar said `clock`, and knows to the
nanosecond when the token is over, if the calendar reaches so far. -/
structure Snapshot.Holds (s : Snapshot) (t : IssuedToken) (clock : Nat) : Prop where
  token : s.token = some t.token
  refreshedAt : s.refreshedAt = some clock
  expiresAt : s.expiresAt =
    if clock + t.lifetime.toNanos ≤ calendarEnd then some (clock + t.lifetime.toNanos) else none

structure Snapshot.ShowsSuccess (s : Snapshot) (n : Nat) (t : IssuedToken) (clock : Nat) :
    Prop where
  holds : s.Holds t clock
  attempt : s.attempt = n
  lastFault : s.lastFault = none

theorem Snapshot.showsSuccess_succeeded (s : Snapshot) (t : IssuedToken) (clock : Nat) :
    (s.succeeded t clock).ShowsSuccess (s.attempt + 1) t clock where
  holds := ⟨rfl, rfl, expiry?_eq clock t.lifetime⟩
  attempt := rfl
  lastFault := rfl

namespace Refresher

structure Reflects (s : Snapshot) (attempts : List Completed) : Prop where
  /-- It holds the token of the last success, however many attempts have failed since. -/
  holds : ∃ earlier a later t, attempts = earlier ++ a :: later ∧ a.outcome = .ok t ∧
    (∀ b ∈ later, ∃ f, b.outcome = .error f) ∧ s.Holds t a.clock
  attempt : s.attempt = attempts.length
  lastFault : s.lastFault = attempts.getLast?.bind Completed.fault?

section
variable {s : Snapshot} {attempts : List Completed}

theorem reflects_succeeded (counted : s.attempt = attempts.length) (time clock : Nat)
    (t : IssuedToken) : Reflects (s.succeeded t clock) (attempts ++ [⟨time, clock, .ok t⟩]) where
  holds := by
    refine ⟨attempts, ⟨time, clock, .ok t⟩, [], t, rfl, rfl, ?_,
      (s.showsSuccess_succeeded t clock).holds⟩
    intro b hb
    cases hb
  attempt := by rw [Snapshot.attempt_succeeded, counted, List.length_append, List.length_singleton]
  lastFault := by
    rw [List.getLast?_concat]
    rfl

theorem Reflects.failed (h : Reflects s attempts) (time clock : Nat) (f : AuthFault) :
    Reflects (s.failed f) (attempts ++ [⟨time, clock, .error f⟩]) where
  holds := by
    obtain ⟨earlier, a, later, t, heq, houtcome, hlater, hholds⟩ := h.holds
    refine ⟨earlier, a, later ++ [⟨time, clock, .error f⟩], t, ?_, houtcome, ?_,
      ⟨hholds.token, hholds.refreshedAt, hholds.expiresAt⟩⟩
    · rw [heq, List.append_assoc, List.cons_append]
    · intro b hb
      rcases List.mem_append.1 hb with hb | hb
      · exact hlater b hb
      · rw [List.mem_singleton.1 hb]
        exact ⟨f, rfl⟩
  attempt := by
    rw [Snapshot.attempt_failed, h.attempt, List.length_append, List.length_singleton]
  lastFault := by
    rw [List.getLast?_concat]
    rfl

theorem Reflects.after (h : Reflects s attempts) (time clock : Nat)
    (outcome : Except AuthFault IssuedToken) :
    Reflects (s.after outcome clock) (attempts ++ [⟨time, clock, outcome⟩]) := by
  cases outcome with
  | ok t => exact reflects_succeeded h.attempt time clock t
  | error f => exact h.failed time clock f

end

/-! ## Every snapshot -/

/-- The snapshot that is published or shown to a reader. -/
@[simp] def Event.snapshot? (e : Event) : Option Snapshot :=
  match e.signal with
  | .published s | .shown s => some s
  | _ => none

section
variable {policy : Policy} {tick now clock : Nat} {call : Call} {r : Refresher} {es : List Event}

theorem Reached.reflects (h : Reached policy tick r es) :
    Reflects r.snapshot (completed es) ∧
      Each Event.snapshot? (fun before s => Reflects s (completed before)) es := by
  induction h with
  | opened now call t clock valid issued =>
    have hfirst := @reflects_succeeded .empty [] rfl
      (Fetch.start tick policy.fetchTimeout now call).ends clock t
    exact ⟨hfirst, each_skip rfl (each_skip rfl (each_skip rfl (each_skip rfl (each_skip rfl
      (each_take rfl hfirst (each_of_none rfl))))))⟩
  | @step r r' es signals _ hstep ih =>
    obtain ⟨hcurrent, hseen⟩ := ih
    cases hstep with
    | read =>
      refine ⟨by simpa using hcurrent, each_append hseen (each_take rfl ?_ (each_of_none rfl))⟩
      simpa using hcurrent
    | succeed fetch t clock =>
      have hafter := hcurrent.after r.now clock (.ok t)
      refine ⟨by simpa using hafter, each_append hseen ?_⟩
      refine each_skip rfl (each_skip rfl (each_take rfl ?_ (each_of_none rfl)))
      simpa using hafter
    | fail fetch f clock =>
      have hafter := hcurrent.after r.now clock (.error f)
      refine ⟨by simpa using hafter, each_append hseen ?_⟩
      refine each_skip rfl (each_skip rfl (each_skip rfl (each_take rfl ?_ (each_of_none rfl))))
      simpa using hafter
    | _ =>
      refine ⟨?_, each_append hseen (each_of_none rfl)⟩
      simpa [Refresher.stop] using hcurrent

/-! ## What does not depend on the calendar -/

/-- A first attempt that gets a token opens a cache, whatever the calendar says and however long the
token lives. -/
theorem opening_run?_of_issued {t : IssuedToken} (valid : policy.Valid)
    (issued : (Fetch.start tick policy.fetchTimeout now call).answer = .issued t) (clock : Nat) :
    Opening.run? policy tick now call clock [] =
      some (opened policy tick (.start tick policy.fetchTimeout now call) t clock,
        openingEvents now (.start tick policy.fetchTimeout now call) t clock) := by
  have hfault : policy.fault? = none := valid
  simp only [Opening.run?, Opening.start, Opening.conclude, hfault, issued, run?]
  rfl

theorem snapshot_succeed (r : Refresher) (t : IssuedToken) (clock : Nat) :
    (r.succeed t clock).1.snapshot = r.snapshot.succeeded t clock := by
  simp only [succeed, count, snapshot_arm]

/-- Nor can they make a later attempt fail. -/
theorem finish_of_issued {fetch : Fetch} {t : IssuedToken} (fetching : r.phase = .fetching fetch)
    (issued : fetch.answer = .issued t) (due : fetch.ends ≤ r.now) (clock : Nat) :
    ∃ r' signals, r.move? (.finish clock) = some (r', signals) ∧
      .ended (.ok t) clock ∈ signals ∧ .published r'.snapshot ∈ signals ∧
      r'.snapshot.ShowsSuccess (r.snapshot.attempt + 1) t clock := by
  have hmove : r.move? (.finish clock) = some (r.succeed t clock) := by
    simp only [move?, fetching, if_pos due, issued, conclude]
  refine ⟨(r.succeed t clock).1, (r.succeed t clock).2, hmove, by simp [succeed], ?_, ?_⟩
  · rw [snapshot_succeed]
    simp [succeed]
  · rw [snapshot_succeed]
    exact r.snapshot.showsSuccess_succeeded t clock

/-- With other readings of the calendar the same moves can be made, and come to the same. -/
theorem exists_alike {moves others : List Move}
    (h : Opening.run? policy tick now call clock moves = some (r, es))
    (same : others.map (Move.sketch id) = moves.map (Move.sketch id)) (clock' : Nat) :
    ∃ r' es', Opening.run? policy tick now call clock' others = some (r', es') ∧
      Alike r r' es es' := by
  obtain ⟨first, front, back, hopening, hrun, rfl⟩ :=
    of_opening_run?_append ((List.nil_append moves).symm ▸ h)
  obtain ⟨t, hissued, rfl, -⟩ := of_opening_run?_nil hopening
  have hother := opening_run?_of_issued (reached_of_run? hopening).valid hissued clock'
  have halike := Machine.run?_alike sketch_timed? (sketch_opening hopening hother).1 same.symm
  rw [← run?_eq_machine, ← run?_eq_machine, hrun] at halike
  obtain ⟨⟨r', back'⟩, hrun', -⟩ := Option.map_eq_some_iff.1 halike.symm
  have h' := opening_run?_append hother hrun'
  rw [List.nil_append] at h'
  refine ⟨r', _, h', alike_of_timetable h h' ?_⟩
  simp only [← timetable_sketch, same]

end

/-! ## Bookkeeping -/

/-- What the snapshots of a cache say of its tokens, where `moves` led from its first attempt to
`r`, with the log `es`. -/
structure Dated (policy : Policy) (tick now : Nat) (call : Call) (moves : List Move)
    (r : Refresher) (es : List Event) : Prop where
  current : Reflects r.snapshot (completed es)
  /-- So does every snapshot that was ever published or shown. -/
  seen : ∀ before t signal s later, es = before ++ ⟨t, signal⟩ :: later →
    signal = .published s ∨ signal = .shown s → Reflects s (completed before)
  /-- Whether an expiry is in the calendar depends on what the calendar says, and nothing else
  does. -/
  alike : ∀ clock others, others.map (Move.sketch id) = moves.map (Move.sketch id) →
    ∃ r' es', Opening.run? policy tick now call clock others = some (r', es') ∧ Alike r r' es es'
  /-- No lifetime and no reading of the calendar makes an attempt fail that got a token. -/
  succeeds : ∀ fetch t clock, r.phase = .fetching fetch → fetch.answer = .issued t →
    fetch.ends ≤ r.now → ∃ r' signals, r.move? (.finish clock) = some (r', signals) ∧
      .ended (.ok t) clock ∈ signals ∧ .published r'.snapshot ∈ signals ∧
      r'.snapshot.ShowsSuccess (r.snapshot.attempt + 1) t clock

/-- Every snapshot dates the token that it holds.  The first attempt and all later ones succeed if
they get a token, whatever its lifetime; from then on and after any number of failures the snapshots
say when this very token was issued and when it is over, exactly, or nothing where the calendar does
not reach. -/
theorem expiry_of_held_token (policy : Policy) (tick now : Nat) (call : Call) (clock : Nat) :
    (∀ t, policy.Valid →
      (Fetch.start tick policy.fetchTimeout now call).answer = .issued t →
      ∃ r es, Opening.run? policy tick now call clock [] = some (r, es) ∧
        r.snapshot.ShowsSuccess 1 t clock) ∧
      ∀ moves r es, Opening.run? policy tick now call clock moves = some (r, es) →
        Dated policy tick now call moves r es := by
  constructor
  · intro t valid issued
    exact ⟨_, _, opening_run?_of_issued valid issued clock,
      Snapshot.empty.showsSuccess_succeeded t clock⟩
  · intro moves r es h
    have hr := reached_of_run? h
    constructor
    case current => exact hr.reflects.1
    case seen =>
      rintro before t signal s later heq (rfl | rfl)
      · exact hr.reflects.2 before _ later s heq rfl
      · exact hr.reflects.2 before _ later s heq rfl
    case alike => exact fun clock' others same => exists_alike h same clock'
    case succeeds => exact fun _ _ clock' fetching issued due =>
      finish_of_issued fetching issued due clock'

/-- The token of the opening is followed by a failure, by a token that lives longer than any
calendar lasts, and by an attempt that is cut off. -/
def endlessMoves : List Move :=
  [.launch, .read, .wait 6900002000000, .fire ⟨some 0, .refused .expired⟩, .finish 40, .read,
    .wait 6960002000000, .fire ⟨some 0, .issued ⟨⟨"endless"⟩, .longest⟩⟩, .finish 50, .read,
    .wait 31542960002000000, .fire ⟨none, .breakdown⟩, .wait 31542990002000000, .finish 60, .read]

/-- The first token is issued two hours before the calendar ends, and is over with it. -/
theorem expiry_of_held_token_endlessMoves :
    Policy.standard.Valid ∧
      (Fetch.start 1000000 Policy.standard.fetchTimeout 0 promptCall).answer =
        .issued ⟨⟨"first"⟩, .whole 7200 twoHours_lt⟩ ∧
      (∃ r es, Opening.run? .standard 1000000 0 promptCall 631107410399999999999 [] =
          some (r, es) ∧
        r.snapshot.ShowsSuccess 1 ⟨⟨"first"⟩, .whole 7200 twoHours_lt⟩ 631107410399999999999) ∧
      ∃ r es, Opening.run? .standard 1000000 0 promptCall 631107410399999999999 endlessMoves =
          some (r, es) ∧
        (shown es).map (fun s => (s.attempt, s.refreshedAt, s.expiresAt)) =
          [(1, some 631107410399999999999, some calendarEnd),
            (2, some 631107410399999999999, some calendarEnd), (3, some 50, none),
            (4, some 50, none)] ∧
        Dated .standard 1000000 0 promptCall endlessMoves r es := by
  have hvalid : Policy.standard.Valid := by decide
  have hruns : (Opening.run? .standard 1000000 0 promptCall 631107410399999999999
      endlessMoves).map
        (fun p => (shown p.2).map fun s => (s.attempt, s.refreshedAt, s.expiresAt)) =
        some [(1, some 631107410399999999999, some calendarEnd),
          (2, some 631107410399999999999, some calendarEnd), (3, some 50, none),
          (4, some 50, none)] := by rfl
  obtain ⟨⟨r, es⟩, h, hshown⟩ := Option.map_eq_some_iff.1 hruns
  obtain ⟨hfirst, hlater⟩ :=
    expiry_of_held_token .standard 1000000 0 promptCall 631107410399999999999
  exact ⟨hvalid, rfl, hfirst _ hvalid rfl, r, es, h, hshown, hlater _ r es h⟩

end Refresher

end FreshToken
