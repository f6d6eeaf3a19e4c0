import FreshToken.Client.Traffic
import FreshToken.Proofs.Executor.Alone
import FreshToken.Proofs.Refresher.History
/-!
# The gate of a client

A request goes out with the token of the last attempt that was over when it was made, or not at all.
What the refresher does afterwards makes no difference to it.
-/

namespace FreshToken.Traffic

open Machine

variable {s s' : Traffic} {m : Move} {es new : List Signal} {policy : Policy} {tick : Nat}

/-! ## Two logs in one -/

@[simp] def Signal.refresh? : Signal → Option Refresher.Event
  | .refresh e => some e
  | _ => none

@[simp] def Signal.execute? : Signal → Option (Calls.Signal (SharedPool.Signal (List UInt8)))
  | .execute e => some e
  | _ => none

abbrev refreshes (es : List Signal) : List Refresher.Event := es.filterMap Signal.refresh?

abbrev executed (es : List Signal) : List (Calls.Signal (SharedPool.Signal (List UInt8))) :=
  es.filterMap Signal.execute?

theorem refreshes_refresh (l : List Refresher.Event) : refreshes (l.map .refresh) = l := by
  rw [refreshes, List.filterMap_map]
  exact List.filterMap_some

theorem executed_refresh (l : List Refresher.Event) : executed (l.map .refresh) = [] := by
  rw [executed, List.filterMap_map]
  exact List.filterMap_eq_nil_iff.2 fun _ _ => rfl

theorem executed_execute (l : List (Calls.Signal (SharedPool.Signal (List UInt8)))) :
    executed (l.map .execute) = l := by
  rw [executed, List.filterMap_map]
  exact List.filterMap_some

theorem refreshes_execute (l : List (Calls.Signal (SharedPool.Signal (List UInt8)))) :
    refreshes (l.map .execute) = [] := by
  rw [refreshes, List.filterMap_map]
  exact List.filterMap_eq_nil_iff.2 fun _ _ => rfl

/-! ## One move -/

inductive Step (s : Traffic) : Move → Traffic → List Signal → Prop where
  | refresh {m : Refresher.Move} {r : Refresher} {signals : List FreshToken.Signal}
      (move : s.refresher.move? m = some (r, signals)) :
    Step s (.refresh m) { s with refresher := r }
      ((signals.map (.mk s.refresher.now)).map .refresh)
  | forward {q : Request} {url : Url} {calls : Calls (SharedPool (List UInt8))}
      {es : List (Calls.Signal (SharedPool.Signal (List UInt8)))}
      (granted : s.refresher.snapshot.authorize q.url = .ok url)
      (move : s.calls.move? (.pooled byteBuffers) (.call { q with url := url }) =
        some (calls, es)) :
    Step s (.call q) { s with calls := calls } (es.map .execute)
  | refuse {q : Request} {e : Error} (failed : s.refresher.snapshot.authorize q.url = .error e) :
    Step s (.call q) s [.refused q e]
  | execute {m : Calls.Move (SharedPool.Move (List UInt8))}
      {calls : Calls (SharedPool (List UInt8))}
      {es : List (Calls.Signal (SharedPool.Signal (List UInt8)))}
      (move : s.calls.move? (.pooled byteBuffers) m = some (calls, es)) :
    Step s (.execute m) { s with calls := calls } (es.map .execute)

theorem of_execute? {m : Calls.Move (SharedPool.Move (List UInt8))}
    (h : s.execute? m = some (s', new)) :
    ∃ calls es, s.calls.move? (.pooled byteBuffers) m = some (calls, es) ∧
      s' = { s with calls := calls } ∧ new = es.map .execute := by
  rw [execute?, Option.map_eq_some_iff] at h
  obtain ⟨⟨calls, es⟩, hmove, heq⟩ := h
  cases heq
  exact ⟨calls, es, hmove, rfl, rfl⟩

theorem step_of_move? (h : s.move? m = some (s', new)) : Step s m s' new := by
  cases m with
  | refresh m =>
    rw [move?, Option.map_eq_some_iff] at h
    obtain ⟨⟨r, signals⟩, hmove, heq⟩ := h
    cases heq
    exact .refresh hmove
  | call q =>
    rw [move?] at h
    cases hurl : s.refresher.snapshot.authorize q.url with
    | error e =>
      rw [hurl] at h
      cases h
      exact .refuse hurl
    | ok url =>
      rw [hurl] at h
      obtain ⟨calls, es, hmove, rfl, rfl⟩ := of_execute? h
      exact .forward hurl hmove
  | execute m =>
    obtain ⟨calls, es, hmove, rfl, rfl⟩ := of_execute? h
    exact .execute hmove

/-! ## Every run -/

/-- A client with its log: the refresher and the executor each go their own way. -/
structure Sound (policy : Policy) (tick : Nat) (s : Traffic) (es : List Signal) : Prop where
  refresher : Refresher.Reached policy tick s.refresher (refreshes es)
  leased : Calls.Leased s.calls
  courses : Calls.Courses s.calls (executed es)

theorem Sound.execute {m : Calls.Move (SharedPool.Move (List UInt8))}
    {calls : Calls (SharedPool (List UInt8))}
    {es' : List (Calls.Signal (SharedPool.Signal (List UInt8)))} (hs : Sound policy tick s es)
    (h : s.calls.move? (.pooled byteBuffers) m = some (calls, es')) :
    Sound policy tick { s with calls := calls } (es ++ es'.map .execute) := by
  have hstep := Calls.step_of_move? h
  refine ⟨?_, hstep.leased hs.leased (fun _ => rfl) (fun _ => rfl), ?_⟩
  · rw [refreshes, List.filterMap_append, ← refreshes, ← refreshes, refreshes_execute,
      List.append_nil]
    exact hs.refresher
  · rw [executed, List.filterMap_append, ← executed, ← executed, executed_execute]
    exact hstep.courses hs.leased.clean hs.courses

theorem Step.sound (h : Step s m s' new) (hs : Sound policy tick s es) :
    Sound policy tick s' (es ++ new) := by
  cases h with
  | refresh hmove =>
    refine ⟨?_, hs.leased, ?_⟩
    · rw [refreshes, List.filterMap_append, ← refreshes, ← refreshes, refreshes_refresh]
      exact hs.refresher.step (Refresher.step_of_move? hmove)
    · rw [executed, List.filterMap_append, ← executed, ← executed, executed_refresh,
        List.append_nil]
      exact hs.courses
  | refuse hfailed =>
    refine ⟨?_, hs.leased, ?_⟩
    · rw [refreshes, List.filterMap_append]
      exact (List.append_nil _).symm ▸ hs.refresher
    · rw [executed, List.filterMap_append]
      exact (List.append_nil _).symm ▸ hs.courses
  | forward hgranted hmove => exact hs.execute hmove
  | execute hmove => exact hs.execute hmove

theorem Sound.run {moves : List Move} (hs : Sound policy tick s es)
    (h : Machine.run? move? s moves = some (s', new)) : Sound policy tick s' (es ++ new) := by
  induction moves generalizing s es new with
  | nil =>
    cases h
    rw [List.append_nil]
    exact hs
  | cons m rest ih =>
    obtain ⟨after, front, back, hmove, hrest, rfl⟩ := of_run?_cons h
    rw [← List.append_assoc]
    exact ih ((step_of_move? hmove).sound hs) hrest

/-- A client that is built, before it makes moves. -/
theorem sound_opened {now clock capacity : Nat} {call : Call} {r : Refresher}
    {front : List Refresher.Event}
    (h : Opening.run? policy tick now call clock [] = some (r, front)) :
    Sound policy tick ⟨r, .start (.start capacity)⟩ (front.map .refresh) := by
  refine ⟨?_, Calls.leased_start capacity, ?_⟩
  · rw [refreshes_refresh]
    exact Refresher.reached_of_run? h
  · rw [executed_refresh]
    exact Calls.courses_start _

theorem run?_eq_some_iff {now clock capacity : Nat} {call : Call} {moves : List Move} :
    run? policy tick now call clock capacity moves = some (s, es) ↔
      ∃ r front back, Opening.run? policy tick now call clock [] = some (r, front) ∧
        Machine.run? move? ⟨r, .start (.start capacity)⟩ moves = some (s, back) ∧
        es = front.map .refresh ++ back := by
  simp only [run?, bind, Option.bind_eq_some_iff, pure, Option.some.injEq, Prod.mk.injEq,
    Prod.exists]
  constructor
  · rintro ⟨r, front, hopening, s', back, hrun, rfl, rfl⟩
    exact ⟨r, front, back, hopening, hrun, rfl⟩
  · rintro ⟨r, front, back, hopening, hrun, rfl⟩
    exact ⟨r, front, hopening, s, back, hrun, rfl, rfl⟩

/-! ## What comes of a call -/

theorem Sound.authorize {last : Refresher.Completed} (hs : Sound policy tick s es)
    (hlast : (Refresher.completed (refreshes es)).getLast? = some last) (url : Url) :
    s.refresher.snapshot.authorize url =
      match last.outcome with
      | .ok t => .ok (url.withPair "access_token" t.token.exposed)
      | .error f => .error (.authentication f) := by
  rw [Snapshot.authorize, hs.refresher.result_eq hlast]
  cases last.outcome <;> rfl

/-- What comes of a request that the executor has as call `n`. -/
structure Granted (n : Nat) (q : Request) (s : Traffic) (es : List Signal) : Prop where
  /-- It is sent once it has its buffer, and not again. -/
  course : ∃ progress, s.calls.jobs[n]? = some ⟨q, progress⟩ ∧
    Calls.Course n q progress (Calls.trace n (executed es)) ∧
    Calls.outbound n (executed es) = progress.outbound q
  /-- It can be sent without waiting for anyone else. -/
  proceeds : ∃ moves s' new, Machine.run? move? s moves = some (s', new) ∧
    Calls.outbound n (executed (es ++ new)) = Calls.dispatch q
  /-- The refresher does nothing to it. -/
  steady : ∀ m s' new, s.move? (.refresh m) = some (s', new) →
    s'.calls = s.calls ∧ executed (es ++ new) = executed es
  /-- Its result is that of the transport, or the payload has no JSON form. -/
  result : ∀ result, .returned n result ∈ executed es →
    Calls.outbound n (executed es) = Calls.dispatch q ∧
      Calls.Yields n q (Calls.trace n (executed es)) result

theorem steady_refresh {m : Refresher.Move} (h : s.move? (.refresh m) = some (s', new)) :
    s'.calls = s.calls ∧ executed (es ++ new) = executed es := by
  cases step_of_move? h with
  | refresh hmove =>
    refine ⟨rfl, ?_⟩
    rw [executed, List.filterMap_append, ← executed, ← executed, executed_refresh, List.append_nil]

theorem run?_execute {ms : List (Calls.Move (SharedPool.Move (List UInt8)))}
    {calls : Calls (SharedPool (List UInt8))}
    {es : List (Calls.Signal (SharedPool.Signal (List UInt8)))}
    (h : Machine.run? (Calls.move? (.pooled byteBuffers)) s.calls ms = some (calls, es)) :
    Machine.run? move? s (ms.map .execute) = some ({ s with calls := calls }, es.map .execute) := by
  refine run?_map (fun calls => { s with calls := calls }) Move.execute Signal.execute ?_ h
  intro calls m calls' es _ hmove
  simp only [move?, execute?, hmove]
  rfl

theorem Sound.sends {n j : Nat} {q : Request} (hs : Sound policy tick s es)
    (hjob : s.calls.jobs[n]? = some ⟨q, .leasing j⟩) {p : Payload} (hpayload : q.payload = some p) :
    ∃ moves s' new, Machine.run? move? s moves = some (s', new) ∧
      Calls.outbound n (executed (es ++ new)) = Calls.dispatch q := by
  obtain ⟨i, calls, es', progress, hrun, hjob', hsent⟩ :=
    hs.leased.encodes (k := byteBuffers) hjob hpayload
  have hrun' := run?_execute hrun
  refine ⟨_, _, _, hrun', ?_⟩
  have hcourse := (hs.run hrun').courses.course n _ hjob'
  exact hcourse.outbound.trans hsent

theorem Sound.granted {n : Nat} {q : Request} (hs : Sound policy tick s es)
    (hcalled : .called n q ∈ executed es) : Granted n q s es := by
  obtain ⟨progress, hjob, hcourse⟩ := hs.courses.job hcalled
  have hsent : Calls.outbound n (executed es) = progress.outbound q := hcourse.outbound
  refine ⟨⟨progress, hjob, hcourse, hsent⟩, ?_, fun m s' new h => steady_refresh h, ?_⟩
  · cases progress with
    | leasing j =>
      obtain ⟨p, hpayload, _⟩ := hcourse.of_leasing
      exact hs.sends hjob hpayload
    | _ =>
      refine ⟨[], s, [], rfl, ?_⟩
      rw [List.append_nil]
      exact hsent
  · intro result hresult
    have hreturned : .returned n result ∈ Calls.trace n (executed es) :=
      Calls.mem_trace hresult rfl rfl
    refine ⟨?_, hcourse.yields hreturned⟩
    cases progress with
    | leasing j =>
      obtain ⟨_, _, htrace⟩ := hcourse.of_leasing
      simp [htrace, Calls.opening] at hreturned
    | _ => exact hsent

section
variable {q : Request} {last : Refresher.Completed}

theorem Sound.refuses {f : AuthFault} (hs : Sound policy tick s es)
    (hlast : (Refresher.completed (refreshes es)).getLast? = some last)
    (hf : last.outcome = .error f) (hmove : s.move? (.call q) = some (s', new)) :
    s' = s ∧ new = [.refused q (.authentication f)] := by
  have hauthorize := hs.authorize hlast q.url
  rw [hf] at hauthorize
  cases step_of_move? hmove with
  | forward hgranted =>
    rw [hauthorize] at hgranted
    cases hgranted
  | refuse hfailed =>
    rw [hauthorize] at hfailed
    cases hfailed
    exact ⟨rfl, rfl⟩

theorem Sound.forwards {t : IssuedToken} (hs : Sound policy tick s es)
    (hlast : (Refresher.completed (refreshes es)).getLast? = some last)
    (ht : last.outcome = .ok t) (hmove : s.move? (.call q) = some (s', new)) :
    .execute (.called s.calls.jobs.length
      { q with url := q.url.withPair "access_token" t.token.exposed }) ∈ new := by
  have hauthorize := hs.authorize hlast q.url
  rw [ht] at hauthorize
  cases step_of_move? hmove with
  | forward hgranted hcalls =>
    rw [hauthorize] at hgranted
    cases hgranted
    exact List.mem_map_of_mem (Calls.step_of_move? hcalls).called
  | refuse hfailed =>
    rw [hauthorize] at hfailed
    cases hfailed

end

theorem exists_call (s : Traffic) (q : Request) : ∃ s' new, s.move? (.call q) = some (s', new) := by
  rw [move?]
  cases s.refresher.snapshot.authorize q.url with
  | error e => exact ⟨_, _, rfl⟩
  | ok url => exact ⟨_, _, rfl⟩

/-- A request of the client, which can be made at any time, is judged by the last attempt that was
over then.  If that failed, so does the request, and nothing else happens.  If not, it is sent with
the token of that attempt, and what comes of it is up to the transport alone. -/
theorem gate {now clock capacity : Nat} {fetch : Call} {moves : List Move}
    (h : run? policy tick now fetch clock capacity moves = some (s, es)) (q : Request) :
    ∃ last s' new, (Refresher.completed (refreshes es)).getLast? = some last ∧
      s.move? (.call q) = some (s', new) ∧
      (∀ f, last.outcome = .error f → s' = s ∧ new = [.refused q (.authentication f)]) ∧
      ∀ t, last.outcome = .ok t →
        let n := s.calls.jobs.length
        let sent := { q with url := q.url.withPair "access_token" t.token.exposed }
        .execute (.called n sent) ∈ new ∧
          ∀ rest final later, Machine.run? move? s' rest = some (final, later) →
            Granted n sent final (es ++ new ++ later) := by
  obtain ⟨r, front, back, hopening, hrun, rfl⟩ := run?_eq_some_iff.1 h
  have hs : Sound policy tick s (front.map .refresh ++ back) := (sound_opened hopening).run hrun
  obtain ⟨earlier, last, hcompleted⟩ := hs.refresher.exists_last
  have hlast : (Refresher.completed (refreshes (front.map .refresh ++ back))).getLast? =
      some last := by
    rw [hcompleted, List.getLast?_concat]
  obtain ⟨s', new, hmove⟩ := exists_call s q
  refine ⟨last, s', new, hlast, hmove, ?_, ?_⟩
  · intro f hf
    exact hs.refuses hlast hf hmove
  · intro t ht
    have hcalled := hs.forwards hlast ht hmove
    refine ⟨hcalled, ?_⟩
    intro rest final later hrest
    have hfinal := ((step_of_move? hmove).sound hs).run hrest
    have hlog := List.mem_append_left later
      (List.mem_append_right (front.map .refresh ++ back) hcalled)
    exact hfinal.granted (List.mem_filterMap.2 ⟨_, hlog, rfl⟩)

def greeting : Request where
  payload := some (.value (.string "hi"))
  url := ⟨"https", some ⟨"", "h", none⟩, .segments ["send"], none, none⟩
  reader := .any

/-- A command is accepted while the token of the first attempt is good. -/
def renewing : List Move :=
  [.refresh .launch, .refresh (.send ⟨1, none⟩), .refresh .enter,
    .refresh (.accept ⟨none, .breakdown⟩)]

/-- A body is written and sent; then the attempt is cut off, and the next request is made before
the answer comes. -/
def crossing : List Move :=
  [.execute (.lender (.step 0)), .execute (.lender (.step 0)), .execute (.lender (.step 0)),
    .execute (.encode 0), .refresh (.wait 30002000000), .refresh (.finish 30), .call greeting,
    .execute (.answer 0 (.ok ⟨200, none, "null".toUTF8.toList⟩))]

theorem gate_of_crossing :
    ∃ s es, run? .standard 1000000 0 Refresher.promptCall 0 1 renewing = some (s, es) ∧
      ∃ s' new final later, s.move? (.call greeting) = some (s', new) ∧
        Machine.run? move? s' crossing = some (final, later) ∧
        Calls.outbound 0 (executed (es ++ new ++ later)) =
          [(greeting.url.withPair "access_token" "first", some "\"hi\"".toUTF8.toList)] ∧
        Granted 0 { greeting with url := greeting.url.withPair "access_token" "first" } final
          (es ++ new ++ later) := by
  have hruns : (run? .standard 1000000 0 Refresher.promptCall 0 1
      (renewing ++ .call greeting :: crossing)).map (fun p => Calls.outbound 0 (executed p.2)) =
      some [(greeting.url.withPair "access_token" "first", some "\"hi\"".toUTF8.toList)] := by
    rfl
  have hissued : (run? .standard 1000000 0 Refresher.promptCall 0 1 renewing).map (fun p =>
      (p.1.calls.jobs.length, (Refresher.completed (refreshes p.2)).getLast?.map (·.outcome))) =
      some (0, some (.ok ⟨⟨"first"⟩, .whole 7200 (by decide)⟩)) := by
    rfl
  obtain ⟨⟨final, log⟩, h, hsent⟩ := Option.map_eq_some_iff.1 hruns
  obtain ⟨r, front, all, hopening, hrun, rfl⟩ := run?_eq_some_iff.1 h
  obtain ⟨s, before, after, hbefore, hafter, rfl⟩ := of_run?_append hrun
  obtain ⟨s', new, later, hcall, hlater, rfl⟩ := of_run?_cons hafter
  have hrenewed := run?_eq_some_iff.2 ⟨r, front, before, hopening, hbefore, rfl⟩
  obtain ⟨last, _, _, hlast, hmove, _, hgranted⟩ := gate hrenewed greeting
  rw [hcall] at hmove
  obtain ⟨rfl, rfl⟩ := Prod.mk.inj (Option.some.inj hmove)
  rw [hrenewed, Option.map_some, hlast, Option.map_some] at hissued
  obtain ⟨hlength, houtcome⟩ := Prod.mk.inj (Option.some.inj hissued)
  have hgrant := (hgranted _ (Option.some.inj houtcome)).2 crossing final later hlater
  rw [hlength] at hgrant
  refine ⟨s, _, hrenewed, s', new, final, later, hcall, hlater, ?_, hgrant⟩
  simpa only [List.append_assoc] using hsent

end FreshToken.Traffic
