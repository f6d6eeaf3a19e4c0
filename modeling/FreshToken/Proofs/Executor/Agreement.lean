import FreshToken.Proofs.Executor.Alone
/-!
# Calls and the executor as a whole

Calls whose steps are not mixed with those of others do what the executor does in one go, with the
same buffers, the same reports and the same results.
-/

namespace FreshToken.Calls

open Machine

variable {k : BufferKind (List UInt8)} {s s' : Calls (SharedPool (List UInt8))}
  {new : List (Signal (SharedPool.Signal (List UInt8)))}

def Job.flight? (p : SharedPool (List UInt8)) (n : Nat) (job : Job) : Option Flight :=
  match job.progress with
  | .pending lease? =>
    some ⟨n, lease?.bind ((Lender.pooled byteBuffers).content? p), job.request.reader⟩
  | _ => none

/-- The executor that the calls use, without those that are in the middle of something. -/
def executor (s : Calls (SharedPool (List UInt8))) : Executor where
  pool := s.lender.plain
  flights := (List.range s.jobs.length).filterMap fun n => s.jobs[n]?.bind (Job.flight? s.lender n)

@[simp] def Signal.note? : Signal (SharedPool.Signal (List UInt8)) → Option Note
  | .noted _ x => some x
  | .lender (.logged e) => some (.logged e)
  | _ => none

abbrev notes (es : List (Signal (SharedPool.Signal (List UInt8)))) : List Note :=
  es.filterMap Signal.note?

@[simp] theorem notes_lender (es : List (SharedPool.Signal (List UInt8))) :
    notes (es.map .lender) = (SharedPool.entries es).map .logged := by
  induction es with
  | nil => rfl
  | cons e rest ih =>
    rw [List.map_cons, notes, SharedPool.entries, filterMap_cons_toList, filterMap_cons_toList,
      ← notes, ← SharedPool.entries, ih, List.map_append]
    cases e <;> rfl

section
variable {p : SharedPool (List UInt8)} {n : Nat}

theorem flight?_congr {job : Job}
    (same : ∀ j, job.lease? = some j → p.borrowers[j]? = s.lender.borrowers[j]?) :
    job.flight? p n = job.flight? s.lender n := by
  obtain ⟨q, progress⟩ := job
  cases progress with
  | pending lease? =>
    cases lease? with
    | none => rfl
    | some j =>
      have hcontent : (Lender.pooled byteBuffers).content? p j =
          (Lender.pooled byteBuffers).content? s.lender j := by
        simp only [Lender.pooled, same j rfl]
      simp only [Job.flight?, Option.bind_some, hcontent]
  | _ => rfl

theorem flights_append (job : Job)
    (same : ∀ (m j : Nat) (other : Job), s.jobs[m]? = some other → other.lease? = some j →
      p.borrowers[j]? = s.lender.borrowers[j]?) :
    (executor ⟨p, s.jobs ++ [job]⟩).flights =
      s.executor.flights ++ (job.flight? p s.jobs.length).toList := by
  simp only [executor, List.length_append, List.length_singleton, List.range_succ,
    List.filterMap_append, List.getElem?_concat_length, filterMap_cons_toList, Option.bind_some,
    List.filterMap_nil, List.append_nil]
  congr 1
  apply List.filterMap_congr
  intro m hm
  rw [List.getElem?_append_left (List.mem_range.1 hm)]
  cases hother : s.jobs[m]? with
  | none => rfl
  | some other => exact flight?_congr fun j hj => same m j other hother hj

theorem filter_flight? (p : SharedPool (List UInt8)) (m n : Nat) (job : Job) :
    (job.flight? p m).filter (fun f => decide (f.id ≠ n)) =
      if m = n then none else job.flight? p m := by
  obtain ⟨q, progress⟩ := job
  by_cases hne : m = n
  · cases progress <;> simp [Job.flight?, hne, Option.filter]
  · cases progress <;> simp [Job.flight?, hne, Option.filter]

/-- A call whose lease nobody else has goes on. -/
theorem flights_set (job : Job) (keep : Flight → Bool)
    (same : ∀ (m j : Nat) (other : Job), n ≠ m → s.jobs[m]? = some other → other.lease? = some j →
      p.borrowers[j]? = s.lender.borrowers[j]?)
    (own : ∀ old, s.jobs[n]? = some old →
      job.flight? p n = (old.flight? s.lender n).filter keep)
    (others : ∀ (m : Nat) (other : Job), n ≠ m → s.jobs[m]? = some other →
      (other.flight? s.lender m).filter keep = other.flight? s.lender m) :
    (executor ⟨p, s.jobs.set n job⟩).flights = s.executor.flights.filter keep := by
  simp only [executor, List.length_set, List.filter_filterMap]
  apply List.filterMap_congr
  intro m hm
  have hlt : m < s.jobs.length := List.mem_range.1 hm
  by_cases hne : n = m
  · have hold : s.jobs[n]? = some s.jobs[m] := by rw [hne, List.getElem?_eq_getElem hlt]
    rw [← hne, List.getElem?_set_self (hne ▸ hlt), Option.bind_some, hold, Option.bind_some]
    exact own _ hold
  · rw [List.getElem?_set_ne hne]
    cases hother : s.jobs[m]? with
    | none => rfl
    | some other =>
      rw [Option.bind_some, Option.bind_some, others m other hne hother,
        flight?_congr fun j hj => same m j other hne hother hj]

theorem flights_set_idle {old : Job} (job : Job) (hold : s.jobs[n]? = some old)
    (idle : old.flight? s.lender n = none) (landed : job.flight? p n = none)
    (same : ∀ (m j : Nat) (other : Job), n ≠ m → s.jobs[m]? = some other → other.lease? = some j →
      p.borrowers[j]? = s.lender.borrowers[j]?) :
    (executor ⟨p, s.jobs.set n job⟩).flights = s.executor.flights := by
  have hall := flights_set job (fun _ => true) same
    (fun old' hold' => by rw [landed, Option.some.inj (hold'.symm.trans hold), idle]; rfl)
    (fun m other _ _ => by cases other.flight? s.lender m <;> rfl)
  rw [hall, List.filter_true]

theorem flights_set_landed (job : Job) (landed : job.flight? p n = none)
    (same : ∀ (m j : Nat) (other : Job), n ≠ m → s.jobs[m]? = some other → other.lease? = some j →
      p.borrowers[j]? = s.lender.borrowers[j]?) :
    (executor ⟨p, s.jobs.set n job⟩).flights = s.executor.flights.filter (·.id ≠ n) :=
  flights_set job _ same
    (fun old _ => by rw [landed, filter_flight?, if_pos rfl])
    (fun m other hne _ => by rw [filter_flight?, if_neg (Ne.symm hne)])

end

theorem get_alone {q : Request} (hpayload : q.payload = none) :
    ∃ s' new, s.move? (Lender.pooled byteBuffers) (.call q) = some (s', new) ∧
      (s'.executor, notes new) = s.executor.beginGet s.jobs.length q.reader := by
  have hmove : s.move? (Lender.pooled byteBuffers) (.call q) =
      some ({ s with jobs := s.jobs ++ [⟨q, .pending none⟩] },
        .called s.jobs.length q :: opening s.jobs.length .getJson ++
          [.sent s.jobs.length q.url none]) := by
    simp only [move?, call, hpayload]
  have hflights := flights_append (s := s) (p := s.lender) ⟨q, .pending none⟩
    fun _ _ _ _ _ => rfl
  exact ⟨_, _, hmove, Prod.ext (Executor.ext rfl hflights) rfl⟩

/-- What the executor does with one call, and what the calls do when nobody comes between. -/
structure Agrees (s' : Calls (SharedPool (List UInt8)))
    (new : List (Signal (SharedPool.Signal (List UInt8)))) (e : Executor) (ns : List Note) :
    Prop where
  executor_eq : s'.executor = e
  notes_eq : notes new = ns
  counted : s'.lender.built = s'.lender.pool.created

theorem Leased.others {n j : Nat} {job : Job} (hs : Leased s) (hjob : s.jobs[n]? = some job)
    (hlease : job.lease? = some j) {p : SharedPool (List UInt8)}
    {x : SharedPool.Borrower (List UInt8)} (set : p.borrowers = s.lender.borrowers.set j x)
    (m i : Nat) (other : Job) (hne : n ≠ m) (hother : s.jobs[m]? = some other)
    (hi : other.lease? = some i) : p.borrowers[i]? = s.lender.borrowers[i]? := by
  have hij : j ≠ i := fun heq =>
    hne (hs.apart.alone n m j job other hjob hother hlease (heq ▸ hi))
  rw [set, List.getElem?_set_ne hij]

theorem close_alone {n j : Nat} {q : Request} {b : Tagged (List UInt8)}
    {result? : Option (Except Error Json.Value)} (hs : Leased s)
    (hcounted : s.lender.built = s.lender.pool.created)
    (hjob : s.jobs[n]? = some ⟨q, .ending (some j) result?⟩)
    (hb : s.lender.borrowers[j]? = some (.returning b)) :
    ∃ ms s' new, run? (move? (Lender.pooled byteBuffers)) s ms = some (s', new) ∧
      Agrees s' new (s.executor.giveBack b.content).1
        ((s.executor.giveBack b.content).2 ++ notes (closing n result?)) ∧
      ∀ result, result? = some result → .returned n result ∈ new := by
  obtain ⟨i, p, es, hrun, hborrowers, hbuilt, hturns, hback⟩ :=
    run?_alone (s := s) (SharedPool.givesBack_returning (k := byteBuffers) hb)
  have hgone : p.borrowers[j]? = some .gone := by
    rw [hborrowers]
    exact getElem?_set_of_getElem? _ hb
  have hmove : move? (Lender.pooled byteBuffers) { s with lender := p } (.close n) =
      some (Calls.set { s with lender := p } n q .ended, closing n result?) := by
    simp [move?, hjob, isBack_pooled hgone]
  have hpool : p.plain = (s.lender.plain.release byteBuffers b.content).1 := congrArg Prod.fst hback
  have hentries : SharedPool.entries es = (s.lender.plain.release byteBuffers b.content).2 :=
    congrArg Prod.snd hback
  have hflights := flights_set_idle (p := p) ⟨q, .ended⟩ hjob rfl rfl
    (hs.others hjob rfl hborrowers)
  refine ⟨steps j i ++ [.close n], Calls.set { s with lender := p } n q .ended, _,
    run?_append hrun (run?_one hmove), ⟨Executor.ext hpool hflights, ?_, ?_⟩, ?_⟩
  · rw [notes, List.filterMap_append, ← notes, notes_lender, hentries]
    rfl
  · have hcreated : p.pool.created = s.lender.pool.created := by
      have hplain := congrArg Pool.created hpool
      rw [Pool.created_release] at hplain
      exact hplain
    exact hbuilt.trans (hcounted.trans hcreated.symm)
  · intro result hresult
    rw [hresult]
    simp [closing]

theorem notes_cons_of_none {e : Signal (SharedPool.Signal (List UInt8))} (quiet : e.note? = none) :
    notes (e :: new) = notes new := by
  rw [notes, filterMap_cons_toList, quiet]
  rfl

section
variable {n : Nat} {q : Request} {m : Move (SharedPool.Move (List UInt8))}
  {e : Signal (SharedPool.Signal (List UInt8))} {result? : Option (Except Error Json.Value)}

/-- A request without a buffer lands at once. -/
theorem land_bare (hcounted : s.lender.built = s.lender.pool.created)
    (hjob : s.jobs[n]? = some ⟨q, .pending none⟩)
    (hmove : s.move? (Lender.pooled byteBuffers) m =
      some (s.set n q (.ending none result?), [e])) (quiet : e.note? = none) :
    ∃ ms s' new, run? (move? (Lender.pooled byteBuffers)) s (m :: ms) = some (s', new) ∧
      Agrees s' new (s.executor.land ⟨n, none, q.reader⟩).1
        ((s.executor.land ⟨n, none, q.reader⟩).2 ++ notes (closing n result?)) ∧
      ∀ result, result? = some result → .returned n result ∈ new := by
  have hset := getElem?_set_of_getElem? ⟨q, .ending none result?⟩ hjob
  have hclose : move? (Lender.pooled byteBuffers) (s.set n q (.ending none result?)) (.close n) =
      some ((s.set n q (.ending none result?)).set n q .ended, closing n result?) := by
    simp only [move?, Calls.set, hset]
    rfl
  have hflights := flights_set_landed (s := s) (p := s.lender) (n := n) ⟨q, .ended⟩ rfl
    fun _ _ _ _ _ _ => rfl
  refine ⟨[.close n], _, _, run?_step hmove (run?_one hclose), ⟨?_, ?_, hcounted⟩, ?_⟩
  · refine Executor.ext rfl ?_
    simp only [Calls.set, List.set_set]
    exact hflights
  · rw [List.cons_append, notes_cons_of_none quiet]
    rfl
  · intro result hresult
    rw [hresult]
    simp [closing]

/-- A request with a buffer lands when that is back. -/
theorem land_leased {j : Nat} {b : Tagged (List UInt8)} (hs : Leased s)
    (hcounted : s.lender.built = s.lender.pool.created)
    (hjob : s.jobs[n]? = some ⟨q, .pending (some j)⟩)
    (hguard : s.lender.borrowers[j]? = some (.guard (some b)))
    (hmove : s.move? (Lender.pooled byteBuffers) m =
      some ((s.drop (Lender.pooled byteBuffers) (some j)).1.set n q (.ending (some j) result?),
        e :: (s.drop (Lender.pooled byteBuffers) (some j)).2)) (quiet : e.note? = none) :
    ∃ ms s' new, run? (move? (Lender.pooled byteBuffers)) s (m :: ms) = some (s', new) ∧
      Agrees s' new (s.executor.land ⟨n, some b.content, q.reader⟩).1
        ((s.executor.land ⟨n, some b.content, q.reader⟩).2 ++ notes (closing n result?)) ∧
      ∀ result, result? = some result → .returned n result ∈ new := by
  have hdropped : s.drop (Lender.pooled byteBuffers) (some j) =
      ({ s with lender := s.lender.setBorrower j (.returning b) }, [.lender (.dropped j)]) := by
    rw [drop, drop_pooled hguard]
    rfl
  rw [hdropped] at hmove
  have hending := getElem?_set_of_getElem? ⟨q, .ending (some j) result?⟩ hjob
  have hreturning := getElem?_set_of_getElem? (.returning b) hguard
  have hleased := (step_of_move? hmove).leased hs (fun _ => rfl) (fun _ => rfl)
  obtain ⟨ms, s', new, hrun, hagrees, hresult⟩ := close_alone hleased hcounted hending hreturning
  have hflights := flights_set_landed (s := s) (p := s.lender.setBorrower j (.returning b))
    (n := n) ⟨q, .ending (some j) result?⟩ rfl (hs.others hjob rfl rfl)
  have hland : s.executor.land ⟨n, some b.content, q.reader⟩ = Executor.giveBack
      (executor (Calls.set { s with lender := s.lender.setBorrower j (.returning b) } n q
        (.ending (some j) result?))) b.content := by
    rw [Executor.land]
    simp only
    rw [← hflights]
    rfl
  refine ⟨ms, s', _, run?_step hmove hrun, ⟨?_, ?_, hagrees.counted⟩, ?_⟩
  · rw [hland]
    exact hagrees.executor_eq
  · rw [hland, List.cons_append, notes_cons_of_none quiet, List.cons_append,
      notes_cons_of_none rfl]
    exact hagrees.notes_eq
  · intro result heq
    exact List.mem_append_right _ (hresult result heq)

/-- A request that ends lands as it does in the executor. -/
theorem land_alone {lease? : Option Nat} (hs : Leased s)
    (hcounted : s.lender.built = s.lender.pool.created)
    (hjob : s.jobs[n]? = some ⟨q, .pending lease?⟩)
    (hmove : s.move? (Lender.pooled byteBuffers) m =
      some ((s.drop (Lender.pooled byteBuffers) lease?).1.set n q (.ending lease? result?),
        e :: (s.drop (Lender.pooled byteBuffers) lease?).2)) (quiet : e.note? = none)
    {f : Flight} (hf : Job.flight? s.lender n ⟨q, .pending lease?⟩ = some f) :
    ∃ ms s' new, run? (move? (Lender.pooled byteBuffers)) s (m :: ms) = some (s', new) ∧
      Agrees s' new (s.executor.land f).1 ((s.executor.land f).2 ++ notes (closing n result?)) ∧
      ∀ result, result? = some result → .returned n result ∈ new := by
  cases hf
  cases lease? with
  | none => exact land_bare hcounted hjob hmove quiet
  | some j =>
    obtain ⟨x, hx, b, payload, rfl, _⟩ := hs.fits n j _ hjob rfl
    rw [Option.bind_some, content?_pooled hx]
    exact land_leased hs hcounted hjob hx hmove quiet

end

section
variable {n : Nat} {q : Request} {lease? : Option Nat} {f : Flight}

theorem finish_alone (hs : Leased s) (hcounted : s.lender.built = s.lender.pool.created)
    (hjob : s.jobs[n]? = some ⟨q, .pending lease?⟩)
    (hf : Job.flight? s.lender n ⟨q, .pending lease?⟩ = some f)
    (a : Except TransportFault Response) :
    ∃ ms s' new, run? (move? (Lender.pooled byteBuffers)) s (.answer n a :: ms) = some (s', new) ∧
      Agrees s' new (s.executor.finish f a).1 (s.executor.finish f a).2.1 ∧
      .returned n (s.executor.finish f a).2.2 ∈ new := by
  have hmove : s.move? (Lender.pooled byteBuffers) (.answer n a) =
      some ((s.drop (Lender.pooled byteBuffers) lease?).1.set n q
          (.ending lease? (some (Executor.readAnswer q.reader a))),
        .answered n a :: (s.drop (Lender.pooled byteBuffers) lease?).2) := by
    simp only [move?, hjob]
  have hreader : f.reader = q.reader := by
    cases hf
    rfl
  obtain ⟨ms, s', new, hrun, hagrees, hresult⟩ := land_alone hs hcounted hjob hmove rfl hf
  refine ⟨ms, s', new, hrun, ⟨hagrees.executor_eq, ?_, hagrees.counted⟩, ?_⟩
  · rw [hagrees.notes_eq, Executor.finish, hreader]
    rfl
  · rw [Executor.finish, hreader]
    exact hresult _ rfl

/-- A request that is given up lands without a result. -/
theorem cancel_alone (hs : Leased s) (hcounted : s.lender.built = s.lender.pool.created)
    (hjob : s.jobs[n]? = some ⟨q, .pending lease?⟩)
    (hf : Job.flight? s.lender n ⟨q, .pending lease?⟩ = some f) :
    ∃ ms s' new, run? (move? (Lender.pooled byteBuffers)) s (.cancel n :: ms) = some (s', new) ∧
      Agrees s' new (s.executor.land f).1 (s.executor.land f).2 := by
  have hmove : s.move? (Lender.pooled byteBuffers) (.cancel n) =
      some ((s.drop (Lender.pooled byteBuffers) lease?).1.set n q (.ending lease? none),
        .cancelled n :: (s.drop (Lender.pooled byteBuffers) lease?).2) := by
    simp only [move?, hjob]
  obtain ⟨ms, s', new, hrun, hagrees, _⟩ := land_alone hs hcounted hjob hmove rfl hf
  refine ⟨ms, s', new, hrun, hagrees.executor_eq, ?_, hagrees.counted⟩
  rw [hagrees.notes_eq]
  exact List.append_nil _

end

/-- The calls when a new post has its buffer, and nothing else was done since it came. -/
structure Begun (s mid : Calls (SharedPool (List UInt8))) (q : Request) (b : Tagged (List UInt8)) :
    Prop where
  jobs : mid.jobs = s.jobs ++ [⟨q, .leasing s.lender.borrowers.length⟩]
  borrowers : mid.lender.borrowers = s.lender.borrowers ++ [.guard (some b)]
  counted : mid.lender.built = mid.lender.pool.created
  acquired : (b.content, mid.lender.plain) = s.lender.plain.acquire byteBuffers

theorem lease_alone {q : Request} {payload : Payload}
    (hcounted : s.lender.built = s.lender.pool.created) (hpayload : q.payload = some payload) :
    ∃ ms mid b new, run? (move? (Lender.pooled byteBuffers)) s (.call q :: ms) = some (mid, new) ∧
      Begun s mid q b ∧ notes new = notes (opening s.jobs.length .postJson) := by
  have hmove : s.move? (Lender.pooled byteBuffers) (.call q) =
      some (⟨{ s.lender with borrowers := s.lender.borrowers ++ [.asking .lease] },
          s.jobs ++ [⟨q, .leasing s.lender.borrowers.length⟩]⟩,
        .called s.jobs.length q :: opening s.jobs.length .postJson ++
          [.lender (.asked s.lender.borrowers.length .lease)]) := by
    simp only [move?, call, hpayload]
    rfl
  obtain ⟨i, p, es, hrun, hentries, b, hborrowers, hgot⟩ := run?_alone
    (s := ⟨{ s.lender with borrowers := s.lender.borrowers ++ [.asking .lease] },
      s.jobs ++ [⟨q, .leasing s.lender.borrowers.length⟩]⟩)
    (SharedPool.gets_asking (k := byteBuffers) (List.getElem?_concat_length ..))
  obtain ⟨hbuilt, hacquired⟩ := hgot hcounted
  refine ⟨_, _, b, _, run?_step hmove hrun, ⟨rfl, ?_, hbuilt, hacquired⟩, ?_⟩
  · rw [hborrowers, List.set_append_right _ _ (Nat.le_refl _), Nat.sub_self]
    rfl
  · rw [notes, List.filterMap_append, ← notes, ← notes, notes_lender, hentries]
    rfl

namespace Begun

variable {mid : Calls (SharedPool (List UInt8))} {q : Request} {b : Tagged (List UInt8)}

theorem guard (h : Begun s mid q b) :
    mid.lender.borrowers[s.lender.borrowers.length]? = some (.guard (some b)) := by
  rw [h.borrowers, List.getElem?_concat_length]

theorem job (h : Begun s mid q b) :
    mid.jobs[s.jobs.length]? = some ⟨q, .leasing s.lender.borrowers.length⟩ := by
  rw [h.jobs, List.getElem?_concat_length]

theorem content_eq (h : Begun s mid q b) : b.content = (s.executor.pool.acquire byteBuffers).1 :=
  congrArg Prod.fst h.acquired

theorem plain_eq (h : Begun s mid q b) :
    mid.lender.plain = (s.executor.pool.acquire byteBuffers).2 :=
  congrArg Prod.snd h.acquired

/-- The requests under way when the new call goes on and nobody else does. -/
theorem flights (h : Begun s mid q b) (hs : Leased s) {p : SharedPool (List UInt8)}
    {x : SharedPool.Borrower (List UInt8)} (job : Job)
    (hp : p.borrowers = mid.lender.borrowers.set s.lender.borrowers.length x) :
    (executor ⟨p, mid.jobs.set s.jobs.length job⟩).flights =
      s.executor.flights ++ (job.flight? p s.jobs.length).toList := by
  have hset : mid.jobs.set s.jobs.length job = s.jobs ++ [job] := by
    rw [h.jobs, List.set_append_right _ _ (Nat.le_refl _), Nat.sub_self]
    rfl
  rw [hset]
  apply flights_append job
  intro m i other hother hi
  have hlt := hs.apart.bound m i other hother hi
  rw [hp, List.getElem?_set_ne (Nat.ne_of_gt hlt), h.borrowers, List.getElem?_append_left hlt]

end Begun

section
variable {n j : Nat} {q : Request} {payload : Payload} {b : Tagged (List UInt8)}

theorem move?_encode_of_formed (hjob : s.jobs[n]? = some ⟨q, .leasing j⟩)
    (hpayload : q.payload = some payload) (hguard : s.lender.borrowers[j]? = some (.guard (some b)))
    (formed : payload.encode.2 = none) :
    s.move? (Lender.pooled k) (.encode n) =
      some (⟨s.lender.setBorrower j
            (.guard (some { b with content := b.content ++ payload.encode.1 })),
          s.jobs.set n ⟨q, .pending (some j)⟩⟩,
        [.lender (.wrote j { b with content := b.content ++ payload.encode.1 }),
          .sent n q.url (some (b.content ++ payload.encode.1))]) := by
  simp only [move?, hjob, hpayload, content?_pooled hguard, encode, formed, fill_pooled _ hguard]
  rfl

theorem move?_encode_of_formless {f : Json.Fault} (hjob : s.jobs[n]? = some ⟨q, .leasing j⟩)
    (hpayload : q.payload = some payload) (hguard : s.lender.borrowers[j]? = some (.guard (some b)))
    (formless : payload.encode.2 = some f) :
    s.move? (Lender.pooled k) (.encode n) =
      some (⟨(s.lender.setBorrower j
            (.guard (some { b with content := b.content ++ payload.encode.1 }))).setBorrower j
            (.returning { b with content := b.content ++ payload.encode.1 }),
          s.jobs.set n ⟨q, .ending (some j) (some (.error (.encoding f)))⟩⟩,
        [.lender (.wrote j { b with content := b.content ++ payload.encode.1 }),
          .lender (.dropped j)]) := by
  have hfilled := getElem?_set_of_getElem?
    (.guard (some { b with content := b.content ++ payload.encode.1 })) hguard
  have hdrop := drop_pooled (k := k) (p := s.lender.setBorrower j
    (.guard (some { b with content := b.content ++ payload.encode.1 }))) hfilled
  simp only [move?, hjob, hpayload, content?_pooled hguard, encode, formless, fill_pooled _ hguard,
    drop, hdrop]
  rfl

end

theorem beginPost_of_formed {e : Executor} {n : Nat} {reader : Json.Reader Json.Value}
    {payload : Payload} (formed : payload.encode.2 = none) :
    e.beginPost n reader payload =
      ({ pool := (e.pool.acquire byteBuffers).2
         flights := e.flights ++
           [⟨n, some ((e.pool.acquire byteBuffers).1 ++ payload.encode.1), reader⟩] },
        notes (opening n .postJson),
        .ok ((e.pool.acquire byteBuffers).1 ++ payload.encode.1)) := by
  simp only [Executor.beginPost, formed]
  rfl

theorem beginPost_of_formless {e : Executor} {n : Nat} {reader : Json.Reader Json.Value}
    {payload : Payload} {f : Json.Fault} (formless : payload.encode.2 = some f) :
    e.beginPost n reader payload =
      ((Executor.giveBack { e with pool := (e.pool.acquire byteBuffers).2 }
          ((e.pool.acquire byteBuffers).1 ++ payload.encode.1)).1,
        notes (opening n .postJson) ++
          ((Executor.giveBack { e with pool := (e.pool.acquire byteBuffers).2 }
            ((e.pool.acquire byteBuffers).1 ++ payload.encode.1)).2 ++
          notes (closing n (some (.error (.encoding f))))),
        .error (.encoding f)) := by
  simp only [Executor.beginPost, formless, ← List.append_assoc]
  rfl

section
variable {q : Request} {payload : Payload}

theorem post_of_formed (hs : Leased s) (hcounted : s.lender.built = s.lender.pool.created)
    (hpayload : q.payload = some payload) (formed : payload.encode.2 = none) :
    ∃ ms s' new, run? (move? (Lender.pooled byteBuffers)) s (.call q :: ms) = some (s', new) ∧
      Agrees s' new (s.executor.beginPost s.jobs.length q.reader payload).1
        (s.executor.beginPost s.jobs.length q.reader payload).2.1 ∧
      .sent s.jobs.length q.url
        (some ((s.executor.pool.acquire byteBuffers).1 ++ payload.encode.1)) ∈ new := by
  obtain ⟨ms, mid, b, front, hlease, hbegun, hopening⟩ := lease_alone hcounted hpayload
  have hmove := move?_encode_of_formed (k := byteBuffers) hbegun.job hpayload hbegun.guard formed
  have hflights := hbegun.flights hs ⟨q, .pending (some s.lender.borrowers.length)⟩
    (p := mid.lender.setBorrower s.lender.borrowers.length
      (.guard (some { b with content := b.content ++ payload.encode.1 }))) rfl
  have hcontent := content?_pooled (k := byteBuffers) (SharedPool.getElem?_setBorrower
    (.guard (some { b with content := b.content ++ payload.encode.1 })) hbegun.guard)
  have hrun := run?_append hlease (run?_one hmove)
  rw [List.cons_append] at hrun
  rw [beginPost_of_formed formed, ← hbegun.content_eq, ← hbegun.plain_eq]
  refine ⟨_, _, _, hrun, ⟨?_, ?_, hbegun.counted⟩, by simp⟩
  · refine Executor.ext rfl (hflights.trans ?_)
    rw [Job.flight?]
    simp only [Option.bind_some, hcontent]
    rfl
  · rw [notes, List.filterMap_append, ← notes, hopening]
    rfl

theorem post_of_formless {f : Json.Fault} (hs : Leased s)
    (hcounted : s.lender.built = s.lender.pool.created) (hpayload : q.payload = some payload)
    (formless : payload.encode.2 = some f) :
    ∃ ms s' new, run? (move? (Lender.pooled byteBuffers)) s (.call q :: ms) = some (s', new) ∧
      Agrees s' new (s.executor.beginPost s.jobs.length q.reader payload).1
        (s.executor.beginPost s.jobs.length q.reader payload).2.1 ∧
      .returned s.jobs.length (.error (.encoding f)) ∈ new := by
  obtain ⟨ms, mid, b, front, hlease, hbegun, hopening⟩ := lease_alone hcounted hpayload
  have hmove :=
    move?_encode_of_formless (k := byteBuffers) hbegun.job hpayload hbegun.guard formless
  have hmid := hs.reached (fun _ => rfl) (fun _ => rfl) (reached_of_run? hlease)
  have hleased := (step_of_move? hmove).leased hmid (fun _ => rfl) (fun _ => rfl)
  have hending := getElem?_set_of_getElem?
    ⟨q, .ending (some s.lender.borrowers.length) (some (.error (.encoding f)))⟩ hbegun.job
  have hfilled := getElem?_set_of_getElem?
    (.guard (some { b with content := b.content ++ payload.encode.1 })) hbegun.guard
  have hreturning := getElem?_set_of_getElem?
    (SharedPool.Borrower.returning { b with content := b.content ++ payload.encode.1 }) hfilled
  obtain ⟨rest, s', new, hclose, hagrees, hresult⟩ :=
    close_alone hleased hbegun.counted hending hreturning
  have hflights := hbegun.flights hs
    ⟨q, .ending (some s.lender.borrowers.length) (some (.error (.encoding f)))⟩
    (p := (mid.lender.setBorrower s.lender.borrowers.length
      (.guard (some { b with content := b.content ++ payload.encode.1 }))).setBorrower
        s.lender.borrowers.length
        (.returning { b with content := b.content ++ payload.encode.1 })) (List.set_set _)
  have hidle := Executor.ext (y := { s.executor with pool := mid.lender.plain }) (by exact rfl)
    (hflights.trans (List.append_nil _))
  rw [hidle] at hagrees
  have hrun := run?_append hlease (run?_step hmove hclose)
  rw [List.cons_append] at hrun
  rw [beginPost_of_formless formless, ← hbegun.content_eq, ← hbegun.plain_eq]
  refine ⟨_, _, _, hrun, ⟨hagrees.executor_eq, ?_, hagrees.counted⟩, by simp [hresult _ rfl]⟩
  rw [notes, List.filterMap_append, ← notes, hopening]
  congr 1
  exact hagrees.notes_eq

theorem post_alone (hs : Leased s) (hcounted : s.lender.built = s.lender.pool.created)
    (hpayload : q.payload = some payload) :
    ∃ ms s' new, run? (move? (Lender.pooled byteBuffers)) s (.call q :: ms) = some (s', new) ∧
      Agrees s' new (s.executor.beginPost s.jobs.length q.reader payload).1
        (s.executor.beginPost s.jobs.length q.reader payload).2.1 ∧
      (∀ body, (s.executor.beginPost s.jobs.length q.reader payload).2.2 = .ok body →
        .sent s.jobs.length q.url (some body) ∈ new) ∧
      ∀ e, (s.executor.beginPost s.jobs.length q.reader payload).2.2 = .error e →
        .returned s.jobs.length (.error e) ∈ new := by
  cases hfault : payload.encode.2 with
  | none =>
    obtain ⟨ms, s', new, hrun, hagrees, hsent⟩ := post_of_formed hs hcounted hpayload hfault
    refine ⟨ms, s', new, hrun, hagrees, ?_, ?_⟩
    · intro body hbody
      rw [beginPost_of_formed hfault] at hbody
      cases hbody
      exact hsent
    · intro e he
      rw [beginPost_of_formed hfault] at he
      cases he
  | some f =>
    obtain ⟨ms, s', new, hrun, hagrees, hreturned⟩ := post_of_formless hs hcounted hpayload hfault
    refine ⟨ms, s', new, hrun, hagrees, ?_, ?_⟩
    · intro body hbody
      rw [beginPost_of_formless hfault] at hbody
      cases hbody
    · intro e he
      rw [beginPost_of_formless hfault] at he
      cases he
      exact hreturned

end

end FreshToken.Calls
