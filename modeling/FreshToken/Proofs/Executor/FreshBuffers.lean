import FreshToken.Proofs.Executor.Leases
/-!
# Pooled buffers and fresh ones

Calls that share a pool do what they would do if each allocated an empty buffer of its own: the
same moves are possible, and the same is sent and returned.  Every run over a pool is followed by
such a run, step by step.
-/

namespace FreshToken.Calls

open Machine

/-! ## Buffers of one's own -/

section
variable {t t' : Calls (List (List UInt8))} {m : Move Empty} {new : List (Signal Empty)}

theorem numbered_fresh : Numbered Lender.fresh List.length where
  lease _ := ⟨rfl, List.length_append⟩
  fill _ _ _ := Nat.le_of_eq List.length_set.symm
  drop _ _ := Nat.le_refl _
  others {_ _ m _ _} _ := m.elim

/-- Nobody has written to the buffers of calls that wait to do so. -/
structure Untouched (t : Calls (List (List UInt8))) : Prop where
  apart : Apart List.length t
  empty : ∀ (n j : Nat) (q : Request), t.jobs[n]? = some ⟨q, .leasing j⟩ → t.lender[j]? = some []

theorem untouched_start : Untouched (start []) where
  apart := apart_start _
  empty n j q h := by cases h

@[simp] theorem lender_drop_fresh (t : Calls (List (List UInt8))) (lease? : Option Nat) :
    (t.drop Lender.fresh lease?).1 = t := by
  cases lease? <;> rfl

theorem Step.untouched (h : Step Lender.fresh t m t' new) (ht : Untouched t) : Untouched t' := by
  have hapart := h.apart numbered_fresh ht.apart
  refine ⟨hapart, fun i j' q' hi => ?_⟩
  cases h with
  | get =>
    rcases eq_or_of_append hi with ⟨_, heq⟩ | ⟨_, hold⟩
    · cases heq
    · exact ht.empty i j' q' hold
  | post hpayload =>
    rcases eq_or_of_append hi with ⟨_, heq⟩ | ⟨_, hold⟩
    · cases heq
      exact List.getElem?_concat_length
    · exact (List.getElem?_append_left (ht.apart.bound i j' _ hold rfl)).trans
        (ht.empty i j' q' hold)
  | send hjob | spoil hjob =>
    rcases eq_or_of_set hi with ⟨_, heq⟩ | ⟨hne, hold⟩
    · cases heq
    · -- the other call has another buffer
      refine (List.getElem?_set_ne fun hsame => hne ?_).trans (ht.empty i j' q' hold)
      exact ht.apart.alone _ _ _ _ _ hjob hold rfl (congrArg some hsame.symm)
  | answer a hjob | cancel hjob =>
    rw [Calls.set, lender_drop_fresh] at hi
    rw [Calls.set, lender_drop_fresh]
    rcases eq_or_of_set hi with ⟨_, heq⟩ | ⟨_, hold⟩
    · cases heq
    · exact ht.empty i j' q' hold
  | close hjob =>
    rcases eq_or_of_set hi with ⟨_, heq⟩ | ⟨_, hold⟩
    · cases heq
    · exact ht.empty i j' q' hold
  | @others m => exact m.elim

/-! ### Its moves -/

section
variable {n i : Nat} {q : Request} {p : Payload} {lease? : Option Nat}

theorem fresh_get (payload : q.payload = none) :
    t.move? Lender.fresh (.call q) =
      some ({ t with jobs := t.jobs ++ [⟨q, .pending none⟩] },
        .called t.jobs.length q :: opening t.jobs.length .getJson ++
          [.sent t.jobs.length q.url none]) := by
  simp only [move?, call, payload]

theorem fresh_post (payload : q.payload = some p) :
    t.move? Lender.fresh (.call q) =
      some (⟨t.lender ++ [[]], t.jobs ++ [⟨q, .leasing t.lender.length⟩]⟩,
        .called t.jobs.length q :: opening t.jobs.length .postJson) := by
  simp only [move?, call, payload, Lender.fresh]
  rfl

theorem Untouched.send (ht : Untouched t) (hjob : t.jobs[n]? = some ⟨q, .leasing i⟩)
    (payload : q.payload = some p) (formed : p.encode.2 = none) :
    t.move? Lender.fresh (.encode n) =
      some (⟨t.lender.set i p.encode.1, t.jobs.set n ⟨q, .pending (some i)⟩⟩,
        [.sent n q.url (some p.encode.1)]) := by
  simp only [move?, hjob, payload, Lender.fresh, ht.empty n i q hjob, encode, formed]
  rfl

theorem Untouched.spoil {f : Json.Fault} (ht : Untouched t)
    (hjob : t.jobs[n]? = some ⟨q, .leasing i⟩) (payload : q.payload = some p)
    (formless : p.encode.2 = some f) :
    t.move? Lender.fresh (.encode n) =
      some (⟨t.lender.set i p.encode.1,
        t.jobs.set n ⟨q, .ending (some i) (some (.error (.encoding f)))⟩⟩, []) := by
  simp only [move?, hjob, payload, Lender.fresh, ht.empty n i q hjob, encode, formless]
  rfl

theorem fresh_answer (hjob : t.jobs[n]? = some ⟨q, .pending lease?⟩)
    (a : Except TransportFault Response) :
    t.move? Lender.fresh (.answer n a) =
      some (t.set n q (.ending lease? (some (Executor.readAnswer q.reader a))),
        [.answered n a]) := by
  simp only [move?, hjob, lender_drop_fresh]
  cases lease? <;> rfl

theorem fresh_cancel (hjob : t.jobs[n]? = some ⟨q, .pending lease?⟩) :
    t.move? Lender.fresh (.cancel n) =
      some (t.set n q (.ending lease? none), [.cancelled n]) := by
  simp only [move?, hjob, lender_drop_fresh]
  cases lease? <;> rfl

theorem fresh_close {result? : Option (Except Error Json.Value)}
    (hjob : t.jobs[n]? = some ⟨q, .ending lease? result?⟩) :
    t.move? Lender.fresh (.close n) = some (t.set n q .ended, closing n result?) := by
  have hback : lease?.all (Lender.fresh.isBack t.lender) = true := by cases lease? <;> rfl
  simp only [move?, hjob, hback]
  rfl

end

end

/-! ## One run follows the other -/

def Progress.bare : Progress → Progress
  | .leasing _ => .leasing 0
  | .pending _ => .pending none
  | .ending _ result? => .ending none result?
  | .ended => .ended

def Job.bare (job : Job) : Job := ⟨job.request, job.progress.bare⟩

def Move.own? {μ : Type} : Move μ → Option (Move Empty)
  | .call q => some (.call q)
  | .encode n => some (.encode n)
  | .answer n a => some (.answer n a)
  | .cancel n => some (.cancel n)
  | .close n => some (.close n)
  | .lender _ => none

variable {σ μ ε : Type} {L : Lender σ μ ε} {s s' : Calls σ} {m : Move μ} {new : List (Signal ε)}
  {t : Calls (List (List UInt8))}

structure Mirrored (s : Calls σ) (t : Calls (List (List UInt8))) : Prop where
  jobs : t.jobs.map Job.bare = s.jobs.map Job.bare
  untouched : Untouched t

theorem Mirrored.length_eq (h : Mirrored s t) : t.jobs.length = s.jobs.length := by
  rw [← List.length_map Job.bare, h.jobs, List.length_map]

theorem job_of_bare {jobs jobs' : List Job} {n : Nat} {q : Request} {p : Progress}
    (h : jobs'.map Job.bare = jobs.map Job.bare) (job : jobs[n]? = some ⟨q, p⟩) :
    ∃ p', jobs'[n]? = some ⟨q, p'⟩ ∧ p'.bare = p.bare := by
  have hmap : (jobs'.map Job.bare)[n]? = some (Job.bare ⟨q, p⟩) := by
    rw [h, List.getElem?_map, job]
    rfl
  rw [List.getElem?_map, Option.map_eq_some_iff] at hmap
  obtain ⟨⟨q', p'⟩, hjob, hbare⟩ := hmap
  obtain ⟨rfl, hp⟩ := Job.mk.inj hbare
  exact ⟨p', hjob, hp⟩

theorem leasing_of_bare {jobs jobs' : List Job} {n j : Nat} {q : Request}
    (h : jobs'.map Job.bare = jobs.map Job.bare) (job : jobs[n]? = some ⟨q, .leasing j⟩) :
    ∃ i, jobs'[n]? = some ⟨q, .leasing i⟩ := by
  obtain ⟨p, hjob, hbare⟩ := job_of_bare h job
  cases p with
  | leasing i => exact ⟨i, hjob⟩
  | _ => cases hbare

theorem pending_of_bare {jobs jobs' : List Job} {n : Nat} {q : Request} {lease? : Option Nat}
    (h : jobs'.map Job.bare = jobs.map Job.bare) (job : jobs[n]? = some ⟨q, .pending lease?⟩) :
    ∃ lease?, jobs'[n]? = some ⟨q, .pending lease?⟩ := by
  obtain ⟨p, hjob, hbare⟩ := job_of_bare h job
  cases p with
  | pending lease? => exact ⟨lease?, hjob⟩
  | _ => cases hbare

theorem ending_of_bare {jobs jobs' : List Job} {n : Nat} {q : Request} {lease? : Option Nat}
    {result? : Option (Except Error Json.Value)} (h : jobs'.map Job.bare = jobs.map Job.bare)
    (job : jobs[n]? = some ⟨q, .ending lease? result?⟩) :
    ∃ lease?, jobs'[n]? = some ⟨q, .ending lease? result?⟩ := by
  obtain ⟨p, hjob, hbare⟩ := job_of_bare h job
  cases p with
  | ending lease? result? =>
    cases hbare
    exact ⟨lease?, hjob⟩
  | _ => cases hbare

/-- Own buffers can make a move that calls over another lender make. -/
def Follows (s' : Calls σ) (t : Calls (List (List UInt8))) (ms : List (Move Empty))
    (es : List (Signal Empty)) : Prop :=
  ∃ t', run? (move? Lender.fresh) t ms = some (t', es) ∧ Mirrored s' t'

theorem follows_of_move? {t' : Calls (List (List UInt8))} {m : Move Empty}
    {es : List (Signal Empty)} (h : t.move? Lender.fresh m = some (t', es)) (ht : Untouched t)
    (jobs : t'.jobs.map Job.bare = s'.jobs.map Job.bare) : Follows s' t [m] es :=
  ⟨t', run?_one h, jobs, (step_of_move? h).untouched ht⟩

theorem map_bare_append {job job' : Job} (hm : Mirrored s t) (same : job'.bare = job.bare) :
    (t.jobs ++ [job']).map Job.bare = (s.jobs ++ [job]).map Job.bare := by
  rw [List.map_append, List.map_append, hm.jobs, List.map_singleton, List.map_singleton, same]

theorem map_bare_set {n : Nat} {job job' : Job} (hm : Mirrored s t) (same : job'.bare = job.bare) :
    (t.jobs.set n job').map Job.bare = (s.jobs.set n job).map Job.bare := by
  rw [List.map_set, List.map_set, hm.jobs, same]

theorem Step.follows (h : Step L s m s' new) (clean : Clean L s) (hm : Mirrored s t) :
    Follows s' t m.own?.toList (own new) := by
  cases h with
  | @get q hpayload =>
    rw [← hm.length_eq]
    exact follows_of_move? (fresh_get hpayload) hm.untouched (map_bare_append hm rfl)
  | @post q p hpayload =>
    have hown : own (.called s.jobs.length q :: opening s.jobs.length .postJson ++
        (L.lease s.lender).2.2.map Signal.lender) =
        .called s.jobs.length q :: opening s.jobs.length .postJson := by
      simp [opening]
    rw [hown, ← hm.length_eq]
    exact follows_of_move? (fresh_post hpayload) hm.untouched (map_bare_append hm rfl)
  | @send n j q p buffer hjob hpayload hready hformed =>
    obtain rfl := clean n j q buffer hjob hready
    obtain ⟨i, hi⟩ := leasing_of_bare hm.jobs hjob
    have hmove := hm.untouched.send hi hpayload hformed
    rw [show own _ = [.sent n q.url (some p.encode.1)] by simp]
    exact follows_of_move? hmove hm.untouched (map_bare_set hm rfl)
  | @spoil n j q p buffer f hjob hpayload hready hformless =>
    obtain rfl := clean n j q buffer hjob hready
    obtain ⟨i, hi⟩ := leasing_of_bare hm.jobs hjob
    have hmove := hm.untouched.spoil hi hpayload hformless
    rw [show own _ = [] by simp]
    exact follows_of_move? hmove hm.untouched (map_bare_set hm rfl)
  | @answer n q lease? a hjob =>
    obtain ⟨lease', hi⟩ := pending_of_bare hm.jobs hjob
    rw [show own _ = [.answered n a] by simp]
    refine follows_of_move? (fresh_answer hi a) hm.untouched ?_
    simp only [Calls.set, jobs_drop]
    exact map_bare_set hm rfl
  | @cancel n q lease? hjob =>
    obtain ⟨lease', hi⟩ := pending_of_bare hm.jobs hjob
    rw [show own _ = [.cancelled n] by simp]
    refine follows_of_move? (fresh_cancel hi) hm.untouched ?_
    simp only [Calls.set, jobs_drop]
    exact map_bare_set hm rfl
  | @close n q lease? result? hjob =>
    obtain ⟨lease', hi⟩ := ending_of_bare hm.jobs hjob
    rw [own_closing]
    exact follows_of_move? (fresh_close hi) hm.untouched (map_bare_set hm rfl)
  | others hmove =>
    rw [own_lender]
    exact ⟨t, rfl, hm.jobs, hm.untouched⟩

end FreshToken.Calls
