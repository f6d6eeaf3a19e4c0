import FreshToken.Proofs.Executor.Agreement
import FreshToken.Proofs.Executor.Pairing
import FreshToken.Proofs.Executor.Pooling
/-!
# The balance of an executor

However calls are mixed and however they end, the buffers that are out are those of posts under way,
and the counters tell for each call that it was begun and, once, how it ended.
-/

namespace FreshToken.Calls

open Machine

/-! ## Reports on one call -/

section
variable {σ μ ε : Type} {L : Lender σ μ ε} {s s' : Calls σ} {m : Move μ} {es new : List (Signal ε)}

inductive Mark where
  | counted (o : Outcome)
  | returned (result : Except Error Json.Value)
  | cancelled

@[simp] def Signal.mark? : Signal Empty → Option Mark
  | .noted _ (.counted .request o) => some (.counted o)
  | .returned _ result => some (.returned result)
  | .cancelled _ => some .cancelled
  | _ => none

def marks (n : Nat) (es : List (Signal ε)) : List Mark := (trace n es).filterMap Signal.mark?

/-- Whether a call has neither returned nor been given up. -/
def Progress.isRunning : Progress → Bool
  | .leasing _ | .pending _ | .ending _ (some _) => true
  | .ending _ none | .ended => false

/-- The marks of a call, by how far it has come.  A call that is given up has no outcome. -/
inductive Account : Progress → List Mark → Prop where
  | running {p : Progress} (running : p.isRunning) : Account p [.counted .attempt]
  | leaving {lease? : Option Nat} :
    Account (.ending lease? none) [.counted .attempt, .cancelled]
  | cancelled : Account .ended [.counted .attempt, .cancelled]
  | completed (result : Except Error Json.Value) :
    Account .ended [.counted .attempt, .counted (.ofResult result), .returned result]

theorem Account.of_running {p : Progress} {l : List Mark} (h : Account p l)
    (running : p.isRunning) : l = [.counted .attempt] := by
  cases h with
  | running => rfl
  | _ => cases running

abbrev Accounted (s : Calls σ) (es : List (Signal ε)) : Prop :=
  Traced (fun _ job ts => Account job.progress (ts.filterMap Signal.mark?)) s es

theorem Accounted.set {lender : σ} {n : Nat} {q : Request} {before after : Progress}
    (ts : List (Signal Empty)) (hc : Accounted s es) (job : s.jobs[n]? = some ⟨q, before⟩)
    (hown : own new = ts) (call : ∀ e ∈ ts, e.call = n) (running : before.isRunning)
    (next : Account after (.counted .attempt :: ts.filterMap Signal.mark?)) :
    Accounted ⟨lender, s.jobs.set n ⟨q, after⟩⟩ (es ++ new) := by
  apply Traced.set ts hc job hown call
  intro us hus
  have hmarks := Account.of_running hus running
  rw [List.filterMap_append, hmarks]
  exact next

theorem Step.accounted (h : Step L s m s' new) (hc : Accounted s es) :
    Accounted s' (es ++ new) := by
  cases h with
  | @get q =>
    apply Traced.append (.called s.jobs.length q :: opening _ .getJson ++ [.sent _ q.url none]) hc
    · rfl
    · simp [opening, Signal.call]
    · exact .running rfl
  | @post q =>
    apply Traced.append (.called s.jobs.length q :: opening s.jobs.length .postJson) hc
    · simp [opening]
    · simp [opening, Signal.call]
    · exact .running rfl
  | @send n j q p buffer hjob =>
    exact Accounted.set [.sent n q.url (some (buffer ++ p.encode.1))] hc hjob (by simp)
      (by simp [Signal.call]) rfl (.running rfl)
  | spoil hjob => exact Accounted.set [] hc hjob (by simp) (by simp) rfl (.running rfl)
  | @answer n q lease? a hjob =>
    rw [Calls.set, jobs_drop]
    exact Accounted.set [.answered n a] hc hjob (by simp) (by simp [Signal.call]) rfl (.running rfl)
  | @cancel n q lease? hjob =>
    rw [Calls.set, jobs_drop]
    exact Accounted.set [.cancelled n] hc hjob (by simp) (by simp [Signal.call]) rfl .leaving
  | @close n q lease? result? hjob =>
    cases result? with
    | some result =>
      exact Accounted.set (closing n (some result)) hc hjob rfl (by simp [closing, Signal.call]) rfl
        (.completed result)
    | none =>
      apply Traced.set [] hc hjob rfl (by simp)
      intro us hus
      rw [List.append_nil]
      generalize us.filterMap Signal.mark? = l at hus ⊢
      cases hus with
      | running hrunning => cases hrunning
      | leaving => exact .cancelled
  | others => exact Traced.others hc

end

/-! ## Reports on all calls -/

variable {k : BufferKind (List UInt8)} {s s' : Calls (SharedPool (List UInt8))}
  {m : Move (SharedPool.Move (List UInt8))}
  {es new : List (Signal (SharedPool.Signal (List UInt8)))}

def counters (es : List (Signal (SharedPool.Signal (List UInt8)))) : Counters :=
  (notes es).foldl Counters.hear .zero

def Signal.noted? : Signal Empty → Option Note
  | .noted _ x => some x
  | _ => none

def Signal.returned? : Signal Empty → Option (Except Error Json.Value)
  | .returned _ result => some result
  | _ => none

def Signal.isCancelled : Signal Empty → Bool
  | .cancelled _ => true
  | _ => false

def ended (o : Outcome) (ts : List (Signal Empty)) : Nat :=
  ((ts.filterMap Signal.returned?).map Outcome.ofResult).count o

def cancellations (ts : List (Signal Empty)) : Nat := ts.countP Signal.isCancelled

def running {σ : Type} (s : Calls σ) : Nat := s.jobs.countP fun job => job.progress.isRunning

/-- The counters are the numbers of calls, by how far these have come. -/
structure Tallied (s : Calls (SharedPool (List UInt8)))
    (es : List (Signal (SharedPool.Signal (List UInt8)))) : Prop where
  counters_eq : counters es =
    ⟨.zero, ⟨s.jobs.length, ended .success (own es), ended .failure (own es)⟩⟩
  calls : s.jobs.length =
    ended .success (own es) + ended .failure (own es) + s.running + cancellations (own es)

theorem tallied_start (p : SharedPool (List UInt8)) : Tallied (start p) [] := ⟨rfl, rfl⟩

theorem ended_append (o : Outcome) (ts us : List (Signal Empty)) :
    ended o (ts ++ us) = ended o ts + ended o us := by
  rw [ended, List.filterMap_append, List.map_append, List.count_append, ← ended, ← ended]

theorem cancellations_append (ts us : List (Signal Empty)) :
    cancellations (ts ++ us) = cancellations ts + cancellations us :=
  List.countP_append

theorem own_append {ε : Type} (es new : List (Signal ε)) : own (es ++ new) = own es ++ own new :=
  List.filterMap_append

/-- What the pool reports counts nothing. -/
theorem hear_notes (c : Counters) (es : List (Signal (SharedPool.Signal (List UInt8)))) :
    (notes es).foldl Counters.hear c =
      ((own es).filterMap Signal.noted?).foldl Counters.hear c := by
  induction es generalizing c with
  | nil => rfl
  | cons e rest ih =>
    cases e with
    | noted n x => exact ih (c.hear x)
    | lender e => cases e <;> exact ih c
    | _ => exact ih c

theorem counters_append (es new : List (Signal (SharedPool.Signal (List UInt8)))) :
    counters (es ++ new) =
      ((own new).filterMap Signal.noted?).foldl Counters.hear (counters es) := by
  rw [counters, notes, List.filterMap_append, List.foldl_append, hear_notes, ← counters]

section
variable {ts : List (Signal Empty)} {p : SharedPool (List UInt8)} {n : Nat}

/-- A new call, which is counted. -/
theorem Tallied.append {job : Job} (ht : Tallied s es) (hown : own new = ts)
    (attempt : ∀ c, (ts.filterMap Signal.noted?).foldl Counters.hear c = c.count .request .attempt)
    (ended : ts.filterMap Signal.returned? = []) (cancelled : cancellations ts = 0)
    (running : job.progress.isRunning = true) : Tallied ⟨p, s.jobs ++ [job]⟩ (es ++ new) := by
  have happend : own (es ++ new) = own es ++ ts := by rw [own_append, hown]
  have hended (o : Outcome) : Calls.ended o ts = 0 := by rw [Calls.ended, ended]; rfl
  constructor
  · rw [counters_append, hown, attempt, ht.counters_eq, happend, ended_append, ended_append, hended,
      hended, List.length_append]
    rfl
  · have hcalls := ht.calls
    rw [Calls.running] at hcalls
    simp only [happend, ended_append, cancellations_append, hended, cancelled, Calls.running,
      List.length_append, List.countP_append, List.countP_singleton, running, if_true,
      List.length_singleton]
    omega

/-- A call that goes on or ends, and has its outcome counted then. -/
theorem Tallied.set {before after : Job} (ts : List (Signal Empty))
    (result? : Option (Except Error Json.Value)) (ht : Tallied s es)
    (job : s.jobs[n]? = some before) (hown : own new = ts)
    (heard : ∀ c, (ts.filterMap Signal.noted?).foldl Counters.hear c =
      (result?.map Outcome.ofResult).elim c (c.count .request))
    (returned : ts.filterMap Signal.returned? = result?.toList)
    (balance : [before].countP (fun job => job.progress.isRunning) =
      [after].countP (fun job => job.progress.isRunning) + result?.toList.length +
        cancellations ts) :
    Tallied ⟨p, s.jobs.set n after⟩ (es ++ new) := by
  have happend : own (es ++ new) = own es ++ ts := by rw [own_append, hown]
  have hended (o : Outcome) : ended o ts = (result?.toList.map Outcome.ofResult).count o := by
    rw [ended, returned]
  constructor
  · rw [counters_append, hown, heard, ht.counters_eq, happend, ended_append, ended_append, hended,
      hended, List.length_set]
    cases result? with
    | none => rfl
    | some result => cases result <;> rfl
  · have hcalls := ht.calls
    have hset := SharedPool.countP_set job after fun job => job.progress.isRunning
    have hresult : (result?.toList.map Outcome.ofResult).count .success +
        (result?.toList.map Outcome.ofResult).count .failure = result?.toList.length := by
      cases result? with
      | none => rfl
      | some result => cases result <;> rfl
    rw [Calls.running] at hcalls
    simp only [happend, ended_append, hended, cancellations_append, Calls.running,
      List.length_set]
    omega

end

theorem Step.tallied (h : Step (Lender.pooled k) s m s' new) (ht : Tallied s es) :
    Tallied s' (es ++ new) := by
  cases h with
  | get => exact ht.append rfl (fun c => rfl) rfl rfl rfl
  | @post q =>
    have hown : own (.called s.jobs.length q :: opening s.jobs.length .postJson ++
        ((Lender.pooled k).lease s.lender).2.2.map .lender) =
        .called s.jobs.length q :: opening s.jobs.length .postJson := by
      simp [opening]
    exact ht.append hown (fun c => rfl) rfl rfl rfl
  | @send n j q p buffer hjob =>
    exact ht.set [.sent n q.url (some (buffer ++ p.encode.1))] none hjob (by simp) (fun c => rfl)
      rfl rfl
  | spoil hjob => exact ht.set [] none hjob (by simp) (fun c => rfl) rfl rfl
  | @answer n q lease? a hjob =>
    rw [Calls.set, jobs_drop]
    exact ht.set [.answered n a] none hjob (by simp) (fun c => rfl) rfl rfl
  | @cancel n q lease? hjob =>
    rw [Calls.set, jobs_drop]
    exact ht.set [.cancelled n] none hjob (by simp) (fun c => rfl) rfl rfl
  | @close n q lease? result? hjob =>
    refine ht.set (closing n result?) result? hjob (own_closing n result?) (fun c => ?_) ?_ ?_
    all_goals
      cases result? <;> rfl
  | @others m lender l =>
    have hnone : own (es ++ l.map .lender) = own es := by
      rw [own_append, own_lender, List.append_nil]
    have hcounters : counters (es ++ l.map .lender) = counters es := by
      rw [counters_append, own_lender]
      rfl
    constructor
    · rw [hcounters, hnone]
      exact ht.counters_eq
    · rw [hnone]
      exact ht.calls

/-! ## Buffers -/

def Job.isPost (job : Job) : Bool := job.request.payload.isSome

def Progress.isPending : Progress → Bool
  | .pending _ => true
  | _ => false

def Progress.isEnded : Progress → Bool
  | .ended => true
  | _ => false

theorem Progress.eq_ended {p : Progress} (h : p.isEnded) : p = .ended := by
  cases p with
  | ended => rfl
  | _ => cases h

def request? {σ μ : Type} (s : Calls σ) : Move μ → Option Request
  | .call q => some q
  | .encode n | .answer n _ | .cancel n | .close n => s.jobs[n]?.map Job.request
  | .lender _ => none

/-- A get has no buffer, from its begin to its end. -/
theorem Step.lender_eq {q : Request} (h : Step (Lender.pooled k) s m s' new) (hp : Paired s)
    (request : s.request? m = some q) (get : q.payload = none) :
    s'.lender = s.lender ∧ loans new = [] := by
  have hdrop {n : Nat} {lease? : Option Nat} (hjob : s.jobs[n]? = some ⟨q, .pending lease?⟩) :
      lease? = none := by
    have hleased : lease?.isSome = q.payload.isSome := hp.leased n _ hjob (by simp)
    rw [get] at hleased
    exact Option.not_isSome_iff_eq_none.1 (by simp [hleased])
  cases h with
  | get => exact ⟨rfl, rfl⟩
  | post hpayload =>
    cases request
    rw [get] at hpayload
    cases hpayload
  | send hjob hpayload | spoil hjob hpayload =>
    rw [request?, hjob] at request
    cases request
    rw [get] at hpayload
    cases hpayload
  | answer a hjob | cancel hjob =>
    rw [request?, hjob] at request
    cases request
    rw [hdrop hjob]
    exact ⟨rfl, rfl⟩
  | @close n q lease? result? =>
    refine ⟨rfl, ?_⟩
    cases result? <;> rfl
  | others => cases request

/-- The buffer of a post is out while the transport is at work. -/
theorem Paired.isOut_of_pending {job : Job} (hp : Paired s) (hmem : job ∈ s.jobs)
    (post : job.isPost) (pending : job.progress.isPending) :
    (job.borrower? s.lender).any SharedPool.Borrower.isOut := by
  obtain ⟨n, hjob⟩ := List.getElem?_of_mem hmem
  obtain ⟨q, progress⟩ := job
  cases progress with
  | pending lease? =>
    have hleased : lease?.isSome = q.payload.isSome := hp.leased n _ hjob (by simp)
    obtain ⟨j, rfl⟩ := Option.isSome_iff_exists.1 (hleased.trans post)
    obtain ⟨x, hx, b, rfl⟩ := hp.keeps n j _ hjob rfl
    simp [Job.borrower?, Job.lease?, hx, SharedPool.Borrower.isOut]
  | _ => cases pending

/-- Only posts have buffers, and only until they end. -/
theorem Paired.of_isOut {job : Job} (hp : Paired s) (hmem : job ∈ s.jobs)
    (out : (job.borrower? s.lender).any SharedPool.Borrower.isOut) :
    job.isPost ∧ ¬ job.progress.isEnded := by
  obtain ⟨n, hjob⟩ := List.getElem?_of_mem hmem
  cases hlease : job.lease? with
  | none =>
    rw [Job.borrower?, hlease] at out
    cases out
  | some j =>
    have hlive : job.progress ≠ .ended := by
      intro hended
      rw [Job.lease?, hended] at hlease
      cases hlease
    have hleased := hp.leased n job hjob hlive
    rw [hlease] at hleased
    exact ⟨hleased.symm, fun hended => hlive (Progress.eq_ended hended)⟩

/-- When all calls have ended, nobody has anything to do with the pool. -/
theorem Paired.gone (hp : Paired s) (ended : ∀ job ∈ s.jobs, job.progress.isEnded) :
    ∀ x ∈ s.lender.borrowers, x = .gone := by
  intro x hx
  obtain ⟨j, hj⟩ := List.getElem?_of_mem hx
  rcases hp.known j x hj with hgone | ⟨n, job, hjob, hlease⟩
  · exact hgone
  · rw [Job.lease?, Progress.eq_ended (ended job (List.mem_of_getElem? hjob))] at hlease
    cases hlease

/-- All buffers of a pool whose borrowers are gone, when none came from elsewhere or was lost. -/
theorem home_of_gone {capacity : Nat} {p : SharedPool (List UInt8)}
    {log : List (SharedPool.Signal (List UInt8))} (hr : SharedPool.Reached k capacity p log)
    (closed : SharedPool.IsClosed log) (gone : ∀ x ∈ p.borrowers, x = .gone) :
    p.pool.created = p.pool.idle.length + p.pool.discarded ∧ p.pool.created = p.built ∧
      ((p.pool.idle ++ p.discarded).map Tagged.id).Perm (List.range p.built) := by
  have hl := hr.ledger_true
  have hrest := hr.books.rest fun x hx => by rw [gone x hx]; rfl
  have hnone : SharedPool.times .handedIn log = 0 :=
    SharedPool.times_eq_zero fun e he => (closed e he).1
  have hlost : SharedPool.times .lost log = 0 :=
    SharedPool.times_eq_zero fun e he => (closed e he).2
  have hout : p.out = 0 := by
    apply List.countP_eq_zero.2
    intro x hx
    rw [gone x hx]
    exact Bool.false_ne_true
  have hissued := hr.books.issued
  have hidle := hr.books.idle
  have hbalance := hr.books.out
  refine ⟨by omega, by omega, ?_⟩
  have hheld : p.borrowers.filterMap SharedPool.Borrower.buffer? = [] := by
    apply List.filterMap_eq_nil_iff.2
    intro x hx
    rw [gone x hx]
    rfl
  have hplaces := hl.perm
  rw [SharedPool.everywhere, hheld, List.append_nil, hl.came_eq, hissued, hnone] at hplaces
  exact hplaces

/-! ## The balance -/

/-- What holds of calls on a pool that nobody else uses, at every moment. -/
structure Balance (k : BufferKind (List UInt8)) (s : Calls (SharedPool (List UInt8)))
    (es : List (Signal (SharedPool.Signal (List UInt8)))) : Prop where
  /-- A post can have a buffer until it ends, and has one while the transport is at work. -/
  out_le : s.lender.out ≤ s.jobs.countP fun job => job.isPost && !job.progress.isEnded
  le_out : (s.jobs.countP fun job => job.isPost && job.progress.isPending) ≤ s.lender.out
  /-- When no call is between two waits, the posts under way are those with a buffer. -/
  out_eq : (∀ job ∈ s.jobs, job.progress.isPending ∨ job.progress.isEnded) →
    s.lender.out = s.jobs.countP fun job => job.isPost && job.progress.isPending
  untouched : ∀ (m : Move (SharedPool.Move (List UInt8))) s' new q,
    s.move? (Lender.pooled k) m = some (s', new) → s.request? m = some q → q.payload = none →
      s'.lender = s.lender ∧ loans new = []
  home : (∀ job ∈ s.jobs, job.progress.isEnded) →
    s.lender.pool.created = s.lender.pool.idle.length + s.lender.pool.discarded ∧
      s.lender.pool.created = s.lender.built ∧
      ((s.lender.pool.idle ++ s.lender.discarded).map Tagged.id).Perm (List.range s.lender.built)
  tally : (counters es).request.attempts = (counters es).request.successes +
    (counters es).request.failures + s.running + cancellations (own es)
  account : ∀ (n : Nat) (job : Job), s.jobs[n]? = some job → Account job.progress (marks n es)

theorem Paired.out_le (hp : Paired s) :
    s.lender.out ≤ s.jobs.countP fun job => job.isPost && !job.progress.isEnded := by
  rw [SharedPool.out, hp.countP_borrowers rfl]
  apply List.countP_mono_left
  intro job hmem hout
  obtain ⟨hpost, hlive⟩ := hp.of_isOut hmem hout
  simp [hpost, hlive]

theorem Paired.le_out (hp : Paired s) :
    (s.jobs.countP fun job => job.isPost && job.progress.isPending) ≤ s.lender.out := by
  rw [SharedPool.out, hp.countP_borrowers rfl]
  apply List.countP_mono_left
  intro job hmem hboth
  obtain ⟨hpost, hpending⟩ := Bool.and_eq_true_iff.1 hboth
  exact hp.isOut_of_pending hmem hpost hpending

theorem Paired.out_eq (hp : Paired s)
    (waiting : ∀ job ∈ s.jobs, job.progress.isPending ∨ job.progress.isEnded) :
    s.lender.out = s.jobs.countP fun job => job.isPost && job.progress.isPending := by
  apply Nat.le_antisymm _ hp.le_out
  apply Nat.le_trans hp.out_le
  apply List.countP_mono_left
  intro job hmem hlive
  rcases waiting job hmem with hpending | hended
  · simp_all
  · simp [hended] at hlive

structure Kept (k : BufferKind (List UInt8)) (capacity : Nat) (s : Calls (SharedPool (List UInt8)))
    (es : List (Signal (SharedPool.Signal (List UInt8)))) : Prop where
  reached : SharedPool.Reached k capacity s.lender (loans es)
  closed : SharedPool.IsClosed (loans es)
  paired : Paired s
  tallied : Tallied s es
  accounted : Accounted s es

theorem kept_start (capacity : Nat) : Kept k capacity (start (SharedPool.start capacity)) [] where
  reached := .start
  closed e he := by cases he
  paired := paired_start capacity
  tallied := tallied_start _
  accounted := ⟨fun n job h => (by cases h), fun n h => rfl⟩

theorem Step.kept {capacity : Nat} (h : Step (Lender.pooled k) s m s' new)
    (exclusive : m.IsExclusive) (hk : Kept k capacity s es) : Kept k capacity s' (es ++ new) := by
  obtain ⟨hpaired, hclosed⟩ := h.paired hk.paired exclusive
  refine ⟨?_, ?_, hpaired, h.tallied hk.tallied, h.accounted hk.accounted⟩
  · rw [loans_append]
    exact h.lender_reached hk.reached
  · rw [loans_append]
    exact SharedPool.isClosed_append hk.closed hclosed

theorem Kept.run {capacity : Nat} {moves : List (Move (SharedPool.Move (List UInt8)))}
    (hk : Kept k capacity s es) (h : run? (move? (Lender.pooled k)) s moves = some (s', new))
    (exclusive : ∀ m ∈ moves, m.IsExclusive) : Kept k capacity s' (es ++ new) := by
  induction moves generalizing s es new with
  | nil =>
    cases h
    rw [List.append_nil]
    exact hk
  | cons m rest ih =>
    obtain ⟨after, front, back, hmove, hrun, rfl⟩ := of_run?_cons h
    have hstep := (step_of_move? hmove).kept (exclusive m List.mem_cons_self) hk
    rw [← List.append_assoc]
    exact ih hstep hrun fun m' hm' => exclusive m' (List.mem_cons_of_mem m hm')

theorem balanced {capacity : Nat} {moves : List (Move (SharedPool.Move (List UInt8)))}
    (h : run? (move? (Lender.pooled k)) (start (SharedPool.start capacity)) moves = some (s, es))
    (exclusive : ∀ m ∈ moves, m.IsExclusive) : Balance k s es := by
  have hk : Kept k capacity s es := (kept_start capacity).run h exclusive
  have hcalls := hk.tallied.calls
  constructor
  case out_le => exact hk.paired.out_le
  case le_out => exact hk.paired.le_out
  case out_eq => exact hk.paired.out_eq
  case untouched =>
    intro m s' new q hmove request get
    exact (step_of_move? hmove).lender_eq hk.paired request get
  case home =>
    intro hended
    exact home_of_gone hk.reached hk.closed (hk.paired.gone hended)
  case tally =>
    rw [hk.tallied.counters_eq]
    exact hcalls
  case account => exact hk.accounted.trace

def plainGet : Request where
  payload := none
  url := ⟨"https", some ⟨"", "h", none⟩, .segments ["c"], none, none⟩
  reader := .any

/-- A post without JSON form, a post that is given up, a get that fails and a post that succeeds, on
a pool with room for one buffer. -/
def mixedMoves : List (Move (SharedPool.Move (List UInt8))) :=
  [.call spoiledPost, .call sentPost, .call plainGet, .lender (.step 0), .lender (.step 1),
    .lender (.step 0), .lender (.step 0), .lender (.step 1), .lender (.step 1), .encode 1,
    .encode 0, .lender (.step 0), .lender (.step 0), .call sentPost, .close 0, .lender (.step 2),
    .lender (.step 2), .encode 3, .answer 2 (.error (.io "reset")), .cancel 1,
    .answer 3 (.ok ⟨200, none, "null".toUTF8.toList⟩), .lender (.step 1), .close 2,
    .lender (.step 1), .lender (.step 2), .lender (.step 2), .lender (.step 2), .close 3, .close 1]

theorem balanced_mixedMoves :
    ∃ s es, run? (move? (Lender.pooled byteBuffers)) (start (SharedPool.start 1)) mixedMoves =
        some (s, es) ∧
      (∀ m ∈ mixedMoves, m.IsExclusive) ∧
      counters es = ⟨.zero, ⟨4, 1, 2⟩⟩ ∧ cancellations (own es) = 1 ∧
      s.lender.pool.created = 2 ∧ s.lender.pool.idle.length = 1 ∧ s.lender.pool.discarded = 1 ∧
      Balance byteBuffers s es := by
  have hruns : (run? (move? (Lender.pooled byteBuffers)) (start (SharedPool.start 1))
      mixedMoves).map (fun p => (counters p.2, cancellations (own p.2), p.1.lender.pool.created,
        p.1.lender.pool.idle.length, p.1.lender.pool.discarded)) =
      some (⟨.zero, ⟨4, 1, 2⟩⟩, 1, 2, 1, 1) := by decide +kernel
  obtain ⟨⟨s, es⟩, h, heq⟩ := Option.map_eq_some_iff.1 hruns
  simp only [Prod.mk.injEq] at heq
  obtain ⟨hcounters, hcancelled, hcreated, hidle, hdiscarded⟩ := heq
  have hexclusive : ∀ m ∈ mixedMoves, m.IsExclusive := by simp [mixedMoves, Move.IsExclusive]
  exact ⟨s, es, h, hexclusive, hcounters, hcancelled, hcreated, hidle, hdiscarded,
    balanced h hexclusive⟩

end FreshToken.Calls
