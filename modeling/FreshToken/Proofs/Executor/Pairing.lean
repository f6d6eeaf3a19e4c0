import FreshToken.Proofs.Executor.Leases
import FreshToken.Proofs.Pool.Accounts
import Mathlib.Data.List.Perm.Basic
import Mathlib.Data.List.Nodup
/-!
# Calls and their borrowers

Where nobody but the calls uses a pool, each of its borrowers belongs to one post, and is gone when
that post has ended.  What the buffers are like does not matter for that.
-/

namespace FreshToken

open Machine

namespace SharedPool

variable {k : BufferKind (List UInt8)} {s s' : SharedPool (List UInt8)}
  {new : List (Signal (List UInt8))}

def Borrower.IsComing : Borrower (List UInt8) → Prop
  | .asking .lease | .found .lease _ | .building .lease | .guard (some _) => True
  | _ => False

/-- Nothing comes from elsewhere, and nothing is lost. -/
def IsClosed (es : List (Signal (List UInt8))) : Prop :=
  ∀ e ∈ es, e.deed? ≠ some .handedIn ∧ e.deed? ≠ some .lost

theorem isClosed_append {es : List (Signal (List UInt8))} (h : IsClosed es) (hnew : IsClosed new) :
    IsClosed (es ++ new) := by
  intro e he
  rcases List.mem_append.1 he with he | he
  · exact h e he
  · exact hnew e he

theorem deed?_looked (i : Nat) (buffer? : Option (Tagged (List UInt8))) :
    (Signal.looked i buffer?).deed? ≠ some .handedIn ∧
      (Signal.looked i buffer?).deed? ≠ some .lost := by
  cases buffer? <;> simp [Signal.deed?]

theorem of_step? {j : Nat} (h : s.step? k j = some (s', new)) :
    IsClosed new ∧ ∃ x y, s.borrowers[j]? = some x ∧ s'.borrowers = s.borrowers.set j y ∧
      (x.IsComing → y.IsComing) ∧ (x.Going → y.Going) ∧ x ≠ .gone ∧ ∀ b, x ≠ .guard b := by
  unfold step? at h
  split at h
  case h_1 loan hx =>
    cases h
    refine ⟨?_, _, _, hx, rfl, ?_, False.elim, by simp, by simp⟩
    · intro e he
      rw [List.mem_singleton.1 he]
      exact deed?_looked j _
    · cases loan <;> simp [Borrower.IsComing]
  case h_2 loan b hx | h_4 loan hx =>
    cases h
    refine ⟨by simp [IsClosed, Signal.deed?], _, _, hx, rfl, ?_, False.elim, by simp, by simp⟩
    cases loan <;> simp [Borrower.IsComing, Loan.borrower]
  case h_3 loan hx =>
    cases h
    refine ⟨by simp [IsClosed], _, _, hx, rfl, ?_, False.elim, by simp, by simp⟩
    cases loan <;> simp [Borrower.IsComing]
  case h_5 b hx | h_7 b hx =>
    cases h
    exact ⟨by simp [IsClosed, Signal.deed?], _, _, hx, rfl, False.elim, fun _ => trivial, by simp,
      by simp⟩
  case h_6 b hx =>
    split at h
    all_goals
      cases h
      exact ⟨by simp [IsClosed, Signal.deed?], _, _, hx, rfl, False.elim, fun _ => trivial, by simp,
        by simp⟩
  case h_8 => cases h

theorem Reached.getD {capacity : Nat} {es : List (Signal (List UInt8))}
    (h : Reached k capacity s es) (m : Move (List UInt8)) :
    Reached k capacity ((s.move? k m).getD (s, [])).1
      (es ++ ((s.move? k m).getD (s, [])).2) := by
  cases hmove : s.move? k m with
  | none =>
    rw [Option.getD_none, List.append_nil]
    exact h
  | some p => exact .step h hmove

end SharedPool

namespace Calls

variable {k : BufferKind (List UInt8)} {s s' : Calls (SharedPool (List UInt8))}
  {m : Move (SharedPool.Move (List UInt8))}
  {es new : List (Signal (SharedPool.Signal (List UInt8)))}

/-! ## The log of the pool -/

@[simp] def Signal.loan? {ε : Type} : Signal ε → Option ε
  | .lender e => some e
  | _ => none

abbrev loans {ε : Type} (es : List (Signal ε)) : List ε := es.filterMap Signal.loan?

@[simp] theorem loans_lender {ε : Type} (l : List ε) : loans (l.map Signal.lender) = l := by
  rw [loans, List.filterMap_map]
  exact List.filterMap_some

theorem loans_append {ε : Type} (es new : List (Signal ε)) :
    loans (es ++ new) = loans es ++ loans new :=
  List.filterMap_append

theorem Step.lender_reached {capacity : Nat} {before : List (SharedPool.Signal (List UInt8))}
    (h : Step (Lender.pooled k) s m s' new)
    (hr : SharedPool.Reached k capacity s.lender before) :
    SharedPool.Reached k capacity s'.lender (before ++ loans new) := by
  have hdrop (lease? : Option Nat) : SharedPool.Reached k capacity
      (s.drop (Lender.pooled k) lease?).1.lender
      (before ++ loans (s.drop (Lender.pooled k) lease?).2) := by
    cases lease? with
    | none =>
      rw [drop, loans, List.filterMap_nil, List.append_nil]
      exact hr
    | some j =>
      rw [drop, loans_lender]
      exact hr.getD (.leave j)
  cases h with
  | get =>
    rw [← List.append_nil before] at hr
    exact hr
  | post =>
    rw [loans_append, loans_lender]
    exact hr.getD (.ask .lease)
  | @send n j q p buffer =>
    have hwritten := hr.getD (.write j (buffer ++ p.encode.1))
    rw [← List.append_nil (before ++ _), List.append_assoc] at hwritten
    rw [loans_append, loans_lender]
    exact hwritten
  | @spoil n j q p buffer f =>
    rw [loans_append, loans_lender, loans_lender, ← List.append_assoc]
    exact (hr.getD (.write j _)).getD (.leave j)
  | @answer n q lease? | @cancel n q lease? => exact hdrop lease?
  | @close n q lease? result? =>
    have hnone : loans (closing (ε := SharedPool.Signal (List UInt8)) n result?) = [] := by
      cases result? <;> rfl
    rw [hnone, List.append_nil]
    exact hr
  | @others m lender es hmove =>
    rw [loans_lender]
    simp only [Lender.pooled] at hmove
    split at hmove
    · cases hmove
    · exact .step hr hmove

/-! ## Each post and its borrower -/

/-- What the borrower of a call is doing, by how far the call has come. -/
def Job.Keeps (job : Job) (x : SharedPool.Borrower (List UInt8)) : Prop :=
  match job.progress with
  | .leasing _ => x.IsComing
  | .pending _ => ∃ b, x = .guard (some b)
  | .ending _ _ => x.Going
  | .ended => True

structure Paired (s : Calls (SharedPool (List UInt8))) : Prop where
  apart : Apart (fun p => p.borrowers.length) s
  keeps : ∀ (n j : Nat) (job : Job), s.jobs[n]? = some job → job.lease? = some j →
    ∃ x, s.lender.borrowers[j]? = some x ∧ job.Keeps x
  known : ∀ (j : Nat) x, s.lender.borrowers[j]? = some x →
    x = .gone ∨ ∃ (n : Nat) (job : Job), s.jobs[n]? = some job ∧ job.lease? = some j
  leased : ∀ (n : Nat) (job : Job), s.jobs[n]? = some job → job.progress ≠ .ended →
    job.lease?.isSome = job.request.payload.isSome

theorem paired_start (capacity : Nat) : Paired (start (SharedPool.start capacity)) where
  apart := apart_start _
  keeps n j job h := by cases h
  known j x h := by cases h
  leased n job h := by cases h

section
variable {lender : SharedPool (List UInt8)} {n : Nat}

theorem Paired.append {job : Job} (hp : Paired s)
    (apart : Apart (fun p => p.borrowers.length) ⟨lender, s.jobs ++ [job]⟩)
    (borrowers : lender.borrowers =
      s.lender.borrowers ++ (job.lease?.map fun _ => .asking .lease).toList)
    (own : ∀ j, job.lease? = some j → j = s.lender.borrowers.length ∧ job.Keeps (.asking .lease))
    (leased : job.lease?.isSome = job.request.payload.isSome) :
    Paired ⟨lender, s.jobs ++ [job]⟩ where
  apart := apart
  keeps i j other hother hlease := by
    simp only [borrowers]
    rcases eq_or_of_append hother with ⟨_, rfl⟩ | ⟨_, hold⟩
    · obtain ⟨rfl, hkeeps⟩ := own j hlease
      rw [hlease]
      exact ⟨_, List.getElem?_concat_length, hkeeps⟩
    · obtain ⟨x, hx, hkeeps⟩ := hp.keeps i j other hold hlease
      exact ⟨x, (List.getElem?_append_left (lt_of_getElem? hx)).trans hx, hkeeps⟩
  known j x hx := by
    simp only [borrowers] at hx
    have hlast : (s.jobs ++ [job])[s.jobs.length]? = some job := List.getElem?_concat_length
    have hold (h : s.lender.borrowers[j]? = some x) : x = .gone ∨
        ∃ (n : Nat) (other : Job), (s.jobs ++ [job])[n]? = some other ∧ other.lease? = some j := by
      rcases hp.known j x h with hgone | ⟨i, other, hother, hlease⟩
      · exact Or.inl hgone
      · refine Or.inr ⟨i, other, ?_, hlease⟩
        rw [List.getElem?_append_left (lt_of_getElem? hother), hother]
    cases hlease : job.lease? with
    | none =>
      rw [hlease, Option.map_none, Option.toList_none, List.append_nil] at hx
      exact hold hx
    | some i =>
      rw [hlease] at hx
      rcases eq_or_of_append hx with ⟨rfl, _⟩ | ⟨_, hx⟩
      · exact Or.inr ⟨_, job, hlast, by rw [hlease, (own i hlease).1]⟩
      · exact hold hx
  leased i other hother hlive := by
    rcases eq_or_of_append hother with ⟨_, rfl⟩ | ⟨_, hold⟩
    · exact leased
    · exact hp.leased i other hold hlive

/-- A call that goes on, and nobody's borrower changes but its own. -/
theorem Paired.set {before after : Job} (hp : Paired s) (job : s.jobs[n]? = some before)
    (apart : Apart (fun p => p.borrowers.length) ⟨lender, s.jobs.set n after⟩)
    (others : ∀ i, before.lease? ≠ some i → lender.borrowers[i]? = s.lender.borrowers[i]?)
    (own : ∀ j, before.lease? = some j → ∃ x, lender.borrowers[j]? = some x ∧ after.Keeps x ∧
      (after.lease? = some j ∨ x = .gone))
    (stays : ∀ j, after.lease? = some j → before.lease? = some j)
    (leased : after.progress ≠ .ended → after.lease?.isSome = after.request.payload.isSome) :
    Paired ⟨lender, s.jobs.set n after⟩ where
  apart := apart
  keeps i j other hother hlease := by
    rcases eq_or_of_set hother with ⟨_, rfl⟩ | ⟨hne, hold⟩
    · obtain ⟨x, hx, hkeeps, _⟩ := own j (stays j hlease)
      exact ⟨x, hx, hkeeps⟩
    · obtain ⟨x, hx, hkeeps⟩ := hp.keeps i j other hold hlease
      have hother' : before.lease? ≠ some j := fun hsame =>
        hne (hp.apart.alone n i j before other job hold hsame hlease)
      exact ⟨x, (others j hother').trans hx, hkeeps⟩
  known j x hx := by
    by_cases hbefore : before.lease? = some j
    · obtain ⟨y, hy, _, hafter⟩ := own j hbefore
      obtain rfl := Option.some.inj (hx.symm.trans hy)
      rcases hafter with hafter | hgone
      · exact Or.inr ⟨n, after, getElem?_set_of_getElem? after job, hafter⟩
      · exact Or.inl hgone
    · have hold : s.lender.borrowers[j]? = some x := (others j hbefore).symm.trans hx
      rcases hp.known j x hold with hgone | ⟨i, other, hother, hlease⟩
      · exact Or.inl hgone
      · have hne : n ≠ i := by
          rintro rfl
          rw [job] at hother
          cases hother
          exact hbefore hlease
        exact Or.inr ⟨i, other, (List.getElem?_set_ne hne).trans hother, hlease⟩
  leased i other hother hlive := by
    rcases eq_or_of_set hother with ⟨_, rfl⟩ | ⟨_, hold⟩
    · exact leased hlive
    · exact hp.leased i other hold hlive

theorem Paired.drop {q : Request} {lease? : Option Nat} (hp : Paired s)
    (job : s.jobs[n]? = some ⟨q, .pending lease?⟩) :
    SharedPool.IsClosed (loans (s.drop (Lender.pooled k) lease?).2) ∧
      (∀ i, lease? ≠ some i → (s.drop (Lender.pooled k) lease?).1.lender.borrowers[i]? =
        s.lender.borrowers[i]?) ∧
      ∀ j, lease? = some j → ∃ b,
        (s.drop (Lender.pooled k) lease?).1.lender.borrowers[j]? = some (.returning b) := by
  cases lease? with
  | none =>
    refine ⟨fun e he => ?_, fun i _ => rfl, fun j hj => ?_⟩
    · cases he
    · cases hj
  | some j =>
    obtain ⟨x, hx, b, rfl⟩ := hp.keeps n j _ job rfl
    rw [Calls.drop, drop_pooled hx]
    refine ⟨by simp [SharedPool.IsClosed, SharedPool.Signal.deed?], fun i hne => ?_, fun i hi => ?_⟩
    · have hji : j ≠ i := fun heq => hne (by rw [heq])
      exact List.getElem?_set_ne hji
    · cases hi
      exact ⟨b, getElem?_set_of_getElem? _ hx⟩

theorem Paired.others {j : Nat} {x y : SharedPool.Borrower (List UInt8)} (hp : Paired s)
    (hx : s.lender.borrowers[j]? = some x) (borrowers : lender.borrowers = s.lender.borrowers.set j y)
    (coming : x.IsComing → y.IsComing) (going : x.Going → y.Going) (here : x ≠ .gone)
    (moving : ∀ b, x ≠ .guard b) : Paired { s with lender := lender } where
  apart := hp.apart.mono (by simp only [borrowers, List.length_set, Nat.le_refl])
  keeps i l job hjob hlease := by
    obtain ⟨z, hz, hkeeps⟩ := hp.keeps i l job hjob hlease
    simp only [borrowers]
    by_cases hjl : j = l
    · subst hjl
      obtain rfl := Option.some.inj (hx.symm.trans hz)
      refine ⟨y, getElem?_set_of_getElem? y hx, ?_⟩
      unfold Job.Keeps at hkeeps ⊢
      split at hkeeps
      · exact coming hkeeps
      · obtain ⟨b, hb⟩ := hkeeps
        exact absurd hb (moving (some b))
      · exact going hkeeps
      · trivial
    · exact ⟨z, (List.getElem?_set_ne hjl).trans hz, hkeeps⟩
  known l z hz := by
    simp only [borrowers] at hz
    rcases eq_or_of_set hz with ⟨rfl, _⟩ | ⟨_, hold⟩
    · exact Or.inr ((hp.known j x hx).resolve_left here)
    · exact hp.known l z hold
  leased := hp.leased

end

/-- The pool is left to the calls, whose borrowers only go on. -/
def Move.IsExclusive : Move (SharedPool.Move (List UInt8)) → Prop
  | .lender m => ∃ j, m = .step j
  | _ => True

theorem gone_of_isBack {p : SharedPool (List UInt8)} {j : Nat}
    (h : (Lender.pooled k).isBack p j = true) : p.borrowers[j]? = some .gone := by
  simp only [Lender.pooled] at h
  split at h
  · assumption
  · cases h

theorem Step.paired (h : Step (Lender.pooled k) s m s' new) (hp : Paired s)
    (exclusive : m.IsExclusive) : Paired s' ∧ SharedPool.IsClosed (loans new) := by
  have hapart := h.apart numbered_pooled hp.apart
  cases h with
  | get hpayload =>
    refine ⟨hp.append hapart (List.append_nil _).symm (fun j hj => ?_) (by rw [hpayload]; rfl), ?_⟩
    · cases hj
    · simp [SharedPool.IsClosed, opening]
  | post hpayload =>
    refine ⟨hp.append hapart rfl (fun j hj => ?_) (by rw [hpayload]; rfl), ?_⟩
    · cases hj
      exact ⟨rfl, trivial⟩
    · rw [loans_append, loans_lender]
      simp [SharedPool.IsClosed, opening, Lender.pooled, SharedPool.move?, SharedPool.Signal.deed?]
  | @send n j q p buffer hjob hpayload hready hformed =>
    obtain ⟨b, hguard, _⟩ := guard_of_content? hready
    have hleased := hp.leased n _ hjob (by simp)
    rw [fill_pooled _ hguard] at hapart ⊢
    refine ⟨hp.set hjob hapart (fun i hne => ?_) (fun i hi => ?_) (fun i hi => hi)
      fun _ => hleased, ?_⟩
    · exact List.getElem?_set_ne fun heq => hne (congrArg some heq)
    · cases hi
      exact ⟨_, getElem?_set_of_getElem? _ hguard, ⟨_, rfl⟩, Or.inl rfl⟩
    · simp [SharedPool.IsClosed, SharedPool.Signal.deed?]
  | @spoil n j q p buffer f hjob hpayload hready hformless =>
    obtain ⟨b, hguard, _⟩ := guard_of_content? hready
    have hleased := hp.leased n _ hjob (by simp)
    have hfilled := getElem?_set_of_getElem?
      (.guard (some { b with content := buffer ++ p.encode.1 })) hguard
    rw [fill_pooled _ hguard, drop_pooled hfilled] at hapart ⊢
    refine ⟨hp.set hjob hapart (fun i hne => ?_) (fun i hi => ?_) (fun i hi => hi)
      fun _ => hleased, ?_⟩
    · have hji : j ≠ i := fun heq => hne (congrArg some heq)
      exact (List.getElem?_set_ne hji).trans (List.getElem?_set_ne hji)
    · cases hi
      exact ⟨_, getElem?_set_of_getElem? _ hfilled, trivial, Or.inl rfl⟩
    · simp [SharedPool.IsClosed, SharedPool.Signal.deed?]
  | @answer n q lease? a hjob | @cancel n q lease? hjob =>
    obtain ⟨hclosed, hothers, hown⟩ := hp.drop (k := k) hjob
    have hleased := hp.leased n _ hjob (by simp)
    rw [Calls.set, jobs_drop] at hapart ⊢
    refine ⟨hp.set hjob hapart hothers (fun j hj => ?_) (fun j hj => hj) fun _ => hleased, hclosed⟩
    obtain ⟨b, hb⟩ := hown j hj
    exact ⟨_, hb, trivial, Or.inl hj⟩
  | @close n q lease? result? hjob hback =>
    refine ⟨hp.set hjob hapart (fun i _ => rfl) (fun j hj => ?_) (fun j hj => ?_)
      fun hlive => ?_, ?_⟩
    · have hj' : lease? = some j := hj
      rw [hj', Option.all_some] at hback
      exact ⟨_, gone_of_isBack hback, trivial, Or.inr rfl⟩
    · cases hj
    · exact absurd rfl hlive
    · cases result? <;> simp [SharedPool.IsClosed, closing]
  | @others m lender es hmove =>
    obtain ⟨j, rfl⟩ := exclusive
    have hstep : s.lender.step? k j = some (lender, es) := hmove
    obtain ⟨hclosed, x, y, hx, hy, hcoming, hgoing, hhere, hmoving⟩ := SharedPool.of_step? hstep
    rw [loans_lender]
    exact ⟨hp.others hx hy hcoming hgoing hhere hmoving, hclosed⟩

/-! ## Counting borrowers by their calls -/

def Job.borrower? (p : SharedPool (List UInt8)) (job : Job) :
    Option (SharedPool.Borrower (List UInt8)) :=
  job.lease?.bind fun j => p.borrowers[j]?

theorem countP_eq_countP_range {β : Type} (l : List β) (f : β → Bool) :
    l.countP f = (List.range l.length).countP fun i => l[i]?.any f := by
  induction l with
  | nil => rfl
  | cons x rest ih =>
    rw [List.length_cons, List.range_succ_eq_map, List.countP_cons, List.countP_cons,
      List.countP_map, ih]
    rfl

theorem Paired.leases_nodup (hp : Paired s) : (s.jobs.filterMap Job.lease?).Nodup := by
  apply List.pairwise_filterMap.2
  apply List.pairwise_iff_getElem.2
  rintro n m hn hm hlt j hj _ hj' rfl
  have hsame := hp.apart.alone n m j _ _ (List.getElem?_eq_getElem hn)
    (List.getElem?_eq_getElem hm) hj hj'
  omega

/-- What borrowers do that are not gone can be counted by calls. -/
theorem Paired.countP_borrowers (hp : Paired s) {f : SharedPool.Borrower (List UInt8) → Bool}
    (gone : f .gone = false) :
    s.lender.borrowers.countP f = s.jobs.countP fun job => (job.borrower? s.lender).any f := by
  have hperm : ((List.range s.lender.borrowers.length).filter
      fun j => s.lender.borrowers[j]?.any f).Perm
      ((s.jobs.filterMap Job.lease?).filter fun j => s.lender.borrowers[j]?.any f) := by
    apply (List.perm_ext_iff_of_nodup (List.nodup_range.filter _) (hp.leases_nodup.filter _)).2
    intro j
    simp only [List.mem_filter, List.mem_range, List.mem_filterMap]
    apply and_congr_left
    intro hf
    constructor
    · intro hlt
      have hx := List.getElem?_eq_getElem hlt
      rcases hp.known j _ hx with hgone | ⟨n, job, hjob, hlease⟩
      · rw [hx, hgone, Option.any_some, gone] at hf
        cases hf
      · exact ⟨job, List.mem_of_getElem? hjob, hlease⟩
    · rintro ⟨job, hmem, hlease⟩
      obtain ⟨n, hjob⟩ := List.getElem?_of_mem hmem
      exact hp.apart.bound n j job hjob hlease
  rw [countP_eq_countP_range, List.countP_eq_length_filter, hperm.length_eq,
    ← List.countP_eq_length_filter, List.countP_filterMap]
  apply List.countP_congr
  intro job _
  rw [Job.borrower?]
  cases job.lease? <;> simp

end Calls

end FreshToken
