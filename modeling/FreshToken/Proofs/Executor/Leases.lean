import FreshToken.Proofs.Executor.Course
import FreshToken.Proofs.Pool.Places
/-!
# The leases of calls on a pool

A call that waits for its buffer has a borrower that is on its way to an empty one, a call that
waits for the transport has a guard with exactly its body, and a call that ends has a borrower on
its way back.  Nobody else can change that: others keep off these borrowers, and taking the next
step for one of them only brings it further.
-/

namespace FreshToken

open Machine

namespace SharedPool

variable {k : BufferKind (List UInt8)} {s s' : SharedPool (List UInt8)}
  {new : List (Signal (List UInt8))}

/-- A borrower that will have a guard with an empty buffer. -/
def Borrower.Coming : Borrower (List UInt8) → Prop
  | .asking .lease | .found .lease _ | .building .lease => True
  | .guard (some b) => b.content = []
  | _ => False

/-- A borrower that gives its buffer back, or has. -/
def Borrower.Going : Borrower (List UInt8) → Prop
  | .returning _ | .emptied _ | .refused _ | .gone => True
  | _ => False

theorem coming_of_step? {j : Nat} {x : Borrower (List UInt8)} (hs : Sound (· = []) s)
    (hfresh : ∀ n, k.fresh n = []) (hx : s.borrowers[j]? = some x) (coming : x.Coming)
    (h : s.step? k j = some (s', new)) : ∃ y, s'.borrowers[j]? = some y ∧ y.Coming := by
  have hset := fun y => getElem?_set_of_getElem? y hx
  rw [step?, hx] at h
  cases x with
  | asking loan =>
    cases loan with
    | plain => exact coming.elim
    | lease =>
      cases h
      exact ⟨_, hset _, trivial⟩
  | found loan buffer? =>
    cases loan with
    | plain => exact coming.elim
    | lease =>
      cases buffer? with
      | none =>
        cases h
        exact ⟨_, hset _, trivial⟩
      | some b =>
        have hempty : b.content = [] := hs.borrower hx
        cases h
        exact ⟨_, hset _, hempty⟩
  | building loan =>
    cases loan with
    | plain => exact coming.elim
    | lease =>
      cases h
      exact ⟨_, hset _, hfresh _⟩
  | guard buffer? => cases h
  | _ => exact coming.elim

theorem going_of_step? {j : Nat} {x : Borrower (List UInt8)} (hx : s.borrowers[j]? = some x)
    (going : x.Going) (h : s.step? k j = some (s', new)) :
    ∃ y, s'.borrowers[j]? = some y ∧ y.Going := by
  have hset := fun y => getElem?_set_of_getElem? y hx
  rw [step?, hx] at h
  cases x with
  | returning b =>
    cases h
    exact ⟨_, hset _, trivial⟩
  | emptied b =>
    simp only at h
    split at h
    all_goals
      cases h
      exact ⟨_, hset _, trivial⟩
  | refused b =>
    cases h
    exact ⟨_, hset _, trivial⟩
  | gone => cases h
  | _ => exact going.elim

theorem Sound.getD {Empty : List UInt8 → Prop} {m : Move (List UInt8)} (hs : Sound Empty s)
    (hreset : ∀ b, Empty (k.reset b)) : Sound Empty ((s.move? k m).getD (s, [])).1 := by
  cases h : s.move? k m with
  | none => exact hs
  | some p => exact hs.step (step_of_move? h) hreset

theorem length_le_getD (s : SharedPool (List UInt8)) (m : Move (List UInt8)) :
    s.borrowers.length ≤ ((s.move? k m).getD (s, [])).1.borrowers.length := by
  cases h : s.move? k m with
  | none => exact Nat.le_refl _
  | some p => exact length_le_of_move? h

end SharedPool

namespace Calls

variable {k : BufferKind (List UInt8)} {s s' : Calls (SharedPool (List UInt8))}
  {m : Move (SharedPool.Move (List UInt8))}
  {new : List (Signal (SharedPool.Signal (List UInt8)))}

section
variable {p : SharedPool (List UInt8)} {j : Nat} {b : Tagged (List UInt8)}

theorem fill_pooled (content : List UInt8) (h : p.borrowers[j]? = some (.guard (some b))) :
    (Lender.pooled k).fill p j content =
      (p.setBorrower j (.guard (some { b with content := content })),
        [.wrote j { b with content := content }]) := by
  simp only [Lender.pooled, SharedPool.move?, h, Option.getD_some]

theorem drop_pooled (h : p.borrowers[j]? = some (.guard (some b))) :
    (Lender.pooled k).drop p j = (p.setBorrower j (.returning b), [.dropped j]) := by
  simp only [Lender.pooled, SharedPool.move?, h, Option.getD_some]

theorem guard_of_content? {buffer : List UInt8} (h : (Lender.pooled k).content? p j = some buffer) :
    ∃ b, p.borrowers[j]? = some (.guard (some b)) ∧ b.content = buffer := by
  simp only [Lender.pooled] at h
  split at h
  · rename_i b hguard
    cases h
    exact ⟨b, hguard, rfl⟩
  · cases h

theorem numbered_pooled : Numbered (Lender.pooled k) fun p => p.borrowers.length where
  lease p := ⟨rfl, List.length_append⟩
  fill p j content := SharedPool.length_le_getD p (.write j content)
  drop p j := SharedPool.length_le_getD p (.leave j)
  others h := by
    simp only [Lender.pooled] at h
    split at h
    · cases h
    · exact SharedPool.length_le_of_move? h

end

/-- What a call has by how far it has come. -/
def Job.Fits (job : Job) (x : SharedPool.Borrower (List UInt8)) : Prop :=
  match job.progress with
  | .leasing _ => x.Coming
  | .pending _ =>
    ∃ b p, x = .guard (some b) ∧ job.request.payload = some p ∧ b.content = p.encode.1
  | .ending _ _ => x.Going
  | .ended => True

structure Leased (s : Calls (SharedPool (List UInt8))) : Prop where
  sound : SharedPool.Sound (· = []) s.lender
  apart : Apart (fun p => p.borrowers.length) s
  fits : ∀ (n j : Nat) (job : Job), s.jobs[n]? = some job → job.lease? = some j →
    ∃ x, s.lender.borrowers[j]? = some x ∧ job.Fits x
  unleased : ∀ (n : Nat) (q : Request), s.jobs[n]? = some ⟨q, .pending none⟩ → q.payload = none

theorem leased_start (capacity : Nat) : Leased (start (SharedPool.start capacity)) where
  sound := SharedPool.sound_start capacity
  apart := apart_start _
  fits n j job h := by cases h
  unleased n q h := by cases h

section
variable {lender : SharedPool (List UInt8)}

/-- A lease that is untouched still fits its call. -/
theorem fits_append {job : Job} (hs : Leased s)
    (old : ∀ (j : Nat) x, s.lender.borrowers[j]? = some x → lender.borrowers[j]? = some x)
    (own : ∀ j, job.lease? = some j → ∃ x, lender.borrowers[j]? = some x ∧ job.Fits x) :
    ∀ (n j : Nat) (other : Job), (s.jobs ++ [job])[n]? = some other → other.lease? = some j →
      ∃ x, lender.borrowers[j]? = some x ∧ other.Fits x := by
  intro n j other hother hlease
  rcases eq_or_of_append hother with ⟨_, rfl⟩ | ⟨_, hold⟩
  · exact own j hlease
  · obtain ⟨x, hx, hfits⟩ := hs.fits n j other hold hlease
    exact ⟨x, old j x hx, hfits⟩

theorem fits_set {n : Nat} {before after : Job} (hs : Leased s) (job : s.jobs[n]? = some before)
    (others : ∀ (j : Nat) x, before.lease? ≠ some j → s.lender.borrowers[j]? = some x →
      lender.borrowers[j]? = some x)
    (own : ∀ j, after.lease? = some j → ∃ x, lender.borrowers[j]? = some x ∧ after.Fits x) :
    ∀ (m j : Nat) (other : Job), (s.jobs.set n after)[m]? = some other →
      other.lease? = some j → ∃ x, lender.borrowers[j]? = some x ∧ other.Fits x := by
  intro m j other hother hlease
  rcases eq_or_of_set hother with ⟨_, rfl⟩ | ⟨hne, hold⟩
  · exact own j hlease
  · obtain ⟨x, hx, hfits⟩ := hs.fits m j other hold hlease
    refine ⟨x, others j x (fun hsame => ?_) hx, hfits⟩
    exact hne (hs.apart.alone n m j before other job hold hsame hlease)

/-- The guard of a call goes out of scope. -/
theorem fits_drop {n : Nat} {q : Request} {lease? : Option Nat} {after : Progress}
    {result? : Option (Except Error Json.Value)} (hs : Leased s)
    (job : s.jobs[n]? = some ⟨q, .pending lease?⟩) (ending : after = .ending lease? result?) :
    ∀ (m j : Nat) (other : Job), (s.jobs.set n ⟨q, after⟩)[m]? = some other →
      other.lease? = some j → ∃ x,
        (s.drop (Lender.pooled k) lease?).1.lender.borrowers[j]? = some x ∧ other.Fits x := by
  subst ending
  cases lease? with
  | none =>
    apply fits_set hs job (fun j x _ hx => hx)
    intro j hj
    cases hj
  | some i =>
    obtain ⟨x, hx, b, p, rfl, hpayload, hcontent⟩ := hs.fits n i _ job rfl
    have hdrop : (s.drop (Lender.pooled k) (some i)).1.lender =
        s.lender.setBorrower i (.returning b) := by
      rw [drop, drop_pooled hx]
    rw [hdrop]
    refine fits_set hs job (fun j x hne hx => ?_) fun j hj => ?_
    · have hij : i ≠ j := fun heq => hne (by rw [← heq]; rfl)
      rw [SharedPool.setBorrower, List.getElem?_set_ne hij, hx]
    · cases hj
      exact ⟨_, getElem?_set_of_getElem? _ hx, trivial⟩

theorem sound_drop (hs : SharedPool.Sound (· = []) s.lender) (hreset : ∀ b, k.reset b = [])
    (lease? : Option Nat) :
    SharedPool.Sound (· = []) (s.drop (Lender.pooled k) lease?).1.lender := by
  cases lease? with
  | none => exact hs
  | some j => exact hs.getD hreset

/-- A call that waits for its buffer has a guard with an empty one as soon as it has one. -/
theorem Leased.guard {n j : Nat} {q : Request} {buffer : List UInt8} (hs : Leased s)
    (job : s.jobs[n]? = some ⟨q, .leasing j⟩)
    (ready : (Lender.pooled k).content? s.lender j = some buffer) :
    ∃ b, s.lender.borrowers[j]? = some (.guard (some b)) ∧ b.content = [] ∧ buffer = [] := by
  obtain ⟨b, hguard, hbuffer⟩ := guard_of_content? ready
  obtain ⟨x, hx, hfits⟩ := hs.fits n j _ job rfl
  rw [hguard] at hx
  cases hx
  have hempty : b.content = [] := hfits
  exact ⟨b, hguard, hempty, hbuffer.symm.trans hempty⟩

theorem Leased.clean (hs : Leased s) : Clean (Lender.pooled k) s := by
  intro n j q buffer hjob hready
  obtain ⟨_, _, _, hbuffer⟩ := hs.guard hjob hready
  exact hbuffer

/-- What others do to the borrower of a call only brings it further. -/
theorem fits_others {n j : Nat} {job : Job} {m : SharedPool.Move (List UInt8)}
    {es : List (SharedPool.Signal (List UInt8))} (hs : Leased s) (hfresh : ∀ n, k.fresh n = [])
    (hjob : s.jobs[n]? = some job) (hlease : job.lease? = some j)
    (move : (Lender.pooled k).move? s.isLeased s.lender m = some (lender, es)) :
    ∃ x, lender.borrowers[j]? = some x ∧ job.Fits x := by
  obtain ⟨x, hx, hfits⟩ := hs.fits n j job hjob hlease
  have hleased : s.isLeased j = true :=
    List.any_eq_true.2 ⟨job, List.mem_of_getElem? hjob, by simpa using hlease⟩
  simp only [Lender.pooled] at move
  split at move
  · cases move
  · rename_i hfree
    have huntouched : m.target? ≠ some j := fun htarget => hfree (by rw [htarget]; exact hleased)
    -- others can do nothing to the borrower but let it go on
    by_cases hown : m = .step j
    · rw [hown, SharedPool.move?] at move
      obtain ⟨q, progress⟩ := job
      cases progress with
      | leasing i => exact SharedPool.coming_of_step? hs.sound hfresh hx hfits move
      | ending lease? result? => exact SharedPool.going_of_step? hx hfits move
      | pending lease? =>
        obtain ⟨b, p, rfl, _⟩ := hfits
        rw [SharedPool.step?, hx] at move
        cases move
      | ended => cases hlease
    · exact ⟨x, SharedPool.getElem?_of_move? move hx huntouched hown, hfits⟩

theorem Step.unleased (h : Step (Lender.pooled k) s m s' new)
    (hs : ∀ (n : Nat) (q : Request), s.jobs[n]? = some ⟨q, .pending none⟩ → q.payload = none)
    (i : Nat) (r : Request) (hi : s'.jobs[i]? = some ⟨r, .pending none⟩) : r.payload = none := by
  cases h with
  | get hpayload =>
    rcases eq_or_of_append hi with ⟨_, heq⟩ | ⟨_, hold⟩
    · cases heq
      exact hpayload
    · exact hs i r hold
  | post =>
    rcases eq_or_of_append hi with ⟨_, heq⟩ | ⟨_, hold⟩
    · cases heq
    · exact hs i r hold
  | answer | cancel =>
    rw [Calls.set, jobs_drop] at hi
    rcases eq_or_of_set hi with ⟨_, heq⟩ | ⟨_, hold⟩
    · cases heq
    · exact hs i r hold
  | send | spoil | close =>
    rcases eq_or_of_set hi with ⟨_, heq⟩ | ⟨_, hold⟩
    · cases heq
    · exact hs i r hold
  | others => exact hs i r hi

theorem Step.leased (h : Step (Lender.pooled k) s m s' new) (hs : Leased s)
    (hfresh : ∀ n, k.fresh n = []) (hreset : ∀ b, k.reset b = []) : Leased s' := by
  have hapart := h.apart numbered_pooled hs.apart
  have hunleased := h.unleased hs.unleased
  cases h with
  | get =>
    refine ⟨hs.sound, hapart, fits_append hs (fun j x hx => hx) fun j hj => ?_, hunleased⟩
    cases hj
  | post hpayload =>
    refine ⟨hs.sound.getD hreset, hapart, fits_append hs (fun j x hx => ?_) fun j hj => ?_,
      hunleased⟩
    · exact (List.getElem?_append_left (lt_of_getElem? hx)).trans hx
    · cases hj
      exact ⟨_, List.getElem?_concat_length, trivial⟩
  | @send n j q p buffer hjob hpayload hready hformed =>
    obtain ⟨b, hguard, hempty, rfl⟩ := hs.guard hjob hready
    refine ⟨hs.sound.getD hreset, hapart, fits_set hs hjob (fun i x hne hx => ?_) fun i hi => ?_,
      hunleased⟩
    · have hij : j ≠ i := fun heq => hne (by rw [← heq]; rfl)
      rw [fill_pooled _ hguard]
      exact (List.getElem?_set_ne hij).trans hx
    · cases hi
      rw [fill_pooled _ hguard]
      exact ⟨_, getElem?_set_of_getElem? _ hguard, _, p, rfl, hpayload, List.nil_append _⟩
  | @spoil n j q p buffer f hjob hpayload hready hformless =>
    obtain ⟨b, hguard, hempty, rfl⟩ := hs.guard hjob hready
    have hfilled : (s.lender.setBorrower j
        (.guard (some { b with content := [] ++ p.encode.1 }))).borrowers[j]? =
        some (.guard (some { b with content := [] ++ p.encode.1 })) :=
      getElem?_set_of_getElem? _ hguard
    refine ⟨(hs.sound.getD hreset).getD hreset, hapart,
      fits_set hs hjob (fun i x hne hx => ?_) fun i hi => ?_, hunleased⟩
    · have hij : j ≠ i := fun heq => hne (by rw [← heq]; rfl)
      rw [fill_pooled _ hguard, drop_pooled hfilled]
      exact (List.getElem?_set_ne hij).trans ((List.getElem?_set_ne hij).trans hx)
    · cases hi
      rw [fill_pooled _ hguard, drop_pooled hfilled]
      exact ⟨_, getElem?_set_of_getElem? _ hfilled, trivial⟩
  | answer a hjob =>
    refine ⟨sound_drop hs.sound hreset _, hapart, ?_, hunleased⟩
    rw [Calls.set, jobs_drop]
    exact fits_drop hs hjob rfl
  | cancel hjob =>
    refine ⟨sound_drop hs.sound hreset _, hapart, ?_, hunleased⟩
    rw [Calls.set, jobs_drop]
    exact fits_drop hs hjob rfl
  | close hjob =>
    refine ⟨hs.sound, hapart, fits_set hs hjob (fun j x _ hx => hx) fun j hj => ?_, hunleased⟩
    cases hj
  | @others m lender es hmove =>
    refine ⟨?_, hapart, fun n j job hjob hlease => fits_others hs hfresh hjob hlease hmove,
      hunleased⟩
    simp only [Lender.pooled] at hmove
    split at hmove
    · cases hmove
    · exact hs.sound.step (SharedPool.step_of_move? hmove) hreset

theorem Leased.reached (hs : Leased s) (hfresh : ∀ n, k.fresh n = []) (hreset : ∀ b, k.reset b = [])
    (h : Reached (move? (Lender.pooled k)) s s' new) : Leased s' := by
  induction h with
  | start => exact hs
  | step _ hmove ih => exact (step_of_move? hmove).leased ih hfresh hreset

theorem courses_reached {capacity : Nat} {es : List (Signal (SharedPool.Signal (List UInt8)))}
    (hfresh : ∀ n, k.fresh n = []) (hreset : ∀ b, k.reset b = [])
    (h : Reached (move? (Lender.pooled k)) (start (SharedPool.start capacity)) s es) :
    Courses s es := by
  induction h with
  | start => exact courses_start _
  | step hbefore hmove ih =>
    have hs := (leased_start capacity).reached hfresh hreset hbefore
    exact (step_of_move? hmove).courses hs.clean ih

end

end Calls

end FreshToken
