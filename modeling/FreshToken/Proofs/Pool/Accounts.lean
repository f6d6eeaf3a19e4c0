import FreshToken.Proofs.Pool.Places
/-!
# The accounts of a pool

What the counters of a pool say, against its log.  A step is counted after it was taken, so each
counter lags behind the log by the borrowers that have yet to count.  Everything that left the idle
list or was handed in came back, is out, or was lost.
-/

namespace FreshToken.SharedPool

variable {α : Type} {k : BufferKind α} {s s' : SharedPool α} {es new : List (Signal α)}

/-! ## What is counted -/

/-- What a signal means for the number of buffers. -/
inductive Deed where
  /-- The idle list was empty. -/
  | missed
  | taken
  | kept
  | refused
  | lost
  | handedIn
  deriving DecidableEq

def Signal.deed? : Signal α → Option Deed
  | .looked _ none => some .missed
  | .looked _ (some _) => some .taken
  | .kept _ _ => some .kept
  | .refused _ _ => some .refused
  | .lost _ _ => some .lost
  | .handedIn _ _ => some .handedIn
  | _ => none

def times (d : Deed) (es : List (Signal α)) : Nat := (es.filterMap Signal.deed?).count d

theorem times_append (d : Deed) (es new : List (Signal α)) :
    times d (es ++ new) = times d es + times d new := by
  rw [times, List.filterMap_append, List.count_append, ← times, ← times]

theorem times_eq_zero {d : Deed} (h : ∀ e ∈ es, e.deed? ≠ some d) : times d es = 0 := by
  apply List.count_eq_zero.2
  intro hd
  obtain ⟨e, he, hdeed⟩ := List.mem_filterMap.1 hd
  exact h e he hdeed

theorem not_mem_of_times_eq_zero {e : Signal α} {d : Deed} (h : times d es = 0)
    (hdeed : e.deed? = some d) : e ∉ es :=
  fun he => List.count_eq_zero.1 h (List.mem_filterMap.2 ⟨e, he, hdeed⟩)

def Borrower.isUncounted : Borrower α → Bool
  | .found _ none => true
  | _ => false

def Borrower.isShort : Borrower α → Bool
  | .found _ none | .building _ => true
  | _ => false

def Borrower.isTurnedAway : Borrower α → Bool
  | .refused _ => true
  | _ => false

/-- A borrower to which a buffer is lent: it has asked the idle list for one, and the list has yet
to take it back or to refuse it. -/
def Borrower.isOut : Borrower α → Bool
  | .found _ _ | .building _ | .owner _ | .guard _ | .returning _ | .emptied _ => true
  | .asking _ | .refused _ | .gone => false

def out (s : SharedPool α) : Nat := s.borrowers.countP Borrower.isOut

theorem countP_set {β : Type} {l : List β} {i : Nat} {x : β} (h : l[i]? = some x) (y : β)
    (p : β → Bool) : (l.set i y).countP p + [x].countP p = l.countP p + [y].countP p := by
  induction l generalizing i with
  | nil => cases h
  | cons z rest ih =>
    cases i with
    | zero =>
      cases h
      simp only [List.set_cons_zero, List.countP_cons, List.countP_nil]
      omega
    | succ i =>
      have hrest := ih h
      simp only [List.set_cons_succ, List.countP_cons] at hrest ⊢
      omega

/-! ## The books are kept -/

/-- The counters of a pool and the number of its buffers, by what its log says. -/
structure Books (s : SharedPool α) (es : List (Signal α)) : Prop where
  issued : s.issued = s.built + times .handedIn es
  built : s.built + s.borrowers.countP Borrower.isShort = times .missed es
  created : s.pool.created + s.borrowers.countP Borrower.isUncounted = times .missed es
  discarded : s.pool.discarded + s.borrowers.countP Borrower.isTurnedAway = times .refused es
  idle : s.pool.idle.length + times .taken es = times .kept es
  out : times .missed es + times .taken es + times .handedIn es =
    times .kept es + times .refused es + s.out + times .lost es

theorem books_start (capacity : Nat) : Books (start (α := α) capacity) [] :=
  ⟨rfl, rfl, rfl, rfl, rfl, rfl⟩

/-- What a step adds to both sides, when some borrowers take the place of others. -/
theorem Books.change (before after : List (Borrower α)) (hb : Books s es)
    (borrowers : ∀ p, s'.borrowers.countP p + before.countP p =
      s.borrowers.countP p + after.countP p)
    (issued : s'.issued + s.built = s.issued + s'.built + times .handedIn new)
    (built : s'.built + after.countP Borrower.isShort =
      s.built + before.countP Borrower.isShort + times .missed new)
    (created : s'.pool.created + after.countP Borrower.isUncounted =
      s.pool.created + before.countP Borrower.isUncounted + times .missed new)
    (discarded : s'.pool.discarded + after.countP Borrower.isTurnedAway =
      s.pool.discarded + before.countP Borrower.isTurnedAway + times .refused new)
    (idle : s'.pool.idle.length + times .taken new = s.pool.idle.length + times .kept new)
    (out : times .missed new + times .taken new + times .handedIn new +
        before.countP Borrower.isOut =
      times .kept new + times .refused new + times .lost new + after.countP Borrower.isOut) :
    Books s' (es ++ new) := by
  have hshort := borrowers Borrower.isShort
  have huncounted := borrowers Borrower.isUncounted
  have haway := borrowers Borrower.isTurnedAway
  have hout := borrowers Borrower.isOut
  constructor
  case issued =>
    have hold := hb.issued
    rw [times_append]
    omega
  case built =>
    have hold := hb.built
    rw [times_append]
    omega
  case created =>
    have hold := hb.created
    rw [times_append]
    omega
  case discarded =>
    have hold := hb.discarded
    rw [times_append]
    omega
  case idle =>
    have hold := hb.idle
    rw [times_append, times_append]
    omega
  case out =>
    have hold := hb.out
    simp only [times_append, SharedPool.out] at hold ⊢
    omega

theorem Books.set {i : Nat} {x y : Borrower α} (hb : Books s es)
    (hx : s.borrowers[i]? = some x) (borrowers : s'.borrowers = s.borrowers.set i y)
    (issued : s'.issued + s.built = s.issued + s'.built + times .handedIn new)
    (built : s'.built + [y].countP Borrower.isShort =
      s.built + [x].countP Borrower.isShort + times .missed new)
    (created : s'.pool.created + [y].countP Borrower.isUncounted =
      s.pool.created + [x].countP Borrower.isUncounted + times .missed new)
    (discarded : s'.pool.discarded + [y].countP Borrower.isTurnedAway =
      s.pool.discarded + [x].countP Borrower.isTurnedAway + times .refused new)
    (idle : s'.pool.idle.length + times .taken new = s.pool.idle.length + times .kept new)
    (out : times .missed new + times .taken new + times .handedIn new + [x].countP Borrower.isOut =
      times .kept new + times .refused new + times .lost new + [y].countP Borrower.isOut) :
    Books s' (es ++ new) :=
  hb.change [x] [y] (fun p => borrowers ▸ countP_set hx y p) issued built created discarded idle out

/-- Nobody is in the middle of taking a buffer or of giving one back. -/
def Borrower.isResting : Borrower α → Bool
  | .asking _ | .owner _ | .guard _ | .gone => true
  | .found _ _ | .building _ | .returning _ | .emptied _ | .refused _ => false

theorem Borrower.settled_of_isResting {x : Borrower α} (h : x.isResting) :
    ¬ x.isShort ∧ ¬ x.isUncounted ∧ ¬ x.isTurnedAway := by
  cases x <;> simp [isResting, isShort, isUncounted, isTurnedAway] at h ⊢

theorem Books.rest (hb : Books s es) (hrest : ∀ x ∈ s.borrowers, x.isResting) :
    s.built = times .missed es ∧ s.pool.created = times .missed es ∧
      s.pool.discarded = times .refused es := by
  have hshort : s.borrowers.countP Borrower.isShort = 0 :=
    List.countP_eq_zero.2 fun x hx => (Borrower.settled_of_isResting (hrest x hx)).1
  have huncounted : s.borrowers.countP Borrower.isUncounted = 0 :=
    List.countP_eq_zero.2 fun x hx => (Borrower.settled_of_isResting (hrest x hx)).2.1
  have haway : s.borrowers.countP Borrower.isTurnedAway = 0 :=
    List.countP_eq_zero.2 fun x hx => (Borrower.settled_of_isResting (hrest x hx)).2.2
  have hbuilt := hb.built
  have hcreated := hb.created
  have hdiscarded := hb.discarded
  omega

theorem Step.books {Empty : α → Prop} (h : Step k s s' new) (hs : Sound Empty s)
    (hb : Books s es) : Books s' (es ++ new) := by
  cases h with
  | spent hspent => exact (hs.borrower hspent).elim
  | read => exact hb.change [] [] (fun p => rfl) rfl rfl rfl rfl rfl rfl
  | ask =>
    exact hb.change [] [_] (fun p => List.countP_append) rfl rfl rfl rfl rfl rfl
  | handIn =>
    refine hb.change [] [_] (fun p => List.countP_append) ?_ rfl rfl rfl rfl rfl
    exact Nat.add_right_comm _ _ _
  | take hasking hidle =>
    refine hb.set hasking rfl rfl rfl rfl rfl ?_ rfl
    rw [hidle]
    rfl
  | @build i loan hx =>
    have hissued : s.issued + 1 + s.built = s.issued + (s.built + 1) := by omega
    cases loan <;> exact hb.set hx rfl hissued rfl rfl rfl rfl rfl
  | @reuse i loan b hx | @write i loan b content hx =>
    cases loan <;> exact hb.set hx rfl rfl rfl rfl rfl rfl rfl
  | miss hx | create hx | reset hx | keep hx | refuse hx | discard hx | release hx | lose hx
  | drop hx | detach hx => exact hb.set hx rfl rfl rfl rfl rfl rfl rfl

theorem Reached.books {capacity : Nat} (h : Reached k capacity s es) : Books s es := by
  have hboth : Sound (fun _ => True) s ∧ Books s es :=
    h.invariant (P := fun s es => Sound (fun _ => True) s ∧ Books s es)
      ⟨sound_start capacity, books_start capacity⟩
      fun hold hstep => ⟨hold.1.step hstep fun _ => trivial, hstep.books hold.1 hold.2⟩
  exact hboth.2

end FreshToken.SharedPool
