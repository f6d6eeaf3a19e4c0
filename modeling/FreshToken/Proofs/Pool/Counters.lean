import FreshToken.Proofs.Pool.Accounts
/-!
# What the counters of a pool add up to

The idle list and the counters are changed one after the other, so while borrowers are between the
two the counters lag behind, each by the number of those borrowers and by nothing else.  When nobody
is between the two, the buffers that were asked for are those created and reused, and the buffers
that were given back are those idle, reused and discarded.
-/

namespace FreshToken.SharedPool

open Machine

variable {α : Type} {k : BufferKind α} {s s' : SharedPool α} {es new : List (Signal α)}

/-! ## Operations -/

def Signal.isAsk : Signal α → Bool
  | .asked _ _ => true
  | _ => false

def Signal.isBuild : Signal α → Bool
  | .built _ _ => true
  | _ => false

/-- A buffer is given back by hand, a buffer from elsewhere is given to the pool, or a guard goes
out of scope. -/
def Signal.isReturn : Signal α → Bool
  | .released _ _ | .handedIn _ _ | .dropped _ => true
  | _ => false

def Borrower.isAsking : Borrower α → Bool
  | .asking _ => true
  | _ => false

def Borrower.isReusing : Borrower α → Bool
  | .found _ (some _) => true
  | _ => false

def Borrower.isBuilding : Borrower α → Bool
  | .building _ => true
  | _ => false

def Borrower.isComing : Borrower α → Bool
  | .returning _ | .emptied _ => true
  | _ => false

/-- Nothing that a borrower did to the idle list has yet to be counted. -/
def Borrower.isCounted : Borrower α → Bool
  | .found _ _ | .refused _ => false
  | _ => true

theorem Borrower.lags_of_isCounted {x : Borrower α} (h : x.isCounted) :
    ¬ x.isUncounted ∧ ¬ x.isReusing ∧ ¬ x.isTurnedAway := by
  cases x <;> simp [isCounted, isUncounted, isReusing, isTurnedAway] at h ⊢

theorem countP_isShort (l : List (Borrower α)) :
    l.countP Borrower.isShort = l.countP Borrower.isUncounted + l.countP Borrower.isBuilding := by
  induction l with
  | nil => rfl
  | cons x rest ih =>
    have hx : [x].countP Borrower.isShort =
        [x].countP Borrower.isUncounted + [x].countP Borrower.isBuilding := by
      cases x with
      | found loan buffer? => cases buffer? <;> rfl
      | _ => rfl
    simp only [List.countP_cons, List.countP_nil] at hx ⊢
    omega

/-! ## Every operation reaches the list once -/

structure Traced (s : SharedPool α) (es : List (Signal α)) : Prop where
  asks : es.countP Signal.isAsk =
    s.borrowers.countP Borrower.isAsking + times .missed es + times .taken es
  reused : s.pool.reused + s.borrowers.countP Borrower.isReusing = times .taken es
  builds : es.countP Signal.isBuild = s.built
  returns : es.countP Signal.isReturn =
    s.borrowers.countP Borrower.isComing + times .kept es + times .refused es
  /-- Without room nothing is kept. -/
  kept : s.pool.capacity = 0 → times .kept es = 0

theorem traced_start (capacity : Nat) : Traced (start (α := α) capacity) [] :=
  ⟨rfl, rfl, rfl, rfl, fun _ => rfl⟩

/-- What a step adds to both sides, when some borrowers take the place of others. -/
theorem Traced.change (before after : List (Borrower α)) (ht : Traced s es)
    (borrowers : ∀ p, s'.borrowers.countP p + before.countP p =
      s.borrowers.countP p + after.countP p)
    (capacity : s'.pool.capacity = s.pool.capacity)
    (asks : new.countP Signal.isAsk + before.countP Borrower.isAsking =
      after.countP Borrower.isAsking + times .missed new + times .taken new)
    (reused : s'.pool.reused + after.countP Borrower.isReusing =
      s.pool.reused + before.countP Borrower.isReusing + times .taken new)
    (builds : s'.built = s.built + new.countP Signal.isBuild)
    (returns : new.countP Signal.isReturn + before.countP Borrower.isComing =
      after.countP Borrower.isComing + times .kept new + times .refused new)
    (kept : s.pool.capacity = 0 → times .kept new = 0) : Traced s' (es ++ new) := by
  have hasking := borrowers Borrower.isAsking
  have hreusing := borrowers Borrower.isReusing
  have hcoming := borrowers Borrower.isComing
  constructor
  case asks =>
    have hold := ht.asks
    rw [List.countP_append, times_append, times_append]
    omega
  case reused =>
    have hold := ht.reused
    rw [times_append]
    omega
  case builds =>
    have hold := ht.builds
    rw [List.countP_append]
    omega
  case returns =>
    have hold := ht.returns
    rw [List.countP_append, times_append, times_append]
    omega
  case kept =>
    intro hnone
    rw [capacity] at hnone
    rw [times_append, ht.kept hnone, kept hnone]

theorem Traced.set {i : Nat} {x y : Borrower α} (ht : Traced s es)
    (hx : s.borrowers[i]? = some x) (borrowers : s'.borrowers = s.borrowers.set i y)
    (capacity : s'.pool.capacity = s.pool.capacity)
    (asks : new.countP Signal.isAsk + [x].countP Borrower.isAsking =
      [y].countP Borrower.isAsking + times .missed new + times .taken new)
    (reused : s'.pool.reused + [y].countP Borrower.isReusing =
      s.pool.reused + [x].countP Borrower.isReusing + times .taken new)
    (builds : s'.built = s.built + new.countP Signal.isBuild)
    (returns : new.countP Signal.isReturn + [x].countP Borrower.isComing =
      [y].countP Borrower.isComing + times .kept new + times .refused new)
    (kept : s.pool.capacity = 0 → times .kept new = 0) : Traced s' (es ++ new) :=
  ht.change [x] [y] (fun p => borrowers ▸ countP_set hx y p) capacity asks reused builds returns
    kept

theorem Step.traced {Empty : α → Prop} (h : Step k s s' new) (hs : Sound Empty s)
    (ht : Traced s es) : Traced s' (es ++ new) := by
  cases h with
  | spent hspent => exact (hs.borrower hspent).elim
  | read => exact ht.change [] [] (fun p => rfl) rfl rfl rfl rfl rfl fun _ => rfl
  | ask | handIn =>
    exact ht.change [] [_] (fun p => List.countP_append) rfl rfl rfl rfl rfl fun _ => rfl
  | keep hx hroom =>
    refine ht.set hx rfl rfl rfl rfl rfl rfl fun hnone => ?_
    rw [hnone] at hroom
    exact absurd hroom (Nat.not_lt_zero _)
  | @build i loan hx | @reuse i loan b hx | @write i loan b content hx =>
    cases loan <;> exact ht.set hx rfl rfl rfl rfl rfl rfl fun _ => rfl
  | take hx | miss hx | create hx | reset hx | refuse hx | discard hx | release hx | lose hx
  | drop hx | detach hx => exact ht.set hx rfl rfl rfl rfl rfl rfl fun _ => rfl

theorem Reached.traced {capacity : Nat} (h : Reached k capacity s es) : Traced s es := by
  have hboth : Sound (fun _ => True) s ∧ Traced s es :=
    h.invariant (P := fun s es => Sound (fun _ => True) s ∧ Traced s es)
      ⟨sound_start capacity, traced_start capacity⟩
      fun hold hstep => ⟨hold.1.step hstep fun _ => trivial, hstep.traced hold.1 hold.2⟩
  exact hboth.2

/-! ## What adds up -/

/-- The counters and the idle list, by the operations so far. -/
structure AddsUp (capacity : Nat) (s : SharedPool α) (es : List (Signal α)) : Prop where
  /-- Whoever asked is served by one counter, unless it has yet to look at the list or to count. -/
  asks : s.pool.created + s.pool.reused + s.borrowers.countP Borrower.isAsking +
      s.borrowers.countP Borrower.isUncounted + s.borrowers.countP Borrower.isReusing =
    es.countP Signal.isAsk
  /-- The calls of the factory are over or under way. -/
  builds : s.pool.created = es.countP Signal.isBuild + s.borrowers.countP Borrower.isBuilding
  /-- What was given back is idle, was taken again or is discarded, unless it has yet to come to
  the list or to be counted. -/
  returns : s.pool.idle.length + s.pool.reused + s.pool.discarded +
      s.borrowers.countP Borrower.isComing + s.borrowers.countP Borrower.isReusing +
      s.borrowers.countP Borrower.isTurnedAway =
    es.countP Signal.isReturn
  bounded : s.pool.idle.length ≤ capacity
  /-- Nobody is between its step on the list and its count. -/
  settled : (∀ x ∈ s.borrowers, x.isCounted) →
    s.pool.created + s.pool.reused + s.borrowers.countP Borrower.isAsking =
        es.countP Signal.isAsk ∧
      s.pool.discarded ≤ es.countP Signal.isReturn ∧
      s.pool.idle.length + s.pool.reused + s.pool.discarded +
          s.borrowers.countP Borrower.isComing =
        es.countP Signal.isReturn
  /-- Without room nothing is ever kept. -/
  roomless : capacity = 0 → (∀ i b, .kept i b ∉ es) ∧
    ((∀ x ∈ s.borrowers, x.isCounted) →
      s.pool.discarded + s.borrowers.countP Borrower.isComing = es.countP Signal.isReturn)

theorem counters_add_up {capacity : Nat} {moves : List (Move α)}
    (h : run? (move? k) (start capacity) moves = some (s, es)) : AddsUp capacity s es := by
  have hr : Reached k capacity s es := reached_of_run? h
  have hl := hr.ledger_true
  have ht := hr.traced
  have hb := hr.books
  have hasks := ht.asks
  have hreused := ht.reused
  have hbuilds := ht.builds
  have hreturns := ht.returns
  have hbuilt := hb.built
  have hcreated := hb.created
  have hdiscarded := hb.discarded
  have hidle := hb.idle
  have hshort := countP_isShort s.borrowers
  have hsettled (hrest : ∀ x ∈ s.borrowers, x.isCounted) :
      s.borrowers.countP Borrower.isUncounted = 0 ∧ s.borrowers.countP Borrower.isReusing = 0 ∧
        s.borrowers.countP Borrower.isTurnedAway = 0 :=
    ⟨List.countP_eq_zero.2 fun x hx => (Borrower.lags_of_isCounted (hrest x hx)).1,
      List.countP_eq_zero.2 fun x hx => (Borrower.lags_of_isCounted (hrest x hx)).2.1,
      List.countP_eq_zero.2 fun x hx => (Borrower.lags_of_isCounted (hrest x hx)).2.2⟩
  constructor
  case asks => omega
  case builds => omega
  case returns => omega
  case bounded => exact hl.capacity_eq ▸ hl.sound.bound
  case settled =>
    intro hrest
    have hlags := hsettled hrest
    omega
  case roomless =>
    intro hnone
    have hkept : times .kept es = 0 := ht.kept (hl.capacity_eq.trans hnone)
    refine ⟨fun i b => not_mem_of_times_eq_zero hkept rfl, fun hrest => ?_⟩
    have hlags := hsettled hrest
    omega

/-- A pool with room for one.  It is filled from elsewhere while its first buffer is out, so that
this one finds no room; then the list is emptied, and a buffer that was detached fills it. -/
def churningMoves : List (Move String) :=
  [.ask .lease, .step 0, .step 0, .step 0, .handIn "x", .step 1, .step 1, .leave 0, .step 0,
    .step 0, .ask .plain, .step 2, .step 0, .step 2, .ask .lease, .step 3, .step 3, .step 3,
    .detach 3, .release 3, .step 3, .step 3]

theorem add_up_of_churningMoves :
    ∃ s es, run? (move? textBuffers) (start 1) churningMoves = some (s, es) ∧
      s.pool.created = 2 ∧ s.pool.reused = 1 ∧ s.pool.discarded = 1 ∧ s.pool.idle.length = 1 ∧
      es.countP Signal.isAsk = 3 ∧ es.countP Signal.isReturn = 3 ∧ AddsUp 1 s es := by
  have hruns : (run? (move? textBuffers) (start 1) churningMoves).map
      (fun p => (p.1.pool.created, p.1.pool.reused, p.1.pool.discarded, p.1.pool.idle.length,
        p.2.countP Signal.isAsk, p.2.countP Signal.isReturn)) = some (2, 1, 1, 1, 3, 3) := by rfl
  obtain ⟨⟨s, es⟩, h, heq⟩ := Option.map_eq_some_iff.1 hruns
  simp only [Prod.mk.injEq] at heq
  obtain ⟨hcreated, hreused, hdiscarded, hidle, hasks, hreturns⟩ := heq
  exact ⟨s, es, h, hcreated, hreused, hdiscarded, hidle, hasks, hreturns, counters_add_up h⟩

end FreshToken.SharedPool
