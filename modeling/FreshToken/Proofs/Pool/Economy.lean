import FreshToken.Proofs.Pool.Accounts
import Mathlib.Data.List.Infix
import Mathlib.Data.List.MinMax
import Mathlib.Order.Bounds.Defs
import Mathlib.Order.Nat
/-!
# A pool builds what is used at once

A buffer is built only when the idle list is empty, that is, when all that were built are out.  So
there are never more than the most that were out at the same time, as long as none is discarded,
and a full idle list would mean that more were out before than there is room for.
-/

namespace FreshToken.SharedPool

open Machine

variable {α : Type} {k : BufferKind α} {s s' : SharedPool α} {es new : List (Signal α)}

/-! ## The most that was out -/

/-- How many buffers a log leaves out of the pool.  One is out from the look at the idle list that
asks for it until the look that puts it back or finds no room. -/
def lent (es : List (Signal α)) : Nat :=
  times .missed es + times .taken es - (times .kept es + times .refused es)

def peak (es : List (Signal α)) : Nat := (es.inits.map lent).foldr max 0

theorem lent_le_peak {front : List (Signal α)} (h : front <+: es) : lent front ≤ peak es := by
  have hmem : lent front ∈ es.inits.map lent := List.mem_map_of_mem ((List.mem_inits _ _).2 h)
  exact List.le_max_of_le hmem (Nat.le_refl _)

theorem peak_le {n : Nat} (h : ∀ front, front <+: es → lent front ≤ n) : peak es ≤ n := by
  apply List.max_le_of_forall_le
  intro m hm
  obtain ⟨front, hfront, rfl⟩ := List.mem_map.1 hm
  exact h front ((List.mem_inits _ _).1 hfront)

theorem peak_concat (es : List (Signal α)) (e : Signal α) :
    peak (es ++ [e]) = max (peak es) (lent (es ++ [e])) := by
  apply Nat.le_antisymm
  · apply peak_le
    intro front hfront
    rcases List.prefix_concat_iff.1 hfront with rfl | hfront
    · exact Nat.le_max_right _ _
    · exact Nat.le_trans (lent_le_peak hfront) (Nat.le_max_left _ _)
  · apply Nat.max_le.2
    refine ⟨peak_le fun front hfront => ?_, lent_le_peak (List.prefix_refl _)⟩
    exact lent_le_peak (hfront.trans (List.prefix_append es [e]))

/-- Where nothing asks for a buffer, no more are out than before. -/
theorem peak_append (calm : ∀ e ∈ new, e.deed? ≠ some .missed ∧ e.deed? ≠ some .taken) :
    peak (es ++ new) = peak es := by
  induction new using List.reverseRecOn with
  | nil => rw [List.append_nil]
  | append_singleton front e ih =>
    have hfront : peak (es ++ front) = peak es :=
      ih fun x hx => calm x (List.mem_append_left _ hx)
    have hmissed : times .missed [e] = 0 := times_eq_zero fun x hx =>
      (calm x (List.mem_append_right _ hx)).1
    have htaken : times .taken [e] = 0 := times_eq_zero fun x hx =>
      (calm x (List.mem_append_right _ hx)).2
    have hlent : lent (es ++ front ++ [e]) ≤ lent (es ++ front) := by
      simp only [lent, times_append, hmissed, htaken]
      omega
    have hpeak := lent_le_peak (List.prefix_refl (es ++ front))
    rw [← List.append_assoc, peak_concat, ← hfront]
    omega

/-! ## Every buffer that was built was needed -/

/-- Without buffers from elsewhere, what the log leaves out is with a borrower or lost. -/
theorem Books.lent_eq (hb : Books s es) (own : times .handedIn es = 0) :
    lent es = s.out + times .lost es := by
  have hout := hb.out
  rw [lent]
  omega

/-- All that were missing once are out, idle or had no room. -/
theorem Books.missed_eq (hb : Books s es) (own : times .handedIn es = 0) :
    times .missed es = lent es + s.pool.idle.length + times .refused es := by
  have hidle := hb.idle
  have hout := hb.out
  rw [lent]
  omega

structure Thrifty (s : SharedPool α) (es : List (Signal α)) : Prop where
  needed : peak es ≤ times .missed es
  enough : peak es ≤ s.pool.capacity → times .refused es = 0 ∧ times .missed es = peak es

/-- A step that neither asks for a buffer nor finds the list full. -/
theorem Thrifty.calm (ht : Thrifty s es) (capacity : s'.pool.capacity = s.pool.capacity)
    (calm : ∀ e ∈ new, e.deed? ≠ some .missed ∧ e.deed? ≠ some .taken)
    (room : times .refused new = 0) : Thrifty s' (es ++ new) := by
  have hmissed : times .missed new = 0 := times_eq_zero fun e he => (calm e he).1
  constructor
  · rw [peak_append calm, times_append, hmissed]
    exact ht.needed
  · rw [peak_append calm, capacity, times_append, times_append, hmissed, room]
    exact ht.enough

/-- One more buffer is out, and by the books as many as ever are there. -/
theorem Thrifty.looked {e : Signal α} (ht : Thrifty s es)
    (capacity : s'.pool.capacity = s.pool.capacity) (room : times .refused [e] = 0)
    (hb : Books s es) (hb' : Books s' (es ++ [e])) (own : times .handedIn (es ++ [e]) = 0)
    (fits : times .missed [e] = 0 ∨ s.pool.idle = [] ∧ s'.pool.idle = []) :
    Thrifty s' (es ++ [e]) := by
  have hbefore := hb.missed_eq (by rw [times_append] at own; omega)
  have hafter := hb'.missed_eq own
  have hneeded := ht.needed
  rw [times_append] at hafter
  constructor
  · rw [peak_concat, times_append]
    omega
  · intro hroom
    rw [peak_concat, capacity] at hroom
    obtain ⟨hrefused, hmissed⟩ := ht.enough (by omega)
    rw [times_append, room] at hafter
    refine ⟨by rw [times_append, hrefused, room], ?_⟩
    rw [peak_concat, times_append]
    rcases fits with hnone | ⟨hidle, hidle'⟩
    · omega
    · rw [hidle', List.length_nil] at hafter
      omega

theorem Step.thrifty {Empty : α → Prop} (h : Step k s s' new) (hs : Sound Empty s)
    (hb : Books s es) (own : times .handedIn (es ++ new) = 0) (ht : Thrifty s es) :
    Thrifty s' (es ++ new) := by
  have hb' : Books s' (es ++ new) := h.books hs hb
  have hcapacity := h.capacity_eq hs
  cases h with
  | spent hspent => exact (hs.borrower hspent).elim
  | take => exact ht.looked hcapacity rfl hb hb' own (Or.inl rfl)
  | miss hasking hidle => exact ht.looked hcapacity rfl hb hb' own (Or.inr ⟨hidle, hidle⟩)
  | @refuse i b hemptied hfull =>
    have hout : 0 < s.out :=
      List.countP_pos_iff.2 ⟨.emptied b, List.mem_of_getElem? hemptied, rfl⟩
    have hown : times .handedIn es = 0 := by
      rw [times_append] at own
      omega
    have hlent := hb.lent_eq hown
    have hmissed := hb.missed_eq hown
    have hpeak : peak (es ++ [.refused i b]) = peak es := peak_append (by simp [Signal.deed?])
    constructor
    · rw [hpeak, times_append]
      exact Nat.le_add_right_of_le ht.needed
    · -- with so many idle and this one out, there were more than there is room for
      intro hroom
      rw [hpeak] at hroom
      obtain ⟨_, hbuilt⟩ := ht.enough hroom
      have hmore : peak es ≤ s.pool.idle.length := Nat.le_trans hroom hfull
      omega
  | _ => exact ht.calm hcapacity (by simp [Signal.deed?]) rfl

/-! ## Whole runs -/

/-- How many buffers are out at the moments of a run.  A buffer that got lost stays out, and one
that is being built for a borrower is out already. -/
def outs (k : BufferKind α) (capacity : Nat) (moves : List (Move α)) : Set Nat :=
  {n | ∃ front s es, front <+: moves ∧ run? (move? k) (start capacity) front = some (s, es) ∧
    s.out + times .lost es = n}

theorem Step.peak_eq {Empty : α → Prop} (h : Step k s s' new) (hs : Sound Empty s) :
    peak (es ++ new) = max (peak es) (lent (es ++ new)) := by
  have hcalm (calm : ∀ e ∈ new, e.deed? ≠ some .missed ∧ e.deed? ≠ some .taken) :
      peak (es ++ new) = max (peak es) (lent (es ++ new)) := by
    have hlent := lent_le_peak (List.prefix_refl (es ++ new))
    rw [peak_append calm] at hlent ⊢
    exact (Nat.max_eq_left hlent).symm
  cases h with
  | spent hspent => exact (hs.borrower hspent).elim
  | take | miss => exact peak_concat es _
  | _ => exact hcalm (by simp [Signal.deed?])

theorem Reached.thrifty {capacity : Nat} (h : Reached k capacity s es)
    (own : times .handedIn es = 0) : Thrifty s es := by
  unfold Reached at h
  induction h with
  | start => exact ⟨Nat.le_refl _, fun _ => ⟨rfl, rfl⟩⟩
  | step before hmove ih =>
    have hr : Reached k capacity _ _ := before
    have hown := own
    rw [times_append] at hown
    exact (step_of_move? hmove).thrifty hr.ledger_true.sound hr.books own (ih (by omega))

/-- The peak of the log is the most that was out at a moment of the run. -/
theorem isGreatest_peak {capacity : Nat} {moves : List (Move α)}
    (h : run? (move? k) (start capacity) moves = some (s, es)) (own : times .handedIn es = 0) :
    IsGreatest (outs k capacity moves) (peak es) := by
  -- The last move comes off, as the peak before it is that of a run, too.
  induction moves using List.reverseRecOn generalizing s es with
  | nil =>
    cases h
    refine ⟨⟨[], _, _, List.nil_prefix, rfl, rfl⟩, ?_⟩
    rintro n ⟨front, s, es, hfront, hrun, rfl⟩
    rw [List.prefix_nil.1 hfront] at hrun
    cases hrun
    exact Nat.le_refl _
  | append_singleton moves m ih =>
    obtain ⟨s₁, es₁, new, hbefore, hlast, rfl⟩ := of_run?_append h
    have hr₁ : Reached k capacity s₁ es₁ := reached_of_run? hbefore
    have hr : Reached k capacity s (es₁ ++ new) := reached_of_run? h
    have hlent := hr.books.lent_eq own
    have hpeak : peak (es₁ ++ new) = max (peak es₁) (lent (es₁ ++ new)) := by
      obtain ⟨_, _, _, hmove, hnil, rfl⟩ := of_run?_cons hlast
      cases hnil
      rw [List.append_nil]
      exact (step_of_move? hmove).peak_eq hr₁.ledger_true.sound
    have hown := own
    rw [times_append] at hown
    obtain ⟨hmem, hbound⟩ := ih hbefore (by omega)
    rw [hpeak]
    constructor
    · by_cases hnow : peak es₁ ≤ lent (es₁ ++ new)
      · rw [Nat.max_eq_right hnow]
        exact ⟨moves ++ [m], s, es₁ ++ new, List.prefix_refl _, h, hlent.symm⟩
      · rw [Nat.max_eq_left (Nat.le_of_not_le hnow)]
        obtain ⟨front, s₂, es₂, hfront, hrun, heq⟩ := hmem
        exact ⟨front, s₂, es₂, hfront.trans (List.prefix_append _ _), hrun, heq⟩
    · rintro n ⟨front, s₂, es₂, hfront, hrun, rfl⟩
      rcases List.prefix_concat_iff.1 hfront with rfl | hfront
      · obtain ⟨rfl, rfl⟩ := Prod.mk.inj (Option.some.inj (hrun.symm.trans h))
        exact le_max_of_le_right (Nat.le_of_eq hlent.symm)
      · exact le_max_of_le_left (hbound ⟨front, s₂, es₂, hfront, hrun, rfl⟩)

/-- What was built, by the most buffers that were out at once. -/
structure Economy (capacity peak : Nat) (s : SharedPool α) (es : List (Signal α)) : Prop where
  /-- What has yet to be built is already out. -/
  enough : peak ≤ s.built + s.borrowers.countP Borrower.isShort
  counted : s.pool.created + s.borrowers.countP Borrower.isUncounted =
    s.built + s.borrowers.countP Borrower.isShort
  exact_of_room : peak ≤ capacity → s.built + s.borrowers.countP Borrower.isShort = peak ∧
    s.pool.discarded = 0 ∧ ∀ i b, .refused i b ∉ es
  rest : (∀ x ∈ s.borrowers, x.isResting) → s.pool.created = s.built ∧ peak ≤ s.built ∧
    s.built = s.out + times .lost es + s.pool.idle.length + s.pool.discarded
  rest_of_room : peak ≤ capacity → (∀ x ∈ s.borrowers, x.isResting) →
    s.pool.created = peak ∧ s.built = peak ∧ s.pool.discarded = 0 ∧
      s.pool.created = s.out + times .lost es + s.pool.idle.length

theorem times_handedIn (own : ∀ i b, .handedIn i b ∉ es) : times .handedIn es = 0 := by
  apply times_eq_zero
  intro e he hdeed
  cases e with
  | handedIn i b => exact own i b he
  | looked i buffer? => cases buffer? <;> cases hdeed
  | _ => cases hdeed

theorem builds_what_is_used {capacity : Nat} {moves : List (Move α)}
    (h : run? (move? k) (start capacity) moves = some (s, es))
    (own : ∀ i b, .handedIn i b ∉ es) :
    IsGreatest (outs k capacity moves) (peak es) ∧ Economy capacity (peak es) s es := by
  have hr : Reached k capacity s es := reached_of_run? h
  have hown := times_handedIn own
  have hbooks := hr.books
  have hbuilt := hbooks.built
  have hcreated := hbooks.created
  have hdiscarded := hbooks.discarded
  have hmissed := hbooks.missed_eq hown
  have hlent := hbooks.lent_eq hown
  obtain ⟨hneeded, hexact⟩ := hr.thrifty hown
  rw [hr.ledger_true.capacity_eq] at hexact
  refine ⟨isGreatest_peak h hown, ?_⟩
  constructor
  case enough => omega
  case counted => omega
  case exact_of_room =>
    intro hroom
    obtain ⟨hrefused, hpeak⟩ := hexact hroom
    exact ⟨by omega, by omega, fun i b => not_mem_of_times_eq_zero hrefused rfl⟩
  case rest =>
    intro hquiet
    have hrest := hbooks.rest hquiet
    omega
  case rest_of_room =>
    intro hroom hquiet
    have hrest := hbooks.rest hquiet
    have hfits := hexact hroom
    omega

/-- Two leases at the same time, with their steps mixed, and a buffer taken while one of them is
still out. -/
def overlappingMoves : List (Move String) :=
  [.ask .lease, .ask .lease, .step 0, .step 1, .step 1, .step 0, .step 0, .step 1, .write 0 "a",
    .leave 0, .step 0, .step 0, .ask .plain, .step 2, .step 2, .leave 1, .step 1, .step 1,
    .release 2, .step 2, .step 2, .ask .plain, .step 3, .step 3]

theorem economy_of_overlappingMoves :
    ∃ s es, run? (move? textBuffers) (start 2) overlappingMoves = some (s, es) ∧
      peak es = 2 ∧ s.pool.created = 2 ∧ s.out = 1 ∧ s.pool.idle.length = 1 ∧
      IsGreatest (outs textBuffers 2 overlappingMoves) (peak es) ∧ Economy 2 (peak es) s es := by
  have hruns : (run? (move? textBuffers) (start 2) overlappingMoves).map
      (fun p => (peak p.2, times .handedIn p.2, p.1.pool.created, p.1.out,
        p.1.pool.idle.length)) = some (2, 0, 2, 1, 1) := by rfl
  obtain ⟨⟨s, es⟩, h, heq⟩ := Option.map_eq_some_iff.1 hruns
  simp only [Prod.mk.injEq] at heq
  obtain ⟨hpeak, hown, hcreated, hout, hidle⟩ := heq
  exact ⟨s, es, h, hpeak, hcreated, hout, hidle,
    builds_what_is_used h fun i b => not_mem_of_times_eq_zero hown rfl⟩

end FreshToken.SharedPool
