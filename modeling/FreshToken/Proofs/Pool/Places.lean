import FreshToken.Proofs.Pool.Step
import Mathlib.Data.List.Perm.Basic
import Mathlib.Data.List.Count
import Mathlib.Data.List.Nodup
/-!
# Where the buffers of a pool are

A buffer is idle, with one borrower, or no more.  Every step moves at most one buffer, so counting
how often a number occurs in all places shows that no buffer is ever in two of them.  Idle buffers
are empty because only emptied ones are put back, and they are taken in the reverse order.
-/

namespace FreshToken.SharedPool

open Machine

variable {α : Type} {k : BufferKind α} {s s' : SharedPool α} {es new : List (Signal α)}

/-! ## Sound pools -/

/-- What is known of a buffer that is on its way to or from the idle list, and of a guard. -/
def Borrower.Sound (Empty : α → Prop) : Borrower α → Prop
  | .found _ (some b) | .emptied b => Empty b.content
  | .guard none => False
  | _ => True

structure Sound (Empty : α → Prop) (s : SharedPool α) : Prop where
  idle : ∀ b ∈ s.pool.idle, Empty b.content
  borrowers : ∀ x ∈ s.borrowers, x.Sound Empty
  bound : s.pool.idle.length ≤ s.pool.capacity

section
variable {Empty : α → Prop}

theorem sound_start (capacity : Nat) : Sound Empty (start (α := α) capacity) where
  idle b h := by cases h
  borrowers x h := by cases h
  bound := Nat.zero_le _

theorem Loan.sound_borrower (loan : Loan) (b : Tagged α) : (loan.borrower b).Sound Empty := by
  cases loan <;> trivial

theorem Sound.borrower {i : Nat} {x : Borrower α} (hs : Sound Empty s)
    (h : s.borrowers[i]? = some x) : x.Sound Empty :=
  hs.borrowers x (List.mem_of_getElem? h)

theorem Sound.borrowers_set {i : Nat} {x : Borrower α} (hs : Sound Empty s)
    (hx : x.Sound Empty) : ∀ y ∈ s.borrowers.set i x, y.Sound Empty := by
  intro y hy
  rcases List.mem_or_eq_of_mem_set hy with hy | rfl
  · exact hs.borrowers y hy
  · exact hx

theorem Sound.borrowers_append {x : Borrower α} (hs : Sound Empty s) (hx : x.Sound Empty) :
    ∀ y ∈ s.borrowers ++ [x], y.Sound Empty := by
  intro y hy
  rcases List.mem_append.1 hy with hy | hy
  · exact hs.borrowers y hy
  · rw [List.mem_singleton.1 hy]
    exact hx

theorem Sound.guard {i : Nat} {buffer? : Option (Tagged α)} (hs : Sound Empty s)
    (h : s.borrowers[i]? = some (.guard buffer?)) : buffer?.isSome := by
  have hsound := hs.borrower h
  cases buffer? with
  | none => exact hsound.elim
  | some b => rfl

theorem Sound.step (hs : Sound Empty s) (h : Step k s s' new)
    (hreset : ∀ b, Empty (k.reset b)) : Sound Empty s' := by
  cases h with
  | ask loan => exact ⟨hs.idle, hs.borrowers_append trivial, hs.bound⟩
  | @take i loan b rest hasking hidle =>
    have hempty : ∀ c ∈ b :: rest, Empty c.content := hidle ▸ hs.idle
    have hbound : (b :: rest).length ≤ s.pool.capacity := hidle ▸ hs.bound
    rw [List.length_cons] at hbound
    refine ⟨fun c hc => hempty c (List.mem_cons_of_mem b hc),
      hs.borrowers_set (hempty b List.mem_cons_self), ?_⟩
    exact Nat.le_of_succ_le hbound
  | @keep i b hemptied hroom =>
    refine ⟨fun c hc => ?_, hs.borrowers_set trivial, hroom⟩
    rcases List.mem_cons.1 hc with rfl | hc
    · exact hs.borrower hemptied
    · exact hs.idle c hc
  | reset => exact ⟨hs.idle, hs.borrowers_set (hreset _), hs.bound⟩
  | reuse | build | write => exact ⟨hs.idle, hs.borrowers_set (Loan.sound_borrower ..), hs.bound⟩
  | miss | create | refuse | discard | release | lose | drop | detach =>
    exact ⟨hs.idle, hs.borrowers_set trivial, hs.bound⟩
  | read => exact hs
  | handIn content => exact ⟨hs.idle, hs.borrowers_append trivial, hs.bound⟩
  | spent hspent => exact (hs.borrower hspent).elim

theorem Sound.empty_of_handed {i : Nat} {loan : Loan} {b : Tagged α} (hs : Sound Empty s)
    (h : Step k s s' new) (hfresh : ∀ n, Empty (k.fresh n)) (hb : .handed i loan b ∈ new) :
    Empty b.content := by
  cases h with
  | reuse hfound =>
    rw [List.mem_singleton] at hb
    cases hb
    exact hs.borrower hfound
  | build =>
    simp only [List.mem_cons, List.not_mem_nil, or_false, reduceCtorEq, false_or] at hb
    cases hb
    exact hfresh _
  | spent hspent => exact (hs.borrower hspent).elim
  | _ => simp at hb

theorem Sound.unbroken (hs : Sound Empty s) (h : Step k s s' new) (i : Nat) :
    .broken i ∉ new ∧ .improvised i ∉ new := by
  cases h with
  | spent hspent => exact (hs.borrower hspent).elim
  | _ => simp

end

/-! ## Counting places -/

def everywhere (s : SharedPool α) : List (Tagged α) :=
  s.pool.idle ++ s.borrowers.filterMap Borrower.buffer? ++ s.discarded

/-- The buffers that came to be, by the factory or from elsewhere. -/
@[simp] def Signal.came? : Signal α → Option Nat
  | .built _ b | .handedIn _ b => some b.id
  | _ => none

abbrev came (es : List (Signal α)) : List Nat := es.filterMap Signal.came?

def Borrower.id? (x : Borrower α) : Option Nat := x.buffer?.map Tagged.id

@[simp] theorem Loan.id?_borrower (loan : Loan) (b : Tagged α) :
    (loan.borrower b).id? = some b.id := by
  cases loan <;> rfl

def copies (s : SharedPool α) (v : Nat) : Nat :=
  (s.pool.idle.map Tagged.id).count v + (s.borrowers.filterMap Borrower.id?).count v +
    (s.discarded.map Tagged.id).count v

theorem count_everywhere (s : SharedPool α) (v : Nat) :
    (s.everywhere.map Tagged.id).count v = s.copies v := by
  have hheld : (s.borrowers.filterMap Borrower.buffer?).map Tagged.id =
      s.borrowers.filterMap Borrower.id? := List.map_filterMap
  rw [everywhere, List.map_append, List.map_append, hheld, List.count_append, List.count_append,
    copies]

section
variable {l : List (Borrower α)} {i : Nat} {x y : Borrower α}

theorem count_held_set (y : Borrower α) (h : l[i]? = some x) (v : Nat) :
    ((l.set i y).filterMap Borrower.id?).count v + x.id?.toList.count v =
      (l.filterMap Borrower.id?).count v + y.id?.toList.count v := by
  induction l generalizing i with
  | nil => cases h
  | cons z rest ih =>
    cases i with
    | zero =>
      cases h
      rw [List.set_cons_zero, filterMap_cons_toList, filterMap_cons_toList, List.count_append,
        List.count_append]
      omega
    | succ i =>
      have hrest := ih h
      rw [List.set_cons_succ, filterMap_cons_toList, filterMap_cons_toList, List.count_append,
        List.count_append]
      omega

theorem count_held_of_eq (h : l[i]? = some x) (same : y.id? = x.id?) (v : Nat) :
    ((l.set i y).filterMap Borrower.id?).count v = (l.filterMap Borrower.id?).count v := by
  have hset := count_held_set y h v
  rw [same] at hset
  exact Nat.add_right_cancel hset

theorem count_held_of_gain {n : Nat} (h : l[i]? = some x) (before : x.id? = none)
    (after : y.id? = some n) (v : Nat) :
    ((l.set i y).filterMap Borrower.id?).count v =
      (l.filterMap Borrower.id?).count v + [n].count v := by
  have hset := count_held_set y h v
  rw [before, after] at hset
  exact hset

theorem count_held_of_loss {n : Nat} (h : l[i]? = some x) (before : x.id? = some n)
    (after : y.id? = none) (v : Nat) :
    ((l.set i y).filterMap Borrower.id?).count v + [n].count v =
      (l.filterMap Borrower.id?).count v := by
  have hset := count_held_set y h v
  rw [before, after] at hset
  exact hset

end

theorem count_map_cons (b : Tagged α) (l : List (Tagged α)) (v : Nat) :
    ((b :: l).map Tagged.id).count v = (l.map Tagged.id).count v + [b.id].count v := by
  rw [List.map_cons, List.count_cons, List.count_singleton]

/-- A step that moves no buffer. -/
theorem copies_of_eq {i : Nat} {x y : Borrower α} {v : Nat} (idle : s'.pool.idle = s.pool.idle)
    (borrowers : s'.borrowers = s.borrowers.set i y) (discarded : s'.discarded = s.discarded)
    (h : s.borrowers[i]? = some x) (same : y.id? = x.id?) : s'.copies v = s.copies v := by
  rw [copies, copies, idle, borrowers, discarded, count_held_of_eq h same]

/-- A step brings in what its signals say, and otherwise only moves buffers. -/
theorem Step.copies {Empty : α → Prop} (h : Step k s s' new) (hs : Sound Empty s) (v : Nat) :
    s'.copies v = s.copies v + (came new).count v := by
  cases h with
  | spent hspent => exact (hs.borrower hspent).elim
  | read => rfl
  | ask loan =>
    show _ = s.copies v + 0
    simp only [SharedPool.copies, List.filterMap_append, List.count_append]
    rfl
  | handIn content =>
    show _ = s.copies v + [s.issued].count v
    simp only [SharedPool.copies, List.filterMap_append, List.count_append, ← Nat.add_assoc]
    exact Nat.add_right_comm _ _ _
  | @take i loan b rest hasking hidle =>
    have hheld := count_held_of_gain (y := .found loan (some b)) hasking rfl rfl v
    show _ = s.copies v + 0
    simp only [SharedPool.copies, hheld, hidle, count_map_cons]
    omega
  | @keep i b hemptied =>
    have hheld := count_held_of_loss (y := .gone) hemptied rfl rfl v
    show _ = s.copies v + 0
    simp only [SharedPool.copies, count_map_cons, ← hheld]
    omega
  | @build i loan hbuilding =>
    have hheld := count_held_of_gain hbuilding rfl (loan.id?_borrower (s.nextBuilt k)) v
    show _ = s.copies v + [s.issued].count v
    simp only [SharedPool.copies, hheld, ← Nat.add_assoc]
    exact Nat.add_right_comm _ _ _
  | discard hrefused | lose hrefused =>
    have hheld := count_held_of_loss (y := .gone) hrefused rfl rfl v
    show _ = s.copies v + 0
    simp only [SharedPool.copies, Pool.countDiscarded, count_map_cons, ← hheld]
    omega
  | @reuse i loan b hheld | @write i loan b content hheld =>
    exact copies_of_eq rfl rfl rfl hheld (by cases loan <;> rfl)
  | miss hheld | create hheld | reset hheld | refuse hheld | release hheld | drop hheld
  | detach hheld =>
    exact copies_of_eq rfl rfl rfl hheld rfl

theorem Step.came_eq {Empty : α → Prop} (h : Step k s s' new) (hs : Sound Empty s)
    (hcame : came es = List.range s.issued) : came (es ++ new) = List.range s'.issued := by
  rw [came, List.filterMap_append, ← came, hcame]
  cases h with
  | spent hspent => exact (hs.borrower hspent).elim
  | build | handIn => exact List.range_succ.symm
  | _ => exact List.append_nil _

/-! ## Which buffer is next -/

/-- The buffers that were kept and not taken since, the last one in front. -/
def retained (es : List (Signal α)) : List (Tagged α) :=
  es.foldl (fun kept e =>
    match e with
    | .kept _ b => b :: kept
    | .looked _ (some b) => kept.filter (·.id ≠ b.id)
    | _ => kept) []

theorem filter_cons_self {b : Tagged α} {rest : List (Tagged α)}
    (distinct : ((b :: rest).map Tagged.id).Nodup) :
    (b :: rest).filter (·.id ≠ b.id) = rest := by
  rw [List.map_cons, List.nodup_cons] at distinct
  have hrest : rest.filter (·.id ≠ b.id) = rest := by
    apply List.filter_eq_self.2
    intro c hc
    have hne : c.id ≠ b.id := fun heq => distinct.1 (heq ▸ List.mem_map_of_mem hc)
    simpa using hne
  rw [List.filter_cons_of_neg (by simp), hrest]

/-- The idle list is what the log says was kept and not taken since. -/
theorem Step.idle_eq {Empty : α → Prop} (h : Step k s s' new) (hs : Sound Empty s)
    (distinct : (s.pool.idle.map Tagged.id).Nodup) (hidle : s.pool.idle = retained es) :
    s'.pool.idle = retained (es ++ new) := by
  rw [retained, List.foldl_append, ← retained, ← hidle]
  cases h with
  | spent hspent => exact (hs.borrower hspent).elim
  | take hasking hcons =>
    rw [hcons] at distinct ⊢
    exact (filter_cons_self distinct).symm
  | _ => rfl

/-- Who looks at the idle list gets the last buffer that was kept and is still there. -/
theorem Step.newest {Empty : α → Prop} (h : Step k s s' new) (hs : Sound Empty s)
    (hidle : s.pool.idle = retained es) :
    AtEach (fun before e => ∀ i buffer?, e = .looked i buffer? →
      buffer? = (retained (es ++ before)).head?) new := by
  cases h with
  | spent hspent => exact (hs.borrower hspent).elim
  | take hasking hcons =>
    apply atEach_singleton
    intro i buffer? heq
    cases heq
    rw [List.append_nil, ← hidle, hcons, List.head?_cons]
  | miss hasking hnil =>
    apply atEach_singleton
    intro i buffer? heq
    cases heq
    rw [List.append_nil, ← hidle, hnil, List.head?_nil]
  | build =>
    refine atEach_cons (fun i buffer? heq => ?_) (atEach_singleton fun i buffer? heq => ?_)
    · cases heq
    · cases heq
  | create | reset => exact atEach_nil
  | _ =>
    apply atEach_singleton
    intro i buffer? heq
    cases heq

/-! ## What is handed out -/

/-- Who has found a buffer got it from the idle list. -/
def Fetched (s : SharedPool α) (es : List (Signal α)) : Prop :=
  ∀ (i : Nat) (loan : Loan) (b : Tagged α),
    s.borrowers[i]? = some (.found loan (some b)) → .looked i (some b) ∈ es

theorem Step.fetched {Empty : α → Prop} (h : Step k s s' new) (hs : Sound Empty s)
    (hf : Fetched s es) : Fetched s' (es ++ new) := by
  intro i loan b hfound
  cases h with
  | spent hspent => exact (hs.borrower hspent).elim
  | read => exact List.mem_append_left _ (hf i loan b hfound)
  | ask | handIn =>
    rcases eq_or_of_append hfound with ⟨_, heq⟩ | ⟨_, hold⟩
    · cases heq
    · exact List.mem_append_left _ (hf i loan b hold)
  | take =>
    rcases eq_or_of_set hfound with ⟨rfl, heq⟩ | ⟨_, hold⟩
    · cases heq
      exact List.mem_append_right _ List.mem_cons_self
    · exact List.mem_append_left _ (hf i loan b hold)
  | @reuse j loan' c | @build j loan' | @write j loan' c =>
    rcases eq_or_of_set hfound with ⟨_, heq⟩ | ⟨_, hold⟩
    · cases loan' <;> cases heq
    · exact List.mem_append_left _ (hf i loan b hold)
  | _ =>
    rcases eq_or_of_set hfound with ⟨_, heq⟩ | ⟨_, hold⟩
    · cases heq
    · exact List.mem_append_left _ (hf i loan b hold)

/-- Who is handed a buffer took it from the idle list or had it built. -/
theorem Step.handed {Empty : α → Prop} (h : Step k s s' new) (hs : Sound Empty s)
    (hf : Fetched s es) :
    AtEach (fun before e => ∀ i loan b, e = .handed i loan b →
      .looked i (some b) ∈ es ++ before ∨ .built i b ∈ es ++ before) new := by
  cases h with
  | spent hspent => exact (hs.borrower hspent).elim
  | @reuse j loan b hfound =>
    apply atEach_singleton
    intro i loan' c heq
    cases heq
    exact Or.inl (List.mem_append_left _ (hf j loan b hfound))
  | build =>
    refine atEach_cons (fun i loan b heq => ?_) (atEach_singleton fun i loan b heq => ?_)
    · cases heq
    · cases heq
      exact Or.inr (List.mem_append_right _ List.mem_cons_self)
  | create | reset => exact atEach_nil
  | _ =>
    apply atEach_singleton
    intro i loan b heq
    cases heq

/-! ## Every run -/

def Reached (k : BufferKind α) (capacity : Nat) (s : SharedPool α) (es : List (Signal α)) : Prop :=
  Machine.Reached (move? k) (start capacity) s es

theorem Reached.invariant {P : SharedPool α → List (Signal α) → Prop} {capacity : Nat}
    (h : Reached k capacity s es) (first : P (start capacity) [])
    (step : ∀ {s s' : SharedPool α} {es new : List (Signal α)}, P s es → Step k s s' new →
      P s' (es ++ new)) : P s es := by
  unfold Reached at h
  induction h with
  | start => exact first
  | step _ hmove ih => exact step ih (step_of_move? hmove)

structure Ledger (Empty : α → Prop) (capacity : Nat) (s : SharedPool α)
    (es : List (Signal α)) : Prop where
  sound : Sound Empty s
  capacity_eq : s.pool.capacity = capacity
  came_eq : came es = List.range s.issued
  copies_eq : ∀ v, s.copies v = (came es).count v
  idle_eq : s.pool.idle = retained es
  fetched : Fetched s es
  handed : AtEach (fun before e => ∀ i loan b, e = .handed i loan b →
    .looked i (some b) ∈ before ∨ .built i b ∈ before) es
  handed_empty : ∀ i loan b, .handed i loan b ∈ es → Empty b.content
  unbroken : ∀ i, .broken i ∉ es ∧ .improvised i ∉ es
  newest : AtEach (fun before e => ∀ i buffer?, e = .looked i buffer? →
    buffer? = (retained before).head?) es

theorem Step.capacity_eq {Empty : α → Prop} (h : Step k s s' new) (hs : Sound Empty s) :
    s'.pool.capacity = s.pool.capacity := by
  cases h with
  | spent hspent => exact (hs.borrower hspent).elim
  | _ => rfl

section
variable {Empty : α → Prop} {capacity : Nat}

theorem ledger_start : Ledger Empty capacity (start (α := α) capacity) [] where
  sound := sound_start capacity
  capacity_eq := rfl
  came_eq := rfl
  copies_eq _ := rfl
  idle_eq := rfl
  fetched i loan b h := by cases h
  handed := atEach_nil
  handed_empty i loan b hb := by cases hb
  unbroken i := ⟨List.not_mem_nil, List.not_mem_nil⟩
  newest := atEach_nil

theorem Ledger.perm (h : Ledger Empty capacity s es) :
    (s.everywhere.map Tagged.id).Perm (came es) :=
  List.perm_iff_count.2 fun v => (count_everywhere s v).trans (h.copies_eq v)

theorem Ledger.came_nodup (h : Ledger Empty capacity s es) : (came es).Nodup := by
  rw [h.came_eq]
  exact List.nodup_range

theorem Ledger.nodup (h : Ledger Empty capacity s es) : (s.everywhere.map Tagged.id).Nodup :=
  h.perm.nodup_iff.2 h.came_nodup

theorem Ledger.idle_nodup (h : Ledger Empty capacity s es) :
    (s.pool.idle.map Tagged.id).Nodup := by
  have hall := h.nodup
  rw [everywhere, List.append_assoc, List.map_append] at hall
  exact hall.of_append_left

theorem Ledger.step (hl : Ledger Empty capacity s es) (h : Step k s s' new)
    (hfresh : ∀ n, Empty (k.fresh n)) (hreset : ∀ b, Empty (k.reset b)) :
    Ledger Empty capacity s' (es ++ new) where
  sound := hl.sound.step h hreset
  capacity_eq := (h.capacity_eq hl.sound).trans hl.capacity_eq
  came_eq := h.came_eq hl.sound hl.came_eq
  copies_eq v := by
    rw [h.copies hl.sound v, hl.copies_eq v, came, came, came, List.filterMap_append,
      List.count_append]
  idle_eq := h.idle_eq hl.sound hl.idle_nodup hl.idle_eq
  fetched := h.fetched hl.sound hl.fetched
  handed := atEach_append hl.handed (h.handed hl.sound hl.fetched)
  handed_empty i loan b hb := by
    rcases List.mem_append.1 hb with hb | hb
    · exact hl.handed_empty i loan b hb
    · exact hl.sound.empty_of_handed h hfresh hb
  unbroken i := by
    have hnew := hl.sound.unbroken h i
    have hold := hl.unbroken i
    exact ⟨List.not_mem_append hold.1 hnew.1, List.not_mem_append hold.2 hnew.2⟩
  newest := atEach_append hl.newest (h.newest hl.sound hl.idle_eq)

theorem Reached.ledger (h : Reached k capacity s es) (hfresh : ∀ n, Empty (k.fresh n))
    (hreset : ∀ b, Empty (k.reset b)) : Ledger Empty capacity s es :=
  h.invariant ledger_start fun hl hstep => hl.step hstep hfresh hreset

/-- The ledger of buffers of which nothing more is known. -/
theorem Reached.ledger_true (h : Reached k capacity s es) : Ledger (fun _ => True) capacity s es :=
  h.ledger (fun _ => trivial) fun _ => trivial

/-- Two borrowers never have the same buffer. -/
theorem Ledger.alone {i j : Nat} {x y : Borrower α} {b c : Tagged α}
    (h : Ledger Empty capacity s es) (hi : s.borrowers[i]? = some x)
    (hj : s.borrowers[j]? = some y) (hx : x.buffer? = some b) (hy : y.buffer? = some c)
    (same : b.id = c.id) : i = j := by
  by_contra hne
  have hlost := count_held_of_loss (y := .gone) hi (n := b.id) (by rw [Borrower.id?, hx]; rfl) rfl
    b.id
  have hother : (s.borrowers.set i .gone)[j]? = some y := by
    rw [List.getElem?_set_ne hne, hj]
  have hagain := count_held_of_loss (y := .gone) hother (n := b.id)
    (by rw [Borrower.id?, hy, same]; rfl) rfl b.id
  have honce : s.copies b.id ≤ 1 := by
    rw [← count_everywhere]
    exact List.nodup_iff_count_le_one.1 h.nodup b.id
  rw [copies] at honce
  rw [List.count_singleton_self] at hlost hagain
  omega

end

end FreshToken.SharedPool
