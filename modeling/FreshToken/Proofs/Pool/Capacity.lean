import FreshToken.Pool.Borrowing
import Mathlib.Data.List.Forall2
/-!
# Pools with more room

The same is done to two pools, and one of them has more room than the other.  It then has as many
idle buffers or more, but never more than its extra room, and this bound on both sides is what
carries over from one operation to the next: wherever the larger pool has to build or to drop a
buffer, the smaller one has to as well.  Whoever borrows from them cannot tell them apart.
-/

namespace FreshToken.Pool

variable {α β : Type} {k : BufferKind α} {look : α → β} {blank : β} {c₁ c₂ : Nat}

/-! ## One pool -/

section
variable {p : Pool α} {b : α} {rest : List α}

theorem acquire_of_nil (k : BufferKind α) (h : p.idle = []) :
    p.acquire k = (k.fresh (p.created + 1), p.countCreated) := by
  simp only [acquire, pop, h]

theorem acquire_of_cons (k : BufferKind α) (h : p.idle = b :: rest) :
    p.acquire k = (b, { p with idle := rest, reused := p.reused + 1 }) := by
  simp only [acquire, pop, h, countReused]

theorem release_of_lt (k : BufferKind α) (b : α) (h : p.idle.length < p.capacity) :
    p.release k b = ({ p with idle := k.reset b :: p.idle }, []) := by
  simp only [release, stow, push, if_pos h]

theorem release_of_le (k : BufferKind α) (b : α) (h : p.capacity ≤ p.idle.length) :
    p.release k b = (p.countDiscarded, [.overflow p.capacity]) := by
  simp only [release, stow, push, if_neg (Nat.not_lt.2 h)]

/-- A buffer is built when none is idle, and otherwise an idle one is taken. -/
theorem counts_acquire (k : BufferKind α) (p : Pool α) :
    (p.acquire k).2.capacity = p.capacity ∧ (p.acquire k).2.discarded = p.discarded ∧
      (p.idle.length = 0 ∧ (p.acquire k).2.idle.length = 0 ∧
          (p.acquire k).2.created = p.created + 1 ∧ (p.acquire k).2.reused = p.reused ∨
        p.idle.length = (p.acquire k).2.idle.length + 1 ∧
          (p.acquire k).2.created = p.created ∧ (p.acquire k).2.reused = p.reused + 1) := by
  cases hidle : p.idle with
  | nil =>
    rw [acquire_of_nil k hidle]
    exact ⟨rfl, rfl, Or.inl ⟨rfl, congrArg List.length hidle, rfl, rfl⟩⟩
  | cons b rest =>
    rw [acquire_of_cons k hidle]
    exact ⟨rfl, rfl, Or.inr ⟨rfl, rfl, rfl⟩⟩

/-- A buffer that comes back is kept while there is room, and otherwise it is dropped. -/
theorem counts_release (k : BufferKind α) (p : Pool α) (b : α) :
    (p.release k b).1.capacity = p.capacity ∧ (p.release k b).1.created = p.created ∧
      (p.release k b).1.reused = p.reused ∧
      (p.idle.length < p.capacity ∧ (p.release k b).1.idle.length = p.idle.length + 1 ∧
          (p.release k b).1.discarded = p.discarded ∨
        p.capacity ≤ p.idle.length ∧ (p.release k b).1.idle.length = p.idle.length ∧
          (p.release k b).1.discarded = p.discarded + 1) := by
  rcases Nat.lt_or_ge p.idle.length p.capacity with hroom | hfull
  · rw [release_of_lt k b hroom]
    exact ⟨rfl, rfl, rfl, Or.inl ⟨hroom, rfl, rfl⟩⟩
  · rw [release_of_le k b hfull]
    exact ⟨rfl, rfl, rfl, Or.inr ⟨hfull, rfl, rfl⟩⟩

/-- New buffers and emptied ones look blank, and how a buffer looks after something was written to
it depends only on how it looked before. -/
structure Blanks (k : BufferKind α) (look : α → β) (blank : β) : Prop where
  fresh : ∀ n, look (k.fresh n) = blank
  reset : ∀ b, look (k.reset b) = blank
  append : ∀ (b c : α) (text : String), look b = look c →
    look (k.append b text) = look (k.append c text)

def Clean (look : α → β) (blank : β) (p : Pool α) : Prop := ∀ b ∈ p.idle, look b = blank

theorem clean_empty (capacity : Nat) : Clean look blank (empty capacity : Pool α) := by
  intro b hb
  cases hb

theorem Clean.acquire (hk : Blanks k look blank) (h : Clean look blank p) :
    look (p.acquire k).1 = blank ∧ Clean look blank (p.acquire k).2 := by
  cases hidle : p.idle with
  | nil =>
    rw [acquire_of_nil k hidle]
    exact ⟨hk.fresh _, h⟩
  | cons b rest =>
    rw [acquire_of_cons k hidle]
    have hall : ∀ c ∈ b :: rest, look c = blank := hidle ▸ h
    exact ⟨hall b List.mem_cons_self, fun c hc => hall c (List.mem_cons_of_mem _ hc)⟩

theorem Clean.release (hk : Blanks k look blank) (h : Clean look blank p) (b : α) :
    Clean look blank (p.release k b).1 := by
  rcases Nat.lt_or_ge p.idle.length p.capacity with hroom | hfull
  · rw [release_of_lt k b hroom]
    intro c hc
    rcases List.mem_cons.1 hc with rfl | hc
    · exact hk.reset b
    · exact h c hc
  · rw [release_of_le k b hfull]
    exact h

end

/-! ## Two pools -/

/-- The second pool has more room than the first, and that has cost nothing so far. -/
structure Roomier (c₁ c₂ : Nat) (p q : Pool α) : Prop where
  left : p.capacity = c₁
  right : q.capacity = c₂
  idle_le : p.idle.length ≤ q.idle.length
  /-- It never keeps more beyond the first one than its extra room. -/
  gap_le : q.idle.length - p.idle.length ≤ c₂ - c₁
  created_le : q.created ≤ p.created
  reused_le : p.reused ≤ q.reused
  discarded_le : q.discarded ≤ p.discarded
  /-- Both were asked for the same number of buffers. -/
  asked : p.created + p.reused = q.created + q.reused
  /-- The same number of buffers came back to both. -/
  returned : p.idle.length + p.reused + p.discarded = q.idle.length + q.reused + q.discarded

theorem roomier_empty (c₁ c₂ : Nat) :
    Roomier c₁ c₂ (empty c₁ : Pool α) (empty c₂ : Pool α) where
  left := rfl
  right := rfl
  idle_le := Nat.le_refl _
  gap_le := Nat.zero_le _
  created_le := Nat.le_refl _
  reused_le := Nat.le_refl _
  discarded_le := Nat.le_refl _
  asked := rfl
  returned := rfl

section
variable {p q : Pool α}

theorem Roomier.acquire (k : BufferKind α) (h : Roomier c₁ c₂ p q) :
    Roomier c₁ c₂ (p.acquire k).2 (q.acquire k).2 := by
  obtain ⟨hleft, hright, hidle, hgap, hcreated, hreused, hdiscarded, hasked, hreturned⟩ := h
  obtain ⟨hc, hd, hcounts⟩ := counts_acquire k p
  obtain ⟨hc', hd', hcounts'⟩ := counts_acquire k q
  -- If the first list is empty and the second is not, the lead shrinks; the reverse cannot be.
  constructor <;> omega

/-- The buffers that come back to the two pools need not be the same. -/
theorem Roomier.release (k : BufferKind α) (hle : c₁ ≤ c₂) (h : Roomier c₁ c₂ p q) (b c : α) :
    Roomier c₁ c₂ (p.release k b).1 (q.release k c).1 := by
  obtain ⟨hleft, hright, hidle, hgap, hcreated, hreused, hdiscarded, hasked, hreturned⟩ := h
  obtain ⟨hc, hcr, hre, hcounts⟩ := counts_release k p b
  obtain ⟨hc', hcr', hre', hcounts'⟩ := counts_release k q c
  -- If the second list is full, the bound on its lead makes the first one full too.
  constructor <;> omega

end

/-! ## Benches -/

/-- What is done to a pool: by its borrowers, or by others who give it a buffer from elsewhere. -/
inductive Deal (α : Type) where
  | act (a : Action)
  | handIn (b : α)

/-- What the holder of a slot can see. -/
def Slot.view (look : α → β) : Slot α → Slot β
  | .plain b => .plain (look b)
  | .lease b => .lease (look b)
  | .gone => .gone

/-- What a borrower learns, apart from texts that show the numbers of the pool. -/
def Reply.view (look : α → β) : Reply α → Reply β
  | .nothing => .nothing
  | .buffer b => .buffer (look b)
  | .gone => .gone
  | .notALease => .notALease
  | .unwound => .unwound
  | .shown _ => .shown ""

theorem Reply.view_shown (look : α → β) (text text' : String) :
    (Reply.shown text).view look = (Reply.shown text').view look := rfl

/-- Slots that look alike hold the same kind of thing. -/
theorem Slot.alike_cases {s t : Slot α} (h : s.view look = t.view look) :
    (∃ b c, s = .plain b ∧ t = .plain c ∧ look b = look c) ∨
      (∃ b c, s = .lease b ∧ t = .lease c ∧ look b = look c) ∨ (s = .gone ∧ t = .gone) := by
  cases s with
  | plain b =>
    cases t with
    | plain c => exact Or.inl ⟨b, c, rfl, rfl, Slot.plain.inj h⟩
    | lease c | gone => cases h
  | lease b =>
    cases t with
    | lease c => exact Or.inr (Or.inl ⟨b, c, rfl, rfl, Slot.lease.inj h⟩)
    | plain c | gone => cases h
  | gone =>
    cases t with
    | gone => exact Or.inr (Or.inr ⟨rfl, rfl⟩)
    | plain c | lease c => cases h

namespace Bench

def deal (k : BufferKind α) (w : Bench α) : Deal α → Bench α × Reply α
  | .act a => act k w a
  | .handIn b => (w.giveBack k b, .nothing)

def trade (k : BufferKind α) (w : Bench α) : List (Deal α) → List (Reply α × Bench α)
  | [] => []
  | d :: rest => ((w.deal k d).2, (w.deal k d).1) :: trade k (w.deal k d).1 rest

/-- Without buffers from elsewhere these are the runs of borrowers. -/
theorem trade_act (k : BufferKind α) (w : Bench α) (actions : List Action) :
    w.trade k (actions.map .act) = w.run k actions := by
  induction actions generalizing w with
  | nil => rfl
  | cons a rest ih =>
    rw [List.map_cons, trade, run, ih]
    rfl

/-- The second bench has a pool with more room, and its borrowers hold what those of the first one
hold. -/
structure Alongside (look : α → β) (blank : β) (c₁ c₂ : Nat) (v w : Bench α) : Prop where
  pools : Roomier c₁ c₂ v.pool w.pool
  left : Clean look blank v.pool
  right : Clean look blank w.pool
  slots : v.slots.map (Slot.view look) = w.slots.map (Slot.view look)

theorem alongside_start (look : α → β) (blank : β) (c₁ c₂ : Nat) :
    Alongside look blank c₁ c₂ (start c₁) (start c₂) :=
  ⟨roomier_empty c₁ c₂, clean_empty c₁, clean_empty c₂, rfl⟩

section
variable {v w : Bench α}

theorem Alongside.slot (h : Alongside look blank c₁ c₂ v w) (i : Nat) :
    (v.slot i).view look = (w.slot i).view look := by
  have hview (x : Bench α) :
      (x.slot i).view look = ((x.slots.map (Slot.view look))[i]?).getD .gone := by
    rw [Bench.slot, List.getElem?_map]
    cases x.slots[i]? <;> rfl
  rw [hview, hview, h.slots]

theorem Alongside.setSlot {s t : Slot α} (h : Alongside look blank c₁ c₂ v w) (i : Nat)
    (hs : s.view look = t.view look) :
    Alongside look blank c₁ c₂ (v.setSlot i s) (w.setSlot i t) :=
  ⟨h.pools, h.left, h.right, by
    rw [Bench.setSlot, Bench.setSlot, List.map_set, List.map_set, h.slots, hs]⟩

theorem Alongside.giveBack (hk : Blanks k look blank) (hle : c₁ ≤ c₂)
    (h : Alongside look blank c₁ c₂ v w) (b c : α) :
    Alongside look blank c₁ c₂ (v.giveBack k b) (w.giveBack k c) :=
  ⟨h.pools.release k hle b c, h.left.release hk b, h.right.release hk c, h.slots⟩

/-- Both borrowers are handed a buffer that looks blank, and hold it in a new slot. -/
theorem Alongside.handOut (hk : Blanks k look blank) (h : Alongside look blank c₁ c₂ v w)
    (slot : α → Slot α) (hslot : ∀ b c, look b = look c → (slot b).view look = (slot c).view look) :
    look (v.pool.acquire k).1 = look (w.pool.acquire k).1 ∧
      Alongside look blank c₁ c₂
        { v with pool := (v.pool.acquire k).2,
                 slots := v.slots ++ [slot (v.pool.acquire k).1] }
        { w with pool := (w.pool.acquire k).2,
                 slots := w.slots ++ [slot (w.pool.acquire k).1] } := by
  obtain ⟨hleft, hleft'⟩ := h.left.acquire hk
  obtain ⟨hright, hright'⟩ := h.right.acquire hk
  have hlook : look (v.pool.acquire k).1 = look (w.pool.acquire k).1 := hleft.trans hright.symm
  refine ⟨hlook, h.pools.acquire k, hleft', hright', ?_⟩
  rw [List.map_append, List.map_append, h.slots, List.map_singleton, List.map_singleton,
    hslot _ _ hlook]

/-- What is done to both benches is answered alike, and leaves them alike. -/
theorem Alongside.deal (hk : Blanks k look blank) (hle : c₁ ≤ c₂)
    (h : Alongside look blank c₁ c₂ v w) (d : Deal α) :
    (v.deal k d).2.view look = (w.deal k d).2.view look ∧
      Alongside look blank c₁ c₂ (v.deal k d).1 (w.deal k d).1 := by
  cases d with
  | handIn b => exact ⟨rfl, h.giveBack hk hle b b⟩
  | act a =>
    cases a with
    | acquire =>
      obtain ⟨hlook, hafter⟩ := h.handOut hk .plain fun b c hbc => congrArg Slot.plain hbc
      exact ⟨congrArg Reply.buffer hlook, hafter⟩
    | lease =>
      obtain ⟨hlook, hafter⟩ := h.handOut hk .lease fun b c hbc => congrArg Slot.lease hbc
      exact ⟨congrArg Reply.buffer hlook, hafter⟩
    | write i text =>
      simp only [Bench.deal, act]
      obtain ⟨b, c, hv, hw, hbc⟩ | ⟨b, c, hv, hw, hbc⟩ | ⟨hv, hw⟩ := Slot.alike_cases (h.slot i)
      · rw [hv, hw]
        have hafter := hk.append b c text hbc
        exact ⟨congrArg Reply.buffer hafter, h.setSlot i (congrArg Slot.plain hafter)⟩
      · rw [hv, hw]
        have hafter := hk.append b c text hbc
        exact ⟨congrArg Reply.buffer hafter, h.setSlot i (congrArg Slot.lease hafter)⟩
      · rw [hv, hw]
        exact ⟨rfl, h⟩
    | release i =>
      simp only [Bench.deal, act]
      obtain ⟨b, c, hv, hw, _⟩ | ⟨b, c, hv, hw, _⟩ | ⟨hv, hw⟩ := Slot.alike_cases (h.slot i)
      · rw [hv, hw]
        exact ⟨rfl, (h.setSlot i rfl).giveBack hk hle b c⟩
      · rw [hv, hw]
        exact ⟨rfl, (h.setSlot i rfl).giveBack hk hle b c⟩
      · rw [hv, hw]
        exact ⟨rfl, h⟩
    | detach i =>
      simp only [Bench.deal, act]
      obtain ⟨b, c, hv, hw, _⟩ | ⟨b, c, hv, hw, hbc⟩ | ⟨hv, hw⟩ := Slot.alike_cases (h.slot i)
      · rw [hv, hw]
        exact ⟨rfl, h⟩
      · rw [hv, hw]
        exact ⟨congrArg Reply.buffer hbc, h.setSlot i (congrArg Slot.plain hbc)⟩
      · rw [hv, hw]
        exact ⟨rfl, h⟩
    | forget i => exact ⟨rfl, h.setSlot i rfl⟩
    | unwind text =>
      have hafter : Alongside look blank c₁ c₂ { v with pool := (v.pool.acquire k).2 }
          { w with pool := (w.pool.acquire k).2 } :=
        ⟨h.pools.acquire k, (h.left.acquire hk).2, (h.right.acquire hk).2, h.slots⟩
      exact ⟨rfl, hafter.giveBack hk hle _ _⟩
    | inspect i =>
      simp only [Bench.deal, act]
      obtain ⟨b, c, hv, hw, _⟩ | ⟨b, c, hv, hw, _⟩ | ⟨hv, hw⟩ := Slot.alike_cases (h.slot i)
      all_goals
        rw [hv, hw]
        exact ⟨Reply.view_shown .., h⟩
    | unknown => exact ⟨rfl, h⟩

theorem Alongside.trade (hk : Blanks k look blank) (hle : c₁ ≤ c₂)
    (h : Alongside look blank c₁ c₂ v w) (deals : List (Deal α)) :
    List.Forall₂
      (fun x y => x.1.view look = y.1.view look ∧ Alongside look blank c₁ c₂ x.2 y.2)
      (v.trade k deals) (w.trade k deals) := by
  induction deals generalizing v w with
  | nil => exact .nil
  | cons d rest ih =>
    obtain ⟨hreply, hafter⟩ := h.deal hk hle d
    exact .cons ⟨hreply, hafter⟩ (ih hafter)

end

/-- More room never costs.  Whatever is done to a pool, at every moment one with more room has at
least as many idle buffers, though not more beyond those of the smaller one than its extra room;
it has built no more buffers, dropped no more and reused no fewer; and every answer that a borrower
gets, and every buffer that it holds, looks the same. -/
theorem room_never_costs (hk : Blanks k look blank) (hle : c₁ ≤ c₂) (deals : List (Deal α)) :
    Roomier c₁ c₂ (start c₁ : Bench α).pool (start c₂ : Bench α).pool ∧
      List.Forall₂
        (fun x y => x.1.view look = y.1.view look ∧
          x.2.slots.map (Slot.view look) = y.2.slots.map (Slot.view look) ∧
          Clean look blank x.2.pool ∧ Clean look blank y.2.pool ∧
          Roomier c₁ c₂ x.2.pool y.2.pool)
        ((start c₁).trade k deals) ((start c₂).trade k deals) := by
  have hstart := alongside_start look blank c₁ c₂ (α := α)
  refine ⟨hstart.pools, (hstart.trade hk hle deals).imp ?_⟩
  rintro x y ⟨hreply, hafter⟩
  exact ⟨hreply, hafter.slots, hafter.left, hafter.right, hafter.pools⟩

/-- Three buffers are out at once and come back, one after it was written to and one by unwinding,
then one comes from elsewhere, and three are asked for again. -/
def rushDeals : List (Deal LabeledBuffer) :=
  [.act .acquire, .act .lease, .act .acquire, .act (.write 1 "half"), .act (.unwind "lost"),
    .act (.release 0), .act (.release 1), .act (.release 2), .handIn ⟨7, 4, "left"⟩,
    .act .acquire, .act .lease, .act .acquire]

theorem blanks_labeledBuffers : Blanks labeledBuffers LabeledBuffer.data "" where
  fresh _ := rfl
  reset _ := rfl
  append b c text h := by
    simp only [labeledBuffers]
    rw [h]

def numbers (w : Bench α) : List Nat :=
  [w.pool.created, w.pool.reused, w.pool.discarded, w.pool.idle.length]

theorem room_never_costs_of_rushDeals :
    1 ≤ 3 ∧ Blanks labeledBuffers LabeledBuffer.data "" ∧
      (((start 1).trade labeledBuffers rushDeals).map fun x => numbers x.2).getLast? =
        some [6, 1, 4, 0] ∧
      (((start 3).trade labeledBuffers rushDeals).map fun x => numbers x.2).getLast? =
        some [4, 3, 2, 0] ∧
      List.Forall₂
        (fun x y => x.1.view LabeledBuffer.data = y.1.view LabeledBuffer.data ∧
          x.2.slots.map (Slot.view LabeledBuffer.data) =
            y.2.slots.map (Slot.view LabeledBuffer.data) ∧
          Clean LabeledBuffer.data "" x.2.pool ∧ Clean LabeledBuffer.data "" y.2.pool ∧
          Roomier 1 3 x.2.pool y.2.pool)
        ((start 1).trade labeledBuffers rushDeals) ((start 3).trade labeledBuffers rushDeals) :=
  ⟨by decide, blanks_labeledBuffers, by rfl, by rfl,
    (room_never_costs blanks_labeledBuffers (by decide) rushDeals).2⟩

end Bench

end FreshToken.Pool
