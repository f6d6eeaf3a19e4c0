import FreshToken.Proofs.Pool.Alone
/-!
# Custody of buffers

However many borrowers use a pool, and however their steps are mixed, every buffer is in one place,
comes out empty, and goes back once.
-/

namespace FreshToken.SharedPool

open Machine

variable {α : Type} {k : BufferKind α} {s : SharedPool α} {es : List (Signal α)}

/-- What holds of a shared pool at every moment, with its log so far. -/
structure Custody (k : BufferKind α) (Empty : α → Prop) (capacity : Nat) (s : SharedPool α)
    (es : List (Signal α)) : Prop where
  /-- The buffers that came to be are those that are idle, with a borrower or no more. -/
  placed : ((s.pool.idle ++ s.borrowers.filterMap Borrower.buffer? ++ s.discarded).map
    Tagged.id).Perm (came es)
  distinct : (came es).Nodup
  alone : ∀ (i j : Nat) (x y : Borrower α) (b c : Tagged α), s.borrowers[i]? = some x →
    s.borrowers[j]? = some y → x.buffer? = some b → y.buffer? = some c → b.id = c.id → i = j
  idle_empty : ∀ b ∈ s.pool.idle, Empty b.content
  /-- What is handed out was taken from the idle list or built. -/
  handed : ∀ before i loan b later, es = before ++ .handed i loan b :: later →
    .looked i (some b) ∈ before ∨ .built i b ∈ before
  handed_empty : ∀ i loan b, .handed i loan b ∈ es → Empty b.content
  bounded : s.pool.idle.length ≤ capacity
  guarded : ∀ (i : Nat) (buffer? : Option (Tagged α)),
    s.borrowers[i]? = some (.guard buffer?) → buffer?.isSome
  unbroken : ∀ i, .broken i ∉ es ∧ .improvised i ∉ es
  /-- A guard that is dropped gives its buffer back once, and does so without waiting. -/
  dropped : ∀ before i later, es = before ++ .dropped i :: later →
    ∃ v, turns i before = [.handed .lease v] ∧
      (turns i later = [.returned v] ∨
        turns i later = [] ∧ ∃ b after, b.id = v ∧ GivesBack k s i b after)
  /-- A guard that is detached gives nothing back, though the new owner of the buffer may. -/
  detached : ∀ before i b later, es = before ++ .detached i b :: later →
    turns i before = [.handed .lease b.id] ∧
      (turns i later = [] ∨ turns i later = [.lost] ∨ turns i later = [.released] ∨
        turns i later = [.released, .returned b.id])
  /-- The idle buffer that is taken is the last one that was kept. -/
  newest : ∀ before i buffer? later, es = before ++ .looked i buffer? :: later →
    buffer? = (retained before).head?

theorem turns_split {before later : List (Signal α)} {i : Nat} {e : Signal α} {t : Turn}
    (heq : es = before ++ e :: later) (ht : e.turn? = some (i, t)) :
    turns i es = turns i before ++ t :: turns i later := by
  have hone : turns i [e] = [t] := by simp [turns, ht]
  have hcons : e :: later = [e] ++ later := rfl
  rw [heq, hcons, turns_append, turns_append, hone]
  rfl

theorem life_split {before later : List (Signal α)} {i : Nat} {e : Signal α} {t : Turn} {l : Life}
    (hlife : Life.after? .waiting (turns i es) = some l) (heq : es = before ++ e :: later)
    (ht : e.turn? = some (i, t)) :
    ∃ l₁ l₂, Life.after? .waiting (turns i before) = some l₁ ∧ l₁.next? t = some l₂ ∧
      l₂.after? (turns i later) = some l := by
  rw [turns_split heq ht, Life.after?_append, Option.bind_eq_some_iff] at hlife
  obtain ⟨l₁, hbefore, hafter⟩ := hlife
  rw [Life.after?, Option.bind_eq_some_iff] at hafter
  obtain ⟨l₂, hnext, hlater⟩ := hafter
  exact ⟨l₁, l₂, hbefore, hnext, hlater⟩

section
variable {v : Nat} {l l' : Life} {ts : List Turn}

theorem Life.dropped (h : l.next? .dropped = some l') :
    ∃ v, l = .guarding v ∧ l' = .returning v := by
  cases l with
  | guarding v =>
    cases h
    exact ⟨v, rfl, rfl⟩
  | _ => cases h

theorem Life.detached (h : l.next? (.detached v) = some l') :
    l = .guarding v ∧ l' = .owning v := by
  cases l with
  | guarding w =>
    rw [next?] at h
    by_cases hv : v = w
    · rw [if_pos hv] at h
      cases h
      exact ⟨by rw [hv], by rw [hv]⟩
    · rw [if_neg hv] at h
      cases h
  | _ => cases h

theorem Life.handed (h : Life.after? .waiting ts = some (.guarding v)) :
    ts = [.handed .lease v] := by
  rcases Life.after?_guarding h with ⟨hne, _⟩ | ⟨_, hts⟩
  · cases hne
  · exact hts

end

theorem dropped_once (hlife : ∀ i, Life.after? .waiting (turns i es) = some (s.life i))
    {before later : List (Signal α)} {i : Nat} (heq : es = before ++ .dropped i :: later) :
    ∃ v, turns i before = [.handed .lease v] ∧
      (turns i later = [.returned v] ∨
        turns i later = [] ∧ ∃ b after, b.id = v ∧ GivesBack k s i b after) := by
  obtain ⟨l₁, l₂, hbefore, hnext, hlater⟩ := life_split (hlife i) heq rfl
  obtain ⟨v, rfl, rfl⟩ := Life.dropped hnext
  refine ⟨v, Life.handed hbefore, ?_⟩
  rcases Life.after?_returning hlater with ⟨hnone, hnow⟩ | ⟨hreturned, _⟩
  · exact Or.inr ⟨hnone, givesBack_of_life hnow⟩
  · exact Or.inl hreturned

theorem detached_for_good (hlife : ∀ i, Life.after? .waiting (turns i es) = some (s.life i))
    {before later : List (Signal α)} {i : Nat} {b : Tagged α}
    (heq : es = before ++ .detached i b :: later) :
    turns i before = [.handed .lease b.id] ∧
      (turns i later = [] ∨ turns i later = [.lost] ∨ turns i later = [.released] ∨
        turns i later = [.released, .returned b.id]) := by
  obtain ⟨l₁, l₂, hbefore, hnext, hlater⟩ := life_split (hlife i) heq rfl
  obtain ⟨rfl, rfl⟩ := Life.detached hnext
  exact ⟨Life.handed hbefore, Life.after?_owning hlater⟩

theorem custody {Empty : α → Prop} {capacity : Nat} {moves : List (Move α)}
    (hfresh : ∀ n, Empty (k.fresh n)) (hreset : ∀ b, Empty (k.reset b))
    (h : run? (move? k) (start capacity) moves = some (s, es)) :
    Custody k Empty capacity s es := by
  have hr : Reached k capacity s es := reached_of_run? h
  have hl := hr.ledger hfresh hreset
  have hlife := hr.life hfresh hreset
  exact {
    placed := hl.perm
    distinct := hl.came_nodup
    alone := fun i j x y b c hi hj hx hy => hl.alone hi hj hx hy
    idle_empty := hl.sound.idle
    handed := fun before i loan b later heq => hl.handed before _ later heq i loan b rfl
    handed_empty := hl.handed_empty
    bounded := hl.capacity_eq ▸ hl.sound.bound
    guarded := fun i buffer? hguard => hl.sound.guard hguard
    unbroken := hl.unbroken
    dropped := fun before i later heq => dropped_once hlife heq
    detached := fun before i b later heq => detached_for_good hlife heq
    newest := fun before i buffer? later heq => hl.newest before _ later heq i buffer? rfl }

/-- Two leases of a pool with room for one: both buffers are written to and given back at the same
time, so that one finds no room, and the other is leased again and detached. -/
def crowdedMoves : List (Move String) :=
  [.ask .lease, .ask .lease, .step 0, .step 1, .step 1, .step 0, .step 0, .step 1, .write 0 "a",
    .write 1 "b", .leave 1, .leave 0, .step 0, .step 1, .step 1, .step 0, .step 0, .ask .lease,
    .step 2, .step 2, .detach 2, .handIn "c", .write 2 "d", .release 2]

theorem custody_of_crowdedMoves :
    ∃ s es, run? (move? textBuffers) (start 1) crowdedMoves = some (s, es) ∧
      came es = [0, 1, 2] ∧ turns 1 es = [.handed .lease 1, .dropped, .returned 1] ∧
      turns 2 es = [.handed .lease 1, .detached 1, .released] ∧
      Custody textBuffers (· = "") 1 s es := by
  have hruns : (run? (move? textBuffers) (start 1) crowdedMoves).map
      (fun p => (came p.2, turns 1 p.2, turns 2 p.2)) =
      some ([0, 1, 2], [.handed .lease 1, .dropped, .returned 1],
        [.handed .lease 1, .detached 1, .released]) := by rfl
  obtain ⟨⟨s, es⟩, h, heq⟩ := Option.map_eq_some_iff.1 hruns
  have hcame : came es = [0, 1, 2] := congrArg Prod.fst heq
  have hturns := congrArg Prod.snd heq
  exact ⟨s, es, h, hcame, congrArg Prod.fst hturns, congrArg Prod.snd hturns,
    custody (fun _ => rfl) (fun _ => rfl) h⟩

end FreshToken.SharedPool
