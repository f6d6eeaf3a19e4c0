import FreshToken.Proofs.Pool.Places
/-!
# The lives of borrowers

What happens to a borrower in the order of the log, without what it reads and writes.  A guard is
dropped or detached, one of them and once; what is given back reaches the idle list's door once and
is never given back again.
-/

namespace FreshToken.SharedPool

open Machine

variable {α : Type} {k : BufferKind α} {s s' : SharedPool α} {es new : List (Signal α)}

inductive Turn where
  | handed (loan : Loan) (b : Nat)
  | handedIn (b : Nat)
  | dropped
  | detached (b : Nat)
  | released
  | lost
  /-- The idle list took the buffer or had no room for it. -/
  | returned (b : Nat)
  deriving DecidableEq

def Signal.turn? : Signal α → Option (Nat × Turn)
  | .handed i loan b => some (i, .handed loan b.id)
  | .handedIn i b => some (i, .handedIn b.id)
  | .dropped i => some (i, .dropped)
  | .detached i b => some (i, .detached b.id)
  | .released i _ => some (i, .released)
  | .lost i _ => some (i, .lost)
  | .kept i b | .refused i b => some (i, .returned b.id)
  | _ => none

def turns (i : Nat) (es : List (Signal α)) : List Turn :=
  es.filterMap fun e => (e.turn?.filter (·.1 = i)).map (·.2)

theorem turns_append (i : Nat) (es new : List (Signal α)) :
    turns i (es ++ new) = turns i es ++ turns i new :=
  List.filterMap_append

/-- How far the life of a borrower has come, with the number of its buffer. -/
inductive Life where
  | waiting
  | guarding (b : Nat)
  | owning (b : Nat)
  | returning (b : Nat)
  | over
  deriving DecidableEq

namespace Life

def next? : Life → Turn → Option Life
  | .waiting, .handed .lease b => some (.guarding b)
  | .waiting, .handed .plain b => some (.owning b)
  | .waiting, .handedIn b => some (.returning b)
  | .guarding b, .dropped => some (.returning b)
  | .guarding b, .detached c => if c = b then some (.owning b) else none
  | .owning b, .released => some (.returning b)
  | .owning _, .lost => some .over
  | .returning b, .returned c => if c = b then some .over else none
  | _, _ => none

def after? (l : Life) : List Turn → Option Life
  | [] => some l
  | t :: rest => (l.next? t).bind fun l' => l'.after? rest

theorem after?_append (l : Life) (ts us : List Turn) :
    l.after? (ts ++ us) = (l.after? ts).bind fun l' => l'.after? us := by
  induction ts generalizing l with
  | nil => rfl
  | cons t rest ih =>
    rw [List.cons_append, after?, after?]
    cases l.next? t with
    | none => rfl
    | some l' => exact ih l'

theorem after?_over {ts : List Turn} {l : Life} (h : after? .over ts = some l) :
    ts = [] ∧ l = .over := by
  cases ts with
  | nil =>
    cases h
    exact ⟨rfl, rfl⟩
  | cons t rest => cases t <;> cases h

theorem after?_returning {b : Nat} {ts : List Turn} {l : Life}
    (h : after? (.returning b) ts = some l) :
    (ts = [] ∧ l = .returning b) ∨ (ts = [.returned b] ∧ l = .over) := by
  cases ts with
  | nil =>
    cases h
    exact Or.inl ⟨rfl, rfl⟩
  | cons t rest =>
    cases t with
    | returned c =>
      rw [after?, next?] at h
      by_cases hc : c = b
      · rw [if_pos hc, Option.bind_some] at h
        obtain ⟨rfl, rfl⟩ := after?_over h
        exact Or.inr ⟨by rw [hc], rfl⟩
      · rw [if_neg hc] at h
        cases h
    | _ => cases h

/-- What follows when a buffer without a guard is at hand. -/
theorem after?_owning {b : Nat} {ts : List Turn} {l : Life}
    (h : after? (.owning b) ts = some l) :
    ts = [] ∨ ts = [.lost] ∨ ts = [.released] ∨ ts = [.released, .returned b] := by
  cases ts with
  | nil => exact Or.inl rfl
  | cons t rest =>
    cases t with
    | lost =>
      have hover : after? .over rest = some l := h
      obtain ⟨rfl, _⟩ := after?_over hover
      exact Or.inr (Or.inl rfl)
    | released =>
      have hreturning : after? (.returning b) rest = some l := h
      rcases after?_returning hreturning with ⟨rfl, _⟩ | ⟨rfl, _⟩
      · exact Or.inr (Or.inr (Or.inl rfl))
      · exact Or.inr (Or.inr (Or.inr rfl))
    | _ => cases h

theorem next?_ne_waiting (l : Life) (t : Turn) : l.next? t ≠ some .waiting := by
  cases l <;> cases t <;> simp [next?]
  case waiting.handed loan b => cases loan <;> simp

theorem next?_guarding {l : Life} {t : Turn} {b : Nat} (h : l.next? t = some (.guarding b)) :
    l = .waiting ∧ t = .handed .lease b := by
  cases l <;> cases t <;> simp [next?] at h
  case waiting.handed loan c =>
    cases loan <;> cases h
    exact ⟨rfl, rfl⟩

/-- A guard was handed out, and nothing else has happened to it. -/
theorem after?_guarding {l : Life} {b : Nat} {ts : List Turn}
    (h : l.after? ts = some (.guarding b)) :
    (l = .guarding b ∧ ts = []) ∨ (l = .waiting ∧ ts = [.handed .lease b]) := by
  induction ts generalizing l with
  | nil =>
    cases h
    exact Or.inl ⟨rfl, rfl⟩
  | cons t rest ih =>
    rw [after?, Option.bind_eq_some_iff] at h
    obtain ⟨l', hnext, hrest⟩ := h
    rcases ih hrest with ⟨rfl, rfl⟩ | ⟨rfl, _⟩
    · obtain ⟨rfl, rfl⟩ := next?_guarding hnext
      exact Or.inr ⟨rfl, rfl⟩
    · exact absurd hnext (next?_ne_waiting l t)

end Life

/-! ## Every borrower lives such a life -/

def Borrower.life : Borrower α → Life
  | .asking _ | .found .. | .building _ | .guard none => .waiting
  | .guard (some b) => .guarding b.id
  | .owner b => .owning b.id
  | .returning b | .emptied b => .returning b.id
  | .refused _ | .gone => .over

/-- How far the life of a borrower has come; who has yet to come waits. -/
def life (s : SharedPool α) (i : Nat) : Life := (s.borrowers[i]?.map Borrower.life).getD .waiting

theorem life_of_getElem? {i : Nat} {x : Borrower α} (h : s.borrowers[i]? = some x) :
    s.life i = x.life := by
  rw [life, h]
  rfl

theorem life_set {i j : Nat} {x y : Borrower α} (h : s.borrowers[j]? = some x)
    (set : s'.borrowers = s.borrowers.set j y) (own : x.life.after? (turns j new) = some y.life)
    (others : j ≠ i → turns i new = []) :
    (s.life i).after? (turns i new) = some (s'.life i) := by
  by_cases hne : j = i
  · have hset : s'.borrowers[i]? = some y := by
      rw [set, ← hne, getElem?_set_of_getElem? y h]
    rw [life_of_getElem? (hne ▸ h), life_of_getElem? hset, ← hne, own]
  · have hset : s'.borrowers[i]? = s.borrowers[i]? := by
      rw [set, List.getElem?_set_ne hne]
    rw [others hne, life, life, hset]
    rfl

theorem life_append {i : Nat} {y : Borrower α} (append : s'.borrowers = s.borrowers ++ [y])
    (own : Life.after? .waiting (turns s.borrowers.length new) = some y.life)
    (others : s.borrowers.length ≠ i → turns i new = []) :
    (s.life i).after? (turns i new) = some (s'.life i) := by
  by_cases hne : s.borrowers.length = i
  · have hlast : s'.borrowers[i]? = some y := by
      rw [append, ← hne, List.getElem?_concat_length]
    have hnone : s.life i = .waiting := by
      rw [life, List.getElem?_eq_none (Nat.le_of_eq hne)]
      rfl
    rw [hnone, life_of_getElem? hlast, ← hne, own]
  · have hsame : s'.life i = s.life i := by
      rw [life, life, append]
      rcases Nat.lt_or_gt_of_ne hne with hlt | hgt
      · rw [List.getElem?_eq_none (Nat.le_of_lt hlt), List.getElem?_eq_none]
        rw [List.length_append]
        exact hlt
      · rw [List.getElem?_append_left hgt]
    rw [others hne, hsame]
    rfl

theorem Step.life {Empty : α → Prop} (h : Step k s s' new) (hs : Sound Empty s) (i : Nat) :
    (s.life i).after? (turns i new) = some (s'.life i) := by
  cases h with
  | spent hspent => exact (hs.borrower hspent).elim
  | read => rfl
  | ask | handIn =>
    refine life_append rfl ?_ fun hne => ?_
    · simp [turns, Signal.turn?, Borrower.life, Life.after?, Life.next?]
    · simp [turns, Signal.turn?, hne]
  | @reuse j loan b hfound | @build j loan hfound | @write j loan b content hfound =>
    refine life_set hfound rfl ?_ fun hne => ?_
    · cases loan <;>
        simp [turns, Signal.turn?, Borrower.life, Loan.borrower, Life.after?, Life.next?]
    · simp [turns, Signal.turn?, hne]
  | take hx | miss hx | create hx | reset hx | keep hx | refuse hx | discard hx | release hx
  | lose hx | drop hx | detach hx =>
    refine life_set hx rfl ?_ fun hne => ?_
    · simp [turns, Signal.turn?, Borrower.life, Life.after?, Life.next?]
    · simp [turns, Signal.turn?, hne]

section
variable {Empty : α → Prop} {capacity : Nat}

theorem Reached.life (h : Reached k capacity s es) (hfresh : ∀ n, Empty (k.fresh n))
    (hreset : ∀ b, Empty (k.reset b)) (i : Nat) :
    Life.after? .waiting (turns i es) = some (s.life i) := by
  have hboth : Ledger Empty capacity s es ∧
      Life.after? .waiting (turns i es) = some (s.life i) := by
    refine h.invariant
      (P := fun s es => Ledger Empty capacity s es ∧
        Life.after? .waiting (turns i es) = some (s.life i))
      ⟨ledger_start, rfl⟩ fun hold hstep => ⟨hold.1.step hstep hfresh hreset, ?_⟩
    rw [turns_append, Life.after?_append, hold.2, Option.bind_some]
    exact hstep.life hold.1.sound i
  exact hboth.2

end

end FreshToken.SharedPool
