import Mathlib.Data.List.Basic
/-!
# Machines

A machine makes a move if it can and tells what happened.  A run is a list of moves; what holds at
the start and is kept by every move holds after every run.
-/

namespace FreshToken.Machine

variable {σ μ ε : Type}

def run? (move? : σ → μ → Option (σ × List ε)) (s : σ) : List μ → Option (σ × List ε)
  | [] => some (s, [])
  | m :: rest => do
    let (after, front) ← move? s m
    let (final, back) ← run? move? after rest
    return (final, front ++ back)

inductive Reached (move? : σ → μ → Option (σ × List ε)) (first : σ) : σ → List ε → Prop where
  | start : Reached move? first first []
  | step {s s' : σ} {es new : List ε} {m : μ} (before : Reached move? first s es)
    (move : move? s m = some (s', new)) : Reached move? first s' (es ++ new)

section
variable {move? : σ → μ → Option (σ × List ε)} {first s s' : σ} {es new : List ε} {m : μ}
  {ms : List μ}

theorem run?_cons :
    run? move? s (m :: ms) =
      (move? s m).bind fun p => (run? move? p.1 ms).map fun q => (q.1, p.2 ++ q.2) := by
  rw [run?]
  cases move? s m with
  | none => rfl
  | some p => cases hrest : run? move? p.1 ms <;> simp [hrest]

theorem run?_step {final : σ} {rest : List ε} (move : move? s m = some (s', new))
    (h : run? move? s' ms = some (final, rest)) :
    run? move? s (m :: ms) = some (final, new ++ rest) := by
  rw [run?_cons, move, Option.bind_some, h]
  rfl

theorem of_run?_cons {final : σ} {all : List ε} (h : run? move? s (m :: ms) = some (final, all)) :
    ∃ after front back, move? s m = some (after, front) ∧
      run? move? after ms = some (final, back) ∧ all = front ++ back := by
  rw [run?_cons, Option.bind_eq_some_iff] at h
  obtain ⟨⟨after, front⟩, hmove, hrest⟩ := h
  obtain ⟨⟨last, back⟩, hrun, heq⟩ := Option.map_eq_some_iff.1 hrest
  cases heq
  exact ⟨after, front, back, hmove, hrun, rfl⟩

theorem run?_one (move : move? s m = some (s', new)) : run? move? s [m] = some (s', new) := by
  rw [run?_step move rfl, List.append_nil]

theorem run?_append {final : σ} {rest : List ε} {more : List μ}
    (h : run? move? s ms = some (s', new)) (later : run? move? s' more = some (final, rest)) :
    run? move? s (ms ++ more) = some (final, new ++ rest) := by
  induction ms generalizing s new with
  | nil =>
    cases h
    exact later
  | cons m front ih =>
    obtain ⟨after, front, back, hmove, hrun, rfl⟩ := of_run?_cons h
    rw [List.cons_append, List.append_assoc]
    exact run?_step hmove (ih hrun)

theorem of_run?_append {final : σ} {all : List ε} {more : List μ}
    (h : run? move? s (ms ++ more) = some (final, all)) :
    ∃ middle front back, run? move? s ms = some (middle, front) ∧
      run? move? middle more = some (final, back) ∧ all = front ++ back := by
  induction ms generalizing s all with
  | nil => exact ⟨s, [], all, rfl, h, rfl⟩
  | cons m rest ih =>
    obtain ⟨after, front, back, hmove, hrest, rfl⟩ := of_run?_cons h
    obtain ⟨middle, mid, last, hmid, hlast, rfl⟩ := ih hrest
    exact ⟨middle, front ++ mid, last, run?_step hmove hmid, hlast, (List.append_assoc ..).symm⟩

/-- A machine within another one runs as it does alone. -/
theorem run?_map {σ' μ' ε' : Type} {outer? : σ' → μ' → Option (σ' × List ε')} (state : σ → σ')
    (move : μ → μ') (event : ε → ε')
    (step : ∀ a m a' es, m ∈ ms → move? a m = some (a', es) →
      outer? (state a) (move m) = some (state a', es.map event))
    (h : run? move? s ms = some (s', new)) :
    run? outer? (state s) (ms.map move) = some (state s', new.map event) := by
  induction ms generalizing s new with
  | nil =>
    cases h
    rfl
  | cons m rest ih =>
    obtain ⟨after, front, back, hmove, hrest, rfl⟩ := of_run?_cons h
    rw [List.map_cons, List.map_append]
    refine run?_step (step s m after front List.mem_cons_self hmove) (ih ?_ hrest)
    intro a m' a' es hm
    exact step a m' a' es (List.mem_cons_of_mem _ hm)

/-- Two computations that look alike go on alike. -/
theorem bind_alike {α β ρ τ : Type} {look : α → ρ} {seen : β → τ} {o₁ o₂ : Option α}
    {f g : α → Option β} (h : o₁.map look = o₂.map look)
    (next : ∀ p q, look p = look q → (f p).map seen = (g q).map seen) :
    (o₁.bind f).map seen = (o₂.bind g).map seen := by
  cases o₁ with
  | none =>
    obtain rfl : o₂ = none := Option.map_eq_none_iff.1 h.symm
    rfl
  | some p =>
    obtain ⟨q, rfl, hlook⟩ := Option.map_eq_some_iff.1 h.symm
    exact next p q hlook.symm

theorem append_alike {σ' ε' : Type} {state : σ → σ'} {event : ε → ε'} {o₁ o₂ : Option (σ × List ε)}
    {front₁ front₂ : List ε} (hfront : front₁.map event = front₂.map event)
    (h : o₁.map (fun p => (state p.1, p.2.map event)) =
      o₂.map fun p => (state p.1, p.2.map event)) :
    (o₁.map fun p => (p.1, front₁ ++ p.2)).map (fun p => (state p.1, p.2.map event)) =
      (o₂.map fun p => (p.1, front₂ ++ p.2)).map fun p => (state p.1, p.2.map event) := by
  have happend := congrArg (Option.map fun p => (p.1, front₁.map event ++ p.2)) h
  simp only [Option.map_map, Function.comp_def, List.map_append] at happend ⊢
  rw [happend, hfront]

/-- Runs of which only a part is looked at.  If that part of a move depends on nothing but the same
part of the state and the move, it does so for runs. -/
theorem run?_alike {σ' μ' ε' : Type} {state : σ → σ'} {move : μ → μ'} {event : ε → ε'}
    (step : ∀ {a b m n}, state a = state b → move m = move n →
      (move? a m).map (fun p => (state p.1, p.2.map event)) =
        (move? b n).map fun p => (state p.1, p.2.map event))
    {t : σ} {ns : List μ} (hstate : state s = state t) (hmoves : ms.map move = ns.map move) :
    (run? move? s ms).map (fun p => (state p.1, p.2.map event)) =
      (run? move? t ns).map fun p => (state p.1, p.2.map event) := by
  induction ms generalizing s t ns with
  | nil =>
    obtain rfl : ns = [] := List.map_eq_nil_iff.1 hmoves.symm
    simp only [run?, Option.map_some, hstate]
  | cons m rest ih =>
    obtain ⟨n, others, rfl, hmove, hrest⟩ := List.map_eq_cons_iff.1 hmoves.symm
    rw [run?_cons, run?_cons]
    refine bind_alike (step hstate hmove.symm) fun p q hlook => ?_
    obtain ⟨hafter, hevents⟩ := Prod.mk.inj hlook
    exact append_alike hevents (ih hafter hrest.symm)

theorem Reached.run (before : Reached move? first s es) (h : run? move? s ms = some (s', new)) :
    Reached move? first s' (es ++ new) := by
  induction ms generalizing s es new with
  | nil =>
    cases h
    rw [List.append_nil]
    exact before
  | cons m rest ih =>
    obtain ⟨after, front, back, hmove, hrun, rfl⟩ := of_run?_cons h
    rw [← List.append_assoc]
    exact ih (before.step hmove) hrun

theorem reached_of_run? (h : run? move? first ms = some (s, es)) : Reached move? first s es :=
  Reached.run .start h

end

/-! ## Lists of states -/

section
variable {β : Type} {l : List β} {i j : Nat} {x y : β}

theorem eq_or_of_set (h : (l.set j y)[i]? = some x) :
    (j = i ∧ x = y) ∨ (j ≠ i ∧ l[i]? = some x) := by
  by_cases hne : j = i
  · rw [← hne, List.getElem?_set_self'] at h
    obtain ⟨z, _, heq⟩ := Option.map_eq_some_iff.1 h
    exact Or.inl ⟨hne, heq.symm⟩
  · rw [List.getElem?_set_ne hne] at h
    exact Or.inr ⟨hne, h⟩

theorem eq_or_of_append (h : (l ++ [y])[i]? = some x) :
    (i = l.length ∧ x = y) ∨ (i < l.length ∧ l[i]? = some x) := by
  by_cases hlt : i < l.length
  · rw [List.getElem?_append_left hlt] at h
    exact Or.inr ⟨hlt, h⟩
  · have hle := Nat.le_of_not_lt hlt
    rw [List.getElem?_append_right hle, List.getElem?_singleton] at h
    split at h
    · rename_i hzero
      cases h
      exact Or.inl ⟨Nat.le_antisymm (Nat.sub_eq_zero_iff_le.1 hzero) hle, rfl⟩
    · cases h

theorem lt_of_getElem? (h : l[i]? = some x) : i < l.length := (List.getElem?_eq_some_iff.1 h).1

theorem getElem?_set_of_getElem? (y : β) (h : l[i]? = some x) : (l.set i y)[i]? = some y :=
  List.getElem?_set_self (lt_of_getElem? h)

end

/-! ## Reading logs -/

@[simp] theorem filterMap_cons_toList {α β : Type} (f : α → Option β) (a : α) (l : List α) :
    (a :: l).filterMap f = (f a).toList ++ l.filterMap f := by
  cases h : f a <;> simp [h]

/-- Everything in a log fits what happened before it. -/
def AtEach (P : List ε → ε → Prop) (es : List ε) : Prop :=
  ∀ before e later, es = before ++ e :: later → P before e

section
variable {P : List ε → ε → Prop} {e : ε} {es new : List ε}

theorem atEach_nil : AtEach P [] := by
  intro before e later h
  cases before <;> cases h

theorem atEach_cons (head : P [] e) (tail : AtEach (fun before => P (e :: before)) es) :
    AtEach P (e :: es) := by
  rintro (_ | ⟨x, before⟩) e' later h
  · cases h
    exact head
  · cases h
    exact tail before e' later rfl

theorem atEach_singleton (h : P [] e) : AtEach P [e] := atEach_cons h atEach_nil

theorem atEach_append (front : AtEach P es) (back : AtEach (fun before => P (es ++ before)) new) :
    AtEach P (es ++ new) := by
  intro before e later h
  rcases List.append_eq_append_iff.1 h with ⟨mid, rfl, hback⟩ | ⟨mid, rfl, hback⟩
  · exact back mid e later hback
  · cases mid with
    | nil =>
      have he := back [] e later hback.symm
      rw [List.append_nil] at he
      simpa using he
    | cons x mid =>
      cases hback
      exact front before e mid rfl

end

end FreshToken.Machine
