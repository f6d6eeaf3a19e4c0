import FreshToken.Proofs.Pool.Lives
/-!
# Borrowers that are not interrupted

The steps of one borrower, taken one after another, do what the pool does as a whole.  None of them
waits for others, so who asks for a buffer gets one, and a buffer that is given back does arrive.
-/

namespace FreshToken.SharedPool

open Machine

variable {α : Type} {k : BufferKind α} {s s' : SharedPool α} {es new : List (Signal α)}

def plain (s : SharedPool α) : Pool α :=
  { s.pool with idle := s.pool.idle.map Tagged.content }

@[simp] def Signal.entry? : Signal α → Option Entry
  | .logged e => some e
  | _ => none

abbrev entries (es : List (Signal α)) : List Entry := es.filterMap Signal.entry?

theorem getElem?_setBorrower {i : Nat} {x : Borrower α} (y : Borrower α)
    (h : s.borrowers[i]? = some x) : (s.setBorrower i y).borrowers[i]? = some y :=
  getElem?_set_of_getElem? y h

/-- Borrower `i` comes to `Q` by steps of its own. -/
def Alone (k : BufferKind α) (i : Nat) (Q : SharedPool α → List (Signal α) → Prop)
    (s : SharedPool α) : Prop :=
  ∃ n s' new, run? (move? k) s (List.replicate n (.step i)) = some (s', new) ∧ Q s' new

section
variable {i : Nat} {b : Tagged α} {Q R : SharedPool α → List (Signal α) → Prop}

theorem Alone.now (h : Q s []) : Alone k i Q s := ⟨0, s, [], rfl, h⟩

theorem Alone.step (h : s.step? k i = some (s', new))
    (rest : Alone k i (fun final es => Q final (new ++ es)) s') : Alone k i Q s := by
  obtain ⟨n, final, es, hrun, hQ⟩ := rest
  have hmove : s.move? k (.step i) = some (s', new) := h
  exact ⟨n + 1, final, new ++ es, run?_step hmove hrun, hQ⟩

theorem Alone.mono (h : Alone k i Q s) (imp : ∀ {s' new}, Q s' new → R s' new) :
    Alone k i R s := by
  obtain ⟨n, s', new, hrun, hQ⟩ := h
  exact ⟨n, s', new, hrun, imp hQ⟩

/-! ## Giving back -/

def GivesBack (k : BufferKind α) (s : SharedPool α) (i : Nat) (b : Tagged α)
    (after : Pool α × List Entry) : Prop :=
  Alone k i (fun s' new => s'.borrowers = s.borrowers.set i .gone ∧ s'.built = s.built ∧
    turns i new = [.returned b.id] ∧ (s'.plain, entries new) = after) s

theorem step?_refused (h : s.borrowers[i]? = some (.refused b)) :
    s.step? k i =
      some ({ s with pool := s.pool.countDiscarded, discarded := b :: s.discarded }.setBorrower i
        .gone, [.logged (.overflow s.pool.capacity)]) := by
  rw [step?, h]

theorem givesBack_emptied (h : s.borrowers[i]? = some (.emptied b)) :
    GivesBack k s i b (s.plain.stow b.content) := by
  by_cases hroom : s.pool.idle.length < s.pool.capacity
  · have hstep : s.step? k i =
        some ({ s with pool := { s.pool with idle := b :: s.pool.idle } }.setBorrower i .gone,
          [.kept i b]) := by
      rw [step?, h]
      simp only [Pool.push, if_pos hroom]
    refine .step hstep (.now ⟨rfl, rfl, ?_, ?_⟩)
    · simp [turns, Signal.turn?]
    · simp [Pool.stow, Pool.push, plain, setBorrower, hroom]
  · have hstep : s.step? k i = some (s.setBorrower i (.refused b), [.refused i b]) := by
      rw [step?, h]
      simp only [Pool.push, if_neg hroom]
    have hlast := step?_refused (k := k) (getElem?_setBorrower (.refused b) h)
    refine .step hstep (.step hlast (.now ⟨List.set_set _, rfl, ?_, ?_⟩))
    · simp [turns, Signal.turn?]
    · simp [Pool.stow, Pool.push, plain, setBorrower, hroom, Pool.countDiscarded]

theorem step?_returning (h : s.borrowers[i]? = some (.returning b)) :
    s.step? k i =
      some (s.setBorrower i (.emptied { b with content := k.reset b.content }), []) := by
  rw [step?, h]

theorem givesBack_returning (h : s.borrowers[i]? = some (.returning b)) :
    GivesBack k s i b (s.plain.release k b.content) := by
  have hrest := givesBack_emptied (k := k)
    (getElem?_setBorrower (.emptied { b with content := k.reset b.content }) h)
  refine .step (step?_returning h) (hrest.mono fun ⟨hborrowers, hback⟩ => ⟨?_, hback⟩)
  rw [hborrowers]
  exact List.set_set _

/-- Giving back never waits, whatever others do. -/
theorem givesBack_of_life {v : Nat} (h : s.life i = .returning v) :
    ∃ b after, b.id = v ∧ GivesBack k s i b after := by
  rw [life] at h
  cases hx : s.borrowers[i]? with
  | none =>
    rw [hx] at h
    cases h
  | some x =>
    rw [hx] at h
    cases x with
    | returning b =>
      cases h
      exact ⟨b, _, rfl, givesBack_returning hx⟩
    | emptied b =>
      cases h
      exact ⟨b, _, rfl, givesBack_emptied hx⟩
    | guard buffer? => cases buffer? <;> cases h
    | _ => cases h

theorem GivesBack.gone {x : Borrower α} {after : Pool α × List Entry} (h : GivesBack k s i b after)
    (hx : s.borrowers[i]? = some x) : Alone k i (fun s' _ => s'.borrowers[i]? = some .gone) s := by
  refine h.mono fun ⟨hborrowers, _⟩ => ?_
  rw [hborrowers]
  exact getElem?_set_of_getElem? _ hx

theorem alone_refused (h : s.borrowers[i]? = some (.refused b)) :
    Alone k i (fun s' _ => s'.borrowers[i]? = some .gone) s :=
  .step (step?_refused h) (.now (getElem?_setBorrower (x := .refused b) .gone h))

/-! ## Getting a buffer -/

def Gets (k : BufferKind α) (s : SharedPool α) (i : Nat) (loan : Loan) (after : α × Pool α) :
    Prop :=
  Alone k i (fun s' new => entries new = [] ∧ ∃ b,
    s'.borrowers = s.borrowers.set i (loan.borrower b) ∧
      (s.built = s.pool.created → s'.built = s'.pool.created ∧ (b.content, s'.plain) = after)) s

theorem Gets.borrower {loan : Loan} {x : Borrower α} {after : α × Pool α}
    (h : Gets k s i loan after) (hx : s.borrowers[i]? = some x) :
    Alone k i (fun s' _ => ∃ b, s'.borrowers[i]? = some (loan.borrower b)) s := by
  refine h.mono fun ⟨_, b, hborrowers, _⟩ => ⟨b, ?_⟩
  rw [hborrowers]
  exact getElem?_set_of_getElem? _ hx

theorem step?_building {loan : Loan} (h : s.borrowers[i]? = some (.building loan)) :
    s.step? k i = some (s.countBuilt.setBorrower i (loan.borrower (s.nextBuilt k)),
      [.built i (s.nextBuilt k), .handed i loan (s.nextBuilt k)]) := by
  rw [step?, h]

theorem step?_found_none {loan : Loan} (h : s.borrowers[i]? = some (.found loan none)) :
    s.step? k i =
      some ({ s with pool := s.pool.countCreated }.setBorrower i (.building loan), []) := by
  rw [step?, h]

theorem step?_found_some {loan : Loan} (h : s.borrowers[i]? = some (.found loan (some b))) :
    s.step? k i =
      some ({ s with pool := s.pool.countReused }.setBorrower i (loan.borrower b),
        [.handed i loan b]) := by
  rw [step?, h]

theorem alone_building {loan : Loan} (h : s.borrowers[i]? = some (.building loan)) :
    Alone k i (fun s' _ => ∃ b, s'.borrowers[i]? = some (loan.borrower b)) s :=
  .step (step?_building h) (.now ⟨_, getElem?_setBorrower (s := s.countBuilt) _ h⟩)

theorem alone_found {loan : Loan} {buffer? : Option (Tagged α)}
    (h : s.borrowers[i]? = some (.found loan buffer?)) :
    Alone k i (fun s' _ => ∃ b, s'.borrowers[i]? = some (loan.borrower b)) s := by
  cases buffer? with
  | none =>
    refine .step (step?_found_none h) (alone_building ?_)
    exact getElem?_setBorrower (s := { s with pool := s.pool.countCreated }) (.building loan) h
  | some b =>
    refine .step (step?_found_some h) (.now ⟨b, ?_⟩)
    exact getElem?_setBorrower (s := { s with pool := s.pool.countReused }) (loan.borrower b) h

/-- A borrower that is not interrupted gets what the pool as a whole would hand out. -/
theorem gets_asking {loan : Loan} (h : s.borrowers[i]? = some (.asking loan)) :
    Gets k s i loan (s.plain.acquire k) := by
  cases hidle : s.pool.idle with
  | nil =>
    have hlook : s.step? k i = some (s.setBorrower i (.found loan none), [.looked i none]) := by
      rw [step?, h]
      simp only [Pool.pop, hidle]
    have hfound := getElem?_setBorrower (.found loan none) h
    have hbuilding := getElem?_setBorrower
      (s := { s.setBorrower i (.found loan none) with pool := s.pool.countCreated })
      (.building loan) hfound
    refine .step hlook (.step (step?_found_none hfound)
      (.step (step?_building hbuilding)
        (.now ⟨rfl, s.nextBuilt k, ?_, fun hcounted => ⟨?_, ?_⟩⟩)))
    · exact (List.set_set _).trans (List.set_set _)
    · simp [setBorrower, countBuilt, Pool.countCreated, hcounted]
    · simp [Pool.acquire, Pool.pop, plain, setBorrower, countBuilt, nextBuilt, hidle, hcounted,
        Pool.countCreated]
  | cons b rest =>
    have hlook : s.step? k i =
        some ({ s with pool := { s.pool with idle := rest } }.setBorrower i (.found loan (some b)),
          [.looked i (some b)]) := by
      rw [step?, h]
      simp only [Pool.pop, hidle]
    have hfound := getElem?_setBorrower (s := { s with pool := { s.pool with idle := rest } })
      (.found loan (some b)) h
    refine .step hlook (.step (step?_found_some hfound)
      (.now ⟨rfl, b, List.set_set _, fun hcounted => ⟨hcounted, ?_⟩⟩))
    simp [Pool.acquire, Pool.pop, plain, setBorrower, hidle, Pool.countReused]

end

end FreshToken.SharedPool
