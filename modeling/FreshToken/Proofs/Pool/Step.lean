import FreshToken.Pool.Sharing
/-!
# What one move of a borrower does

`Step` says once what can happen to a shared pool, with the pool afterwards and all signals written
out.  The invariants of a pool are shown for its cases.
-/

namespace FreshToken.SharedPool

variable {α : Type}

inductive Step (k : BufferKind α) (s : SharedPool α) :
    SharedPool α → List (Signal α) → Prop where
  | ask (loan : Loan) :
    Step k s { s with borrowers := s.borrowers ++ [.asking loan] }
      [.asked s.borrowers.length loan]
  | take {i : Nat} {loan : Loan} {b : Tagged α} {rest : List (Tagged α)}
      (asking : s.borrowers[i]? = some (.asking loan)) (idle : s.pool.idle = b :: rest) :
    Step k s
      { s with
        pool := { s.pool with idle := rest }
        borrowers := s.borrowers.set i (.found loan (some b)) }
      [.looked i (some b)]
  | miss {i : Nat} {loan : Loan} (asking : s.borrowers[i]? = some (.asking loan))
      (idle : s.pool.idle = []) :
    Step k s { s with borrowers := s.borrowers.set i (.found loan none) } [.looked i none]
  | reuse {i : Nat} {loan : Loan} {b : Tagged α}
      (found : s.borrowers[i]? = some (.found loan (some b))) :
    Step k s
      { s with
        pool := s.pool.countReused
        borrowers := s.borrowers.set i (loan.borrower b) }
      [.handed i loan b]
  | create {i : Nat} {loan : Loan} (found : s.borrowers[i]? = some (.found loan none)) :
    Step k s
      { s with
        pool := s.pool.countCreated
        borrowers := s.borrowers.set i (.building loan) }
      []
  | build {i : Nat} {loan : Loan} (building : s.borrowers[i]? = some (.building loan)) :
    Step k s
      { s with
        borrowers := s.borrowers.set i (loan.borrower (s.nextBuilt k))
        built := s.built + 1
        issued := s.issued + 1 }
      [.built i (s.nextBuilt k), .handed i loan (s.nextBuilt k)]
  | reset {i : Nat} {b : Tagged α} (returning : s.borrowers[i]? = some (.returning b)) :
    Step k s
      { s with
        borrowers := s.borrowers.set i (.emptied { b with content := k.reset b.content }) }
      []
  | keep {i : Nat} {b : Tagged α} (emptied : s.borrowers[i]? = some (.emptied b))
      (room : s.pool.idle.length < s.pool.capacity) :
    Step k s
      { s with
        pool := { s.pool with idle := b :: s.pool.idle }
        borrowers := s.borrowers.set i .gone }
      [.kept i b]
  | refuse {i : Nat} {b : Tagged α} (emptied : s.borrowers[i]? = some (.emptied b))
      (full : s.pool.capacity ≤ s.pool.idle.length) :
    Step k s { s with borrowers := s.borrowers.set i (.refused b) } [.refused i b]
  | discard {i : Nat} {b : Tagged α} (refused : s.borrowers[i]? = some (.refused b)) :
    Step k s
      { s with
        pool := s.pool.countDiscarded
        borrowers := s.borrowers.set i .gone
        discarded := b :: s.discarded }
      [.logged (.overflow s.pool.capacity)]
  | read {i : Nat} (loan : Loan) {b : Tagged α}
      (holding : s.borrowers[i]? = some (loan.borrower b)) : Step k s s [.read i b]
  | write {i : Nat} (loan : Loan) {b : Tagged α} (content : α)
      (holding : s.borrowers[i]? = some (loan.borrower b)) :
    Step k s
      { s with borrowers := s.borrowers.set i (loan.borrower { b with content := content }) }
      [.wrote i { b with content := content }]
  | release {i : Nat} {b : Tagged α} (owner : s.borrowers[i]? = some (.owner b)) :
    Step k s { s with borrowers := s.borrowers.set i (.returning b) } [.released i b]
  | lose {i : Nat} {b : Tagged α} (owner : s.borrowers[i]? = some (.owner b)) :
    Step k s
      { s with
        borrowers := s.borrowers.set i .gone
        discarded := b :: s.discarded }
      [.lost i b]
  | drop {i : Nat} {b : Tagged α} (guarding : s.borrowers[i]? = some (.guard (some b))) :
    Step k s { s with borrowers := s.borrowers.set i (.returning b) } [.dropped i]
  | detach {i : Nat} {b : Tagged α} (guarding : s.borrowers[i]? = some (.guard (some b))) :
    Step k s { s with borrowers := s.borrowers.set i (.owner b) } [.detached i b]
  | handIn (content : α) :
    Step k s
      { s with
        borrowers := s.borrowers ++ [.returning ⟨s.issued, content⟩]
        issued := s.issued + 1 }
      [.handedIn s.borrowers.length ⟨s.issued, content⟩]
  /-- No guard is ever without its buffer, so it does not matter what is done with such a one. -/
  | spent {i : Nat} {s' : SharedPool α} {signals : List (Signal α)}
      (empty : s.borrowers[i]? = some (.guard none)) : Step k s s' signals

theorem step_of_step? {k : BufferKind α} {s s' : SharedPool α} {i : Nat}
    {signals : List (Signal α)} (h : s.step? k i = some (s', signals)) : Step k s s' signals := by
  unfold step? at h
  split at h
  · rename_i loan hasking
    cases hidle : s.pool.idle with
    | nil =>
      simp only [Pool.pop, hidle] at h
      cases h
      exact .miss hasking hidle
    | cons b rest =>
      simp only [Pool.pop, hidle] at h
      cases h
      exact .take hasking hidle
  · rename_i hfound
    cases h
    exact .reuse hfound
  · rename_i hfound
    cases h
    exact .create hfound
  · rename_i hbuilding
    cases h
    exact .build hbuilding
  · rename_i hreturning
    cases h
    exact .reset hreturning
  · rename_i b hemptied
    by_cases hroom : s.pool.idle.length < s.pool.capacity
    · rw [Pool.push, if_pos hroom] at h
      cases h
      exact .keep hemptied hroom
    · rw [Pool.push, if_neg hroom] at h
      cases h
      exact .refuse hemptied (Nat.le_of_not_lt hroom)
  · rename_i hrefused
    cases h
    exact .discard hrefused
  · cases h

theorem step_of_read {k : BufferKind α} {s s' : SharedPool α} {i : Nat}
    {signals : List (Signal α)} (h : s.move? k (.read i) = some (s', signals)) :
    Step k s s' signals := by
  simp only [move?] at h
  split at h
  · rename_i b howner
    cases h
    exact .read .plain howner
  · rename_i b hguard
    cases h
    exact .read .lease hguard
  · rename_i hempty
    exact .spent hempty
  · cases h

theorem step_of_write {k : BufferKind α} {s s' : SharedPool α} {i : Nat} {content : α}
    {signals : List (Signal α)} (h : s.move? k (.write i content) = some (s', signals)) :
    Step k s s' signals := by
  simp only [move?] at h
  split at h
  · rename_i b howner
    cases h
    exact .write .plain content howner
  · rename_i b hguard
    cases h
    exact .write .lease content hguard
  · rename_i hempty
    exact .spent hempty
  · cases h

theorem step_of_leave {k : BufferKind α} {s s' : SharedPool α} {i : Nat}
    {signals : List (Signal α)} (h : s.move? k (.leave i) = some (s', signals)) :
    Step k s s' signals := by
  simp only [move?] at h
  split at h
  · rename_i b howner
    cases h
    exact .lose howner
  · rename_i b hguard
    cases h
    exact .drop hguard
  · rename_i hempty
    exact .spent hempty
  · cases h

theorem step_of_detach {k : BufferKind α} {s s' : SharedPool α} {i : Nat}
    {signals : List (Signal α)} (h : s.move? k (.detach i) = some (s', signals)) :
    Step k s s' signals := by
  simp only [move?] at h
  split at h
  · rename_i b hguard
    cases h
    exact .detach hguard
  · rename_i hempty
    exact .spent hempty
  · cases h

theorem step_of_move? {k : BufferKind α} {s s' : SharedPool α} {m : Move α}
    {signals : List (Signal α)} (h : s.move? k m = some (s', signals)) : Step k s s' signals := by
  cases m with
  | ask loan =>
    cases h
    exact .ask loan
  | step i => exact step_of_step? h
  | read i => exact step_of_read h
  | write i content => exact step_of_write h
  | release i =>
    simp only [move?] at h
    split at h
    · rename_i b howner
      cases h
      exact .release howner
    · cases h
  | leave i => exact step_of_leave h
  | detach i => exact step_of_detach h
  | handIn content =>
    cases h
    exact .handIn content

/-! ## What a move leaves alone -/

section
variable {k : BufferKind α} {s s' : SharedPool α} {m : Move α} {new : List (Signal α)}

/-- A move changes one borrower, which it names, or brings a new one. -/
theorem borrowers_of_move? (h : s.move? k m = some (s', new)) :
    s'.borrowers = s.borrowers ∨
      (∃ i y, (m.target? = some i ∨ m = .step i) ∧ s'.borrowers = s.borrowers.set i y) ∨
      ∃ y, s'.borrowers = s.borrowers ++ [y] := by
  cases m with
  | ask | handIn =>
    cases h
    exact Or.inr (Or.inr ⟨_, rfl⟩)
  | step i =>
    simp only [move?, step?] at h
    refine Or.inr (Or.inl ⟨i, ?_⟩)
    split at h
    case h_6 =>
      split at h <;> cases h <;> exact ⟨_, Or.inr rfl, rfl⟩
    case h_8 => cases h
    all_goals
      cases h
      exact ⟨_, Or.inr rfl, rfl⟩
  | read i =>
    simp only [move?] at h
    split at h <;> cases h <;> exact Or.inl rfl
  | write i content =>
    simp only [move?] at h
    split at h
    case h_1 | h_2 =>
      cases h
      exact Or.inr (Or.inl ⟨i, _, Or.inl rfl, rfl⟩)
    all_goals
      cases h <;> exact Or.inl rfl
  | release i | leave i | detach i =>
    simp only [move?] at h
    refine Or.inr (Or.inl ⟨i, ?_⟩)
    split at h <;> cases h <;> exact ⟨_, Or.inl rfl, rfl⟩

theorem length_le_of_move? (h : s.move? k m = some (s', new)) :
    s.borrowers.length ≤ s'.borrowers.length := by
  rcases borrowers_of_move? h with heq | ⟨i, y, _, heq⟩ | ⟨y, heq⟩
  · exact Nat.le_of_eq (by rw [heq])
  · exact Nat.le_of_eq (by rw [heq, List.length_set])
  · rw [heq, List.length_append]
    exact Nat.le_add_right _ _

theorem getElem?_of_move? {j : Nat} {x : Borrower α} (h : s.move? k m = some (s', new))
    (hx : s.borrowers[j]? = some x) (untouched : m.target? ≠ some j) (idle : m ≠ .step j) :
    s'.borrowers[j]? = some x := by
  rcases borrowers_of_move? h with heq | ⟨i, y, hwho, heq⟩ | ⟨y, heq⟩
  · rw [heq, hx]
  · have hne : i ≠ j := by
      rintro rfl
      rcases hwho with htarget | hstep
      · exact untouched htarget
      · exact idle hstep
    rw [heq, List.getElem?_set_ne hne, hx]
  · have hlt : j < s.borrowers.length := Machine.lt_of_getElem? hx
    rw [heq, List.getElem?_append_left hlt, hx]

end

end FreshToken.SharedPool
