import FreshToken.Executor.Calls
/-!
# What one move of a call does

`Step` says once what each move does to calls over any lender.  From it follows that no two calls
have the same lease, if the lender never gives out a number twice.
-/

namespace FreshToken.Calls

open Machine

variable {σ μ ε : Type} {L : Lender σ μ ε} {s s' : Calls σ} {m : Move μ} {new : List (Signal ε)}

inductive Step (L : Lender σ μ ε) (s : Calls σ) :
    Move μ → Calls σ → List (Signal ε) → Prop where
  | get {q : Request} (payload : q.payload = none) :
    Step L s (.call q) { s with jobs := s.jobs ++ [⟨q, .pending none⟩] }
      (.called s.jobs.length q :: opening s.jobs.length .getJson ++
        [.sent s.jobs.length q.url none])
  | post {q : Request} {p : Payload} (payload : q.payload = some p) :
    Step L s (.call q)
      ⟨(L.lease s.lender).2.1, s.jobs ++ [⟨q, .leasing (L.lease s.lender).1⟩]⟩
      (.called s.jobs.length q :: opening s.jobs.length .postJson ++
        (L.lease s.lender).2.2.map .lender)
  | send {n j : Nat} {q : Request} {p : Payload} {buffer : List UInt8}
      (job : s.jobs[n]? = some ⟨q, .leasing j⟩) (payload : q.payload = some p)
      (ready : L.content? s.lender j = some buffer) (formed : p.encode.2 = none) :
    Step L s (.encode n)
      ⟨(L.fill s.lender j (buffer ++ p.encode.1)).1, s.jobs.set n ⟨q, .pending (some j)⟩⟩
      ((L.fill s.lender j (buffer ++ p.encode.1)).2.map .lender ++
        [.sent n q.url (some (buffer ++ p.encode.1))])
  | spoil {n j : Nat} {q : Request} {p : Payload} {buffer : List UInt8} {f : Json.Fault}
      (job : s.jobs[n]? = some ⟨q, .leasing j⟩) (payload : q.payload = some p)
      (ready : L.content? s.lender j = some buffer) (formless : p.encode.2 = some f) :
    Step L s (.encode n)
      ⟨(L.drop (L.fill s.lender j (buffer ++ p.encode.1)).1 j).1,
        s.jobs.set n ⟨q, .ending (some j) (some (.error (.encoding f)))⟩⟩
      ((L.fill s.lender j (buffer ++ p.encode.1)).2.map .lender ++
        (L.drop (L.fill s.lender j (buffer ++ p.encode.1)).1 j).2.map .lender)
  | answer {n : Nat} {q : Request} {lease? : Option Nat} (a : Except TransportFault Response)
      (job : s.jobs[n]? = some ⟨q, .pending lease?⟩) :
    Step L s (.answer n a)
      ((s.drop L lease?).1.set n q (.ending lease? (some (Executor.readAnswer q.reader a))))
      (.answered n a :: (s.drop L lease?).2)
  | cancel {n : Nat} {q : Request} {lease? : Option Nat}
      (job : s.jobs[n]? = some ⟨q, .pending lease?⟩) :
    Step L s (.cancel n) ((s.drop L lease?).1.set n q (.ending lease? none))
      (.cancelled n :: (s.drop L lease?).2)
  | close {n : Nat} {q : Request} {lease? : Option Nat}
      {result? : Option (Except Error Json.Value)}
      (job : s.jobs[n]? = some ⟨q, .ending lease? result?⟩)
      (back : lease?.all (L.isBack s.lender) = true) :
    Step L s (.close n) (s.set n q .ended) (closing n result?)
  | others {m : μ} {lender : σ} {es : List ε}
      (move : L.move? s.isLeased s.lender m = some (lender, es)) :
    Step L s (.lender m) { s with lender := lender } (es.map .lender)

theorem step_of_encode {n : Nat} (h : s.move? L (.encode n) = some (s', new)) :
    Step L s (.encode n) s' new := by
  simp only [move?] at h
  split at h
  · rename_i q j hjob
    split at h
    · rename_i p buffer hpayload hready
      cases hfault : p.encode.2 with
      | none =>
        simp only [encode, hfault] at h
        cases h
        exact .send hjob hpayload hready hfault
      | some f =>
        simp only [encode, hfault] at h
        cases h
        exact .spoil hjob hpayload hready hfault
    · cases h
  · cases h

theorem step_of_move? (h : s.move? L m = some (s', new)) : Step L s m s' new := by
  cases m with
  | call q =>
    simp only [move?, call] at h
    split at h
    · rename_i hpayload
      cases h
      exact .get hpayload
    · rename_i p hpayload
      cases h
      exact .post hpayload
  | encode n => exact step_of_encode h
  | answer n a =>
    simp only [move?] at h
    split at h
    · rename_i hjob
      cases h
      exact .answer a hjob
    · cases h
  | cancel n =>
    simp only [move?] at h
    split at h
    · rename_i hjob
      cases h
      exact .cancel hjob
    · cases h
  | close n =>
    simp only [move?] at h
    split at h
    · rename_i hjob
      split at h
      · rename_i hback
        cases h
        exact .close hjob hback
      · cases h
    · cases h
  | lender m =>
    simp only [move?, Option.map_eq_some_iff] at h
    obtain ⟨⟨lender, es⟩, hmove, heq⟩ := h
    cases heq
    exact .others hmove

@[simp] theorem jobs_drop (lease? : Option Nat) : (s.drop L lease?).1.jobs = s.jobs := by
  cases lease? <;> rfl

/-! ## Every call has a lease of its own -/

structure Numbered (L : Lender σ μ ε) (size : σ → Nat) : Prop where
  lease : ∀ l, (L.lease l).1 = size l ∧ size (L.lease l).2.1 = size l + 1
  fill : ∀ l j content, size l ≤ size (L.fill l j content).1
  drop : ∀ l j, size l ≤ size (L.drop l j).1
  others : ∀ {isLeased l m l' es}, L.move? isLeased l m = some (l', es) → size l ≤ size l'

theorem Numbered.size_drop {size : σ → Nat} (hL : Numbered L size) (s : Calls σ)
    (lease? : Option Nat) : size s.lender ≤ size (s.drop L lease?).1.lender := by
  cases lease? with
  | none => exact Nat.le_refl _
  | some j => exact hL.drop s.lender j

structure Apart (size : σ → Nat) (s : Calls σ) : Prop where
  bound : ∀ (n j : Nat) (job : Job), s.jobs[n]? = some job → job.lease? = some j → j < size s.lender
  alone : ∀ (n m j : Nat) (job other : Job), s.jobs[n]? = some job → s.jobs[m]? = some other →
    job.lease? = some j → other.lease? = some j → n = m

section
variable {size : σ → Nat} {lender : σ}

theorem apart_start (l : σ) : Apart size (start l) where
  bound n j job h := by cases h
  alone n m j job other h := by cases h

theorem Apart.mono (h : Apart size s) (grown : size s.lender ≤ size lender) :
    Apart size { s with lender := lender } where
  bound n j job hjob hlease := Nat.lt_of_lt_of_le (h.bound n j job hjob hlease) grown
  alone := h.alone

theorem Apart.append {job : Job} (h : Apart size s)
    (later : ∀ j, job.lease? = some j → size s.lender ≤ j ∧ j < size lender)
    (grown : size s.lender ≤ size lender) : Apart size ⟨lender, s.jobs ++ [job]⟩ where
  bound n j other hother hlease := by
    rcases eq_or_of_append hother with ⟨_, rfl⟩ | ⟨_, hold⟩
    · exact (later j hlease).2
    · exact Nat.lt_of_lt_of_le (h.bound n j other hold hlease) grown
  alone n m j one other hone hother hlease hlease' := by
    rcases eq_or_of_append hone with ⟨hn, rfl⟩ | ⟨_, hold⟩
    · rcases eq_or_of_append hother with ⟨hm, _⟩ | ⟨_, hold'⟩
      · rw [hn, hm]
      · have hlt := h.bound m j other hold' hlease'
        have hle := (later j hlease).1
        omega
    · rcases eq_or_of_append hother with ⟨_, rfl⟩ | ⟨_, hold'⟩
      · have hlt := h.bound n j one hold hlease
        have hle := (later j hlease').1
        omega
      · exact h.alone n m j one other hold hold' hlease hlease'

theorem Apart.set {n : Nat} {before after : Job} (h : Apart size s)
    (job : s.jobs[n]? = some before)
    (kept : ∀ j, after.lease? = some j → before.lease? = some j)
    (grown : size s.lender ≤ size lender) : Apart size ⟨lender, s.jobs.set n after⟩ where
  bound i j other hother hlease := by
    rcases eq_or_of_set hother with ⟨_, rfl⟩ | ⟨_, hold⟩
    · exact Nat.lt_of_lt_of_le (h.bound n j before job (kept j hlease)) grown
    · exact Nat.lt_of_lt_of_le (h.bound i j other hold hlease) grown
  alone i m j one other hone hother hlease hlease' := by
    rcases eq_or_of_set hone with ⟨rfl, rfl⟩ | ⟨_, hold⟩
    · rcases eq_or_of_set hother with ⟨rfl, _⟩ | ⟨_, hold'⟩
      · rfl
      · exact h.alone n m j before other job hold' (kept j hlease) hlease'
    · rcases eq_or_of_set hother with ⟨rfl, rfl⟩ | ⟨_, hold'⟩
      · exact h.alone i n j one before hold job hlease (kept j hlease')
      · exact h.alone i m j one other hold hold' hlease hlease'

theorem Step.apart (hL : Numbered L size) (hs : Apart size s) (h : Step L s m s' new) :
    Apart size s' := by
  cases h with
  | get =>
    refine hs.append (fun j hj => ?_) (Nat.le_refl _)
    cases hj
  | post hpayload =>
    obtain ⟨hnumber, hsize⟩ := hL.lease s.lender
    refine hs.append (fun j hj => ?_) (by omega)
    cases hj
    omega
  | send hjob =>
    exact hs.set hjob (fun j hj => hj) (hL.fill ..)
  | spoil hjob =>
    exact hs.set hjob (fun j hj => hj) (Nat.le_trans (hL.fill ..) (hL.drop ..))
  | @answer n q lease? a hjob | @cancel n q lease? hjob =>
    rw [Calls.set, jobs_drop]
    exact hs.set hjob (fun j hj => hj) (hL.size_drop s lease?)
  | close hjob =>
    refine hs.set hjob (fun j hj => ?_) (Nat.le_refl _)
    cases hj
  | others hmove => exact hs.mono (hL.others hmove)

end

end FreshToken.Calls
