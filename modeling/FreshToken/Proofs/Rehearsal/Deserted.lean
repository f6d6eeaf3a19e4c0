import FreshToken.Rehearsal.Play
/-!
# Rehearsals without a cache

Where there is no cache, nobody asks for tokens: whatever acts follow, there is still no cache, and
no authenticator has been called again.
-/

namespace FreshToken.Rehearsal.World

/-- There is no cache, and tokens have been asked for `n` times. -/
structure Deserted (n : Nat) (w : World) : Prop where
  session : w.session = none
  calls : w.calls = n

namespace Deserted

variable {n : Nat} {w : World}

theorem refresher? (h : Deserted n w) : w.refresher? = none := by
  rw [World.refresher?, h.session]
  rfl

theorem readySession? (h : Deserted n w) : w.readySession? = none := by
  rw [World.readySession?, h.session]
  rfl

/-! ## What happens by itself -/

theorem hearAll (h : Deserted n w) (notes : List Note) : Deserted n (w.hearAll notes) := by
  induction notes generalizing w with
  | nil => exact h
  | cons note rest ih => exact ih ⟨h.session, h.calls⟩

theorem settleCaller (h : Deserted n w) (caller : Nat) (result : Except Error Json.Value) :
    Deserted n (w.settleCaller caller result) := by
  cases caller <;> exact ⟨h.session, h.calls⟩

theorem move_eq (h : Deserted n w) (m : Refresher.Move) : w.move m = w := by
  rw [World.move, h.refresher?]
  rfl

theorem usher_eq (h : Deserted n w) : w.usher = w := by
  rw [usher, h.refresher?]
  exact h.move_eq .enter

theorem passTo (h : Deserted n w) (t : Nat) : Deserted n (w.passTo t) := by
  have hnow : Deserted n { w with now := t } := ⟨h.session, h.calls⟩
  rw [World.passTo, hnow.move_eq]
  exact hnow

theorem release (h : Deserted n w) : Deserted n w.release := by
  rw [World.release, h.move_eq]
  split <;> exact h

theorem withExecutor (h : Deserted n w) (e : Executor) : Deserted n { w with executor := e } :=
  ⟨h.session, h.calls⟩

theorem withArrivals (h : Deserted n w) (arrivals : List Arrival) :
    Deserted n { w with arrivals := arrivals } :=
  ⟨h.session, h.calls⟩

theorem arrive (h : Deserted n w) (a : Arrival) : Deserted n (w.arrive a) := by
  rcases hfinish : w.executor.finish a.flight a.answer with ⟨executor, notes, result⟩
  rw [World.arrive, hfinish]
  exact (((h.withExecutor executor).withArrivals _).hearAll notes).settleCaller a.caller result

theorem turn? (h : Deserted n w) {after : World} (hturn : w.turn? = some after) :
    Deserted n after := by
  rw [World.turn?, h.readySession?] at hturn
  obtain ⟨next, hnext, rfl⟩ := Option.map_eq_some_iff.1 hturn
  cases harrival : w.nextArrival? with
  | none =>
    rw [harrival] at hnext
    cases hnext
  | some a =>
    rw [harrival] at hnext
    cases hnext
    exact (h.arrive a).release

theorem turns (h : Deserted n w) (fuel : Nat) : Deserted n (turns fuel w) := by
  induction fuel generalizing w with
  | zero => exact h
  | succ fuel ih =>
    rw [World.turns]
    split
    · rename_i after hturn
      exact ih (h.turn? hturn)
    · exact h

theorem settle (h : Deserted n w) : Deserted n w.settle := h.turns _

theorem advance (h : Deserted n w) (target fuel : Nat) : Deserted n (advance target fuel w) := by
  induction fuel generalizing w with
  | zero => exact h.passTo target
  | succ fuel ih =>
    rw [World.advance]
    split
    · split
      · exact ih (h.settle.passTo _)
      · exact h.settle.passTo _
    · exact h.settle.passTo _

theorem advanceTo (h : Deserted n w) (target : Nat) : Deserted n (w.advanceTo target) :=
  (h.advance target _).settle

theorem await (h : Deserted n w) (fuel : Nat) : Deserted n (await fuel w) := by
  induction fuel generalizing w with
  | zero => exact h
  | succ fuel ih =>
    rw [World.await]
    split
    · split
      · exact h.settle
      · exact ih (h.settle.passTo _)
    · exact h.settle

/-! ## What is done -/

theorem exchange (h : Deserted n w) (url : Url) (body : Option (List UInt8)) :
    Deserted n (w.exchange url body).2 := by
  rw [World.exchange]
  split <;> exact ⟨h.session, h.calls⟩

theorem dispatch (h : Deserted n w) (caller : Nat) (flight : Flight) (url : Url)
    (body : Option (List UInt8)) : Deserted n (w.dispatch caller flight url body) := by
  have hexchange := h.exchange url body
  exact ⟨hexchange.session, hexchange.calls⟩

theorem request (h : Deserted n w) (caller : Nat) (q : Request) :
    Deserted n (w.request caller q) := by
  rw [World.request]
  split
  · exact h.settleCaller _ _
  · split
    · exact ((h.withExecutor _).hearAll _).dispatch _ _ _ _
    · rcases w.executor.beginPost w.stamp q.reader _ with ⟨executor, notes, _ | body⟩
      · exact ((h.withExecutor executor).hearAll notes).settleCaller _ _
      · exact ((h.withExecutor executor).hearAll notes).dispatch _ _ _ _

theorem send (h : Deserted n w) (caller : Nat) (interval : Option Duration) :
    Deserted n (w.send caller interval) := by
  rw [World.send, h.move_eq, h.usher_eq]
  exact h

theorem cancel (h : Deserted n w) (i : Nat) : Deserted n (w.cancel i) := by
  rw [World.cancel]
  split
  · have hset : Deserted n { w with tasks := w.tasks.set i .cancelled } := ⟨h.session, h.calls⟩
    simp only [hset.move_eq]
    split
    · exact (((hset.withExecutor _).withArrivals _).hearAll _).release
    · exact hset.release
  · exact h

theorem takeOutcome (h : Deserted n w) : Deserted n w.takeOutcome.2 := ⟨h.session, h.calls⟩

theorem spawn (h : Deserted n w) : Deserted n w.spawn.2 := ⟨h.session, h.calls⟩

theorem actHolding (h : Deserted n w) (a : Act) : Deserted n (w.actHolding a).2 := by
  cases a with
  | command interval => exact ((h.send 0 interval).await _).takeOutcome
  | spawnCommand interval => exact (h.spawn.send _ interval).settle
  | request q =>
    have hrequest := h.request 0 q
    rw [World.actHolding]
    split
    · exact (hrequest.advanceTo _).takeOutcome
    · exact hrequest.settle.takeOutcome
  | spawnRequest q => exact (h.spawn.request _ q).settle
  | token =>
    rw [World.actHolding, h.refresher?]
    exact h
  | _ => exact h

theorem act (h : Deserted n w) (a : Act) : Deserted n (w.act a).2 := by
  have hholding : Deserted n (if w.isHeld then w.actHolding a else (.dropped, w)).2 := by
    split
    · exact h.actHolding a
    · exact h
  cases a with
  | sleep d => exact h.advanceTo _
  | cancel i => exact (h.cancel i).settle
  | drop =>
    have hlet : Deserted n { w with isHeld := false } := ⟨h.session, h.calls⟩
    exact hlet.release.settle
  | _ => exact hholding

theorem play (h : Deserted n w) (acts : List Act) : ∀ p ∈ w.play acts, Deserted n p.2 := by
  induction acts generalizing w with
  | nil => exact fun _ hp => nomatch hp
  | cons a rest ih =>
    have hclear : Deserted n w.clear := ⟨h.session, h.calls⟩
    have hact : Deserted n (w.clear.act a).2 := hclear.act a
    rw [World.play, List.forall_mem_cons]
    exact ⟨hact, ih hact⟩

end Deserted

end FreshToken.Rehearsal.World
