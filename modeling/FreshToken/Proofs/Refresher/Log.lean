import FreshToken.Machine
import FreshToken.Proofs.Refresher.Step
/-!
# Reading the log

Everything that happened to a refresher is in its log.  Here are the parts of it that theorems speak
about: attempts that began and ended, snapshots that were published and shown, and commands that
took the slot and were accepted.  What is reported to others is a part of its own.
-/

namespace FreshToken.Refresher

/-- A finished attempt: when it ended, what the calendar said then, and its outcome. -/
structure Completed where
  time : Nat
  clock : Nat
  outcome : Except AuthFault IssuedToken

namespace Event

@[simp] def begun? (e : Event) : Option (Nat × Cause) :=
  match e.signal with
  | .began cause => some (e.time, cause)
  | _ => none

@[simp] def completed? (e : Event) : Option Completed :=
  match e.signal with
  | .ended outcome clock => some ⟨e.time, clock, outcome⟩
  | _ => none

@[simp] def published? (e : Event) : Option (Nat × Snapshot) :=
  match e.signal with
  | .published s => some (e.time, s)
  | _ => none

@[simp] def shown? (e : Event) : Option Snapshot :=
  match e.signal with
  | .shown s => some s
  | _ => none

@[simp] def entered? (e : Event) : Option (Nat × Command) :=
  match e.signal with
  | .entered c => some (e.time, c)
  | _ => none

@[simp] def accepted? (e : Event) : Option (Nat × Command) :=
  match e.signal with
  | .accepted c => some (e.time, c)
  | _ => none

@[simp] def fired? (e : Event) : Option Nat :=
  match e.signal with
  | .fired => some e.time
  | _ => none

@[simp] def arrived? (e : Event) : Option Command :=
  match e.signal with
  | .arrived c => some c
  | _ => none

/-- The call that is answered well. -/
@[simp] def returned? (e : Event) : Option Nat :=
  match e.signal with
  | .returned caller (.ok _) => some caller
  | _ => none

@[simp] def launched? (e : Event) : Option Nat :=
  match e.signal with
  | .launched => some e.time
  | _ => none

@[simp] def note? (e : Event) : Option Note :=
  match e.signal with
  | .note n => some n
  | _ => none

end Event

@[simp] abbrev begun (es : List Event) : List (Nat × Cause) := es.filterMap Event.begun?

@[simp] abbrev completed (es : List Event) : List Completed := es.filterMap Event.completed?

@[simp] abbrev published (es : List Event) : List (Nat × Snapshot) := es.filterMap Event.published?

@[simp] abbrev shown (es : List Event) : List Snapshot := es.filterMap Event.shown?

/-- The commands that took the slot. -/
@[simp] abbrev entered (es : List Event) : List (Nat × Command) := es.filterMap Event.entered?

@[simp] abbrev accepted (es : List Event) : List (Nat × Command) := es.filterMap Event.accepted?

@[simp] abbrev fired (es : List Event) : List Nat := es.filterMap Event.fired?

/-- The instants at which the refresher began its work. -/
@[simp] abbrev launched (es : List Event) : List Nat := es.filterMap Event.launched?

/-- What was reported. -/
@[simp] abbrev notes (es : List Event) : List Note := es.filterMap Event.note?

/-- After the end nothing is attempted, published or reported. -/
theorem Step.of_stopped {r r' : Refresher} {signals : List Signal} (h : Step r r' signals)
    (stopped : r.phase = .stopped) :
    r'.phase = .stopped ∧ r'.snapshot = r.snapshot ∧ r'.tally = r.tally ∧
      completed (signals.map (Event.mk r.now)) = [] ∧ notes (signals.map (Event.mk r.now)) = [] := by
  cases h with
  | launch first starting =>
    rw [stopped] at starting
    cases starting
  | accept armed c call idle | fire armed call idle =>
    rw [stopped] at idle
    cases idle
  | succeed fetch t clock fetching | fail fetch f clock fetching | collapse fetch fetching =>
    rw [stopped] at fetching
    cases fetching
  | stop => exact ⟨rfl, rfl, rfl, rfl, rfl⟩
  | _ => exact ⟨stopped, rfl, rfl, rfl, rfl⟩

theorem length_filterMap_le_append {α : Type} (f : Event → Option α) (es new : List Event) :
    (es.filterMap f).length ≤ ((es ++ new).filterMap f).length := by
  rw [List.filterMap_append, List.length_append]
  exact Nat.le_add_right _ _

section
variable {policy : Policy} {tick : Nat} {r : Refresher} {es : List Event}

theorem Reached.completed_ne_nil (h : Reached policy tick r es) : completed es ≠ [] := by
  induction h with
  | opened now call t clock valid issued => simp [openingEvents]
  | step _ _ ih =>
    simp only [List.filterMap_append]
    exact List.append_ne_nil_of_left_ne_nil ih _

theorem Reached.begun_le (h : Reached policy tick r es) : ∀ a ∈ begun es, a.1 ≤ r.now := by
  intro a ha
  obtain ⟨e, he, hview⟩ := List.mem_filterMap.1 ha
  have htime := h.time_le e he
  unfold Event.begun? at hview
  split at hview
  · cases hview
    exact htime
  · cases hview

theorem Reached.exists_last (h : Reached policy tick r es) :
    ∃ earlier last, completed es = earlier ++ [last] := by
  rcases List.eq_nil_or_concat (completed es) with hnil | ⟨earlier, last, heq⟩
  · exact absurd hnil h.completed_ne_nil
  · exact ⟨earlier, last, by rw [heq, List.concat_eq_append]⟩

end

/-! ## What came before and after -/

section
variable {α : Type}

/-- Every event in a view of a log fits what happened before it. -/
def Each (f : Event → Option α) (P : List Event → α → Prop) (es : List Event) : Prop :=
  ∀ before e later a, es = before ++ e :: later → f e = some a → P before a

/-- Every event in a view of a log fits what happened after it. -/
def Since (f : Event → Option α) (P : α → List Event → Prop) (es : List Event) : Prop :=
  ∀ before e later a, es = before ++ e :: later → f e = some a → P a later

variable {f : Event → Option α} {e : Event} {a : α} {es new : List Event}

theorem each_of_none {P : List Event → α → Prop} (h : es.filterMap f = []) : Each f P es := by
  intro before e later a heq hview
  rw [heq, List.filterMap_append, Machine.filterMap_cons_toList, hview] at h
  simp at h

theorem each_skip {P : List Event → α → Prop} (hview : f e = none)
    (h : Each f (fun before => P (e :: before)) es) : Each f P (e :: es) := by
  rintro (_ | ⟨x, before⟩) e' later a heq hview'
  · cases heq
    rw [hview] at hview'
    cases hview'
  · cases heq
    exact h before e' later a rfl hview'

theorem each_take {P : List Event → α → Prop} (hview : f e = some a) (ha : P [] a)
    (h : Each f (fun before => P (e :: before)) es) : Each f P (e :: es) := by
  rintro (_ | ⟨x, before⟩) e' later a' heq hview'
  · cases heq
    rw [hview] at hview'
    cases hview'
    exact ha
  · cases heq
    exact h before e' later a' rfl hview'

theorem each_append {P : List Event → α → Prop} (hes : Each f P es)
    (hnew : Each f (fun before => P (es ++ before)) new) : Each f P (es ++ new) := by
  intro before e later a heq hview
  rcases List.append_eq_append_iff.1 heq with ⟨front, rfl, hback⟩ | ⟨back, rfl, hback⟩
  · exact hnew front e later a hback hview
  · cases back with
    | nil =>
      have ha := hnew [] e later a hback.symm hview
      simpa using ha
    | cons x back =>
      cases hback
      exact hes before e back a rfl hview

theorem since_append {P : α → List Event → Prop}
    (hes : Since f (fun a later => P a (later ++ new)) es) (hnew : Since f P new) :
    Since f P (es ++ new) := by
  intro before e later a heq hview
  rcases List.append_eq_append_iff.1 heq with ⟨front, rfl, hback⟩ | ⟨back, rfl, hback⟩
  · exact hnew front e later a hback hview
  · cases back with
    | nil => exact hnew [] e later a hback.symm hview
    | cons x back =>
      cases hback
      exact hes before e back a rfl hview

theorem since_of_none {P : α → List Event → Prop} (h : es.filterMap f = []) : Since f P es := by
  intro before e later a heq hview
  rw [heq, List.filterMap_append, Machine.filterMap_cons_toList, hview] at h
  simp at h

theorem since_singleton {P : α → List Event → Prop} (hview : f e = some a) (ha : P a []) :
    Since f P [e] := by
  intro before e' later a' heq hview'
  obtain ⟨rfl, hsingle⟩ | ⟨_, hnil⟩ := List.append_eq_singleton_iff.1 heq.symm
  · cases hsingle
    rw [hview] at hview'
    cases hview'
    exact ha
  · cases hnil

theorem Since.mono {P Q : α → List Event → Prop} (hes : Since f P es)
    (h : ∀ a later, P a later → Q a later) : Since f Q es :=
  fun before e later a heq hview => h a later (hes before e later a heq hview)

end

/-! ## Runs in parts -/

def timed? (r : Refresher) (m : Move) : Option (Refresher × List Event) :=
  (r.move? m).map fun p => (p.1, p.2.map (Event.mk r.now))

theorem run?_eq_machine (r : Refresher) (moves : List Move) :
    r.run? moves = Machine.run? timed? r moves := by
  induction moves generalizing r with
  | nil => rfl
  | cons m rest ih =>
    rw [run?, Machine.run?, timed?]
    cases r.move? m with
    | none => rfl
    | some p =>
      simp only [Option.map_some, bind, Option.bind_some]
      rw [ih]

section
variable {policy : Policy} {tick now clock : Nat} {call : Call} {front back : List Move}
  {r : Refresher} {es : List Event}

theorem opening_run?_eq (policy : Policy) (tick now : Nat) (call : Call) (clock : Nat)
    (moves : List Move) :
    Opening.run? policy tick now call clock moves =
      (Opening.run? policy tick now call clock []).bind fun p =>
        (p.1.run? moves).map fun q => (q.1, p.2 ++ q.2) := by
  unfold Opening.run?
  split
  · rfl
  · split
    · rfl
    · simp [run?]

theorem of_opening_run?_append
    (h : Opening.run? policy tick now call clock (front ++ back) = some (r, es)) :
    ∃ middle earlier new, Opening.run? policy tick now call clock front = some (middle, earlier) ∧
      middle.run? back = some (r, new) ∧ es = earlier ++ new := by
  rw [opening_run?_eq, Option.bind_eq_some_iff] at h
  obtain ⟨⟨first, opening⟩, hopening, h⟩ := h
  obtain ⟨⟨final, log⟩, hrun, heq⟩ := Option.map_eq_some_iff.1 h
  cases heq
  rw [run?_eq_machine] at hrun
  obtain ⟨middle, earlier, new, hfront, hback, rfl⟩ := Machine.of_run?_append hrun
  refine ⟨middle, opening ++ earlier, new, ?_, ?_, (List.append_assoc ..).symm⟩
  · rw [opening_run?_eq, hopening, Option.bind_some, run?_eq_machine, hfront, Option.map_some]
  · rw [run?_eq_machine, hback]

theorem opening_run?_append {middle : Refresher} {earlier new : List Event}
    (h : Opening.run? policy tick now call clock front = some (middle, earlier))
    (later : middle.run? back = some (r, new)) :
    Opening.run? policy tick now call clock (front ++ back) = some (r, earlier ++ new) := by
  rw [opening_run?_eq, Option.bind_eq_some_iff] at h ⊢
  obtain ⟨⟨first, opening⟩, hopening, h⟩ := h
  obtain ⟨⟨final, log⟩, hrun, heq⟩ := Option.map_eq_some_iff.1 h
  cases heq
  refine ⟨_, hopening, ?_⟩
  rw [run?_eq_machine] at hrun later ⊢
  rw [Machine.run?_append hrun later, Option.map_some, List.append_assoc]

end

/-! ## A run -/

theorem twoHours_lt : 7200 < secondsBound := by decide

/-- A token that is valid for two hours comes after two milliseconds. -/
def promptCall : Call := ⟨some 2000000, .issued ⟨⟨"first"⟩, .whole 7200 twoHours_lt⟩⟩

/-- A command is accepted, its attempt is cut off, and the timer is about to fire. -/
def cutOffMoves : List Move :=
  [.launch, .read, .send ⟨1, some Policy.standard.fallbackInterval⟩, .enter,
    .accept ⟨none, .breakdown⟩, .resume 1, .read, .wait 30002000000, .finish 30, .read,
    .wait 90002000000]

end FreshToken.Refresher
