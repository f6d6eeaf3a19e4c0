import FreshToken.Proofs.Executor.Alone
import FreshToken.Proofs.Executor.FreshBuffers
/-!
# Calls on a pool and calls with buffers of their own

The two cannot be told apart by what is sent and returned.  Every run over a pool is one over fresh
buffers, without what the pool does, and every run over fresh buffers is one over a pool, with some
steps of its borrowers in between.
-/

namespace FreshToken.Calls

open Machine

variable {k : BufferKind (List UInt8)} {s s' : Calls (SharedPool (List UInt8))}
  {t t' : Calls (List (List UInt8))} {moves : List (Move (SharedPool.Move (List UInt8)))}
  {es new : List (Signal (SharedPool.Signal (List UInt8)))}

/-! ## Runs over a pool are runs over fresh buffers -/

theorem Leased.follows (hs : Leased s) (hm : Mirrored s t) (hfresh : ∀ n, k.fresh n = [])
    (hreset : ∀ b, k.reset b = [])
    (h : run? (move? (Lender.pooled k)) s moves = some (s', new)) :
    Follows s' t (moves.filterMap Move.own?) (own new) := by
  induction moves generalizing s t new with
  | nil =>
    cases h
    exact ⟨t, rfl, hm⟩
  | cons m rest ih =>
    obtain ⟨after, front, back, hmove, hrun, rfl⟩ := of_run?_cons h
    have hstep := step_of_move? hmove
    obtain ⟨t₁, hfront, hm₁⟩ := hstep.follows hs.clean hm
    obtain ⟨t₂, hback, hm₂⟩ := ih (hstep.leased hs hfresh hreset) hm₁ hrun
    rw [filterMap_cons_toList, own, List.filterMap_append]
    exact ⟨t₂, run?_append hfront hback, hm₂⟩

/-! ## Runs over fresh buffers are runs over a pool -/

theorem own_steps (j i : Nat) : (steps j i).filterMap Move.own? = [] := by
  apply List.filterMap_eq_nil_iff.2
  intro m hm
  rw [(List.mem_replicate.1 hm).2]
  rfl

/-- Calls on a pool can do what calls with buffers of their own do next. -/
theorem Leased.able {m : Move Empty} {es : List (Signal Empty)} (hs : Leased s) (hm : Mirrored s t)
    (h : Step Lender.fresh t m t' es) :
    ∃ ms s' new, run? (move? (Lender.pooled k)) s ms = some (s', new) ∧
      ms.filterMap Move.own? = [m] := by
  cases h with
  | @get q | @post q => exact ⟨[.call q], _, _, run?_one rfl, rfl⟩
  | @send n j q p buffer hjob hpayload | @spoil n j q p buffer f hjob hpayload =>
    obtain ⟨j', hjob'⟩ := leasing_of_bare hm.jobs.symm hjob
    obtain ⟨i, s', new, _, hrun, _⟩ := hs.encodes (k := k) hjob' hpayload
    refine ⟨_, s', new, hrun, ?_⟩
    rw [List.filterMap_append, own_steps]
    rfl
  | @answer n q lease? a hjob =>
    obtain ⟨lease', hjob'⟩ := pending_of_bare hm.jobs.symm hjob
    have hmove : ∃ p, s.move? (Lender.pooled k) (.answer n a) = some p := by simp [move?, hjob']
    obtain ⟨⟨s', new⟩, hmove⟩ := hmove
    exact ⟨[.answer n a], s', new, run?_one hmove, rfl⟩
  | @cancel n q lease? hjob =>
    obtain ⟨lease', hjob'⟩ := pending_of_bare hm.jobs.symm hjob
    have hmove : ∃ p, s.move? (Lender.pooled k) (.cancel n) = some p := by simp [move?, hjob']
    obtain ⟨⟨s', new⟩, hmove⟩ := hmove
    exact ⟨[.cancel n], s', new, run?_one hmove, rfl⟩
  | @close n q lease? result? hjob =>
    obtain ⟨lease', hjob'⟩ := ending_of_bare hm.jobs.symm hjob
    obtain ⟨i, s', front, hrun⟩ := hs.closes (k := k) hjob'
    refine ⟨_, s', _, hrun, ?_⟩
    rw [List.filterMap_append, own_steps]
    rfl
  | @others m => exact m.elim

theorem Leased.matches {ms : List (Move Empty)} {es : List (Signal Empty)} (hs : Leased s)
    (hm : Mirrored s t) (hfresh : ∀ n, k.fresh n = []) (hreset : ∀ b, k.reset b = [])
    (h : run? (move? Lender.fresh) t ms = some (t', es)) :
    ∃ moves s' new, run? (move? (Lender.pooled k)) s moves = some (s', new) ∧
      moves.filterMap Move.own? = ms ∧ own new = es := by
  induction ms generalizing s t es with
  | nil =>
    cases h
    exact ⟨[], s, [], rfl, rfl, rfl⟩
  | cons m rest ih =>
    obtain ⟨after, front, back, hmove, hrest, rfl⟩ := of_run?_cons h
    obtain ⟨ms₁, s₁, new₁, hrun₁, hown₁⟩ := hs.able (k := k) hm (step_of_move? hmove)
    -- the run that follows is the one that is there, as calls do one thing at a time
    obtain ⟨t₁, hfollow, hm₁⟩ := hs.follows hm hfresh hreset hrun₁
    rw [hown₁, run?_one hmove] at hfollow
    obtain ⟨rfl, rfl⟩ := Prod.mk.inj (Option.some.inj hfollow)
    obtain ⟨ms₂, s₂, new₂, hrun₂, hown₂, hlog₂⟩ :=
      ih (hs.reached hfresh hreset (reached_of_run? hrun₁)) hm₁ hrest
    refine ⟨ms₁ ++ ms₂, s₂, new₁ ++ new₂, run?_append hrun₁ hrun₂, ?_, ?_⟩
    · rw [List.filterMap_append, hown₁, hown₂]
      rfl
    · rw [own, List.filterMap_append, ← hlog₂]

/-! ## The two are the same -/

/-- What a run over a pool has in common with one over fresh buffers. -/
structure LikeFresh (k : BufferKind (List UInt8))
    (moves : List (Move (SharedPool.Move (List UInt8)))) (s : Calls (SharedPool (List UInt8)))
    (es : List (Signal (SharedPool.Signal (List UInt8)))) : Prop where
  /-- What a post sends is its payload as JSON and nothing else. -/
  body : ∀ (n : Nat) (q : Request) (p : Payload) (url : Url) (body? : Option (List UInt8)),
    .called n q ∈ es → q.payload = some p → .sent n url body? ∈ es →
      url = q.url ∧ ∃ v, p = .value v ∧ body? = some v.encode
  /-- The body stays in the buffer while the transport is at work. -/
  held : ∀ (n : Nat) (q : Request) (p : Payload) (lease? : Option Nat),
    s.jobs[n]? = some ⟨q, .pending lease?⟩ → q.payload = some p →
      ∃ v j, p = .value v ∧ lease? = some j ∧
        (Lender.pooled k).content? s.lender j = some v.encode
  unformed : ∀ (n : Nat) (q : Request) (written : List UInt8) (f : Json.Fault) (url : Url)
    (body? : Option (List UInt8)), .called n q ∈ es → q.payload = some (.formless written f) →
      .sent n url body? ∉ es
  /-- What is said of a call, which is sent once. -/
  course : ∀ (n : Nat) (q : Request), .called n q ∈ es →
    ∃ progress, s.jobs[n]? = some ⟨q, progress⟩ ∧ Course n q progress (trace n es) ∧
      outbound n es = progress.outbound q
  same : ∃ t, run? (move? Lender.fresh) (start []) (moves.filterMap Move.own?) = some (t, own es)

section
variable {n : Nat} {q : Request} {p : Payload}

theorem Courses.body {url : Url} {body? : Option (List UInt8)} (hc : Courses s es)
    (hcalled : .called n q ∈ es) (hp : q.payload = some p) (hsent : .sent n url body? ∈ es) :
    url = q.url ∧ ∃ v, p = .value v ∧ body? = some v.encode := by
  obtain ⟨progress, _, hcourse⟩ := hc.job hcalled
  obtain ⟨hurl, hbody, hformed⟩ := hcourse.sent hp (mem_trace hsent rfl rfl)
  obtain ⟨v, hv, hencode⟩ := Payload.value_of_formed hformed
  refine ⟨hurl, v, hv, ?_⟩
  rw [hbody, hencode]

theorem Leased.held {lease? : Option Nat} (hs : Leased s) (hc : Courses s es)
    (hjob : s.jobs[n]? = some ⟨q, .pending lease?⟩) (hp : q.payload = some p) :
    ∃ v j, p = .value v ∧ lease? = some j ∧
      (Lender.pooled k).content? s.lender j = some v.encode := by
  obtain ⟨v, hv, hencode⟩ := Payload.value_of_formed ((hc.course n _ hjob).formed hp)
  cases lease? with
  | none =>
    rw [hs.unleased n q hjob] at hp
    cases hp
  | some j =>
    obtain ⟨x, hx, b, p', rfl, hp', hcontent⟩ := hs.fits n j _ hjob rfl
    obtain rfl := Option.some.inj (hp.symm.trans hp')
    refine ⟨v, j, hv, rfl, ?_⟩
    rw [content?_pooled hx, hcontent, hencode]

end

theorem mirrored_start (capacity : Nat) :
    Mirrored (start (SharedPool.start (α := List UInt8) capacity)) (start []) where
  jobs := rfl
  untouched := untouched_start

theorem like_fresh_of_run? {capacity : Nat} (hfresh : ∀ n, k.fresh n = [])
    (hreset : ∀ b, k.reset b = [])
    (h : run? (move? (Lender.pooled k)) (start (SharedPool.start capacity)) moves =
      some (s, es)) : LikeFresh k moves s es := by
  have hs := (leased_start capacity).reached hfresh hreset (reached_of_run? h)
  have hc := courses_reached hfresh hreset (reached_of_run? h)
  obtain ⟨t, hrun, _⟩ := (leased_start capacity).follows (mirrored_start capacity) hfresh hreset h
  exact {
    body := fun n q p url body? hcalled hp hsent => hc.body hcalled hp hsent
    held := fun n q p lease? hjob hp => hs.held hc hjob hp
    unformed := by
      intro n q written f url body? hcalled hp hsent
      obtain ⟨_, v, hv, _⟩ := hc.body hcalled hp hsent
      cases hv
    course := by
      intro n q hcalled
      obtain ⟨progress, hjob, hcourse⟩ := hc.job hcalled
      exact ⟨progress, hjob, hcourse, hcourse.outbound⟩
    same := ⟨t, hrun⟩ }

/-- Whatever others do with the pool, calls send and return the same as if each had an empty buffer
of its own. -/
theorem pooled_like_fresh (hfresh : ∀ n, k.fresh n = []) (hreset : ∀ b, k.reset b = [])
    (capacity : Nat) :
    (∀ moves s es, run? (move? (Lender.pooled k)) (start (SharedPool.start capacity)) moves =
      some (s, es) → LikeFresh k moves s es) ∧
    ∀ ms t es, run? (move? Lender.fresh) (start []) ms = some (t, es) →
      ∃ moves s new, run? (move? (Lender.pooled k)) (start (SharedPool.start capacity)) moves =
        some (s, new) ∧ moves.filterMap Move.own? = ms ∧ own new = es := by
  constructor
  · intro moves s es h
    exact like_fresh_of_run? hfresh hreset h
  · intro ms t es h
    exact (leased_start capacity).matches (mirrored_start capacity) hfresh hreset h

def spoiledPost : Request where
  payload := some (.formless "[1,".toUTF8.toList (.mismatch (.refused "no number")))
  url := ⟨"https", some ⟨"", "h", none⟩, .segments ["a"], none, none⟩
  reader := .any

def sentPost : Request where
  payload := some (.value (.list [.int 2]))
  url := ⟨"https", some ⟨"", "h", none⟩, .segments ["b"], none, none⟩
  reader := .any

/-- Three posts on a pool with room for one buffer.  The first leaves half of a body in it, which
the second then gets; the third gets a buffer that was given to the pool with something in it.  The
second is given up while the third is under way. -/
def crossedMoves : List (Move (SharedPool.Move (List UInt8))) :=
  [.call spoiledPost, .lender (.step 0), .lender (.step 0), .lender (.step 0), .encode 0,
    .call sentPost, .lender (.step 0), .lender (.step 0), .close 0, .lender (.step 1),
    .lender (.step 1), .encode 1, .lender (.handIn [0]), .lender (.step 2), .lender (.step 2),
    .call sentPost, .lender (.step 3), .lender (.step 3), .encode 2, .cancel 1,
    .answer 2 (.ok ⟨200, none, "null".toUTF8.toList⟩)]

theorem like_fresh_of_crossedMoves :
    ∃ s es, run? (move? (Lender.pooled byteBuffers)) (start (SharedPool.start 1)) crossedMoves =
        some (s, es) ∧
      trace 0 es = .called 0 spoiledPost :: opening 0 .postJson ++
        closing 0 (some (.error (.encoding (.mismatch (.refused "no number"))))) ∧
      trace 1 es = .called 1 sentPost :: opening 1 .postJson ++
        [.sent 1 sentPost.url (some "[2]".toUTF8.toList), .cancelled 1] ∧
      LikeFresh byteBuffers crossedMoves s es := by
  have hruns : (run? (move? (Lender.pooled byteBuffers)) (start (SharedPool.start 1))
      crossedMoves).map (fun p => (trace 0 p.2, trace 1 p.2)) =
      some (.called 0 spoiledPost :: opening 0 .postJson ++
          closing 0 (some (.error (.encoding (.mismatch (.refused "no number"))))),
        .called 1 sentPost :: opening 1 .postJson ++
          [.sent 1 sentPost.url (some "[2]".toUTF8.toList), .cancelled 1]) := by
    rfl
  obtain ⟨⟨s, es⟩, h, heq⟩ := Option.map_eq_some_iff.1 hruns
  exact ⟨s, es, h, congrArg Prod.fst heq, congrArg Prod.snd heq,
    (pooled_like_fresh (fun _ => rfl) (fun _ => rfl) 1).1 _ s es h⟩

end FreshToken.Calls
