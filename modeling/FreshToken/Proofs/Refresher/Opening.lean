import FreshToken.Cache.Surroundings
import FreshToken.Proofs.Refresher.TimeLimit
/-!
# How caches are opened

A cache with a valid policy asks for one token, and the answer decides.  What is asked can be
recorded without a difference to anything else.
-/

namespace FreshToken

inductive Asked (τ α : Type) where
  | authenticator (a : α) (c : Credentials)
  | transport (transport : τ) (url : Url)

section

variable {σ τ α : Type}

def TokenSource.asks (c : Credentials) : TokenSource τ α → Asked τ α
  | .custom a => .authenticator a c
  | .endpoint transport e => .transport transport (e.requestUrl c)

namespace Surroundings

/-- Surroundings that remember who is asked, in order. -/
def recorded (env : Surroundings σ τ α) : Surroundings (List (Asked τ α) × σ) τ α where
  tick p := env.tick p.2
  now p := env.now p.2
  clock p := env.clock p.2
  passTo t p := (p.1, env.passTo t p.2)
  hear p e := (p.1, env.hear p.2 e)
  authenticate a c := fun (asked, s) =>
    let (call, s) := (env.authenticate a c).run s
    (call, (asked ++ [.authenticator a c], s))
  get transport url := fun (asked, s) =>
    let (answer, s) := (env.get transport url).run s
    (answer, (asked ++ [.transport transport url], s))

variable (env : Surroundings σ τ α) (source : TokenSource τ α) (c : Credentials)
  (policy : Policy) (asked : List (Asked τ α)) (s : σ)

theorem call_recorded : (source.call env.recorded c).run (asked, s) =
    (((source.call env c).run s).1, asked ++ [source.asks c], ((source.call env c).run s).2) := by
  cases source <;> rfl

theorem foldl_hear_recorded (signals : List Signal) :
    signals.foldl env.recorded.hear (asked, s) = (asked, signals.foldl env.hear s) := by
  induction signals generalizing s with
  | nil => rfl
  | cons e rest ih => exact ih (env.hear s e)

theorem openCache_faulty {f : Policy.Fault} (h : policy.fault? = some f) :
    (env.openCache c source policy).run s = (.error (.returned (.config (.policy f))), s) := by
  change env.openCache c source policy s = _
  rw [openCache, h]

def firstAttempt : Opening :=
  ⟨policy, env.tick s, .start (env.tick s) policy.fetchTimeout (env.now s)
    ((source.call env c).run s).1⟩

theorem finishOpening_recorded (o : Opening) (signals : List Signal) :
    (env.recorded.finishOpening o signals).run (asked, s) =
      (((env.finishOpening o signals).run s).1, asked,
        ((env.finishOpening o signals).run s).2) := by
  change env.recorded.finishOpening o signals (asked, s) =
    ((env.finishOpening o signals s).1, asked, (env.finishOpening o signals s).2)
  simp only [finishOpening, foldl_hear_recorded]
  exact Prod.ext rfl (foldl_hear_recorded env _ _ _)

theorem openCache_of_valid (valid : policy.fault? = none) :
    ∃ signals, (env.openCache c source policy).run s =
      (env.finishOpening (env.firstAttempt source c policy s) signals).run
        ((source.call env c).run s).2 := by
  change ∃ signals, env.openCache c source policy s = _
  rw [openCache, valid]
  simp only [Opening.start_of_valid valid]
  exact ⟨_, rfl⟩

/-- With a valid policy someone is asked, once. -/
theorem openCache_recorded (valid : policy.fault? = none) :
    (env.recorded.openCache c source policy).run (asked, s) =
      (((env.openCache c source policy).run s).1, asked ++ [source.asks c],
        ((env.openCache c source policy).run s).2) := by
  change env.recorded.openCache c source policy (asked, s) =
    ((env.openCache c source policy s).1, asked ++ [source.asks c],
      (env.openCache c source policy s).2)
  rw [openCache, openCache, valid]
  simp only [call_recorded, Opening.start_of_valid valid]
  exact finishOpening_recorded ..

/-! ### What is kept -/

/-- Whatever is asked and heard, the property stays. -/
structure Keeps (P : σ → Prop) : Prop where
  passTo {s : σ} (t : Nat) (h : P s) : P (env.passTo t s)
  hear {s : σ} (e : Signal) (h : P s) : P (env.hear s e)
  authenticate {s : σ} (a : α) (c : Credentials) (h : P s) : P ((env.authenticate a c).run s).2
  get {s : σ} (transport : τ) (url : Url) (h : P s) : P ((env.get transport url).run s).2

variable {env s} {P : σ → Prop}

theorem Keeps.foldl_hear (hkeeps : env.Keeps P) (hs : P s) (signals : List Signal) :
    P (signals.foldl env.hear s) := by
  induction signals generalizing s with
  | nil => exact hs
  | cons e rest ih => exact ih (hkeeps.hear e hs)

theorem Keeps.call (hkeeps : env.Keeps P) (hs : P s) : P ((source.call env c).run s).2 := by
  cases source with
  | custom a => exact hkeeps.authenticate a c hs
  | endpoint transport e => exact hkeeps.passTo _ (hkeeps.get transport (e.requestUrl c) hs)

theorem Keeps.openCache (hkeeps : env.Keeps P) (hs : P s) :
    P ((env.openCache c source policy).run s).2 := by
  cases hpolicy : policy.fault? with
  | some f =>
    rw [env.openCache_faulty source c policy s hpolicy]
    exact hs
  | none =>
    obtain ⟨signals, hopen⟩ := env.openCache_of_valid source c policy s hpolicy
    rw [hopen]
    exact hkeeps.foldl_hear (hkeeps.passTo _ (hkeeps.foldl_hear (hkeeps.call source c hs) _)) _

end Surroundings

end

end FreshToken
