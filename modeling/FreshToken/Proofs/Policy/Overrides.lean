import FreshToken.Proofs.Policy.Delays
import Mathlib.Order.MinMax
/-!
# Requested intervals

A request is answered as asked where it lies between the shortest delay and the delay that nobody
asked to change, and by the nearer of these two elsewhere.  After a failure that takes a fallback
interval no shorter than the minimum, which validation sees to.
-/

namespace FreshToken

namespace Duration

instance : LinearOrder Duration where
  le_refl _ := le_iff_toNanos.2 (Nat.le_refl _)
  le_trans _ _ _ hab hbc :=
    le_iff_toNanos.2 (Nat.le_trans (le_iff_toNanos.1 hab) (le_iff_toNanos.1 hbc))
  le_antisymm _ _ hab hba :=
    toNanos_inj.1 (Nat.le_antisymm (le_iff_toNanos.1 hab) (le_iff_toNanos.1 hba))
  le_total a b := by
    rw [le_iff_toNanos, le_iff_toNanos]
    exact Nat.le_total _ _
  lt_iff_le_not_ge a b := by
    rw [lt_iff_toNanos, le_iff_toNanos, le_iff_toNanos]
    exact Nat.lt_iff_le_and_not_ge
  toDecidableLE := inferInstance
  toDecidableEq := inferInstance
  min_def _ _ := rfl
  max_def _ _ := rfl

theorem sub_le_sub_right {a b : Duration} (h : a ≤ b) (c : Duration) : a - c ≤ b - c := by
  rw [le_iff_toNanos, toNanos_sub, toNanos_sub]
  exact Nat.sub_le_sub_right (le_iff_toNanos.1 h) _

theorem half_le_half {a b : Duration} (h : a ≤ b) : a.half ≤ b.half := by
  rw [le_iff_toNanos, toNanos_half, toNanos_half]
  exact Nat.div_le_div_right (le_iff_toNanos.1 h)

end Duration

namespace Policy

open Duration

variable {p : Policy} {base base' requested requested' : Duration}

/-! ## One answer for both outcomes -/

/-- The answer to a request where the delay would be `base` without one. -/
def grant (p : Policy) (base requested : Duration) : Duration :=
  max p.shortest (min requested base)

theorem shortest_le_grant : p.shortest ≤ p.grant base requested := le_max_left _ _

theorem grant_le (hbase : p.shortest ≤ base) : p.grant base requested ≤ base :=
  max_le hbase (min_le_right _ _)

theorem grant_mono (hbase : base ≤ base') (hrequested : requested ≤ requested') :
    p.grant base requested ≤ p.grant base' requested' :=
  max_le_max_left _ (min_le_min hrequested hbase)

theorem grant_of_mem (hshortest : p.shortest ≤ requested) (hbase : requested ≤ base) :
    p.grant base requested = requested := by
  rw [grant, min_eq_left hbase, max_eq_right hshortest]

/-- The cap comes last, and it lowers the minimum together with the answer. -/
theorem clamp_eq_grant (p : Policy) (base requested : Duration) :
    min (max (min requested base) p.minInterval) oneYear =
      p.grant (min base oneYear) requested := by
  rw [min_max_distrib_right, min_assoc, max_comm]
  rfl

theorem delayWithOverride_some (p : Policy) (lifetime requested : Duration) :
    p.delayWithOverride lifetime (some requested) =
      p.grant (p.delayAfterSuccess lifetime) requested := by
  rw [← delayWithOverride_none]
  exact clamp_eq_grant ..

theorem delayAfterFailure_some (p : Policy) (requested : Duration) :
    p.delayAfterFailure (some requested) = p.grant (p.delayAfterFailure none) requested :=
  clamp_eq_grant ..

/-! ## Laws of requests -/

/-- A delay that is `base` unless a request shortens it. -/
structure Honours (p : Policy) (base : Duration) (delay : Option Duration → Duration) : Prop where
  unasked : delay none = base
  shortens : ∀ asked, delay asked ≤ base
  monotone : ∀ requested requested', requested ≤ requested' →
    delay (some requested) ≤ delay (some requested')
  granted : ∀ requested, p.shortest ≤ requested → requested ≤ base →
    delay (some requested) = requested
  /-- What was answered once is answered as asked. -/
  idempotent : ∀ asked, delay (some (delay asked)) = delay asked
  least : ∀ asked, p.shortest ≤ delay asked
  most : ∀ asked, delay asked ≤ oneYear
  nonzero : ∀ asked, delay asked ≠ zero

theorem honours_of_grant (hp : p.Valid) {delay : Option Duration → Duration}
    (hnone : delay none = base)
    (hsome : ∀ requested, delay (some requested) = p.grant base requested)
    (hleast : p.shortest ≤ base) (hmost : base ≤ oneYear) : p.Honours base delay := by
  have hbelow : ∀ asked, delay asked ≤ base := by
    intro asked
    cases asked with
    | none => exact le_of_eq hnone
    | some requested => exact hsome requested ▸ grant_le hleast
  have habove : ∀ asked, p.shortest ≤ delay asked := by
    intro asked
    cases asked with
    | none => exact hnone ▸ hleast
    | some requested => exact hsome requested ▸ shortest_le_grant
  constructor
  case unasked => exact hnone
  case shortens => exact hbelow
  case monotone =>
    intro requested requested' h
    rw [hsome, hsome]
    exact grant_mono le_rfl h
  case granted =>
    intro requested hshortest hbase
    rw [hsome, grant_of_mem hshortest hbase]
  case idempotent =>
    intro asked
    rw [hsome, grant_of_mem (habove asked) (hbelow asked)]
  case least => exact habove
  case most => exact fun asked => le_trans (hbelow asked) hmost
  case nonzero =>
    intro asked hzero
    have hpos := shortest_pos hp
    have hle := le_iff_toNanos.1 (habove asked)
    rw [hzero, toNanos_zero] at hle
    omega

theorem delayWithOverride_honours (hp : p.Valid) (lifetime : Duration) :
    p.Honours (p.delayAfterSuccess lifetime) (p.delayWithOverride lifetime) :=
  honours_of_grant hp (delayWithOverride_none p lifetime) (delayWithOverride_some p lifetime)
    (le_iff_toNanos.2 (shortest_le_delayAfterSuccess p lifetime)) (min_le_right _ _)

theorem delayAfterFailure_honours (hp : p.Valid) :
    p.Honours (min p.fallbackInterval oneYear) p.delayAfterFailure :=
  honours_of_grant hp rfl (delayAfterFailure_some p)
    (le_iff_toNanos.2 (shortest_le_delayAfterFailure hp none)) (min_le_right _ _)

/-! ## Lifetimes -/

theorem delayAfterSuccess_mono (p : Policy) {lifetime lifetime' : Duration}
    (h : lifetime ≤ lifetime') : p.delayAfterSuccess lifetime ≤ p.delayAfterSuccess lifetime' := by
  have hderived := max_le_max (sub_le_sub_right h p.safetyMargin) (half_le_half h)
  exact min_le_min_right _ (max_le_max_right _ hderived)

theorem delayWithOverride_mono (p : Policy) {lifetime lifetime' : Duration}
    (h : lifetime ≤ lifetime') (asked : Option Duration) :
    p.delayWithOverride lifetime asked ≤ p.delayWithOverride lifetime' asked := by
  have hbase := p.delayAfterSuccess_mono h
  cases asked with
  | none =>
    rw [delayWithOverride_none, delayWithOverride_none]
    exact hbase
  | some requested =>
    rw [delayWithOverride_some, delayWithOverride_some]
    exact grant_mono hbase le_rfl

/-- A request never stretches the delay past the refresh point or the retry cadence, and a token
that lives longer is never replaced sooner. -/
theorem requests_only_shorten (hp : p.Valid) :
    (∀ lifetime, p.Honours (p.delayAfterSuccess lifetime) (p.delayWithOverride lifetime)) ∧
      p.Honours (min p.fallbackInterval oneYear) p.delayAfterFailure ∧
      ∀ lifetime lifetime' asked, lifetime ≤ lifetime' →
        p.delayWithOverride lifetime asked ≤ p.delayWithOverride lifetime' asked :=
  ⟨delayWithOverride_honours hp, delayAfterFailure_honours hp,
    fun _ _ asked h => p.delayWithOverride_mono h asked⟩

/-- A request between the bounds is granted after both outcomes, one above them is cut down to the
refresh point, and one below them is raised to the minimum. -/
theorem requests_only_shorten_twoMinutes :
    let p : Policy := { standard with
      fallbackInterval := .whole 600 (by decide)
      minInterval := .whole 120 (by decide) }
    let hour : Duration := .whole 3600 (by decide)
    let requested : Duration := .whole 200 (by decide)
    p.Valid ∧ p.delayWithOverride hour (some requested) = requested ∧
      p.delayAfterFailure (some requested) = requested ∧
      p.delayWithOverride hour (some longest) ≤ .whole 3300 (by decide) ∧
      .whole 120 (by decide) ≤ p.delayWithOverride hour (some zero) := by
  intro p hour requested
  have hvalid : p.Valid := by decide
  obtain ⟨hsuccess, hfailure, -⟩ := requests_only_shorten hvalid
  have hgranted := (hsuccess hour).granted requested (by decide) (by decide)
  have hgranted' := hfailure.granted requested (by decide) (by decide)
  have hshortened := (hsuccess hour).shortens (some longest)
  have hraised := (hsuccess hour).least (some zero)
  rw [show p.delayAfterSuccess hour = .whole 3300 (by decide) by decide] at hshortened
  rw [show p.shortest = .whole 120 (by decide) by decide] at hraised
  exact ⟨hvalid, hgranted, hgranted', hshortened, hraised⟩

/-- Without validation a request can stretch the delay after a failure. -/
example :
    let p : Policy := { standard with fallbackInterval := zero }
    p.delayAfterFailure none < p.delayAfterFailure (some zero) := by
  decide

end Policy

end FreshToken
