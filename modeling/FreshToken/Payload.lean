import FreshToken.Json.Fault
/-!
# Payloads

What is sent.  Most payloads are JSON values.  A payload may also have no JSON form; then some of
its text may be written before that shows.
-/

namespace FreshToken

inductive Payload where
  | value (v : Json.Value)
  /-- No JSON form, which shows only after `written`. -/
  | formless (written : List UInt8) (fault : Json.Fault)

/-- The bytes that are written for a payload, and the fault that ended the writing, if one did. -/
def Payload.encode : Payload → List UInt8 × Option Json.Fault
  | .value v => (v.encode, none)
  | .formless written fault => (written, some fault)

theorem Payload.value_of_formed {p : Payload} (h : p.encode.2 = none) :
    ∃ v, p = .value v ∧ p.encode.1 = v.encode := by
  cases p with
  | value v => exact ⟨v, rfl, rfl⟩
  | formless written fault => cases h

end FreshToken
