/-!
# Punycode

International labels of a domain written in ASCII.  The ASCII characters of a label stand first;
the others follow in ascending order, each as the number of steps from the one before it, where a
step moves one place on in the label and, past its end, to the next character.
-/

namespace FreshToken.Url.Punycode

def digit (n : Nat) : Char := if n < 26 then Char.ofNat (0x61 + n) else Char.ofNat (0x16 + n)

def digitValue? (c : Char) : Option Nat :=
  if 'a' ≤ c && c ≤ 'z' then some (c.toNat - 0x61)
  else if 'A' ≤ c && c ≤ 'Z' then some (c.toNat - 0x41)
  else if '0' ≤ c && c ≤ '9' then some (c.toNat - 0x16)
  else none

/-- Digits below the threshold end a number; it lies between 1 and 26. -/
def threshold (place bias : Nat) : Nat := min 26 (max 1 (place - bias))

theorem threshold_pos (place bias : Nat) : 0 < threshold place bias := by
  unfold threshold; omega

theorem threshold_le (place bias : Nat) : threshold place bias ≤ 26 := by
  unfold threshold; omega

/-- How often 35 divides a number before it is at most 455, in steps of 36, and what is left. -/
def damp (n places : Nat) : Nat × Nat :=
  if 455 < n then damp (n / 35) (places + 36) else (n, places)
termination_by n
decreasing_by exact Nat.div_lt_self (by omega) (by omega)

/-- The bias after a number was written as the `count`-th one. -/
def adapt (n count : Nat) (first : Bool) : Nat :=
  let scaled := if first then n / 700 else n / 2
  let (rest, places) := damp (scaled + scaled / count) 0
  places + 36 * rest / (rest + 38)

def number (bias place n : Nat) : List Char :=
  let t := threshold place bias
  if n < t then [digit n]
  else digit (t + (n - t) % (36 - t)) :: number bias (place + 36) ((n - t) / (36 - t))
termination_by n
decreasing_by
  have := threshold_pos place bias
  have := Nat.div_le_self (n - threshold place bias) (36 - threshold place bias)
  omega

/-- What is carried from one character of a label to the next one while it is written. -/
structure Writing where
  /-- Steps since the last character that was written. -/
  steps : Nat
  bias : Nat
  /-- Characters that are written. -/
  count : Nat
  output : List Char

/-- A pass over the label that writes every occurrence of the character `c`. -/
def passFor (basic c : Nat) (label : List Char) (w : Writing) : Writing :=
  label.foldl (fun w d =>
    if d.toNat < c then { w with steps := w.steps + 1 }
    else if d.toNat = c then
      ⟨0, adapt w.steps (w.count + 1) (w.count == basic), w.count + 1,
        w.output ++ number w.bias 36 w.steps⟩
    else w) w

/-- The characters of a label that are not ASCII, ascending, each once. -/
def extended (label : List Char) : List Nat :=
  (((label.map Char.toNat).filter (128 ≤ ·)).mergeSort (· ≤ ·)).eraseDups

def encode (label : List Char) : List Char :=
  let basic := label.filter fun c => c.toNat < 128
  let front := if basic.isEmpty then [] else basic ++ ['-']
  let start : Writing × Nat := (⟨0, 72, basic.length, front⟩, 128)
  ((extended label).foldl (fun (w, next) c =>
    let w := passFor basic.length c label { w with steps := w.steps + (c - next) * (w.count + 1) }
    ({ w with steps := w.steps + 1 }, c + 1)) start).1.output

/-- The number in front, `weight` times its value added to `sum`, and what follows it. -/
def readNumber? (bias : Nat) : List Char → (place weight sum : Nat) → Option (Nat × List Char)
  | [], _, _, _ => none
  | c :: rest, place, weight, sum => do
    let d ← digitValue? c
    let t := threshold place bias
    if d < t then return (sum + d * weight, rest)
    else readNumber? bias rest (place + 36) (weight * (36 - t)) (sum + d * weight)

theorem length_of_readNumber? {bias : Nat} {cs : List Char} {place weight sum : Nat}
    {r : Nat × List Char} (h : readNumber? bias cs place weight sum = some r) :
    r.2.length < cs.length := by
  induction cs generalizing place weight sum with
  | nil => simp [readNumber?] at h
  | cons c rest ih =>
    unfold readNumber? at h
    cases hd : digitValue? c with
    | none => simp [hd] at h
    | some d =>
      simp only [hd, Option.bind_eq_bind, Option.bind_some] at h
      split at h
      · obtain rfl := Option.some.inj h
        simp
      · have := ih h
        simp only [List.length_cons]
        omega

/-- The label when its ASCII characters and the extended ones up to `next` are in place. -/
def insertAll (bias next steps : Nat) (label cs : List Char) : Option (List Char) :=
  if cs = [] then some label
  else
    match _h : readNumber? bias cs 36 1 steps with
    | none => none
    | some (total, rest) =>
      let places := label.length + 1
      let c := next + total / places
      if c < 0xd800 ∨ (0xdfff < c ∧ c < 0x110000) then
        insertAll (adapt (total - steps) places (steps == 0)) c
          (total % places + 1) (label.insertIdx (total % places) (Char.ofNat c)) rest
      else none
termination_by cs.length
decreasing_by exact length_of_readNumber? _h

def decode? (cs : List Char) : Option (List Char) :=
  let back := (cs.reverse.takeWhile (· ≠ '-')).reverse
  let basic := cs.take (cs.length - back.length - 1)
  if cs.all (fun c => c.toNat < 128) then insertAll 72 128 0 basic back else none

end FreshToken.Url.Punycode
