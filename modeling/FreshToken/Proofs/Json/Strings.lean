import FreshToken.Json.Quoted
import FreshToken.Json.Scanner
/-!
# The grammar of strings

How a string is spelled between its quotes, and which text its units stand for.  The scanner reads
every string that is spelled so to its closing quote.  The text that is read from the units is the
one they stand for, and there is none where they stand for no text.
-/

namespace FreshToken.Json

variable {p : Piece} {ps : List Piece} {q : Quoted} {s : String} {bs rest : List UInt8}

/-! ## Spelling -/

/-- The letters after a backslash with the bytes that they stand for: quote, backslash, slash,
backspace, form feed, line feed, carriage return and tab. -/
def shortEscapes : List (UInt8 × UInt8) :=
  [(0x22, 0x22), (0x5c, 0x5c), (0x2f, 0x2f), (0x62, 0x08), (0x66, 0x0c), (0x6e, 0x0a),
    (0x72, 0x0d), (0x74, 0x09)]

inductive HexDigit : UInt8 → Nat → Prop
  | decimal {d : Nat} (h : d < 10) : HexDigit (UInt8.ofNat (0x30 + d)) d
  | upper {d : Nat} (h : d < 6) : HexDigit (UInt8.ofNat (0x41 + d)) (10 + d)
  | lower {d : Nat} (h : d < 6) : HexDigit (UInt8.ofNat (0x61 + d)) (10 + d)

inductive Piece.Spells : Piece → List UInt8 → Prop
  | plain {b : UInt8} (control : 0x20 ≤ b) (quote : b ≠ 0x22) (backslash : b ≠ 0x5c) :
    Piece.Spells (.byte b) [b]
  | short {e b : UInt8} (h : (e, b) ∈ shortEscapes) : Piece.Spells (.byte b) [0x5c, e]
  | unit {h₁ h₂ h₃ h₄ : UInt8} {w x y z : Nat} (first : HexDigit h₁ w) (second : HexDigit h₂ x)
    (third : HexDigit h₃ y) (fourth : HexDigit h₄ z) :
    Piece.Spells (.unit (w * 4096 + x * 256 + y * 16 + z)) [0x5c, 0x75, h₁, h₂, h₃, h₄]

/-- The bytes after the opening quote of a string, up to the closing one. -/
inductive Quoted.Spells : Quoted → List UInt8 → Prop
  | close : Quoted.Spells ⟨[], none⟩ [0x22]
  | more {p : Piece} {ps : List Piece} {bs cs : List UInt8} (first : p.Spells bs)
    (rest : Quoted.Spells ⟨ps, none⟩ cs) : Quoted.Spells ⟨p :: ps, none⟩ (bs ++ cs)

theorem Quoted.Spells.damage_eq_none (h : q.Spells bs) : q.damage = none := by
  cases h <;> rfl

theorem shortEscape?_of_mem {e b : UInt8} (h : (e, b) ∈ shortEscapes) :
    shortEscape? e = some b := by
  have hall : (shortEscapes.all fun p => shortEscape? p.1 = some p.2) = true := by decide
  exact of_decide_eq_true (List.all_eq_true.1 hall (e, b) h)

theorem HexDigit.lt {b : UInt8} {d : Nat} (h : HexDigit b d) : d < 16 := by
  cases h <;> omega

theorem hexValue?_decimal : ∀ d < 10, hexValue? (UInt8.ofNat (0x30 + d)) = some d := by decide

theorem hexValue?_upper : ∀ d < 6, hexValue? (UInt8.ofNat (0x41 + d)) = some (10 + d) := by decide

theorem hexValue?_lower : ∀ d < 6, hexValue? (UInt8.ofNat (0x61 + d)) = some (10 + d) := by decide

theorem HexDigit.value {b : UInt8} {d : Nat} (h : HexDigit b d) : hexValue? b = some d := by
  cases h with
  | decimal h => exact hexValue?_decimal _ h
  | upper h => exact hexValue?_upper _ h
  | lower h => exact hexValue?_lower _ h

theorem Piece.Spells.scan (h : p.Spells bs) (rest : List UInt8) :
    scanString (bs ++ rest) = Quoted.cons p (scanString rest) := by
  cases h with
  | @plain b control quote backslash =>
    have hcontrol : ¬b < 0x20 := UInt8.not_lt.2 control
    rw [List.singleton_append, scanString.eq_def]
    simp only [if_neg quote, if_neg backslash, if_neg hcontrol]
  | @short e b h =>
    have hescape : shortEscape? e = some b := shortEscape?_of_mem h
    have hunit : e ≠ 0x75 := by
      rintro rfl
      cases hescape
    rw [List.cons_append, List.singleton_append, scanString.eq_def]
    simp [hunit, hescape]
  | @unit h₁ h₂ h₃ h₄ w x y z first second third fourth =>
    have hnumber : fourHex? h₁ h₂ h₃ h₄ = some (w * 4096 + x * 256 + y * 16 + z) := by
      simp only [fourHex?, first.value, second.value, third.value, fourth.value,
        Option.some.injEq]
      omega
    rw [List.cons_append, scanString.eq_def]
    simp [hnumber]

/-- The scanner reads a string to its closing quote. -/
theorem Quoted.Spells.scan (h : q.Spells bs) (rest : List UInt8) :
    scanString (bs ++ rest) = (q, rest) := by
  induction h with
  | close =>
    rw [List.singleton_append, scanString.eq_def]
    rfl
  | more first _ ih => rw [List.append_assoc, first.scan, ih, Quoted.cons]

/-- A unit has sixteen bits. -/
theorem Quoted.Spells.unit_lt (h : q.Spells bs) {u : Nat} (hu : .unit u ∈ q.pieces) :
    u < 0x10000 := by
  induction h with
  | close => cases hu
  | more first _ ih =>
    rcases List.mem_cons.1 hu with rfl | hu
    · cases first with
      | unit first second third fourth =>
        have hw := first.lt
        have hx := second.lt
        have hy := third.lt
        have hz := fourth.lt
        omega
    · exact ih hu

/-! ## Texts -/

/-- The bytes that units stand for.  A character beyond sixteen bits is written as two halves. -/
inductive Stands : List Piece → List UInt8 → Prop
  | nil : Stands [] []
  | byte {ps : List Piece} {bs : List UInt8} (b : UInt8) (rest : Stands ps bs) :
    Stands (.byte b :: ps) (b :: bs)
  | char {ps : List Piece} {bs : List UInt8} (c : Char) (hc : c.toNat < 0x10000)
    (rest : Stands ps bs) : Stands (.unit c.toNat :: ps) (String.utf8EncodeChar c ++ bs)
  | halves {ps : List Piece} {bs : List UInt8} (c : Char) (hc : 0x10000 ≤ c.toNat)
    (rest : Stands ps bs) :
    Stands (.unit (0xd800 + (c.toNat - 0x10000) / 0x400) ::
      .unit (0xdc00 + (c.toNat - 0x10000) % 0x400) :: ps) (String.utf8EncodeChar c ++ bs)

/-- The string is closed, and its units stand for the text. -/
def Quoted.Denotes (q : Quoted) (s : String) : Prop :=
  q.damage = none ∧ Stands q.pieces s.toUTF8.data.toList

theorem toNat_lt_or_of_char (c : Char) :
    c.toNat < 0xd800 ∨ 0xe000 ≤ c.toNat ∧ c.toNat < 0x110000 := by
  have h := c.valid
  unfold UInt32.isValidChar Nat.isValidChar at h
  rcases h with h | ⟨hlow, hhigh⟩
  · exact Or.inl h
  · refine Or.inr ⟨?_, hhigh⟩
    change 0xdfff < c.toNat at hlow
    omega

theorem joinHalves_halves {c : Char} (hc : 0x10000 ≤ c.toNat) :
    joinHalves (0xd800 + (c.toNat - 0x10000) / 0x400)
      (0xdc00 + (c.toNat - 0x10000) % 0x400) = c := by
  have hnat : 0x10000 + (0xd800 + (c.toNat - 0x10000) / 0x400 - 0xd800) * 0x400 +
      (0xdc00 + (c.toNat - 0x10000) % 0x400 - 0xdc00) = c.toNat := by omega
  rw [joinHalves, hnat, Char.ofNat_toNat]

theorem Stands.resolve (h : Stands ps bs) : resolve none ps = .ok bs := by
  induction h with
  | nil => rfl
  | byte b _ ih => rw [Json.resolve, ih]; rfl
  | char c hc _ ih =>
    have hrange := toNat_lt_or_of_char c
    have hlow : isLowHalf c.toNat = false := by simp [isLowHalf]; omega
    have hhigh : isHighHalf c.toNat = false := by simp [isHighHalf]; omega
    rw [Json.resolve.eq_def]
    simp only [hlow, hhigh, Char.ofNat_toNat, ih]
    rfl
  | halves c hc _ ih =>
    have hrange := toNat_lt_or_of_char c
    have hlow : isLowHalf (0xd800 + (c.toNat - 0x10000) / 0x400) = false := by
      simp [isLowHalf]; omega
    have hhigh : isHighHalf (0xd800 + (c.toNat - 0x10000) / 0x400) = true := by
      simp [isHighHalf]; omega
    have hsecond : isLowHalf (0xdc00 + (c.toNat - 0x10000) % 0x400) = true := by
      simp [isLowHalf]; omega
    rw [Json.resolve.eq_def]
    simp only [hlow, hhigh, hsecond, joinHalves_halves hc, ih]
    rfl

theorem bind_eq_ok {ε α β : Type} {x : Except ε α} {f : α → Except ε β} {b : β} :
    (x >>= f) = .ok b ↔ ∃ a, x = .ok a ∧ f a = .ok b := by
  cases x with
  | error e => exact ⟨fun h => (nomatch h), fun ⟨_, h, _⟩ => (nomatch h)⟩
  | ok a => exact ⟨fun h => ⟨a, rfl, h⟩, fun ⟨_, ha, h⟩ => by cases ha; exact h⟩

theorem map_eq_ok {ε α β : Type} {x : Except ε α} {f : α → β} {b : β} :
    x.map f = .ok b ↔ ∃ a, x = .ok a ∧ f a = b := by
  cases x <;> simp [Except.map]

theorem toNat_ofNat_of_valid {n : Nat} (h : n.isValidChar) : (Char.ofNat n).toNat = n := by
  rw [Char.ofNat, dif_pos h]
  rfl

theorem Stands.unit {u : Nat} (hu : u < 0x10000) (hlow : isLowHalf u = false)
    (hhigh : isHighHalf u = false) (rest : Stands ps bs) :
    Stands (.unit u :: ps) (String.utf8EncodeChar (Char.ofNat u) ++ bs) := by
  have hvalid : u.isValidChar := by
    simp [isLowHalf, isHighHalf] at hlow hhigh
    unfold Nat.isValidChar
    omega
  have hnat : (Char.ofNat u).toNat = u := toNat_ofNat_of_valid hvalid
  have h := Stands.char (Char.ofNat u) (by rwa [hnat]) rest
  rwa [hnat] at h

theorem Stands.joined {u v : Nat} (hhigh : isHighHalf u = true) (hlow : isLowHalf v = true)
    (rest : Stands ps bs) :
    Stands (.unit u :: .unit v :: ps) (String.utf8EncodeChar (joinHalves u v) ++ bs) := by
  simp [isLowHalf, isHighHalf] at hlow hhigh
  have hvalid : (0x10000 + (u - 0xd800) * 0x400 + (v - 0xdc00)).isValidChar := by
    unfold Nat.isValidChar
    omega
  have hnat : (joinHalves u v).toNat = 0x10000 + (u - 0xd800) * 0x400 + (v - 0xdc00) :=
    toNat_ofNat_of_valid hvalid
  have hu : 0xd800 + ((joinHalves u v).toNat - 0x10000) / 0x400 = u := by omega
  have hv : 0xdc00 + ((joinHalves u v).toNat - 0x10000) % 0x400 = v := by omega
  have h := Stands.halves (joinHalves u v) (by omega) rest
  rwa [hu, hv] at h

theorem Stands.of_resolve (hunits : ∀ u, .unit u ∈ ps → u < 0x10000)
    (h : Json.resolve none ps = .ok bs) : Stands ps bs := by
  have htail {p : Piece} {ps : List Piece} (h : ∀ u, .unit u ∈ p :: ps → u < 0x10000) :
      ∀ u, .unit u ∈ ps → u < 0x10000 := fun u hu => h u (List.mem_cons_of_mem p hu)
  fun_induction Json.resolve none ps generalizing bs with
  | case1 =>
    cases h
    exact .nil
  | case2 b ps ih =>
    obtain ⟨cs, hcs, hbs⟩ := bind_eq_ok.1 h
    obtain rfl := Except.ok.inj hbs
    exact .byte b (ih (htail hunits) hcs)
  | case6 u hu hhigh v ps hlow ih =>
    obtain ⟨cs, hcs, hbs⟩ := bind_eq_ok.1 h
    obtain rfl := Except.ok.inj hbs
    exact .joined hhigh hlow (ih (htail (htail hunits)) hcs)
  | case8 u ps hlow hhigh ih =>
    obtain ⟨cs, hcs, hbs⟩ := bind_eq_ok.1 h
    obtain rfl := Except.ok.inj hbs
    have hu := hunits u List.mem_cons_self
    exact .unit hu (by simpa using hlow) (by simpa using hhigh) (ih (htail hunits) hcs)
  | case3 => cases h
  | case4 => cases h
  | case5 => cases h
  | case7 => cases h

theorem fromUTF8?_eq_some {bytes : List UInt8} {s : String} :
    String.fromUTF8? ⟨bytes.toArray⟩ = some s ↔ s.toUTF8.data.toList = bytes := by
  constructor
  · intro h
    rw [String.fromUTF8?] at h
    split at h
    · obtain rfl := Option.some.inj h
      rfl
    · cases h
  · rintro rfl
    have hvalid : s.toUTF8.IsValidUTF8 := s.isValidUTF8
    rw [Array.toArray_toList, String.fromUTF8?, dif_pos hvalid]
    rfl

/-- The text that is read from a string is the one that its units stand for. -/
theorem Quoted.Spells.text_eq_ok (h : q.Spells bs) : q.text = .ok s ↔ q.Denotes s := by
  have hdamage := h.damage_eq_none
  have hresolve {cs : List UInt8} : Json.resolve none q.pieces = .ok cs ↔ Stands q.pieces cs :=
    ⟨Stands.of_resolve fun _ hu => h.unit_lt hu, Stands.resolve⟩
  have htext : q.text = .ok s ↔
      ∃ cs, Json.resolve none q.pieces = .ok cs ∧ String.fromUTF8? ⟨cs.toArray⟩ = some s := by
    unfold Quoted.text
    rw [hdamage, bind_eq_ok]
    refine exists_congr fun cs => and_congr_right fun _ => ?_
    cases String.fromUTF8? ⟨cs.toArray⟩ <;> simp
  simp only [htext, hresolve, fromUTF8?_eq_some, Quoted.Denotes, hdamage, true_and]
  constructor
  · rintro ⟨_, hstands, rfl⟩
    exact hstands
  · exact fun hstands => ⟨_, hstands, rfl⟩

/-! ## Texts without escapes -/

def Quoted.plain (s : String) : Quoted := ⟨s.toUTF8.data.toList.map .byte, none⟩

def isPlain (b : UInt8) : Bool := 0x20 ≤ b && b != 0x22 && b != 0x5c

theorem Quoted.Spells.bytes (h : bs.all isPlain = true) {cs : List UInt8}
    (hmore : Quoted.Spells ⟨ps, none⟩ cs) :
    Quoted.Spells ⟨bs.map .byte ++ ps, none⟩ (bs ++ cs) := by
  induction bs with
  | nil => exact hmore
  | cons b bs ih =>
    rw [List.all_cons, Bool.and_eq_true] at h
    obtain ⟨hb, hbs⟩ := h
    simp only [isPlain, Bool.and_eq_true, decide_eq_true_eq, bne_iff_ne] at hb
    have hfirst : (Piece.byte b).Spells [b] := .plain hb.1.1 hb.1.2 hb.2
    have hall : Quoted.Spells ⟨.byte b :: (bs.map .byte ++ ps), none⟩ ([b] ++ (bs ++ cs)) :=
      .more hfirst (ih hbs)
    exact hall

theorem Quoted.Spells.of_bytes (h : bs.all isPlain = true) :
    Quoted.Spells ⟨bs.map .byte, none⟩ (bs ++ [0x22]) := by
  have hall := Quoted.Spells.bytes h .close
  rwa [List.append_nil] at hall

theorem Stands.bytes (bs : List UInt8) {cs : List UInt8} (h : Stands ps cs) :
    Stands (bs.map .byte ++ ps) (bs ++ cs) := by
  induction bs with
  | nil => exact h
  | cons b _ ih => exact .byte b ih

theorem stands_bytes (bs : List UInt8) : Stands (bs.map .byte) bs := by
  have hall := Stands.bytes bs .nil
  rwa [List.append_nil, List.append_nil] at hall

theorem Quoted.spells_plain (h : s.toUTF8.data.toList.all isPlain = true) :
    (Quoted.plain s).Spells (s.toUTF8.data.toList ++ [0x22]) :=
  .of_bytes h

theorem Quoted.denotes_plain (s : String) : (Quoted.plain s).Denotes s :=
  ⟨rfl, stands_bytes _⟩

end FreshToken.Json
