import FreshToken.Proofs.Json.Strings
/-!
# The grammar of documents

How a document is spelled: blanks may stand around every value, key and mark, a number is as long
as its digits go, and everything else ends with a mark of its own.  The scanner reads every document
that is spelled so, up to its last byte, and finds no damage in it.
-/

namespace FreshToken.Json

variable {bs cs fs ws rest : List UInt8}

/-! ## Blanks -/

/-- Spaces, tabs, line feeds and carriage returns. -/
def Blanks (bs : List UInt8) : Prop := ∀ b ∈ bs, b = 0x20 ∨ b = 0x09 ∨ b = 0x0a ∨ b = 0x0d

theorem isBlank_iff {b : UInt8} :
    isBlank b = true ↔ b = 0x20 ∨ b = 0x09 ∨ b = 0x0a ∨ b = 0x0d := by
  simp [isBlank, or_assoc]

theorem blanks_nil : Blanks [] := List.forall_mem_nil _

theorem Blanks.skip (h : Blanks ws) (rest : List UInt8) :
    skipBlanks (ws ++ rest) = skipBlanks rest :=
  List.dropWhile_append_of_pos fun b hb => isBlank_iff.2 (h b hb)

theorem skipBlanks_cons {b : UInt8} (h : isBlank b = false) (rest : List UInt8) :
    skipBlanks (b :: rest) = b :: rest :=
  List.dropWhile_cons_of_neg (by simp [h])

theorem Blanks.skip_cons (h : Blanks ws) {b : UInt8} (hb : isBlank b = false)
    (rest : List UInt8) : skipBlanks (ws ++ b :: rest) = b :: rest := by
  rw [h.skip, skipBlanks_cons hb]

/-! ## Numbers -/

def digitBytes (ds : List Nat) : List UInt8 := ds.map fun d => UInt8.ofNat (0x30 + d)

def IsDigits (ds : List Nat) : Prop := ds ≠ [] ∧ ∀ d ∈ ds, d < 10

inductive FractionSpells : List Nat → List UInt8 → Prop
  | none : FractionSpells [] []
  | point {ds : List Nat} (h : IsDigits ds) : FractionSpells ds (0x2e :: digitBytes ds)

inductive ExponentSign : Bool → List UInt8 → Prop
  | none : ExponentSign false []
  | plus : ExponentSign false [0x2b]
  | minus : ExponentSign true [0x2d]

inductive ExponentSpells : Option (Bool × List Nat) → List UInt8 → Prop
  | none : ExponentSpells none []
  | some {e : UInt8} {minus : Bool} {ss : List UInt8} {ds : List Nat}
    (letter : e = 0x65 ∨ e = 0x45) (sign : ExponentSign minus ss) (h : IsDigits ds) :
    ExponentSpells (some (minus, ds)) (e :: (ss ++ digitBytes ds))

/-- A zero in front stands alone before the point. -/
inductive Numeral.Spells : Numeral → List UInt8 → Prop
  | mk {negative : Bool} {whole fraction : List Nat} {exponent : Option (Bool × List Nat)}
    {fs es : List UInt8} (digits : IsDigits whole) (zero : whole.head? = some 0 → whole = [0])
    (point : FractionSpells fraction fs) (power : ExponentSpells exponent es) :
    Numeral.Spells ⟨negative, whole, fraction, exponent⟩
      ((if negative then [0x2d] else []) ++ (digitBytes whole ++ (fs ++ es)))

def NoDigit (bs : List UInt8) : Prop := ∀ b ∈ bs.head?, isDigit b = false

def Apart (bs : List UInt8) : Prop :=
  ∀ b ∈ bs.head?, isDigit b = false ∧ b ≠ 0x2e ∧ b ≠ 0x65 ∧ b ≠ 0x45

theorem Apart.noDigit (h : Apart rest) : NoDigit rest := fun b hb => (h b hb).1

theorem isDigit_digitByte : ∀ d < 10, isDigit (UInt8.ofNat (0x30 + d)) = true := by decide

theorem digitValue_digitByte : ∀ d < 10, digitValue (UInt8.ofNat (0x30 + d)) = d := by decide

theorem scanDigits_digitBytes {ds : List Nat} (h : ∀ d ∈ ds, d < 10) (hrest : NoDigit rest) :
    scanDigits (digitBytes ds ++ rest) = (ds, rest) := by
  have hdigits : ∀ b ∈ digitBytes ds, isDigit b = true := by
    intro b hb
    obtain ⟨d, hd, rfl⟩ := List.mem_map.1 hb
    exact isDigit_digitByte d (h d hd)
  have hvalues : (digitBytes ds).map digitValue = ds := by
    calc (digitBytes ds).map digitValue
      _ = ds.map (digitValue ∘ fun d => UInt8.ofNat (0x30 + d)) := List.map_map
      _ = ds.map id := List.map_congr_left fun d hd => digitValue_digitByte d (h d hd)
      _ = ds := List.map_id ds
  have hstop : rest.takeWhile isDigit = [] ∧ rest.dropWhile isDigit = rest := by
    cases rest with
    | nil => exact ⟨rfl, rfl⟩
    | cons b bs =>
      have hb := hrest b rfl
      exact ⟨List.takeWhile_cons_of_neg (by simp [hb]), List.dropWhile_cons_of_neg (by simp [hb])⟩
  unfold scanDigits
  rw [List.takeWhile_append_of_pos hdigits, List.dropWhile_append_of_pos hdigits, hstop.1, hstop.2,
    List.append_nil, hvalues]

/-- Digits are read to the last one; there is at least one, and a digit comes first. -/
theorem IsDigits.scan {ds : List Nat} (h : IsDigits ds) (hrest : NoDigit rest) :
    ∃ d more, ds = d :: more ∧ scanDigits (digitBytes ds ++ rest) = (d :: more, rest) := by
  obtain ⟨hne, hlt⟩ := h
  obtain ⟨d, more, rfl⟩ := List.exists_cons_of_ne_nil hne
  exact ⟨d, more, rfl, scanDigits_digitBytes hlt hrest⟩

theorem IsDigits.exists_cons {ds : List Nat} (h : IsDigits ds) :
    ∃ b more, digitBytes ds = b :: more ∧ isDigit b = true := by
  obtain ⟨hne, hlt⟩ := h
  obtain ⟨d, more, rfl⟩ := List.exists_cons_of_ne_nil hne
  exact ⟨_, _, rfl, isDigit_digitByte d (hlt d List.mem_cons_self)⟩

theorem ne_of_isDigit {b c : UInt8} (h : isDigit b = true) (hc : isDigit c = false) : b ≠ c := by
  rintro rfl
  rw [h] at hc
  cases hc

section Numbers

variable {negative : Bool} {whole fraction : List Nat} {exponent : Option (Bool × List Nat)}

theorem ExponentSign.scan {minus : Bool} {ss : List UInt8} {ds : List Nat}
    (h : ExponentSign minus ss) (hds : IsDigits ds) (hrest : NoDigit rest) :
    scanExponent negative whole fraction (ss ++ (digitBytes ds ++ rest)) =
      (.number ⟨negative, whole, fraction, some (minus, ds)⟩, rest) := by
  obtain ⟨d, more, rfl, hscan⟩ := hds.scan hrest
  cases h with
  | plus => simp [scanExponent, hscan]
  | minus => simp [scanExponent, hscan]
  | none =>
    obtain ⟨b, bs, hbytes, hb⟩ := hds.exists_cons
    have hplus : b ≠ 0x2b := ne_of_isDigit hb (by decide)
    have hminus : b ≠ 0x2d := ne_of_isDigit hb (by decide)
    rw [hbytes, List.cons_append] at hscan
    simp [scanExponent, hbytes, hplus, hminus, hscan]

theorem ExponentSpells.scan (h : ExponentSpells exponent bs) (hrest : Apart rest) :
    scanAfterFraction negative whole fraction (bs ++ rest) =
      (.number ⟨negative, whole, fraction, exponent⟩, rest) := by
  cases h with
  | none =>
    cases rest with
    | nil => rfl
    | cons b rest =>
      obtain ⟨-, -, he, hE⟩ := hrest b rfl
      simp [scanAfterFraction, he, hE]
  | some letter sign h =>
    rw [List.cons_append, List.append_assoc, scanAfterFraction, if_pos (by simpa using letter)]
    exact sign.scan h hrest.noDigit

/-- What follows the digits of a number does not continue them. -/
theorem ExponentSpells.noDigit (h : ExponentSpells exponent bs) (hrest : Apart rest) :
    NoDigit (bs ++ rest) := by
  cases h with
  | none => exact hrest.noDigit
  | some letter _ _ =>
    intro b hb
    obtain rfl : _ = b := by simpa using hb
    rcases letter with rfl | rfl <;> decide

theorem FractionSpells.scan (negative : Bool) (whole : List Nat)
    (h : FractionSpells fraction fs) (hexponent : ExponentSpells exponent bs)
    (hrest : Apart rest) :
    scanAfterWhole negative whole (fs ++ (bs ++ rest)) =
      (.number ⟨negative, whole, fraction, exponent⟩, rest) := by
  cases h with
  | point h =>
    obtain ⟨d, more, rfl, hscan⟩ := h.scan (hexponent.noDigit hrest)
    rw [List.cons_append, scanAfterWhole, hscan]
    exact hexponent.scan hrest
  | none =>
    have hpoint : ∀ bs', bs ++ rest ≠ 0x2e :: bs' := by
      intro bs' heq
      cases hexponent with
      | none =>
        have := hrest 0x2e (by simp_all)
        simp at this
      | some letter =>
        obtain ⟨rfl, -⟩ := List.cons.inj heq
        rcases letter with h | h <;> simp at h
    rw [List.nil_append, scanAfterWhole]
    · exact hexponent.scan hrest
    · exact hpoint

theorem FractionSpells.noDigit (h : FractionSpells fraction fs)
    (hexponent : ExponentSpells exponent bs) (hrest : Apart rest) :
    NoDigit (fs ++ (bs ++ rest)) := by
  cases h with
  | none => exact hexponent.noDigit hrest
  | point _ =>
    intro b hb
    obtain rfl : 0x2e = b := by simpa using hb
    decide

theorem scanNumber_digits {es : List UInt8} (negative : Bool) (digits : IsDigits whole)
    (zero : whole.head? = some 0 → whole = [0]) (point : FractionSpells fraction fs)
    (power : ExponentSpells exponent es) (hrest : Apart rest) :
    scanNumber negative (digitBytes whole ++ (fs ++ (es ++ rest))) =
      (.number ⟨negative, whole, fraction, exponent⟩, rest) := by
  obtain ⟨d, more, rfl, hscan⟩ := digits.scan (point.noDigit power hrest)
  have hafter := point.scan negative (d :: more) power hrest
  unfold scanNumber
  rw [hscan]
  cases d with
  | succ d => exact hafter
  | zero =>
    obtain rfl : more = [] := by simpa using zero rfl
    exact hafter

end Numbers

/-! ## Documents -/

inductive Separates : (first : Bool) → List UInt8 → Prop
  | first {ws : List UInt8} (h : Blanks ws) : Separates true ws
  | comma {vs ws : List UInt8} (before : Blanks vs) (after : Blanks ws) :
    Separates false (vs ++ 0x2c :: ws)

mutual

inductive Doc.Spells : Doc → List UInt8 → Prop
  | null : Doc.Spells .null [0x6e, 0x75, 0x6c, 0x6c]
  | yes : Doc.Spells (.bool true) [0x74, 0x72, 0x75, 0x65]
  | no : Doc.Spells (.bool false) [0x66, 0x61, 0x6c, 0x73, 0x65]
  | number {n : Numeral} {bs : List UInt8} (h : n.Spells bs) : Doc.Spells (.number n) bs
  | string {q : Quoted} {bs : List UInt8} (h : q.Spells bs) : Doc.Spells (.string q) (0x22 :: bs)
  | list {items : Items} {bs : List UInt8} (h : Items.Spells true items bs) :
    Doc.Spells (.list items) (0x5b :: bs)
  | object {members : Members} {bs : List UInt8} (h : Members.Spells true members bs) :
    Doc.Spells (.object members) (0x7b :: bs)

/-- The bytes after the opening bracket or after an item, up to the closing bracket. -/
inductive Items.Spells : (first : Bool) → Items → List UInt8 → Prop
  | closed {first : Bool} {ws : List UInt8} (h : Blanks ws) :
    Items.Spells first .closed (ws ++ [0x5d])
  | item {first : Bool} {doc : Doc} {items : Items} {ss ds cs : List UInt8}
    (before : Separates first ss) (value : Doc.Spells doc ds)
    (rest : Items.Spells false items cs) :
    Items.Spells first (.item doc items) (ss ++ (ds ++ cs))

/-- The bytes after the opening brace or after a member, up to the closing brace. -/
inductive Members.Spells : (first : Bool) → Members → List UInt8 → Prop
  | closed {first : Bool} {ws : List UInt8} (h : Blanks ws) :
    Members.Spells first .closed (ws ++ [0x7d])
  | member {first : Bool} {key : Quoted} {doc : Doc} {members : Members}
    {ss ks vs ws ds cs : List UInt8} (before : Separates first ss) (name : key.Spells ks)
    (left : Blanks vs) (right : Blanks ws) (value : Doc.Spells doc ds)
    (rest : Members.Spells false members cs) :
    Members.Spells first (.member key doc members)
      (ss ++ 0x22 :: (ks ++ (vs ++ 0x3a :: (ws ++ (ds ++ cs)))))

end

mutual

theorem Doc.Spells.damage?_eq_none {bs : List UInt8} {doc : Doc} (h : doc.Spells bs) :
    doc.damage? = none := by
  cases h with
  | null => rfl
  | yes => rfl
  | no => rfl
  | number => rfl
  | string h => exact h.damage_eq_none
  | list h => exact Items.Spells.damage?_eq_none h
  | object h => exact Members.Spells.damage?_eq_none h

theorem Items.Spells.damage?_eq_none {bs : List UInt8} {first : Bool} {items : Items}
    (h : Items.Spells first items bs) : items.damage? = none := by
  cases h with
  | closed => rfl
  | item _ value rest =>
    rw [Items.damage?, Doc.Spells.damage?_eq_none value, Items.Spells.damage?_eq_none rest]
    rfl

theorem Members.Spells.damage?_eq_none {bs : List UInt8} {first : Bool} {members : Members}
    (h : Members.Spells first members bs) : members.damage? = none := by
  cases h with
  | closed => rfl
  | member _ name _ _ value rest =>
    rw [Members.damage?, name.damage_eq_none, Doc.Spells.damage?_eq_none value,
      Members.Spells.damage?_eq_none rest]
    rfl

end

/-! ## What the scanner reads -/

theorem Blanks.apart (h : Blanks ws) (hrest : Apart rest) : Apart (ws ++ rest) := by
  cases ws with
  | nil => exact hrest
  | cons b ws =>
    intro c hc
    obtain rfl : b = c := by simpa using hc
    rcases h b List.mem_cons_self with rfl | rfl | rfl | rfl <;> decide

theorem apart_cons {b : UInt8} (h : isDigit b = false ∧ b ≠ 0x2e ∧ b ≠ 0x65 ∧ b ≠ 0x45)
    (rest : List UInt8) : Apart (b :: rest) := by
  intro c hc
  obtain rfl : b = c := by simpa using hc
  exact h

theorem Separates.apart {ss : List UInt8} (h : Separates false ss) (rest : List UInt8) :
    Apart (ss ++ rest) := by
  cases h with
  | comma before =>
    rw [List.append_assoc, List.cons_append]
    exact before.apart (apart_cons (by decide) _)

theorem Items.Spells.apart {items : Items} (h : Items.Spells false items bs)
    (rest : List UInt8) : Apart (bs ++ rest) := by
  cases h with
  | closed h =>
    rw [List.append_assoc]
    exact h.apart (apart_cons (by decide) _)
  | item before =>
    rw [List.append_assoc]
    exact before.apart _

theorem Members.Spells.apart {members : Members} (h : Members.Spells false members bs)
    (rest : List UInt8) : Apart (bs ++ rest) := by
  cases h with
  | closed h =>
    rw [List.append_assoc]
    exact h.apart (apart_cons (by decide) _)
  | member before =>
    rw [List.append_assoc]
    exact before.apart _

theorem Numeral.Spells.exists_cons {n : Numeral} (h : n.Spells bs) :
    ∃ b more, bs = b :: more ∧ (b = 0x2d ∨ isDigit b = true) := by
  obtain @⟨negative, _, _, _, _, _, digits, _, _, _⟩ := h
  cases negative with
  | true => exact ⟨_, _, rfl, .inl rfl⟩
  | false =>
    obtain ⟨b, more, heq, hb⟩ := digits.exists_cons
    rw [heq]
    exact ⟨b, _, rfl, .inr hb⟩

theorem isBlank_eq_false_of_isDigit {b : UInt8} (h : isDigit b = true) : isBlank b = false := by
  rw [← Bool.not_eq_true]
  intro hblank
  rcases isBlank_iff.1 hblank with rfl | rfl | rfl | rfl <;> cases h

/-- A value begins with a byte that is neither blank nor a closing bracket. -/
theorem Doc.Spells.exists_cons {doc : Doc} (h : doc.Spells bs) :
    ∃ b more, bs = b :: more ∧ isBlank b = false ∧ b ≠ 0x5d := by
  cases h with
  | number h =>
    obtain ⟨b, more, rfl, hb⟩ := h.exists_cons
    refine ⟨b, more, rfl, ?_⟩
    rcases hb with rfl | hb
    · decide
    · exact ⟨isBlank_eq_false_of_isDigit hb, ne_of_isDigit hb (by decide)⟩
  | null => exact ⟨_, _, rfl, by decide⟩
  | yes => exact ⟨_, _, rfl, by decide⟩
  | no => exact ⟨_, _, rfl, by decide⟩
  | string => exact ⟨_, _, rfl, by decide⟩
  | list => exact ⟨_, _, rfl, by decide⟩
  | object => exact ⟨_, _, rfl, by decide⟩

/-- What may follow a document: only a number runs into what comes next. -/
def Doc.Ends : Doc → List UInt8 → Prop
  | .number _, rest => Apart rest
  | _, _ => True

theorem Apart.ends (h : Apart rest) (doc : Doc) : doc.Ends rest := by
  cases doc with
  | number => exact h
  | _ => trivial

theorem Blanks.ends {bs : List UInt8} (h : Blanks bs) (doc : Doc) : doc.Ends bs := by
  have hnil : Apart [] := fun _ hb => by cases hb
  have happend := (h.apart hnil).ends doc
  rwa [List.append_nil] at happend

/-! ### One step of the scanner -/

section Steps

variable {fuel : Nat} {doc : Doc} {items : Items} {members : Members} {key : Quoted} {b : UInt8}

theorem scanWord_append (word rest : List UInt8) :
    scanWord doc word (word ++ rest) = (doc, rest) := by
  induction word with
  | nil => rfl
  | cons e es ih =>
    rw [List.cons_append, scanWord, if_pos rfl]
    exact ih

theorem scanValue_string {q : Quoted} (hws : Blanks ws) (hq : q.Spells bs) :
    scanValue (fuel + 1) (ws ++ 0x22 :: (bs ++ rest)) = (.string q, rest) := by
  rw [scanValue, hws.skip_cons (by decide)]
  simp only [hq.scan]
  rfl

theorem scanValue_minus (hws : Blanks ws) :
    scanValue (fuel + 1) (ws ++ 0x2d :: bs) = scanNumber true bs := by
  rw [scanValue, hws.skip_cons (by decide)]
  rfl

theorem scanValue_digit (hws : Blanks ws) (hb : isDigit b = true) :
    scanValue (fuel + 1) (ws ++ b :: bs) = scanNumber false (b :: bs) := by
  have hne (c : UInt8) (hc : isDigit c = false) : b ≠ c := ne_of_isDigit hb hc
  rw [scanValue, hws.skip_cons (isBlank_eq_false_of_isDigit hb)]
  simp only [hne 0x6e (by decide), hne 0x74 (by decide), hne 0x66 (by decide),
    hne 0x22 (by decide), hne 0x5b (by decide), hne 0x7b (by decide), hne 0x2d (by decide), hb,
    if_true, if_false]

theorem Numeral.Spells.scan {n : Numeral} (h : n.Spells bs) (hws : Blanks ws)
    (hrest : Apart rest) : scanValue (fuel + 1) (ws ++ (bs ++ rest)) = (.number n, rest) := by
  obtain @⟨negative, whole, _, _, fs, es, digits, zero, point, power⟩ := h
  have hnumber := scanNumber_digits negative digits zero point power hrest
  simp only [List.append_assoc]
  cases negative with
  | true =>
    rw [if_pos rfl, List.singleton_append, scanValue_minus hws]
    exact hnumber
  | false =>
    obtain ⟨b, more, heq, hb⟩ := digits.exists_cons
    rw [if_neg Bool.false_ne_true, List.nil_append]
    rw [heq] at hnumber ⊢
    rw [List.cons_append, scanValue_digit hws hb]
    exact hnumber

def scanItems (first : Bool) : Nat → List UInt8 → Scanned Items :=
  if first then scanFirstItem else scanMoreItems

theorem scanItems_closed (first : Bool) (hws : Blanks ws) :
    scanItems first (fuel + 1) (ws ++ 0x5d :: rest) = (.closed, rest) := by
  have hskip : skipBlanks (ws ++ 0x5d :: rest) = 0x5d :: rest := hws.skip_cons (by decide) rest
  cases first with
  | true =>
    rw [scanItems, if_pos rfl, scanFirstItem, hskip]
    rfl
  | false =>
    rw [scanItems, if_neg Bool.false_ne_true, scanMoreItems, hskip]
    rfl

theorem scanItems_item {first : Bool} {ss : List UInt8} (before : Separates first ss)
    (hb : isBlank b = false) (hclosing : b ≠ 0x5d) (hvalue : scanValue fuel (b :: bs) = (doc, cs))
    (hmore : scanItems false fuel cs = (items, rest)) :
    scanItems first (fuel + 1) (ss ++ b :: bs) = (.item doc items, rest) := by
  rw [scanItems, if_neg Bool.false_ne_true] at hmore
  cases before with
  | first hws =>
    rw [scanItems, if_pos rfl, scanFirstItem, hws.skip_cons hb]
    simp only [hclosing, hvalue, hmore, if_false]
  | comma hvs hws =>
    rw [scanItems, if_neg Bool.false_ne_true, List.append_assoc, List.cons_append, scanMoreItems,
      hvs.skip_cons (by decide)]
    simp only [hws.skip_cons hb, hclosing, hvalue, hmore, if_false]
    rfl

def scanMembers (first : Bool) : Nat → List UInt8 → Scanned Members :=
  if first then scanFirstMember else scanMoreMembers

theorem scanMembers_closed (first : Bool) (hws : Blanks ws) :
    scanMembers first (fuel + 1) (ws ++ 0x7d :: rest) = (.closed, rest) := by
  have hskip : skipBlanks (ws ++ 0x7d :: rest) = 0x7d :: rest := hws.skip_cons (by decide) rest
  cases first with
  | true =>
    rw [scanMembers, if_pos rfl, scanFirstMember, hskip]
    rfl
  | false =>
    rw [scanMembers, if_neg Bool.false_ne_true, scanMoreMembers, hskip]
    rfl

theorem scanMembers_quote {first : Bool} {ss : List UInt8} (before : Separates first ss) :
    scanMembers first (fuel + 1) (ss ++ 0x22 :: bs) = scanMember fuel bs := by
  have hquote : isBlank 0x22 = false := by decide
  cases before with
  | first hws =>
    rw [scanMembers, if_pos rfl, scanFirstMember, hws.skip_cons hquote]
    rfl
  | comma hvs hws =>
    rw [scanMembers, if_neg Bool.false_ne_true, List.append_assoc, List.cons_append,
      scanMoreMembers, hvs.skip_cons (by decide)]
    simp only [hws.skip_cons hquote]
    rfl

theorem scanMember_of_spells {ks vs : List UInt8} (hkey : key.Spells ks) (hvs : Blanks vs)
    (hvalue : scanValue fuel bs = (doc, cs))
    (hmore : scanMembers false fuel cs = (members, rest)) :
    scanMember (fuel + 1) (ks ++ (vs ++ 0x3a :: bs)) = (.member key doc members, rest) := by
  have hcolon : isBlank 0x3a = false := by decide
  rw [scanMembers, if_neg Bool.false_ne_true] at hmore
  rw [scanMember, hkey.scan]
  simp only [hvs.skip_cons hcolon, hvalue, hmore]
  rfl

theorem scanValue_list (hws : Blanks ws) (h : scanItems true fuel bs = (items, rest)) :
    scanValue (fuel + 1) (ws ++ 0x5b :: bs) = (.list items, rest) := by
  rw [scanItems, if_pos rfl] at h
  rw [scanValue, hws.skip_cons (by decide)]
  simp only [h]
  rfl

theorem scanValue_object (hws : Blanks ws) (h : scanMembers true fuel bs = (members, rest)) :
    scanValue (fuel + 1) (ws ++ 0x7b :: bs) = (.object members, rest) := by
  rw [scanMembers, if_pos rfl] at h
  rw [scanValue, hws.skip_cons (by decide)]
  simp only [h]
  rfl

end Steps

theorem Items.Spells.length_pos {first : Bool} {items : Items}
    (h : Items.Spells first items bs) : 0 < bs.length := by
  cases h with
  | closed => simp
  | item _ value =>
    obtain ⟨b, more, rfl, -⟩ := value.exists_cons
    simp only [List.length_append, List.length_cons]
    omega

theorem Members.Spells.length_pos {first : Bool} {members : Members}
    (h : Members.Spells first members bs) : 0 < bs.length := by
  cases h with
  | closed => simp
  | member =>
    simp only [List.length_append, List.length_cons]
    omega

theorem Doc.Spells.length_pos {doc : Doc} (h : doc.Spells bs) : 0 < bs.length := by
  obtain ⟨b, more, rfl, -⟩ := h.exists_cons
  exact Nat.zero_lt_succ _

-- The induction is on how the bytes are spelled.  Two units of fuel for every byte are enough: a
-- step into a container or along it uses at most two, and passes a byte.
mutual

theorem Doc.Spells.scan {doc : Doc} {bs ws rest : List UInt8} {fuel : Nat} (h : doc.Spells bs)
    (hfuel : 2 * bs.length ≤ fuel) (hws : Blanks ws) (hrest : doc.Ends rest) :
    scanValue fuel (ws ++ (bs ++ rest)) = (doc, rest) := by
  have hpos := h.length_pos
  obtain ⟨fuel, rfl⟩ : ∃ n, fuel = n + 1 := ⟨fuel - 1, by omega⟩
  cases h with
  | null =>
    rw [List.cons_append, scanValue, hws.skip_cons (by decide)]
    exact scanWord_append [0x75, 0x6c, 0x6c] rest
  | yes =>
    rw [List.cons_append, scanValue, hws.skip_cons (by decide)]
    exact scanWord_append [0x72, 0x75, 0x65] rest
  | no =>
    rw [List.cons_append, scanValue, hws.skip_cons (by decide)]
    exact scanWord_append [0x61, 0x6c, 0x73, 0x65] rest
  | number h => exact h.scan hws hrest
  | string h => exact scanValue_string hws h
  | list h =>
    rw [List.length_cons] at hfuel
    exact scanValue_list hws (Items.Spells.scan h (by omega) rest)
  | object h =>
    rw [List.length_cons] at hfuel
    exact scanValue_object hws (Members.Spells.scan h (by omega) rest)

theorem Items.Spells.scan {first : Bool} {items : Items} {bs : List UInt8} {fuel : Nat}
    (h : Items.Spells first items bs) (hfuel : 2 * bs.length ≤ fuel) (rest : List UInt8) :
    scanItems first fuel (bs ++ rest) = (items, rest) := by
  have hpos := h.length_pos
  obtain ⟨fuel, rfl⟩ : ∃ n, fuel = n + 1 := ⟨fuel - 1, by omega⟩
  cases h with
  | closed hws =>
    rw [List.append_assoc]
    exact scanItems_closed first hws
  | @item _ doc _ _ ds cs before value more =>
    have hvaluePos := value.length_pos
    have hmorePos := more.length_pos
    simp only [List.length_append] at hfuel
    have hds : 2 * ds.length ≤ fuel := by omega
    have hcs : 2 * cs.length ≤ fuel := by omega
    have hvalue := Doc.Spells.scan value hds blanks_nil ((more.apart rest).ends doc)
    have hmore := Items.Spells.scan more hcs rest
    obtain ⟨b, ds, rfl, hb, hclosing⟩ := value.exists_cons
    simp only [List.append_assoc, List.cons_append]
    exact scanItems_item before hb hclosing hvalue hmore

theorem Members.Spells.scan {first : Bool} {members : Members} {bs : List UInt8} {fuel : Nat}
    (h : Members.Spells first members bs) (hfuel : 2 * bs.length ≤ fuel) (rest : List UInt8) :
    scanMembers first fuel (bs ++ rest) = (members, rest) := by
  have hpos := h.length_pos
  obtain ⟨fuel, rfl⟩ : ∃ n, fuel = n + 1 := ⟨fuel - 1, by omega⟩
  cases h with
  | closed hws =>
    rw [List.append_assoc]
    exact scanMembers_closed first hws
  | @member _ _ doc _ _ _ _ _ ds cs before name left right value more =>
    simp only [List.length_append, List.length_cons] at hfuel
    obtain ⟨fuel, rfl⟩ : ∃ n, fuel = n + 1 := ⟨fuel - 1, by omega⟩
    have hds : 2 * ds.length ≤ fuel := by omega
    have hcs : 2 * cs.length ≤ fuel := by omega
    have hvalue := Doc.Spells.scan value hds right ((more.apart rest).ends doc)
    have hmore := Members.Spells.scan more hcs rest
    simp only [List.append_assoc, List.cons_append]
    rw [scanMembers_quote before]
    exact scanMember_of_spells name left hvalue hmore

end

/-- The first value of bytes that begin with a document is the document. -/
theorem scan_of_spells {doc : Doc} (h : doc.Spells bs) (hws : Blanks ws) (hrest : doc.Ends rest) :
    scan (ws ++ (bs ++ rest)) = (doc, rest) := by
  have hfuel : 2 * bs.length ≤ 2 * (ws ++ (bs ++ rest)).length + 2 := by
    simp only [List.length_append]
    omega
  exact h.scan hfuel hws hrest

end FreshToken.Json
