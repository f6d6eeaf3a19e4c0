import FreshToken.Json.Reader
import FreshToken.Proofs.Json.Grammar
import Mathlib.Data.Nat.Digits.Defs
import Mathlib.Logic.Relator
/-!
# What documents mean to readers

Which text or integer a document stands for, and under which names the members of an object stand.
The readers of texts and integers accept exactly the documents that stand for one.  A record that
is read by name passes over members that it does not know, whatever their values are.
-/

namespace FreshToken.Json

/-! ## Scalars -/

def Doc.IsSpelled (doc : Doc) : Prop := ∃ bs, doc.Spells bs

inductive Doc.IsText : Doc → String → Prop
  | mk {q : Quoted} {s : String} (h : q.Denotes s) : Doc.IsText (.string q) s

def decimal (ds : List Nat) : Nat := Nat.ofDigits 10 ds.reverse

/-- An integer is written without fraction and exponent.  There is no negative zero among the
integers, so a zero with a sign is none. -/
inductive Doc.IsInteger : Doc → Int → Prop
  | natural (ds : List Nat) : Doc.IsInteger (.number ⟨false, ds, [], none⟩) (decimal ds)
  | negative (ds : List Nat) (h : decimal ds ≠ 0) :
    Doc.IsInteger (.number ⟨true, ds, [], none⟩) (-decimal ds)

def Doc.IsI64 (doc : Doc) (n : Int) : Prop :=
  doc.IsInteger n ∧ -9223372036854775808 ≤ n ∧ n ≤ 9223372036854775807

inductive OrNull {α : Type} (R : Doc → α → Prop) : Doc → Option α → Prop
  | null : OrNull R .null none
  | value {doc : Doc} {a : α} (h : R doc a) : OrNull R doc (some a)

/-- The reader accepts the documents that stand for a value, and reads that value. -/
def Reader.Reads {α : Type} (r : Reader α) (R : Doc → α → Prop) : Prop :=
  ∀ (room : Nat) {doc : Doc}, doc.IsSpelled → ∀ a, r room doc = .ok a ↔ R doc a

theorem unexpected_ne_ok {α : Type} (expected : String) (doc : Doc) (a : α) :
    unexpected expected doc ≠ .ok a := by
  intro h
  obtain ⟨found, -, hthrow⟩ := bind_eq_ok.1 h
  cases hthrow

theorem readQuoted_eq_ok {q : Quoted} {bs : List UInt8} (hq : q.Spells bs) {s : String} :
    readQuoted q = .ok s ↔ q.Denotes s := by
  rw [← hq.text_eq_ok, readQuoted]
  cases q.text with
  | ok t =>
    constructor
    · intro h
      exact congrArg Except.ok (Except.ok.inj h)
    · intro h
      exact congrArg Except.ok (Except.ok.inj h)
  | error d => exact ⟨nofun, nofun⟩

theorem reads_text : Reader.text.Reads Doc.IsText := by
  intro room doc ⟨bs, hdoc⟩ s
  cases hdoc with
  | string hq =>
    refine (readQuoted_eq_ok hq).trans ⟨.mk, ?_⟩
    rintro ⟨h⟩
    exact h
  | _ => exact iff_of_false (unexpected_ne_ok _ _ _) nofun

theorem digitsValue_eq (ds : List Nat) : digitsValue ds = decimal ds := by
  have hstep : (fun n d => n * 10 + d) = fun n d : Nat => d + 10 * n := by
    funext n d
    omega
  rw [digitsValue, decimal, Nat.ofDigits_eq_foldr, List.foldr_reverse, hstep]
  rfl

/-- The numerals whose values are integers are the integers that 64 bits hold, with or without a
sign; all others are floats. -/
theorem value?_eq_int {n : Numeral} {i : Int} :
    n.value? = some (.int i) ↔ Doc.IsInteger (.number n) i ∧
      -9223372036854775808 ≤ i ∧ i < 18446744073709551616 := by
  obtain ⟨negative, whole, fraction, exponent⟩ := n
  constructor
  · intro h
    unfold Numeral.value? at h
    simp only [digitsValue_eq] at h
    split at h
    · rename_i hcond
      simp at hcond
      obtain ⟨⟨⟨rfl, rfl⟩, rfl⟩, hlt⟩ := hcond
      cases h
      exact ⟨.natural whole, by omega, by omega⟩
    · split at h
      · rename_i hcond
        simp at hcond
        obtain ⟨⟨⟨⟨rfl, rfl⟩, rfl⟩, hne⟩, hle⟩ := hcond
        cases h
        exact ⟨.negative whole hne, by omega, by omega⟩
      · obtain ⟨x, -, hx⟩ := Option.map_eq_some_iff.1 h
        cases hx
  · rintro ⟨hinteger, hlow, hhigh⟩
    cases hinteger with
    | natural =>
      have hlt : decimal whole < 18446744073709551616 := by omega
      simp [Numeral.value?, digitsValue_eq, hlt]
    | negative _ hne =>
      have hle : decimal whole ≤ 9223372036854775808 := by omega
      simp [Numeral.value?, digitsValue_eq, hne, hle]

theorem readNumeral_eq_ok {n : Numeral} {v : Value} :
    readNumeral n = .ok v ↔ n.value? = some v := by
  unfold readNumeral
  cases n.value? <;> simp

theorem reads_int {low high : Int} (hlow : -9223372036854775808 ≤ low)
    (hhigh : high < 18446744073709551616) (name : String) :
    (Reader.int low high name).Reads fun doc n => doc.IsInteger n ∧ low ≤ n ∧ n ≤ high := by
  intro room doc _ i
  cases doc with
  | number n =>
    unfold Reader.int
    rw [bind_eq_ok]
    constructor
    · rintro ⟨v, hv, hrange⟩
      rw [readNumeral_eq_ok] at hv
      split at hrange
      · rename_i j
        split at hrange
        · rename_i hj
          obtain rfl := Except.ok.inj hrange
          exact ⟨(value?_eq_int.1 hv).1, hj⟩
        · cases hrange
      · exact absurd hrange (unexpected_ne_ok _ _ _)
    · rintro ⟨hinteger, hi⟩
      refine ⟨.int i, readNumeral_eq_ok.2 (value?_eq_int.2 ⟨hinteger, by omega, by omega⟩), ?_⟩
      simp only [hi, and_self, if_true]
      rfl
  | _ => exact iff_of_false (unexpected_ne_ok _ _ _) nofun

theorem reads_i64 : Reader.i64.Reads Doc.IsI64 := reads_int (by decide) (by decide) "i64"

theorem Reader.Reads.nullable {α : Type} {r : Reader α} {R : Doc → α → Prop} (h : r.Reads R)
    (hnull : ∀ a, ¬R .null a) : (Reader.nullable r).Reads (OrNull R) := by
  intro room doc hdoc o
  by_cases hdocNull : doc = .null
  · subst hdocNull
    constructor
    · intro hread
      obtain rfl := Except.ok.inj hread
      exact .null
    · intro hor
      cases hor with
      | null => rfl
      | value ha => exact absurd ha (hnull _)
  · have hread : Reader.nullable r room doc = (r room doc).map some := by
      cases doc with
      | null => exact absurd rfl hdocNull
      | _ => rfl
    rw [hread, map_eq_ok]
    constructor
    · rintro ⟨a, ha, rfl⟩
      exact .value ((h room hdoc a).1 ha)
    · intro hor
      cases hor with
      | null => exact absurd rfl hdocNull
      | value ha => exact ⟨_, (h room hdoc _).2 ha, rfl⟩

/-! ## One meaning -/

theorem Quoted.Denotes.unique {q : Quoted} {s t : String} (hs : q.Denotes s) (ht : q.Denotes t) :
    s = t := by
  have hbytes : s.toUTF8.data.toList = t.toUTF8.data.toList :=
    Except.ok.inj (hs.2.resolve.symm.trans ht.2.resolve)
  have htext := (fromUTF8?_eq_some.2 hbytes).symm.trans (fromUTF8?_eq_some.2 rfl)
  exact Option.some.inj htext

theorem rightUnique_isText : Relator.RightUnique Doc.IsText := by
  rintro _ _ _ ⟨hs⟩ ⟨ht⟩
  exact hs.unique ht

theorem rightUnique_isI64 : Relator.RightUnique Doc.IsI64 := by
  rintro _ _ _ ⟨hm, -⟩ ⟨hn, -⟩
  cases hm <;> cases hn <;> rfl

theorem rightUnique_orNull {α : Type} {R : Doc → α → Prop} (hR : Relator.RightUnique R)
    (hnull : ∀ a, ¬R .null a) : Relator.RightUnique (OrNull R) := by
  rintro _ _ _ (_ | ha) (_ | hb)
  · rfl
  · exact absurd hb (hnull _)
  · exact absurd ha (hnull _)
  · rw [hR ha hb]

/-! ## Members -/

inductive Members.Names : Members → List (String × Doc) → Prop
  | closed : Members.Names .closed []
  | member {key : Quoted} {name : String} {doc : Doc} {members : Members}
    {named : List (String × Doc)} (h : key.Denotes name) (rest : Members.Names members named) :
    Members.Names (.member key doc members) ((name, doc) :: named)

/-- The bytes are an object whose members have these names and values, and blanks around it. -/
inductive IsObject : List UInt8 → List (String × Doc) → Prop
  | mk {ws bs vs : List UInt8} {members : Members} {named : List (String × Doc)}
    (before : Blanks ws) (spells : Members.Spells true members bs) (names : members.Names named)
    (after : Blanks vs) : IsObject (ws ++ (0x7b :: bs ++ vs)) named

def valuesOf (name : String) (named : List (String × Doc)) : List Doc :=
  (named.filter (·.1 = name)).map Prod.snd

section Records

variable {σ α : Type} {fields : List (Reader.Field σ)} {room : Nat} {seen : List String} {acc : σ}
  {key : Quoted} {name : String} {doc : Doc} {members : Members} {bs : List UInt8}

theorem byName_member (hkey : key.Spells bs) (hname : key.Denotes name) (hdoc : doc.IsSpelled) :
    Reader.byName fields room seen acc (.member key doc members) =
      match fields.find? (·.name = name) with
      | none => Reader.byName fields room seen acc members
      | some f =>
        if seen.contains name then .error (.mismatch (.duplicate name))
        else inside (.key name) (f.read room doc) >>= fun put =>
          Reader.byName fields room (name :: seen) (put acc) members := by
  obtain ⟨cs, hdoc⟩ := hdoc
  rw [Reader.byName, (readQuoted_eq_ok hkey).2 hname]
  simp only [hdoc.damage?_eq_none]
  rfl

theorem byName_unknown (hkey : key.Spells bs) (hname : key.Denotes name) (hdoc : doc.IsSpelled)
    (hfind : fields.find? (·.name = name) = none) :
    Reader.byName fields room seen acc (.member key doc members) =
      Reader.byName fields room seen acc members := by
  rw [byName_member hkey hname hdoc, hfind]

theorem byName_repeated {f : Reader.Field σ} (hkey : key.Spells bs) (hname : key.Denotes name)
    (hdoc : doc.IsSpelled) (hfind : fields.find? (·.name = name) = some f) (hseen : name ∈ seen) :
    ∃ l, Reader.byName fields room seen acc (.member key doc members) = .error l := by
  rw [byName_member hkey hname hdoc, hfind]
  simp [hseen]

/-- A field that was not there yet is read into the record, or its value refuses the record. -/
theorem byName_field {r : Reader α} {R : Doc → α → Prop} {absence : Reader.Absence}
    {put : α → σ → σ} (hr : r.Reads R) (hkey : key.Spells bs) (hname : key.Denotes name)
    (hdoc : doc.IsSpelled) (hfind : fields.find? (·.name = name) = some (.of name absence r put))
    (hseen : name ∉ seen) :
    (∃ a, R doc a ∧ Reader.byName fields room seen acc (.member key doc members) =
      Reader.byName fields room (name :: seen) (put a acc) members) ∨
    (∀ a, ¬R doc a) ∧
      ∃ l, Reader.byName fields room seen acc (.member key doc members) = .error l := by
  have hstep := @byName_member _ fields room seen acc key name doc members bs hkey hname hdoc
  rw [hfind] at hstep
  simp only [List.contains_iff_mem, hseen, if_false] at hstep
  have hput : (Reader.Field.of name absence r put).read room doc = (r room doc).map put := rfl
  rw [hstep, hput]
  cases hread : r room doc with
  | ok a => exact .inl ⟨a, (hr room hdoc a).1 hread, rfl⟩
  | error l =>
    refine .inr ⟨fun a ha => ?_, _, rfl⟩
    rw [(hr room hdoc a).2 ha] at hread
    cases hread

end Records

end FreshToken.Json
