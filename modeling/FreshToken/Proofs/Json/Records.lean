import FreshToken.Proofs.Json.Meaning
import FreshToken.Proofs.Json.Refusing
/-!
# What records are read from

A record is read from an object, where its fields go by name, or from a list, where they go by
position.  Each field takes its value in the one way or the other, and takes it once.
-/

namespace FreshToken.Json

variable {σ α : Type} {fields : List (Reader.Field σ)} {r : Reader α} {R : Doc → α → Prop}
  {name : String} {absence : Reader.Absence} {put : α → σ → σ} {room : Nat} {acc a : σ} {doc : Doc}

/-! ## By name -/

theorem valuesOf_nil (name : String) : valuesOf name [] = [] := rfl

theorem valuesOf_cons_self (name : String) (doc : Doc) (named : List (String × Doc)) :
    valuesOf name ((name, doc) :: named) = doc :: valuesOf name named := by
  simp [valuesOf]

theorem valuesOf_cons_of_ne {name other : String} (h : other ≠ name) (doc : Doc)
    (named : List (String × Doc)) : valuesOf name ((other, doc) :: named) = valuesOf name named := by
  simp [valuesOf, h]

/-- An object has its names and values in one way only. -/
theorem Members.Names.unique {members : Members} {named those : List (String × Doc)}
    (h : members.Names named) (h' : members.Names those) : named = those := by
  induction h generalizing those with
  | closed =>
    cases h'
    rfl
  | member hname _ ih =>
    cases h' with
    | member hname' h' => rw [hname.unique hname', ih h']

section Named

variable {seen : List String} {key : Quoted} {members : Members}

/-- A field takes the value under its name if it has none yet. -/
theorem byName_known {bs : List UInt8} (hr : r.Reads R) (hkey : key.Spells bs)
    (hname : key.Denotes name) (hdoc : doc.IsSpelled)
    (hfind : fields.find? (·.name = name) = some (.of name absence r put)) :
    Reader.byName fields room seen acc (.member key doc members) = .ok a ↔
      name ∉ seen ∧ ∃ x, R doc x ∧
        Reader.byName fields room (name :: seen) (put x acc) members = .ok a := by
  by_cases hseen : name ∈ seen
  · obtain ⟨l, hl⟩ := byName_repeated hkey hname hdoc hfind hseen
    rw [hl]
    exact ⟨nofun, fun h => absurd hseen h.1⟩
  · rcases byName_field hr hkey hname hdoc hfind hseen with ⟨x, hx, heq⟩ | ⟨hno, l, hl⟩
    · rw [heq]
      constructor
      · intro ha
        exact ⟨hseen, x, hx, ha⟩
      · rintro ⟨-, y, hy, ha⟩
        have hread : r room doc = .ok x := (hr room hdoc x).2 hx
        rw [(hr room hdoc y).2 hy] at hread
        cases hread
        exact ha
    · rw [hl]
      exact ⟨nofun, fun ⟨_, x, hx, _⟩ => absurd hx (hno x)⟩

/-- Nothing is read from an object with a key that is no text. -/
theorem names_of_byName {first : Bool} {bs : List UInt8} {seen : List String} {acc : σ}
    {members : Members} (hspells : Members.Spells first members bs)
    (h : Reader.byName fields room seen acc members = .ok a) : ∃ named, members.Names named := by
  cases hspells with
  | closed => exact ⟨[], .closed⟩
  | @member _ key doc members _ _ _ _ _ _ _ hkey _ _ hvalue hrest =>
    have hstep := h
    rw [Reader.byName] at hstep
    obtain ⟨name, hname, -⟩ := bind_eq_ok.1 hstep
    have hdenotes := (readQuoted_eq_ok hkey).1 (inside_eq_ok.1 hname)
    rw [byName_member hkey hdenotes ⟨_, hvalue⟩] at h
    have hmore : ∃ seen' acc', Reader.byName fields room seen' acc' members = .ok a := by
      split at h
      · exact ⟨_, _, h⟩
      · split at h
        · cases h
        · obtain ⟨step, -, h⟩ := bind_eq_ok.1 h
          exact ⟨_, _, h⟩
    obtain ⟨seen', acc', hmore⟩ := hmore
    obtain ⟨named, hnamed⟩ := names_of_byName hrest hmore
    exact ⟨(name, doc) :: named, .member hdenotes hnamed⟩

end Named

/-! ## By position -/

section Listed

variable {expected : String} {i : Nat} {items : Items}

theorem byPosition_of (hr : r.Reads R) (hdoc : doc.IsSpelled) :
    Reader.byPosition expected room i (.of name absence r put :: fields) acc (.item doc items) =
        .ok a ↔
      ∃ x, R doc x ∧ Reader.byPosition expected room (i + 1) fields (put x acc) items = .ok a := by
  have hread : (Reader.Field.of name absence r put).read room doc = (r room doc).map put := rfl
  rw [Reader.byPosition, bind_eq_ok, hread]
  constructor
  · rintro ⟨step, hstep, ha⟩
    obtain ⟨x, hx, rfl⟩ := map_eq_ok.1 (inside_eq_ok.1 hstep)
    exact ⟨x, (hr room hdoc x).1 hx, ha⟩
  · rintro ⟨x, hx, ha⟩
    exact ⟨put x, inside_eq_ok.2 (map_eq_ok.2 ⟨x, (hr room hdoc x).2 hx, rfl⟩), ha⟩

/-- A field that must be there is not read from the end of a list. -/
theorem byPosition_closed {f : Reader.Field σ} (h : f.absence ≠ .filled) :
    Reader.byPosition expected room i (f :: fields) acc .closed ≠ .ok a := by
  rw [Reader.byPosition, if_neg h]
  exact nofun

theorem byPosition_nil : Reader.byPosition expected room i ([] : List (Reader.Field σ)) acc items =
    .ok a ↔ items = .closed ∧ acc = a := by
  rw [Reader.byPosition, bind_eq_ok]
  constructor
  · rintro ⟨_, hend, ha⟩
    refine ⟨?_, Except.ok.inj ha⟩
    cases items with
    | closed => rfl
    | item => cases hend
    | broken afterComma => cases afterComma <;> cases hend
  · rintro ⟨rfl, rfl⟩
    exact ⟨(), rfl, rfl⟩

end Listed

/-! ## Either way -/

theorem record_object {blank : σ} {members : Members} (hroom : 1 < room) :
    Reader.record name blank fields room (.object members) =
      Reader.byName fields (room - 1) [] blank members := by
  rw [Reader.record, enter_eq_ok hroom]
  rfl

theorem record_list {blank : σ} {items : Items} (hroom : 1 < room) :
    ∃ expected, Reader.record name blank fields room (.list items) =
      Reader.byPosition expected (room - 1) 0 fields blank items := by
  rw [Reader.record, enter_eq_ok hroom]
  exact ⟨_, rfl⟩

end FreshToken.Json
