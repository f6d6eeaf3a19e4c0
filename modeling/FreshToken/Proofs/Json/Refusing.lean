import FreshToken.Proofs.Json.Reading
import FreshToken.Proofs.Json.Scanning
/-!
# Readers refuse what is damaged

Whatever a reader accepts is whole to its end, also in the parts that it skips.  Each way of making
readers from readers keeps this.
-/

namespace FreshToken.Json

/-- The reader accepts no document with damage in it. -/
def Reader.Careful {α : Type} (r : Reader α) : Prop :=
  ∀ ⦃room : Nat⦄ ⦃doc : Doc⦄ ⦃a : α⦄, r room doc = .ok a → doc.damage? = none

theorem mapError_eq_ok {ε ε' α : Type} {x : Except ε α} {f : ε → ε'} {a : α} :
    x.mapError f = .ok a ↔ x = .ok a := by
  cases x with
  | ok b => simp only [Except.mapError, Except.ok.injEq]
  | error e => simp only [Except.mapError, reduceCtorEq]

theorem inside_eq_ok {α : Type} {s : Step} {x : Except Located α} {a : α} :
    inside s x = .ok a ↔ x = .ok a := mapError_eq_ok

theorem damage_eq_none_of_readQuoted {q : Quoted} {s : String} (h : readQuoted q = .ok s) :
    q.damage = none := by
  obtain ⟨bytes, -, hend⟩ := bind_eq_ok.1 (mapError_eq_ok.1 h)
  cases hdamage : q.damage with
  | none => rfl
  | some d =>
    rw [hdamage] at hend
    cases hend

/-! ## Any value -/

mutual

theorem Doc.whole_of_readAny {room : Nat} {doc : Doc} {v : Value} (h : readAny room doc = .ok v) :
    doc.damage? = none := by
  cases doc with
  | null => rfl
  | bool => rfl
  | number => rfl
  | string q =>
    obtain ⟨s, hs, -⟩ := bind_eq_ok.1 h
    exact damage_eq_none_of_readQuoted hs
  | list items =>
    obtain ⟨inner, -, h⟩ := bind_eq_ok.1 h
    obtain ⟨vs, hvs, -⟩ := bind_eq_ok.1 h
    exact Items.whole_of_readAny hvs
  | object members =>
    obtain ⟨inner, -, h⟩ := bind_eq_ok.1 h
    obtain ⟨ms, hms, -⟩ := bind_eq_ok.1 h
    exact Members.whole_of_readAny hms
  | cutNumber => cases h
  | damaged => cases h

theorem Items.whole_of_readAny {room i : Nat} {items : Items} {vs : List Value}
    (h : readAnyItems room i items = .ok vs) : items.damage? = none := by
  cases items with
  | closed => rfl
  | item first rest =>
    obtain ⟨v, hv, h⟩ := bind_eq_ok.1 h
    obtain ⟨vs, hvs, -⟩ := bind_eq_ok.1 h
    rw [Items.damage?, Doc.whole_of_readAny (inside_eq_ok.1 hv), Items.whole_of_readAny hvs]
    rfl
  | broken => cases h

theorem Members.whole_of_readAny {room : Nat} {members : Members} {ms : List (String × Value)}
    (h : readAnyMembers room members = .ok ms) : members.damage? = none := by
  cases members with
  | closed => rfl
  | member key value rest =>
    obtain ⟨name, hname, h⟩ := bind_eq_ok.1 h
    obtain ⟨v, hv, h⟩ := bind_eq_ok.1 h
    obtain ⟨ms, hms, -⟩ := bind_eq_ok.1 h
    rw [Members.damage?, damage_eq_none_of_readQuoted (inside_eq_ok.1 hname),
      Doc.whole_of_readAny (inside_eq_ok.1 hv), Members.whole_of_readAny hms]
    rfl
  | broken => cases h
  | noColon key d =>
    obtain ⟨name, -, h⟩ := bind_eq_ok.1 h
    cases h

end

namespace Reader

theorem careful_any : any.Careful := fun _ _ _ h => Doc.whole_of_readAny h

section
variable {α β : Type} {r : Reader α} {s : Reader β}

theorem Careful.map (h : r.Careful) (f : α → β) : (r.map f).Careful := by
  intro room doc b hread
  obtain ⟨a, ha, -⟩ := map_eq_ok.1 hread
  exact h ha

theorem Careful.checked (h : r.Careful) (check : α → Except String β) :
    (r.checked check).Careful := by
  intro room doc b hread
  obtain ⟨a, ha, -⟩ := bind_eq_ok.1 hread
  exact h ha

/-! ## Scalars -/

theorem careful_unit : unit.Careful := by
  intro room doc a h
  cases doc with
  | null => rfl
  | _ => exact absurd h (unexpected_ne_ok _ _ _)

theorem careful_bool : bool.Careful := by
  intro room doc a h
  cases doc with
  | bool b => rfl
  | _ => exact absurd h (unexpected_ne_ok _ _ _)

theorem careful_text : text.Careful := by
  intro room doc a h
  cases doc with
  | string q => exact damage_eq_none_of_readQuoted h
  | _ => exact absurd h (unexpected_ne_ok _ _ _)

theorem careful_int (low high : Int) (name : String) : (int low high name).Careful := by
  intro room doc a h
  cases doc with
  | number n => rfl
  | _ => exact absurd h (unexpected_ne_ok _ _ _)

theorem Careful.nullable (h : r.Careful) : (nullable r).Careful := by
  intro room doc o hread
  cases doc with
  | null => rfl
  | _ =>
    obtain ⟨a, ha, -⟩ := map_eq_ok.1 hread
    exact h ha

/-! ## Containers -/

theorem Careful.items (h : r.Careful) {room i : Nat} {these : Items} {as : List α}
    (hread : items r room i these = .ok as) : these.damage? = none := by
  cases these with
  | closed => rfl
  | item first rest =>
    obtain ⟨a, ha, hread⟩ := bind_eq_ok.1 hread
    obtain ⟨as, has, -⟩ := bind_eq_ok.1 hread
    rw [Items.damage?, h (inside_eq_ok.1 ha), h.items has]
    rfl
  | broken => cases hread

theorem Careful.list (h : r.Careful) : (list r).Careful := by
  intro room doc as hread
  cases doc with
  | list these =>
    obtain ⟨inner, -, hread⟩ := bind_eq_ok.1 hread
    exact h.items hread
  | _ => exact absurd hread (unexpected_ne_ok _ _ _)

theorem Careful.members (h : r.Careful) {room : Nat} {these : Members}
    {as : List (String × α)} (hread : members r room these = .ok as) : these.damage? = none := by
  cases these with
  | closed => rfl
  | member key value rest =>
    obtain ⟨name, hname, hread⟩ := bind_eq_ok.1 hread
    obtain ⟨a, ha, hread⟩ := bind_eq_ok.1 hread
    obtain ⟨as, has, -⟩ := bind_eq_ok.1 hread
    rw [Members.damage?, damage_eq_none_of_readQuoted (inside_eq_ok.1 hname),
      h (inside_eq_ok.1 ha), h.members has]
    rfl
  | broken => cases hread
  | noColon key d =>
    obtain ⟨name, -, hread⟩ := bind_eq_ok.1 hread
    cases hread

theorem Careful.dict (h : r.Careful) : (dict r).Careful := by
  intro room doc as hread
  cases doc with
  | object these =>
    obtain ⟨inner, -, hread⟩ := bind_eq_ok.1 hread
    obtain ⟨as, has, -⟩ := bind_eq_ok.1 hread
    exact h.members has
  | _ => exact absurd hread (unexpected_ne_ok _ _ _)

theorem damage?_of_endOfItems {these : Items} (h : endOfItems these = .ok ()) :
    these.damage? = none := by
  cases these with
  | closed => rfl
  | item => cases h
  | broken afterComma => cases afterComma <;> cases h

theorem Careful.pair (hr : r.Careful) (hs : s.Careful) : (pair r s).Careful := by
  intro room doc p hread
  cases doc with
  | list these =>
    obtain ⟨inner, -, hread⟩ := bind_eq_ok.1 hread
    cases these with
    | closed => cases hread
    | broken => cases hread
    | item first rest =>
      obtain ⟨a, ha, hread⟩ := bind_eq_ok.1 hread
      cases rest with
      | closed => cases hread
      | broken => cases hread
      | item second rest =>
        obtain ⟨b, hb, hread⟩ := bind_eq_ok.1 hread
        obtain ⟨_, hend, -⟩ := bind_eq_ok.1 hread
        rw [Doc.damage?, Items.damage?, Items.damage?, hr (inside_eq_ok.1 ha),
          hs (inside_eq_ok.1 hb), damage?_of_endOfItems hend]
        rfl
  | _ => exact absurd hread (unexpected_ne_ok _ _ _)

end

/-! ## Records -/

section
variable {σ : Type} {fields : List (Field σ)}

theorem careful_byName (h : ∀ f ∈ fields, f.read.Careful) {room : Nat} {seen : List String}
    {acc a : σ} {these : Members} (hread : byName fields room seen acc these = .ok a) :
    these.damage? = none := by
  cases these with
  | closed => rfl
  | member key value rest =>
    rw [byName] at hread
    obtain ⟨name, hname, hread⟩ := bind_eq_ok.1 hread
    have hkey := damage_eq_none_of_readQuoted (inside_eq_ok.1 hname)
    split at hread
    · split at hread
      · cases hread
      · rename_i hvalue
        rw [Members.damage?, hkey, hvalue, careful_byName h hread]
        rfl
    · rename_i f hfind
      split at hread
      · cases hread
      · obtain ⟨put, hput, hread⟩ := bind_eq_ok.1 hread
        have hvalue := h f (List.mem_of_find?_eq_some hfind) (inside_eq_ok.1 hput)
        rw [Members.damage?, hkey, hvalue, careful_byName h hread]
        rfl
  | broken => cases hread
  | noColon key d =>
    obtain ⟨name, -, hread⟩ := bind_eq_ok.1 hread
    split at hread <;> cases hread

theorem careful_byPosition (h : ∀ f ∈ fields, f.read.Careful) {expected : String} {room i : Nat}
    {acc a : σ} {these : Items} (hread : byPosition expected room i fields acc these = .ok a) :
    these.damage? = none := by
  induction fields generalizing i acc these with
  | nil =>
    obtain ⟨_, hend, -⟩ := bind_eq_ok.1 hread
    exact damage?_of_endOfItems hend
  | cons f fields ih =>
    rw [List.forall_mem_cons] at h
    cases these with
    | closed => rfl
    | item first rest =>
      obtain ⟨put, hput, hread⟩ := bind_eq_ok.1 hread
      rw [Items.damage?, h.1 (inside_eq_ok.1 hput), ih h.2 hread]
      rfl
    | broken => cases hread

theorem careful_record (name : String) (blank : σ) (h : ∀ f ∈ fields, f.read.Careful) :
    (record name blank fields).Careful := by
  intro room doc a hread
  cases doc with
  | object these =>
    obtain ⟨inner, -, hread⟩ := bind_eq_ok.1 hread
    exact careful_byName h hread
  | list these =>
    obtain ⟨inner, -, hread⟩ := bind_eq_ok.1 hread
    exact careful_byPosition h hread
  | _ => exact absurd hread (unexpected_ne_ok _ _ _)

end

end Reader

/-! ## The first value of some bytes -/

/-- After blanks the bytes spell the document; what follows it is `rest`. -/
inductive Begins : List UInt8 → Doc → List UInt8 → Prop
  | mk {ws cs rest : List UInt8} {doc : Doc} (before : Blanks ws) (spells : doc.Spells cs) :
    Begins (ws ++ (cs ++ rest)) doc rest

/-- The bytes are a document with nothing but blanks around it. -/
def IsWhole (bs : List UInt8) (doc : Doc) : Prop := ∃ vs, Begins bs doc vs ∧ Blanks vs

section
variable {α : Type} {r : Reader α} {bs rest : List UInt8} {doc : Doc} {a : α}

theorem Begins.scan (h : Begins bs doc rest) (hrest : doc.Ends rest) : scan bs = (doc, rest) := by
  obtain ⟨hws, hspells⟩ := h
  exact scan_of_spells hspells hws hrest

/-- What follows a document does not matter to a reader of the first value. -/
theorem Begins.first (h : Begins bs doc rest) (hrest : doc.Ends rest) (r : Reader α) :
    r.first bs = r nestingLimit doc := by
  rw [Reader.first, h.scan hrest]

/-- What is accepted begins with a document that is read. -/
theorem Reader.Careful.begins (h : r.Careful) (hread : r.first bs = .ok a) :
    ∃ doc, Begins bs doc (Json.scan bs).2 ∧ r nestingLimit doc = .ok a := by
  rcases hscan : Json.scan bs with ⟨doc, rest⟩
  rw [Reader.first, hscan] at hread
  obtain ⟨ws, cs, rfl, hws, hspells⟩ := spelled_of_scan hscan (h hread)
  exact ⟨doc, .mk hws hspells, hread⟩

/-- Only blanks are left of a whole document when its first value is read. -/
theorem IsWhole.blanks (h : IsWhole bs doc) : Blanks (Json.scan bs).2 := by
  obtain ⟨vs, hbegins, hvs⟩ := h
  rw [hbegins.scan (hvs.ends doc)]
  exact hvs

/-- What is accepted is a whole document exactly if only blanks are left. -/
theorem Reader.Careful.isWhole_iff (h : r.Careful) (hread : r.first bs = .ok a) :
    (∃ doc, IsWhole bs doc ∧ r nestingLimit doc = .ok a) ↔ Blanks (Json.scan bs).2 := by
  constructor
  · rintro ⟨doc, hwhole, -⟩
    exact hwhole.blanks
  · intro hblanks
    obtain ⟨doc, hbegins, hdoc⟩ := h.begins hread
    exact ⟨doc, ⟨_, hbegins, hblanks⟩, hdoc⟩

/-! ## The only value of some bytes -/

theorem IsWhole.isSpelled (h : IsWhole bs doc) : doc.IsSpelled := by
  obtain ⟨_, hbegins, -⟩ := h
  obtain ⟨-, hspells⟩ := hbegins
  exact ⟨_, hspells⟩

/-- The same bytes are no other document. -/
theorem IsWhole.unique {other : Doc} (h : IsWhole bs doc) (h' : IsWhole bs other) :
    doc = other := by
  obtain ⟨vs, hbegins, hvs⟩ := h
  obtain ⟨ws, hbegins', hws⟩ := h'
  have hscan := hbegins.scan (hvs.ends doc)
  rw [hbegins'.scan (hws.ends other)] at hscan
  exact (congrArg Prod.fst hscan).symm

theorem Blanks.skip_eq_nil {ws : List UInt8} (h : Blanks ws) : skipBlanks ws = [] := by
  have hskip := h.skip []
  rwa [List.append_nil] at hskip

/-- What is read from a whole document, or why nothing is, is up to the document. -/
theorem IsWhole.whole (h : IsWhole bs doc) (r : Reader α) :
    r.whole bs = r nestingLimit doc := by
  obtain ⟨vs, hbegins, hvs⟩ := h
  rw [Reader.whole, hbegins.scan (hvs.ends doc)]
  simp only [hvs.skip_eq_nil, List.isEmpty_nil, if_true]
  exact bind_pure _

/-- Whatever is accepted as a whole is one document from end to end. -/
theorem Reader.Careful.whole_eq_ok (h : r.Careful) :
    r.whole bs = .ok a ↔ ∃ doc, IsWhole bs doc ∧ r nestingLimit doc = .ok a := by
  constructor
  · intro hread
    rcases hscan : Json.scan bs with ⟨doc, rest⟩
    rw [Reader.whole, hscan] at hread
    obtain ⟨b, hb, hend⟩ := bind_eq_ok.1 hread
    split at hend
    · rename_i hempty
      obtain rfl := Except.ok.inj hend
      obtain ⟨ws, hrest, hws⟩ := exists_blanks rest
      rw [List.isEmpty_iff.1 hempty, List.append_nil] at hrest
      have hfirst : r.first bs = .ok b := by rw [Reader.first, hscan, hb]
      refine (h.isWhole_iff hfirst).2 ?_
      rw [hscan, hrest]
      exact hws
    · cases hend
  · rintro ⟨doc, hwhole, hread⟩
    rw [hwhole.whole, hread]

/-- A reader that accepts the documents which stand for a value accepts the bytes of these. -/
theorem Reader.Reads.whole_eq_ok {R : Doc → α → Prop} (h : r.Reads R) (hcareful : r.Careful) :
    r.whole bs = .ok a ↔ ∃ doc, IsWhole bs doc ∧ R doc a := by
  rw [hcareful.whole_eq_ok]
  exact exists_congr fun doc => and_congr_right fun hwhole => h nestingLimit hwhole.isSpelled a

end

end FreshToken.Json
