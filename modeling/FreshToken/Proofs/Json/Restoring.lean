import FreshToken.Proofs.Json.Meaning
/-!
# Readers that give values back

A reader restores the values of some kind if what it reads from a document for such a value is the
value again.  Each way of making readers from readers keeps this: lists, pairs, maps and records
restore the values whose parts are restored, whatever the order of members.
-/

namespace FreshToken.Json

/-! ## Kinds of values -/

namespace Value

inductive IsInt (low high : Int) : Value → Prop
  | mk {n : Int} (least : low ≤ n) (greatest : n ≤ high) : IsInt low high (.int n)

inductive IsString : Value → Prop
  | mk (s : String) : IsString (.string s)

inductive IsBool : Value → Prop
  | mk (b : Bool) : IsBool (.bool b)

inductive IsNull : Value → Prop
  | mk : IsNull .null

inductive NullOr (P : Value → Prop) : Value → Prop
  | null : NullOr P .null
  | some {v : Value} (h : P v) : NullOr P v

inductive ListOf (P : Value → Prop) : Value → Prop
  | mk {vs : List Value} (h : ∀ v ∈ vs, P v) : ListOf P (.list vs)

inductive PairOf (P Q : Value → Prop) : Value → Prop
  | mk {v w : Value} (first : P v) (second : Q w) : PairOf P Q (.list [v, w])

/-- Any keys, each once. -/
inductive DictOf (P : Value → Prop) : Value → Prop
  | mk {ms : List (String × Value)} (keys : Distinct ms) (h : ∀ m ∈ ms, P m.2) :
    DictOf P (.object ms)

abbrev FieldKind := String × (Value → Prop)

def Fills (f : FieldKind) (m : String × Value) : Prop := m.1 = f.1 ∧ f.2 m.2

/-- A member for each of the fields, in any order. -/
inductive RecordOf (fields : List FieldKind) : Value → Prop
  | mk {ms ns : List (String × Value)} (filled : List.Forall₂ Fills fields ns)
    (order : ms.Perm ns) : RecordOf fields (.object ms)

theorem names_of_fill {fields : List FieldKind} {ns : List (String × Value)}
    (h : List.Forall₂ Fills fields ns) : ns.map Prod.fst = fields.map Prod.fst := by
  induction h with
  | nil => rfl
  | cons hfirst _ ih => rw [List.map_cons, List.map_cons, hfirst.1, ih]

theorem exists_field {fields : List FieldKind} {ns : List (String × Value)}
    (h : List.Forall₂ Fills fields ns) {m : String × Value} (hm : m ∈ ns) :
    ∃ f ∈ fields, Fills f m := by
  induction h with
  | nil => cases hm
  | cons hfirst _ ih =>
    rcases List.mem_cons.1 hm with rfl | hm
    · exact ⟨_, List.mem_cons_self, hfirst⟩
    · obtain ⟨f, hf, hfills⟩ := ih hm
      exact ⟨f, List.mem_cons_of_mem _ hf, hfills⟩

end Value

/-! ## One reader -/

/-- From a document that means a value of the kind `P`, as deep as there is room, the reader reads
what `f` makes that value of. -/
def Reader.Restores {α : Type} (r : Reader α) (f : α → Value) (P : Value → Prop) : Prop :=
  ∀ ⦃room : Nat⦄ ⦃doc : Doc⦄ ⦃v : Value⦄, doc.Means v → P v → v.depth < room →
    ∃ a, r room doc = .ok a ∧ f a = v.arranged

section
variable {α β : Type} {r : Reader α} {s : Reader β} {f : α → Value} {g : β → Value}
  {P Q : Value → Prop}

theorem Reader.Restores.map (h : r.Restores f P) {k : α → β} (hk : ∀ a, g (k a) = f a) :
    (r.map k).Restores g P := by
  intro room doc v hdoc hv hroom
  obtain ⟨a, hread, ha⟩ := h hdoc hv hroom
  exact ⟨k a, map_eq_ok.2 ⟨a, hread, rfl⟩, (hk a).trans ha⟩

/-- A reader of values reads the arrangement of what is meant. -/
theorem Reader.Restores.read_eq {r : Reader Value} (h : r.Restores id P) {room : Nat} {doc : Doc}
    {v : Value} (hdoc : doc.Means v) (hv : P v) (hroom : v.depth < room) :
    r room doc = .ok v.arranged := by
  obtain ⟨a, hread, ha⟩ := h hdoc hv hroom
  rw [hread]
  exact congrArg Except.ok ha

/-! ## Scalars -/

theorem restores_any : Reader.any.Restores id fun _ => True :=
  fun _ _ _ hdoc _ hroom => ⟨_, hdoc.readAny hroom, rfl⟩

theorem restores_int (low high : Int) (name : String) :
    (Reader.int low high name).Restores .int (Value.IsInt low high) := by
  intro room doc v hdoc hv _
  obtain @⟨i, hlow, hhigh⟩ := hv
  cases hdoc with
  | int h =>
    refine ⟨i, ?_, rfl⟩
    rw [Reader.int, bind_eq_ok]
    exact ⟨.int i, readNumeral_eq_ok.2 h, if_pos ⟨hlow, hhigh⟩⟩

theorem Doc.Means.readText {doc : Doc} {s : String} {room : Nat} (h : doc.Means (.string s)) :
    Reader.text room doc = .ok s := by
  cases h with
  | string h => exact h.readQuoted

theorem restores_text : Reader.text.Restores .string Value.IsString := by
  intro room doc v hdoc hv _
  obtain ⟨s⟩ := hv
  exact ⟨s, hdoc.readText, rfl⟩

theorem restores_bool : Reader.bool.Restores .bool Value.IsBool := by
  intro room doc v hdoc hv _
  obtain ⟨b⟩ := hv
  cases hdoc
  exact ⟨b, rfl, rfl⟩

theorem restores_unit : Reader.unit.Restores (fun _ => .null) Value.IsNull := by
  intro room doc v hdoc hv _
  obtain ⟨⟩ := hv
  cases hdoc
  exact ⟨(), rfl, rfl⟩

theorem Doc.Means.eq_null {doc : Doc} (h : doc.Means .null) : doc = .null := by
  cases h
  rfl

theorem Reader.Restores.nullable (h : r.Restores f P) :
    (Reader.nullable r).Restores (fun a => (a.map f).getD .null) (Value.NullOr P) := by
  intro room doc v hdoc hv hroom
  by_cases hnull : doc = .null
  · subst hnull
    cases hdoc
    exact ⟨none, rfl, rfl⟩
  · cases hv with
    | null => exact absurd hdoc.eq_null hnull
    | some hv =>
      obtain ⟨a, hread, ha⟩ := h hdoc hv hroom
      have hsome : Reader.nullable r room doc = (r room doc).map some := by
        cases doc with
        | null => exact absurd rfl hnull
        | _ => rfl
      exact ⟨some a, by rw [hsome, hread]; rfl, ha⟩

/-! ## Containers -/

theorem inside_ok {s : Step} {a : α} : inside s (.ok a) = .ok a := rfl

theorem Items.Means.restores {items : Items} {vs : List Value} {room : Nat} (h : items.Means vs)
    (hr : r.Restores f P) (i : Nat) (hvs : ∀ v ∈ vs, P v) (hroom : Value.itemsDepth vs < room) :
    ∃ as, Reader.items r room i items = .ok as ∧ as.map f = vs.map Value.arranged := by
  cases h with
  | closed => exact ⟨[], rfl, rfl⟩
  | item value rest =>
    rw [List.forall_mem_cons] at hvs
    obtain ⟨hvalue, hmore⟩ := Nat.max_lt.1 hroom
    obtain ⟨a, hread, ha⟩ := hr value hvs.1 hvalue
    obtain ⟨as, hreads, has⟩ := Items.Means.restores rest hr (i + 1) hvs.2 hmore
    refine ⟨a :: as, ?_, by rw [List.map_cons, List.map_cons, ha, has]⟩
    rw [Reader.items, hread, inside_ok]
    simp only [bind, Except.bind, hreads]
    rfl

theorem Reader.Restores.list (h : r.Restores f P) :
    (Reader.list r).Restores (fun as => .list (as.map f)) (Value.ListOf P) := by
  intro room doc v hdoc hv hroom
  obtain ⟨hvs⟩ := hv
  cases hdoc with
  | list hitems =>
    obtain ⟨henter, hdepth⟩ := depth_lt_of_list hroom
    obtain ⟨as, hread, has⟩ := hitems.restores h 0 hvs hdepth
    refine ⟨as, ?_, ?_⟩
    · rw [Reader.list, henter]
      exact hread
    · rw [Value.arranged_list, ← has]

theorem Reader.Restores.pair (hr : r.Restores f P) (hs : s.Restores g Q) :
    (Reader.pair r s).Restores (fun p => .list [f p.1, g p.2]) (Value.PairOf P Q) := by
  intro room doc v hdoc hv hroom
  obtain ⟨hfirst, hsecond⟩ := hv
  cases hdoc with
  | list hitems =>
    obtain ⟨henter, hdepth⟩ := depth_lt_of_list hroom
    obtain ⟨hv, hmore⟩ := Nat.max_lt.1 hdepth
    obtain ⟨hw, -⟩ := Nat.max_lt.1 hmore
    cases hitems with
    | item first rest =>
      cases rest with
      | item second rest =>
        cases rest
        obtain ⟨a, hread, ha⟩ := hr first hfirst hv
        obtain ⟨b, hreads, hb⟩ := hs second hsecond hw
        refine ⟨(a, b), ?_, ?_⟩
        · rw [Reader.pair, henter]
          simp only [bind, Except.bind, hread, hreads, inside_ok]
          rfl
        · rw [Value.arranged_list, List.map_cons, List.map_singleton, ← ha, ← hb]

theorem Members.Means.restores {members : Members} {ms : List (String × Value)} {room : Nat}
    (h : members.Means ms) (hr : r.Restores f P) (hms : ∀ m ∈ ms, P m.2)
    (hroom : Value.membersDepth ms < room) :
    ∃ as, Reader.members r room members = .ok as ∧
      (as.map fun m => (m.1, f m.2)) = ms.map fun m => (m.1, m.2.arranged) := by
  cases h with
  | closed => exact ⟨[], rfl, rfl⟩
  | @member _ name _ _ _ _ denotes value rest =>
    rw [List.forall_mem_cons] at hms
    obtain ⟨hvalue, hmore⟩ := Nat.max_lt.1 hroom
    obtain ⟨a, hread, ha⟩ := hr value hms.1 hvalue
    obtain ⟨as, hreads, has⟩ := Members.Means.restores rest hr hms.2 hmore
    refine ⟨(name, a) :: as, ?_, by rw [List.map_cons, List.map_cons, ha, has]⟩
    rw [Reader.members, denotes.readQuoted, inside_ok]
    simp only [bind, Except.bind, hread, hreads, inside_ok]
    rfl

theorem Reader.Restores.dict (h : r.Restores f P) :
    (Reader.dict r).Restores (fun as => .object (as.map fun m => (m.1, f m.2)))
      (Value.DictOf P) := by
  intro room doc v hdoc hv hroom
  obtain ⟨-, hms⟩ := hv
  cases hdoc with
  | object hmembers =>
    obtain ⟨henter, hdepth⟩ := depth_lt_of_object hroom
    obtain ⟨as, hread, has⟩ := hmembers.restores h hms hdepth
    refine ⟨sortMembers as, ?_, ?_⟩
    · rw [Reader.dict, henter]
      simp only [bind, Except.bind, hread]
      rfl
    · rw [Value.arranged_object, ← has]
      exact congrArg Value.object (map_sortMembers f as)

end

/-! ## Records -/

section
variable {σ : Type} {fields : List (Reader.Field σ)} {room : Nat}

theorem firstMissing?_eq_none {seen : List String} (h : ∀ f ∈ fields, f.name ∈ seen) :
    Reader.firstMissing? fields seen = none := by
  have hfind : fields.find? (fun f => f.absence = .refused && !seen.contains f.name) = none := by
    refine List.find?_eq_none.2 fun f hf => ?_
    simp [h f hf]
  rw [Reader.firstMissing?, hfind]
  rfl

/-- The members of a record are read one after the other, where each is a field of its own and no
field is missing. -/
theorem Members.Means.byName {members : Members} {ms : List (String × Value)}
    (h : members.Means ms) {put : String × Value → σ → σ} (keys : Distinct ms)
    (hfield : ∀ m ∈ ms, ∃ f, fields.find? (·.name = m.1) = some f ∧
      ∀ {doc : Doc}, doc.Means m.2 → f.read room doc = .ok (put m))
    {seen : List String} (hseen : ∀ m ∈ ms, m.1 ∉ seen)
    (hall : ∀ f ∈ fields, f.name ∈ seen ∨ f.name ∈ ms.map Prod.fst) (acc : σ) :
    Reader.byName fields room seen acc members = .ok (ms.foldl (fun acc m => put m acc) acc) := by
  cases h with
  | closed =>
    have hnone := firstMissing?_eq_none fun f hf => (hall f hf).resolve_right List.not_mem_nil
    rw [Reader.byName, hnone]
    rfl
  | @member _ name _ _ v ms denotes value rest =>
    rw [List.forall_mem_cons] at hfield hseen
    obtain ⟨hkey, hkeys⟩ := List.nodup_cons.1 keys
    obtain ⟨⟨f, hfind, hread⟩, hfields⟩ := hfield
    have hlater : ∀ m ∈ ms, m.1 ∉ name :: seen := by
      intro m hm hmem
      rcases List.mem_cons.1 hmem with heq | hmem
      · exact hkey (List.mem_map.2 ⟨m, hm, heq⟩)
      · exact hseen.2 m hm hmem
    have hothers : ∀ f ∈ fields, f.name ∈ name :: seen ∨ f.name ∈ ms.map Prod.fst := by
      intro f hf
      rcases hall f hf with hmem | hmem
      · exact .inl (List.mem_cons_of_mem _ hmem)
      · rcases List.mem_cons.1 hmem with heq | hmem
        · exact .inl (List.mem_cons.2 (.inl heq))
        · exact .inr hmem
    have hrest := Members.Means.byName rest hkeys hfields hlater hothers (put (name, v) acc)
    rw [Reader.byName, denotes.readQuoted, inside_ok]
    simp only [bind, Except.bind, hfind, hread value, inside_ok]
    rw [if_neg (by simpa using hseen.1), hrest]
    rfl

end

end FreshToken.Json
