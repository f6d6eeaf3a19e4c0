import FreshToken.Proofs.Json.Members
import FreshToken.Proofs.Json.Reading
import Mathlib.Data.List.Forall2
/-!
# What whole documents mean

The value that a document stands for, members in the order in which they stand.  The order of
members says nothing: a value is the same as its arrangement, which has them in ascending order.
What a document means is read from it as far as the room for nested containers goes.
-/

namespace FreshToken.Json

/-! ## Values -/

namespace Value

mutual

/-- How many containers stand in each other at most. -/
def depth : Value → Nat
  | .null | .bool _ | .int _ | .float _ | .string _ => 0
  | .list items => itemsDepth items + 1
  | .object members => membersDepth members + 1

def itemsDepth : List Value → Nat
  | [] => 0
  | item :: items => max (depth item) (itemsDepth items)

def membersDepth : List (String × Value) → Nat
  | [] => 0
  | (_, value) :: members => max (depth value) (membersDepth members)

end

mutual

/-- The value with the members of each object in ascending order of their keys. -/
def arranged : Value → Value
  | .null => .null
  | .bool b => .bool b
  | .int n => .int n
  | .float x => .float x
  | .string s => .string s
  | .list items => .list (arrangedItems items)
  | .object members => .object (sortMembers (arrangedMembers members))

def arrangedItems : List Value → List Value
  | [] => []
  | item :: items => arranged item :: arrangedItems items

def arrangedMembers : List (String × Value) → List (String × Value)
  | [] => []
  | (key, value) :: members => (key, arranged value) :: arrangedMembers members

end

/-- Equal but for the order of members. -/
inductive Same : Value → Value → Prop
  | null : Same .null .null
  | bool (b : Bool) : Same (.bool b) (.bool b)
  | int (n : Int) : Same (.int n) (.int n)
  | float (x : Float) : Same (.float x) (.float x)
  | string (s : String) : Same (.string s) (.string s)
  | list {items others : List Value} (h : List.Forall₂ Same items others) :
    Same (.list items) (.list others)
  | object {members others : List (String × Value)}
    (keys : (members.map Prod.fst).Perm (others.map Prod.fst))
    (values : ∀ key v w, (key, v) ∈ members → (key, w) ∈ others → Same v w) :
    Same (.object members) (.object others)

/-- A value that its text gives exactly: there are no floats in it, its integers have 64 bits and
its keys are distinct. -/
inductive Exact : Value → Prop
  | null : Exact .null
  | bool (b : Bool) : Exact (.bool b)
  | int {n : Int} (h : isExact n = true) : Exact (.int n)
  | string (s : String) : Exact (.string s)
  | list {items : List Value} (h : ∀ item ∈ items, Exact item) : Exact (.list items)
  | object {members : List (String × Value)} (keys : Distinct members)
    (h : ∀ m ∈ members, Exact m.2) : Exact (.object members)

/-- The members of every object stand in ascending order of their keys. -/
inductive Ordered : Value → Prop
  | null : Ordered .null
  | bool (b : Bool) : Ordered (.bool b)
  | int (n : Int) : Ordered (.int n)
  | float (x : Float) : Ordered (.float x)
  | string (s : String) : Ordered (.string s)
  | list {items : List Value} (h : ∀ item ∈ items, Ordered item) : Ordered (.list items)
  | object {members : List (String × Value)} (keys : Ascending members)
    (h : ∀ m ∈ members, Ordered m.2) : Ordered (.object members)

theorem arrangedItems_eq (items : List Value) : arrangedItems items = items.map arranged := by
  induction items with
  | nil => rfl
  | cons item items ih => rw [arrangedItems, ih, List.map_cons]

theorem arrangedMembers_eq (members : List (String × Value)) :
    arrangedMembers members = members.map fun m => (m.1, arranged m.2) := by
  induction members with
  | nil => rfl
  | cons m members ih => rw [arrangedMembers, ih, List.map_cons]

theorem arranged_list (items : List Value) :
    arranged (.list items) = .list (items.map arranged) := by
  rw [arranged, arrangedItems_eq]

theorem arranged_object (members : List (String × Value)) :
    arranged (.object members) =
      .object (sortMembers (members.map fun m => (m.1, arranged m.2))) := by
  rw [arranged, arrangedMembers_eq]

theorem depth_le_of_mem_members {m : String × Value} {members : List (String × Value)}
    (h : m ∈ members) : m.2.depth ≤ membersDepth members := by
  induction members with
  | nil => cases h
  | cons first members ih =>
    rw [membersDepth]
    rcases List.mem_cons.1 h with rfl | h
    · exact Nat.le_max_left _ _
    · exact (ih h).trans (Nat.le_max_right _ _)

theorem keys_map_snd {α β : Type} (f : α → β) (members : List (String × α)) :
    (members.map fun m => (m.1, f m.2)).map Prod.fst = members.map Prod.fst := by
  simp

theorem Exact.same_arranged {v : Value} (h : v.Exact) : v.Same v.arranged := by
  induction h with
  | null => exact .null
  | bool b => exact .bool b
  | int => exact .int _
  | string s => exact .string s
  | list _ ih =>
    rw [arranged_list]
    exact .list (List.forall₂_map_right_iff.2 (List.forall₂_same.2 ih))
  | @object members keys _ ih =>
    rw [arranged_object]
    have hdistinct : Distinct (members.map fun m => (m.1, arranged m.2)) := by
      rwa [Distinct, keys_map_snd]
    have hperm := perm_sortMembers hdistinct
    refine .object ?_ fun key v w hv hw => ?_
    · have hkeys := (hperm.map Prod.fst).symm
      rwa [keys_map_snd] at hkeys
    · obtain ⟨⟨k, w'⟩, hw', heq⟩ := List.mem_map.1 (hperm.subset hw)
      obtain ⟨rfl, rfl⟩ := Prod.mk.inj heq
      -- the key stands once, so both are what stands under it
      have hsame : v = w' := Option.some.inj
        (((lookup?_eq_some keys).2 hv).symm.trans ((lookup?_eq_some keys).2 hw'))
      subst hsame
      exact ih _ hv

theorem Ordered.arranged_eq {v : Value} (h : v.Ordered) : v.arranged = v := by
  induction h with
  | list _ ih => rw [arranged_list, List.map_congr_left ih, List.map_id']
  | @object members keys _ ih =>
    have hmap : (members.map fun m => (m.1, arranged m.2)) = members := by
      calc (members.map fun m => (m.1, arranged m.2))
        _ = members.map id := List.map_congr_left fun m hm => by rw [ih m hm]; rfl
        _ = members := List.map_id members
    rw [arranged_object, hmap, sortMembers_of_ascending keys]
  | _ => rfl

end Value

/-! ## Meaning -/

mutual

inductive Doc.Means : Doc → Value → Prop
  | null : Doc.Means .null .null
  | bool (b : Bool) : Doc.Means (.bool b) (.bool b)
  | int {n : Numeral} {i : Int} (h : n.value? = some (.int i)) : Doc.Means (.number n) (.int i)
  | float {n : Numeral} {x : Float} (h : n.value? = some (.float x)) :
    Doc.Means (.number n) (.float x)
  | string {q : Quoted} {s : String} (h : q.Denotes s) : Doc.Means (.string q) (.string s)
  | list {items : Items} {vs : List Value} (h : Items.Means items vs) :
    Doc.Means (.list items) (.list vs)
  | object {members : Members} {ms : List (String × Value)} (h : Members.Means members ms) :
    Doc.Means (.object members) (.object ms)

inductive Items.Means : Items → List Value → Prop
  | closed : Items.Means .closed []
  | item {doc : Doc} {items : Items} {v : Value} {vs : List Value} (value : Doc.Means doc v)
    (rest : Items.Means items vs) : Items.Means (.item doc items) (v :: vs)

inductive Members.Means : Members → List (String × Value) → Prop
  | closed : Members.Means .closed []
  | member {key : Quoted} {name : String} {doc : Doc} {members : Members} {v : Value}
    {ms : List (String × Value)} (denotes : key.Denotes name) (value : Doc.Means doc v)
    (rest : Members.Means members ms) : Members.Means (.member key doc members) ((name, v) :: ms)

end

theorem Quoted.Denotes.readQuoted {q : Quoted} {s : String} (h : q.Denotes s) :
    readQuoted q = .ok s := by
  have hbytes : String.fromUTF8? ⟨s.toUTF8.data.toList.toArray⟩ = some s :=
    fromUTF8?_eq_some.2 rfl
  have htext : q.text = .ok s := by
    rw [Quoted.text, h.1, h.2.resolve, bind_eq_ok]
    exact ⟨_, rfl, by rw [hbytes]⟩
  rw [Json.readQuoted, htext]
  rfl

theorem enter_eq_ok {room : Nat} (h : 1 < room) : enter room = .ok (room - 1) :=
  if_neg (Nat.not_le.2 h)

theorem depth_lt_of_list {items : List Value} {room : Nat} (h : (Value.list items).depth < room) :
    enter room = .ok (room - 1) ∧ Value.itemsDepth items < room - 1 := by
  rw [Value.depth] at h
  exact ⟨enter_eq_ok (by omega), by omega⟩

theorem depth_lt_of_object {members : List (String × Value)} {room : Nat}
    (h : (Value.object members).depth < room) :
    enter room = .ok (room - 1) ∧ Value.membersDepth members < room - 1 := by
  rw [Value.depth] at h
  exact ⟨enter_eq_ok (by omega), by omega⟩

mutual

/-- There is nothing that stops a reader which skips. -/
theorem Doc.Means.damage?_eq_none {doc : Doc} {v : Value} (h : doc.Means v) :
    doc.damage? = none := by
  cases h with
  | string h => exact h.1
  | list h => exact Items.Means.damage?_eq_none h
  | object h => exact Members.Means.damage?_eq_none h
  | _ => rfl

theorem Items.Means.damage?_eq_none {items : Items} {vs : List Value} (h : items.Means vs) :
    items.damage? = none := by
  cases h with
  | closed => rfl
  | item value rest =>
    rw [Items.damage?, Doc.Means.damage?_eq_none value, Items.Means.damage?_eq_none rest]
    rfl

theorem Members.Means.damage?_eq_none {members : Members} {ms : List (String × Value)}
    (h : members.Means ms) : members.damage? = none := by
  cases h with
  | closed => rfl
  | member denotes value rest =>
    rw [Members.damage?, denotes.1, Doc.Means.damage?_eq_none value,
      Members.Means.damage?_eq_none rest]
    rfl

end

-- The induction is on what the document means; each container takes one unit of room.
mutual

theorem Doc.Means.readAny {doc : Doc} {v : Value} {room : Nat} (h : doc.Means v)
    (hroom : v.depth < room) : readAny room doc = .ok v.arranged := by
  cases h with
  | null => rfl
  | bool => rfl
  | int h | float h => exact readNumeral_eq_ok.2 h
  | string h =>
    rw [Json.readAny, h.readQuoted]
    rfl
  | list h =>
    obtain ⟨henter, hdepth⟩ := depth_lt_of_list hroom
    rw [Json.readAny, henter, Value.arranged]
    simp only [bind, Except.bind, Items.Means.readAny h 0 hdepth]
    rfl
  | object h =>
    obtain ⟨henter, hdepth⟩ := depth_lt_of_object hroom
    rw [Json.readAny, henter, Value.arranged]
    simp only [bind, Except.bind, Members.Means.readAny h hdepth]
    rfl

theorem Items.Means.readAny {items : Items} {vs : List Value} {room : Nat} (h : items.Means vs)
    (i : Nat) (hroom : Value.itemsDepth vs < room) :
    readAnyItems room i items = .ok (Value.arrangedItems vs) := by
  cases h with
  | closed => rfl
  | item value rest =>
    obtain ⟨hvalue, hmore⟩ := Nat.max_lt.1 hroom
    have hfirst := Doc.Means.readAny value hvalue
    have hrest := Items.Means.readAny rest (i + 1) hmore
    rw [readAnyItems, hfirst, Value.arrangedItems]
    simp only [inside, Except.mapError, bind, Except.bind, hrest]
    rfl

theorem Members.Means.readAny {members : Members} {ms : List (String × Value)} {room : Nat}
    (h : members.Means ms) (hroom : Value.membersDepth ms < room) :
    readAnyMembers room members = .ok (Value.arrangedMembers ms) := by
  cases h with
  | closed => rfl
  | member denotes value rest =>
    obtain ⟨hvalue, hmore⟩ := Nat.max_lt.1 hroom
    have hfirst := Doc.Means.readAny value hvalue
    have hrest := Members.Means.readAny rest hmore
    rw [readAnyMembers, denotes.readQuoted, Value.arrangedMembers]
    simp only [inside, Except.mapError, bind, Except.bind, hfirst, hrest]
    rfl

end

end FreshToken.Json
