import FreshToken.Proofs.Json.Restoring
import FreshToken.Shape
import Mathlib.Data.List.Permutation
/-!
# Values of the shapes

Which values have the shape that an answer is read as.  Each of them has a text that says all of
it, and is given back by the shape's reader.
-/

namespace FreshToken

open Json Value

/-! ## What has a text -/

/-- A value that its text gives exactly, with at most `d` containers in each other. -/
structure Json.Value.Within (d : Nat) (v : Value) : Prop where
  exact : v.Exact
  shallow : v.depth ≤ d

def deepest : Nat := nestingLimit - 1

def AllWithin (d : Nat) (P : Value → Prop) : Prop := ∀ v, P v → v.Within d

section
variable {d e : Nat} {P Q : Value → Prop}

theorem AllWithin.mono (h : AllWithin d P) (hle : d ≤ e) : AllWithin e P :=
  fun v hv => ⟨(h v hv).exact, (h v hv).shallow.trans hle⟩

theorem allWithin_int {low high : Int} (hlow : -9223372036854775808 ≤ low)
    (hhigh : high ≤ 18446744073709551615) (d : Nat) : AllWithin d (IsInt low high) := by
  rintro _ ⟨hleast, hgreatest⟩
  refine ⟨.int ?_, Nat.zero_le d⟩
  simp only [isExact, Bool.and_eq_true, decide_eq_true_eq]
  exact ⟨hlow.trans hleast, hgreatest.trans hhigh⟩

theorem allWithin_string (d : Nat) : AllWithin d IsString := by
  rintro _ ⟨s⟩
  exact ⟨.string s, Nat.zero_le d⟩

theorem allWithin_bool (d : Nat) : AllWithin d IsBool := by
  rintro _ ⟨b⟩
  exact ⟨.bool b, Nat.zero_le d⟩

theorem allWithin_null (d : Nat) : AllWithin d IsNull := by
  rintro _ ⟨⟩
  exact ⟨.null, Nat.zero_le d⟩

theorem AllWithin.nullable (h : AllWithin d P) : AllWithin d (NullOr P) := by
  rintro _ (_ | hv)
  · exact ⟨.null, Nat.zero_le d⟩
  · exact h _ hv

theorem itemsDepth_le {vs : List Value} (h : ∀ v ∈ vs, v.depth ≤ d) : itemsDepth vs ≤ d := by
  induction vs with
  | nil => exact Nat.zero_le d
  | cons v vs ih =>
    rw [List.forall_mem_cons] at h
    exact Nat.max_le.2 ⟨h.1, ih h.2⟩

theorem membersDepth_le {ms : List (String × Value)} (h : ∀ m ∈ ms, m.2.depth ≤ d) :
    membersDepth ms ≤ d := by
  induction ms with
  | nil => exact Nat.zero_le d
  | cons m ms ih =>
    rw [List.forall_mem_cons] at h
    exact Nat.max_le.2 ⟨h.1, ih h.2⟩

theorem within_list {vs : List Value} (h : ∀ v ∈ vs, v.Within d) :
    (Value.list vs).Within (d + 1) :=
  ⟨.list fun v hv => (h v hv).exact,
    Nat.succ_le_succ (itemsDepth_le fun v hv => (h v hv).shallow)⟩

theorem within_object {ms : List (String × Value)} (keys : Distinct ms)
    (h : ∀ m ∈ ms, m.2.Within d) : (Value.object ms).Within (d + 1) :=
  ⟨.object keys fun m hm => (h m hm).exact,
    Nat.succ_le_succ (membersDepth_le fun m hm => (h m hm).shallow)⟩

theorem AllWithin.list (h : AllWithin d P) : AllWithin (d + 1) (ListOf P) := by
  rintro _ ⟨hvs⟩
  exact within_list fun v hv => h v (hvs v hv)

theorem AllWithin.pair (hP : AllWithin d P) (hQ : AllWithin d Q) :
    AllWithin (d + 1) (PairOf P Q) := by
  rintro _ ⟨hfirst, hsecond⟩
  refine within_list ?_
  rw [List.forall_mem_cons, List.forall_mem_singleton]
  exact ⟨hP _ hfirst, hQ _ hsecond⟩

theorem AllWithin.dict (h : AllWithin d P) : AllWithin (d + 1) (DictOf P) := by
  rintro _ ⟨keys, hms⟩
  exact within_object keys fun m hm => h m.2 (hms m hm)

theorem distinct_of_fill {kinds : List FieldKind} (hnames : (kinds.map Prod.fst).Nodup)
    {ms ns : List (String × Value)} (filled : List.Forall₂ Fills kinds ns) (order : ms.Perm ns) :
    Distinct ms := by
  rw [Distinct, (order.map Prod.fst).nodup_iff, names_of_fill filled]
  exact hnames

theorem allWithin_record {kinds : List FieldKind} (hnames : (kinds.map Prod.fst).Nodup)
    (h : ∀ k ∈ kinds, AllWithin d k.2) : AllWithin (d + 1) (RecordOf kinds) := by
  rintro _ ⟨filled, order⟩
  refine within_object (distinct_of_fill hnames filled order) fun m hm => ?_
  obtain ⟨k, hk, -, hvalue⟩ := exists_field filled (order.subset hm)
  exact h k hk m.2 hvalue

end

/-! ## Records whose fields are kept -/

/-- The field is kept as it is read, and its reader restores the values of the kind. -/
inductive KeptAs : Reader.Field Shape.Members → FieldKind → Prop
  | mk {name : String} {absence : Reader.Absence} {r : Reader Value} {P : Value → Prop}
    (h : r.Restores id P) : KeptAs (Shape.kept name absence r) (name, P)

theorem exists_kept {fields : List (Reader.Field Shape.Members)} {kinds : List FieldKind}
    (h : List.Forall₂ KeptAs fields kinds) (hnames : (kinds.map Prod.fst).Nodup) {k : FieldKind}
    (hk : k ∈ kinds) : ∃ f, fields.find? (·.name = k.1) = some f ∧ KeptAs f k := by
  induction h with
  | nil => cases hk
  | @cons f k' fields kinds hfirst _ ih =>
    obtain ⟨hname, hnames⟩ := List.nodup_cons.1 hnames
    have hsame : f.name = k'.1 := by cases hfirst; rfl
    rcases List.mem_cons.1 hk with rfl | hk
    · exact ⟨f, List.find?_cons_of_pos (by simpa using hsame), hfirst⟩
    · have hne : f.name ≠ k.1 := fun heq =>
        hname (List.mem_map.2 ⟨k, hk, heq.symm.trans hsame⟩)
      obtain ⟨g, hfind, hg⟩ := ih hnames hk
      exact ⟨g, by rw [List.find?_cons_of_neg (by simpa using hne), hfind], hg⟩

theorem names_of_kept {fields : List (Reader.Field Shape.Members)} {kinds : List FieldKind}
    (h : List.Forall₂ KeptAs fields kinds) :
    fields.map Reader.Field.name = kinds.map Prod.fst := by
  induction h with
  | nil => rfl
  | cons hfirst _ ih =>
    cases hfirst
    rw [List.map_cons, List.map_cons, ih]
    rfl

/-- A record gives its members back, in ascending order, where each of them has a field and each
field that starts with a value is a member. -/
theorem restores_record (name : String) {blank : Shape.Members}
    {fields : List (Reader.Field Shape.Members)} {kinds : List FieldKind}
    (h : List.Forall₂ KeptAs fields kinds) (hnames : (kinds.map Prod.fst).Nodup)
    (hblank : Ascending blank) (hset : ∀ m ∈ blank, m.1 ∈ kinds.map Prod.fst) :
    ((Reader.record name blank fields).map .object).Restores id (RecordOf kinds) := by
  intro room doc v hdoc hv hroom
  obtain @⟨ms, ns, filled, order⟩ := hv
  cases hdoc with
  | @object members _ hmembers =>
    obtain ⟨henter, hdepth⟩ := depth_lt_of_object hroom
    have hkeys : Distinct ms := distinct_of_fill hnames filled order
    have hmem (key : String) : key ∈ ms.map Prod.fst ↔ key ∈ kinds.map Prod.fst := by
      rw [(order.map Prod.fst).mem_iff, names_of_fill filled]
    have hfield : ∀ m ∈ ms, ∃ f, fields.find? (·.name = m.1) = some f ∧
        ∀ {doc : Doc}, doc.Means m.2 →
          f.read (room - 1) doc = .ok fun acc => setMember m.1 m.2.arranged acc := by
      intro m hm
      obtain ⟨k, hk, hname, hvalue⟩ := exists_field filled (order.subset hm)
      obtain ⟨f, hfind, hkept⟩ := exists_kept h hnames hk
      refine ⟨f, by rw [hname, hfind], fun hdoc => ?_⟩
      cases hkept with
      | mk hr =>
        have hread := hr.read_eq hdoc hvalue ((depth_le_of_mem_members hm).trans_lt hdepth)
        refine map_eq_ok.2 ⟨_, hread, ?_⟩
        rw [hname]
    have hstand : ∀ f ∈ fields, f.name ∈ [] ∨ f.name ∈ ms.map Prod.fst := by
      intro f hf
      rw [hmem, ← names_of_kept h]
      exact .inr (List.mem_map_of_mem hf)
    have hread := hmembers.byName hkeys hfield (fun _ _ => List.not_mem_nil) hstand blank
    have hfold : ms.foldl (fun acc m => setMember m.1 m.2.arranged acc) blank =
        setMembers (ms.map fun m => (m.1, m.2.arranged)) blank := by
      rw [setMembers, List.foldl_map]
    have hall : ∀ m ∈ blank, m.1 ∈ (ms.map fun m => (m.1, m.2.arranged)).map Prod.fst := by
      intro m hm
      rw [keys_map_snd, hmem]
      exact hset m hm
    rw [hfold, setMembers_eq_sortMembers hblank hall] at hread
    refine ⟨_, map_eq_ok.2 ⟨_, ?_, rfl⟩, (arranged_object ms).symm⟩
    rw [Reader.record, henter]
    exact hread

/-! ## Credentials -/

inductive IsAppId : Value → Prop
  | mk (id : AppId) : IsAppId id.toJson

theorem allWithin_appId (d : Nat) : AllWithin d IsAppId := by
  rintro _ ⟨id⟩
  exact allWithin_string d _ ⟨id.text⟩

theorem read_appId {room : Nat} {doc : Doc} {id : AppId} (h : doc.Means id.toJson) :
    AppId.reader room doc = .ok id := by
  rw [AppId.reader, Reader.checked, h.readText]
  simp only [bind, Except.bind, AppId.ofString_text]
  rfl

theorem read_secret {room : Nat} {doc : Doc} {role : SecretRole} {s : Secret role}
    (h : doc.Means s.toJson) : Secret.reader role room doc = .ok s :=
  map_eq_ok.2 ⟨_, h.readText, rfl⟩

def credentialsKinds : List FieldKind := [("app_id", IsAppId), ("app_secret", IsString)]

theorem exists_credentials {ns : List (String × Value)}
    (h : List.Forall₂ Fills credentialsKinds ns) :
    ∃ c : Credentials, ns = [("app_id", c.appId.toJson), ("app_secret", c.appSecret.toJson)] := by
  rw [credentialsKinds, List.forall₂_cons_left_iff] at h
  obtain ⟨⟨_, _⟩, _, ⟨rfl, ⟨id⟩⟩, h, rfl⟩ := h
  rw [List.forall₂_cons_left_iff] at h
  obtain ⟨⟨_, _⟩, _, ⟨rfl, ⟨s⟩⟩, h, rfl⟩ := h
  cases h
  exact ⟨⟨id, ⟨s⟩⟩, rfl⟩

def putDraft (c : Credentials) (m : String × Value) (d : Credentials.Draft) : Credentials.Draft :=
  if m.1 = "app_id" then { d with appId := some c.appId }
  else { d with appSecret := some c.appSecret }

theorem restores_credentials :
    Credentials.reader.Restores Credentials.toJson (RecordOf credentialsKinds) := by
  intro room doc v hdoc hv hroom
  obtain @⟨ms, ns, filled, order⟩ := hv
  obtain ⟨c, rfl⟩ := exists_credentials filled
  cases hdoc with
  | @object members _ hmembers =>
    obtain ⟨henter, -⟩ := depth_lt_of_object hroom
    have hnames : (ms.map Prod.fst).Perm ["app_id", "app_secret"] := order.map Prod.fst
    have hkeys : Distinct ms := hnames.nodup_iff.2 (by decide)
    have hfield : ∀ m ∈ ms, ∃ f, Credentials.draftFields.find? (·.name = m.1) = some f ∧
        ∀ {doc : Doc}, doc.Means m.2 → f.read (room - 1) doc = .ok (putDraft c m) := by
      intro m hm
      rcases List.mem_pair.1 (order.subset hm) with rfl | rfl
      · exact ⟨_, rfl, fun hdoc => map_eq_ok.2 ⟨c.appId, read_appId hdoc, rfl⟩⟩
      · exact ⟨_, rfl, fun hdoc => map_eq_ok.2 ⟨c.appSecret, read_secret hdoc, rfl⟩⟩
    have hall : ∀ f ∈ Credentials.draftFields, f.name ∈ [] ∨ f.name ∈ ms.map Prod.fst := by
      intro f hf
      rw [hnames.mem_iff]
      rcases List.mem_pair.1 hf with rfl | rfl <;> decide
    have hread := hmembers.byName hkeys hfield (fun _ _ => List.not_mem_nil) hall ⟨none, none⟩
    have hfold : ms.foldl (fun acc m => putDraft c m acc) ⟨none, none⟩ =
        ⟨some c.appId, some c.appSecret⟩ := by
      rcases List.perm_pair.1 order with rfl | rfl <;> rfl
    have hsorted : Ascending [("app_id", c.appId.toJson), ("app_secret", c.appSecret.toJson)] :=
      List.pairwise_pair.2 (by decide : "app_id" < "app_secret")
    rw [hfold] at hread
    refine ⟨c, ?_, ?_⟩
    · rw [Credentials.reader, Reader.checked, Reader.record, henter]
      simp only [bind, Except.bind, hread]
      rfl
    · have harranged : (ms.map fun m => (m.1, m.2.arranged)).Perm
          [("app_id", c.appId.toJson), ("app_secret", c.appSecret.toJson)] :=
        order.map fun m => (m.1, m.2.arranged)
      rw [arranged_object, sortMembers_eq_of_perm harranged hsorted]
      rfl

/-! ## The shapes -/

def isI64 : Value → Prop := IsInt (-9223372036854775808) 9223372036854775807

def isU64 : Value → Prop := IsInt 0 18446744073709551615

def isU32 : Value → Prop := IsInt 0 4294967295

def isUser : Value → Prop := RecordOf [("id", isU64), ("tags", ListOf IsString)]

namespace Shape

/-- The values of each shape; those of no shape in particular are as deep as can be read. -/
def Fits : Shape → Value → Prop
  | .ack => RecordOf [("errcode", isI64), ("msgid", NullOr isU64)]
  | .sendResult => RecordOf [("errcode", isI64), ("msgid", isU64)]
  | .echo => RecordOf [("value", isU32)]
  | .items => RecordOf [("items", ListOf isU32)]
  | .nested =>
    RecordOf [("users", DictOf isUser), ("pairs", ListOf (PairOf (IsInt (-128) 127) IsBool))]
  | .unit => IsNull
  | .text => IsString
  | .byte => IsInt 0 255
  | .optional => NullOr isI64
  | .credentials => RecordOf credentialsKinds
  | .any => Value.Within deepest

theorem allWithin_fits (shape : Shape) : AllWithin deepest shape.Fits := by
  have hi64 (d : Nat) : AllWithin d isI64 := allWithin_int (by decide) (by decide) d
  have hu64 (d : Nat) : AllWithin d isU64 := allWithin_int (by decide) (by decide) d
  have hu32 (d : Nat) : AllWithin d isU32 := allWithin_int (by decide) (by decide) d
  have huser : AllWithin 2 isUser := by
    refine allWithin_record (by decide) ?_
    rw [List.forall_mem_cons, List.forall_mem_singleton]
    exact ⟨hu64 1, (allWithin_string 0).list⟩
  cases shape with
  | ack =>
    refine (allWithin_record (d := 0) (by decide) ?_).mono (by decide)
    rw [List.forall_mem_cons, List.forall_mem_singleton]
    exact ⟨hi64 0, (hu64 0).nullable⟩
  | sendResult =>
    refine (allWithin_record (d := 0) (by decide) ?_).mono (by decide)
    rw [List.forall_mem_cons, List.forall_mem_singleton]
    exact ⟨hi64 0, hu64 0⟩
  | echo =>
    refine (allWithin_record (d := 0) (by decide) ?_).mono (by decide)
    rw [List.forall_mem_singleton]
    exact hu32 0
  | items =>
    refine (allWithin_record (d := 1) (by decide) ?_).mono (by decide)
    rw [List.forall_mem_singleton]
    exact (hu32 0).list
  | nested =>
    refine (allWithin_record (d := 3) (by decide) ?_).mono (by decide)
    rw [List.forall_mem_cons, List.forall_mem_singleton]
    have hpair : AllWithin 1 (PairOf (IsInt (-128) 127) IsBool) :=
      (allWithin_int (by decide) (by decide) 0).pair (allWithin_bool 0)
    exact ⟨huser.dict, hpair.list.mono (by decide)⟩
  | unit => exact allWithin_null _
  | text => exact allWithin_string _
  | byte => exact allWithin_int (by decide) (by decide) _
  | optional => exact (hi64 _).nullable
  | credentials =>
    refine (allWithin_record (d := 0) (by decide) ?_).mono (by decide)
    rw [credentialsKinds, List.forall_mem_cons, List.forall_mem_singleton]
    exact ⟨allWithin_appId 0, allWithin_string 0⟩
  | any => exact fun _ hv => hv

theorem restores_number {low high : Int} {name : String} :
    (number (Reader.int low high name)).Restores id (IsInt low high) :=
  (restores_int low high name).map fun _ => rfl

theorem restores_nullable {r : Reader Value} {P : Value → Prop} (h : r.Restores id P) :
    ((Reader.nullable r).map orNull).Restores id (NullOr P) :=
  h.nullable.map fun a => by rw [Option.map_id]; rfl

theorem restores_list {r : Reader Value} {P : Value → Prop} (h : r.Restores id P) :
    ((Reader.list r).map .list).Restores id (ListOf P) :=
  h.list.map fun as => by rw [List.map_id]; rfl

theorem restores_dict {r : Reader Value} {P : Value → Prop} (h : r.Restores id P) :
    ((Reader.dict r).map .object).Restores id (DictOf P) :=
  h.dict.map fun as => congrArg Value.object (List.map_id as).symm

theorem restores_user : userReader.Restores id isUser :=
  restores_record "User"
    (.cons (.mk restores_number) (.cons (.mk (restores_text.list.map fun _ => rfl)) .nil))
    (by decide) .nil (List.forall_mem_nil _)

theorem restores_pair : pairReader.Restores id (PairOf (IsInt (-128) 127) IsBool) :=
  ((restores_int _ _ _).pair restores_bool).map fun _ => rfl

theorem reader_restores (shape : Shape) : shape.reader.Restores id shape.Fits := by
  cases shape with
  | ack =>
    exact restores_record "Ack"
      (.cons (.mk restores_number) (.cons (.mk (restores_nullable restores_number)) .nil))
      (by decide) (List.pairwise_singleton _ _) (by decide)
  | sendResult =>
    exact restores_record "SendResult"
      (.cons (.mk restores_number) (.cons (.mk restores_number) .nil))
      (by decide) .nil (List.forall_mem_nil _)
  | echo =>
    exact restores_record "Echo" (.cons (.mk restores_number) .nil)
      (by decide) .nil (List.forall_mem_nil _)
  | items =>
    exact restores_record "Items" (.cons (.mk (restores_list restores_number)) .nil)
      (by decide) .nil (List.forall_mem_nil _)
  | nested =>
    exact restores_record "Nested"
      (.cons (.mk (restores_dict restores_user)) (.cons (.mk (restores_list restores_pair)) .nil))
      (by decide) (List.pairwise_singleton _ _) (by decide)
  | unit => exact restores_unit.map fun _ => rfl
  | text => exact restores_text.map fun _ => rfl
  | byte => exact restores_number
  | optional => exact restores_nullable restores_number
  | credentials => exact restores_credentials.map fun _ => rfl
  | any => exact fun _ _ _ hdoc _ hroom => restores_any hdoc trivial hroom

end Shape

end FreshToken
