import FreshToken.Credentials
import FreshToken.Proofs.Json.Records
import FreshToken.Proofs.Json.Writing
/-!
# Stored credentials

Which bytes credentials are read from, and which credentials.  The texts of the identifier and of
the secret stand in an object, each once under its name, in either order and among members of any
other names, or they are the two items of a list.  Nothing else is accepted.
-/

namespace FreshToken

open Json

/-! ## Written values -/

/-- The bytes of an exact value are a whole document that means the value. -/
theorem Json.Value.Exact.exists_isWhole {v : Value} (h : v.Exact) :
    ∃ doc, IsWhole v.encode doc ∧ doc.Means v := by
  obtain ⟨doc, hspells, hmeans⟩ := h.exists_doc
  have hbegins : Begins v.encode doc [] := by
    have hmk : Begins ([] ++ (v.encode ++ [])) doc [] := .mk blanks_nil hspells
    rwa [List.nil_append, List.append_nil] at hmk
  exact ⟨doc, ⟨[], hbegins, blanks_nil⟩, hmeans⟩

theorem Json.Doc.Means.isText {doc : Doc} {s : String} (h : doc.Means (.string s)) :
    doc.IsText s := by
  cases h with
  | string h => exact .mk h

/-! ## One text -/

def Json.WholeText (bs : List UInt8) (s : String) : Prop := ∃ doc, IsWhole bs doc ∧ doc.IsText s

theorem Json.wholeText_encode (s : String) : WholeText (Value.string s).encode s := by
  obtain ⟨doc, hwhole, hmeans⟩ := (Value.Exact.string s).exists_isWhole
  exact ⟨doc, hwhole, hmeans.isText⟩

theorem AppId.ofString_eq_ok {s : String} {a : AppId} : ofString s = .ok a ↔ a.text = s := by
  constructor
  · intro h
    unfold ofString at h
    split at h
    · cases h
      rfl
    · cases h
  · rintro rfl
    exact ofString_text a

theorem AppId.ofString_eq_error {s : String} {f : AppIdFault} :
    ofString s = .error f ↔ appIdFault? s = some f := by
  unfold ofString
  split
  · rename_i hnone
    refine iff_of_false nofun fun hsome => ?_
    rw [hnone] at hsome
    cases hsome
  · rename_i g hsome
    rw [Except.error.injEq, hsome, Option.some.injEq]

theorem AppId.reads_reader : AppId.reader.Reads fun doc a => doc.IsText a.text := by
  intro room doc hdoc a
  rw [AppId.reader, Reader.checked, bind_eq_ok]
  constructor
  · rintro ⟨s, hs, hcheck⟩
    have hid : ofString s = .ok a := mapError_eq_ok.1 (mapError_eq_ok.1 hcheck)
    rw [ofString_eq_ok.1 hid]
    exact (reads_text room hdoc s).1 hs
  · intro htext
    refine ⟨a.text, (reads_text room hdoc a.text).2 htext, ?_⟩
    rw [ofString_text]
    rfl

theorem AppId.careful_reader : AppId.reader.Careful := Reader.careful_text.checked _

/-- An identifier is read from the bytes that stand for its text, and from no others. -/
theorem AppId.whole_eq_ok {bs : List UInt8} {a : AppId} :
    AppId.reader.whole bs = .ok a ↔ WholeText bs a.text :=
  AppId.reads_reader.whole_eq_ok AppId.careful_reader

theorem Secret.reads_reader (role : SecretRole) :
    (Secret.reader role).Reads fun doc s => doc.IsText s.exposed := by
  intro room doc hdoc s
  rw [Secret.reader, Reader.map, map_eq_ok]
  constructor
  · rintro ⟨t, ht, rfl⟩
    exact (reads_text room hdoc t).1 ht
  · intro htext
    exact ⟨s.exposed, (reads_text room hdoc s.exposed).2 htext, rfl⟩

theorem Secret.careful_reader (role : SecretRole) : (Secret.reader role).Careful :=
  Reader.careful_text.map _

/-- A secret is read from the bytes that stand for it. -/
theorem Secret.whole_eq_ok {role : SecretRole} {bs : List UInt8} {s : Secret role} :
    (Secret.reader role).whole bs = .ok s ↔ WholeText bs s.exposed :=
  (Secret.reads_reader role).whole_eq_ok (Secret.careful_reader role)

namespace Credentials

/-! ## Fields of an object -/

/-- What a field holds in the end, of the values that still stand under its name: it keeps what it
has taken, or takes the one value that there is. -/
inductive Takes {α : Type} (R : Doc → α → Prop) (taken : Prop) (held : Option α) :
    List Doc → Option α → Prop
  | kept (h : taken) : Takes R taken held [] held
  | read {doc : Doc} {a : α} (h : ¬taken) (reads : R doc a) : Takes R taken held [doc] (some a)

section Takes

variable {α : Type} {R : Doc → α → Prop} {taken : Prop} {held o : Option α} {doc : Doc}
  {docs : List Doc}

theorem takes_nil : Takes R taken held [] o ↔ taken ∧ o = held := by
  constructor
  · rintro ⟨h⟩
    exact ⟨h, rfl⟩
  · rintro ⟨h, rfl⟩
    exact .kept h

theorem takes_cons : Takes R taken held (doc :: docs) o ↔
    ¬taken ∧ ∃ a, R doc a ∧ Takes R True (some a) docs o := by
  constructor
  · intro h
    cases h with
    | read h reads => exact ⟨h, _, reads, .kept trivial⟩
  · rintro ⟨h, a, ha, hrest⟩
    cases hrest with
    | kept => exact .read h ha
    | read h => exact absurd trivial h

theorem takes_some (h : ¬taken) {a : α} :
    Takes R taken held docs (some a) ↔ ∃ doc, docs = [doc] ∧ R doc a := by
  constructor
  · intro htakes
    generalize ho : some a = o at htakes
    cases htakes with
    | kept htaken => exact absurd htaken h
    | read _ reads =>
      cases ho
      exact ⟨_, rfl, reads⟩
  · rintro ⟨doc, rfl, ha⟩
    exact .read h ha

end Takes

theorem find?_unknown {name : String} (hid : name ≠ "app_id") (hsecret : name ≠ "app_secret") :
    draftFields.find? (·.name = name) = none := by
  simp [draftFields, Reader.Field.of, Ne.symm hid, Ne.symm hsecret]

/-- No field may be missing. -/
theorem byName_closed {room : Nat} {seen : List String} {acc d : Draft} :
    Reader.byName draftFields room seen acc .closed = .ok d ↔
      ("app_id" ∈ seen ∧ "app_secret" ∈ seen) ∧ d = acc := by
  by_cases hid : "app_id" ∈ seen <;> by_cases hsecret : "app_secret" ∈ seen <;>
    simp [Reader.byName, Reader.firstMissing?, draftFields, Reader.Field.of, hid, hsecret, eq_comm]

/-- What is read from the members of an object. -/
theorem byName_eq_ok {members : Members} {named : List (String × Doc)} {first : Bool}
    {bs : List UInt8} {room : Nat} {seen : List String} {acc d : Draft}
    (names : members.Names named) (hspells : Members.Spells first members bs) :
    Reader.byName draftFields room seen acc members = .ok d ↔
      Takes (fun doc a => doc.IsText a.text) ("app_id" ∈ seen) acc.appId
          (valuesOf "app_id" named) d.appId ∧
        Takes (fun doc s => doc.IsText s.exposed) ("app_secret" ∈ seen) acc.appSecret
          (valuesOf "app_secret" named) d.appSecret := by
  induction names generalizing first bs seen acc with
  | closed =>
    obtain ⟨appId, appSecret⟩ := d
    rw [byName_closed, valuesOf_nil, valuesOf_nil, takes_nil, takes_nil]
    cases acc
    simp only [Draft.mk.injEq]
    exact and_and_and_comm
  | @member key name doc members named hname _ ih =>
    cases hspells with
    | member _ hkey _ _ hvalue hrest =>
      by_cases hid : name = "app_id"
      · subst hid
        have hother : "app_secret" ∈ "app_id" :: seen ↔ "app_secret" ∈ seen := by simp
        rw [byName_known AppId.reads_reader hkey hname ⟨_, hvalue⟩ rfl, valuesOf_cons_self,
          valuesOf_cons_of_ne (by decide), takes_cons]
        simp only [ih hrest, hother, List.mem_cons_self]
        constructor
        · rintro ⟨hseen, a, ha, htakes, hrest⟩
          exact ⟨⟨hseen, a, ha, htakes⟩, hrest⟩
        · rintro ⟨⟨hseen, a, ha, htakes⟩, hrest⟩
          exact ⟨hseen, a, ha, htakes, hrest⟩
      · by_cases hsecret : name = "app_secret"
        · subst hsecret
          have hother : "app_id" ∈ "app_secret" :: seen ↔ "app_id" ∈ seen := by simp
          rw [byName_known (Secret.reads_reader .app) hkey hname ⟨_, hvalue⟩ rfl,
            valuesOf_cons_of_ne (by decide), valuesOf_cons_self, takes_cons]
          simp only [ih hrest, hother, List.mem_cons_self]
          constructor
          · rintro ⟨hseen, a, ha, hrest, htakes⟩
            exact ⟨hrest, hseen, a, ha, htakes⟩
          · rintro ⟨hrest, hseen, a, ha, htakes⟩
            exact ⟨hseen, a, ha, hrest, htakes⟩
        · rw [byName_unknown hkey hname ⟨_, hvalue⟩ (find?_unknown hid hsecret), ih hrest,
            valuesOf_cons_of_ne hid, valuesOf_cons_of_ne hsecret]

/-! ## Both fields -/

/-- The document has these texts of an identifier and of a secret. -/
inductive Holds (a s : String) : Doc → Prop
  | named {members : Members} {named : List (String × Doc)} {d e : Doc}
    (names : members.Names named) (id : valuesOf "app_id" named = [d]) (isId : d.IsText a)
    (secret : valuesOf "app_secret" named = [e]) (isSecret : e.IsText s) :
    Holds a s (.object members)
  | listed {d e : Doc} (isId : d.IsText a) (isSecret : e.IsText s) :
    Holds a s (.list (.item d (.item e .closed)))

def Stored (bs : List UInt8) (a s : String) : Prop := ∃ doc, IsWhole bs doc ∧ Holds a s doc

theorem Holds.unique {a b s t : String} {doc : Doc} (h : Holds a s doc) (h' : Holds b t doc) :
    a = b ∧ s = t := by
  cases h with
  | named names id isId secret isSecret =>
    cases h' with
    | named names' id' isId' secret' isSecret' =>
      obtain rfl := names.unique names'
      obtain rfl := List.singleton_inj.1 (id.symm.trans id')
      obtain rfl := List.singleton_inj.1 (secret.symm.trans secret')
      exact ⟨rightUnique_isText isId isId', rightUnique_isText isSecret isSecret'⟩
  | listed isId isSecret =>
    cases h' with
    | listed isId' isSecret' =>
      exact ⟨rightUnique_isText isId isId', rightUnique_isText isSecret isSecret'⟩

/-- The same bytes store no other texts. -/
theorem Stored.unique {a b s t : String} {bs : List UInt8} (h : Stored bs a s)
    (h' : Stored bs b t) : a = b ∧ s = t := by
  obtain ⟨doc, hwhole, hholds⟩ := h
  obtain ⟨other, hwhole', hholds'⟩ := h'
  obtain rfl := hwhole.unique hwhole'
  exact hholds.unique hholds'

section

variable {room : Nat} {doc : Doc} {c : Credentials} {bs : List UInt8}

theorem reader_eq_ok : reader room doc = .ok c ↔
    Reader.record "AppCredentials" ⟨none, none⟩ draftFields room doc =
      .ok ⟨some c.appId, some c.appSecret⟩ := by
  rw [reader, Reader.checked, bind_eq_ok]
  constructor
  · rintro ⟨⟨appId?, appSecret?⟩, hread, hcheck⟩
    cases appId? <;> cases appSecret? <;> cases hcheck
    exact hread
  · intro hread
    exact ⟨_, hread, rfl⟩

theorem object_eq_ok {members : Members} {cs : List UInt8} (hroom : 1 < room)
    (hspells : Members.Spells true members cs) :
    reader room (.object members) = .ok c ↔
      Holds c.appId.text c.appSecret.exposed (.object members) := by
  rw [reader_eq_ok, record_object hroom]
  constructor
  · intro hread
    obtain ⟨named, names⟩ := names_of_byName hspells hread
    obtain ⟨hid, hsecret⟩ := (byName_eq_ok names hspells).1 hread
    obtain ⟨d, id, isId⟩ := (takes_some List.not_mem_nil).1 hid
    obtain ⟨e, secret, isSecret⟩ := (takes_some List.not_mem_nil).1 hsecret
    exact .named names id isId secret isSecret
  · intro h
    cases h with
    | named names id isId secret isSecret =>
      exact (byName_eq_ok names hspells).2 ⟨(takes_some List.not_mem_nil).2 ⟨_, id, isId⟩,
        (takes_some List.not_mem_nil).2 ⟨_, secret, isSecret⟩⟩

theorem list_eq_ok {items : Items} {cs : List UInt8} (hroom : 1 < room)
    (hspells : Items.Spells true items cs) :
    reader room (.list items) = .ok c ↔
      Holds c.appId.text c.appSecret.exposed (.list items) := by
  obtain ⟨expected, hlist⟩ :
      ∃ expected, Reader.record "AppCredentials" ⟨none, none⟩ draftFields room (.list items) =
        Reader.byPosition expected (room - 1) 0 draftFields ⟨none, none⟩ items :=
    record_list hroom
  rw [reader_eq_ok, hlist]
  constructor
  · intro hread
    cases hspells with
    | closed => exact absurd hread (byPosition_closed (by decide))
    | item _ hid hspells =>
      obtain ⟨a, isId, hread⟩ := (byPosition_of AppId.reads_reader ⟨_, hid⟩).1 hread
      cases hspells with
      | closed => exact absurd hread (byPosition_closed (by decide))
      | item _ hsecret hspells =>
        obtain ⟨s, isSecret, hread⟩ :=
          (byPosition_of (Secret.reads_reader .app) ⟨_, hsecret⟩).1 hread
        obtain ⟨rfl, hdraft⟩ := byPosition_nil.1 hread
        cases hdraft
        exact .listed isId isSecret
  · intro h
    cases h with
    | listed isId isSecret =>
      cases hspells with
      | item _ hid hspells =>
        cases hspells with
        | item _ hsecret hspells =>
          refine (byPosition_of AppId.reads_reader ⟨_, hid⟩).2 ⟨_, isId, ?_⟩
          refine (byPosition_of (Secret.reads_reader .app) ⟨_, hsecret⟩).2 ⟨_, isSecret, ?_⟩
          exact byPosition_nil.2 ⟨rfl, rfl⟩

/-- Credentials are read from the documents that have their texts. -/
theorem read_eq_ok (hroom : 1 < room) (hdoc : doc.IsSpelled) :
    reader room doc = .ok c ↔ Holds c.appId.text c.appSecret.exposed doc := by
  obtain ⟨cs, hspells⟩ := hdoc
  cases hspells with
  | object hspells => exact object_eq_ok hroom hspells
  | list hspells => exact list_eq_ok hroom hspells
  | _ =>
    refine iff_of_false (fun hread => ?_) nofun
    exact unexpected_ne_ok _ _ _ (reader_eq_ok.1 hread)

theorem careful_reader : reader.Careful := by
  refine (Reader.careful_record _ _ ?_).checked _
  rw [draftFields, List.forall_mem_cons, List.forall_mem_singleton]
  exact ⟨AppId.careful_reader.map _, (Secret.careful_reader .app).map _⟩

/-- Credentials are read from the bytes that store their texts, and from no others. -/
theorem whole_eq_ok : reader.whole bs = .ok c ↔ Stored bs c.appId.text c.appSecret.exposed := by
  rw [careful_reader.whole_eq_ok]
  refine exists_congr fun doc => and_congr_right fun hwhole => ?_
  exact read_eq_ok (by decide) hwhole.isSpelled

/-- From bytes that store two texts, credentials are read that have these texts. -/
theorem Stored.whole_eq_ok {a s : String} (h : Stored bs a s) :
    reader.whole bs = .ok c ↔ c.appId.text = a ∧ c.appSecret.exposed = s := by
  rw [Credentials.whole_eq_ok]
  constructor
  · intro hstored
    exact hstored.unique h
  · rintro ⟨rfl, rfl⟩
    exact h

end

end Credentials

end FreshToken
