import FreshToken.Proofs.Credentials.Identifier
/-!
# What is stored comes back

Credentials and secrets survive the way into a document and back, whatever characters they have.
Documents that were written otherwise are read too, and what was read from them survives as well.
-/

namespace FreshToken

open Json

namespace Credentials

/-! ## What is written -/

def valueOf (a s : String) : Value := .object [("app_id", .string a), ("app_secret", .string s)]

theorem toJson_eq (c : Credentials) : c.toJson = valueOf c.appId.text c.appSecret.exposed := rfl

section

variable {a s : String}

theorem exact_valueOf (a s : String) : (valueOf a s).Exact := by
  refine .object (by simp [Distinct]) ?_
  rw [List.forall_mem_cons, List.forall_mem_singleton]
  exact ⟨.string a, .string s⟩

/-- A document that means the value holds its texts. -/
theorem holds_of_means {doc : Doc} (h : doc.Means (valueOf a s)) : Holds a s doc := by
  cases h with
  | object h =>
    cases h with
    | member hid isId h =>
      cases h with
      | member hsecret isSecret h =>
        cases h with
        | closed =>
          exact .named (.member hid (.member hsecret .closed)) rfl isId.isText rfl isSecret.isText

theorem stored_encode (a s : String) : Stored (valueOf a s).encode a s := by
  obtain ⟨doc, hwhole, hmeans⟩ := (exact_valueOf a s).exists_isWhole
  exact ⟨doc, hwhole, holds_of_means hmeans⟩

theorem whole_encode (c : Credentials) : reader.whole c.toJson.encode = .ok c := by
  rw [whole_eq_ok, toJson_eq]
  exact stored_encode _ _

end

/-! ## What is read alike -/

def counts (m : String × Doc) : Bool := m.1 = "app_id" || m.1 = "app_secret"

section

variable {members others : Members} {named those : List (String × Doc)} {a s : String}

theorem valuesOf_counts {name : String} (h : name = "app_id" ∨ name = "app_secret")
    (named : List (String × Doc)) : valuesOf name (named.filter counts) = valuesOf name named := by
  rw [valuesOf, valuesOf, List.filter_filter]
  congr 1
  refine List.filter_congr fun m _ => ?_
  rw [Bool.and_eq_left_iff_imp, decide_eq_true_eq]
  intro hname
  rcases h with rfl | rfl <;> simp [counts, hname]

/-- The only value under a name stays the only one when the members that count change places. -/
theorem valuesOf_eq_of_perm {name : String} (h : name = "app_id" ∨ name = "app_secret")
    (hperm : (named.filter counts).Perm (those.filter counts)) {d : Doc}
    (hvalue : valuesOf name named = [d]) : valuesOf name those = [d] := by
  have hvalues : (valuesOf name named).Perm (valuesOf name those) := by
    rw [← valuesOf_counts h named, ← valuesOf_counts h those]
    exact (hperm.filter _).map _
  rw [hvalue] at hvalues
  exact (List.singleton_perm.1 hvalues).symm

/-- Neither the places of members matter nor what else there is. -/
theorem Holds.rearranged (h : Holds a s (.object members)) (names : members.Names named)
    (names' : others.Names those) (hperm : (named.filter counts).Perm (those.filter counts)) :
    Holds a s (.object others) := by
  cases h with
  | named names₀ id isId secret isSecret =>
    obtain rfl := names₀.unique names
    exact .named names' (valuesOf_eq_of_perm (.inl rfl) hperm id) isId
      (valuesOf_eq_of_perm (.inr rfl) hperm secret) isSecret

end

/-! ## Result -/

/-- Credentials come back from what is stored of them. -/
structure Durable (c : Credentials) : Prop where
  restored : reader.whole c.toJson.encode = .ok c
  /-- They are read from an object or a list with their two texts, and from nothing else. -/
  accepted : ∀ bs, reader.whole bs = .ok c ↔ Stored bs c.appId.text c.appSecret.exposed
  /-- An object is read alike with its members in another order and with others among them. -/
  rearranged : ∀ {bs ds : List UInt8} {members others : Members}
    {named those : List (String × Doc)}, IsWhole bs (.object members) →
    IsWhole ds (.object others) → members.Names named → others.Names those →
    (named.filter counts).Perm (those.filter counts) →
    reader.whole bs = .ok c → reader.whole ds = .ok c
  /-- Wherever they were read from, they can be stored and read again. -/
  again : ∀ bs, reader.whole bs = .ok c →
    AppId.IsIdentifier c.appId.text ∧ reader.whole c.toJson.encode = .ok c

theorem durable (c : Credentials) : c.Durable where
  restored := c.whole_encode
  accepted := fun _ => whole_eq_ok
  rearranged := by
    intro bs ds members others named those hbs hds names names' hperm hread
    have hholds : Holds c.appId.text c.appSecret.exposed (.object members) := by
      rwa [hbs.whole, read_eq_ok (by decide) hbs.isSpelled] at hread
    exact whole_eq_ok.2 ⟨_, hds, hholds.rearranged names names' hperm⟩
  again := fun _ _ => ⟨c.appId.text_isIdentifier, c.whole_encode⟩

end Credentials

structure Secret.Durable {role : SecretRole} (s : Secret role) : Prop where
  restored : (Secret.reader role).whole s.toJson.encode = .ok s
  accepted : ∀ bs, (Secret.reader role).whole bs = .ok s ↔ WholeText bs s.exposed

theorem Secret.durable {role : SecretRole} (s : Secret role) : s.Durable where
  restored := Secret.whole_eq_ok.2 (wholeText_encode s.exposed)
  accepted := fun _ => Secret.whole_eq_ok

/-- Storing loses nothing, whatever texts the secrets are. -/
theorem stored_comes_back :
    (∀ c : Credentials, c.Durable) ∧ ∀ (role : SecretRole) (s : Secret role), s.Durable :=
  ⟨Credentials.durable, fun _ => Secret.durable⟩

/-- The document `{"n":[1], "app_secret" : "\u0061\ud83d\ude00","app_id":"w\u0078-1"}`, in which
the members have another order and one more among them, and the texts have escapes. -/
def escapedText : List UInt8 :=
  ("\x7b\x22n\x22:[1], \x22app_secret\x22 : \x22\\u0061\\ud83d\\ude00\x22," ++
    "\x22app_id\x22:\x22w\\u0078-1\x22\x7d").toUTF8.data.toList

example : Credentials.reader.whole escapedText = .ok ⟨⟨"wx-1", rfl⟩, ⟨"a😀"⟩⟩ := by rfl

end FreshToken
