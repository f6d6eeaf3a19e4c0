import FreshToken.Client
import FreshToken.Proofs.Url.Reading
/-!
# What is attached to a query

Tokens and credentials travel in the query of an address.  Whatever texts they are, they add their
own pairs after those that were there and touch nothing else, neither in the parts of the address
nor where its written form is cut.
-/

namespace FreshToken

namespace Url

def textPairs (decode : List UInt8 → String) (u : Url) : List (String × String) :=
  (readPairs u.queryChars).map fun p => (decode p.1, decode p.2)

/-- An address with pairs added to its query, and nothing else changed. -/
structure Extends (u extended : Url) (added : List (String × String)) : Prop where
  scheme : extended.scheme = u.scheme
  authority : extended.authority = u.authority
  path : extended.path = u.path
  fragment : extended.fragment = u.fragment
  /-- The query that was there stands in front, as it was written. -/
  query : u.queryChars <+: extended.queryChars
  pairs : readPairs extended.queryChars = readPairs u.queryChars ++ added.map pairBytes
  /-- What is added moves no mark of the written address. -/
  marks : u.ReadsBack → extended.ReadsBack

theorem queryChars_withPair (u : Url) (name value : String) :
    (u.withPair name value).queryChars = appendPair u.queryChars name value := by
  simp [withPair, queryChars]

theorem front_withPair (u : Url) (name value : String) :
    (u.withPair name value).front = u.front := rfl

theorem notMem_appendPair {mark : Char} (hform : isFormChar mark = false) (hequals : mark ≠ '=')
    (hampersand : mark ≠ '&') {query : List Char} (h : mark ∉ query) (name value : String) :
    mark ∉ appendPair query name value := by
  have hpair := notMem_formPair hform hequals name value
  unfold appendPair
  split
  · exact hpair
  · rw [List.mem_append, List.mem_cons, not_or, not_or]
    exact ⟨h, hampersand, hpair⟩

theorem ReadsBack.withPair {u : Url} (h : u.ReadsBack) (name value : String) :
    (u.withPair name value).ReadsBack := by
  rw [readsBack_iff] at h ⊢
  obtain ⟨hquestion, hhash, hquery⟩ := h
  rw [front_withPair, queryChars_withPair]
  exact ⟨hquestion, hhash, notMem_appendPair (by decide) (by decide) (by decide) hquery name value⟩

theorem extends_withPair (u : Url) (name value : String) :
    u.Extends (u.withPair name value) [(name, value)] where
  scheme := rfl
  authority := rfl
  path := rfl
  fragment := rfl
  query := by
    rw [queryChars_withPair]
    exact prefix_appendPair _ _ _
  pairs := by
    rw [queryChars_withPair]
    exact readPairs_appendPair _ _ _
  marks := fun h => h.withPair name value

theorem Extends.trans {u v w : Url} {first second : List (String × String)}
    (h : u.Extends v first) (h' : v.Extends w second) : u.Extends w (first ++ second) where
  scheme := h'.scheme.trans h.scheme
  authority := h'.authority.trans h.authority
  path := h'.path.trans h.path
  fragment := h'.fragment.trans h.fragment
  query := h.query.trans h'.query
  pairs := by rw [h'.pairs, h.pairs, List.map_append, List.append_assoc]
  marks := fun hu => h'.marks (h.marks hu)

/-- Read as texts, what was added is what was meant, if reading gives texts back. -/
theorem Extends.textPairs {u v : Url} {added : List (String × String)} (h : u.Extends v added)
    {decode : List UInt8 → String} (hdecode : ∀ s, decode (textBytes s) = s) :
    v.textPairs decode = u.textPairs decode ++ added := by
  unfold Url.textPairs
  rw [h.pairs, List.map_append, List.map_map]
  congr 1
  calc added.map ((fun p => (decode p.1, decode p.2)) ∘ pairBytes)
    _ = added.map id := by simp [pairBytes, Function.comp_def, hdecode]
    _ = added := List.map_id added

end Url

/-- A fresh snapshot gives its token. -/
theorem Snapshot.result_of_isFresh {s : Snapshot} {t : Secret .token} (fresh : s.isFresh = true)
    (held : s.token = some t) : s.result = .ok t := by
  have hfault : s.lastFault = none := by
    simpa [isFresh, held] using fresh
  unfold result
  rw [hfault, held]

theorem TokenEndpoint.extends_requestUrl (e : TokenEndpoint) (c : Credentials) :
    e.url.Extends (e.requestUrl c) [("grant_type", "client_credential"),
      ("appid", c.appId.text), ("secret", c.appSecret.exposed)] :=
  ((Url.extends_withPair _ _ _).trans (Url.extends_withPair _ _ _)).trans
    (Url.extends_withPair _ _ _)

/-- Whatever a token or a secret is, it is one value in the query.  A request that is authorized
with a fresh snapshot goes to the caller's address with one more pair, and a request for a token to
its endpoint with three more; every other part of the address and every pair that was there stay as
they are, in the written address too. -/
theorem attachment_touches_nothing_else {s : Snapshot} {t : Secret .token}
    (fresh : s.isFresh = true) (held : s.token = some t) (u : Url) (e : TokenEndpoint)
    (c : Credentials) :
    (∃ sent, s.authorize u = .ok sent ∧ u.Extends sent [("access_token", t.exposed)] ∧
      (∀ text, Url.parse text = .ok u → sent.ReadsBack) ∧
      ∀ decode : List UInt8 → String, (∀ s, decode (Url.textBytes s) = s) →
        sent.textPairs decode = u.textPairs decode ++ [("access_token", t.exposed)]) ∧
    e.url.Extends (e.requestUrl c) [("grant_type", "client_credential"),
      ("appid", c.appId.text), ("secret", c.appSecret.exposed)] ∧
    (∀ text, Url.parse text = .ok e.url → (e.requestUrl c).ReadsBack) ∧
    ∀ decode : List UInt8 → String, (∀ s, decode (Url.textBytes s) = s) →
      (e.requestUrl c).textPairs decode = e.url.textPairs decode ++
        [("grant_type", "client_credential"), ("appid", c.appId.text),
          ("secret", c.appSecret.exposed)] := by
  have hsent : u.Extends (u.withPair "access_token" t.exposed) [("access_token", t.exposed)] :=
    Url.extends_withPair _ _ _
  have hasked := e.extends_requestUrl c
  refine ⟨⟨u.withPair "access_token" t.exposed, ?_, hsent, ?_, ?_⟩, hasked, ?_, ?_⟩
  · unfold Snapshot.authorize
    rw [Snapshot.result_of_isFresh fresh held]
    rfl
  · intro text htext
    exact hsent.marks (Url.readsBack_of_parse htext)
  · intro decode hdecode
    exact hsent.textPairs hdecode
  · intro text htext
    exact hasked.marks (Url.readsBack_of_parse htext)
  · intro decode hdecode
    exact hasked.textPairs hdecode

/-- A token with every mark of a query in it. -/
def markedToken : IssuedToken := ⟨⟨"a&b=c #+%é"⟩, .whole 7200 (by decide)⟩

/-- An address whose query ends in an ampersand and that has a fragment. -/
def markedUrl : Url := ⟨"https", some ⟨"", "h", none⟩, .segments ["a"], some "x=1&", some "top"⟩

theorem attachment_of_marks :
    ∃ sent, (Snapshot.empty.succeeded markedToken 0).authorize markedUrl = .ok sent ∧
      sent.text = "https://h/a?x=1&&access_token=a%26b%3Dc+%23%2B%25%C3%A9#top" ∧
      sent.ReadsBack ∧
      sent.textPairs Url.decodedText = [("x", "1"), ("access_token", "a&b=c #+%é")] := by
  have hread : Url.parse "https://h/a?x=1&#top" = .ok markedUrl := by rfl
  have hpairs : markedUrl.textPairs Url.decodedText = [("x", "1")] := by decide +kernel
  obtain ⟨sent, hsent, _, hmarks, htexts⟩ :=
    (attachment_touches_nothing_else (s := Snapshot.empty.succeeded markedToken 0) rfl rfl
      markedUrl .usual ⟨⟨"wx1", by decide⟩, ⟨"s"⟩⟩).1
  refine ⟨sent, hsent, ?_, hmarks _ hread, ?_⟩
  · cases hsent
    rfl
  · rw [htexts _ Url.decodedText_textBytes, hpairs]
    rfl

end FreshToken
