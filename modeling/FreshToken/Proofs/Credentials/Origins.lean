import FreshToken.Proofs.Credentials.Storage
import FreshToken.Proofs.Refresher.Opening
import FreshToken.Rehearsal.Play
/-!
# Where credentials come from

Credentials are made from two texts or read from a document with these texts.  Both ways judge the
identifier, and both give the same credentials, but an empty secret is refused on one way only.
Nobody looks at it again: a cache asks for tokens with whatever credentials it has.
-/

namespace FreshToken

namespace Credentials

/-! ## Two texts -/

section

variable {a s : String} {c : Credentials}

theorem ofStrings_eq_ok :
    ofStrings a s = .ok c ↔ (c.appId.text = a ∧ c.appSecret.exposed = s) ∧ s ≠ "" := by
  constructor
  · intro h
    unfold ofStrings at h
    split at h
    · cases h
    · rename_i id hid
      split at h
      · cases h
      · rename_i hsecret
        cases h
        refine ⟨⟨AppId.ofString_eq_ok.1 hid, rfl⟩, ?_⟩
        rwa [String.isEmpty_iff] at hsecret
  · rintro ⟨⟨rfl, rfl⟩, hsecret⟩
    rw [ofStrings, AppId.ofString_text]
    exact if_neg (by rwa [String.isEmpty_iff])

/-- There are credentials with two texts exactly if the first one is an identifier. -/
theorem exists_texts : (∃ c : Credentials, c.appId.text = a ∧ c.appSecret.exposed = s) ↔
    AppId.IsIdentifier a := by
  constructor
  · rintro ⟨c, rfl, -⟩
    exact c.appId.text_isIdentifier
  · intro h
    exact ⟨⟨⟨a, AppId.fault?_eq_none.2 h⟩, ⟨s⟩⟩, rfl, rfl⟩

theorem ofStrings_empty (h : AppId.IsIdentifier a) : ofStrings a "" = .error .emptySecret := by
  have hid : AppId.ofString a = .ok ⟨a, AppId.fault?_eq_none.2 h⟩ := AppId.ofString_eq_ok.2 rfl
  rw [ofStrings, hid]
  rfl

end

/-! ## Both ways -/

/-- What becomes of two texts if they are given, and if they are read from these bytes. -/
structure WaysIn (bs : List UInt8) (a s : String) : Prop where
  isRead : (∃ c, reader.whole bs = .ok c) ↔ AppId.IsIdentifier a
  isMade : (∃ c, ofStrings a s = .ok c) ↔ AppId.IsIdentifier a ∧ s ≠ ""
  texts : ∀ c, reader.whole bs = .ok c ∨ ofStrings a s = .ok c →
    c.appId.text = a ∧ c.appSecret.exposed = s
  /-- If there is a secret, the ways do not differ. -/
  alike : s ≠ "" → ∀ c, reader.whole bs = .ok c ↔ ofStrings a s = .ok c
  /-- If there is none, no credentials are made, but they are read. -/
  apart : s = "" → AppId.IsIdentifier a →
    ofStrings a s = .error .emptySecret ∧ ∃ c, reader.whole bs = .ok c ∧ c.appSecret.isEmpty = true
  valid : ∀ c, reader.whole bs = .ok c ∨ ofStrings a s = .ok c → AppId.IsIdentifier c.appId.text
  secured : ∀ c, ofStrings a s = .ok c → c.appSecret.isEmpty = false
  /-- A cache asks for tokens with the credentials as they are, whichever way they came. -/
  asked : ∀ c, reader.whole bs = .ok c ∨ ofStrings a s = .ok c →
    ∀ {σ τ α : Type} (env : Surroundings σ τ α) (source : TokenSource τ α) (policy : Policy)
      (before : List (Asked τ α)) (w : σ), policy.fault? = none →
      ((env.recorded.openCache c source policy).run (before, w)).2.1 = before ++ [source.asks c]

theorem ways_in {bs : List UInt8} {a s : String} (h : Stored bs a s) : WaysIn bs a s where
  isRead := by
    simp only [h.whole_eq_ok]
    exact exists_texts
  isMade := by
    simp only [ofStrings_eq_ok, exists_and_right, exists_texts]
  texts := by
    rintro c (hread | hmade)
    · exact h.whole_eq_ok.1 hread
    · exact (ofStrings_eq_ok.1 hmade).1
  alike := by
    intro hsecret c
    rw [h.whole_eq_ok, ofStrings_eq_ok]
    exact (and_iff_left hsecret).symm
  apart := by
    rintro rfl hid
    obtain ⟨c, hc⟩ := (exists_texts (s := "")).2 hid
    refine ⟨ofStrings_empty hid, c, h.whole_eq_ok.2 hc, ?_⟩
    rw [Secret.isEmpty, hc.2]
    rfl
  valid := fun c _ => c.appId.text_isIdentifier
  secured := by
    intro c hmade
    obtain ⟨⟨-, rfl⟩, hsecret⟩ := ofStrings_eq_ok.1 hmade
    rwa [Secret.isEmpty, ← Bool.not_eq_true, String.isEmpty_iff]
  asked := by
    intro c _ σ τ α env source policy before w hpolicy
    rw [env.openCache_recorded source c policy before w hpolicy]

theorem ways_in_of_escapedText : Stored escapedText "wx-1" "a😀" ∧
    WaysIn escapedText "wx-1" "a😀" := by
  have hread : reader.whole escapedText = .ok ⟨⟨"wx-1", rfl⟩, ⟨"a😀"⟩⟩ := by rfl
  have hstored : Stored escapedText "wx-1" "a😀" := whole_eq_ok.1 hread
  exact ⟨hstored, ways_in hstored⟩

/-- The document `{"app_id":"wx1","app_secret":""}`. -/
def unsecuredText : List UInt8 :=
  "\x7b\x22app_id\x22:\x22wx1\x22,\x22app_secret\x22:\x22\x22\x7d".toUTF8.data.toList

def unsecured : Credentials := ⟨⟨"wx1", rfl⟩, ⟨""⟩⟩

/-- What cannot be made can be read, and a cache is opened with it. -/
theorem unsecured_is_read :
    Stored unsecuredText "wx1" "" ∧ reader.whole unsecuredText = .ok unsecured ∧
      ofStrings "wx1" "" = .error .emptySecret ∧
      ((Rehearsal.World.start 0 1 [] []).openCache unsecured
        (.custom [⟨.zero, .token "t" .longest⟩]) .standard).1 = .ok () := by
  have hread : reader.whole unsecuredText = .ok unsecured := by rfl
  exact ⟨whole_eq_ok.1 hread, hread, rfl, rfl⟩

end Credentials

end FreshToken
