import FreshToken.Proofs.Credentials.Stored
import FreshToken.Proofs.Text.Quoted
import FreshToken.Proofs.Url.Attachment
/-!
# Which texts are identifiers

An identifier is one to sixty-four characters of a fixed alphabet, all of them ASCII.  It is the
same judgement, with the same first fault, whether a text is given or read from a document; and
what is judged to be an identifier needs no escape, neither in a document nor in an address.
-/

namespace FreshToken

open Json

namespace AppId

def alphabet : List Char :=
  "ABCDEFGHIJKLMNOPQRSTUVWXYZabcdefghijklmnopqrstuvwxyz0123456789_-".toList

structure IsIdentifier (s : String) : Prop where
  nonempty : 1 ≤ s.length
  short : s.length ≤ 64
  chars : ∀ c ∈ s.toList, c ∈ alphabet

/-- What keeps a text from being an identifier.  A character outside the alphabet counts before
the length does, and of several such characters the first one. -/
inductive Faulty (s : String) : AppIdFault → Prop
  | empty (h : s = "") : Faulty s .empty
  | unsupported {front back : List Char} {c : Char} (parts : s.toList = front ++ c :: back)
    (before : ∀ d ∈ front, d ∈ alphabet) (first : c ∉ alphabet) : Faulty s (.unsupported c)
  | tooLong (chars : ∀ c ∈ s.toList, c ∈ alphabet) (long : 64 < s.length) : Faulty s .tooLong

/-! ## The alphabet -/

theorem isIdChar_of_mem : ∀ c ∈ alphabet, isIdChar c = true := List.all_eq_true.1 (by rfl)

/-- Characters in a row belong to the alphabet if they do one by one. -/
theorem mem_of_run {low c : Char} (count : Nat)
    (run : ∀ n < count, Char.ofNat (low.toNat + n) ∈ alphabet) (hlow : low ≤ c)
    (hhigh : c.toNat < low.toNat + count) : c ∈ alphabet := by
  have hle : low.toNat ≤ c.toNat := hlow
  have hmem := run (c.toNat - low.toNat) (by omega)
  rwa [Nat.add_sub_cancel' hle, Char.ofNat_toNat] at hmem

theorem isIdChar_iff {c : Char} : isIdChar c = true ↔ c ∈ alphabet := by
  refine ⟨fun h => ?_, isIdChar_of_mem c⟩
  simp only [isIdChar, Bool.or_eq_true, Bool.and_eq_true, decide_eq_true_eq] at h
  rcases h with (((⟨hlow, hhigh⟩ | ⟨hlow, hhigh⟩) | ⟨hlow, hhigh⟩) | rfl) | rfl
  · exact mem_of_run 26 (by decide) hlow (Nat.lt_succ_of_le hhigh)
  · exact mem_of_run 26 (by decide) hlow (Nat.lt_succ_of_le hhigh)
  · exact mem_of_run 10 (by decide) hlow (Nat.lt_succ_of_le hhigh)
  · decide
  · decide

/-- What can be computed for each character of the alphabet. -/
theorem eq_of_all {α : Type} [DecidableEq α] {f g : Char → α}
    (h : (alphabet.all fun c => f c == g c) = true) : ∀ c ∈ alphabet, f c = g c := by
  simpa only [List.all_eq_true, beq_iff_eq] using h

theorem length_of_mem : ∀ c ∈ alphabet, (String.utf8EncodeChar c).length = 1 :=
  eq_of_all (by rfl)

theorem escapedChar_of_mem : ∀ c ∈ alphabet, escapedChar c = [c] := eq_of_all (by rfl)

theorem formChar_of_mem : ∀ c ∈ alphabet, Url.formChar c = [c] := eq_of_all (by rfl)

/-- Where no character is outside the alphabet, bytes count characters. -/
theorem utf8ByteSize_eq_length {s : String} (h : ∀ c ∈ s.toList, c ∈ alphabet) :
    s.utf8ByteSize = s.length := by
  calc s.utf8ByteSize
    _ = (utf8 s.toList).length := by rw [← toUTF8_data]; rfl
    _ = (s.toList.map fun c => (String.utf8EncodeChar c).length).sum := List.length_flatMap
    _ = (s.toList.map fun _ => 1).sum := by
      rw [List.map_congr_left fun c hc => length_of_mem c (h c hc)]
    _ = s.toList.length := by simp
    _ = s.length := String.length_toList

theorem flatMap_eq_self {f : Char → List Char} (hf : ∀ c ∈ alphabet, f c = [c]) {cs : List Char}
    (h : ∀ c ∈ cs, c ∈ alphabet) : cs.flatMap f = cs := by
  calc cs.flatMap f
    _ = cs.flatMap fun c => [c] := List.flatMap_congr fun c hc => hf c (h c hc)
    _ = cs := List.flatMap_singleton' cs

/-! ## Faults -/

section

variable {s : String} {f : AppIdFault}

theorem find?_none_iff :
    (s.toList.find? fun c => !isIdChar c) = none ↔ ∀ c ∈ s.toList, c ∈ alphabet := by
  simp only [List.find?_eq_none, Bool.not_eq_true, Bool.not_eq_false', isIdChar_iff]

theorem find?_some_iff {c : Char} : (s.toList.find? fun c => !isIdChar c) = some c ↔
    ∃ front back, s.toList = front ++ c :: back ∧ (∀ d ∈ front, d ∈ alphabet) ∧ c ∉ alphabet := by
  have hout : (!isIdChar c) = true ↔ c ∉ alphabet := by
    rw [Bool.not_eq_true', ← Bool.not_eq_true, isIdChar_iff]
  rw [List.find?_eq_some_iff_append, hout]
  simp only [Bool.not_not, isIdChar_iff]
  constructor
  · rintro ⟨first, front, back, parts, before⟩
    exact ⟨front, back, parts, before, first⟩
  · rintro ⟨front, back, parts, before, first⟩
    exact ⟨first, front, back, parts, before⟩

theorem Faulty.fault? (h : Faulty s f) : appIdFault? s = some f := by
  cases h with
  | empty h =>
    subst h
    rfl
  | @unsupported front back c parts before first =>
    have hnonempty : s.isEmpty = false := by
      rw [String.isEmpty_eq_false_iff]
      rintro rfl
      simp at parts
    rw [appIdFault?, hnonempty, find?_some_iff.2 ⟨front, back, parts, before, first⟩]
    rfl
  | tooLong chars long =>
    have hnonempty : s.isEmpty = false := by
      rw [String.isEmpty_eq_false_iff]
      rintro rfl
      exact absurd long (by decide)
    rw [appIdFault?, hnonempty, find?_none_iff.2 chars, utf8ByteSize_eq_length chars]
    exact if_pos long

theorem faulty_of_fault? (h : appIdFault? s = some f) : Faulty s f := by
  unfold appIdFault? at h
  split at h
  · rename_i hempty
    cases h
    exact .empty (String.isEmpty_iff.1 hempty)
  · split at h
    · rename_i hfind
      cases h
      obtain ⟨front, back, parts, before, first⟩ := find?_some_iff.1 hfind
      exact .unsupported parts before first
    · rename_i hfind
      have hchars := find?_none_iff.1 hfind
      split at h
      · rename_i hlong
        cases h
        rw [utf8ByteSize_eq_length hchars] at hlong
        exact .tooLong hchars hlong
      · cases h

/-- What is found is the one fault that there is. -/
theorem fault?_eq_some : appIdFault? s = some f ↔ Faulty s f := ⟨faulty_of_fault?, Faulty.fault?⟩

theorem IsIdentifier.not_faulty (h : IsIdentifier s) : ¬Faulty s f := by
  obtain ⟨hnonempty, hshort, hchars⟩ := h
  rintro (rfl | ⟨parts, _, first⟩ | ⟨_, long⟩)
  · exact absurd hnonempty (by decide)
  · exact first (hchars _ (by simp [parts]))
  · omega

theorem fault?_eq_none : appIdFault? s = none ↔ IsIdentifier s := by
  constructor
  · intro h
    have hsound : ∀ f, ¬Faulty s f := fun f hf => by
      rw [hf.fault?] at h
      cases h
    have hchars : ∀ c ∈ s.toList, c ∈ alphabet := by
      refine find?_none_iff.1 (Option.eq_none_iff_forall_ne_some.2 fun c hfind => ?_)
      obtain ⟨front, back, parts, before, first⟩ := find?_some_iff.1 hfind
      exact hsound _ (.unsupported parts before first)
    refine ⟨Nat.one_le_iff_ne_zero.2 fun hzero => ?_, Nat.not_lt.1 fun long => ?_, hchars⟩
    · exact hsound _ (.empty (String.length_eq_zero_iff.1 hzero))
    · exact hsound _ (.tooLong hchars long)
  · intro h
    exact Option.eq_none_iff_forall_ne_some.2 fun f hf => h.not_faulty (faulty_of_fault? hf)

/-! ## Judgement -/

theorem text_isIdentifier (a : AppId) : IsIdentifier a.text := fault?_eq_none.1 a.sound

theorem exists_ofString_eq_ok : (∃ a, ofString s = .ok a) ↔ IsIdentifier s := by
  constructor
  · rintro ⟨a, ha⟩
    rw [← ofString_eq_ok.1 ha]
    exact a.text_isIdentifier
  · intro h
    exact ⟨⟨s, fault?_eq_none.2 h⟩, ofString_text ⟨s, _⟩⟩

/-- A text in a document is judged like one that is given. -/
theorem whole_eq {bs : List UInt8} (h : WholeText bs s) : reader.whole bs =
    (ofString s).mapError fun f => .mismatch (.refused f.message) := by
  obtain ⟨doc, hwhole, htext⟩ := h
  have hread : Reader.text nestingLimit doc = .ok s :=
    (reads_text nestingLimit hwhole.isSpelled s).2 htext
  rw [hwhole.whole, reader, Reader.checked, hread]
  change ((ofString s).mapError AppIdFault.message).mapError _ = _
  cases ofString s <;> rfl

end

end AppId

namespace AppIdFault

/-- The character at which the messages of different kinds part. -/
def turn : AppIdFault → Char
  | .empty => 'a'
  | .unsupported _ => 'o'
  | .tooLong => 'x'

theorem message_unsupported (c : Char) : (unsupported c).message =
    "App identifier contains unsupported character " ++ Text.quotedChar c ++ "." := rfl

theorem message_getElem? (f : AppIdFault) : f.message.toList[16]? = some f.turn := by
  cases f with
  | empty => rfl
  | tooLong => rfl
  | unsupported c =>
    rw [message_unsupported, String.toList_append, String.toList_append, List.append_assoc]
    exact List.getElem?_append_left (by decide)

/-- The message says all about the fault. -/
theorem message_inj {f g : AppIdFault} (h : f.message = g.message) : f = g := by
  have hturn : some f.turn = some g.turn := by
    rw [← message_getElem? f, ← message_getElem? g, h]
  cases f <;> cases g
  case empty.empty => rfl
  case tooLong.tooLong => rfl
  case unsupported.unsupported c d =>
    rw [message_unsupported, message_unsupported] at h
    have hlists := congrArg String.toList h
    simp only [String.toList_append] at hlists
    have hquoted := List.append_cancel_left (List.append_cancel_right hlists)
    rw [Text.quotedChar_inj (String.toList_inj.1 hquoted)]
  all_goals simp [turn] at hturn

end AppIdFault

namespace AppId

theorem whole_eq_error {s : String} {bs : List UInt8} (h : WholeText bs s) {f : AppIdFault} :
    reader.whole bs = .error (.mismatch (.refused f.message)) ↔ ofString s = .error f := by
  rw [whole_eq h]
  constructor
  · intro herror
    cases hof : ofString s with
    | ok a =>
      rw [hof] at herror
      cases herror
    | error g =>
      rw [hof] at herror
      have hlocated := Except.error.inj herror
      have hmessage : g.message = f.message := by
        injection hlocated with _ hfault
        injection hfault with hmismatch
        injection hmismatch
      rw [AppIdFault.message_inj hmessage]
  · intro hof
    rw [hof]
    rfl

/-! ## No escapes -/

/-- An identifier stands everywhere as it is. -/
structure Verbatim (a : AppId) : Prop where
  again : ofString a.text = .ok a
  written : a.toJson.text = "\"" ++ a.text ++ "\""
  restored : reader.whole a.toJson.encode = .ok a
  form : Url.formText a.text.toList = a.text.toList
  /-- A request for a token has it between the other two pairs. -/
  asked : ∀ (e : TokenEndpoint) (secret : Secret .app),
    (e.requestUrl ⟨a, secret⟩).queryChars =
      Url.appendPair e.url.queryChars "grant_type" "client_credential" ++
        ("&appid=".toList ++ (a.text.toList ++
          ("&secret=".toList ++ Url.formText secret.exposed.toList)))

theorem formText_text (a : AppId) : Url.formText a.text.toList = a.text.toList :=
  flatMap_eq_self formChar_of_mem a.text_isIdentifier.chars

theorem queryChars_requestUrl (e : TokenEndpoint) (a : AppId) (secret : Secret .app) :
    (e.requestUrl ⟨a, secret⟩).queryChars =
      Url.appendPair e.url.queryChars "grant_type" "client_credential" ++
        ("&appid=".toList ++ (a.text.toList ++
          ("&secret=".toList ++ Url.formText secret.exposed.toList))) := by
  have hid : Url.formPair "appid" a.text = "appid=".toList ++ a.text.toList := by
    rw [Url.formPair, formText_text]
    rfl
  have hsecret : Url.formPair "secret" secret.exposed =
      "secret=".toList ++ Url.formText secret.exposed.toList := rfl
  rw [TokenEndpoint.requestUrl, Url.queryChars_withPair, Url.queryChars_withPair,
    Url.queryChars_withPair, Url.appendPair_of_ne_nil (Url.appendPair_ne_nil _ _ _),
    Url.appendPair_of_ne_nil (Url.appendPair_ne_nil _ _ _), hid, hsecret]
  simp

theorem verbatim (a : AppId) : Verbatim a where
  again := ofString_text a
  written := by
    have hescaped : a.text.toList.flatMap escapedChar = a.text.toList :=
      flatMap_eq_self escapedChar_of_mem a.text_isIdentifier.chars
    rw [← String.toList_inj, toJson, Value.text, Value.chars, stringText, hescaped]
    simp
  restored := whole_eq_ok.2 (wholeText_encode a.text)
  form := formText_text a
  asked := fun e secret => queryChars_requestUrl e a secret

/-! ## Result -/

/-- What becomes of a text that is offered as an identifier. -/
structure Judged (s : String) : Prop where
  accepted : (∃ a, ofString s = .ok a) ↔ IsIdentifier s
  refused : ∀ f, ofString s = .error f ↔ Faulty s f
  /-- Where the number of bytes is looked at, it is the number of characters. -/
  counted : (∀ c ∈ s.toList, c ∈ alphabet) → s.utf8ByteSize = s.length
  /-- The text of a document is judged alike, however it is written. -/
  stored : ∀ bs, WholeText bs s →
    (∀ a, reader.whole bs = .ok a ↔ ofString s = .ok a) ∧
    ∀ f, reader.whole bs = .error (.mismatch (.refused f.message)) ↔ ofString s = .error f
  writable : ∃ bs, WholeText bs s
  kept : ∀ a, ofString s = .ok a → a.text = s ∧ Verbatim a

theorem every_text_judged (s : String) : Judged s where
  accepted := exists_ofString_eq_ok
  refused := fun f => ofString_eq_error.trans fault?_eq_some
  counted := utf8ByteSize_eq_length
  stored := by
    intro bs h
    refine ⟨fun a => ?_, fun f => whole_eq_error h⟩
    rw [whole_eq h, mapError_eq_ok]
  writable := ⟨_, wholeText_encode s⟩
  kept := fun a h => ⟨ofString_eq_ok.1 h, a.verbatim⟩

-- the length does not count if there is a character outside the alphabet
example : appIdFault? (String.ofList (List.replicate 65 'a' ++ ['é', ' '])) =
    some (.unsupported 'é') := by decide

end AppId

end FreshToken
