import FreshToken.Url.Query
import Mathlib.Data.List.Basic
/-!
# Pairs read back

A name and a value are read back from a query as they were written into it, whatever characters
they have, and the pairs that the query had before stay as they are.
-/

namespace FreshToken.Url

/-! ## Percent escapes -/

theorem hexDigitValue?_upperHexDigit : ∀ n < 16, hexDigitValue? (upperHexDigit n) = some n := by
  decide

theorem percentDecode_percentByte (b : UInt8) (rest : List Char) :
    percentDecode (percentByte b ++ rest) = b :: percentDecode rest := by
  have hb : b.toNat < 256 := b.toNat_lt
  have hhigh := hexDigitValue?_upperHexDigit (b.toNat / 16) (by omega)
  have hlow := hexDigitValue?_upperHexDigit (b.toNat % 16) (by omega)
  have hjoin : b.toNat / 16 * 16 + b.toNat % 16 = b.toNat := by omega
  simp only [percentByte, List.cons_append, List.nil_append, percentDecode, hhigh, hlow, hjoin,
    UInt8.ofNat_toNat]

theorem percentDecode_percentBytes (bs : List UInt8) (rest : List Char) :
    percentDecode (bs.flatMap percentByte ++ rest) = bs ++ percentDecode rest := by
  induction bs with
  | nil => rfl
  | cons b bs ih =>
    rw [List.flatMap_cons, List.append_assoc, percentDecode_percentByte, ih, List.cons_append]

theorem percentDecode_cons {c : Char} (h : c ≠ '%') (rest : List Char) :
    percentDecode (c :: rest) = String.utf8EncodeChar c ++ percentDecode rest := by
  rw [percentDecode]
  intro high low more heq
  exact absurd heq h

/-! ## Characters of a pair -/

theorem keepsInPair_upperHexDigit : ∀ n < 16, keepsInPair (upperHexDigit n) = true := by
  decide

theorem mem_percentByte {c : Char} {b : UInt8} (h : c ∈ percentByte b) :
    c = '%' ∨ keepsInPair c = true := by
  have hb : b.toNat < 256 := b.toNat_lt
  simp only [percentByte, List.mem_cons, List.not_mem_nil, or_false] at h
  rcases h with rfl | rfl | rfl
  · exact Or.inl rfl
  · exact Or.inr (keepsInPair_upperHexDigit _ (by omega))
  · exact Or.inr (keepsInPair_upperHexDigit _ (by omega))

/-- The characters of a written name or value: none of them is a mark of an address or a query. -/
def isFormChar (c : Char) : Bool := keepsInPair c || c = '+' || c = '%'

theorem isFormChar_of_mem {c : Char} {cs : List Char} (h : c ∈ formText cs) :
    isFormChar c = true := by
  obtain ⟨d, _, hd⟩ := List.mem_flatMap.1 h
  unfold formChar at hd
  split at hd
  · obtain rfl : c = '+' := by simpa using hd
    decide
  · unfold percentChar at hd
    split at hd
    · rename_i hkeeps
      obtain rfl : c = d := by simpa using hd
      simp [isFormChar, hkeeps]
    · obtain ⟨b, _, hb⟩ := List.mem_flatMap.1 hd
      rcases mem_percentByte hb with rfl | hkeeps
      · decide
      · simp [isFormChar, hkeeps]

theorem ne_of_isFormChar {c mark : Char} (h : isFormChar c = true)
    (hmark : isFormChar mark = false) : c ≠ mark := by
  rintro rfl
  rw [h] at hmark
  cases hmark

theorem notMem_formText {mark : Char} (h : isFormChar mark = false) (cs : List Char) :
    mark ∉ formText cs := by
  intro hmem
  exact ne_of_isFormChar (isFormChar_of_mem hmem) h rfl

theorem notMem_formPair {mark : Char} (h : isFormChar mark = false) (heq : mark ≠ '=')
    (name value : String) : mark ∉ formPair name value := by
  unfold formPair
  rw [List.mem_append, List.mem_cons, not_or, not_or]
  exact ⟨notMem_formText h _, heq, notMem_formText h _⟩

/-! ## Names and values -/

/-- Only plus signs stand for something else. -/
theorem map_plus_eq_self {cs : List Char} (h : '+' ∉ cs) :
    cs.map (fun c => if c = '+' then ' ' else c) = cs := by
  calc cs.map (fun c => if c = '+' then ' ' else c)
    _ = cs.map id := by
      refine List.map_congr_left fun c hc => if_neg ?_
      rintro rfl
      exact h hc
    _ = cs := List.map_id cs

theorem formBytes_cons {c : Char} (hplus : c ≠ '+') (hpercent : c ≠ '%') (rest : List Char) :
    formBytes (c :: rest) = String.utf8EncodeChar c ++ formBytes rest := by
  unfold formBytes
  rw [List.map_cons, if_neg hplus, percentDecode_cons hpercent]

theorem formBytes_percentBytes (bs : List UInt8) (rest : List Char) :
    formBytes (bs.flatMap percentByte ++ rest) = bs ++ formBytes rest := by
  have hplus : '+' ∉ bs.flatMap percentByte := by
    intro hmem
    obtain ⟨b, _, hb⟩ := List.mem_flatMap.1 hmem
    rcases mem_percentByte hb with h | h
    · exact absurd h (by decide)
    · exact absurd h (by decide)
  unfold formBytes
  rw [List.map_append, map_plus_eq_self hplus, percentDecode_percentBytes]

theorem formBytes_formChar (c : Char) (rest : List Char) :
    formBytes (formChar c ++ rest) = String.utf8EncodeChar c ++ formBytes rest := by
  unfold formChar
  split
  · rename_i hspace
    rw [hspace]
    rfl
  · unfold percentChar
    split
    · rename_i hkeeps
      have hplus : c ≠ '+' := by
        rintro rfl
        exact absurd hkeeps (by decide)
      have hpercent : c ≠ '%' := by
        rintro rfl
        exact absurd hkeeps (by decide)
      exact formBytes_cons hplus hpercent rest
    · exact formBytes_percentBytes _ rest

/-- What is read from a written text is the text, in bytes. -/
theorem formBytes_formText (cs : List Char) :
    formBytes (formText cs) = cs.flatMap String.utf8EncodeChar := by
  induction cs with
  | nil => rfl
  | cons c rest ih =>
    calc formBytes (formText (c :: rest))
      _ = formBytes (formChar c ++ formText rest) := rfl
      _ = String.utf8EncodeChar c ++ formBytes (formText rest) := formBytes_formChar c _
      _ = (c :: rest).flatMap String.utf8EncodeChar := by rw [ih, List.flatMap_cons]

/-! ## Pairs -/

def textBytes (s : String) : List UInt8 := s.toList.flatMap String.utf8EncodeChar

theorem toByteArray_textBytes (s : String) : (textBytes s).toByteArray = s.toUTF8 :=
  String.utf8Encode_toList

def decodedText (bytes : List UInt8) : String := (String.fromUTF8? bytes.toByteArray).getD ""

theorem decodedText_textBytes (s : String) : decodedText (textBytes s) = s := by
  have hvalid : s.toUTF8.IsValidUTF8 := s.isValidUTF8
  unfold decodedText
  rw [toByteArray_textBytes, String.fromUTF8?, dif_pos hvalid]
  rfl

def pairBytes (p : String × String) : List UInt8 × List UInt8 := (textBytes p.1, textBytes p.2)

theorem readPair_formPair (name value : String) :
    readPair (formPair name value) = pairBytes (name, value) := by
  have hname : ∀ c ∈ formText name.toList, decide (c ≠ '=') = true := by
    intro c hc
    exact decide_eq_true (ne_of_isFormChar (isFormChar_of_mem hc) (by decide))
  unfold readPair formPair pairBytes
  rw [List.takeWhile_append_of_pos hname, List.dropWhile_append_of_pos hname]
  simp [formBytes_formText, textBytes]

theorem appendPair_of_ne_nil {query : List Char} (h : query ≠ []) (name value : String) :
    appendPair query name value = query ++ '&' :: formPair name value := by
  rw [appendPair, if_neg (by rwa [List.isEmpty_iff])]

theorem appendPair_ne_nil (query : List Char) (name value : String) :
    appendPair query name value ≠ [] := by
  unfold appendPair
  split
  · simp [formPair]
  · simp

/-- A pair that is added comes after all others, which stay as they are. -/
theorem readPairs_appendPair (query : List Char) (name value : String) :
    readPairs (appendPair query name value) = readPairs query ++ [pairBytes (name, value)] := by
  have hmark : ∀ c ∈ formPair name value, decide (c = '&') = false := by
    intro c hc
    apply decide_eq_false
    intro heq
    rw [heq] at hc
    exact notMem_formPair (by decide) (by decide) name value hc
  have hpair : readPairs (formPair name value) = [pairBytes (name, value)] := by
    unfold readPairs
    rw [Text.pieces_eq_singleton hmark]
    simp [formPair, ← readPair_formPair]
  unfold appendPair
  split
  · rename_i hempty
    rw [List.isEmpty_iff] at hempty
    rw [hempty, hpair]
    rfl
  · unfold readPairs at hpair ⊢
    rw [Text.pieces_append_mark (by decide), List.filter_append, List.map_append, hpair]

/-- The query that was there before stands in front of the new one. -/
theorem prefix_appendPair (query : List Char) (name value : String) :
    query <+: appendPair query name value := by
  unfold appendPair
  split
  · rename_i hempty
    rw [List.isEmpty_iff] at hempty
    rw [hempty]
    exact List.nil_prefix
  · exact List.prefix_append _ _

end FreshToken.Url
