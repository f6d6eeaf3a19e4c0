import FreshToken.Proofs.Json.Meaning
/-!
# What is written

The compact text of a value spells a document, and the document means the value: no character
breaks out of its string, and every integer stands with all its digits.
-/

namespace FreshToken.Json

/-! ## Bytes of texts -/

def utf8 (cs : List Char) : List UInt8 := cs.flatMap String.utf8EncodeChar

@[simp] theorem utf8_nil : utf8 [] = [] := rfl

@[simp] theorem utf8_cons (c : Char) (cs : List Char) :
    utf8 (c :: cs) = String.utf8EncodeChar c ++ utf8 cs := rfl

@[simp] theorem utf8_append (cs ds : List Char) : utf8 (cs ++ ds) = utf8 cs ++ utf8 ds :=
  List.flatMap_append

theorem toList_loop (bs : ByteArray) (i : Nat) (read : List UInt8) :
    ByteArray.toList.loop bs i read = read.reverse ++ bs.data.toList.drop i := by
  rw [ByteArray.toList.loop]
  split
  · rename_i h
    have hdrop : bs.data.toList.drop i = bs.get! i :: bs.data.toList.drop (i + 1) := by
      rw [List.drop_eq_getElem_cons (by simpa using h)]
      exact congrArg (· :: _) (getElem!_pos bs.data i h).symm
    rw [toList_loop, hdrop, List.reverse_cons, List.append_assoc, List.singleton_append]
  · rename_i h
    rw [List.drop_eq_nil_of_le (by simpa using Nat.not_lt.1 h), List.append_nil]
termination_by bs.size - i

theorem toUTF8_data (s : String) : s.toUTF8.data.toList = utf8 s.toList := by
  have h : s.toUTF8 = (utf8 s.toList).toByteArray := String.utf8Encode_toList.symm
  rw [h, List.data_toByteArray]

theorem Value.encode_eq (v : Value) : v.encode = utf8 v.chars := by
  rw [Value.encode, ByteArray.toList, toList_loop, toUTF8_data, Value.text, String.toList_ofList]
  rfl

/-! ## Strings -/

theorem isPlain_ofNat {n : Nat} (hn : n < 256) (hcontrol : 0x20 ≤ n) (hquote : n ≠ 0x22)
    (hbackslash : n ≠ 0x5c) : isPlain (UInt8.ofNat n) = true := by
  have hnat : (UInt8.ofNat n).toNat = n := UInt8.toNat_ofNat_of_lt' hn
  simp only [isPlain, Bool.and_eq_true, decide_eq_true_eq, bne_iff_ne, UInt8.le_iff_toNat_le,
    ne_eq, ← UInt8.toNat_inj, hnat]
  exact ⟨⟨hcontrol, hquote⟩, hbackslash⟩

/-- The bytes of characters beyond ASCII are neither controls nor marks. -/
theorem isPlain_beyond {n : Nat} (hn : n < 256) (h : 128 ≤ n) : isPlain (UInt8.ofNat n) = true :=
  isPlain_ofNat hn (by omega) (by omega) (by omega)

/-- A character that is not escaped has only bytes that may stand as they are. -/
theorem isPlain_utf8EncodeChar {c : Char} (hquote : c ≠ '"') (hbackslash : c ≠ '\\')
    (hcontrol : 0x20 ≤ c.toNat) : (String.utf8EncodeChar c).all isPlain = true := by
  have h22 : c.val.toNat ≠ 0x22 := fun h => hquote (Char.toNat_inj.1 h)
  have h5c : c.val.toNat ≠ 0x5c := fun h => hbackslash (Char.toNat_inj.1 h)
  have hvalue : 0x20 ≤ c.val.toNat := hcontrol
  unfold String.utf8EncodeChar
  simp only
  split
  · simp only [List.all_cons, List.all_nil, Bool.and_true]
    exact isPlain_ofNat (by omega) hvalue h22 h5c
  · split
    · simp only [List.all_cons, List.all_nil, Bool.and_true, Bool.and_eq_true]
      exact ⟨isPlain_beyond (by omega) (by omega), isPlain_beyond (by omega) (by omega)⟩
    · split
      · simp only [List.all_cons, List.all_nil, Bool.and_true, Bool.and_eq_true]
        exact ⟨isPlain_beyond (by omega) (by omega), isPlain_beyond (by omega) (by omega),
          isPlain_beyond (by omega) (by omega)⟩
      · simp only [List.all_cons, List.all_nil, Bool.and_true, Bool.and_eq_true]
        exact ⟨isPlain_beyond (by omega) (by omega), isPlain_beyond (by omega) (by omega),
          isPlain_beyond (by omega) (by omega), isPlain_beyond (by omega) (by omega)⟩

def hexByte (d : Nat) : UInt8 := UInt8.ofNat (if d < 10 then 0x30 + d else 0x57 + d)

theorem utf8_hexDigit : ∀ d < 16, String.utf8EncodeChar (hexDigit d) = [hexByte d] := by decide

theorem hexDigit_hexByte {d : Nat} (h : d < 16) : HexDigit (hexByte d) d := by
  unfold hexByte
  split
  · rename_i hlt
    exact .decimal hlt
  · obtain ⟨e, rfl⟩ : ∃ e, d = 10 + e := ⟨d - 10, by omega⟩
    have hbyte : 0x57 + (10 + e) = 0x61 + e := by omega
    rw [hbyte]
    exact .lower (by omega)

theorem hexDigit_mod (n : Nat) : hexDigit n = hexDigit (n % 16) := by
  rw [hexDigit, hexDigit, Nat.mod_mod]

/-- The units of a string spell the bytes in front of its closing quote and stand for the text. -/
structure Carries (ps : List Piece) (text written : List UInt8) : Prop where
  spells : Quoted.Spells ⟨ps, none⟩ (written ++ [0x22])
  stands : Stands ps text

section
variable {ps : List Piece} {text written : List UInt8}

theorem Carries.nil : Carries [] [] [] := ⟨.close, .nil⟩

/-- A character with an escape of its own, `d` after the backslash. -/
theorem Carries.short (h : Carries ps text written) {c d : Char} (e b : UInt8)
    (hmem : (e, b) ∈ shortEscapes) (hd : String.utf8EncodeChar d = [e])
    (hc : String.utf8EncodeChar c = [b]) :
    Carries (.byte b :: ps) (String.utf8EncodeChar c ++ text) (utf8 ['\\', d] ++ written) := by
  have hwritten : utf8 ['\\', d] = [0x5c, e] := by
    rw [utf8_cons, utf8_cons, hd]
    rfl
  have hspells : Quoted.Spells ⟨.byte b :: ps, none⟩ ([0x5c, e] ++ (written ++ [0x22])) :=
    .more (.short hmem) h.spells
  rw [hc, hwritten]
  exact ⟨by rwa [List.append_assoc], .byte b h.stands⟩

/-- A control, whose number is written in hexadecimal digits. -/
theorem Carries.control (h : Carries ps text written) {c : Char} (hc : c.toNat < 0x20) :
    Carries (.unit c.toNat :: ps) (String.utf8EncodeChar c ++ text)
      (utf8 ['\\', 'u', '0', '0', hexDigit (c.toNat / 16), hexDigit c.toNat] ++ written) := by
  have hhigh : c.toNat / 16 < 16 := by omega
  have hlow : c.toNat % 16 < 16 := Nat.mod_lt _ (by decide)
  have hwritten : utf8 ['\\', 'u', '0', '0', hexDigit (c.toNat / 16), hexDigit c.toNat] =
      [0x5c, 0x75, hexByte 0, hexByte 0, hexByte (c.toNat / 16), hexByte (c.toNat % 16)] := by
    rw [hexDigit_mod c.toNat]
    simp only [utf8_cons, utf8_nil, utf8_hexDigit _ hhigh, utf8_hexDigit _ hlow]
    rfl
  have hunit : 0 * 4096 + 0 * 256 + c.toNat / 16 * 16 + c.toNat % 16 = c.toNat := by omega
  have hpiece := Piece.Spells.unit (hexDigit_hexByte (by decide : 0 < 16))
    (hexDigit_hexByte (by decide : 0 < 16)) (hexDigit_hexByte hhigh) (hexDigit_hexByte hlow)
  rw [hunit] at hpiece
  have hspells := Quoted.Spells.more hpiece h.spells
  rw [hwritten]
  exact ⟨by rwa [List.append_assoc], .char c (by omega) h.stands⟩

theorem Carries.plain (h : Carries ps text written) {c : Char} (hquote : c ≠ '"')
    (hbackslash : c ≠ '\\') (hcontrol : 0x20 ≤ c.toNat) :
    Carries ((String.utf8EncodeChar c).map .byte ++ ps) (String.utf8EncodeChar c ++ text)
      (utf8 [c] ++ written) := by
  have hspells := h.spells.bytes (isPlain_utf8EncodeChar hquote hbackslash hcontrol)
  rw [utf8_cons, utf8_nil, List.append_nil]
  exact ⟨by rwa [List.append_assoc], h.stands.bytes _⟩

/-- What is written for a character stands for the character. -/
theorem Carries.exists_char (h : Carries ps text written) (c : Char) :
    ∃ qs, Carries qs (String.utf8EncodeChar c ++ text) (utf8 (escapedChar c) ++ written) := by
  unfold escapedChar
  split_ifs with hquote hbackslash hback hfeed hline hreturn htab hcontrol
  · subst hquote
    exact ⟨_, h.short 0x22 0x22 (by decide) (by decide) (by decide)⟩
  · subst hbackslash
    exact ⟨_, h.short 0x5c 0x5c (by decide) (by decide) (by decide)⟩
  · subst hback
    exact ⟨_, h.short 0x62 0x08 (by decide) (by decide) (by decide)⟩
  · subst hfeed
    exact ⟨_, h.short 0x66 0x0c (by decide) (by decide) (by decide)⟩
  · subst hline
    exact ⟨_, h.short 0x6e 0x0a (by decide) (by decide) (by decide)⟩
  · subst hreturn
    exact ⟨_, h.short 0x72 0x0d (by decide) (by decide) (by decide)⟩
  · subst htab
    exact ⟨_, h.short 0x74 0x09 (by decide) (by decide) (by decide)⟩
  · exact ⟨_, h.control hcontrol⟩
  · exact ⟨_, h.plain hquote hbackslash (Nat.not_lt.1 hcontrol)⟩

end

theorem exists_carries (cs : List Char) :
    ∃ ps, Carries ps (utf8 cs) (utf8 (cs.flatMap escapedChar)) := by
  induction cs with
  | nil => exact ⟨[], .nil⟩
  | cons c cs ih =>
    obtain ⟨ps, h⟩ := ih
    rw [List.flatMap_cons, utf8_append]
    exact h.exists_char c

/-- A written string spells a string that stands for the text. -/
theorem exists_quoted (s : String) :
    ∃ (q : Quoted) (bs : List UInt8), utf8 (stringText s) = 0x22 :: bs ∧ q.Spells bs ∧
      q.Denotes s := by
  obtain ⟨ps, h⟩ := exists_carries s.toList
  refine ⟨⟨ps, none⟩, utf8 (s.toList.flatMap escapedChar) ++ [0x22], ?_, h.spells, rfl, ?_⟩
  · rw [stringText, utf8_cons, utf8_append]
    rfl
  · rw [toUTF8_data]
    exact h.stands

/-! ## Integers -/

structure WrittenDigits (n : Nat) (ds : List Nat) : Prop where
  digits : IsDigits ds
  zero : ds.head? = some 0 → ds = [0]
  value : decimal ds = n
  text : Nat.toDigits 10 n = ds.map Nat.digitChar

theorem decimal_append (ds : List Nat) (d : Nat) : decimal (ds ++ [d]) = 10 * decimal ds + d := by
  rw [decimal, decimal, List.reverse_append, List.reverse_singleton, List.singleton_append,
    Nat.ofDigits_cons]
  omega

theorem exists_writtenDigits (n : Nat) : ∃ ds, WrittenDigits n ds := by
  induction n using Nat.strongRecOn with
  | _ n ih =>
    by_cases hlt : n < 10
    · refine ⟨[n], ⟨List.cons_ne_nil _ _, by simpa using hlt⟩, by simp, by simp [decimal], ?_⟩
      rw [Nat.toDigits_of_lt_base hlt]
      rfl
    · obtain ⟨ds, h⟩ := ih (n / 10) (by omega)
      have hlast : n % 10 < 10 := Nat.mod_lt _ (by decide)
      obtain ⟨d, more, rfl⟩ := List.exists_cons_of_ne_nil h.digits.1
      refine ⟨d :: more ++ [n % 10], ⟨by simp, fun e he => ?_⟩, fun hzero => ?_, ?_, ?_⟩
      · rcases List.mem_append.1 he with he | he
        · exact h.digits.2 e he
        · rwa [List.mem_singleton.1 he]
      · -- a zero in front would be all there is before the last digit
        have hone := h.zero hzero
        have hvalue := h.value
        rw [hone] at hvalue
        simp [decimal] at hvalue
        omega
      · rw [decimal_append, h.value]
        omega
      · have happend := Nat.toDigits_append_toDigits (by decide : 1 < 10)
          (by omega : 0 < n / 10) hlast
        rw [Nat.div_add_mod, h.text, Nat.toDigits_of_lt_base hlast] at happend
        rw [← happend, List.map_append]
        rfl

theorem utf8_digitChar : ∀ d < 10, String.utf8EncodeChar (Nat.digitChar d) =
    [UInt8.ofNat (0x30 + d)] := by decide

theorem utf8_digits {ds : List Nat} (h : ∀ d ∈ ds, d < 10) :
    utf8 (ds.map Nat.digitChar) = digitBytes ds := by
  induction ds with
  | nil => rfl
  | cons d ds ih =>
    rw [List.forall_mem_cons] at h
    rw [List.map_cons, utf8_cons, utf8_digitChar d h.1, ih h.2]
    rfl

theorem WrittenDigits.spells {n : Nat} {ds : List Nat} (h : WrittenDigits n ds)
    (negative : Bool) : Numeral.Spells ⟨negative, ds, [], none⟩
      ((if negative then [0x2d] else []) ++ utf8 (Nat.toDigits 10 n)) := by
  have hspells := @Numeral.Spells.mk negative ds [] none [] [] h.digits h.zero .none .none
  rw [List.append_nil, List.append_nil] at hspells
  rwa [h.text, utf8_digits h.digits.2]

/-- An integer of 64 bits is written with all its digits. -/
theorem exists_numeral {i : Int} (h : isExact i = true) :
    ∃ n : Numeral, n.Spells (utf8 (toString i).toList) ∧ n.value? = some (.int i) := by
  simp only [isExact, Bool.and_eq_true, decide_eq_true_eq] at h
  cases i with
  | ofNat k =>
    obtain ⟨ds, hds⟩ := exists_writtenDigits k
    have htext : (toString (Int.ofNat k)).toList = Nat.toDigits 10 k := String.toList_ofList
    refine ⟨⟨false, ds, [], none⟩, ?_, value?_eq_int.2 ⟨?_, by omega, by omega⟩⟩
    · rw [htext]
      exact hds.spells false
    · have hinteger := Doc.IsInteger.natural ds
      rwa [hds.value] at hinteger
  | negSucc k =>
    obtain ⟨ds, hds⟩ := exists_writtenDigits (k + 1)
    have htext : (toString (Int.negSucc k)).toList = '-' :: Nat.toDigits 10 (k + 1) := by
      change ("-" ++ String.ofList (Nat.toDigits 10 (k + 1))).toList = _
      rw [String.toList_append]
      exact congrArg ('-' :: ·) String.toList_ofList
    refine ⟨⟨true, ds, [], none⟩, ?_, value?_eq_int.2 ⟨?_, by omega, by omega⟩⟩
    · rw [htext]
      exact hds.spells true
    · have hne : decimal ds ≠ 0 := by rw [hds.value]; exact Nat.succ_ne_zero k
      have hinteger := Doc.IsInteger.negative ds hne
      rwa [hds.value] at hinteger

/-! ## Values -/

/-- The value's text spells a document that means the value. -/
def Value.IsWritten (v : Value) : Prop := ∃ doc : Doc, doc.Spells (utf8 v.chars) ∧ doc.Means v

theorem separates_first : Separates true [] := .first blanks_nil

theorem separates_comma : Separates false [0x2c] := .comma blanks_nil blanks_nil

theorem exists_moreItems {items : List Value} (h : ∀ item ∈ items, item.IsWritten) :
    ∃ these : Items, these.Spells false (utf8 (Value.moreItems items)) ∧ these.Means items := by
  induction items with
  | nil => exact ⟨.closed, .closed blanks_nil, .closed⟩
  | cons item items ih =>
    rw [List.forall_mem_cons] at h
    obtain ⟨doc, hdoc, hmeans⟩ := h.1
    obtain ⟨these, hthese, hmore⟩ := ih h.2
    refine ⟨.item doc these, ?_, .item hmeans hmore⟩
    rw [Value.moreItems, utf8_cons, utf8_append]
    exact .item separates_comma hdoc hthese

theorem isWritten_list {items : List Value} (h : ∀ item ∈ items, item.IsWritten) :
    (Value.list items).IsWritten := by
  cases items with
  | nil => exact ⟨.list .closed, .list (.closed blanks_nil), .list .closed⟩
  | cons item items =>
    rw [List.forall_mem_cons] at h
    obtain ⟨doc, hdoc, hmeans⟩ := h.1
    obtain ⟨these, hthese, hmore⟩ := exists_moreItems h.2
    refine ⟨.list (.item doc these), ?_, .list (.item hmeans hmore)⟩
    rw [Value.chars, utf8_cons, utf8_append]
    exact .list (.item separates_first hdoc hthese)

theorem exists_member {first : Bool} {ss : List UInt8} (before : Separates first ss)
    (key : String) {value : Value} (hvalue : value.IsWritten) {members : List (String × Value)}
    {written : List Char}
    (hmembers : ∃ these : Members, these.Spells false (utf8 written) ∧ these.Means members) :
    ∃ these : Members,
      these.Spells first (ss ++ utf8 (stringText key ++ ':' :: (value.chars ++ written))) ∧
        these.Means ((key, value) :: members) := by
  obtain ⟨q, bs, htext, hq, hdenotes⟩ := exists_quoted key
  obtain ⟨doc, hdoc, hmeans⟩ := hvalue
  obtain ⟨these, hthese, hmore⟩ := hmembers
  refine ⟨.member q doc these, ?_, .member hdenotes hmeans hmore⟩
  rw [utf8_append, htext, utf8_cons, utf8_append]
  exact .member before hq blanks_nil blanks_nil hdoc hthese

theorem exists_moreMembers {members : List (String × Value)}
    (h : ∀ m ∈ members, m.2.IsWritten) :
    ∃ these : Members,
      these.Spells false (utf8 (Value.moreMembers members)) ∧ these.Means members := by
  induction members with
  | nil => exact ⟨.closed, .closed blanks_nil, .closed⟩
  | cons m members ih =>
    rw [List.forall_mem_cons] at h
    exact exists_member separates_comma m.1 h.1 (ih h.2)

theorem isWritten_object {members : List (String × Value)} (h : ∀ m ∈ members, m.2.IsWritten) :
    (Value.object members).IsWritten := by
  cases members with
  | nil => exact ⟨.object .closed, .object (.closed blanks_nil), .object .closed⟩
  | cons m members =>
    rw [List.forall_mem_cons] at h
    obtain ⟨these, hthese, hmeans⟩ :=
      exists_member separates_first m.1 h.1 (exists_moreMembers h.2)
    exact ⟨.object these, .object hthese, .object hmeans⟩

theorem Value.Exact.isWritten {v : Value} (h : v.Exact) : v.IsWritten := by
  induction h with
  | null => exact ⟨.null, .null, .null⟩
  | bool b =>
    cases b with
    | true => exact ⟨.bool true, .yes, .bool true⟩
    | false => exact ⟨.bool false, .no, .bool false⟩
  | int hexact =>
    obtain ⟨n, hspells, hvalue⟩ := exists_numeral hexact
    exact ⟨.number n, .number hspells, .int hvalue⟩
  | string s =>
    obtain ⟨q, bs, htext, hq, hdenotes⟩ := exists_quoted s
    refine ⟨.string q, ?_, .string hdenotes⟩
    rw [Value.chars, htext]
    exact .string hq
  | list _ ih => exact isWritten_list ih
  | object _ _ ih => exact isWritten_object ih

/-- The bytes of an exact value spell a document that means the value. -/
theorem Value.Exact.exists_doc {v : Value} (h : v.Exact) :
    ∃ doc : Doc, doc.Spells v.encode ∧ doc.Means v := by
  rw [Value.encode_eq]
  exact h.isWritten

end FreshToken.Json
