import FreshToken.Proofs.Url.Pairs
import FreshToken.Url.Marks
import FreshToken.Url.Parser
import Mathlib.Data.List.TakeDrop
import Mathlib.Data.List.TakeWhile
/-!
# Addresses that are read

Whatever text an address is read from, its written form has its marks where they belong: no part
before the query holds a question mark, and no part before the fragment a hash.
-/

namespace FreshToken.Url

variable {mark : Char}

/-! ## Characters -/

theorem notMem_percentEncode (hform : isFormChar mark = false) {keeps : Char → Bool}
    {cs : List Char} (h : keeps mark = true → mark ∉ cs) : mark ∉ percentEncode keeps cs := by
  intro hmem
  obtain ⟨c, hc, hwritten⟩ := List.mem_flatMap.1 hmem
  unfold percentChar at hwritten
  split at hwritten
  · rename_i hkeeps
    obtain rfl : mark = c := by simpa using hwritten
    exact h hkeeps hc
  · obtain ⟨b, _, hb⟩ := List.mem_flatMap.1 hwritten
    rcases mem_percentByte hb with rfl | hkeeps
    · exact absurd hform (by decide)
    · simp [isFormChar, hkeeps] at hform

theorem notMem_intercalate {sep : List Char} {parts : List (List Char)} (hsep : mark ∉ sep)
    (h : ∀ part ∈ parts, mark ∉ part) : mark ∉ sep.intercalate parts := by
  induction parts with
  | nil => simp
  | cons part rest ih =>
    have hpart : mark ∉ part := h part List.mem_cons_self
    have hrest := ih fun p hp => h p (List.mem_cons_of_mem _ hp)
    rcases List.eq_nil_or_concat rest with rfl | ⟨front, last, hlast⟩
    · simpa using hpart
    · rw [List.intercalate_cons_of_ne_nil (by simp [hlast])]
      simp [hpart, hsep, hrest]

theorem isFormChar_digitChar (d : Nat) : isFormChar (Nat.digitChar d) = true := by
  have hdigits : ∀ d < 16, isFormChar (Nat.digitChar d) = true := by decide
  rcases Nat.lt_or_ge d 16 with hlt | hge
  · exact hdigits d hlt
  · rw [Nat.digitChar_eq_star.2 hge]
    decide

theorem isFormChar_digit : ∀ n < 36, isFormChar (Punycode.digit n) = true := by
  decide

theorem isFormChar_of_driveLetter? {segment : List Char} {c : Char}
    (h : driveLetter? segment = some c) : isFormChar c = true := by
  unfold driveLetter? at h
  split at h
  · split at h
    · rename_i hletter
      cases h
      have hkeeps : keepsInPair c = true := by
        have hcases := hletter.1
        unfold isLetter at hcases
        unfold keepsInPair
        simp [hcases]
      simp [isFormChar, hkeeps]
    · cases h
  · cases h

theorem isFormChar_foldCase {c : Char} (h : isSchemeChar c = true) :
    isFormChar (foldCase c) = true := by
  have hascii : ∀ n < 128, isSchemeChar (Char.ofNat n) = true →
      isFormChar (foldCase (Char.ofNat n)) = true := by
    decide
  have hlt : c.toNat < 128 := by
    simp only [isSchemeChar, isLetter, Char.isDigit, Bool.or_eq_true, Bool.and_eq_true,
      decide_eq_true_eq, List.contains_eq_mem, List.mem_cons, List.not_mem_nil, or_false,
      Char.le_def, UInt32.le_iff_toNat_le] at h
    have hbounds : 'z'.val.toNat = 122 ∧ 'Z'.val.toNat = 90 ∧ '9'.val.toNat = 57 := by decide
    have hc : c.toNat = c.val.toNat := rfl
    rcases h with ((h | h) | h) | rfl | rfl | rfl
    · omega
    · omega
    · omega
    · decide
    · decide
    · decide
  have hfold := hascii c.toNat hlt
  rw [Char.ofNat_toNat] at hfold
  exact hfold h

def IsUrlMark (mark : Char) : Prop := mark = '?' ∨ mark = '#'

namespace IsUrlMark

variable (h : IsUrlMark mark)

include h

theorem not_form : isFormChar mark = false := by
  rcases h with rfl | rfl <;> decide

theorem ne_of_form {c : Char} (hc : isFormChar c = true) : mark ≠ c :=
  (ne_of_isFormChar hc h.not_form).symm

theorem notMem_toDigits {base : Nat} (hbase : 1 < base) (n : Nat) :
    mark ∉ Nat.toDigits base n := by
  induction n using Nat.strong_induction_on with
  | _ n ih =>
    rw [Nat.toDigits_eq_if hbase]
    split
    · simpa using h.ne_of_form (isFormChar_digitChar n)
    · rename_i hle
      have hsmaller : n / base < n := Nat.div_lt_self (by omega) hbase
      simp [ih _ hsmaller, h.ne_of_form (isFormChar_digitChar _)]

theorem notMem_toString (n : Nat) : mark ∉ (toString n).toList := by
  rw [Nat.toString_eq_ofList_toDigits, String.toList_ofList]
  exact h.notMem_toDigits (by decide) n

/-! ## Punycode -/

theorem notMem_number (bias place n : Nat) : mark ∉ Punycode.number bias place n := by
  fun_induction Punycode.number bias place n with
  | case1 place n t hlt =>
    have ht := Punycode.threshold_le place bias
    simpa using h.ne_of_form (isFormChar_digit n (by omega))
  | case2 place n t hge ih =>
    have hpos := Punycode.threshold_pos place bias
    have ht := Punycode.threshold_le place bias
    have hdigit : t + (n - t) % (36 - t) < 36 := by
      have hmod := Nat.mod_lt (n - t) (y := 36 - t) (by omega)
      omega
    rw [List.mem_cons, not_or]
    exact ⟨h.ne_of_form (isFormChar_digit _ hdigit), ih⟩

theorem notMem_passFor {basic c : Nat} {label : List Char} {w : Punycode.Writing}
    (hw : mark ∉ w.output) : mark ∉ (Punycode.passFor basic c label w).output := by
  unfold Punycode.passFor
  induction label generalizing w with
  | nil => exact hw
  | cons d rest ih =>
    rw [List.foldl_cons]
    apply ih
    split
    · exact hw
    · split
      · simp [hw, h.notMem_number]
      · exact hw

theorem notMem_encode {label : List Char} (hlabel : mark ∉ label) :
    mark ∉ Punycode.encode label := by
  have hfront : mark ∉ label.filter (fun c => c.toNat < 128) ++ ['-'] := by
    have hdash := h.ne_of_form (c := '-') (by decide)
    simp [hlabel, hdash]
  unfold Punycode.encode
  dsimp only
  refine List.foldlRecOn (motive := fun (s : Punycode.Writing × Nat) => mark ∉ s.1.output) _ _ ?_
    fun s hs c _ => ?_
  · split
    · exact List.not_mem_nil
    · exact hfront
  · exact h.notMem_passFor hs

/-! ## Hosts -/

theorem notMem_asciiLabel {label : List Char} (hlabel : mark ∉ label) :
    mark ∉ asciiLabel label := by
  unfold asciiLabel
  split
  · exact hlabel
  · have hmark : mark ∉ punycodeMark := by rcases h with rfl | rfl <;> decide
    rw [List.mem_append, not_or]
    exact ⟨hmark, h.notMem_encode hlabel⟩

theorem notMem_domain {bytes : List UInt8} {domain : List Char}
    (hdomain : domain? bytes = some domain) :
    mark ∉ domain := by
  have hforbidden : isForbiddenInDomain mark = true := by rcases h with rfl | rfl <;> decide
  unfold domain? at hdomain
  simp only [Option.bind_eq_bind, Option.bind_eq_some_iff] at hdomain
  obtain ⟨text, _, labels, _, hdomain⟩ := hdomain
  split at hdomain
  · rename_i hsound
    cases hdomain
    apply notMem_intercalate (by rcases h with rfl | rfl <;> decide)
    intro part hpart
    obtain ⟨label, hlabel, rfl⟩ := List.mem_map.1 hpart
    apply h.notMem_asciiLabel
    intro hmem
    have hclear := List.all_eq_true.1 (List.all_eq_true.1 hsound.1 label hlabel) mark hmem
    simp [hforbidden] at hclear
  · cases hdomain

theorem notMem_address4Text (a : Nat) : mark ∉ (address4Text a).toList := by
  unfold address4Text
  rw [String.toList_intercalate]
  apply notMem_intercalate (by rcases h with rfl | rfl <;> decide)
  intro part hpart
  simp only [List.mem_map] at hpart
  obtain ⟨s, ⟨n, _, rfl⟩, rfl⟩ := hpart
  exact h.notMem_toString n

theorem notMem_groupsText (groups : List Nat) : mark ∉ (groupsText groups).toList := by
  unfold groupsText
  rw [String.toList_intercalate]
  apply notMem_intercalate (by rcases h with rfl | rfl <;> decide)
  intro part hpart
  simp only [List.mem_map] at hpart
  obtain ⟨s, ⟨g, _, rfl⟩, rfl⟩ := hpart
  rw [String.toList_ofList]
  exact h.notMem_toDigits (by decide) g

theorem notMem_address6Text (groups : List Nat) : mark ∉ (address6Text groups).toList := by
  have hgap : mark ∉ "::".toList := by rcases h with rfl | rfl <;> decide
  unfold address6Text
  dsimp only
  split
  · exact h.notMem_groupsText groups
  · simp only [String.toList_append, List.mem_append, not_or]
    exact ⟨⟨h.notMem_groupsText _, hgap⟩, h.notMem_groupsText _⟩

theorem notMem_bracketHost {cs : List Char} {host : String} (hhost : bracketHost cs = .ok host) :
    mark ∉ host.toList := by
  unfold bracketHost at hhost
  split at hhost
  · rename_i groups _ _
    cases hhost
    have hopen : mark ∉ "[".toList := by rcases h with rfl | rfl <;> decide
    have hclose : mark ∉ "]".toList := by rcases h with rfl | rfl <;> decide
    simp only [String.toList_append, List.mem_append, not_or]
    exact ⟨⟨hopen, h.notMem_address6Text groups⟩, hclose⟩
  · cases hhost

theorem notMem_domainHost {cs : List Char} {host : String} (hhost : domainHost cs = .ok host) :
    mark ∉ host.toList := by
  unfold domainHost at hhost
  split at hhost
  · cases hhost
  · cases hhost
  · rename_i domain _ hdomain
    split at hhost
    · split at hhost
      · cases hhost
        exact h.notMem_address4Text _
      · cases hhost
    · cases hhost
      rw [String.toList_ofList]
      exact h.notMem_domain hdomain

theorem notMem_hostText {k : SchemeKind} {cs : List Char} {host : String}
    (hhost : hostText k cs = .ok host) : mark ∉ host.toList := by
  unfold hostText at hhost
  split at hhost
  · exact h.notMem_bracketHost hhost
  · split at hhost
    · exact h.notMem_domainHost hhost
    · split at hhost
      · cases hhost
      · rename_i hallowed
        have hforbidden : isForbiddenInHost mark = true := by rcases h with rfl | rfl <;> decide
        have hclear : mark ∉ cs := by
          intro hmem
          exact hallowed (List.any_eq_true.2 ⟨mark, hmem, hforbidden⟩)
        cases hhost
        rw [String.toList_ofList]
        exact notMem_percentEncode h.not_form fun _ => hclear

/-! ## Authorities -/

theorem notMem_userText (cs : List Char) : mark ∉ userText cs := by
  have hkeeps : keepsInUser mark = false := by rcases h with rfl | rfl <;> decide
  have hencoded : ∀ cs, mark ∉ percentEncode keepsInUser cs := by
    intro cs
    exact notMem_percentEncode h.not_form (by simp [hkeeps])
  have hcolon : mark ≠ ':' := by rcases h with rfl | rfl <;> decide
  have hat : mark ≠ '@' := by rcases h with rfl | rfl <;> decide
  unfold userText
  dsimp only
  split
  · exact List.not_mem_nil
  · split <;> simp [hencoded, hcolon, hat]

theorem notMem_authorityText {user host : String} {port : Option Nat} (huser : mark ∉ user.toList)
    (hhost : mark ∉ host.toList) : mark ∉ (Authority.text ⟨user, host, port⟩).toList := by
  have hslashes : mark ∉ "//".toList := by rcases h with rfl | rfl <;> decide
  have hcolon : mark ∉ ":".toList := by rcases h with rfl | rfl <;> decide
  unfold Authority.text
  simp only [String.toList_append, List.mem_append, not_or]
  refine ⟨⟨⟨hslashes, huser⟩, hhost⟩, ?_⟩
  cases port with
  | none => exact List.not_mem_nil
  | some p =>
    simp only [String.toList_append, List.mem_append, not_or]
    exact ⟨hcolon, h.notMem_toString p⟩

theorem notMem_authorityOf {k : SchemeKind} {cs : List Char} {more : Bool} {a : Authority}
    (ha : authorityOf k cs more = .ok a) : mark ∉ a.text.toList := by
  unfold authorityOf at ha
  simp only [bind, Except.bind, pure, Except.pure, throw, throwThe, MonadExceptOf.throw] at ha
  split at ha
  · cases ha
  · split at ha
    · cases ha
    · split at ha
      · cases ha
      · rename_i host hhost
        split at ha
        · cases ha
        · split at ha
          · cases ha
          · cases ha
            refine h.notMem_authorityText ?_ (h.notMem_hostText hhost)
            rw [String.toList_ofList]
            exact h.notMem_userText _

/-! ## Paths -/

omit h in
theorem notMem_dropSegment {k : SchemeKind} {above : List (List Char)}
    (habove : ∀ segment ∈ above, mark ∉ segment) :
    ∀ segment ∈ dropSegment k above, mark ∉ segment := by
  intro segment hmem
  refine habove segment ?_
  unfold dropSegment at hmem
  split at hmem
  · exact hmem
  · split at hmem
    · exact hmem
    · cases hmem
  · exact List.mem_cons_of_mem _ hmem

theorem notMem_walkSegments {k : SchemeKind} {above segments : List (List Char)}
    (habove : ∀ segment ∈ above, mark ∉ segment) :
    ∀ segment ∈ walkSegments k above segments, mark ∉ segment := by
  have hkeeps : keepsInPath mark = false := by rcases h with rfl | rfl <;> decide
  induction segments generalizing above with
  | nil => exact habove
  | cons segment rest ih =>
    have hhere : ∀ {more : Bool} {a : List (List Char)}, (∀ s ∈ a, mark ∉ s) →
        ∀ s ∈ (if more then [] :: a else a), mark ∉ s := by
      intro more a ha s hs
      split at hs
      · rcases List.mem_cons.1 hs with rfl | hs
        · exact List.not_mem_nil
        · exact ha s hs
      · exact ha s hs
    unfold walkSegments
    split
    · exact ih (hhere (notMem_dropSegment habove))
    · split
      · exact ih (hhere habove)
      · split
        · rename_i c hdrive
          apply ih
          intro s hs
          obtain rfl : s = [c, ':'] := by simpa using hs
          have hcolon : mark ≠ ':' := by rcases h with rfl | rfl <;> decide
          have hletter : mark ≠ c := h.ne_of_form (isFormChar_of_driveLetter? hdrive)
          simp [hcolon, hletter]
        · apply ih
          intro s hs
          rcases List.mem_cons.1 hs with rfl | hs
          · exact notMem_percentEncode h.not_form (by simp [hkeeps])
          · exact habove s hs

theorem notMem_segmentsOf (k : SchemeKind) (cs : List Char) :
    ∀ segment ∈ segmentsOf k cs, mark ∉ segment := by
  have hwalk : ∀ segments, ∀ segment ∈ (walkSegments k [] segments).reverse, mark ∉ segment := by
    intro segments segment hmem
    refine h.notMem_walkSegments ?_ segment (List.mem_reverse.1 hmem)
    intro s hs
    cases hs
  intro segment hmem
  unfold segmentsOf at hmem
  dsimp only at hmem
  split at hmem
  · cases hmem
  · split at hmem
    · split at hmem
      · obtain rfl : segment = [] := by simpa using hmem
        exact List.not_mem_nil
      · exact hwalk _ segment ((List.dropWhile_sublist _).subset hmem)
    · exact hwalk _ segment hmem

theorem notMem_pathText {parts : List (List Char)} (hparts : ∀ part ∈ parts, mark ∉ part) :
    mark ∉ (Path.text (.segments (parts.map String.ofList))).toList := by
  have hslash : mark ∉ "/".toList := by rcases h with rfl | rfl <;> decide
  unfold Path.text
  rw [String.toList_join, List.map_map, List.mem_flatMap]
  rintro ⟨text, htext, hmem⟩
  obtain ⟨part, hpart, rfl⟩ := List.mem_map.1 htext
  simp only [Function.comp_apply, String.toList_append, String.toList_ofList,
    List.mem_append] at hmem
  rcases hmem with hmem | hmem
  · exact hslash hmem
  · exact hparts part hpart hmem

theorem notMem_pathOf (k : SchemeKind) (cs : List Char) : mark ∉ (pathOf k cs).text.toList :=
  h.notMem_pathText (h.notMem_segmentsOf k cs)

theorem notMem_spanPath (cs : List Char) : mark ∉ (spanPath cs).1 := by
  unfold spanPath
  rw [List.span_eq_takeWhile_dropWhile]
  intro hmem
  have hplain := List.mem_takeWhile_imp hmem
  rcases h with rfl | rfl <;> simp at hplain

/-! ## Whole addresses -/

theorem notMem_textAlone {path : Path} (hpath : mark ∉ path.text.toList) :
    mark ∉ path.textAlone.toList := by
  have hpoint : mark ∉ "/.".toList := by rcases h with rfl | rfl <;> decide
  unfold Path.textAlone
  split
  · rw [String.toList_append, List.mem_append, not_or]
    exact ⟨hpoint, hpath⟩
  · exact hpath

theorem notMem_front {u : Url} (hscheme : mark ∉ u.scheme.toList)
    (hauthority : ∀ a, u.authority = some a → mark ∉ a.text.toList)
    (hpath : mark ∉ u.path.text.toList) : mark ∉ u.front.toList := by
  have hcolon : mark ∉ ":".toList := by rcases h with rfl | rfl <;> decide
  unfold front
  simp only [String.toList_append, List.mem_append, not_or]
  refine ⟨⟨hscheme, hcolon⟩, ?_⟩
  split
  · rename_i a ha
    simp only [String.toList_append, List.mem_append, not_or]
    exact ⟨hauthority a ha, hpath⟩
  · exact h.notMem_textAlone hpath

theorem notMem_scheme {cs rest : List Char} {scheme : String}
    (hscheme : splitScheme? cs = some (scheme, rest)) : mark ∉ scheme.toList := by
  unfold splitScheme? at hscheme
  dsimp only at hscheme
  split at hscheme
  · split at hscheme
    · cases hscheme
      rw [String.toList_ofList]
      intro hmem
      obtain ⟨c, hc, rfl⟩ := List.mem_map.1 hmem
      have hname : isSchemeChar c = true := List.mem_takeWhile_imp hc
      exact absurd rfl (h.ne_of_form (isFormChar_foldCase hname))
    · cases hscheme
  · cases hscheme

end IsUrlMark

theorem hash_notMem_tailOf (k : SchemeKind) (cs : List Char) :
    '#' ∉ ((tailOf k cs).1.getD "").toList := by
  have hkeeps : (if k.isSpecial then keepsInSpecialQuery else keepsInQuery) '#' = false := by
    split <;> decide
  unfold tailOf
  dsimp only
  split
  · exact List.not_mem_nil
  · rw [Option.getD_some, String.toList_ofList]
    exact notMem_percentEncode (by decide) (by simp [hkeeps])

theorem readsBack_assemble {k : SchemeKind} {scheme : String} {authority : Option Authority}
    {cs : List Char} (hscheme : ∀ mark, IsUrlMark mark → mark ∉ scheme.toList)
    (hauthority : ∀ mark, IsUrlMark mark → ∀ a, authority = some a → mark ∉ a.text.toList) :
    (assemble k scheme authority cs).ReadsBack := by
  have hfront : ∀ mark, IsUrlMark mark → mark ∉ (assemble k scheme authority cs).front.toList :=
    fun mark h => h.notMem_front (hscheme mark h) (hauthority mark h) (h.notMem_pathOf k _)
  rw [readsBack_iff]
  exact ⟨hfront '?' (Or.inl rfl), hfront '#' (Or.inr rfl), hash_notMem_tailOf k _⟩

theorem readsBack_plain {scheme : String} {cs : List Char}
    (hscheme : ∀ mark, IsUrlMark mark → mark ∉ scheme.toList) :
    (Url.mk scheme none
      (.plain (String.ofList (percentEncode isGraphicOrSpace (spanPath cs).1)))
      (tailOf .other (spanPath cs).2).1 (tailOf .other (spanPath cs).2).2).ReadsBack := by
  have hpath : ∀ mark, IsUrlMark mark →
      mark ∉ (String.ofList (percentEncode isGraphicOrSpace (spanPath cs).1)).toList := by
    intro mark h
    rw [String.toList_ofList]
    exact notMem_percentEncode h.not_form fun _ => h.notMem_spanPath cs
  rw [readsBack_iff]
  exact ⟨(IsUrlMark.notMem_front (Or.inl rfl) (hscheme '?' (Or.inl rfl)) (by simp)
      (hpath '?' (Or.inl rfl))),
    (IsUrlMark.notMem_front (Or.inr rfl) (hscheme '#' (Or.inr rfl)) (by simp)
      (hpath '#' (Or.inr rfl))), hash_notMem_tailOf .other _⟩

theorem readsBack_fileOf {cs : List Char} {u : Url} (hu : fileOf cs = .ok u) : u.ReadsBack := by
  have hscheme : ∀ mark, IsUrlMark mark → mark ∉ "file".toList := by
    rintro mark (rfl | rfl) <;> decide
  have hfile : ∀ {host : String} {cs : List Char},
      (∀ mark, IsUrlMark mark → mark ∉ host.toList) →
        (assemble .file "file" (some ⟨"", host, none⟩) cs).ReadsBack := by
    intro host cs hhost
    apply readsBack_assemble hscheme
    intro mark h a ha
    cases ha
    exact h.notMem_authorityText List.not_mem_nil (hhost mark h)
  have hnameless : ∀ mark, IsUrlMark mark → mark ∉ "".toList := fun _ _ => List.not_mem_nil
  unfold fileOf at hu
  simp only [bind, Except.bind, pure, Except.pure] at hu
  split at hu
  · split at hu
    · split at hu
      · cases hu
        exact hfile hnameless
      · split at hu
        · cases hu
          exact hfile hnameless
        · split at hu
          · cases hu
          · rename_i name hname
            cases hu
            apply hfile
            intro mark h
            split
            · exact hnameless mark h
            · exact h.notMem_hostText hname
    · cases hu
      exact hfile hnameless
  · cases hu
    exact hfile hnameless

theorem readsBack_hostedOf {k : SchemeKind} {scheme : String} {cs : List Char} {u : Url}
    (hscheme : ∀ mark, IsUrlMark mark → mark ∉ scheme.toList)
    (hu : hostedOf k scheme cs = .ok u) : u.ReadsBack := by
  unfold hostedOf at hu
  simp only [bind, Except.bind, pure, Except.pure] at hu
  split at hu
  · cases hu
  · rename_i authority hauthority
    cases hu
    apply readsBack_assemble hscheme
    intro mark h a ha
    cases ha
    exact h.notMem_authorityOf hauthority

/-- Every address that is read from a text reads back. -/
theorem readsBack_of_parse {text : String} {u : Url} (hu : parse text = .ok u) : u.ReadsBack := by
  unfold parse at hu
  split at hu
  · cases hu
  · rename_i scheme rest hsplit
    have hscheme : ∀ mark, IsUrlMark mark → mark ∉ scheme.toList :=
      fun mark h => h.notMem_scheme hsplit
    split at hu
    · exact readsBack_fileOf hu
    · exact readsBack_hostedOf hscheme hu
    · exact readsBack_hostedOf hscheme hu
    · cases hu
      exact readsBack_assemble hscheme (by simp)
    · cases hu
      exact readsBack_plain hscheme

end FreshToken.Url
