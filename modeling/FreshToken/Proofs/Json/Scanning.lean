import FreshToken.Proofs.Json.Grammar
import Mathlib.Data.List.TakeWhile
import Mathlib.Tactic.SplitIfs
/-!
# What the scanner accepts

A document without damage was spelled by the bytes that were read, up to the first one that was
not: the scanner takes blanks, then a whole document, and leaves everything after it.
-/

namespace FreshToken.Json

variable {bs rest : List UInt8}

/-! ## Blanks and words -/

theorem exists_blanks (bs : List UInt8) : ∃ ws, bs = ws ++ skipBlanks bs ∧ Blanks ws := by
  refine ⟨bs.takeWhile isBlank, List.takeWhile_append_dropWhile.symm, fun b hb => ?_⟩
  exact isBlank_iff.1 (List.mem_takeWhile_imp hb)

theorem Blanks.append {vs ws : List UInt8} (hv : Blanks vs) (hw : Blanks ws) :
    Blanks (vs ++ ws) := by
  intro b hb
  rcases List.mem_append.1 hb with hb | hb
  · exact hv b hb
  · exact hw b hb

theorem spelled_word {doc found : Doc} (word : List UInt8)
    (h : scanWord doc word bs = (found, rest)) (hfound : found.damage? = none) :
    bs = word ++ rest ∧ found = doc := by
  induction word generalizing bs with
  | nil =>
    cases h
    exact ⟨rfl, rfl⟩
  | cons e es ih =>
    cases bs with
    | nil =>
      cases h
      cases hfound
    | cons b bs =>
      rw [scanWord] at h
      split at h
      · rename_i heq
        obtain ⟨rfl, hdoc⟩ := ih h
        exact ⟨congrArg (· :: _) heq, hdoc⟩
      · cases h
        cases hfound

/-! ## Strings -/

theorem mem_of_shortEscape? {e b : UInt8} (h : shortEscape? e = some b) :
    (e, b) ∈ shortEscapes := by
  unfold shortEscape? at h
  split_ifs at h with h₁ h₂ h₃ h₄ h₅ h₆ h₇ h₈
  all_goals
    obtain rfl := Option.some.inj h
    subst e
    decide

theorem hexDigit_of_hexValue? {b : UInt8} {d : Nat} (h : hexValue? b = some d) :
    HexDigit b d := by
  have hbyte (n : Nat) (hn : n = b.toNat) : UInt8.ofNat n = b := by rw [hn, UInt8.ofNat_toNat]
  unfold hexValue? at h
  simp only [Bool.and_eq_true, decide_eq_true_eq, UInt8.le_iff_toNat_le] at h
  split_ifs at h with hdecimal hupper hlower
  · obtain rfl := Option.some.inj h
    change 0x30 ≤ b.toNat ∧ b.toNat ≤ 0x39 at hdecimal
    have hdigit : HexDigit _ (b.toNat - 0x30) := .decimal (by omega)
    rwa [hbyte _ (by omega)] at hdigit
  · obtain rfl := Option.some.inj h
    change 0x41 ≤ b.toNat ∧ b.toNat ≤ 0x46 at hupper
    have hdigit : HexDigit _ (10 + (b.toNat - 0x41)) := .upper (by omega)
    rw [hbyte _ (by omega)] at hdigit
    rwa [show b.toNat - 0x37 = 10 + (b.toNat - 0x41) by omega]
  · obtain rfl := Option.some.inj h
    change 0x61 ≤ b.toNat ∧ b.toNat ≤ 0x66 at hlower
    have hdigit : HexDigit _ (10 + (b.toNat - 0x61)) := .lower (by omega)
    rw [hbyte _ (by omega)] at hdigit
    rwa [show b.toNat - 0x57 = 10 + (b.toNat - 0x61) by omega]

theorem spells_of_fourHex? {a b c d : UInt8} {u : Nat} (h : fourHex? a b c d = some u) :
    (Piece.unit u).Spells [0x5c, 0x75, a, b, c, d] := by
  unfold fourHex? at h
  split at h
  · rename_i w x y z hw hx hy hz
    obtain rfl := Option.some.inj h
    have hpiece := Piece.Spells.unit (hexDigit_of_hexValue? hw) (hexDigit_of_hexValue? hx)
      (hexDigit_of_hexValue? hy) (hexDigit_of_hexValue? hz)
    rwa [show w * 4096 + x * 256 + y * 16 + z = ((w * 16 + x) * 16 + y) * 16 + z by omega] at hpiece
  · cases h

theorem spelled_cons {p : Piece} {ps rest : List UInt8} (hp : p.Spells ps)
    (hclosed : (Quoted.cons p (scanString rest)).1.damage = none)
    (ih : (scanString rest).1.damage = none →
      ∃ cs, rest = cs ++ (scanString rest).2 ∧ (scanString rest).1.Spells cs) :
    ∃ cs, ps ++ rest = cs ++ (Quoted.cons p (scanString rest)).2 ∧
      (Quoted.cons p (scanString rest)).1.Spells cs := by
  obtain ⟨cs, hbytes, hspells⟩ := ih hclosed
  refine ⟨ps ++ cs, ?_, ?_⟩
  · rw [List.append_assoc]
    exact congrArg (ps ++ ·) hbytes
  · unfold Quoted.cons
    generalize (scanString rest).1 = q at hspells hclosed
    obtain ⟨pieces, damage⟩ := q
    obtain rfl := hspells.damage_eq_none
    exact .more hp hspells

theorem spelled_closed (bs : List UInt8) (h : (scanString bs).1.damage = none) :
    ∃ cs, bs = cs ++ (scanString bs).2 ∧ (scanString bs).1.Spells cs := by
  fun_induction scanString bs with
  | case1 => cases h
  | case2 => exact ⟨[0x22], rfl, .close⟩
  | case4 h₁ h₂ h₃ h₄ rest u hnumber _ ih =>
    exact spelled_cons (spells_of_fourHex? hnumber) h ih
  | case7 e es _ b hescape _ ih =>
    exact spelled_cons (.short (mem_of_shortEscape? hescape)) h ih
  | case10 b bs hquote hbackslash hcontrol ih =>
    exact spelled_cons (.plain (UInt8.not_lt.1 hcontrol) hquote hbackslash) h ih
  | _ => cases h

/-- A string that is closed was spelled by what was read. -/
theorem spelled_string {q : Quoted} (h : scanString bs = (q, rest)) (hq : q.damage = none) :
    ∃ cs, bs = cs ++ rest ∧ q.Spells cs := by
  have hclosed := spelled_closed bs
  rw [h] at hclosed
  exact hclosed hq

/-! ## Numbers -/

theorem digitByte_digitValue {b : UInt8} (h : isDigit b = true) :
    UInt8.ofNat (0x30 + digitValue b) = b ∧ digitValue b < 10 := by
  simp only [isDigit, Bool.and_eq_true, decide_eq_true_eq, UInt8.le_iff_toNat_le] at h
  change 0x30 ≤ b.toNat ∧ b.toNat ≤ 0x39 at h
  unfold digitValue
  refine ⟨?_, by omega⟩
  rw [show 0x30 + (b.toNat - 0x30) = b.toNat by omega, UInt8.ofNat_toNat]

theorem spelled_digits (bs : List UInt8) :
    bs = digitBytes (scanDigits bs).1 ++ (scanDigits bs).2 ∧ ∀ d ∈ (scanDigits bs).1, d < 10 := by
  have hdigit : ∀ b ∈ bs.takeWhile isDigit, isDigit b = true := fun b hb =>
    List.mem_takeWhile_imp hb
  have hbytes : digitBytes ((bs.takeWhile isDigit).map digitValue) = bs.takeWhile isDigit := by
    calc digitBytes ((bs.takeWhile isDigit).map digitValue)
      _ = (bs.takeWhile isDigit).map ((fun d => UInt8.ofNat (0x30 + d)) ∘ digitValue) :=
        List.map_map
      _ = (bs.takeWhile isDigit).map id :=
        List.map_congr_left fun b hb => (digitByte_digitValue (hdigit b hb)).1
      _ = bs.takeWhile isDigit := List.map_id _
  constructor
  · unfold scanDigits
    rw [hbytes]
    exact List.takeWhile_append_dropWhile.symm
  · intro d hd
    obtain ⟨b, hb, rfl⟩ := List.mem_map.1 hd
    exact (digitByte_digitValue (hdigit b hb)).2

theorem isDigits_of_scanDigits {d : Nat} {more : List Nat}
    (h : scanDigits bs = (d :: more, rest)) :
    bs = digitBytes (d :: more) ++ rest ∧ IsDigits (d :: more) := by
  have hspelled := spelled_digits bs
  rw [h] at hspelled
  exact ⟨hspelled.1, List.cons_ne_nil d more, hspelled.2⟩

section
variable {negative : Bool} {whole fraction : List Nat} {doc : Doc}

theorem spelled_exponent (h : scanExponent negative whole fraction bs = (doc, rest))
    (hdoc : doc.damage? = none) :
    ∃ minus ss ds, bs = ss ++ digitBytes ds ++ rest ∧ ExponentSign minus ss ∧ IsDigits ds ∧
      doc = .number ⟨negative, whole, fraction, some (minus, ds)⟩ := by
  unfold scanExponent at h
  split at h
  rename_i minus digits hsign
  have hafter : ∃ ss, bs = ss ++ digits ∧ ExponentSign minus ss := by
    split at hsign <;> cases hsign
    · exact ⟨_, rfl, .plus⟩
    · exact ⟨_, rfl, .minus⟩
    · exact ⟨[], rfl, .none⟩
  obtain ⟨ss, rfl, hss⟩ := hafter
  rcases hscan : scanDigits digits with ⟨_ | ⟨d, more⟩, after⟩
  · rw [hscan] at h
    cases after <;> cases h <;> cases hdoc
  · rw [hscan] at h
    cases h
    obtain ⟨rfl, hdigits⟩ := isDigits_of_scanDigits hscan
    exact ⟨minus, ss, _, (List.append_assoc _ _ _).symm, hss, hdigits, rfl⟩

theorem spelled_afterFraction (h : scanAfterFraction negative whole fraction bs = (doc, rest))
    (hdoc : doc.damage? = none) :
    ∃ exponent es, bs = es ++ rest ∧ ExponentSpells exponent es ∧
      doc = .number ⟨negative, whole, fraction, exponent⟩ := by
  cases bs with
  | nil =>
    cases h
    exact ⟨none, [], rfl, .none, rfl⟩
  | cons b bs =>
    rw [scanAfterFraction] at h
    split at h
    · rename_i hletter
      obtain ⟨minus, ss, ds, rfl, hsign, hds, rfl⟩ := spelled_exponent h hdoc
      exact ⟨_, b :: (ss ++ digitBytes ds), rfl, .some (by simpa using hletter) hsign hds, rfl⟩
    · cases h
      exact ⟨none, [], rfl, .none, rfl⟩

theorem spelled_afterWhole (h : scanAfterWhole negative whole bs = (doc, rest))
    (hdoc : doc.damage? = none) :
    ∃ fraction exponent fs es, bs = fs ++ es ++ rest ∧ FractionSpells fraction fs ∧
      ExponentSpells exponent es ∧ doc = .number ⟨negative, whole, fraction, exponent⟩ := by
  unfold scanAfterWhole at h
  split at h
  · rename_i bs
    rcases hscan : scanDigits bs with ⟨_ | ⟨d, more⟩, after⟩
    · rw [hscan] at h
      cases after <;> cases h <;> cases hdoc
    · rw [hscan] at h
      obtain ⟨rfl, hdigits⟩ := isDigits_of_scanDigits hscan
      obtain ⟨exponent, es, rfl, hes, rfl⟩ := spelled_afterFraction h hdoc
      refine ⟨_, exponent, _, es, ?_, .point hdigits, hes, rfl⟩
      simp only [List.cons_append, List.append_assoc]
  · obtain ⟨exponent, es, rfl, hes, rfl⟩ := spelled_afterFraction h hdoc
    exact ⟨[], exponent, [], es, rfl, .none, hes, rfl⟩

/-- A number that is whole was spelled by what was read. -/
theorem spelled_number (h : scanNumber negative bs = (doc, rest)) (hdoc : doc.damage? = none) :
    ∃ cs, (if negative then [0x2d] else []) ++ bs = cs ++ rest ∧ doc.Spells cs := by
  unfold scanNumber at h
  rcases hscan : scanDigits bs with ⟨_ | ⟨d, more⟩, after⟩
  · rw [hscan] at h
    cases after <;> cases h <;> cases hdoc
  · rw [hscan] at h
    obtain ⟨rfl, hdigits⟩ := isDigits_of_scanDigits hscan
    have hzero : (d :: more).head? = some 0 → d :: more = [0] := by
      intro hfirst
      obtain rfl : d = 0 := Option.some.inj hfirst
      cases more with
      | nil => rfl
      | cons e more =>
        cases h
        cases hdoc
    have hafter : scanAfterWhole negative (d :: more) after = (doc, rest) := by
      rcases d with _ | d
      · obtain rfl : more = [] := by simpa using hzero rfl
        exact h
      · exact h
    obtain ⟨fraction, exponent, fs, es, rfl, hfs, hes, rfl⟩ := spelled_afterWhole hafter hdoc
    refine ⟨_, ?_, .number (.mk hdigits hzero hfs hes)⟩
    simp only [List.append_assoc]

end

/-! ## Documents -/

/-- What the scanner, with so much fuel, leaves undamaged was spelled by what it read. -/
structure Faithful (fuel : Nat) : Prop where
  value : ∀ {bs rest : List UInt8} {doc : Doc}, scanValue fuel bs = (doc, rest) →
    doc.damage? = none → ∃ ws cs, bs = ws ++ (cs ++ rest) ∧ Blanks ws ∧ doc.Spells cs
  items : ∀ (first : Bool) {bs rest : List UInt8} {items : Items},
    scanItems first fuel bs = (items, rest) → items.damage? = none →
      ∃ cs, bs = cs ++ rest ∧ items.Spells first cs
  members : ∀ (first : Bool) {bs rest : List UInt8} {members : Members},
    scanMembers first fuel bs = (members, rest) → members.damage? = none →
      ∃ cs, bs = cs ++ rest ∧ members.Spells first cs
  member : ∀ {first : Bool} {ss bs rest : List UInt8} {members : Members},
    scanMember fuel bs = (members, rest) → members.damage? = none → Separates first ss →
      ∃ cs, bs = cs ++ rest ∧ members.Spells first (ss ++ 0x22 :: cs)

theorem faithful_zero : Faithful 0 where
  value h hdoc := by
    cases h
    cases hdoc
  items first _ _ _ h hdoc := by
    cases first <;> cases h <;> cases hdoc
  members first _ _ _ h hdoc := by
    cases first <;> cases h <;> cases hdoc
  member h hdoc := by
    cases h
    cases hdoc

section Steps

variable {fuel : Nat}

theorem Faithful.next_value (ih : Faithful fuel) {doc : Doc}
    (h : scanValue (fuel + 1) bs = (doc, rest)) (hdoc : doc.damage? = none) :
    ∃ ws cs, bs = ws ++ (cs ++ rest) ∧ Blanks ws ∧ doc.Spells cs := by
  obtain ⟨ws, hbytes, hws⟩ := exists_blanks bs
  suffices hspelled : ∃ cs, skipBlanks bs = cs ++ rest ∧ doc.Spells cs by
    obtain ⟨cs, hskip, hcs⟩ := hspelled
    exact ⟨ws, cs, by rw [hbytes, hskip], hws, hcs⟩
  rw [scanValue] at h
  split at h
  · cases h
    cases hdoc
  rename_i b more heq
  rw [heq]
  split_ifs at h with hn ht hf hquote hlist hobject hminus hdigit
  · obtain ⟨rfl, rfl⟩ := spelled_word _ h hdoc
    exact ⟨_, by rw [hn]; rfl, .null⟩
  · obtain ⟨rfl, rfl⟩ := spelled_word _ h hdoc
    exact ⟨_, by rw [ht]; rfl, .yes⟩
  · obtain ⟨rfl, rfl⟩ := spelled_word _ h hdoc
    exact ⟨_, by rw [hf]; rfl, .no⟩
  · cases h
    obtain ⟨cs, hcs, hspells⟩ := spelled_string rfl hdoc
    exact ⟨0x22 :: cs, by rw [hquote]; exact congrArg (0x22 :: ·) hcs, .string hspells⟩
  · cases h
    obtain ⟨cs, hcs, hspells⟩ := ih.items true rfl hdoc
    exact ⟨0x5b :: cs, by rw [hlist]; exact congrArg (0x5b :: ·) hcs, .list hspells⟩
  · cases h
    obtain ⟨cs, hcs, hspells⟩ := ih.members true rfl hdoc
    exact ⟨0x7b :: cs, by rw [hobject]; exact congrArg (0x7b :: ·) hcs, .object hspells⟩
  · obtain ⟨cs, hcs, hspells⟩ := spelled_number h hdoc
    exact ⟨cs, by rw [hminus]; exact hcs, hspells⟩
  · obtain ⟨cs, hcs, hspells⟩ := spelled_number h hdoc
    exact ⟨cs, hcs, hspells⟩
  · cases h
    cases hdoc

/-- An item and those after it, where `ss` separates it from what stands before. -/
theorem Faithful.item (ih : Faithful fuel) {first : Bool} {ss mid : List UInt8} {doc : Doc}
    {items : Items} (hss : ∀ {ws : List UInt8}, Blanks ws → Separates first (ss ++ ws))
    (hvalue : scanValue fuel bs = (doc, mid)) (hmore : scanMoreItems fuel mid = (items, rest))
    (h : (Items.item doc items).damage? = none) :
    ∃ cs, ss ++ bs = cs ++ rest ∧ (Items.item doc items).Spells first cs := by
  obtain ⟨hdoc, hitems⟩ := Option.or_eq_none_iff.1 h
  obtain ⟨ws, ds, rfl, hws, hds⟩ := ih.value hvalue hdoc
  obtain ⟨cs, rfl, hcs⟩ := ih.items false hmore hitems
  refine ⟨(ss ++ ws) ++ (ds ++ cs), ?_, .item (hss hws) hds hcs⟩
  simp only [List.append_assoc]

theorem Faithful.next_items (ih : Faithful fuel) {first : Bool} {items : Items}
    (h : scanItems first (fuel + 1) bs = (items, rest)) (hitems : items.damage? = none) :
    ∃ cs, bs = cs ++ rest ∧ items.Spells first cs := by
  obtain ⟨ws, hbytes, hws⟩ := exists_blanks bs
  cases first with
  | true =>
    rw [scanItems, if_pos rfl, scanFirstItem] at h
    split at h
    · cases h
      cases hitems
    rename_i b more heq
    rw [heq] at hbytes
    split at h
    · rename_i hclosing
      cases h
      exact ⟨ws ++ [0x5d], by rw [hbytes, hclosing, List.append_cons], .closed hws⟩
    · cases h
      obtain ⟨cs, hcs, hspells⟩ := ih.item (fun hvs => .first (hws.append hvs)) rfl rfl hitems
      exact ⟨cs, hbytes.trans hcs, hspells⟩
  | false =>
    rw [scanItems, if_neg Bool.false_ne_true, scanMoreItems] at h
    split at h
    · cases h
      cases hitems
    rename_i b more heq
    rw [heq] at hbytes
    split_ifs at h with hclosing hcomma
    · cases h
      exact ⟨ws ++ [0x5d], by rw [hbytes, hclosing, List.append_cons], .closed hws⟩
    · obtain ⟨vs, hmore, hvs⟩ := exists_blanks more
      split at h
      · cases h
        cases hitems
      rename_i c others heq'
      rw [heq'] at hmore
      split at h
      · cases h
        cases hitems
      · cases h
        have hsep {us : List UInt8} (hus : Blanks us) :
            Separates false ((ws ++ 0x2c :: vs) ++ us) := by
          rw [List.append_assoc, List.cons_append]
          exact .comma hws (hvs.append hus)
        obtain ⟨cs, hcs, hspells⟩ := ih.item hsep rfl rfl hitems
        refine ⟨cs, ?_, hspells⟩
        rw [hbytes, hcomma, hmore, ← hcs, List.append_assoc, List.cons_append]
    · cases h
      cases hitems

theorem Faithful.next_members (ih : Faithful fuel) {first : Bool} {members : Members}
    (h : scanMembers first (fuel + 1) bs = (members, rest)) (hmembers : members.damage? = none) :
    ∃ cs, bs = cs ++ rest ∧ members.Spells first cs := by
  obtain ⟨ws, hbytes, hws⟩ := exists_blanks bs
  cases first with
  | true =>
    rw [scanMembers, if_pos rfl, scanFirstMember] at h
    split at h
    · cases h
      cases hmembers
    rename_i b more heq
    rw [heq] at hbytes
    split_ifs at h with hclosing hquote
    · cases h
      exact ⟨ws ++ [0x7d], by rw [hbytes, hclosing, List.append_cons], .closed hws⟩
    · obtain ⟨cs, hcs, hspells⟩ := ih.member h hmembers (.first hws)
      refine ⟨ws ++ 0x22 :: cs, ?_, hspells⟩
      rw [hbytes, hquote, hcs, List.append_assoc, List.cons_append]
    · cases h
      cases hmembers
  | false =>
    rw [scanMembers, if_neg Bool.false_ne_true, scanMoreMembers] at h
    split at h
    · cases h
      cases hmembers
    rename_i b more heq
    rw [heq] at hbytes
    split_ifs at h with hclosing hcomma
    · cases h
      exact ⟨ws ++ [0x7d], by rw [hbytes, hclosing, List.append_cons], .closed hws⟩
    · obtain ⟨vs, hmore, hvs⟩ := exists_blanks more
      split at h
      · cases h
        cases hmembers
      rename_i c others heq'
      rw [heq'] at hmore
      split_ifs at h with hquote
      · obtain ⟨cs, hcs, hspells⟩ := ih.member h hmembers (.comma hws hvs)
        refine ⟨(ws ++ 0x2c :: vs) ++ 0x22 :: cs, ?_, hspells⟩
        rw [hbytes, hcomma, hmore, hquote, hcs]
        simp only [List.append_assoc, List.cons_append]
      · cases h
        cases hmembers
    · cases h
      cases hmembers

theorem Faithful.next_member (ih : Faithful fuel) {first : Bool} {ss : List UInt8}
    {members : Members} (h : scanMember (fuel + 1) bs = (members, rest))
    (hmembers : members.damage? = none) (before : Separates first ss) :
    ∃ cs, bs = cs ++ rest ∧ members.Spells first (ss ++ 0x22 :: cs) := by
  rw [scanMember] at h
  rcases hkey : scanString bs with ⟨key, after⟩
  rw [hkey] at h
  obtain ⟨vs, hafter, hvs⟩ := exists_blanks after
  simp only at h
  split at h
  · cases h
    cases (Option.or_eq_none_iff.1 hmembers).2
  rename_i b more heq
  rw [heq] at hafter
  rcases hvalue : scanValue fuel more with ⟨doc, mid⟩
  rcases hmore : scanMoreMembers fuel mid with ⟨others, last⟩
  simp only [hvalue, hmore] at h
  split_ifs at h with hcolon
  · cases h
    obtain ⟨hname, hrest⟩ := Option.or_eq_none_iff.1 hmembers
    obtain ⟨hdoc, hothers⟩ := Option.or_eq_none_iff.1 hrest
    obtain ⟨ks, rfl, hks⟩ := spelled_string hkey hname
    obtain ⟨ws, ds, rfl, hws, hds⟩ := ih.value hvalue hdoc
    obtain ⟨cs, rfl, hcs⟩ := ih.members false hmore hothers
    refine ⟨ks ++ (vs ++ 0x3a :: (ws ++ (ds ++ cs))), ?_, .member before hks hvs hws hds hcs⟩
    rw [hafter, hcolon]
    simp only [List.append_assoc, List.cons_append]
  · cases h
    cases (Option.or_eq_none_iff.1 hmembers).2

theorem faithful (fuel : Nat) : Faithful fuel := by
  induction fuel with
  | zero => exact faithful_zero
  | succ fuel ih =>
    exact ⟨ih.next_value, fun _ => ih.next_items, fun _ => ih.next_members, ih.next_member⟩

end Steps

/-- A document without damage was spelled by the bytes after the first blanks. -/
theorem spelled_of_scan {doc : Doc} (h : scan bs = (doc, rest)) (hdoc : doc.damage? = none) :
    ∃ ws cs, bs = ws ++ (cs ++ rest) ∧ Blanks ws ∧ doc.Spells cs :=
  (faithful _).value h hdoc

end FreshToken.Json
