import FreshToken.Text.Quoted
import Mathlib.Tactic.SplitIfs
/-!
# Quoted characters are told apart

No two characters are written alike between single quotes: an escape with a letter, an escape with
a number and a character that stands for itself differ in their form, and two of one form differ
where their characters do.
-/

namespace FreshToken.Text

/-! ## Digits -/

theorem digitChar_inj : ∀ m < 16, ∀ n < 16, Nat.digitChar m = Nat.digitChar n → m = n := by decide

/-- A number with more than one digit is known by its last digit and those before it. -/
theorem toDigits_inj {m n : Nat} (h : Nat.toDigits 16 m = Nat.toDigits 16 n) : m = n := by
  induction m using Nat.strongRecOn generalizing n with
  | _ m ih =>
    have hbase : 1 < 16 := by decide
    rw [Nat.toDigits_eq_if hbase, Nat.toDigits_eq_if hbase (n := n)] at h
    split at h <;> split at h
    · rename_i hm hn
      exact digitChar_inj m hm n hn (List.cons.inj h).1
    · have hlength := congrArg List.length h
      have hpos : 0 < (Nat.toDigits 16 (n / 16)).length := Nat.length_toDigits_pos
      simp only [List.length_append, List.length_singleton] at hlength
      omega
    · have hlength := congrArg List.length h
      have hpos : 0 < (Nat.toDigits 16 (m / 16)).length := Nat.length_toDigits_pos
      simp only [List.length_append, List.length_singleton] at hlength
      omega
    · obtain ⟨hfront, hlast⟩ := List.append_inj' h rfl
      have hdiv : m / 16 = n / 16 := ih (m / 16) (by omega) hfront
      have hmod : m % 16 = n % 16 :=
        digitChar_inj _ (Nat.mod_lt m (by decide)) _ (Nat.mod_lt n (by decide))
          (List.cons.inj hlast).1
      omega

/-! ## Escapes -/

/-- Characters that are escaped with a letter between single quotes, and that letter. -/
def letters : List (Char × Char) :=
  [('\x00', '0'), ('\t', 't'), ('\r', 'r'), ('\n', 'n'), ('\\', '\\'), ('\'', '\'')]

inductive Writes (c : Char) : List Char → Prop
  | letter {l : Char} (h : (c, l) ∈ letters) : Writes c ['\\', l]
  | number : Writes c ('\\' :: 'u' :: '\x7b' :: (Nat.toDigits 16 c.toNat ++ ['\x7d']))
  | plain (h : c ≠ '\\') : Writes c [c]

theorem writes_escaped (c : Char) : Writes c (escaped '\'' c).toList := by
  unfold escaped
  split_ifs with hnul htab hreturn hline hbackslash hquote hunshown
  · exact .letter (by rw [hnul]; decide)
  · exact .letter (by rw [htab]; decide)
  · exact .letter (by rw [hreturn]; decide)
  · exact .letter (by rw [hline]; decide)
  · exact .letter (by rw [hbackslash]; decide)
  · exact .letter (by rw [hquote]; decide)
  · have hnumber : ("\\u\x7b" ++ hexDigits c.toNat ++ "\x7d").toList =
        '\\' :: 'u' :: '\x7b' :: (Nat.toDigits 16 c.toNat ++ ['\x7d']) := by
      simp [hexDigits]
    rw [hnumber]
    exact .number
  · rw [String.toList_ofList]
    exact .plain hbackslash

theorem letters_inj : ∀ p ∈ letters, ∀ q ∈ letters, p.2 = q.2 → p = q := by decide

theorem Writes.unique {c d : Char} {cs : List Char} (hc : Writes c cs) (hd : Writes d cs) :
    c = d := by
  cases hc with
  | letter hc =>
    cases hd with
    | letter hd => exact congrArg Prod.fst (letters_inj _ hc _ hd rfl)
  | plain hc =>
    cases hd with
    | plain => rfl
  | number =>
    generalize hcs : '\\' :: 'u' :: '\x7b' :: (Nat.toDigits 16 c.toNat ++ ['\x7d']) = cs at hd
    cases hd with
    | letter => simp at hcs
    | number =>
      simp only [List.cons.injEq, true_and] at hcs
      exact Char.toNat_inj.1 (toDigits_inj (List.append_cancel_right hcs))
    | plain => simp at hcs

theorem quotedChar_inj {c d : Char} (h : quotedChar c = quotedChar d) : c = d := by
  have hlists := congrArg String.toList h
  simp only [quotedChar, String.toList_append] at hlists
  have hescaped := List.append_cancel_left (List.append_cancel_right hlists)
  have hd := writes_escaped d
  rw [← hescaped] at hd
  exact (writes_escaped c).unique hd

end FreshToken.Text
