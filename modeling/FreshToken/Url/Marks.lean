import FreshToken.Url.Basic
/-!
# The marks of an address

A written address can be cut again: its fragment follows the first `#`, and its query the first `?`
before that.  An address reads back if the cuts give the parts that it was written from.
-/

namespace FreshToken

namespace Text

def cut (mark : Char) : List Char → List Char × Option (List Char)
  | [] => ([], none)
  | c :: rest =>
    if c = mark then ([], some rest)
    else ((c :: (cut mark rest).1), (cut mark rest).2)

theorem cut_of_notMem {mark : Char} {cs : List Char} (h : mark ∉ cs) :
    cut mark cs = (cs, none) := by
  induction cs with
  | nil => rfl
  | cons c rest ih =>
    rw [List.mem_cons, not_or] at h
    obtain ⟨hc, hrest⟩ := h
    rw [cut, if_neg (Ne.symm hc), ih hrest]

theorem cut_append_mark {mark : Char} {front : List Char} (h : mark ∉ front) (back : List Char) :
    cut mark (front ++ mark :: back) = (front, some back) := by
  induction front with
  | nil => simp [cut]
  | cons c rest ih =>
    rw [List.mem_cons, not_or] at h
    obtain ⟨hc, hrest⟩ := h
    rw [List.cons_append, cut, if_neg (Ne.symm hc), ih hrest]

/-- A text is what stands before a mark, the mark, and what follows it. -/
theorem append_cut (mark : Char) (cs : List Char) :
    (cut mark cs).1 ++ ((cut mark cs).2.map (mark :: ·)).getD [] = cs := by
  induction cs with
  | nil => rfl
  | cons c rest ih =>
    by_cases hc : c = mark
    · simp [cut, hc]
    · rw [cut, if_neg hc, List.cons_append, ih]

theorem notMem_cut (mark : Char) (cs : List Char) : mark ∉ (cut mark cs).1 := by
  induction cs with
  | nil => exact List.not_mem_nil
  | cons c rest ih =>
    by_cases hc : c = mark
    · simp [cut, hc]
    · rw [cut, if_neg hc, List.mem_cons, not_or]
      exact ⟨Ne.symm hc, ih⟩

end Text

namespace Url

structure Written where
  /-- Scheme, authority and path. -/
  front : List Char
  query : Option (List Char)
  fragment : Option (List Char)

def readMarks (text : List Char) : Written :=
  let (rest, fragment) := Text.cut '#' text
  let (front, query) := Text.cut '?' rest
  ⟨front, query, fragment⟩

def written (u : Url) : Written :=
  ⟨u.front.toList, u.query.map String.toList, u.fragment.map String.toList⟩

/-- Whether the written address has its marks where they belong. -/
def ReadsBack (u : Url) : Prop := readMarks u.text.toList = u.written

def bodyChars (u : Url) : List Char :=
  u.front.toList ++ (u.query.map fun q => '?' :: q.toList).getD []

theorem toList_text (u : Url) :
    u.text.toList = u.bodyChars ++ (u.fragment.map fun f => '#' :: f.toList).getD [] := by
  unfold text bodyChars
  cases u.query <;> cases u.fragment <;> simp

theorem readMarks_text {u : Url} (h : '#' ∉ u.bodyChars) :
    readMarks u.text.toList =
      ⟨(Text.cut '?' u.bodyChars).1, (Text.cut '?' u.bodyChars).2,
        u.fragment.map String.toList⟩ := by
  unfold readMarks
  rw [toList_text]
  cases u.fragment with
  | none => simp [Text.cut_of_notMem h]
  | some f => simp [Text.cut_append_mark h]

theorem hash_mem_bodyChars (u : Url) :
    '#' ∈ u.bodyChars ↔ '#' ∈ u.front.toList ∨ '#' ∈ u.queryChars := by
  unfold bodyChars queryChars
  cases u.query <;> simp

/-- An address reads back if no mark stands before its place. -/
theorem readsBack_iff (u : Url) :
    u.ReadsBack ↔ '?' ∉ u.front.toList ∧ '#' ∉ u.front.toList ∧ '#' ∉ u.queryChars := by
  rw [← not_or, ← hash_mem_bodyChars]
  constructor
  · intro h
    have hfront : (Text.cut '?' (Text.cut '#' u.text.toList).1).1 = u.front.toList :=
      congrArg Written.front h
    have hquery : (Text.cut '?' (Text.cut '#' u.text.toList).1).2 = u.query.map String.toList :=
      congrArg Written.query h
    have hbody : u.bodyChars = (Text.cut '#' u.text.toList).1 := by
      rw [← Text.append_cut '?' (Text.cut '#' u.text.toList).1, hfront, hquery, bodyChars,
        Option.map_map]
      rfl
    constructor
    · rw [← hfront]
      exact Text.notMem_cut _ _
    · rw [hbody]
      exact Text.notMem_cut _ _
  · rintro ⟨hfront, hbody⟩
    unfold ReadsBack
    rw [readMarks_text hbody]
    unfold bodyChars written
    cases u.query with
    | none => simp [Text.cut_of_notMem hfront]
    | some q => simp [Text.cut_append_mark hfront]

end Url

end FreshToken
