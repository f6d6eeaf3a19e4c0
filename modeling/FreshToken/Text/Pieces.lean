/-!
# Pieces of a text

A text cut at every occurrence of a mark.  The pieces hold no mark, and joined with marks between
them they are the text again.
-/

namespace FreshToken.Text

/-- The pieces of a text between the marks that satisfy `isMark`; there is always one more piece
than marks. -/
def pieces (isMark : Char → Bool) : List Char → List (List Char)
  | [] => [[]]
  | c :: rest =>
    if isMark c then [] :: pieces isMark rest
    else
      match pieces isMark rest with
      | [] => [[c]]
      | piece :: others => (c :: piece) :: others

theorem pieces_ne_nil (isMark : Char → Bool) (cs : List Char) : pieces isMark cs ≠ [] := by
  cases cs with
  | nil => simp [pieces]
  | cons c rest =>
    unfold pieces
    split
    · simp
    · split <;> simp

theorem pieces_eq_singleton {isMark : Char → Bool} {cs : List Char}
    (h : ∀ c ∈ cs, isMark c = false) : pieces isMark cs = [cs] := by
  induction cs with
  | nil => rfl
  | cons c rest ih =>
    have hc : isMark c = false := h c List.mem_cons_self
    simp [pieces, hc, ih fun d hd => h d (List.mem_cons_of_mem _ hd)]

theorem pieces_append_mark {isMark : Char → Bool} {m : Char} (hm : isMark m = true)
    (front back : List Char) :
    pieces isMark (front ++ m :: back) = pieces isMark front ++ pieces isMark back := by
  induction front with
  | nil => simp [pieces, hm]
  | cons c rest ih =>
    simp only [List.cons_append, pieces, ih]
    split
    · rfl
    · rcases hp : pieces isMark rest with _ | ⟨piece, others⟩
      · exact absurd hp (pieces_ne_nil _ _)
      · rfl

end FreshToken.Text
