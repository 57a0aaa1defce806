/-!
Splitting text at blanks and at marks. A word is a longest run of characters without a blank;
only the blanks of ASCII count.
-/

namespace WriteBarrier.Text

/-- Space, tab, line feed, form feed and carriage return. -/
def isBlank (c : Char) : Bool :=
  c == ' ' || c == '\t' || c == '\n' || c == '\x0c' || c == '\r'

/-- The pieces between separators, those between neighbouring separators being empty. -/
def pieces (separates : Char → Bool) : List Char → List (List Char)
  | [] => [[]]
  | c :: cs =>
    if separates c then [] :: pieces separates cs
    else match pieces separates cs with
      | [] => [[c]]
      | piece :: rest => (c :: piece) :: rest

/-- The words of a text in order. -/
def words (cs : List Char) : List (List Char) := (pieces isBlank cs).filter (!·.isEmpty)

/-- The parts before and after the first `mark`; none if there is no `mark`. -/
def splitAtMark? (mark : Char) : List Char → Option (List Char × List Char)
  | [] => none
  | c :: cs =>
    if c = mark then some ([], cs) else (splitAtMark? mark cs).map fun (l, r) => (c :: l, r)

theorem pieces_ne_nil (separates : Char → Bool) (cs : List Char) : pieces separates cs ≠ [] := by
  cases cs with
  | nil => simp [pieces]
  | cons c cs =>
    rw [pieces]
    split
    · simp
    · split <;> simp

theorem pieces_append {separates : Char → Bool} {w : Char} (hw : separates w = true)
    (cs ds : List Char) :
    pieces separates (cs ++ w :: ds) = pieces separates cs ++ pieces separates ds := by
  induction cs with
  | nil => simp [pieces, hw]
  | cons c cs ih =>
    by_cases hc : separates c = true
    · simp [pieces, hc, ih]
    · cases hp : pieces separates cs with
      | nil => exact absurd hp (pieces_ne_nil separates cs)
      | cons piece rest => simp [pieces, hc, ih, hp]

/-- A blank between two texts separates their words. -/
theorem words_append_blank {w : Char} (hw : isBlank w = true) (cs ds : List Char) :
    words (cs ++ w :: ds) = words cs ++ words ds := by
  simp [words, pieces_append hw]

theorem splitAtMark?_eq_some {mark : Char} {cs l r : List Char}
    (h : splitAtMark? mark cs = some (l, r)) : cs = l ++ mark :: r ∧ mark ∉ l := by
  induction cs generalizing l with
  | nil => simp [splitAtMark?] at h
  | cons c cs ih =>
    rw [splitAtMark?] at h
    split at h
    · rename_i hc
      simp only [Option.some.injEq, Prod.mk.injEq] at h
      obtain ⟨rfl, rfl⟩ := h
      simp [hc]
    · rename_i hc
      simp only [Option.map_eq_some_iff, Prod.mk.injEq, Prod.exists] at h
      obtain ⟨l', r', hcs, rfl, rfl⟩ := h
      obtain ⟨rfl, hl⟩ := ih hcs
      simp [hl, Ne.symm hc]

theorem splitAtMark?_eq_none {mark : Char} {cs : List Char} :
    splitAtMark? mark cs = none ↔ mark ∉ cs := by
  induction cs with
  | nil => simp [splitAtMark?]
  | cons c cs ih =>
    rw [splitAtMark?]
    split
    · rename_i hc; simp [hc]
    · rename_i hc; simp [ih, Ne.symm hc]

end WriteBarrier.Text
