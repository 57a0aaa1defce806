import WriteBarrier.Text.Blank
import WriteBarrier.Text.CodeRange

/-!
White space at the ends of a text. Every blank is white space, and so are the spaces and line
breaks of other scripts.
-/

namespace WriteBarrier.Text

/-- The code points with the property White_Space, as closed ranges in ascending order. -/
def spaceRanges : Array CodeRange := #[
  ⟨0x9, 0xd⟩, ⟨0x20, 0x20⟩, ⟨0x85, 0x85⟩, ⟨0xa0, 0xa0⟩, ⟨0x1680, 0x1680⟩, ⟨0x2000, 0x200a⟩,
  ⟨0x2028, 0x2029⟩, ⟨0x202f, 0x202f⟩, ⟨0x205f, 0x205f⟩, ⟨0x3000, 0x3000⟩]

def isSpace (c : Char) : Bool := CodeRange.anyContains spaceRanges c.toNat

/-- The text without the white space at its ends. -/
def trim (cs : List Char) : List Char :=
  ((cs.dropWhile isSpace).reverse.dropWhile isSpace).reverse

theorem isSpace_of_isBlank {c : Char} (h : isBlank c = true) : isSpace c = true := by
  simp only [isBlank, Bool.or_eq_true, beq_iff_eq] at h
  rcases h with (((h | h) | h) | h) | h <;> subst h <;>
    simp [isSpace, CodeRange.anyContains, CodeRange.contains, spaceRanges]

end WriteBarrier.Text
