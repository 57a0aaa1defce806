/-!
Ranges of code points, by which properties of characters are tabulated.
-/

namespace WriteBarrier.Text

/-- The code points from `first` to `last`, both included. -/
structure CodeRange where
  first : Nat
  last : Nat

namespace CodeRange

def contains (r : CodeRange) (code : Nat) : Bool := r.first ≤ code && code ≤ r.last

/-- Does one of the ranges contain the code point? -/
def anyContains (ranges : Array CodeRange) (code : Nat) : Bool := ranges.any (·.contains code)

end CodeRange

end WriteBarrier.Text
