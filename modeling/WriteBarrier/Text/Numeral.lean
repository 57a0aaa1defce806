/-!
Reading values from text: decimal numerals below a bound, and flags.
-/

namespace WriteBarrier.Text

/-- The value of a decimal digit. -/
def digit? (c : Char) : Option Nat := if c.isDigit then some (c.toNat - '0'.toNat) else none

/-- The number that a run of decimal digits denotes, continuing from `high`. -/
def decimalFrom? (high : Nat) : List Char → Option Nat
  | [] => some high
  | c :: cs => do decimalFrom? (10 * high + (← digit? c)) cs

/-- The text after an optional plus sign. -/
def afterPlus : List Char → List Char
  | '+' :: cs => cs
  | cs => cs

/-- A number below `bound` written as at least one decimal digit, after at most one plus sign. -/
def numeral? (bound : Nat) (s : String) : Option Nat :=
  match afterPlus s.toList with
  | [] => none
  | digits => (decimalFrom? 0 digits).filter (· < bound)

/-- The words for truth and falsity, exactly. -/
def flag? (s : String) : Option Bool :=
  if s = "true" then some true else if s = "false" then some false else none

theorem numeral?_lt {bound n : Nat} {s : String} (h : numeral? bound s = some n) : n < bound := by
  unfold numeral? at h
  split at h
  · simp at h
  · simpa using (Option.filter_eq_some_iff.mp h).2

end WriteBarrier.Text
