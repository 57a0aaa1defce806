/-!
Hexadecimal text of machine words, the form in which addresses and sizes are written.
-/

namespace WriteBarrier.Text

/-- The lower-case hexadecimal digits of `n`, without leading zeros; `0` for zero. -/
def hexDigits (n : Nat) : String := String.ofList (Nat.toDigits 16 n)

/-- The digits of `n` after the mark `0x`. -/
def hexadecimal (n : Nat) : String := "0x" ++ hexDigits n

end WriteBarrier.Text
