import WriteBarrier.Text.ExtendingMark
import WriteBarrier.Text.Hexadecimal
import WriteBarrier.Text.Unprintable

/-!
Quoted text, the form in which rejected input is shown. The quoted form stands between double
quotes; quotes, backslashes and the common controls are escaped with a backslash, and every
character that would not show on its own is written by its code point.
-/

namespace WriteBarrier.Text

/-- The code point of `c` in braces. -/
def codePointEscape (c : Char) : String := s!"\\u\x7b{hexDigits c.toNat}\x7d"

/-- One character of quoted text. -/
def quotedChar (c : Char) : String :=
  if c = '\x00' then "\\0"
  else if c = '\t' then "\\t"
  else if c = '\r' then "\\r"
  else if c = '\n' then "\\n"
  else if c = '\\' then "\\\\"
  else if c = '"' then "\\\""
  else if isExtendingMark c || isUnprintable c then codePointEscape c
  else c.toString

/-- A text between double quotes. -/
def quoted (s : String) : String := "\"" ++ String.join (s.toList.map quotedChar) ++ "\""

end WriteBarrier.Text
