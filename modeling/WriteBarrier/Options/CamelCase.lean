import WriteBarrier.Options
import WriteBarrier.Text.Capital

/-!
Option names in camelCase. A capital stands for an underscore and the small letter.
-/

namespace WriteBarrier.Options

/-- One character of a camelCase name in snake_case. -/
def snakeCaseChar (c : Char) : List Char :=
  if Text.isCapital c then '_' :: Text.smallForm c else [c]

/-- A camelCase name in snake_case. -/
def snakeCase (s : String) : String := String.ofList (s.toList.flatMap snakeCaseChar)

/-- `set`, with the name of the option in camelCase, snake_case or a mixture. -/
def setCamelCase (key text : String) : Step Options Bool := do
  Step.write [⟨.trace, s!"Trying to process option pair: ({key}, {text})"⟩]
  let accepted ← set (snakeCase key) text
  Step.write [⟨.trace, if accepted then "Validation passed" else "Validation failed"⟩]
  return accepted

end WriteBarrier.Options
