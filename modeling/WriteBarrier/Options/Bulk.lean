import WriteBarrier.Options
import WriteBarrier.Text.Blank

/-!
Many options in one text: words of the form `name=value`, processed in order. A word of another
form or with an unknown name gives a warning and changes nothing.
-/

namespace WriteBarrier.Options

/-- A word of an option text. -/
inductive Token where
  /-- The word has no equals sign. -/
  | malformed (word : String)
  /-- The part before the first equals sign is no option's name. -/
  | unknown (key : String)
  | pair (name : OptionName) (value : String)
  deriving DecidableEq

namespace Token

def ofWord (word : List Char) : Token :=
  match Text.splitAtMark? '=' word with
  | none => malformed (String.ofList word)
  | some (key, value) =>
    match OptionName.ofText? (String.ofList key) with
    | none => unknown (String.ofList key)
    | some name => pair name (String.ofList value)

/-- The words of an option text. -/
def ofText (s : String) : List Token := (Text.words s.toList).map ofWord

/-- Process one word; false if it is not accepted. -/
def process : Token → Step Options Bool
  | malformed word => do
    Step.write [⟨.warn, s!"Unable to parse option {Text.quoted word}. Expected name=value."⟩]
    return false
  | unknown key => do
    Step.write [⟨.warn, s!"Unknown option {Text.quoted key}. Ignored."⟩]
    return false
  | pair name value => set name.text value

end Token

/-- Process words in order; true if all are accepted. -/
def processAll : List Token → Step Options Bool
  | [] => return true
  | token :: tokens => do
    let accepted ← token.process
    let rest ← processAll tokens
    return accepted && rest

/-- Set the options of a text of `name=value` words; true if every word is accepted. -/
def setBulk (text : String) : Step Options Bool := processAll (Token.ofText text)

end WriteBarrier.Options
