import WriteBarrier.Environment
import WriteBarrier.Options
import WriteBarrier.Text.Capital

/-!
Options from the environment. A variable whose name is the mark `BARRIER_SET_` and the name of an
option, in capitals or small letters, sets that option.
-/

namespace WriteBarrier

namespace Options

/-- The mark of the variables that set options. -/
def environmentMark : String := "BARRIER_SET_"

/-- The text after a mark; none if the text does not begin with it. -/
def afterMark? : List Char → List Char → Option (List Char)
  | [], cs => some cs
  | _, [] => none
  | m :: mark, c :: cs => if m = c then afterMark? mark cs else none

/-- The option that a variable sets. -/
def ofVariable? (key : String) : Option OptionName := do
  let rest ← afterMark? environmentMark.toList key.toList
  OptionName.ofText? (String.ofList (rest.flatMap Text.smallForm))

/-- Let one variable set its option, if it names one. -/
def useVariable (key value : String) : Step Options Unit :=
  match ofVariable? key with
  | none => pure ()
  | some name => do
    let _ ← set name.text value
    return ()

/-- Let the variables set their options in the order in which they are listed. -/
def useVariables : Environment → Step Options Unit
  | [] => pure ()
  | (key, value) :: env => do
    useVariable key value
    useVariables env

/-- The options that an environment asks for, and the warnings about its values. -/
def ofEnvironment (env : Environment) : Options × List LogLine :=
  let outcome := useVariables env {}
  (outcome.state, outcome.lines)

end Options

end WriteBarrier
