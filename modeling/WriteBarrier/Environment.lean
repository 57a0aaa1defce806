/-!
Environment variables: texts under names, listed in the order in which they were first set.
-/

namespace WriteBarrier

/-- Environment variables in the order in which they are listed. -/
abbrev Environment := List (String × String)

namespace Environment

/-- Set a variable. One that exists already keeps its place. -/
def set (env : Environment) (key value : String) : Environment :=
  if env.any (·.1 == key) then env.map fun entry => if entry.1 == key then (key, value) else entry
  else env ++ [(key, value)]

/-- Remove a variable. -/
def unset (env : Environment) (key : String) : Environment := env.filter (·.1 != key)

/-- The value of a variable, if it is set. -/
def get? (env : Environment) (key : String) : Option String := env.lookup key

end Environment

end WriteBarrier
