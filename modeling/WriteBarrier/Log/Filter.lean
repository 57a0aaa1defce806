import WriteBarrier.Environment
import WriteBarrier.Log
import WriteBarrier.Text.Space

/-!
Log filters. A filter is a list of rules, each for the sources whose path begins with a text. Of
the rules for a source the one with the longest text decides which of its lines are taken.
-/

namespace WriteBarrier

/-- The parts of the library that log. -/
inductive LogSource where
  | logger
  | options
  | machine
  | staticCall
  deriving DecidableEq

/-- The path by which the rules of a filter name a source. -/
def LogSource.path : LogSource → String
  | logger => "barrier_set::util::logger"
  | options => "barrier_set::util::options"
  | machine => "barrier_set::runtime"
  | staticCall => "barrier_set::memory_manager"

/-- Which lines a rule lets through. -/
inductive Threshold where
  | never
  | atLeast (level : Level)
  deriving DecidableEq

namespace Threshold

/-- Every line. -/
def always : Threshold := atLeast .trace

def admits : Threshold → Level → Bool
  | never, _ => false
  | atLeast least, level => decide (least ≤ level)

/-- Read a threshold: `off` or the name of a level, in capitals or small letters. -/
def ofText? (cs : List Char) : Option Threshold :=
  let name := String.ofList (cs.map Char.toUpper)
  if name = "OFF" then some never
  else
    ([.trace, .debug, .info, .warn, .error].find? fun level : Level => level.name = name).map atLeast

end Threshold

/-- A rule of a filter. -/
structure LogRule where
  /-- The text with which the paths of the rule's sources begin; none for every source. -/
  scope : Option (List Char)
  threshold : Threshold
  deriving DecidableEq

namespace LogRule

/-- Is the rule about a source? -/
def covers (r : LogRule) (source : LogSource) : Bool :=
  (r.scope.getD []).isPrefixOf source.path.toList

/-- The length of the text of a rule, by which it outweighs other rules. -/
def weight (r : LogRule) : Nat := (r.scope.getD []).length

/-- Read a rule: a threshold for every source, a scope with a threshold behind an equals sign, or a
scope alone, which lets every line through. -/
def ofText? (cs : List Char) : Option LogRule :=
  match Text.splitAtMark? '=' cs with
  | none =>
    match Threshold.ofText? cs with
    | some threshold => some ⟨none, threshold⟩
    | none => some ⟨some cs, .always⟩
  | some (scope, level) =>
    if (Text.trim level).isEmpty then some ⟨some scope, .always⟩
    else (Threshold.ofText? (Text.trim level)).map (⟨some scope, ·⟩)

end LogRule

/-- The rules by which a logger takes lines. -/
abbrev LogFilter := List LogRule

namespace LogFilter

/-- One threshold for every source. -/
def uniform (threshold : Threshold) : LogFilter := [⟨none, threshold⟩]

/-- Add a rule. It takes the place of one with the same scope. -/
def insert (f : LogFilter) (rule : LogRule) : LogFilter :=
  if f.any (·.scope == rule.scope) then f.map fun r => if r.scope == rule.scope then rule else r
  else f ++ [rule]

/-- Of a rule found before and the next one, the rule that decides about a source. -/
def prefer (source : LogSource) (found : Option LogRule) (next : LogRule) : Option LogRule :=
  if next.covers source && found.all (·.weight ≤ next.weight) then some next else found

/-- The rule that decides about a source: of those about it the longest, and of these the last. -/
def decisive? (f : LogFilter) (source : LogSource) : Option LogRule := f.foldl (prefer source) none

/-- Are lines of a source taken at a level? -/
def takes (f : LogFilter) (source : LogSource) (level : Level) : Bool :=
  (f.decisive? source).any (·.threshold.admits level)

/-- Does some rule let lines of a level through, for whichever sources? -/
def attends (f : LogFilter) (level : Level) : Bool := f.any (·.threshold.admits level)

/-- The rules in a text, which stand between commas. Those that cannot be read are left out. -/
def rulesOf (cs : List Char) : List LogRule :=
  (((Text.pieces (· == ',') cs).map Text.trim).filter (!·.isEmpty)).filterMap LogRule.ofText?

/-- Read a filter: rules, and behind a slash a pattern that chooses among the lines that they take.
The pattern is not kept, since a line is put into words before it is matched. A second slash spoils
the text, and a text without rules stands for errors alone. -/
def ofText (text : String) : LogFilter :=
  let rules := match Text.splitAtMark? '/' text.toList with
    | none => rulesOf text.toList
    | some (rules, pattern) => if '/' ∈ pattern then [] else rulesOf rules
  if rules.isEmpty then uniform (.atLeast .error) else rules.foldl insert []

/-- The filter that the variable `RUST_LOG` states. If it is unset, lines are taken from `info`
on. -/
def ofEnvironment (env : Environment) : LogFilter :=
  match env.get? "RUST_LOG" with
  | some text => ofText text
  | none => uniform (.atLeast .info)

theorem mem_of_foldl_prefer {source : LogSource} {r : LogRule} {f : LogFilter}
    {found : Option LogRule} (h : f.foldl (prefer source) found = some r) :
    r ∈ f ∨ found = some r := by
  induction f generalizing found with
  | nil => exact .inr h
  | cons next f ih =>
    rcases ih h with hr | hr
    · exact .inl (List.mem_cons_of_mem next hr)
    · rw [prefer] at hr
      split at hr
      · exact .inl (Option.some.inj hr ▸ List.mem_cons_self)
      · exact .inr hr

/-- A line is taken only if some rule attends to its level. -/
theorem attends_of_takes {f : LogFilter} {source : LogSource} {level : Level}
    (h : f.takes source level = true) : f.attends level = true := by
  obtain ⟨r, hr, hlevel⟩ := (Option.any_eq_true _ _).1 h
  rcases mem_of_foldl_prefer hr with hmem | hnone
  · exact List.any_eq_true.2 ⟨r, hmem, hlevel⟩
  · exact absurd hnone (by simp)

end LogFilter

end WriteBarrier
