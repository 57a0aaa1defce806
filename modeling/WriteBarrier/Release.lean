/-!
The identification of this release and of the sources from which it was built.
-/

namespace WriteBarrier.Release

def version : String := "0.31.0"

/-- The features that the release was built with. -/
def features : String := "BUILTIN_ENV_LOGGER, DEFAULT"

/-- What was known of the sources when the release was built. -/
structure Sources where
  /-- The commit that was checked out. -/
  commit : Option String := none
  /-- Were there changes since this commit? -/
  changed : Option Bool := none
  deriving DecidableEq

/-- The revision of the sources. -/
def Sources.revision (s : Sources) : String :=
  match s.commit, s.changed with
  | some commit, some true => commit ++ "-dirty"
  | some commit, _ => commit
  | none, _ => "unknown-git-version"

end WriteBarrier.Release
