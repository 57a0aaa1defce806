import WriteBarrier.Barrier

/-!
Descriptions of barrier sets. Every description begins with the kind, the tags and the covered
region; a variant may add to it, and may also give up in the middle.
-/

namespace WriteBarrier

/-- A description, which may have been given up before its end. -/
structure Description where
  text : String
  complete : Bool
  deriving DecidableEq

namespace Barrier

/-- The part of a description that all barrier sets share. -/
def baseText (b : Barrier) : Except Fault String := do
  let covered ← b.covered.text
  return s!"{b.kind.name} [" ++ ", ".intercalate (b.tags.tags.map Kind.name) ++
    s!"] covering {covered}"

/-- What a variant adds to its description; none if it gives up. -/
def addedText? (v : Variant) : Option String :=
  match v with
  | .cardTable | .rememberedSet | .extendedSet | .snapshot | .loggingSnapshot =>
    some s!", {Variant.cardBytes.toNat} byte cards"
  | .custom policy => if policy.printsFully then some ", plain" else none
  | .modRef | .markingTable _ | .plainSnapshot => some ""

/-- The description of a barrier set. -/
def description (b : Barrier) : Except Fault Description := do
  let base ← b.baseText
  match addedText? b.variant with
  | some added => return ⟨base ++ added, true⟩
  | none => return ⟨base, false⟩

/-- The description as a text, which must be complete. -/
def describe (b : Barrier) : Except Fault String := do
  let d ← b.description
  if d.complete then return d.text
  throw .unprintable

end Barrier

end WriteBarrier
