import WriteBarrier.Barrier

/-!
Casts to the concrete type. A cast gives the barrier set itself if its concrete type is the one
asked for. There is no cast to a type that the concrete type is built on, because calls through
its result would miss the hooks of the concrete type.
-/

namespace WriteBarrier.Barrier

/-- Is the concrete type of the barrier set `family`? -/
def isOfType (b : Barrier) (family : Family) : Prop := b.variant.family = family

instance (b : Barrier) (family : Family) : Decidable (b.isOfType family) :=
  inferInstanceAs (Decidable (b.variant.family = family))

/-- The barrier set as a `family`. It must carry the tag of the type and be of the type. -/
def cast (b : Barrier) (family : Family) : Except Fault Barrier :=
  if b.isA family.kind then
    if b.isOfType family then .ok b else .error (.wrongType family.kind b.kind)
  else .error (.wrongType family.kind b.kind)

/-- The barrier set as a `family`, if its kind is that of the type and it is of the type. -/
def cast? (b : Barrier) (family : Family) : Option Barrier :=
  if b.kind = family.kind then if b.isOfType family then some b else none else none

/-- The barrier set as a `family`, of which only the kind is checked. Callers promise that it is
of the type. -/
def castTrusting (b : Barrier) (family : Family) : Except Fault Barrier :=
  if b.kind = family.kind then .ok b else .error (.wrongType family.kind b.kind)

end WriteBarrier.Barrier
