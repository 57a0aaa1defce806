import WriteBarrier.Barrier.Variant

/-!
Barrier sets: a variant with the tags under which it can be viewed and the notes it has taken. A
call runs the actions of the hook that it reaches; if one of them stops, the call stops there and
keeps what was noted before.
-/

namespace WriteBarrier

structure Barrier where
  variant : Variant
  tags : TagSet Kind
  journal : Journal
  deriving DecidableEq

namespace Barrier

/-- A barrier set on top of the given tags. -/
def ofTags (variant : Variant) (tags : TagSet Kind) : Barrier :=
  ⟨variant, tags.addAll variant.family.layers, {}⟩

/-- A barrier set of the variant's own kind. -/
def ofVariant (variant : Variant) : Barrier :=
  ofTags variant (.singleton variant.family.kind)

/-- The kind of the concrete variant. -/
def kind (b : Barrier) : Kind := b.tags.concrete

/-- Can the barrier set be viewed as being of kind `k`? -/
def isA (b : Barrier) (k : Kind) : Bool := b.tags.has k

def covered (b : Barrier) : Region := b.journal.covered

/-- Does an address satisfy the granularity of the barrier set? -/
def isAligned (b : Barrier) (a : Address) : Bool := a.isAlignedTo b.variant.granularity

/-- Run the actions of an answer, unless it is a fault. -/
def runAnswer (b : Barrier) (m : Memory) : Except Fault (List Action) → Barrier × Except Fault Unit
  | .error fault => (b, .error fault)
  | .ok actions =>
    let (journal, result) := b.journal.perform m none actions
    ({ b with journal }, result)

/-- Run the actions by which the variant answers a hook. -/
def runHook (b : Barrier) (m : Memory) (hook : Hook) : Barrier × Except Fault Unit :=
  b.runAnswer m (b.variant.actions hook)

def call (b : Barrier) (m : Memory) (c : Call) : Barrier × Except Fault Unit :=
  c.deliver (fun b hook => b.runHook m hook) b

/-- Make calls in order, whether or not some of them stop. -/
def callAll (b : Barrier) (m : Memory) (calls : List Call) : Barrier :=
  calls.foldl (fun b c => (b.call m c).1) b

/-- Cover a region without telling the variant. -/
def setCovered (b : Barrier) (region : Region) : Barrier :=
  { b with journal := { b.journal with covered := region } }

/-- Has a scalar store to the word of a field been marked? -/
def isMarked (b : Barrier) (field : Address) : Bool :=
  match b.variant with
  | .markingTable range =>
    match range.position? field with
    | some word => b.journal.marks.contains word
    | none => false
  | _ => false

/-- The barrier set with its events, remembered values and cards taken out. -/
def drained (b : Barrier) : Barrier :=
  { b with journal := { b.journal with events := #[], remembered := #[], cards := #[] } }

/-- The ends of a region must satisfy the granularity of the barrier set, unless the region is
empty. The end is looked at only if the start does. -/
def verify (b : Barrier) (region : Region) : Except Fault Unit :=
  let misaligned := Fault.misalignedCover region.start region.size b.kind
  if region.isEmpty then .ok ()
  else if b.isAligned region.start then do
    let stop ← region.stop
    if b.isAligned stop then return () else throw misaligned
  else .error misaligned

/-- A call runs the answer to it, so that its actions can as well be taken one by one. -/
theorem call_eq_runAnswer (b : Barrier) (m : Memory) (c : Call) :
    b.call m c = b.runAnswer m (b.variant.answer c) :=
  (Call.apply_dispatch (b.runAnswer m) c .error (.ok []) b.variant.actions).symm

theorem kind_ofTags (variant : Variant) (tags : TagSet Kind) :
    (ofTags variant tags).kind = tags.concrete := TagSet.concrete_addAll _ _

theorem kind_ofVariant (variant : Variant) : (ofVariant variant).kind = variant.family.kind :=
  kind_ofTags _ _

end Barrier

end WriteBarrier
