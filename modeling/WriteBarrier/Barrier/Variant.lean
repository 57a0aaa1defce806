import WriteBarrier.Barrier.Call
import WriteBarrier.Barrier.Journal
import WriteBarrier.TagSet

/-!
The variants of barrier set. A variant answers each hook with a sequence of actions. The variants
are built on one another: a card table on the root, the remembered-set tables and the snapshot
table on the card table, and a hook that a variant does not change is that of the variant it is
built on.
-/

namespace WriteBarrier

/-- The concrete types of barrier set. -/
inductive Family where
  | modRef
  | cardTable
  | rememberedSet
  | extendedSet
  | snapshot
  | loggingSnapshot
  | markingTable
  | plainSnapshot
  | custom
  deriving DecidableEq

namespace Family

def all : List Family :=
  [.modRef, .cardTable, .rememberedSet, .extendedSet, .snapshot, .loggingSnapshot, .markingTable,
    .plainSnapshot, .custom]

/-- The kind that a type gives its instances unless they are built for a derived kind. -/
def kind : Family → Kind
  | modRef => .modRef
  | cardTable => .cardTable
  | rememberedSet => .rememberedSet
  | extendedSet => .extendedSet
  | snapshot => .snapshot
  | loggingSnapshot => .loggingSnapshot
  | markingTable => .cardTable
  | plainSnapshot => .snapshot
  | custom => .rememberedSet

/-- The tags of a type and of the types it is built on. -/
def layers : Family → List Kind
  | modRef => [.modRef]
  | cardTable => [.cardTable, .modRef]
  | rememberedSet => [.rememberedSet, .cardTable, .modRef]
  | extendedSet => [.rememberedSet, .cardTable, .modRef]
  | snapshot => [.snapshot, .cardTable, .modRef]
  | loggingSnapshot => [.snapshot, .cardTable, .modRef]
  | markingTable => [.modRef]
  | plainSnapshot => [.cardTable, .modRef]
  | custom => []

end Family

/-- A range of words whose stores are marked. -/
structure MarkedRange where
  start : Address
  words : Word
  deriving DecidableEq

namespace MarkedRange

def empty : MarkedRange := ⟨.zero, 0⟩

/-- The position of the word of a field within the range. -/
def position? (r : MarkedRange) (field : Address) : Option Word :=
  if r.start ≤ field then
    let word := (field.val - r.start.val) / Word.bytes
    if word < r.words then some word else none
  else none

end MarkedRange

/-- The choices of a barrier set that a virtual machine brings itself and that implements no more
than it has to: it records what follows a store and what it is told to cover, and does nothing at
the other hooks. Whatever else such a barrier set might do is left out: to stop at a hook, to take
other notes, or to accept the ends of regions by another rule than their alignment. -/
structure CustomPolicy where
  /-- Regions must start and end at multiples of this size. -/
  granularity : Word
  /-- Take over the region it is told to cover. -/
  followsResizes : Bool := true
  /-- Print its description to the end. -/
  printsFully : Bool := true
  deriving DecidableEq

/-- A concrete type of barrier set with what it was created with. -/
inductive Variant where
  /-- The root: its barriers do nothing, apart from covering a new region. -/
  | modRef
  /-- A card table, which records all barriers that follow a store and those around bulk stores. -/
  | cardTable
  /-- A card table used as a remembered set. -/
  | rememberedSet
  /-- A remembered set with extensions, which behaves as its ancestor. -/
  | extendedSet
  /-- A card table that remembers the values being overwritten. -/
  | snapshot
  /-- A snapshot table that also logs the cards of scalar stores. -/
  | loggingSnapshot
  /-- A card table that counts scalar stores and marks the words of a range. -/
  | markingTable (range : MarkedRange)
  /-- A snapshot table whose barriers do nothing. -/
  | plainSnapshot
  /-- A barrier set that a virtual machine brings itself. -/
  | custom (policy : CustomPolicy)
  deriving DecidableEq

namespace Variant

def family : Variant → Family
  | modRef => .modRef
  | cardTable => .cardTable
  | rememberedSet => .rememberedSet
  | extendedSet => .extendedSet
  | snapshot => .snapshot
  | loggingSnapshot => .loggingSnapshot
  | markingTable _ => .markingTable
  | plainSnapshot => .plainSnapshot
  | custom _ => .custom

def cardBytes : Word := 512

/-- The size whose multiples are accepted as ends of regions. -/
def granularity : Variant → Word
  | modRef => Word.bytes
  | custom policy => policy.granularity
  | _ => cardBytes

def rootActions : Hook → List Action
  | .resize region => [.cover region, .record (.resize region)]
  | _ => []

def cardTableActions : Hook → List Action
  | .fieldPost field new release => [.record (.fieldPost field new release)]
  | .arrayPre slice uninitialized => [.record (.arrayPre slice.start slice.count uninitialized)]
  | .arrayPost region => [.record (.arrayPost region)]
  | .region region => [.record (.region region)]
  | .codePre dst code => [.record (.codePre dst code)]
  | .codePost dst code => [.record (.codePost dst code)]
  | hook => rootActions hook

/-- The answer of a snapshot table. A slot is loaded before the call is recorded, so a slot that
cannot be loaded leaves no record; a bulk store into initialized slots loads each of them. -/
def snapshotActions : Hook → Except Fault (List Action)
  | .fieldPre slot _ =>
    .ok (Action.remembering slot ++ [.record (.fieldPre slot.address slot.isNarrow)])
  | .arrayPre slice uninitialized => do
    let loads ← if uninitialized then pure [] else (·.flatMap Action.remembering) <$> slice.slots
    return loads ++ cardTableActions (.arrayPre slice uninitialized)
  | hook => .ok (cardTableActions hook)

/-- The answer of a snapshot table that logs cards. -/
def loggingActions : Hook → Except Fault (List Action)
  | .fieldPost field new release =>
    .ok (cardTableActions (.fieldPost field new release) ++ [.logCard (field.alignDown cardBytes)])
  | hook => snapshotActions hook

def markingActions (range : MarkedRange) : Hook → List Action
  | .fieldPost field _ _ =>
    match range.position? field with
    | some word => [.countWrite, .mark word]
    | none => [.countWrite]
  | .arrayPre slice uninitialized => [.record (.slicePre slice uninitialized)]
  | .arrayPost region => [.record (.arrayPost region)]
  | .region region => [.record (.region region)]
  | hook => rootActions hook

/-- The answer of a snapshot table whose barriers do nothing. -/
def plainActions : Hook → List Action
  | .resize region => [.cover region]
  | _ => []

def customActions (policy : CustomPolicy) : Hook → List Action
  | .fieldPost field new release => [.record (.fieldPost field new release)]
  | .arrayPost region => [.record (.arrayPost region)]
  | .region region => [.record (.region region)]
  | .resize region =>
    (if policy.followsResizes then [.cover region] else []) ++ [.record (.resize region)]
  | _ => []

/-- The actions by which a variant answers a hook. -/
def actions : Variant → Hook → Except Fault (List Action)
  | modRef, hook => .ok (rootActions hook)
  | cardTable, hook => .ok (cardTableActions hook)
  | rememberedSet, hook => .ok (cardTableActions hook)
  | extendedSet, hook => .ok (cardTableActions hook)
  | snapshot, hook => snapshotActions hook
  | loggingSnapshot, hook => loggingActions hook
  | markingTable range, hook => .ok (markingActions range hook)
  | plainSnapshot, hook => .ok (plainActions hook)
  | custom policy, hook => .ok (customActions policy hook)

/-- The actions by which a variant answers a call; none if the call reaches no hook. -/
def answer (v : Variant) (c : Call) : Except Fault (List Action) :=
  c.dispatch .error (.ok []) v.actions

/-- Does the variant load the slots that are about to be overwritten? -/
def loadsOldValues : Variant → Bool
  | snapshot => true
  | loggingSnapshot => true
  | _ => false

/-- The memory that a call may read. A bulk call counts as reading its slice even if the slice is
not initialized. -/
def access? (v : Variant) : Call → Option Access
  | .fieldPre slot _ => if v.loadsOldValues then some slot.access else none
  | .arrayPre slice _ => if v.loadsOldValues then slice.access? else none
  | _ => none

end Variant

end WriteBarrier
