import WriteBarrier.Slice

/-!
What a barrier set has noted down, and the atomic actions by which it does so. An action is
indivisible when several threads call barriers at the same time; a hook is a sequence of actions,
and the actions of different threads interleave.
-/

namespace WriteBarrier

/-- A recorded barrier call. -/
inductive Event where
  | fieldPre (field : Address) (narrow : Bool)
  | fieldPost (field : Address) (new : Option ObjectRef) (release : Bool)
  | arrayPre (start : Address) (count : Word) (uninitialized : Bool)
  /-- The call before a bulk store, recorded with the layout of the slots. -/
  | slicePre (slice : Slice) (uninitialized : Bool)
  | arrayPost (region : Region)
  | region (region : Region)
  | codePre (dst : Address) (code : CodePointer)
  | codePost (dst : Address) (code : CodePointer)
  | resize (region : Region)
  deriving DecidableEq

/-- The notes of a barrier set, each kind of note in the order in which it was made. -/
structure Journal where
  /-- The region of the heap that the barrier set covers. -/
  covered : Region := .empty
  events : Array Event := #[]
  /-- The values that were about to be overwritten. -/
  remembered : Array ObjectRef := #[]
  /-- The start addresses of dirtied cards. -/
  cards : Array Address := #[]
  /-- The number of calls after a scalar store. -/
  postWrites : Word := 0
  /-- The words that were stored to, by their position in the marked range. -/
  marks : List Word := []
  deriving DecidableEq

/-- An atomic action of a hook. -/
inductive Action where
  /-- Load a slot and hold on to the reference in it, if any. -/
  | load (slot : Slot)
  /-- Remember the reference that is held, if any, and let go of it. -/
  | remember
  | record (event : Event)
  | logCard (card : Address)
  | countWrite
  | mark (word : Word)
  | cover (region : Region)
  deriving DecidableEq

namespace Action

/-- The journal after an action and the reference that the caller holds then, given the memory at
that moment and the reference held before. -/
def run (m : Memory) (j : Journal) (held : Option ObjectRef) :
    Action → Except Fault (Journal × Option ObjectRef)
  | load slot => do return (j, ← slot.load m)
  | remember =>
    match held with
    | some old => .ok ({ j with remembered := j.remembered.push old }, none)
    | none => .ok (j, none)
  | record event => .ok ({ j with events := j.events.push event }, held)
  | logCard card => .ok ({ j with cards := j.cards.push card }, held)
  | countWrite => .ok ({ j with postWrites := j.postWrites + 1 }, held)
  | mark word => .ok ({ j with marks := word :: j.marks }, held)
  | cover region => .ok ({ j with covered := region }, held)

/-- The actions that remember what a slot holds. -/
def remembering (slot : Slot) : List Action := [load slot, remember]

end Action

namespace Journal

/-- Do actions in order until one of them stops. What was noted before stays. -/
def perform (m : Memory) (j : Journal) (held : Option ObjectRef) :
    List Action → Journal × Except Fault Unit
  | [] => (j, .ok ())
  | action :: actions =>
    match action.run m j held with
    | .ok (next, held) => next.perform m held actions
    | .error fault => (j, .error fault)

theorem perform_nil (m : Memory) (j : Journal) (held : Option ObjectRef) :
    j.perform m held [] = (j, .ok ()) := rfl

theorem perform_cons_ok {m : Memory} {j next : Journal} {held after : Option ObjectRef}
    {action : Action} {actions : List Action} (h : action.run m j held = .ok (next, after)) :
    j.perform m held (action :: actions) = next.perform m after actions := by
  simp [perform, h]

theorem perform_cons_error {m : Memory} {j : Journal} {held : Option ObjectRef} {action : Action}
    {actions : List Action} {fault : Fault} (h : action.run m j held = .error fault) :
    j.perform m held (action :: actions) = (j, .error fault) := by
  simp [perform, h]

end Journal

end WriteBarrier
