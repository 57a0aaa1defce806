import WriteBarrier.Slice

/-!
Barrier calls. A mutator calls a barrier around every store of references; the call is brought
into the form that barrier sets work on, a hook call, in the same way for every barrier set. Most
calls are hook calls already. Only the call after a bulk store differs: an empty slice calls no
hook, and the others hand over the region that covers the slice.
-/

namespace WriteBarrier

/-- A call of a barrier set. -/
inductive Call where
  /-- Before `new` is stored in a slot, while the slot still holds the old value. -/
  | fieldPre (slot : Slot) (new : Option ObjectRef)
  /-- After `new` has been stored in a field. -/
  | fieldPost (field : Address) (new : Option ObjectRef) (release : Bool)
  /-- Before a bulk store into a slice. -/
  | arrayPre (slice : Slice) (uninitialized : Bool)
  /-- After a bulk store into a slice. -/
  | arrayPost (slice : Slice)
  /-- After a store of data that may hold references. -/
  | region (region : Region)
  /-- Before compiled code starts to refer to the object in `dst`. -/
  | codePre (dst : Address) (code : CodePointer)
  /-- After compiled code refers to the object in `dst`. -/
  | codePost (dst : Address) (code : CodePointer)
  /-- The heap now spans a region. -/
  | resize (region : Region)
  deriving DecidableEq

/-- A call in the form that barrier sets work on. -/
inductive Hook where
  | fieldPre (slot : Slot) (new : Option ObjectRef)
  | fieldPost (field : Address) (new : Option ObjectRef) (release : Bool)
  | arrayPre (slice : Slice) (uninitialized : Bool)
  /-- References were stored in the words of a region. -/
  | arrayPost (region : Region)
  | region (region : Region)
  | codePre (dst : Address) (code : CodePointer)
  | codePost (dst : Address) (code : CodePointer)
  | resize (region : Region)
  deriving DecidableEq

namespace Call

/-- The region of whole words that a bulk store wrote, unless nothing was stored. An array of
full-width references must start at a word boundary. -/
def writtenRegion? (slice : Slice) : Except Fault (Option Region) :=
  if slice.isEmpty then .ok none
  else if slice.encoding.isNarrow || slice.start.isWordAligned then some <$> slice.coveringRegion
  else .error (.unalignedArray slice.start)

/-- The hook that a call reaches, if it reaches one. -/
def hook? : Call → Except Fault (Option Hook)
  | fieldPre slot new => .ok (some (.fieldPre slot new))
  | fieldPost field new release => .ok (some (.fieldPost field new release))
  | arrayPre slice uninitialized => .ok (some (.arrayPre slice uninitialized))
  | arrayPost slice => (Option.map Hook.arrayPost) <$> writtenRegion? slice
  | region r => .ok (some (.region r))
  | codePre dst code => .ok (some (.codePre dst code))
  | codePost dst code => .ok (some (.codePost dst code))
  | resize r => .ok (some (.resize r))

/-- What comes of a call: it stops before any hook, comes to nothing, or reaches a hook. Calls are
made in no other way, whatever the barrier set is and whether or not the calls of threads
interleave. -/
def dispatch {α : Type} (c : Call) (stop : Fault → α) (skip : α) (reach : Hook → α) : α :=
  match c.hook? with
  | .error fault => stop fault
  | .ok none => skip
  | .ok (some hook) => reach hook

/-- A call of a barrier set of any behaviour: `answer` is what the barrier set does at a hook. -/
def deliver {σ : Type} (answer : σ → Hook → σ × Except Fault Unit) (x : σ) (c : Call) :
    σ × Except Fault Unit :=
  c.dispatch (fun fault => (x, .error fault)) (x, .ok ()) (answer x)

theorem apply_dispatch {α β : Type} (f : α → β) (c : Call) (stop : Fault → α) (skip : α)
    (reach : Hook → α) : f (c.dispatch stop skip reach) =
      c.dispatch (fun fault => f (stop fault)) (f skip) (fun hook => f (reach hook)) := by
  unfold dispatch
  split <;> rfl

theorem dispatch_arrayPost {α : Type} (slice : Slice) (stop : Fault → α) (skip : α)
    (reach : Hook → α) : (arrayPost slice).dispatch stop skip reach =
      match writtenRegion? slice with
      | .error fault => stop fault
      | .ok none => skip
      | .ok (some r) => reach (.arrayPost r) := by
  have hhook : (arrayPost slice).hook? = Option.map Hook.arrayPost <$> writtenRegion? slice := rfl
  unfold dispatch
  rw [hhook]
  cases writtenRegion? slice with
  | error fault => rfl
  | ok region? => cases region? <;> rfl

end Call

end WriteBarrier
