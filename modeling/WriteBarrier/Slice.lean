import WriteBarrier.Slot

/-!
Slices: the destination of a bulk store, a number of consecutive slots of one layout. A cursor
walks over the slots in address order, and the covering region is the smallest run of whole words
around them.
-/

namespace WriteBarrier

/-- `count` consecutive slots from `start` on. -/
structure Slice where
  start : Address
  count : Word
  encoding : Encoding
  deriving DecidableEq

/-- A position between the slots of a slice. -/
structure SlotCursor where
  position : Address
  limit : Address
  encoding : Encoding
  deriving DecidableEq

namespace SlotCursor

/-- The slot at the cursor and the cursor behind it; none once the limit is reached. -/
def next (c : SlotCursor) : Except Fault (Option (Slot × SlotCursor)) :=
  if c.position < c.limit then do
    let after ← c.position.above c.encoding.width
    return some (c.encoding.slotAt c.position, { c with position := after })
  else .ok none

/-- The number of bytes that the cursor has not passed. -/
def remaining (c : SlotCursor) : Nat := c.limit.toNat - c.position.toNat

theorem remaining_lt_of_next {c after : SlotCursor} {s : Slot}
    (h : c.next = .ok (some (s, after))) : after.remaining < c.remaining := by
  unfold next at h
  split at h
  · rename_i hlt
    have hlt := Address.lt_iff_toNat.mp hlt
    cases hup : c.position.above c.encoding.width with
    | error f => simp [hup, bind, Except.bind] at h
    | ok a =>
      simp only [hup, bind, Except.bind, pure, Except.pure, Except.ok.injEq, Option.some.injEq,
        Prod.mk.injEq] at h
      obtain ⟨-, rfl⟩ := h
      have hmove := Address.above_eq_ok.mp hup
      have hwidth := c.encoding.width_pos
      simp only [remaining]
      omega
  · simp at h

/-- The slots from the cursor to the limit, appended to `seen`. -/
def collect (c : SlotCursor) (seen : Array Slot) : Except Fault (Array Slot) :=
  match _moved : c.next with
  | .error f => .error f
  | .ok none => .ok seen
  | .ok (some (s, after)) => after.collect (seen.push s)
termination_by c.remaining
decreasing_by exact remaining_lt_of_next _moved

/-- The next `n` slots, or fewer if the limit is reached before. -/
def take : Nat → SlotCursor → Except Fault (List Slot)
  | 0, _ => .ok []
  | n + 1, c => do
    match ← c.next with
    | none => return []
    | some (s, after) => return s :: (← after.take n)

/-- The cursor after `n` steps. -/
def drop : Nat → SlotCursor → Except Fault SlotCursor
  | 0, c => .ok c
  | n + 1, c => do
    match ← c.next with
    | none => return c
    | some (_, after) => after.drop n

end SlotCursor

namespace Slice

def isEmpty (s : Slice) : Bool := s.count == 0

def bytes (s : Slice) : Except Fault Word := Word.product s.count s.encoding.width

/-- The address just past the last slot. -/
def stop (s : Slice) : Except Fault Address := do s.start.above (← s.bytes)

/-- The smallest region of whole words that contains every slot. Narrow slots may start and end in
the middle of a word, so the start is rounded down and the end up. -/
def coveringRegion (s : Slice) : Except Fault Region := do
  let stop ← s.stop
  Region.between s.start.wordDown stop.wordUp

/-- The cursor before the first slot. -/
def cursor (s : Slice) : Except Fault SlotCursor := return ⟨s.start, ← s.stop, s.encoding⟩

/-- The slots in address order. -/
def slots (s : Slice) : Except Fault (List Slot) := do
  let found ← (← s.cursor).collect #[]
  return found.toList

/-- The `i`-th slot, found by its position alone. -/
def slot (s : Slice) (i : Nat) : Slot :=
  s.encoding.slotAt ⟨s.start.val + UInt64.ofNat i * s.encoding.width⟩

/-- The bytes of all slots. -/
def access (s : Slice) : Access :=
  ⟨s.start, s.count.toNat * s.encoding.width.toNat, s.encoding.width⟩

/-- The bytes that a walk over the slots reaches; none if there are no slots, or if the walk does
not begin since they do not fit in the address space. -/
def access? (s : Slice) : Option Access :=
  if s.isEmpty then none else
    match s.stop with
    | .ok _ => some s.access
    | .error _ => none

def describe (s : Slice) : String :=
  s!"RefSlice \x7b start: {s.start.text}, count: {s.count.toNat}, " ++
    s!"encoding: {s.encoding.describe} \x7d"

end Slice

end WriteBarrier
