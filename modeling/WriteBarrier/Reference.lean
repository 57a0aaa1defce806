import WriteBarrier.Address.Arithmetic

/-!
References to heap objects. A reference is a word-aligned address other than zero; a field that
may hold null is an optional reference.
-/

namespace WriteBarrier

/-- The address of a heap object. -/
structure ObjectRef where
  address : Address
  nonnull : address ≠ Address.zero
  aligned : address.isWordAligned = true
  deriving DecidableEq

namespace ObjectRef

/-- Objects are word aligned. -/
def alignment : Word := Word.bytes

/-- The reference stored as the word `address`: none for zero. A word that is not aligned is no
reference at all. -/
def ofAddress (address : Address) : Except Fault (Option ObjectRef) :=
  if aligned : address.isWordAligned = true then
    if null : address = Address.zero then .ok none else .ok (some ⟨address, null, aligned⟩)
  else .error (.unalignedReference address)

def text (o : ObjectRef) : String := o.address.text

/-- References are ordered like their addresses, and null comes first. -/
def compareOptional : Option ObjectRef → Option ObjectRef → Ordering
  | none, none => .eq
  | none, some _ => .lt
  | some _, none => .gt
  | some a, some b => compare a.address b.address

@[ext] theorem ext {a b : ObjectRef} (h : a.address = b.address) : a = b := by
  cases a; cases b; cases h; rfl

theorem ofAddress_address (o : ObjectRef) : ofAddress o.address = .ok (some o) := by
  simp [ofAddress, o.aligned, o.nonnull]

theorem ofAddress_zero : ofAddress Address.zero = .ok none := by
  simp [ofAddress, Address.zero, Address.isWordAligned, Address.isAlignedTo, Word.isAligned]

end ObjectRef

/-- A pointer to compiled code. It is recorded and compared, never looked into. -/
structure CodePointer where
  address : Address
  deriving DecidableEq

namespace CodePointer

/-- The pointer that refers to no code. -/
def null : CodePointer := ⟨.zero⟩

def isNull (p : CodePointer) : Bool := p == null

def describe (p : CodePointer) : String := s!"VMCompiledMethod(OpaquePointer({p.address.text}))"

end CodePointer

end WriteBarrier
