import WriteBarrier.Encoding
import WriteBarrier.Memory

/-!
Reference slots. A slot points to a place in memory that holds a reference, either as a full word
or as a narrow value; loading decodes the place and storing encodes into it.
-/

namespace WriteBarrier

/-- A place that holds a reference. -/
inductive Slot where
  /-- A word that holds an address. -/
  | full (address : Address)
  /-- A 32-bit narrow value. -/
  | narrow (address : Address) (encoding : NarrowEncoding)
  deriving DecidableEq

namespace Slot

def address : Slot → Address
  | full a => a
  | narrow a _ => a

def encoding : Slot → Encoding
  | full _ => .full
  | narrow _ e => .narrow e

def isNarrow : Slot → Bool
  | full _ => false
  | narrow _ _ => true

/-- The reference in the slot; none if it holds null. -/
def load (s : Slot) (m : Memory) : Except Fault (Option ObjectRef) :=
  match s with
  | full a => ObjectRef.ofAddress ⟨m.load64 a⟩
  | narrow a e => e.decode (m.load32 a)

/-- The memory after `o` is stored in the slot. A reference that cannot be encoded is not
stored. -/
def store (s : Slot) (o : ObjectRef) (m : Memory) : Except Fault Memory :=
  match s with
  | full a => .ok (m.store64 a o.address.val)
  | narrow a e => do
    let narrow ← e.encode o
    return m.store32 a narrow

def access (s : Slot) : Access := ⟨s.address, s.encoding.width.toNat, s.encoding.width⟩

def describe : Slot → String
  | full a => s!"Full(SimpleSlot \x7b slot_addr: {a.text} \x7d)"
  | narrow a e =>
    s!"Compressed(CompressedOopSlot \x7b slot_addr: {a.text}, encoding: {e.describe} \x7d)"

end Slot

namespace Encoding

/-- The slot of this layout at an address. -/
def slotAt : Encoding → Address → Slot
  | full, a => .full a
  | narrow e, a => .narrow a e

theorem address_slotAt (e : Encoding) (a : Address) : (e.slotAt a).address = a := by
  cases e <;> rfl

theorem encoding_slotAt (e : Encoding) (a : Address) : (e.slotAt a).encoding = e := by
  cases e <;> rfl

end Encoding

end WriteBarrier
