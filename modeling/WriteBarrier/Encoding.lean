import WriteBarrier.Reference

/-!
How reference slots are laid out: as full words, or as 32-bit narrow values relative to a heap
base. The narrow value 0 is null, and every other value `n` stands for `base + (n <<< shift)`.
-/

namespace WriteBarrier

/-- The heap base and the shift that expand a narrow value to an address. -/
structure NarrowEncoding where
  base : Address
  shift : UInt8
  deriving DecidableEq

namespace NarrowEncoding

/-- Objects aligned to 8 bytes in a heap that starts at address zero. -/
def zeroBased : NarrowEncoding := ⟨.zero, 3⟩

/-- Compress a reference. The distance from the base must be a multiple of the unit that the shift
gives, and must fit in 32 bits once it is shifted. -/
def encode (e : NarrowEncoding) (o : ObjectRef) : Except Fault UInt32 := do
  let offset ← o.address.distanceFrom e.base
  let unit ← Word.shifted 1 e.shift
  if offset &&& (unit - 1) ≠ 0 then throw (.unshiftable o.address e.shift)
  let narrow := offset >>> e.shift.toUInt64
  if narrow ≤ 0xffffffff then return narrow.toUInt32
  throw (.outOfReach o.address e.base)

/-- Expand a narrow value. -/
def decode (e : NarrowEncoding) (narrow : UInt32) : Except Fault (Option ObjectRef) :=
  if narrow = 0 then .ok none else do
    let offset ← Word.shifted narrow.toUInt64 e.shift
    let address ← e.base.above offset
    ObjectRef.ofAddress address

def describe (e : NarrowEncoding) : String :=
  s!"NarrowOopEncoding \x7b base: {e.base.text}, shift: {e.shift.toNat} \x7d"

theorem decode_zero (e : NarrowEncoding) : e.decode 0 = .ok none := rfl

end NarrowEncoding

/-- The layout of every reference slot of a heap. -/
inductive Encoding where
  /-- A slot is a word that holds the address. -/
  | full
  /-- A slot is a 32-bit narrow value. -/
  | narrow (e : NarrowEncoding)
  deriving DecidableEq

namespace Encoding

/-- The size of a slot in bytes. -/
def width : Encoding → Word
  | full => 8
  | narrow _ => 4

def isNarrow : Encoding → Bool
  | full => false
  | narrow _ => true

theorem width_pos (e : Encoding) : 0 < e.width.toNat := by cases e <;> simp [width]

def describe : Encoding → String
  | full => "Full"
  | narrow e => s!"Compressed({e.describe})"

end Encoding

end WriteBarrier
