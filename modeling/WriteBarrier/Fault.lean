import WriteBarrier.Address
import WriteBarrier.Kind

/-!
The ways in which an operation can stop. A fault carries its cause as data, and
`Fault.message?` is the one place that words it. A fault that shows a region without an end has no
message; such a fault ends the machine.
-/

namespace WriteBarrier

/-- Why an operation stopped. -/
inductive Fault where
  /-- A sum needs more than 64 bits. -/
  | sumOverflow
  /-- A difference is below zero. -/
  | differenceOverflow
  /-- A product needs more than 64 bits. -/
  | productOverflow
  /-- A shift by at least the width of a word. -/
  | shiftOverflow
  /-- The distance from `upper` up to `lower` was asked for, but `lower` is the lower address. -/
  | negativeDistance (upper lower : Address)
  /-- An object reference that is not word aligned. -/
  | unalignedReference (address : Address)
  /-- A region that would start above its end. -/
  | invertedRegion (start stop : Address)
  /-- The last byte of an empty region. -/
  | noLastByte
  /-- Two regions with a gap between them have no union. -/
  | disjointUnion (start₁ : Address) (size₁ : Word) (start₂ : Address) (size₂ : Word)
  /-- An object whose distance from the heap base loses bits under the shift. -/
  | unshiftable (object : Address) (shift : UInt8)
  /-- An object too far above the heap base for a 32-bit narrow reference. -/
  | outOfReach (object base : Address)
  /-- A tag set over an enumeration with more values than a word has bits. -/
  | tooManyTags
  /-- No value of an enumeration has the index. -/
  | noSuchTag
  /-- An array of full-width references whose start is not word aligned. -/
  | unalignedArray (start : Address)
  /-- A barrier set of another type than the one asked for. -/
  | wrongType (expected found : Kind)
  /-- A printer that gave up although its output accepted everything. -/
  | unprintable
  /-- A name that is no option's. -/
  | unknownOption (name : String)
  /-- The write-once cell holds no value. -/
  | unsetCell
  /-- The write-once cell was given up after a failed initializer. -/
  | poisonedCell
  /-- An initializer failed with a message of its own. -/
  | failedInitializer (message : String)
  /-- There is no installed barrier set. -/
  | notInstalled
  /-- A second barrier set cannot be installed. -/
  | alreadyInstalled (rejected installed : Kind)
  /-- A covered region whose ends do not satisfy the granularity of the barrier set. -/
  | misalignedCover (start : Address) (size : Word) (kind : Kind)
  /-- A barrier set kept the first region when it was told to cover the second. -/
  | coverNotTaken (start₁ : Address) (size₁ : Word) (start₂ : Address) (size₂ : Word)
  /-- A static entry point was given more references than an address space holds. -/
  | countTooLarge (count : Word)
  deriving DecidableEq

namespace Fault

/-- A range of addresses as messages show it, closed below and open above. -/
def range (start stop : Address) : String := s!"[{start.text}, {stop.text})"

/-- The `size` bytes from `start` on as messages show them; none if they have no end. -/
def extent? (start : Address) (size : Word) : Option String :=
  if start.toNat + size.toNat < 2 ^ 64 then some (range start ⟨start.val + size⟩) else none

/-- The words for a fault; none if a region in them has no end. -/
def message? : Fault → Option String
  | sumOverflow => "attempt to add with overflow"
  | differenceOverflow => "attempt to subtract with overflow"
  | productOverflow => "attempt to multiply with overflow"
  | shiftOverflow => "attempt to shift left with overflow"
  | negativeDistance upper lower =>
    s!"cannot subtract {upper.text} from the lower address {lower.text}"
  | unalignedReference address => s!"unaligned object reference {address.text}"
  | invertedRegion start stop =>
    s!"invalid region: start {start.text} is above end {stop.text}"
  | noLastByte => "assertion failed: !self.is_empty()"
  | disjointUnion start₁ size₁ start₂ size₂ => do
    let first ← extent? start₁ size₁
    let second ← extent? start₂ size₂
    return s!"the union of {first} and {second} is not contiguous"
  | unshiftable object shift =>
    s!"{object.text} is not aligned to the narrow reference shift {shift.toNat}"
  | outOfReach object base => s!"{object.text} cannot be encoded relative to {base.text}"
  | tooManyTags => "assertion failed: T::LENGTH <= TagSet::BITS as usize"
  | noSuchTag => "index out of range for Enum::from_usize"
  | unalignedArray start => s!"unaligned array of full references at {start.text}"
  | wrongType expected found =>
    s!"wrong type of barrier set: expected {expected.name}, found {found.name}"
  | unprintable =>
    "a formatting trait implementation returned an error when the underlying stream did not: Error"
  | unknownOption name => s!"Invalid Options key: {name}"
  | unsetCell => "assertion failed: self.once.is_completed()"
  | poisonedCell => "Once instance has previously been poisoned"
  | failedInitializer message => message
  | notInstalled =>
    "no barrier set is installed. Call memory_manager::install_barrier_set() first."
  | alreadyInstalled rejected installed =>
    s!"cannot install barrier set {rejected.name}: barrier set {installed.name} is already installed"
  | misalignedCover start size kind => do
    let region ← extent? start size
    return s!"covered region {region} is not aligned for barrier set {kind.name}"
  | coverNotTaken start₁ size₁ start₂ size₂ => do
    let left ← extent? start₁ size₁
    let right ← extent? start₂ size₂
    return "assertion \x60left == right\x60 failed\n" ++
      s!"  left: MemRegion{left}\n right: MemRegion{right}"
  | countTooLarge count => s!"reference count {count.toNat} is too large"

end Fault

end WriteBarrier
