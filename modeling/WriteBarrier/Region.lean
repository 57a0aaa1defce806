import WriteBarrier.Address.Arithmetic

/-!
Regions of the heap: ranges of bytes given by a start and a size. The end of a region is computed
when it is needed and may lie outside the address space; every operation that looks at it stops
then. A region is read as the set of its addresses through `a ∈ r`.
-/

namespace WriteBarrier

/-- The bytes from `start` on, `size` of them. -/
structure Region where
  start : Address
  size : Word
  deriving DecidableEq, Inhabited

namespace Region

/-- The empty region at address zero. -/
def empty : Region := ⟨.zero, 0⟩

/-- The addresses of a region, computed without a word's limit. -/
instance : Membership Address Region :=
  ⟨fun r a => r.start ≤ a ∧ a.toNat < r.start.toNat + r.size.toNat⟩

instance (a : Address) (r : Region) : Decidable (a ∈ r) :=
  inferInstanceAs (Decidable (r.start ≤ a ∧ a.toNat < r.start.toNat + r.size.toNat))

/-- The end of the region is an address. -/
def Bounded (r : Region) : Prop := r.start.toNat + r.size.toNat < 2 ^ 64

instance (r : Region) : Decidable r.Bounded :=
  inferInstanceAs (Decidable (r.start.toNat + r.size.toNat < 2 ^ 64))

/-- The region of the addresses from `start` up to, but not including, `stop`. -/
def between (start stop : Address) : Except Fault Region :=
  if start ≤ stop then .ok ⟨start, stop.val - start.val⟩ else .error (.invertedRegion start stop)

def isEmpty (r : Region) : Bool := r.size == 0

/-- The address just past the last byte. -/
def stop (r : Region) : Except Fault Address := r.start.above r.size

/-- The last byte of a region that is not empty. -/
def last (r : Region) : Except Fault Address :=
  if r.isEmpty then .error .noLastByte else do
    let stop ← r.stop
    stop.below 1

/-- The size in words, rounded up. -/
def words (r : Region) : Except Fault Word := Word.wordsFor r.size

/-- Is `a` an address of the region? The end is looked at only if `a` is not below the start. -/
def containsAddress (r : Region) (a : Address) : Except Fault Bool :=
  if r.start ≤ a then do
    let stop ← r.stop
    return decide (a < stop)
  else .ok false

/-- Does `other` lie within the region? An empty region lies within every region. -/
def contains (r other : Region) : Except Fault Bool :=
  if other.isEmpty then .ok true
  else if r.start ≤ other.start then do
    let otherStop ← other.stop
    let stop ← r.stop
    return decide (otherStop ≤ stop)
  else .ok false

/-- The overlap of two regions. Without one, an empty region at the higher of the two starts. -/
def intersection (r other : Region) : Except Fault Region := do
  let start := max r.start other.start
  let stop := min (← r.stop) (← other.stop)
  if start < stop then between start stop else return ⟨start, 0⟩

/-- The smallest region that covers two regions which overlap or touch. The end of the first is
looked at only if it does not start above the second. -/
def union (r other : Region) : Except Fault Region :=
  if r.isEmpty then .ok other
  else if other.isEmpty then .ok r
  else do
    let apart := Fault.disjointUnion r.start r.size other.start other.size
    let otherStop ← other.stop
    if r.start ≤ otherStop then
      let stop ← r.stop
      if other.start ≤ stop then between (min r.start other.start) (max stop otherStop)
      else throw apart
    else throw apart

/-- Grow the region until both ends are multiples of `align`. -/
def alignOutward (r : Region) (align : Word) : Except Fault Region := do
  let stop ← r.stop
  between (r.start.alignDown align) (stop.alignUp align)

/-- A region as it is shown to a user. -/
def text (r : Region) : Except Fault String := return Fault.range r.start (← r.stop)

/-- A region as it appears in diagnostics. -/
def describe (r : Region) : Except Fault String := return "MemRegion" ++ (← r.text)

theorem stop_eq_ok {r : Region} {a : Address} :
    r.stop = .ok a ↔ r.start.toNat + r.size.toNat = a.toNat := Address.above_eq_ok

theorem text_eq_ok {r : Region} {s : String} :
    r.text = .ok s ↔ Fault.extent? r.start r.size = some s := by
  have hstop : r.text = r.stop >>= fun stop => .ok (Fault.range r.start stop) := rfl
  rw [hstop, Fault.extent?]
  split
  · rename_i hfits
    have hend : r.stop = .ok ⟨r.start.val + r.size⟩ := by
      rw [stop_eq_ok]
      simp only [Address.toNat, UInt64.toNat_add] at hfits ⊢
      omega
    rw [hend]
    constructor
    · rintro ⟨⟩; rfl
    · rintro ⟨⟩; rfl
  · rename_i hfits
    cases hend : r.stop with
    | error fault => simp [bind, Except.bind]
    | ok stop =>
      have hsum := stop_eq_ok.1 hend
      exact absurd (hsum ▸ stop.val.toNat_lt) hfits

theorem mem_iff {r : Region} {a : Address} :
    a ∈ r ↔ r.start.toNat ≤ a.toNat ∧ a.toNat < r.start.toNat + r.size.toNat := by
  rw [← Address.le_iff_toNat]; rfl

end Region

end WriteBarrier
