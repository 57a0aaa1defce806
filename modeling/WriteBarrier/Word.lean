import WriteBarrier.Fault

/-!
Arithmetic on machine words: the sums, differences, products and shifts that stop when the result
does not fit, and the bit formulas that round a word to a multiple of a power of two. The bit
formulas wrap, so rounding up near the top of the address space gives zero.
-/

namespace WriteBarrier.Word

def bytes : Word := 8

def logBytes : Word := 3

/-- A sum that must fit in a word. -/
def sum (a b : Word) : Except Fault Word :=
  if a.toNat + b.toNat < 2 ^ 64 then .ok (a + b) else .error .sumOverflow

/-- A difference that must not be negative. -/
def difference (a b : Word) : Except Fault Word :=
  if b ≤ a then .ok (a - b) else .error .differenceOverflow

/-- A product that must fit in a word. -/
def product (a b : Word) : Except Fault Word :=
  if a.toNat * b.toNat < 2 ^ 64 then .ok (a * b) else .error .productOverflow

/-- A left shift by less than the width of a word; bits shifted out are lost. -/
def shifted (a : Word) (count : UInt8) : Except Fault Word :=
  if count < 64 then .ok (a <<< count.toUInt64) else .error .shiftOverflow

/-- Round `val` up to a multiple of `align`. -/
def alignUp (val align : Word) : Word := (val + align - 1) &&& ~~~(align - 1)

/-- Round `val` down to a multiple of `align`. -/
def alignDown (val align : Word) : Word := val &&& ~~~(align - 1)

/-- Is `val` a multiple of `align`? -/
def isAligned (val align : Word) : Bool := val &&& (align - 1) == 0

/-- The number of words needed to hold `size` bytes. -/
def wordsFor (size : Word) : Except Fault Word := do
  let padded ← sum size bytes
  return (padded - 1) >>> logBytes

theorem sum_eq_ok {a b c : Word} : sum a b = .ok c ↔ a.toNat + b.toNat = c.toNat := by
  have hc := c.toNat_lt
  unfold sum
  split
  · rw [Except.ok.injEq, ← UInt64.toNat_inj, UInt64.toNat_add]; omega
  · simp only [reduceCtorEq, false_iff]; omega

theorem sum_eq_error {a b : Word} {f : Fault} :
    sum a b = .error f ↔ f = .sumOverflow ∧ 2 ^ 64 ≤ a.toNat + b.toNat := by
  unfold sum
  split
  · simp only [reduceCtorEq, false_iff]; omega
  · simp only [Except.error.injEq]; constructor
    · rintro rfl; exact ⟨rfl, by omega⟩
    · rintro ⟨rfl, -⟩; rfl

theorem product_eq_ok {a b c : Word} : product a b = .ok c ↔ a.toNat * b.toNat = c.toNat := by
  have hc := c.toNat_lt
  unfold product
  split
  · rename_i h
    rw [Except.ok.injEq, ← UInt64.toNat_inj, UInt64.toNat_mul, Nat.mod_eq_of_lt h]
  · simp only [reduceCtorEq, false_iff]; omega

end WriteBarrier.Word
