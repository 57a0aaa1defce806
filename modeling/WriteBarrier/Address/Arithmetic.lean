import WriteBarrier.Word

/-!
Moving, measuring and aligning addresses.
-/

namespace WriteBarrier.Address

/-- The address `size` bytes above `a`. -/
def above (a : Address) (size : Word) : Except Fault Address := Address.mk <$> Word.sum a.val size

/-- The address `size` bytes below `a`. -/
def below (a : Address) (size : Word) : Except Fault Address :=
  Address.mk <$> Word.difference a.val size

/-- The distance in bytes from `base` up to `a`. -/
def distanceFrom (a base : Address) : Except Fault Word :=
  if base ≤ a then .ok (a.val - base.val) else .error (.negativeDistance base a)

def alignUp (a : Address) (align : Word) : Address := ⟨Word.alignUp a.val align⟩

def alignDown (a : Address) (align : Word) : Address := ⟨Word.alignDown a.val align⟩

def isAlignedTo (a : Address) (align : Word) : Bool := Word.isAligned a.val align

/-- The start of the word that holds the byte at `a`. -/
def wordDown (a : Address) : Address := a.alignDown Word.bytes

/-- The first word boundary at or above `a`. -/
def wordUp (a : Address) : Address := a.alignUp Word.bytes

def isWordAligned (a : Address) : Bool := a.isAlignedTo Word.bytes

theorem above_eq_ok {a b : Address} {size : Word} :
    a.above size = .ok b ↔ a.toNat + size.toNat = b.toNat := by
  have hb := b.toNat_lt
  cases h : Word.sum a.val size with
  | error f =>
    have hover := (Word.sum_eq_error.mp h).2
    have hfail : a.above size = .error f := by simp [above, h, Functor.map, Except.map]
    rw [hfail]
    simp only [reduceCtorEq, false_iff, toNat] at hb ⊢
    omega
  | ok w =>
    have hsum := Word.sum_eq_ok.mp h
    have hdone : a.above size = .ok ⟨w⟩ := by simp [above, h, Functor.map, Except.map]
    rw [hdone, Except.ok.injEq]
    constructor
    · rintro rfl; exact hsum
    · exact fun hab => ext_toNat (hsum.symm.trans hab)

end WriteBarrier.Address
