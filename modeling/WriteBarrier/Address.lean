import WriteBarrier.Text.Hexadecimal

/-!
Machine words and addresses. An address names a field, an array element or a region boundary; it
is ordered like its word and written in hexadecimal.
-/

namespace WriteBarrier

/-- Powers of numbers are the built-in ones, also where powers of an algebra are in scope. -/
@[default_instance 20000]
instance (priority := high) natPow : Pow Nat Nat := instPowNat

/-- A 64-bit machine word: a size, a count or the content of a full-width slot. -/
abbrev Word := UInt64

/-- A raw machine address. -/
structure Address where
  val : Word
  deriving DecidableEq, Inhabited

namespace Address

def zero : Address := ⟨0⟩

instance : LE Address := ⟨fun a b => a.val ≤ b.val⟩
instance : LT Address := ⟨fun a b => a.val < b.val⟩
instance (a b : Address) : Decidable (a ≤ b) := inferInstanceAs (Decidable (a.val ≤ b.val))
instance (a b : Address) : Decidable (a < b) := inferInstanceAs (Decidable (a.val < b.val))
instance : Ord Address := ⟨fun a b => compare a.val b.val⟩
instance : Min Address := minOfLe
instance : Max Address := maxOfLe

/-- The position of an address among the numbers below 2^64. -/
def toNat (a : Address) : Nat := a.val.toNat

/-- An address is written as a hexadecimal word. -/
def text (a : Address) : String := Text.hexadecimal a.toNat

theorem le_iff_toNat {a b : Address} : a ≤ b ↔ a.toNat ≤ b.toNat := UInt64.le_iff_toNat_le

theorem lt_iff_toNat {a b : Address} : a < b ↔ a.toNat < b.toNat := UInt64.lt_iff_toNat_lt

theorem toNat_lt (a : Address) : a.toNat < 2 ^ 64 := a.val.toNat_lt

theorem ext_toNat {a b : Address} (h : a.toNat = b.toNat) : a = b := by
  cases a; cases b; exact congrArg Address.mk (UInt64.toNat_inj.mp h)

end Address

end WriteBarrier
