import WriteBarrier.Region

/-!
Byte-addressed memory. Words and half words are stored with the low byte first. Reading back a
stored value gives that value, and a store leaves the bytes outside its range alone.
-/

namespace WriteBarrier

/-- The number of bytes from `a` up to `x`, around the end of the address space if `x` lies
below `a`. -/
def Address.stepsTo (a x : Address) : Nat := (x.val - a.val).toNat

/-- The address one byte up. -/
def Address.next (a : Address) : Address := ⟨a.val + 1⟩

/-- The content of every byte of the address space. -/
structure Memory where
  byte : Address → UInt8

namespace Memory

def zeroed : Memory := ⟨fun _ => 0⟩

/-- The number held by the `n` bytes from `a` on, low byte first. -/
def load (m : Memory) (a : Address) : Nat → Nat
  | 0 => 0
  | n + 1 => (m.byte a).toNat + 256 * m.load a.next n

/-- Write the `n` low bytes of `value` from `a` on, low byte first. -/
def store (m : Memory) (a : Address) (n value : Nat) : Memory :=
  ⟨fun x =>
    let i := a.stepsTo x
    if i < n then UInt8.ofNat (value / 256 ^ i) else m.byte x⟩

def load32 (m : Memory) (a : Address) : UInt32 := UInt32.ofNat (m.load a 4)

def load64 (m : Memory) (a : Address) : Word := UInt64.ofNat (m.load a 8)

def store32 (m : Memory) (a : Address) (value : UInt32) : Memory := m.store a 4 value.toNat

def store64 (m : Memory) (a : Address) (value : Word) : Memory := m.store a 8 value.toNat

end Memory

namespace Address

theorem stepsTo_self (a : Address) : a.stepsTo a = 0 := by simp [stepsTo]

theorem stepsTo_next {a x : Address} (h : a.next.stepsTo x + 1 < 2 ^ 64) :
    a.stepsTo x = a.next.stepsTo x + 1 := by
  have hx := x.val.toNat_lt
  have ha := a.val.toNat_lt
  simp only [stepsTo, next, UInt64.toNat_sub, UInt64.toNat_add, UInt64.toNat_one] at h ⊢
  omega

end Address

namespace Memory

theorem byte_store_of_lt {m : Memory} {a x : Address} {n value : Nat} (h : a.stepsTo x < n) :
    (m.store a n value).byte x = UInt8.ofNat (value / 256 ^ a.stepsTo x) := by
  simp [store, h]

theorem byte_store_of_le {m : Memory} {a x : Address} {n value : Nat} (h : n ≤ a.stepsTo x) :
    (m.store a n value).byte x = m.byte x := by
  simp [store, Nat.not_lt.mpr h]

theorem load_congr {m m' : Memory} {a : Address} {n : Nat} (hn : n ≤ 2 ^ 64)
    (h : ∀ x, a.stepsTo x < n → m.byte x = m'.byte x) : m.load a n = m'.load a n := by
  induction n generalizing a with
  | zero => rfl
  | succ n ih =>
    have hhead : m.byte a = m'.byte a := h a (by simp [Address.stepsTo_self])
    have htail : m.load a.next n = m'.load a.next n := by
      refine ih (by omega) fun x hx => h x ?_
      rw [Address.stepsTo_next (by omega)]
      omega
    simp [load, hhead, htail]

theorem load_eq_of_bytes {m : Memory} {a : Address} {n value : Nat} (hn : n ≤ 2 ^ 64)
    (h : ∀ x, a.stepsTo x < n → (m.byte x).toNat = value / 256 ^ a.stepsTo x % 256) :
    m.load a n = value % 256 ^ n := by
  induction n generalizing a value with
  | zero => simp [load, Nat.mod_one]
  | succ n ih =>
    have hhead : (m.byte a).toNat = value % 256 := by
      simpa [Address.stepsTo_self] using h a (by simp [Address.stepsTo_self])
    have htail : m.load a.next n = value / 256 % 256 ^ n := by
      refine ih (by omega) fun x hx => ?_
      have hstep := Address.stepsTo_next (a := a) (x := x) (by omega)
      rw [h x (by omega), hstep, Nat.pow_succ', Nat.div_div_eq_div_mul]
    rw [load, hhead, htail, Nat.pow_succ', Nat.mod_mul]

/-- The bytes that were stored are read back. -/
theorem load_store_self (m : Memory) (a : Address) {n : Nat} (hn : n ≤ 2 ^ 64) (value : Nat) :
    (m.store a n value).load a n = value % 256 ^ n :=
  load_eq_of_bytes hn fun x hx => by rw [byte_store_of_lt hx]; simp

/-- A store does not change what is read from other bytes. -/
theorem load_store_of_apart {m : Memory} {a b : Address} {n k value : Nat} (hn : n ≤ 2 ^ 64)
    (h : ∀ x, a.stepsTo x < n → k ≤ b.stepsTo x) : (m.store b k value).load a n = m.load a n :=
  load_congr hn fun x hx => byte_store_of_le (h x hx)

theorem load32_store32 (m : Memory) (a : Address) (value : UInt32) :
    (m.store32 a value).load32 a = value := by
  have hv := value.toNat_lt
  rw [load32, store32, load_store_self m a (by decide), Nat.mod_eq_of_lt (by omega)]
  simp

theorem load64_store64 (m : Memory) (a : Address) (value : Word) :
    (m.store64 a value).load64 a = value := by
  have hv := value.toNat_lt
  rw [load64, store64, load_store_self m a (by decide), Nat.mod_eq_of_lt (by omega)]
  simp

end Memory

/-- The bytes that an operation on memory touches: `size` bytes from `start` on, in units of
`width` bytes. They may be more than an address space holds. -/
structure Access where
  start : Address
  size : Nat
  width : Word
  deriving DecidableEq

namespace Access

/-- The access stays in the mapped region and starts at a multiple of its unit. -/
def Mapped (region : Region) (x : Access) : Prop :=
  region.start ≤ x.start ∧
    x.start.toNat + x.size ≤ region.start.toNat + region.size.toNat ∧
    x.start.isAlignedTo x.width

instance (region : Region) (x : Access) : Decidable (x.Mapped region) :=
  inferInstanceAs (Decidable (_ ∧ _ ∧ _))

end Access

end WriteBarrier
