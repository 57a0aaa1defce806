import Mathlib.Tactic.Lemma
import WriteBarrier.Address.Arithmetic

/-!
# Word arithmetic

The bit formulas on words read as arithmetic on the numbers below 2^64: a mask is a remainder, a
shift is a product or a quotient by a power of two, and rounding keeps the quotient.
-/

namespace WriteBarrier

instance {α : Type} [DecidableEq α] : DecidableEq (Except Fault α)
  | .ok a, .ok b => decidable_of_iff (a = b) ⟨congrArg Except.ok, Except.ok.inj⟩
  | .error f, .error g => decidable_of_iff (f = g) ⟨congrArg Except.error, Except.error.inj⟩
  | .ok _, .error _ => isFalse nofun
  | .error _, .ok _ => isFalse nofun

lemma bind_eq_ok {α β : Type} {x : Except Fault α} {f : α → Except Fault β} {b : β} :
    (x >>= f) = .ok b ↔ ∃ a, x = .ok a ∧ f a = .ok b := by
  cases x with
  | error fault => simp [bind, Except.bind]
  | ok a => simp [bind, Except.bind]

lemma bind_eq_error {α β : Type} {x : Except Fault α} {f : α → Except Fault β} {fault : Fault} :
    (x >>= f) = .error fault ↔ x = .error fault ∨ ∃ a, x = .ok a ∧ f a = .error fault := by
  cases x with
  | error other => simp [bind, Except.bind]
  | ok a => simp [bind, Except.bind]

lemma exists_eq_error_iff {x : Except Fault Unit} : (∃ fault, x = .error fault) ↔ ¬x = .ok () := by
  cases x with
  | error fault => simp
  | ok => simp

namespace Word

lemma exists_toNat_eq {n : Nat} (h : n < 2 ^ 64) : ∃ w : Word, w.toNat = n :=
  ⟨UInt64.ofNat n, UInt64.toNat_ofNat_of_lt' h⟩

lemma product_eq_error {a b : Word} {fault : Fault} :
    product a b = .error fault ↔ fault = .productOverflow ∧ 2 ^ 64 ≤ a.toNat * b.toNat := by
  unfold product
  split
  · rename_i hfits
    simp only [reduceCtorEq, false_iff, not_and]
    exact fun _ => Nat.not_le_of_lt hfits
  · rename_i hover
    rw [Except.error.injEq, eq_comm]
    exact (and_iff_left (Nat.le_of_not_lt hover)).symm

lemma toNat_and_sub_one {val align : Word} {k : Nat} (hk : align.toNat = 2 ^ k) :
    (val &&& (align - 1)).toNat = val.toNat % 2 ^ k := by
  have hone : (1 : Word) ≤ align := by
    rw [UInt64.le_iff_toNat_le, hk]
    exact Nat.one_le_two_pow
  rw [UInt64.toNat_and, UInt64.toNat_sub_of_le _ _ hone, hk]
  exact Nat.and_two_pow_sub_one_eq_mod val.toNat k

lemma and_sub_one_eq_zero_iff {val align : Word} {k : Nat} (hk : align.toNat = 2 ^ k) :
    val &&& (align - 1) = 0 ↔ 2 ^ k ∣ val.toNat := by
  rw [← UInt64.toNat_inj, toNat_and_sub_one hk, UInt64.toNat_zero, Nat.dvd_iff_mod_eq_zero]

lemma isAligned_iff_dvd {val align : Word} {k : Nat} (hk : align.toNat = 2 ^ k) :
    isAligned val align = true ↔ 2 ^ k ∣ val.toNat := by
  rw [isAligned, beq_iff_eq, and_sub_one_eq_zero_iff hk]

lemma toNat_shiftLeft {a : Word} {count : UInt8} (h : count.toNat < 64) :
    (a <<< count.toUInt64).toNat = a.toNat * 2 ^ count.toNat % 2 ^ 64 := by
  rw [UInt64.toNat_shiftLeft, UInt8.toNat_toUInt64, Nat.mod_eq_of_lt h, Nat.shiftLeft_eq]

lemma toNat_shiftRight {a : Word} {count : UInt8} (h : count.toNat < 64) :
    (a >>> count.toUInt64).toNat = a.toNat / 2 ^ count.toNat := by
  rw [UInt64.toNat_shiftRight, UInt8.toNat_toUInt64, Nat.mod_eq_of_lt h, Nat.shiftRight_eq_div_pow]

lemma shifted_eq_ok {a c : Word} {count : UInt8} :
    shifted a count = .ok c ↔
      count.toNat < 64 ∧ c.toNat = a.toNat * 2 ^ count.toNat % 2 ^ 64 := by
  unfold shifted
  split
  · rename_i hcount
    have hlt : count.toNat < 64 := UInt8.lt_iff_toNat_lt.mp hcount
    rw [Except.ok.injEq, ← UInt64.toNat_inj, toNat_shiftLeft hlt]
    constructor
    · intro hc
      exact ⟨hlt, hc.symm⟩
    · intro hc
      exact hc.2.symm
  · rename_i hcount
    have hge : ¬count.toNat < 64 := fun hlt => hcount (UInt8.lt_iff_toNat_lt.mpr hlt)
    simp only [reduceCtorEq, false_iff, not_and]
    intro hlt
    exact absurd hlt hge

lemma shifted_one_eq_ok {unit : Word} {count : UInt8} :
    shifted 1 count = .ok unit ↔ count.toNat < 64 ∧ unit.toNat = 2 ^ count.toNat := by
  rw [shifted_eq_ok, UInt64.toNat_one, Nat.one_mul]
  apply and_congr_right
  intro hcount
  rw [Nat.mod_eq_of_lt (Nat.pow_lt_pow_right (by omega) hcount)]

lemma toNat_alignDown {val align : Word} {k : Nat} (hk : align.toNat = 2 ^ k) :
    (alignDown val align).toNat = val.toNat / 2 ^ k * 2 ^ k := by
  have hval := val.toNat_lt
  have halign := align.toNat_lt
  have hone : (1 : Word) ≤ align := by
    rw [UInt64.le_iff_toNat_le, hk]
    exact Nat.one_le_two_pow
  have hmask : (~~~(align - 1)).toNat = 2 ^ 64 - (2 ^ k - 1 + 1) := by
    rw [UInt64.toNat_not, UInt64.toNat_sub_of_le _ _ hone, hk, UInt64.toNat_one, Nat.sub_sub,
      Nat.add_comm]
    rfl
  rw [alignDown, UInt64.toNat_and, hmask]
  apply Nat.eq_of_testBit_eq
  intro i
  rw [Nat.testBit_and, Nat.testBit_two_pow_sub_succ (by omega), Nat.testBit_two_pow_sub_one,
    Nat.testBit_mul_two_pow, Nat.testBit_div_two_pow]
  by_cases hki : k ≤ i
  · rw [Nat.sub_add_cancel hki]
    by_cases hi : i < 64
    · simp [hki, hi]
    · have hbit : val.toNat.testBit i = false :=
        Nat.testBit_lt_two_pow
          (Nat.lt_of_lt_of_le hval (Nat.pow_le_pow_right (by omega) (by omega)))
      simp [hbit]
  · have hlow : i < k := Nat.lt_of_not_le hki
    simp [hki, hlow]

lemma toNat_alignUp {val align : Word} {k : Nat} (hk : align.toNat = 2 ^ k) :
    (alignUp val align).toNat = (val.toNat + (2 ^ k - 1)) % 2 ^ 64 / 2 ^ k * 2 ^ k := by
  have hdown : alignUp val align = alignDown (val + align - 1) align := rfl
  have hpos := Nat.two_pow_pos k
  have hsum : (val + align - 1).toNat = (val.toNat + (2 ^ k - 1)) % 2 ^ 64 := by
    rw [UInt64.toNat_sub, UInt64.toNat_add, UInt64.toNat_one, hk]
    omega
  rw [hdown, toNat_alignDown hk, hsum]

end Word

namespace Address

lemma isWordAligned_iff {a : Address} : a.isWordAligned = true ↔ a.toNat % 8 = 0 := by
  have hdvd : a.isWordAligned = true ↔ 8 ∣ a.toNat := Word.isAligned_iff_dvd (k := 3) rfl
  rw [hdvd, Nat.dvd_iff_mod_eq_zero]

lemma toNat_wordDown (a : Address) : a.wordDown.toNat = a.toNat / 8 * 8 :=
  Word.toNat_alignDown (k := 3) rfl

/-- Rounding up reaches zero in the last word of the address space. -/
lemma toNat_wordUp (a : Address) : a.wordUp.toNat = (a.toNat + 7) % 2 ^ 64 / 8 * 8 :=
  Word.toNat_alignUp (k := 3) rfl

end Address

lemma Address.above_eq_error {a : Address} {size : Word} {fault : Fault} :
    a.above size = .error fault ↔
      fault = .sumOverflow ∧ 2 ^ 64 ≤ a.toNat + size.toNat := by
  rw [Address.above, toNat, ← Word.sum_eq_error]
  cases Word.sum a.val size with
  | error other => simp [Functor.map, Except.map]
  | ok w => simp [Functor.map, Except.map]

lemma Address.distanceFrom_eq_ok {a base : Address} {d : Word} :
    a.distanceFrom base = .ok d ↔ base.toNat + d.toNat = a.toNat := by
  unfold Address.distanceFrom
  split
  · rename_i hle
    have hnat := Address.le_iff_toNat.mp hle
    rw [Except.ok.injEq, ← UInt64.toNat_inj, UInt64.toNat_sub_of_le _ _ hle]
    simp only [Address.toNat] at hnat ⊢
    omega
  · rename_i hle
    have hnat : ¬base.toNat ≤ a.toNat := fun h => hle (Address.le_iff_toNat.mpr h)
    simp only [reduceCtorEq, false_iff]
    omega

end WriteBarrier
