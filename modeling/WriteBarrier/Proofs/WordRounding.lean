import Mathlib.Order.Bounds.Basic
import WriteBarrier.Proofs.WordArithmetic

/-!
# Word rounding

Rounding a word to a power of two gives the nearest multiple: the greatest one that is not above the
word, or the least one that is not below it. If the latter is no word, rounding up gives zero.
-/

namespace WriteBarrier

def multiplesUpTo (unit n : Nat) : Set Nat := {m | unit ∣ m ∧ m ≤ n}

def multiplesFrom (unit n : Nat) : Set Nat := {m | unit ∣ m ∧ n ≤ m}

variable {unit n m : Nat}

lemma isGreatest_div_mul (hunit : 0 < unit) :
    IsGreatest (multiplesUpTo unit n) (n / unit * unit) := by
  refine ⟨⟨Nat.dvd_mul_left _ _, Nat.div_mul_le_self _ _⟩, ?_⟩
  rintro m ⟨⟨q, rfl⟩, hle⟩
  rw [Nat.mul_comm unit]
  apply Nat.mul_le_mul_right
  rw [Nat.le_div_iff_mul_le hunit, Nat.mul_comm]
  exact hle

lemma isLeast_div_mul (hunit : 0 < unit) :
    IsLeast (multiplesFrom unit n) ((n + (unit - 1)) / unit * unit) := by
  have hquotient := Nat.lt_div_mul_add hunit (a := n + (unit - 1))
  refine ⟨⟨Nat.dvd_mul_left _ _, by omega⟩, ?_⟩
  rintro m ⟨⟨q, rfl⟩, hle⟩
  rw [Nat.mul_comm unit]
  apply Nat.mul_le_mul_right
  apply Nat.le_of_lt_succ
  rw [Nat.div_lt_iff_lt_mul hunit, Nat.succ_mul, Nat.mul_comm]
  omega

lemma isGreatest_self (h : unit ∣ n) : IsGreatest (multiplesUpTo unit n) n :=
  ⟨⟨h, Nat.le_refl n⟩, fun _ hm => hm.2⟩

lemma isLeast_self (h : unit ∣ n) : IsLeast (multiplesFrom unit n) n :=
  ⟨⟨h, Nat.le_refl n⟩, fun _ hm => hm.2⟩

/-- The last multiple of a divisor of `limit` below `limit` lies a whole unit below it. -/
lemma add_le_of_dvd_of_lt {limit : Nat} (hlimit : unit ∣ limit) (hm : unit ∣ m) (h : m < limit) :
    m + unit ≤ limit := by
  have hdistance : unit ≤ limit - m := Nat.le_of_dvd (by omega) (Nat.dvd_sub hlimit hm)
  omega

namespace Word

variable {val align : Word} {k : Nat}

lemma isGreatest_alignDown (hk : align.toNat = 2 ^ k) :
    IsGreatest (multiplesUpTo align.toNat val.toNat) (alignDown val align).toNat := by
  rw [toNat_alignDown hk, hk]
  exact isGreatest_div_mul (Nat.two_pow_pos k)

/-- Where a multiple that is not below the word is a word as well, rounding up does not wrap. -/
lemma isLeast_alignUp (hk : align.toNat = 2 ^ k) (hm : m ∈ multiplesFrom align.toNat val.toNat)
    (hfits : m < 2 ^ 64) :
    IsLeast (multiplesFrom align.toNat val.toNat) (alignUp val align).toNat := by
  have halign : 2 ^ k < 2 ^ 64 := hk ▸ align.toNat_lt
  have hexponent : k ≤ 64 := Nat.le_of_lt ((Nat.pow_lt_pow_iff_right (by omega)).mp halign)
  obtain ⟨hdvd, hle⟩ := hm
  rw [hk] at hdvd
  have hroom := add_le_of_dvd_of_lt (Nat.pow_dvd_pow 2 hexponent) hdvd hfits
  have hpos := Nat.two_pow_pos k
  rw [toNat_alignUp hk, Nat.mod_eq_of_lt (by omega), hk]
  exact isLeast_div_mul hpos

/-- Where the least multiple that is not below the word is no word, rounding up wraps to zero. -/
lemma toNat_alignUp_of_le (hk : align.toNat = 2 ^ k)
    (hm : IsLeast (multiplesFrom align.toNat val.toNat) m) (hover : 2 ^ 64 ≤ m) :
    (alignUp val align).toNat = 0 := by
  have hval := val.toNat_lt
  have hpos := Nat.two_pow_pos k
  rw [hk] at hm
  have hquotient := hm.unique (isLeast_div_mul hpos)
  have hsum : m ≤ val.toNat + (2 ^ k - 1) := by
    rw [hquotient]
    exact Nat.div_mul_le_self _ _
  have halign : 2 ^ k < 2 ^ 64 := hk ▸ align.toNat_lt
  have hwrapped : (val.toNat + (2 ^ k - 1)) % 2 ^ 64 < 2 ^ k := by omega
  rw [toNat_alignUp hk, Nat.div_eq_of_lt hwrapped, Nat.zero_mul]

lemma exists_isLeast_alignUp (hk : align.toNat = 2 ^ k) :
    ∃ m, IsLeast (multiplesFrom align.toNat val.toNat) m ∧
      (alignUp val align).toNat = if m < 2 ^ 64 then m else 0 := by
  have hunit : 0 < align.toNat := hk ▸ Nat.two_pow_pos k
  have hleast := isLeast_div_mul hunit (n := val.toNat)
  refine ⟨_, hleast, ?_⟩
  split
  · rename_i hfits
    exact (isLeast_alignUp hk hleast.1 hfits).unique hleast
  · rename_i hover
    exact toNat_alignUp_of_le hk hleast (Nat.le_of_not_lt hover)

/-- Rounding down and rounding up agree on multiples alone, also where rounding up wraps. -/
lemma alignUp_eq_alignDown_iff (hk : align.toNat = 2 ^ k) :
    alignUp val align = alignDown val align ↔ align.toNat ∣ val.toNat := by
  have hdown : IsGreatest (multiplesUpTo align.toNat val.toNat) (alignDown val align).toNat :=
    isGreatest_alignDown hk
  obtain ⟨m, hleast, hup⟩ : ∃ m, IsLeast (multiplesFrom align.toNat val.toNat) m ∧
      (alignUp val align).toNat = if m < 2 ^ 64 then m else 0 := exists_isLeast_alignUp hk
  rw [← UInt64.toNat_inj, hup]
  constructor
  · intro hequal
    by_cases hfits : m < 2 ^ 64
    · rw [if_pos hfits] at hequal
      have hself : m = val.toNat :=
        Nat.le_antisymm (hequal ▸ hdown.1.2) hleast.1.2
      exact hself ▸ hleast.1.1
    · -- Rounding down cannot give zero here: the power of two itself is not above the word.
      rw [if_neg hfits] at hequal
      have hunit : 0 < align.toNat := hk ▸ Nat.two_pow_pos k
      have halign := align.toNat_lt
      have hbelow : align.toNat ≤ val.toNat := by
        by_contra habove
        have hm : m ≤ align.toNat := hleast.2 ⟨Nat.dvd_refl _, by omega⟩
        omega
      have hzero : align.toNat ≤ (alignDown val align).toNat := hdown.2 ⟨Nat.dvd_refl _, hbelow⟩
      omega
  · intro hdvd
    rw [hleast.unique (isLeast_self hdvd), if_pos val.toNat_lt]
    exact (isGreatest_self hdvd).unique hdown

/-- The bit formulas do what their names say, for every word and every power of two that is a word:
rounding down gives the greatest multiple that is not above the word, rounding up the least one that
is not below it, or zero if that one is no word, and the two agree exactly on the multiples. -/
theorem alignment_formulas_exact (hpower : align.toNat = 2 ^ k) :
    IsGreatest (multiplesUpTo align.toNat val.toNat) (alignDown val align).toNat ∧
    (isAligned val align = true ↔ align.toNat ∣ val.toNat) ∧
    (∃ m, IsLeast (multiplesFrom align.toNat val.toNat) m ∧
      (alignUp val align).toNat = if m < 2 ^ 64 then m else 0) ∧
    (alignUp val align = alignDown val align ↔ isAligned val align = true) := by
  have haligned : isAligned val align = true ↔ align.toNat ∣ val.toNat := by
    rw [isAligned_iff_dvd hpower, hpower]
  refine ⟨isGreatest_alignDown hpower, haligned, exists_isLeast_alignUp hpower, ?_⟩
  rw [haligned]
  exact alignUp_eq_alignDown_iff hpower

theorem alignment_formulas_exact_at_greatest_unit :
    let val : Word := 0xffffffffffffffff
    let align : Word := 0x8000000000000000
    align.toNat = 2 ^ 63 ∧
    IsGreatest (multiplesUpTo align.toNat val.toNat) align.toNat ∧
    isAligned val align = false ∧
    IsLeast (multiplesFrom align.toNat val.toNat) (2 ^ 64) ∧ alignUp val align = 0 ∧
    alignUp val align ≠ alignDown val align := by
  intro val align
  have hpower : align.toNat = 2 ^ 63 := rfl
  have hunit : 0 < align.toNat := by decide
  have hlower : alignDown val align = align := by decide
  have hnot : isAligned val align = false := by decide
  have hquotient : (val.toNat + (align.toNat - 1)) / align.toNat * align.toNat = 2 ^ 64 := by decide
  have hwhole : IsLeast (multiplesFrom align.toNat val.toNat) (2 ^ 64) :=
    hquotient ▸ isLeast_div_mul hunit
  obtain ⟨hdown, -, ⟨m, hleast, hup⟩, hagree⟩ : IsGreatest (multiplesUpTo _ val.toNat) _ ∧ _ :=
    alignment_formulas_exact hpower
  rw [hlower] at hdown
  rw [hleast.unique hwhole, if_neg (Nat.lt_irrefl _)] at hup
  refine ⟨hpower, hdown, hnot, hwhole, UInt64.toNat_inj.mp hup, ?_⟩
  rw [ne_eq, hagree, hnot]
  exact Bool.false_ne_true

end Word

end WriteBarrier
