import WriteBarrier.Proofs.WordArithmetic
import WriteBarrier.Slot

/-!
# Narrow references

Which references have a narrow value, which references narrow values stand for, and what is left
of a reference that is stored in a narrow slot. Encoding admits one reference too many: the one at
the heap base, whose narrow value is that of null.
-/

namespace WriteBarrier

namespace NarrowEncoding

lemma toUInt32_shiftRight_eq_iff {offset : Word} {shift : UInt8} {n : UInt32}
    (hshift : shift.toNat < 64) (hreach : offset >>> shift.toUInt64 ≤ 0xffffffff) :
    (offset >>> shift.toUInt64).toUInt32 = n ↔ offset.toNat / 2 ^ shift.toNat = n.toNat := by
  rw [UInt64.le_iff_toNat_le, Word.toNat_shiftRight hshift] at hreach
  have hlt : offset.toNat / 2 ^ shift.toNat < 2 ^ 32 := Nat.lt_succ_of_le hreach
  rw [← UInt32.toNat_inj, UInt64.toNat_toUInt32, Word.toNat_shiftRight hshift, Nat.mod_eq_of_lt hlt]

lemma encode_eq_ok {e : NarrowEncoding} {o : ObjectRef} {n : UInt32} :
    e.encode o = .ok n ↔
      e.shift.toNat < 64 ∧ o.address.toNat = e.base.toNat + n.toNat * 2 ^ e.shift.toNat := by
  simp only [encode, bind_eq_ok, Address.distanceFrom_eq_ok, Word.shifted_one_eq_ok]
  constructor
  · rintro ⟨offset, hoffset, unit, ⟨hshift, hunit⟩, h⟩
    refine ⟨hshift, ?_⟩
    split at h
    · cases h
    rename_i hmask
    split at h
    · rename_i hreach
      have hnarrow := (toUInt32_shiftRight_eq_iff hshift hreach).mp (Except.ok.inj h)
      have hunits := (Word.and_sub_one_eq_zero_iff hunit).mp (Decidable.not_not.mp hmask)
      rw [← hnarrow, Nat.div_mul_cancel hunits, hoffset]
    · cases h
  · rintro ⟨hshift, haddress⟩
    have hlt := o.address.toNat_lt
    have hn := n.toNat_lt
    obtain ⟨offset, hoffset⟩ := Word.exists_toNat_eq (n := n.toNat * 2 ^ e.shift.toNat) (by omega)
    obtain ⟨unit, hunit⟩ := Word.exists_toNat_eq (Nat.pow_lt_pow_right (by omega) hshift)
    have hquot : offset.toNat / 2 ^ e.shift.toNat = n.toNat := by
      rw [hoffset, Nat.mul_div_cancel _ (Nat.two_pow_pos e.shift.toNat)]
    have hreach : offset >>> e.shift.toUInt64 ≤ 0xffffffff := by
      rw [UInt64.le_iff_toNat_le, Word.toNat_shiftRight hshift, hquot]
      exact Nat.le_of_lt_succ hn
    have hmask : offset &&& (unit - 1) = 0 :=
      (Word.and_sub_one_eq_zero_iff hunit).mpr (hoffset ▸ Nat.dvd_mul_left _ _)
    refine ⟨offset, by omega, unit, ⟨hshift, hunit⟩, ?_⟩
    rw [if_neg (Decidable.not_not.mpr hmask), if_pos hreach]
    exact congrArg Except.ok ((toUInt32_shiftRight_eq_iff hshift hreach).mpr hquot)

lemma decode_of_address {e : NarrowEncoding} {o : ObjectRef} {n : UInt32} (hn : n ≠ 0)
    (hshift : e.shift.toNat < 64)
    (ho : o.address.toNat = e.base.toNat + n.toNat * 2 ^ e.shift.toNat) :
    e.decode n = .ok (some o) := by
  have hlt := o.address.toNat_lt
  obtain ⟨offset, hoffset⟩ := Word.exists_toNat_eq (n := n.toNat * 2 ^ e.shift.toNat) (by omega)
  rw [decode, if_neg hn, bind_eq_ok]
  refine ⟨offset, Word.shifted_eq_ok.mpr ⟨hshift, ?_⟩, ?_⟩
  · rw [UInt32.toNat_toUInt64, hoffset, Nat.mod_eq_of_lt (by omega)]
  · rw [bind_eq_ok]
    exact ⟨o.address, Address.above_eq_ok.mpr (by omega), o.ofAddress_address⟩

lemma encode_eq_zero_iff {e : NarrowEncoding} {o : ObjectRef} {n : UInt32}
    (h : e.encode o = .ok n) : n = 0 ↔ o.address = e.base := by
  obtain ⟨hshift, ho⟩ := encode_eq_ok.mp h
  constructor
  · rintro rfl
    exact Address.ext_toNat (by simpa using ho)
  · intro hbase
    have hpos := Nat.two_pow_pos e.shift.toNat
    have hzero : n.toNat * 2 ^ e.shift.toNat = 0 := by
      rw [hbase] at ho
      omega
    rw [← UInt32.toNat_inj]
    exact (Nat.mul_eq_zero.mp hzero).resolve_right (by omega)

/-- A reference comes back from its narrow value, unless it is the heap base. -/
lemma decode_of_encode {e : NarrowEncoding} {o : ObjectRef} {n : UInt32}
    (h : e.encode o = .ok n) :
    e.decode n = .ok (if o.address = e.base then none else some o) := by
  obtain ⟨hshift, ho⟩ := encode_eq_ok.mp h
  by_cases hn : n = 0
  · rw [if_pos ((encode_eq_zero_iff h).mp hn), hn, decode_zero]
  · rw [if_neg fun hbase => hn ((encode_eq_zero_iff h).mpr hbase)]
    exact decode_of_address hn hshift ho

end NarrowEncoding

namespace Slot

lemma store_narrow_eq_ok {a : Address} {e : NarrowEncoding} {o : ObjectRef} {m m' : Memory} :
    (narrow a e).store o m = .ok m' ↔ ∃ n, e.encode o = .ok n ∧ m.store32 a n = m' := by
  rw [store, bind_eq_ok]
  simp only [pure, Except.pure, Except.ok.injEq]

lemma load_narrow_store {a : Address} {e : NarrowEncoding} {o : ObjectRef} {m m' : Memory}
    (h : (narrow a e).store o m = .ok m') :
    (narrow a e).load m' = .ok (if o.address = e.base then none else some o) := by
  obtain ⟨n, hn, rfl⟩ := store_narrow_eq_ok.mp h
  rw [load, Memory.load32_store32]
  exact NarrowEncoding.decode_of_encode hn

end Slot

/-- Encoding a reference loses it exactly if it lies at the heap base: then its narrow value is
null, and so is what a narrow slot holds after it was stored there. -/
theorem narrow_reference_kept_iff {e : NarrowEncoding} {o : ObjectRef} {n : UInt32}
    (h : e.encode o = .ok n) (a : Address) (m : Memory) :
    (e.decode n = .ok (some o) ↔ o.address ≠ e.base) ∧
    (n = 0 ↔ o.address = e.base) ∧
    ∃ m', (Slot.narrow a e).store o m = .ok m' ∧
      ((Slot.narrow a e).load m' = .ok (some o) ↔ o.address ≠ e.base) ∧
      (o.address = e.base → (Slot.narrow a e).load m' = .ok none) := by
  have hstore : (Slot.narrow a e).store o m = .ok (m.store32 a n) :=
    Slot.store_narrow_eq_ok.mpr ⟨n, h, rfl⟩
  have hload := Slot.load_narrow_store hstore
  have hdecode := NarrowEncoding.decode_of_encode h
  refine ⟨?_, NarrowEncoding.encode_eq_zero_iff h, _, hstore, ?_, ?_⟩
  · rw [hdecode]
    simp
  · rw [hload]
    simp
  · intro hbase
    rw [hload, if_pos hbase]

theorem narrow_reference_kept_above_base :
    let e : NarrowEncoding := ⟨⟨0x1000⟩, 3⟩
    let o : ObjectRef := ⟨⟨0x1008⟩, by decide, by decide⟩
    e.encode o = .ok 1 ∧ e.decode 1 = .ok (some o) := by
  intro e o
  have h : e.encode o = .ok 1 := NarrowEncoding.encode_eq_ok.mpr ⟨by decide, rfl⟩
  exact ⟨h, (narrow_reference_kept_iff h .zero .zeroed).1.mpr (by decide)⟩

theorem narrow_reference_lost_at_base :
    let e : NarrowEncoding := ⟨⟨0x1000⟩, 3⟩
    let o : ObjectRef := ⟨⟨0x1000⟩, by decide, by decide⟩
    e.encode o = .ok 0 ∧ e.decode 0 = .ok none := ⟨rfl, rfl⟩

end WriteBarrier
