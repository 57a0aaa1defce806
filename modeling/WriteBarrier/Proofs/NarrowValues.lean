import WriteBarrier.Proofs.NarrowReferences

/-!
# Narrow values

Which narrow values stand for references. As long as the shift loses no bits, a narrow value stands
for the reference that many units above the heap base, if there is one; encoding that reference
gives the narrow value back, and greater values stand for greater references.
-/

namespace WriteBarrier

namespace ObjectRef

lemma exists_toNat_eq_iff {n : Nat} (hn : n ≠ 0) :
    (∃ o : ObjectRef, o.address.toNat = n) ↔ n < 2 ^ 64 ∧ 8 ∣ n := by
  constructor
  · rintro ⟨o, rfl⟩
    exact ⟨o.address.toNat_lt, Nat.dvd_of_mod_eq_zero (Address.isWordAligned_iff.mp o.aligned)⟩
  · rintro ⟨hlt, hunits⟩
    obtain ⟨w, rfl⟩ := Word.exists_toNat_eq hlt
    refine ⟨⟨⟨w⟩, ?_, ?_⟩, rfl⟩
    · rintro ⟨⟩
      exact hn rfl
    · exact Address.isWordAligned_iff.mpr (Nat.mod_eq_zero_of_dvd hunits)

lemma ofAddress_eq_ok {a : Address} (ha : a.toNat ≠ 0) {r : Option ObjectRef} :
    ofAddress a = .ok r ↔ ∃ o : ObjectRef, r = some o ∧ o.address = a := by
  have hnonnull : a ≠ Address.zero := by
    rintro rfl
    exact ha rfl
  constructor
  · intro h
    unfold ofAddress at h
    split at h
    · exact ⟨_, (Except.ok.inj h).symm, rfl⟩
    · cases h
  · rintro ⟨o, rfl, rfl⟩
    exact o.ofAddress_address

lemma compareOptional_eq_lt {o o' : ObjectRef} :
    compareOptional (some o) (some o') = .lt ↔ o.address.toNat < o'.address.toNat := by
  rw [← Address.lt_iff_toNat]
  exact compareOfLessAndEq_eq_lt

end ObjectRef

namespace NarrowEncoding

variable {e : NarrowEncoding} {n n' : UInt32} {o : ObjectRef}

/-- The number that a narrow value other than null stands for. -/
def expansion (e : NarrowEncoding) (n : UInt32) : Nat :=
  e.base.toNat + n.toNat * 2 ^ e.shift.toNat

lemma toNat_pos_of_ne_zero (hn : n ≠ 0) : 0 < n.toNat :=
  Nat.pos_of_ne_zero fun h => hn (UInt32.toNat_inj.mp h)

lemma expansion_ne_zero (hn : n ≠ 0) : e.expansion n ≠ 0 := by
  have hoffset : 0 < n.toNat * 2 ^ e.shift.toNat :=
    Nat.mul_pos (toNat_pos_of_ne_zero hn) (Nat.two_pow_pos _)
  unfold expansion
  omega

lemma expansion_lt (h : n < n') : e.expansion n < e.expansion n' :=
  Nat.add_lt_add_left (Nat.mul_lt_mul_of_pos_right h (Nat.two_pow_pos _)) _

/-- No bit of a narrow value is lost by a shift of at most 32. -/
lemma offset_lt (hshift : e.shift.toNat ≤ 32) : n.toNat * 2 ^ e.shift.toNat < 2 ^ 64 := by
  have hunit : 2 ^ e.shift.toNat ≤ 2 ^ 32 := Nat.pow_le_pow_right (by omega) hshift
  calc n.toNat * 2 ^ e.shift.toNat
      ≤ n.toNat * 2 ^ 32 := Nat.mul_le_mul_left _ hunit
    _ < 2 ^ 32 * 2 ^ 32 := Nat.mul_lt_mul_of_pos_right n.toNat_lt (Nat.two_pow_pos 32)

lemma decode_eq_ok (hshift : e.shift.toNat ≤ 32) (hn : n ≠ 0) {r : Option ObjectRef} :
    e.decode n = .ok r ↔ ∃ o : ObjectRef, r = some o ∧ o.address.toNat = e.expansion n := by
  constructor
  · intro h
    rw [decode, if_neg hn, bind_eq_ok] at h
    obtain ⟨offset, hoffset, h⟩ := h
    obtain ⟨address, haddress, h⟩ := bind_eq_ok.mp h
    have hshifted := (Word.shifted_eq_ok.mp hoffset).2
    have hsum := Address.above_eq_ok.mp haddress
    rw [UInt32.toNat_toUInt64, Nat.mod_eq_of_lt (offset_lt hshift)] at hshifted
    rw [hshifted] at hsum
    have hnumber : e.expansion n = address.toNat := hsum
    rw [ObjectRef.ofAddress_eq_ok (hnumber ▸ expansion_ne_zero hn)] at h
    obtain ⟨o, rfl, rfl⟩ := h
    exact ⟨o, rfl, hnumber.symm⟩
  · rintro ⟨o, rfl, ho⟩
    exact decode_of_address hn (by omega) ho

lemma decode_eq_none_iff (hshift : e.shift.toNat ≤ 32) : e.decode n = .ok none ↔ n = 0 := by
  constructor
  · intro h
    by_cases hn : n = 0
    · exact hn
    · obtain ⟨o, hnone, -⟩ := (decode_eq_ok hshift hn).mp h
      cases hnone
  · rintro rfl
    exact e.decode_zero

lemma exists_decode_eq_error_iff (hshift : e.shift.toNat ≤ 32) (hn : n ≠ 0) :
    (∃ fault, e.decode n = .error fault) ↔ ¬∃ o, e.decode n = .ok (some o) := by
  cases h : e.decode n with
  | error fault => simp
  | ok r =>
    obtain ⟨o, rfl, -⟩ := (decode_eq_ok hshift hn).mp h
    simp

lemma encode_of_decode (hshift : e.shift.toNat ≤ 32) (h : e.decode n = .ok (some o)) :
    e.encode o = .ok n := by
  have hn : n ≠ 0 := by
    rintro rfl
    cases h
  obtain ⟨o', hsame, ho⟩ := (decode_eq_ok hshift hn).mp h
  cases hsame
  exact encode_eq_ok.mpr ⟨by omega, ho⟩

lemma eq_of_decode (hshift : e.shift.toNat ≤ 32) {r : Option ObjectRef}
    (h : e.decode n = .ok r) (h' : e.decode n' = .ok r) : n = n' := by
  cases r with
  | none => exact ((decode_eq_none_iff hshift).mp h).trans ((decode_eq_none_iff hshift).mp h').symm
  | some o =>
    have hnarrow := (encode_of_decode hshift h).symm.trans (encode_of_decode hshift h')
    exact Except.ok.inj hnarrow

lemma decode_lt (hshift : e.shift.toNat ≤ 32) (hlt : n < n') {r r' : Option ObjectRef}
    (h : e.decode n = .ok r) (h' : e.decode n' = .ok r') :
    ObjectRef.compareOptional r r' = .lt := by
  have hn' : n' ≠ 0 := by
    rintro rfl
    exact Nat.not_lt_zero _ hlt
  obtain ⟨o', rfl, ho'⟩ := (decode_eq_ok hshift hn').mp h'
  by_cases hn : n = 0
  · cases hn
    cases h
    rfl
  · obtain ⟨o, rfl, ho⟩ := (decode_eq_ok hshift hn).mp h
    rw [ObjectRef.compareOptional_eq_lt, ho, ho']
    exact expansion_lt hlt

/-- Under a shift of at most 32, null alone expands to no reference. Any other narrow value expands
to the reference at its number, whose narrow value it is, unless the number lies outside the address
space or is not a multiple of 8. Values that expand to the same are the same, and greater values
expand to greater references, null being the least. -/
theorem encode_undoes_decode (hshift : e.shift.toNat ≤ 32) :
    (∀ n, e.decode n = .ok none ↔ n = 0) ∧
    (∀ n, n ≠ 0 →
      let number := e.base.toNat + n.toNat * 2 ^ e.shift.toNat
      ((∃ fault, e.decode n = .error fault) ↔ 2 ^ 64 ≤ number ∨ ¬8 ∣ number) ∧
      (number < 2 ^ 64 → 8 ∣ number →
        ∃ o, e.decode n = .ok (some o) ∧ o.address.toNat = number ∧ e.encode o = .ok n)) ∧
    (∀ n n' r, e.decode n = .ok r → e.decode n' = .ok r → n = n') ∧
    ∀ n n' r r', e.decode n = .ok r → e.decode n' = .ok r' → n < n' →
      ObjectRef.compareOptional r r' = .lt := by
  have hreference : ∀ n, n ≠ 0 → ((∃ o, e.decode n = .ok (some o)) ↔
      e.expansion n < 2 ^ 64 ∧ 8 ∣ e.expansion n) := by
    intro n hn
    rw [← ObjectRef.exists_toNat_eq_iff (expansion_ne_zero hn)]
    simp only [decode_eq_ok hshift hn, Option.some.injEq, exists_eq_left']
  refine ⟨fun n => decode_eq_none_iff hshift, ?_, fun n n' r => eq_of_decode hshift,
    fun n n' r r' h h' hlt => decode_lt hshift hlt h h'⟩
  intro n hn
  refine ⟨?_, ?_⟩
  · rw [exists_decode_eq_error_iff hshift hn, hreference n hn, Decidable.not_and_iff_or_not,
      Nat.not_lt]
    rfl
  · intro hlt hunits
    obtain ⟨o, ho⟩ := (hreference n hn).mpr ⟨hlt, hunits⟩
    obtain ⟨o', hsame, hnumber⟩ := (decode_eq_ok hshift hn).mp ho
    cases hsame
    exact ⟨o, ho, hnumber, encode_of_decode hshift ho⟩

theorem encode_undoes_decode_of_greatest_value :
    let e : NarrowEncoding := ⟨⟨0xfffffff8⟩, 32⟩
    e.shift.toNat ≤ 32 ∧
    ∃ o, e.decode 0xffffffff = .ok (some o) ∧ o.address.toNat = 2 ^ 64 - 8 ∧
      e.encode o = .ok 0xffffffff := by
  intro e
  have hshift : e.shift.toNat ≤ 32 := by decide
  have hnumber : e.base.toNat + (0xffffffff : UInt32).toNat * 2 ^ e.shift.toNat = 2 ^ 64 - 8 := by
    decide
  obtain ⟨-, hexpands, -⟩ := encode_undoes_decode hshift
  obtain ⟨o, ho, hplace, hback⟩ := (hexpands 0xffffffff (by decide)).2 (by decide) (by decide)
  exact ⟨hshift, o, ho, hplace.trans hnumber, hback⟩

end NarrowEncoding

end WriteBarrier
