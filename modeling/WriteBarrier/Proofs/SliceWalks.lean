import WriteBarrier.Proofs.CoveringRegions

/-!
# Walks over slices

A walk over a slice begins unless the end of the slice lies outside the address space. A walk that
has begun never stops: it gives the slots one after the other, then none for good, and its cursor
stays between the start of the slice and the limit.
-/

namespace WriteBarrier

/-- What the call of `next` after `k` others gives. -/
def SlotCursor.result (c : SlotCursor) (k : Nat) : Except Fault (Option Slot) := do
  let here ← c.drop k
  return (← here.next).map Prod.fst

/-- The cursor stands where `k` calls of `next` lead on a walk over the slice. -/
structure SlotCursor.Stands (c : SlotCursor) (s : Slice) (k : Nat) : Prop where
  encoding : c.encoding = s.encoding
  limit : c.limit.toNat = s.bound
  position : c.position.toNat = s.start.toNat + min k s.count.toNat * s.encoding.width.toNat

namespace Slice

variable {s : Slice} {c : SlotCursor} {k : Nat}

lemma stop_eq_error {fault : Fault} : s.stop = .error fault ↔
    fault = .productOverflow ∧ 2 ^ 64 ≤ s.count.toNat * s.encoding.width.toNat ∨
    fault = .sumOverflow ∧ s.count.toNat * s.encoding.width.toNat < 2 ^ 64 ∧ 2 ^ 64 ≤ s.bound := by
  simp only [stop, bytes, bound, bind_eq_error, Word.product_eq_error, Word.product_eq_ok,
    Address.above_eq_error]
  apply or_congr_right
  constructor
  · rintro ⟨size, hsize, hfault, hover⟩
    rw [hsize]
    exact ⟨hfault, size.toNat_lt, hover⟩
  · rintro ⟨hfault, hsmall, hover⟩
    obtain ⟨size, hsize⟩ := Word.exists_toNat_eq hsmall
    exact ⟨size, hsize.symm, hfault, hsize ▸ hover⟩

lemma cursor_eq_error {fault : Fault} : s.cursor = .error fault ↔ s.stop = .error fault := by
  rw [cursor, bind_eq_error]
  simp [pure, Except.pure]

lemma stands_cursor (h : s.cursor = .ok c) : c.Stands s 0 := by
  obtain ⟨stop, hstop, hc⟩ := bind_eq_ok.mp h
  cases hc
  refine ⟨rfl, (stop_eq_ok.mp hstop).symm, ?_⟩
  rw [Nat.zero_min, Nat.zero_mul, Nat.add_zero]

end Slice

namespace SlotCursor.Stands

variable {s : Slice} {c : SlotCursor} {i k : Nat}

lemma position_le_limit (h : c.Stands s k) : c.position ≤ c.limit := by
  have hwalked : min k s.count.toNat * s.encoding.width.toNat ≤
      s.count.toNat * s.encoding.width.toNat := Nat.mul_le_mul_right _ (Nat.min_le_right _ _)
  rw [Address.le_iff_toNat, h.limit, h.position]
  exact Nat.add_le_add_left hwalked _

/-- Before the last slot, the cursor is at a slot and can move behind it. -/
lemma next_of_lt (h : c.Stands s k) (hk : k < s.count.toNat) :
    ∃ after, c.next = .ok (some (s.slot k, after)) ∧ after.Stands s (k + 1) := by
  have hlimit := h.limit
  have hposition := h.position
  have hend := c.limit.toNat_lt
  have hwidth := s.encoding.width_pos
  have hroom : (k + 1) * s.encoding.width.toNat ≤ s.count.toNat * s.encoding.width.toNat :=
    Nat.mul_le_mul_right _ hk
  rw [Nat.min_eq_left (Nat.le_of_lt hk)] at hposition
  rw [Nat.succ_mul] at hroom
  unfold Slice.bound at hlimit
  have hlt : c.position < c.limit := by
    rw [Address.lt_iff_toNat]
    omega
  have hfits : c.position.toNat + c.encoding.width.toNat < 2 ^ 64 := by
    rw [h.encoding]
    omega
  obtain ⟨after, hafter⟩ := Word.exists_toNat_eq hfits
  have hslot : c.encoding.slotAt c.position = s.slot k := by
    have haddress := Slice.toNat_address_slot (s := s) (by unfold Slice.bound; omega) hk
    apply Slot.eq_of_address
    · rw [Slice.slot, Encoding.encoding_slotAt, Encoding.encoding_slotAt, h.encoding]
    · apply Address.ext_toNat
      rw [Encoding.address_slotAt, hposition, haddress]
  have hnext : c.next = .ok (some (c.encoding.slotAt c.position, { c with position := ⟨after⟩ })) :=
    SlotCursor.next_of_lt hlt hafter.symm
  refine ⟨{ c with position := ⟨after⟩ }, ?_, h.encoding, h.limit, ?_⟩
  · rw [hnext, hslot]
  · rw [Nat.min_eq_left hk, Nat.succ_mul]
    change after.toNat = _
    rw [hafter, h.encoding, hposition, Nat.add_assoc]

/-- Behind the last slot, the cursor stays where it is. -/
lemma next_of_le (h : c.Stands s k) (hk : s.count.toNat ≤ k) : c.next = .ok none := by
  have hposition := h.position
  have hend : ¬c.position < c.limit := by
    rw [Nat.min_eq_right hk] at hposition
    rw [Address.lt_iff_toNat, h.limit, hposition]
    exact Nat.lt_irrefl _
  rw [next, if_neg hend]

lemma of_le (h : c.Stands s i) (hi : s.count.toNat ≤ i) (hk : s.count.toNat ≤ k) :
    c.Stands s k := by
  refine ⟨h.encoding, h.limit, ?_⟩
  rw [h.position, Nat.min_eq_right hi, Nat.min_eq_right hk]

lemma drop (h : c.Stands s i) (k : Nat) :
    ∃ here, c.drop k = .ok here ∧ here.Stands s (i + k) := by
  induction k generalizing c i with
  | zero => exact ⟨c, rfl, h⟩
  | succ k ih =>
    by_cases hi : i < s.count.toNat
    · obtain ⟨after, hnext, hafter⟩ := h.next_of_lt hi
      obtain ⟨here, hdrop, hhere⟩ := ih hafter
      refine ⟨here, ?_, ?_⟩
      · rw [SlotCursor.drop, hnext]
        exact hdrop
      · rw [Nat.add_comm k 1, ← Nat.add_assoc]
        exact hhere
    · have hend := Nat.le_of_not_lt hi
      refine ⟨c, ?_, h.of_le hend (Nat.le_trans hend (Nat.le_add_right _ _))⟩
      rw [SlotCursor.drop, h.next_of_le hend]
      rfl

lemma result (h : c.Stands s 0) (k : Nat) :
    c.result k = .ok (if k < s.count.toNat then some (s.slot k) else none) := by
  obtain ⟨here, hdrop, hhere⟩ := h.drop k
  rw [Nat.zero_add] at hhere
  rw [SlotCursor.result, hdrop]
  by_cases hk : k < s.count.toNat
  · obtain ⟨after, hnext, -⟩ := hhere.next_of_lt hk
    rw [if_pos hk]
    simp [bind, Except.bind, pure, Except.pure, hnext]
  · rw [if_neg hk]
    simp [bind, Except.bind, pure, Except.pure, hhere.next_of_le (Nat.le_of_not_lt hk)]

end SlotCursor.Stands

/-- A walk over a slice fails to begin exactly if the size of the slice or its end does not fit in a
word. A walk that has begun does not stop at any call; its calls give the slots at consecutive
positions, each once, and then none; and the cursor never passes the limit, which is the end of the
slice. -/
theorem Slice.walk_exact (s : Slice) :
    (∀ fault, s.cursor = .error fault ↔
      fault = .productOverflow ∧ 2 ^ 64 ≤ s.count.toNat * s.encoding.width.toNat ∨
      fault = .sumOverflow ∧ s.count.toNat * s.encoding.width.toNat < 2 ^ 64 ∧
        2 ^ 64 ≤ s.start.toNat + s.count.toNat * s.encoding.width.toNat) ∧
    ∀ c, s.cursor = .ok c →
      (∀ k, c.result k = .ok (if k < s.count.toNat then some (s.slot k) else none)) ∧
      (∀ i < s.count.toNat, (s.slot i).encoding = s.encoding ∧
        (s.slot i).address.toNat = s.start.toNat + i * s.encoding.width.toNat) ∧
      (∃ found, c.collect #[] = .ok found ∧
        found.toList = (List.range s.count.toNat).map s.slot) ∧
      ∀ k, ∃ here, c.drop k = .ok here ∧ here.limit = c.limit ∧ here.position ≤ here.limit ∧
        here.limit.toNat = s.start.toNat + s.count.toNat * s.encoding.width.toNat ∧
        here.position.toNat =
          s.start.toNat + min k s.count.toNat * s.encoding.width.toNat := by
  refine ⟨fun fault => cursor_eq_error.trans stop_eq_error, ?_⟩
  intro c hc
  have hstands := stands_cursor hc
  have hbound : s.bound ≤ 2 ^ 64 := hstands.limit ▸ Nat.le_of_lt c.limit.toNat_lt
  refine ⟨hstands.result, ?_, ?_, ?_⟩
  · intro i hi
    exact ⟨Encoding.encoding_slotAt _ _, toNat_address_slot hbound hi⟩
  · obtain ⟨stop, hstop, -⟩ := bind_eq_ok.mp hc
    obtain ⟨begun, hbegun, hwalk⟩ := bind_eq_ok.mp (slots_of_stop hstop)
    obtain ⟨found, hfound, hlist⟩ := bind_eq_ok.mp hwalk
    cases hc.symm.trans hbegun
    exact ⟨found, hfound, Except.ok.inj hlist⟩
  · intro k
    obtain ⟨here, hdrop, hhere⟩ := hstands.drop k
    rw [Nat.zero_add] at hhere
    refine ⟨here, hdrop, ?_, hhere.position_le_limit, hhere.limit, hhere.position⟩
    apply Address.ext_toNat
    rw [hhere.limit, hstands.limit]

theorem Slice.walk_exact_at_top_of_address_space :
    let s : Slice := ⟨⟨0xfffffffffffffff3⟩, 3, .narrow .zeroBased⟩
    ∃ c, s.cursor = .ok c ∧
      c.result 2 = .ok (some (.narrow ⟨0xfffffffffffffffb⟩ .zeroBased)) ∧
      c.result 3 = .ok none ∧ c.result 1000 = .ok none ∧
      { s with count := 4 }.cursor = .error .sumOverflow := by
  intro s
  have hbegins : s.cursor = .ok ⟨s.start, ⟨0xffffffffffffffff⟩, s.encoding⟩ := rfl
  obtain ⟨hgives, -⟩ := s.walk_exact.2 _ hbegins
  refine ⟨_, hbegins, hgives 2, hgives 3, hgives 1000, ?_⟩
  exact (walk_exact { s with count := 4 }).1 _ |>.mpr (.inr (by decide))

end WriteBarrier
