import WriteBarrier.Proofs.CoveringRegions

/-!
# Empty covers

The walk over a slice and the region around it are computed apart from each other. Both ends of the
region are rounded, so that a slice without slots is covered by a whole word unless it lies at a
word boundary, and a slice that ends in the last word of the address space by no word at all.
-/

namespace WriteBarrier

namespace Slice

variable {s : Slice} {r : Region}

/-- Without slots, the ends of the region are the start of the slice, rounded down and up. -/
lemma isEmpty_coveringRegion_of_isEmpty (h : s.coveringRegion = .ok r)
    (hempty : s.isEmpty = true) : r.isEmpty = true ↔ s.start.isWordAligned = true := by
  obtain ⟨-, hdown, hup⟩ := ends_of_coveringRegion h
  have hlt := s.start.toNat_lt
  rw [bound_of_isEmpty hempty] at hup
  rw [Region.isEmpty_iff, Address.isWordAligned_iff]
  omega

lemma size_coveringRegion_of_isEmpty (h : s.coveringRegion = .ok r) (hempty : s.isEmpty = true)
    (hplace : s.start.isWordAligned = false) : r.size = Word.bytes := by
  have hnonempty := (isEmpty_coveringRegion_of_isEmpty h hempty).not.mpr (by simp [hplace])
  obtain ⟨-, hdown, hup⟩ := ends_of_coveringRegion h
  have hlt := s.start.toNat_lt
  have hbytes : Word.bytes.toNat = 8 := rfl
  rw [bound_of_isEmpty hempty] at hup
  rw [Region.isEmpty_iff] at hnonempty
  unfold Region.bound at hup hnonempty
  rw [← UInt64.toNat_inj]
  omega

/-- With slots, the region is empty only where its end is rounded up to zero. -/
lemma isEmpty_coveringRegion_of_nonempty (h : s.coveringRegion = .ok r)
    (hnonempty : s.isEmpty = false) : r.isEmpty = true ↔ 2 ^ 64 - 8 < s.bound := by
  obtain ⟨hfits, hdown, hup⟩ := ends_of_coveringRegion h
  have hlength := start_lt_bound hnonempty
  have hle := r.start_le_bound
  rw [Region.isEmpty_iff]
  omega

lemma coveringRegion_of_wrapped (h : s.coveringRegion = .ok r)
    (hbound : 2 ^ 64 - 8 < s.bound) : r = .empty := by
  obtain ⟨hfits, hdown, hup⟩ := ends_of_coveringRegion h
  have hle := r.start_le_bound
  have hzero : Region.empty.start.toNat = 0 := rfl
  have hnothing : Region.empty.bound = 0 := rfl
  apply Region.ext_bound
  · omega
  · omega

/-- Where a covering region is returned, a walk over the slice begins, and the region is empty for
just the slices without slots exactly under two conditions: a slice without slots starts at a word
boundary, and any other ends below the last word of the address space. A slice without slots within
a word is covered by this word, and a slice with slots that ends in the last word of the address
space by the empty region at zero. -/
theorem cover_emptiness_agrees_iff (h : s.coveringRegion = .ok r) :
    ∃ found, s.slots = .ok found ∧
      ((r.isEmpty = true ↔ found = []) ↔
        (found = [] → s.start.isWordAligned = true) ∧ (found ≠ [] → s.bound ≤ 2 ^ 64 - 8)) ∧
      (found = [] → s.start.isWordAligned = false →
        r.start = s.start.wordDown ∧ r.size = Word.bytes) ∧
      (found ≠ [] → 2 ^ 64 - 8 < s.bound → r = .empty) := by
  obtain ⟨stop, hstop, hstart, -⟩ := coveringRegion_eq_ok.mp h
  obtain ⟨found, hfound⟩ : ∃ found, s.slots = .ok found := ⟨_, slots_of_stop hstop⟩
  refine ⟨found, hfound, ?_⟩
  cases hempty : s.isEmpty with
  | true =>
    have hnil : found = [] := (slots_eq_nil_iff hfound).mpr hempty
    have hcover := isEmpty_coveringRegion_of_isEmpty h hempty
    refine ⟨?_, ?_, fun hsome => absurd hnil hsome⟩
    · rw [hcover]
      constructor
      · intro hagree
        exact ⟨fun _ => hagree.mpr hnil, fun hsome => absurd hnil hsome⟩
      · intro hplace
        exact iff_of_true (hplace.1 hnil) hnil
    · intro _ hplace
      exact ⟨hstart, size_coveringRegion_of_isEmpty h hempty hplace⟩
  | false =>
    have hsome : found ≠ [] := by
      rw [ne_eq, slots_eq_nil_iff hfound, hempty]
      exact Bool.false_ne_true
    have hcover := isEmpty_coveringRegion_of_nonempty h hempty
    refine ⟨?_, fun hnil => absurd hnil hsome, fun _ => coveringRegion_of_wrapped h⟩
    rw [hcover]
    constructor
    · intro hagree
      refine ⟨fun hnil => absurd hnil hsome, ?_⟩
      exact fun _ => Nat.le_of_not_lt fun hwrapped => hsome (hagree.mp hwrapped)
    · intro hbound
      exact iff_of_false (Nat.not_lt_of_le (hbound.2 hsome)) hsome

theorem cover_emptiness_agrees_of_three_slots :
    let s : Slice := ⟨⟨0x40000004⟩, 3, .narrow .zeroBased⟩
    let r : Region := ⟨⟨0x40000000⟩, 16⟩
    s.coveringRegion = .ok r ∧ ∃ found, s.slots = .ok found ∧ (r.isEmpty = true ↔ found = []) := by
  intro s r
  have hcover : s.coveringRegion = .ok r := by decide
  have hbound : s.bound ≤ 2 ^ 64 - 8 := by decide
  obtain ⟨found, hfound, hagree, -⟩ := cover_emptiness_agrees_iff hcover
  refine ⟨hcover, found, hfound, hagree.mpr ⟨?_, fun _ => hbound⟩⟩
  intro hnil
  cases (slots_eq_nil_iff hfound).mp hnil

/-- An empty slice within a word is covered by this word, and a slice over nearly all of the address
space by the empty region. -/
theorem empty_slice_covered_by_word :
    let s : Slice := ⟨⟨0x40000004⟩, 0, .narrow .zeroBased⟩
    let t : Slice := ⟨⟨4⟩, 0x3ffffffffffffffe, .narrow .zeroBased⟩
    s.coveringRegion = .ok ⟨⟨0x40000000⟩, 8⟩ ∧ s.slots = .ok [] ∧
    t.coveringRegion = .ok .empty ∧ ∃ c after, t.cursor = .ok c ∧
      c.next = .ok (some (.narrow ⟨4⟩ .zeroBased, after)) := by
  intro s t
  have hcover : s.coveringRegion = .ok ⟨⟨0x40000000⟩, 8⟩ := by decide
  have hwrapped : t.coveringRegion = .ok .empty := by decide
  refine ⟨hcover, slots_of_stop (stop_of_isEmpty rfl), hwrapped,
    ⟨⟨4⟩, ⟨0xfffffffffffffffc⟩, .narrow .zeroBased⟩,
    ⟨⟨8⟩, ⟨0xfffffffffffffffc⟩, .narrow .zeroBased⟩, ?_, ?_⟩
  · decide
  · decide

end Slice

end WriteBarrier
