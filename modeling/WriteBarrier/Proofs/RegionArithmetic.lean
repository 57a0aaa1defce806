import WriteBarrier.Proofs.WordArithmetic
import WriteBarrier.Region

/-!
# Region arithmetic

A region without an overflowing end is given by two numbers, its start and its bound, and the
operations on regions are read as arithmetic on them. An overlap runs from the greater start to the
lesser bound, a union from the lesser start to the greater bound.
-/

namespace WriteBarrier

namespace Address

lemma toNat_max (a b : Address) : (max a b).toNat = max a.toNat b.toNat := by
  change (if a ≤ b then b else a).toNat = _
  split
  · rename_i hle
    rw [le_iff_toNat] at hle
    omega
  · rename_i hle
    rw [le_iff_toNat] at hle
    omega

lemma toNat_min (a b : Address) : (min a b).toNat = min a.toNat b.toNat := by
  change (if a ≤ b then a else b).toNat = _
  split
  · rename_i hle
    rw [le_iff_toNat] at hle
    omega
  · rename_i hle
    rw [le_iff_toNat] at hle
    omega

end Address

namespace Region

/-- The end of the region, which may lie outside the address space. -/
def bound (r : Region) : Nat := r.start.toNat + r.size.toNat

variable {r other : Region} {a b : Address}

lemma ext_bound (hstart : r.start.toNat = other.start.toNat) (hbound : r.bound = other.bound) :
    r = other := by
  have hsize : r.size = other.size := by
    apply UInt64.toNat_inj.mp
    unfold bound at hbound
    omega
  cases r
  cases other
  rw [mk.injEq]
  exact ⟨Address.ext_toNat hstart, hsize⟩

lemma start_le_bound (r : Region) : r.start.toNat ≤ r.bound := Nat.le_add_right _ _

lemma isEmpty_iff : r.isEmpty = true ↔ r.bound = r.start.toNat := by
  have hsize : r.size = 0 ↔ r.size.toNat = 0 := UInt64.toNat_inj.symm
  rw [isEmpty, beq_iff_eq, hsize, bound]
  omega

lemma isEmpty_eq_false_iff : r.isEmpty = false ↔ r.start.toNat < r.bound := by
  have hle := r.start_le_bound
  rw [Bool.eq_false_iff, ne_eq, isEmpty_iff]
  omega

lemma exists_stop (h : r.Bounded) : ∃ stop, r.stop = .ok stop ∧ stop.toNat = r.bound := by
  obtain ⟨w, hw⟩ := Word.exists_toNat_eq h
  exact ⟨⟨w⟩, stop_eq_ok.mpr hw.symm, hw⟩

lemma bounded_of_stop (h : r.stop = .ok a) : r.Bounded := by
  unfold Bounded
  rw [stop_eq_ok.mp h]
  exact a.toNat_lt

lemma bounded_of_isEmpty (h : r.isEmpty = true) : r.Bounded := by
  change r.bound < 2 ^ 64
  rw [isEmpty_iff.mp h]
  exact r.start.toNat_lt

lemma between_eq_ok : between a b = .ok r ↔ r.start = a ∧ r.stop = .ok b := by
  have hsize : a ≤ b → (b.val - a.val).toNat = b.toNat - a.toNat := fun hle =>
    UInt64.toNat_sub_of_le _ _ hle
  unfold between
  split
  · rename_i hle
    have hnat := Address.le_iff_toNat.mp hle
    rw [Except.ok.injEq]
    constructor
    · rintro rfl
      refine ⟨rfl, stop_eq_ok.mpr ?_⟩
      rw [hsize hle, Nat.add_sub_cancel' hnat]
    · rintro ⟨rfl, hstop⟩
      have hsum := stop_eq_ok.mp hstop
      have hequal : b.val - r.start.val = r.size := by
        rw [← UInt64.toNat_inj, hsize hle]
        omega
      rw [hequal]
  · rename_i hle
    rw [Address.le_iff_toNat] at hle
    constructor
    · intro h
      cases h
    · rintro ⟨rfl, hstop⟩
      have hsum := stop_eq_ok.mp hstop
      omega

lemma exists_between (hle : a.toNat ≤ b.toNat) :
    ∃ r, between a b = .ok r ∧ r.start.toNat = a.toNat ∧ r.bound = b.toNat := by
  have hok : between a b = .ok ⟨a, b.val - a.val⟩ := if_pos (Address.le_iff_toNat.mpr hle)
  obtain ⟨-, hstop⟩ := between_eq_ok.mp hok
  exact ⟨_, hok, rfl, stop_eq_ok.mp hstop⟩

lemma containsAddress_eq (h : r.Bounded) (a : Address) :
    r.containsAddress a = .ok (decide (a ∈ r)) := by
  obtain ⟨stop, hstop, hbound⟩ := exists_stop h
  unfold containsAddress
  split
  · rename_i hstart
    have hmem : a < stop ↔ a ∈ r := by
      rw [mem_iff, Address.lt_iff_toNat, hbound, ← Address.le_iff_toNat]
      exact (and_iff_right hstart).symm
    rw [hstop]
    exact congrArg Except.ok (decide_eq_decide.mpr hmem)
  · rename_i hstart
    have hmem : a ∉ r := fun hmem => hstart hmem.1
    rw [decide_eq_false hmem]

/-- A region that is not empty and has no end lies within none. -/
lemma contains_eq_true_iff (hr : r.Bounded) : r.contains other = .ok true ↔
    other.isEmpty = true ∨ r.start.toNat ≤ other.start.toNat ∧ other.bound ≤ r.bound := by
  obtain ⟨stop, hstop, hbound⟩ := exists_stop hr
  rw [← Address.le_iff_toNat]
  unfold contains
  split
  · rename_i hempty
    exact iff_of_true rfl (.inl hempty)
  · rename_i hempty
    rw [or_iff_right hempty]
    split
    · rename_i hstart
      rw [and_iff_right hstart, bind_eq_ok]
      constructor
      · rintro ⟨otherStop, hother, hle⟩
        rw [hstop] at hle
        have hle' : otherStop ≤ stop := of_decide_eq_true (Except.ok.inj hle)
        rw [Address.le_iff_toNat, ← stop_eq_ok.mp hother, hbound] at hle'
        exact hle'
      · intro hle
        obtain ⟨otherStop, hother, hotherBound⟩ := exists_stop (Nat.lt_of_le_of_lt hle hr)
        refine ⟨otherStop, hother, ?_⟩
        rw [hstop]
        apply congrArg Except.ok
        apply decide_eq_true
        rwa [Address.le_iff_toNat, hotherBound, hbound]
    · rename_i hstart
      exact iff_of_false (by simp) fun h => hstart h.1

lemma exists_contains (hr : r.Bounded) (hother : other.Bounded) :
    ∃ inside, r.contains other = .ok inside := by
  obtain ⟨stop, hstop, -⟩ := exists_stop hr
  obtain ⟨otherStop, hotherStop, -⟩ := exists_stop hother
  unfold contains
  split
  · exact ⟨_, rfl⟩
  · split
    · rw [hotherStop, hstop]
      exact ⟨_, rfl⟩
    · exact ⟨_, rfl⟩

/-- The region runs from the greater start of two regions to their lesser bound, or is empty if that
lies below. -/
structure IsOverlap (both r other : Region) : Prop where
  start : both.start.toNat = max r.start.toNat other.start.toNat
  bound : both.bound = max both.start.toNat (min r.bound other.bound)

namespace IsOverlap

variable {both rest all third : Region}

lemma bounded (h : both.IsOverlap r other) (hr : r.Bounded) : both.Bounded := by
  have hstart := both.start.toNat_lt
  have hbound := h.bound
  change r.bound < 2 ^ 64 at hr
  change both.bound < 2 ^ 64
  omega

lemma eq {both' : Region} (h : both.IsOverlap r other) (h' : both'.IsOverlap r other) :
    both = both' := by
  have hstart := h.start.trans h'.start.symm
  apply ext_bound hstart
  rw [h.bound, h'.bound, hstart]

lemma symm (h : both.IsOverlap r other) : both.IsOverlap other r :=
  ⟨h.start.trans (Nat.max_comm _ _), h.bound.trans (Nat.min_comm other.bound _ ▸ rfl)⟩

lemma self (r : Region) : r.IsOverlap r r := by
  have hle := r.start_le_bound
  exact ⟨by omega, by omega⟩

/-- Where an overlap is empty, its start is not above the start of a further overlap with it, so
that only the three bounds matter. -/
lemma assoc (hboth : both.IsOverlap r other) (hrest : rest.IsOverlap other third)
    (hall : all.IsOverlap both third) : all.IsOverlap r rest := by
  have hstart : all.start.toNat = max r.start.toNat rest.start.toNat := by
    rw [hall.start, hboth.start, hrest.start, Nat.max_assoc]
  have hleft : both.start.toNat ≤ all.start.toNat := hall.start ▸ Nat.le_max_left _ _
  have hright : rest.start.toNat ≤ all.start.toNat := hstart ▸ Nat.le_max_right _ _
  have habsorb : ∀ {start bound bound' : Nat}, start ≤ all.start.toNat →
      max all.start.toNat (min bound (max start bound')) =
        max all.start.toNat (min bound bound') := by omega
  refine ⟨hstart, ?_⟩
  calc all.bound
      = max all.start.toNat (min third.bound both.bound) := by rw [hall.bound, Nat.min_comm]
    _ = max all.start.toNat (min third.bound (min r.bound other.bound)) := by
        rw [hboth.bound, habsorb hleft]
    _ = max all.start.toNat (min r.bound (min other.bound third.bound)) := by
        rw [Nat.min_comm, Nat.min_assoc]
    _ = max all.start.toNat (min r.bound rest.bound) := by rw [hrest.bound, habsorb hright]

end IsOverlap

lemma exists_intersection (hr : r.Bounded) (hother : other.Bounded) :
    ∃ both, r.intersection other = .ok both ∧ both.IsOverlap r other := by
  obtain ⟨stop, hstop, hbound⟩ := exists_stop hr
  obtain ⟨otherStop, hotherStop, hotherBound⟩ := exists_stop hother
  have hmax := Address.toNat_max r.start other.start
  have hmin := Address.toNat_min stop otherStop
  have hends : r.intersection other =
      if max r.start other.start < min stop otherStop
      then between (max r.start other.start) (min stop otherStop)
      else .ok ⟨max r.start other.start, 0⟩ := by
    rw [intersection, hstop, hotherStop]
    rfl
  rw [hends]
  split
  · rename_i hlt
    rw [Address.lt_iff_toNat] at hlt
    obtain ⟨both, hboth, hbothStart, hbothBound⟩ := exists_between (Nat.le_of_lt hlt)
    exact ⟨both, hboth, by omega, by omega⟩
  · rename_i hlt
    rw [Address.lt_iff_toNat] at hlt
    refine ⟨_, rfl, hmax, ?_⟩
    change (max r.start other.start).toNat + 0 = max (max r.start other.start).toNat _
    omega

lemma intersection_eq_ok_iff {both : Region} (hr : r.Bounded) (hother : other.Bounded) :
    r.intersection other = .ok both ↔ both.IsOverlap r other := by
  obtain ⟨overlap, hoverlap, hends⟩ := exists_intersection hr hother
  rw [hoverlap, Except.ok.injEq]
  constructor
  · rintro rfl
    exact hends
  · exact hends.eq

/-- Neither region starts above the end of the other. -/
def Touches (r other : Region) : Prop :=
  r.start.toNat ≤ other.bound ∧ other.start.toNat ≤ r.bound

/-- The region runs from the lesser start of two regions to their greater bound. -/
structure IsSpan (whole r other : Region) : Prop where
  start : whole.start.toNat = min r.start.toNat other.start.toNat
  bound : whole.bound = max r.bound other.bound

namespace IsSpan

variable {whole : Region}

lemma bounded (h : whole.IsSpan r other) (hr : r.Bounded) (hother : other.Bounded) :
    whole.Bounded := by
  have hbound := h.bound
  change r.bound < 2 ^ 64 at hr
  change other.bound < 2 ^ 64 at hother
  change whole.bound < 2 ^ 64
  omega

lemma isEmpty_eq_false (h : whole.IsSpan r other) (hr : r.isEmpty = false) :
    whole.isEmpty = false := by
  have hstart := h.start
  have hbound := h.bound
  rw [isEmpty_eq_false_iff] at hr ⊢
  omega

end IsSpan

lemma union_of_isEmpty (hr : r.isEmpty = true) : r.union other = .ok other := if_pos hr

lemma union_of_isEmpty_right (hr : r.isEmpty = false) (hother : other.isEmpty = true) :
    r.union other = .ok r := by
  rw [union, hr, if_neg Bool.false_ne_true, if_pos hother]

section Union

variable (hr : r.Bounded) (hother : other.Bounded)

include hr hother

lemma exists_union (hfilled : r.isEmpty = false) (hotherFilled : other.isEmpty = false)
    (h : r.Touches other) : ∃ whole, r.union other = .ok whole ∧ whole.IsSpan r other := by
  obtain ⟨stop, hstop, hbound⟩ := exists_stop hr
  obtain ⟨otherStop, hotherStop, hotherBound⟩ := exists_stop hother
  have hmin := Address.toNat_min r.start other.start
  have hmax := Address.toNat_max stop otherStop
  have hle : r.start ≤ otherStop := Address.le_iff_toNat.mpr (hotherBound ▸ h.1)
  have hle' : other.start ≤ stop := Address.le_iff_toNat.mpr (hbound ▸ h.2)
  have hends : r.union other = between (min r.start other.start) (max stop otherStop) := by
    rw [union, hfilled, hotherFilled, hotherStop, hstop]
    exact (if_pos hle).trans (if_pos hle')
  have hlength := r.start_le_bound
  obtain ⟨whole, hwhole, hstart, hend⟩ := exists_between
    (a := min r.start other.start) (b := max stop otherStop) (by omega)
  exact ⟨whole, hends.trans hwhole, by omega, by omega⟩

lemma union_of_not_touches (hfilled : r.isEmpty = false) (hotherFilled : other.isEmpty = false)
    (h : ¬r.Touches other) :
    r.union other = .error (.disjointUnion r.start r.size other.start other.size) := by
  obtain ⟨stop, hstop, hbound⟩ := exists_stop hr
  obtain ⟨otherStop, hotherStop, hotherBound⟩ := exists_stop hother
  rw [union, hfilled, hotherFilled, hotherStop, hstop]
  by_cases hle : r.start ≤ otherStop
  · have hle' : ¬other.start ≤ stop := by
      rw [Address.le_iff_toNat] at hle ⊢
      intro hle'
      exact h ⟨hotherBound ▸ hle, hbound ▸ hle'⟩
    exact (if_pos hle).trans (if_neg hle')
  · exact if_neg hle

/-- A union is one of the two regions if the other is empty; otherwise it is their span if they
touch, and there is none if they do not. -/
lemma union_cases :
    r.isEmpty = true ∧ r.union other = .ok other ∨
    r.isEmpty = false ∧ other.isEmpty = true ∧ r.union other = .ok r ∨
    r.isEmpty = false ∧ other.isEmpty = false ∧ r.Touches other ∧
      (∃ whole, r.union other = .ok whole ∧ whole.IsSpan r other) ∨
    r.isEmpty = false ∧ other.isEmpty = false ∧ ¬r.Touches other ∧
      r.union other = .error (.disjointUnion r.start r.size other.start other.size) := by
  cases hfilled : r.isEmpty with
  | true => exact .inl ⟨rfl, union_of_isEmpty hfilled⟩
  | false =>
    cases hotherFilled : other.isEmpty with
    | true => exact .inr (.inl ⟨rfl, rfl, union_of_isEmpty_right hfilled hotherFilled⟩)
    | false =>
      by_cases htouches : r.Touches other
      · have hspan := exists_union hr hother hfilled hotherFilled htouches
        exact .inr (.inr (.inl ⟨rfl, rfl, htouches, hspan⟩))
      · have hnone := union_of_not_touches hr hother hfilled hotherFilled htouches
        exact .inr (.inr (.inr ⟨rfl, rfl, htouches, hnone⟩))

lemma union_eq_error_iff {fault : Fault} : r.union other = .error fault ↔
    fault = .disjointUnion r.start r.size other.start other.size ∧
      r.isEmpty = false ∧ other.isEmpty = false ∧ ¬r.Touches other := by
  rcases union_cases hr hother with ⟨hempty, hunion⟩ | ⟨-, hempty, hunion⟩ |
    ⟨-, -, htouches, whole, hunion, -⟩ | ⟨hfilled, hotherFilled, htouches, hunion⟩
  · simp [hunion, hempty]
  · simp [hunion, hempty]
  · simp [hunion, htouches]
  · simp [hunion, hfilled, hotherFilled, htouches, eq_comm]

end Union

end Region

end WriteBarrier
