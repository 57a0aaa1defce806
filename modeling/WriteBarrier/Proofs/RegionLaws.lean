import Mathlib.Data.Set.Basic
import WriteBarrier.Proofs.RegionArithmetic

/-!
# Laws of regions

A region denotes the set of the addresses that it is found to contain. Containment, intersection and
union of regions are those of the sets, except that a union with a gap does not exist. Regions that
denote the empty set differ by their starts; intersection is a meet of regions all the same.
-/

namespace WriteBarrier.Region

/-- The addresses that the region is found to contain. -/
def addresses (r : Region) : Set Address := {a | r.containsAddress a = .ok true}

/-- An address lies between the two: above all of the region and below all of the other. -/
def Precedes (r other : Region) : Prop :=
  ∃ gap : Address, (∀ a ∈ r.addresses, a < gap) ∧ ∀ a ∈ other.addresses, gap < a

variable {r other both whole : Region} {a : Address}

lemma mem_addresses (h : r.Bounded) :
    a ∈ r.addresses ↔ r.start.toNat ≤ a.toNat ∧ a.toNat < r.bound := by
  rw [addresses, Set.mem_ofPred_eq, containsAddress_eq h, Except.ok.injEq, decide_eq_true_iff]
  exact mem_iff

lemma start_mem_addresses (h : r.Bounded) (hfilled : r.isEmpty = false) :
    r.start ∈ r.addresses :=
  (mem_addresses h).mpr ⟨Nat.le_refl _, isEmpty_eq_false_iff.mp hfilled⟩

/-- The last address of the region is the one below its bound. -/
lemma exists_last_mem_addresses (h : r.Bounded) (hfilled : r.isEmpty = false) :
    ∃ a ∈ r.addresses, a.toNat + 1 = r.bound := by
  have hlength := isEmpty_eq_false_iff.mp hfilled
  change r.bound < 2 ^ 64 at h
  obtain ⟨w, hw⟩ := Word.exists_toNat_eq (n := r.bound - 1) (by omega)
  have hlast : Address.toNat ⟨w⟩ = r.bound - 1 := hw
  exact ⟨⟨w⟩, (mem_addresses h).mpr ⟨by omega, by omega⟩, by omega⟩

lemma addresses_nonempty_iff (h : r.Bounded) : r.addresses.Nonempty ↔ r.isEmpty = false := by
  constructor
  · rintro ⟨a, ha⟩
    rw [mem_addresses h] at ha
    rw [isEmpty_eq_false_iff]
    omega
  · intro hfilled
    exact ⟨r.start, start_mem_addresses h hfilled⟩

lemma addresses_subset_iff (hr : r.Bounded) (hother : other.Bounded) :
    other.addresses ⊆ r.addresses ↔
      other.isEmpty = true ∨ r.start.toNat ≤ other.start.toNat ∧ other.bound ≤ r.bound := by
  constructor
  · intro hsubset
    cases hempty : other.isEmpty with
    | true => exact .inl rfl
    | false =>
      obtain ⟨last, hlast, hbound⟩ := exists_last_mem_addresses hother hempty
      have hfirst := (mem_addresses hr).mp (hsubset (start_mem_addresses hother hempty))
      have hlast' := (mem_addresses hr).mp (hsubset hlast)
      exact .inr ⟨hfirst.1, by omega⟩
  · intro hinside a ha
    rw [mem_addresses hother] at ha
    rw [mem_addresses hr]
    rw [isEmpty_iff] at hinside
    omega

lemma IsOverlap.addresses_eq (h : both.IsOverlap r other) (hr : r.Bounded)
    (hother : other.Bounded) : both.addresses = r.addresses ∩ other.addresses := by
  have hstart := h.start
  have hbound := h.bound
  ext a
  rw [Set.mem_inter_iff, mem_addresses (h.bounded hr), mem_addresses hr, mem_addresses hother]
  omega

/-- Nothing but the two regions lies between their ends if they touch. -/
lemma IsSpan.addresses_eq (h : whole.IsSpan r other) (htouches : r.Touches other)
    (hr : r.Bounded) (hother : other.Bounded) :
    whole.addresses = r.addresses ∪ other.addresses := by
  have hstart := h.start
  have hbound := h.bound
  have hlength := r.start_le_bound
  have hlength' := other.start_le_bound
  obtain ⟨hle, hle'⟩ := htouches
  ext a
  rw [Set.mem_union, mem_addresses (h.bounded hr hother), mem_addresses hr, mem_addresses hother]
  omega

lemma precedes_iff (hr : r.Bounded) (hother : other.Bounded) (hfilled : r.isEmpty = false)
    (hotherFilled : other.isEmpty = false) : r.Precedes other ↔ r.bound < other.start.toNat := by
  constructor
  · rintro ⟨gap, habove, hbelow⟩
    obtain ⟨last, hlast, hbound⟩ := exists_last_mem_addresses hr hfilled
    have hlow := Address.lt_iff_toNat.mp (habove last hlast)
    have hhigh := Address.lt_iff_toNat.mp (hbelow _ (start_mem_addresses hother hotherFilled))
    omega
  · intro hlt
    obtain ⟨stop, -, hbound⟩ := exists_stop hr
    refine ⟨stop, ?_, ?_⟩
    · intro a ha
      rw [mem_addresses hr] at ha
      rw [Address.lt_iff_toNat, hbound]
      exact ha.2
    · intro a ha
      rw [mem_addresses hother] at ha
      rw [Address.lt_iff_toNat, hbound]
      exact Nat.lt_of_lt_of_le hlt ha.1

lemma not_touches_iff (hr : r.Bounded) (hother : other.Bounded) (hfilled : r.isEmpty = false)
    (hotherFilled : other.isEmpty = false) :
    ¬r.Touches other ↔ r.Precedes other ∨ other.Precedes r := by
  rw [precedes_iff hr hother hfilled hotherFilled, precedes_iff hother hr hotherFilled hfilled,
    Touches]
  omega

lemma addresses_eq_empty (h : r.Bounded) (hempty : r.isEmpty = true) : r.addresses = ∅ := by
  rw [← Set.not_nonempty_iff_eq_empty, addresses_nonempty_iff h, hempty]
  exact Bool.false_ne_true.symm

lemma addresses_union (hr : r.Bounded) (hother : other.Bounded) (h : r.union other = .ok whole) :
    whole.addresses = r.addresses ∪ other.addresses := by
  rcases union_cases hr hother with ⟨hempty, hunion⟩ | ⟨-, hempty, hunion⟩ |
    ⟨-, -, htouches, span, hunion, hspan⟩ | ⟨-, -, -, hunion⟩
  · cases hunion.symm.trans h
    rw [addresses_eq_empty hr hempty, Set.empty_union]
  · cases hunion.symm.trans h
    rw [addresses_eq_empty hother hempty, Set.union_empty]
  · cases hunion.symm.trans h
    exact hspan.addresses_eq htouches hr hother
  · cases hunion.symm.trans h

/-- The operations on regions that have an end are those on their sets of addresses. Containment is
inclusion, and an intersection always exists. A union exists unless an address lies between two
regions that are not empty. -/
theorem operations_on_addresses (hr : r.Bounded) (hother : other.Bounded) :
    (∃ inside, r.contains other = .ok inside ∧
      (inside = true ↔ other.addresses ⊆ r.addresses)) ∧
    (∃ both, r.intersection other = .ok both ∧
      both.addresses = r.addresses ∩ other.addresses) ∧
    (∀ fault, r.union other = .error fault ↔
      fault = .disjointUnion r.start r.size other.start other.size ∧
        r.addresses.Nonempty ∧ other.addresses.Nonempty ∧
        (r.Precedes other ∨ other.Precedes r)) ∧
    ∀ whole, r.union other = .ok whole → whole.addresses = r.addresses ∪ other.addresses := by
  refine ⟨?_, ?_, ?_, fun whole => addresses_union hr hother⟩
  · obtain ⟨inside, hinside⟩ := exists_contains hr hother
    refine ⟨inside, hinside, ?_⟩
    rw [addresses_subset_iff hr hother, ← contains_eq_true_iff hr, hinside, Except.ok.injEq]
  · obtain ⟨both, hboth, hoverlap⟩ := exists_intersection hr hother
    exact ⟨both, hboth, hoverlap.addresses_eq hr hother⟩
  · intro fault
    rw [union_eq_error_iff hr hother, addresses_nonempty_iff hr, addresses_nonempty_iff hother]
    apply and_congr_right
    intro _
    apply and_congr_right
    intro hfilled
    apply and_congr_right
    intro hotherFilled
    exact not_touches_iff hr hother hfilled hotherFilled

theorem operations_on_addresses_at_top_of_address_space :
    let low : Region := ⟨⟨0xfffffffffffff000⟩, 0x800⟩
    let high : Region := ⟨⟨0xfffffffffffff800⟩, 0x7ff⟩
    let whole : Region := ⟨⟨0xfffffffffffff000⟩, 0xfff⟩
    low.contains high = .ok false ∧ ¬high.addresses ⊆ low.addresses ∧
    low.intersection high = .ok ⟨high.start, 0⟩ ∧
    addresses ⟨high.start, 0⟩ = low.addresses ∩ high.addresses ∧
    low.union high = .ok whole ∧ whole.addresses = low.addresses ∪ high.addresses ∧
    ¬(low.Precedes high ∨ high.Precedes low) := by
  intro low high whole
  have hlow : low.Bounded := by decide
  have hhigh : high.Bounded := by decide
  obtain ⟨⟨inside, hinside, hsubset⟩, ⟨both, hboth, hmeet⟩, hgap, hjoin⟩ :=
    operations_on_addresses hlow hhigh
  have hcontains : low.contains high = .ok false := by decide
  have hintersection : low.intersection high = .ok ⟨high.start, 0⟩ := by decide
  have hunion : low.union high = .ok whole := by decide
  cases hinside.symm.trans hcontains
  cases hboth.symm.trans hintersection
  refine ⟨hcontains, ?_, hintersection, hmeet, hunion, hjoin whole hunion, ?_⟩
  · rw [← hsubset]
    exact Bool.false_ne_true
  · intro hprecedes
    have hfilled : low.addresses.Nonempty := (addresses_nonempty_iff hlow).mpr rfl
    have hfilled' : high.addresses.Nonempty := (addresses_nonempty_iff hhigh).mpr rfl
    cases hunion.symm.trans ((hgap _).mpr ⟨rfl, hfilled, hfilled', hprecedes⟩)

section Meet

variable {third inner : Region}

lemma IsOverlap.contains_left (h : both.IsOverlap r other) (hr : r.Bounded) :
    r.contains both = .ok true := by
  have hstart := h.start
  have hbound := h.bound
  rw [contains_eq_true_iff hr, isEmpty_iff]
  omega

lemma IsOverlap.contains_of_contains (h : both.IsOverlap r other) (hr : r.Bounded)
    (hother : other.Bounded) (hinner : r.contains inner = .ok true)
    (hinner' : other.contains inner = .ok true) : both.contains inner = .ok true := by
  have hstart := h.start
  have hbound := h.bound
  rw [contains_eq_true_iff hr] at hinner
  rw [contains_eq_true_iff hother] at hinner'
  rw [contains_eq_true_iff (h.bounded hr)]
  rcases hinner with hempty | hinner
  · exact .inl hempty
  · rcases hinner' with hempty | hinner'
    · exact .inl hempty
    · exact .inr ⟨by omega, by omega⟩

/-- Intersection is a meet of regions that have an end, down to the starts of empty ones. It always
exists and depends neither on the order nor on the grouping of the regions, and of the regions that
lie within two others it is the greatest. -/
theorem intersection_is_meet (hr : r.Bounded) (hother : other.Bounded) (hthird : third.Bounded) :
    ∃ both rest all, r.intersection other = .ok both ∧ other.intersection r = .ok both ∧
      other.intersection third = .ok rest ∧
      both.intersection third = .ok all ∧ r.intersection rest = .ok all ∧
      r.intersection r = .ok r ∧
      r.contains both = .ok true ∧ other.contains both = .ok true ∧
      ∀ inner, r.contains inner = .ok true → other.contains inner = .ok true →
        both.contains inner = .ok true := by
  obtain ⟨both, hboth, hoverlap⟩ := exists_intersection hr hother
  obtain ⟨rest, hrest, hoverlap'⟩ := exists_intersection hother hthird
  obtain ⟨all, hall, hoverlap''⟩ := exists_intersection (hoverlap.bounded hr) hthird
  refine ⟨both, rest, all, hboth, ?_, hrest, hall, ?_, ?_, ?_, ?_, ?_⟩
  · exact (intersection_eq_ok_iff hother hr).mpr hoverlap.symm
  · rw [intersection_eq_ok_iff hr (hoverlap'.bounded hother)]
    exact hoverlap.assoc hoverlap' hoverlap''
  · exact (intersection_eq_ok_iff hr hr).mpr (.self r)
  · exact hoverlap.contains_left hr
  · exact hoverlap.symm.contains_left hother
  · exact fun inner => hoverlap.contains_of_contains hr hother

theorem intersection_is_meet_of_empty_overlaps :
    let low : Region := ⟨⟨0x1000⟩, 0x1000⟩
    let empty : Region := ⟨⟨0x3000⟩, 0⟩
    let high : Region := ⟨⟨0x4000⟩, 0x1000⟩
    low.intersection empty = .ok empty ∧ empty.intersection low = .ok empty ∧
    empty.intersection high = .ok ⟨high.start, 0⟩ ∧
    low.intersection ⟨high.start, 0⟩ = .ok ⟨high.start, 0⟩ ∧
    low.contains empty = .ok true := by
  intro low empty high
  have hlow : low.Bounded := by decide
  have hempty : empty.Bounded := by decide
  have hhigh : high.Bounded := by decide
  obtain ⟨both, rest, all, hboth, hcomm, hrest, hall, hassoc, -, hinside, -⟩ :=
    intersection_is_meet hlow hempty hhigh
  have hboth' : low.intersection empty = .ok empty := by decide
  have hrest' : empty.intersection high = .ok ⟨high.start, 0⟩ := by decide
  cases hboth.symm.trans hboth'
  cases hrest.symm.trans hrest'
  cases hall.symm.trans hrest'
  exact ⟨hboth, hcomm, hrest, hassoc, hinside⟩

end Meet

end WriteBarrier.Region
