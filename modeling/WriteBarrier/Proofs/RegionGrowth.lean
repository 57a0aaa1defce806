import Mathlib.Order.Bounds.Basic
import WriteBarrier.Proofs.RegionLaws

/-!
# Growing a region by pieces

A region that is grown from the empty one by unions with piece after piece. However the pieces are
ordered, it runs from the lowest start to the highest end of those that are not empty, provided that
no union along the way meets a gap.
-/

namespace WriteBarrier.Region

/-- The values of the pieces that are not empty. -/
def filledValues (value : Region → Nat) (pieces : List Region) : Set Nat :=
  {n | ∃ p ∈ pieces, p.isEmpty = false ∧ value p = n}

/-- The region runs from the lowest start to the highest end of the pieces that are not empty. -/
structure IsHull (r : Region) (pieces : List Region) : Prop where
  start : IsLeast (filledValues (·.start.toNat) pieces) r.start.toNat
  bound : IsGreatest (filledValues Region.bound pieces) r.bound

/-- What a region is after it was grown by pieces from the empty one. -/
structure IsGrown (r : Region) (pieces : List Region) : Prop where
  bounded : r.Bounded
  mem_iff : ∀ a, a ∈ r.addresses ↔ ∃ p ∈ pieces, a ∈ p.addresses
  isEmpty : r.isEmpty = true → ∀ p ∈ pieces, p.isEmpty = true
  hull : r.isEmpty = false → r.IsHull pieces

variable {value : Region → Nat} {r p whole grown : Region} {seen pieces : List Region}

lemma filledValues_append (pieces later : List Region) :
    filledValues value (pieces ++ later) = filledValues value pieces ∪ filledValues value later := by
  ext n
  simp only [filledValues, Set.mem_ofPred_eq, Set.mem_union, List.mem_append, or_and_right,
    exists_or]

lemma filledValues_singleton (h : p.isEmpty = false) : filledValues value [p] = {value p} := by
  ext n
  simp only [filledValues, Set.mem_ofPred_eq, List.mem_singleton, exists_eq_left, h, true_and,
    Set.mem_singleton_iff]
  exact eq_comm

lemma filledValues_eq_empty (h : ∀ p ∈ pieces, p.isEmpty = true) :
    filledValues value pieces = ∅ := by
  rw [Set.eq_empty_iff_forall_notMem]
  rintro n ⟨p, hp, hfilled, -⟩
  rw [h p hp] at hfilled
  cases hfilled

namespace IsHull

lemma eq (h : r.IsHull pieces) (h' : whole.IsHull pieces) : r = whole :=
  ext_bound (h.start.unique h'.start) (h.bound.unique h'.bound)

lemma congr (h : r.IsHull pieces)
    (hsame : ∀ value, filledValues value seen = filledValues value pieces) : r.IsHull seen :=
  ⟨hsame _ ▸ h.start, hsame _ ▸ h.bound⟩

lemma singleton (h : p.isEmpty = false) : p.IsHull [p] :=
  ⟨filledValues_singleton h ▸ isLeast_singleton, filledValues_singleton h ▸ isGreatest_singleton⟩

lemma append_of_isSpan (h : r.IsHull seen) (hp : p.isEmpty = false) (hspan : whole.IsSpan r p) :
    whole.IsHull (seen ++ [p]) := by
  constructor
  · rw [filledValues_append, hspan.start]
    exact h.start.union (singleton hp).start
  · rw [filledValues_append, hspan.bound]
    exact h.bound.union (singleton hp).bound

end IsHull

namespace IsGrown

lemma nil : Region.empty.IsGrown [] := by
  refine ⟨by decide, ?_, fun _ p hp => absurd hp List.not_mem_nil, fun h => absurd h (by decide)⟩
  intro a
  simp [addresses_eq_empty (r := Region.empty) (by decide) rfl]

/-- The cases are those of a union: the piece takes the place of an empty region, an empty piece
changes nothing, and the span of the region and a piece that touches it is a hull again. -/
lemma union (h : r.IsGrown seen) (hp : p.Bounded) (hunion : r.union p = .ok whole) :
    whole.IsGrown (seen ++ [p]) := by
  have hmem : ∀ a, a ∈ whole.addresses ↔ ∃ q ∈ seen ++ [p], a ∈ q.addresses := by
    intro a
    rw [addresses_union h.bounded hp hunion, Set.mem_union, h.mem_iff]
    simp [or_and_right, exists_or]
  rcases union_cases h.bounded hp with ⟨hempty, hcase⟩ | ⟨hfilled, hempty, hcase⟩ |
    ⟨hfilled, hpFilled, -, span, hcase, hspan⟩ | ⟨-, -, -, hcase⟩
  · cases hcase.symm.trans hunion
    have hseen := h.isEmpty hempty
    refine ⟨hp, hmem, ?_, ?_⟩
    · intro hpEmpty
      exact List.forall_mem_append.mpr ⟨hseen, List.forall_mem_singleton.mpr hpEmpty⟩
    · intro hpFilled
      apply (IsHull.singleton hpFilled).congr
      intro value
      rw [filledValues_append, filledValues_eq_empty hseen, Set.empty_union]
  · cases hcase.symm.trans hunion
    refine ⟨h.bounded, hmem, fun hrEmpty => ?_, fun _ => (h.hull hfilled).congr ?_⟩
    · rw [hfilled] at hrEmpty
      cases hrEmpty
    · intro value
      rw [filledValues_append, filledValues_eq_empty (List.forall_mem_singleton.mpr hempty),
        Set.union_empty]
  · cases hcase.symm.trans hunion
    refine ⟨hspan.bounded h.bounded hp, hmem, fun hempty => ?_,
      fun _ => (h.hull hfilled).append_of_isSpan hpFilled hspan⟩
    rw [hspan.isEmpty_eq_false hfilled] at hempty
    cases hempty
  · cases hcase.symm.trans hunion

lemma foldlM (h : r.IsGrown seen) (hpieces : ∀ p ∈ pieces, p.Bounded)
    (hfold : pieces.foldlM Region.union r = .ok grown) : grown.IsGrown (seen ++ pieces) := by
  induction pieces generalizing r seen with
  | nil =>
    cases hfold
    rw [List.append_nil]
    exact h
  | cons p pieces ih =>
    rw [List.foldlM_cons, bind_eq_ok] at hfold
    obtain ⟨next, hnext, hrest⟩ := hfold
    rw [List.append_cons]
    exact ih (h.union (hpieces p (.head _)) hnext) (fun q hq => hpieces q (.tail _ hq)) hrest

end IsGrown

/-- Growing a region by pieces that have an end, at least one of them not empty, gives the region
from the lowest start to the highest end of those that are not empty, and it contains what some
piece contains. So every order of the pieces in which no union meets a gap gives the same region. -/
theorem growth_spans_pieces (hpieces : ∀ p ∈ pieces, p.Bounded)
    (hfilled : ∃ p ∈ pieces, p.isEmpty = false)
    (hgrown : pieces.foldlM Region.union empty = .ok grown) :
    grown.Bounded ∧
    grown.IsHull pieces ∧
    (∀ a, grown.containsAddress a = .ok true ↔ ∃ p ∈ pieces, p.containsAddress a = .ok true) ∧
    ∀ (order : List Region) (whole : Region), order.Perm pieces →
      order.foldlM Region.union empty = .ok whole → whole = grown := by
  have hall := IsGrown.nil.foldlM hpieces hgrown
  have hhull : ∀ {order : List Region} {whole : Region}, order.Perm pieces →
      whole.IsGrown order → whole.IsHull order := by
    intro order whole hperm h
    apply h.hull
    rw [Bool.eq_false_iff]
    intro hempty
    obtain ⟨p, hp, hpFilled⟩ := hfilled
    rw [h.isEmpty hempty p (hperm.mem_iff.mpr hp)] at hpFilled
    cases hpFilled
  have hgrownHull := hhull (.refl _) hall
  refine ⟨hall.bounded, hgrownHull, hall.mem_iff, ?_⟩
  intro order whole hperm hwhole
  have hother := IsGrown.nil.foldlM (fun p hp => hpieces p (hperm.mem_iff.mp hp)) hwhole
  apply ((hhull hperm hother).congr _).eq hgrownHull
  intro value
  simp only [filledValues, hperm.mem_iff]

theorem growth_spans_pieces_in_two_orders :
    let apart : Region := ⟨⟨0x9000⟩, 0⟩
    let low : Region := ⟨⟨0x1000⟩, 0x1000⟩
    let middle : Region := ⟨⟨0x1800⟩, 0x1000⟩
    let high : Region := ⟨⟨0x2800⟩, 0x800⟩
    let whole : Region := ⟨⟨0x1000⟩, 0x2000⟩
    (∀ p ∈ [apart, low, middle, high], p.Bounded) ∧
    [apart, low, middle, high].foldlM Region.union empty = .ok whole ∧
    whole.IsHull [apart, low, middle, high] ∧
    (∃ other, [high, middle, apart, low].foldlM Region.union empty = .ok other) ∧
    ∀ other, [high, middle, apart, low].foldlM Region.union empty = .ok other → other = whole := by
  intro apart low middle high whole
  have hpieces : ∀ p ∈ [apart, low, middle, high], p.Bounded := by decide
  have hgrown : [apart, low, middle, high].foldlM Region.union empty = .ok whole := by decide
  have hother : [high, middle, apart, low].foldlM Region.union empty = .ok whole := by decide
  obtain ⟨-, hhull, -, horders⟩ := growth_spans_pieces hpieces ⟨low, by decide, rfl⟩ hgrown
  exact ⟨hpieces, hgrown, hhull, ⟨whole, hother⟩, fun other => horders _ other (by decide)⟩

end WriteBarrier.Region
