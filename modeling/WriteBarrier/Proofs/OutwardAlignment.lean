import WriteBarrier.Proofs.RegionArithmetic
import WriteBarrier.Proofs.WordRounding

/-!
# Outward alignment

A region that is grown until its ends are multiples of a power of two runs from the greatest
multiple that is not above its start to the least one that is not below its end. So it is the least
of the regions with such ends around it, and the other laws follow from that.
-/

namespace WriteBarrier.Region

/-- Some address at or above the end of the region is a multiple of `unit`. -/
def Alignable (r : Region) (unit : Nat) : Prop :=
  ∃ a : Address, a.toNat ∈ multiplesFrom unit r.bound

/-- The ends of the region are multiples of `unit`, and the other region lies between them. -/
structure IsAlignedCover (cover r : Region) (unit : Nat) : Prop where
  bounded : cover.Bounded
  start_dvd : unit ∣ cover.start.toNat
  bound_dvd : unit ∣ cover.bound
  start_le : cover.start.toNat ≤ r.start.toNat
  le_bound : r.bound ≤ cover.bound

/-- The ends of the region are the multiples of `unit` next to those of the other. -/
structure IsRoundedOut (cover r : Region) (unit : Nat) : Prop where
  start : IsGreatest (multiplesUpTo unit r.start.toNat) cover.start.toNat
  bound : IsLeast (multiplesFrom unit r.bound) cover.bound

variable {r inner cover other : Region} {unit : Nat} {align : Word}

lemma Alignable.bounded (h : r.Alignable unit) : r.Bounded := by
  obtain ⟨a, -, hle⟩ := h
  exact Nat.lt_of_le_of_lt hle a.toNat_lt

lemma Alignable.of_bound_le (h : r.Alignable unit) (hbound : inner.bound ≤ r.bound) :
    inner.Alignable unit := by
  obtain ⟨a, hdvd, hle⟩ := h
  exact ⟨a, hdvd, Nat.le_trans hbound hle⟩

namespace IsAlignedCover

lemma alignable (h : cover.IsAlignedCover r unit) : cover.Alignable unit := by
  obtain ⟨stop, -, hstop⟩ := exists_stop h.bounded
  have hbound := h.bound_dvd
  rw [← hstop] at hbound
  exact ⟨stop, hbound, Nat.le_of_eq hstop.symm⟩

lemma mono (h : cover.IsAlignedCover r unit) (hstart : r.start.toNat ≤ inner.start.toNat)
    (hbound : inner.bound ≤ r.bound) : cover.IsAlignedCover inner unit :=
  { h with
    start_le := Nat.le_trans h.start_le hstart
    le_bound := Nat.le_trans hbound h.le_bound }

lemma isRoundedOut_self (h : cover.IsAlignedCover r unit) : cover.IsRoundedOut cover unit :=
  ⟨isGreatest_self h.start_dvd, isLeast_self h.bound_dvd⟩

end IsAlignedCover

namespace IsRoundedOut

lemma eq (h : cover.IsRoundedOut r unit) (h' : other.IsRoundedOut r unit) : cover = other :=
  ext_bound (h.start.unique h'.start) (h.bound.unique h'.bound)

lemma bounded (h : cover.IsRoundedOut r unit) (hr : r.Alignable unit) : cover.Bounded := by
  obtain ⟨a, ha⟩ := hr
  exact Nat.lt_of_le_of_lt (h.bound.2 ha) a.toNat_lt

lemma isAlignedCover (h : cover.IsRoundedOut r unit) (hr : r.Alignable unit) :
    cover.IsAlignedCover r unit where
  bounded := h.bounded hr
  start_dvd := h.start.1.1
  bound_dvd := h.bound.1.1
  start_le := h.start.1.2
  le_bound := h.bound.1.2

lemma contains (h : cover.IsRoundedOut r unit) (hother : other.IsAlignedCover r unit) :
    other.contains cover = .ok true := by
  rw [contains_eq_true_iff hother.bounded]
  refine .inr ⟨?_, ?_⟩
  · exact h.start.2 ⟨hother.start_dvd, hother.start_le⟩
  · exact h.bound.2 ⟨hother.bound_dvd, hother.le_bound⟩

end IsRoundedOut

lemma exists_alignOutward {k : Nat} (hpower : align.toNat = 2 ^ k) (hr : r.Alignable align.toNat) :
    ∃ cover, r.alignOutward align = .ok cover ∧ cover.IsRoundedOut r align.toNat := by
  obtain ⟨stop, hstop, hend⟩ := exists_stop hr.bounded
  obtain ⟨a, ha⟩ := hr
  have hlength := r.start_le_bound
  have hdown : IsGreatest (multiplesUpTo align.toNat r.start.toNat)
      (r.start.alignDown align).toNat := Word.isGreatest_alignDown hpower
  have hup : IsLeast (multiplesFrom align.toNat r.bound) (stop.alignUp align).toNat := by
    rw [← hend] at ha ⊢
    exact Word.isLeast_alignUp hpower ha a.toNat_lt
  have hends : r.alignOutward align = between (r.start.alignDown align) (stop.alignUp align) := by
    rw [alignOutward, hstop]
    rfl
  have hstart := hdown.1.2
  have hbound := hup.1.2
  obtain ⟨cover, hcover, hcoverStart, hcoverBound⟩ := exists_between
    (a := r.start.alignDown align) (b := stop.alignUp align) (by omega)
  exact ⟨cover, hends.trans hcover, hcoverStart ▸ hdown, hcoverBound ▸ hup⟩

/-- Aligning a region outward gives the least region around it whose ends are multiples of the power
of two. Doing it again changes nothing, and of two regions with one between the ends of the other
the results are in this order as well. -/
theorem outward_alignment_is_least_cover {k : Nat} (hpower : align.toNat = 2 ^ k)
    (hr : r.Alignable align.toNat) :
    ∃ cover, r.alignOutward align = .ok cover ∧ cover.IsAlignedCover r align.toNat ∧
      (∀ other : Region, other.IsAlignedCover r align.toNat → other.contains cover = .ok true) ∧
      cover.alignOutward align = .ok cover ∧
      ∀ inner : Region, r.start ≤ inner.start → inner.bound ≤ r.bound →
        ∃ innerCover, inner.alignOutward align = .ok innerCover ∧
          cover.contains innerCover = .ok true := by
  obtain ⟨cover, hcover, hrounded⟩ := exists_alignOutward hpower hr
  have haligned := hrounded.isAlignedCover hr
  refine ⟨cover, hcover, haligned, fun other => hrounded.contains, ?_, ?_⟩
  · obtain ⟨again, hagain, hroundedAgain⟩ := exists_alignOutward hpower haligned.alignable
    rw [hagain, hroundedAgain.eq haligned.isRoundedOut_self]
  · intro inner hstart hbound
    obtain ⟨innerCover, hinner, hinnerRounded⟩ :=
      exists_alignOutward hpower (hr.of_bound_le hbound)
    have haround := haligned.mono (Address.le_iff_toNat.mp hstart) hbound
    exact ⟨innerCover, hinner, hinnerRounded.contains haround⟩

theorem outward_alignment_is_least_cover_of_empty_inner :
    let align : Word := 0x1000
    let r : Region := ⟨⟨0xffffffffffffe123⟩, 0xedd⟩
    let inner : Region := ⟨⟨0xffffffffffffe800⟩, 0⟩
    let cover : Region := ⟨⟨0xffffffffffffe000⟩, 0x1000⟩
    r.Alignable align.toNat ∧ r.alignOutward align = .ok cover ∧
      cover.IsAlignedCover r align.toNat ∧ cover.alignOutward align = .ok cover ∧
      inner.alignOutward align = .ok cover ∧ cover.contains cover = .ok true := by
  intro align r inner cover
  have hr : r.Alignable align.toNat := ⟨⟨0xfffffffffffff000⟩, by decide, by decide⟩
  obtain ⟨cover', hcover, haligned, -, hagain, hinner⟩ :=
    outward_alignment_is_least_cover (k := 12) rfl hr
  have hvalue : r.alignOutward align = .ok cover := by decide
  cases hcover.symm.trans hvalue
  obtain ⟨innerCover, hinnerCover, hinside⟩ := hinner inner (by decide) (by decide)
  have hinnerValue : inner.alignOutward align = .ok cover := by decide
  cases hinnerCover.symm.trans hinnerValue
  exact ⟨hr, hvalue, haligned, hagain, hinnerValue, hinside⟩

end WriteBarrier.Region
