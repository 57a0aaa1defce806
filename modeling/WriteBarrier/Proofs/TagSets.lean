import Mathlib.Data.List.Sort
import Mathlib.Tactic.Lemma
import WriteBarrier.TagSet

/-!
# Tag sets as sets

A tag set that is put together from a concrete tag and added tags has these tags as its members, in
whatever order and however often they are added. Its word has no other bits, so that tag sets with
the same concrete tag and the same members are equal, and its tags are listed in the order of the
enumeration.
-/

namespace WriteBarrier.TagSet

open Enumerated

variable {α : Type} [Enumerated α]

/-- The set with the concrete tag and tags that are added one after the other. -/
def build (concrete : α) (added : List α) : Except Fault (TagSet α) := do
  let s ← ofConcrete concrete
  return s.addAll added

/-- The tags are the members, each once and in the order of the enumeration. -/
structure IsListing (tags members : List α) : Prop where
  ordered : tags.Pairwise (index · < index ·)
  mem_iff : ∀ tag, tag ∈ tags ↔ tag ∈ members

/-- Every bit of the word is that of a tag. -/
def Tight (s : TagSet α) : Prop :=
  ∀ i, s.bits.toBitVec.getLsbD i = true → ∃ tag : α, (index tag).val = i

variable {s t : TagSet α} {concrete tag : α} {tags tags' members added : List α}

lemma IsListing.eq (h : IsListing tags members) (h' : IsListing tags' members) : tags = tags' := by
  have hasymm : Std.Antisymm fun a b : α => index a < index b :=
    ⟨fun a b hab hba => absurd hab (Fin.lt_asymm hba)⟩
  have hirrefl : Std.Irrefl fun a b : α => index a < index b := ⟨fun a => Fin.lt_irrefl _⟩
  apply List.Pairwise.eq_of_mem_iff h.ordered h'.ordered
  intro tag
  rw [h.mem_iff, h'.mem_iff]

lemma pairwise_all : (Enumerated.all α).Pairwise (index · < index ·) := by
  rw [Enumerated.all, List.pairwise_map]
  simp only [index_value]
  exact List.pairwise_lt_finRange _

lemma isListing_tags (hhas : ∀ tag, s.has tag = true ↔ tag ∈ members) :
    IsListing s.tags members := by
  refine ⟨pairwise_all.filter _, ?_⟩
  intro tag
  rw [mem_tags, hhas]

lemma describe_eq (s : TagSet α) (label : α → String) :
    s.describe label = "FakeRttiSupport \x7b concrete_tag: " ++ label s.concrete ++
      ", tags: \x7b" ++ ", ".intercalate (s.tags.map label) ++ "\x7d \x7d" := rfl

lemma has_iff (s : TagSet α) (fits : count α ≤ 64) {i : Nat} (hi : (index tag).val = i) :
    s.has tag = true ↔ s.bits.toBitVec.getLsbD i = true := by
  rw [has_eq_getLsbD fits, hi]

/-- Sets without stray bits are equal if they have the same concrete tag and the same members. -/
lemma Tight.eq (hs : s.Tight) (ht : t.Tight) (fits : count α ≤ 64)
    (hconcrete : s.concrete = t.concrete) (hhas : ∀ tag, s.has tag = true ↔ t.has tag = true) :
    s = t := by
  have hbits : s.bits = t.bits := by
    rw [← UInt64.toBitVec_inj]
    apply BitVec.eq_of_getLsbD_eq
    intro i _
    rw [Bool.eq_iff_iff]
    constructor
    · intro hbit
      obtain ⟨tag, htag⟩ := hs i hbit
      exact (t.has_iff fits htag).mp ((hhas tag).mp ((s.has_iff fits htag).mpr hbit))
    · intro hbit
      obtain ⟨tag, htag⟩ := ht i hbit
      exact (s.has_iff fits htag).mp ((hhas tag).mpr ((t.has_iff fits htag).mpr hbit))
  cases s
  cases t
  rw [mk.injEq]
  exact ⟨hconcrete, hbits⟩

section Fits

variable (fits : count α ≤ 64)

include fits

lemma exists_of_getLsbD_bit {i : Nat} (h : (bit tag).toBitVec.getLsbD i = true) :
    (index tag).val = i := by
  rw [toBitVec_bit fits, BitVec.getLsbD_twoPow, Bool.and_eq_true] at h
  exact of_decide_eq_true h.2

lemma tight_singleton (concrete : α) : (singleton concrete).Tight := by
  intro i hbit
  exact ⟨concrete, exists_of_getLsbD_bit fits hbit⟩

lemma Tight.add (hs : s.Tight) (tag : α) : (s.add tag).Tight := by
  intro i hbit
  rw [TagSet.add, UInt64.toBitVec_or, BitVec.getLsbD_or, Bool.or_eq_true] at hbit
  rcases hbit with hold | hnew
  · exact hs i hold
  · exact ⟨tag, exists_of_getLsbD_bit fits hnew⟩

lemma Tight.addAll (hs : s.Tight) (added : List α) : (s.addAll added).Tight := by
  induction added generalizing s with
  | nil => exact hs
  | cons tag added ih => exact ih (hs.add fits tag)

lemma build_of_fits : build concrete added = .ok ((singleton concrete).addAll added) := by
  rw [build, ofConcrete, if_pos fits]
  rfl

lemma has_addAll_singleton :
    ((singleton concrete).addAll added).has tag = true ↔ tag ∈ concrete :: added := by
  rw [has_addAll fits, has_singleton fits, List.mem_cons]

/-- Of what is put together only the concrete tag and the set of the tags are left. -/
lemma addAll_singleton_eq_iff {concrete' : α} {added' : List α} :
    (singleton concrete).addAll added = (singleton concrete').addAll added' ↔
      concrete = concrete' ∧ ∀ tag, tag ∈ concrete :: added ↔ tag ∈ concrete' :: added' := by
  constructor
  · intro h
    refine ⟨?_, ?_⟩
    · have hconcrete := congrArg TagSet.concrete h
      rw [concrete_addAll, concrete_addAll] at hconcrete
      exact hconcrete
    · intro tag
      rw [← has_addAll_singleton fits, h, has_addAll_singleton fits]
  · rintro ⟨rfl, hmem⟩
    refine Tight.eq ?_ ?_ fits ?_ ?_
    · exact (tight_singleton fits concrete).addAll fits added
    · exact (tight_singleton fits concrete).addAll fits added'
    · rw [concrete_addAll, concrete_addAll]
    · intro tag
      rw [has_addAll_singleton fits, has_addAll_singleton fits, hmem]

end Fits

lemma build_of_not_fits (h : 64 < count α) : build concrete added = .error .tooManyTags := by
  rw [build, ofConcrete, if_neg (Nat.not_le_of_lt h)]
  rfl

/-- A tag set that is put together has its concrete tag and the added tags as members and lists and
shows them in the order of the enumeration, each once. Two such sets are equal exactly if they have
the same concrete tag and the same members. There are none over an enumeration of more than 64
values. -/
theorem built_set_has_added_tags (concrete : α) (added : List α) :
    (count α ≤ 64 → ∃ s, build concrete added = .ok s ∧
      s.concrete = concrete ∧
      (∀ tag, s.has tag = true ↔ tag ∈ concrete :: added) ∧
      IsListing s.tags (concrete :: added) ∧
      (∀ tags, IsListing tags (concrete :: added) → ∀ label,
        s.describe label = "FakeRttiSupport \x7b concrete_tag: " ++ label concrete ++
          ", tags: \x7b" ++ ", ".intercalate (tags.map label) ++ "\x7d \x7d") ∧
      ∀ concrete' added', build concrete' added' = .ok s ↔
        concrete' = concrete ∧ ∀ tag, tag ∈ concrete' :: added' ↔ tag ∈ concrete :: added) ∧
    (64 < count α → build concrete added = .error .tooManyTags) := by
  refine ⟨?_, build_of_not_fits⟩
  intro fits
  have hhas : ∀ tag, ((singleton concrete).addAll added).has tag = true ↔
      tag ∈ concrete :: added := fun tag => has_addAll_singleton fits
  have hlisting := isListing_tags hhas
  refine ⟨_, build_of_fits fits, concrete_addAll _ _, hhas, hlisting, ?_, ?_⟩
  · intro tags htags label
    rw [describe_eq, htags.eq hlisting, concrete_addAll]
    rfl
  · intro concrete' added'
    rw [build_of_fits fits, Except.ok.injEq]
    exact addAll_singleton_eq_iff fits

theorem built_set_has_added_tags_of_64_values :
    let s : TagSet (Fin 64) := (singleton 63).addAll [0, 62, 0]
    count (Fin 64) ≤ 64 ∧ build (63 : Fin 64) [0, 62, 0] = .ok s ∧
      s.tags = [0, 62, 63] ∧ build (63 : Fin 64) [62, 63, 0] = .ok s ∧
      64 < count (Fin 65) ∧ build (63 : Fin 65) [0] = .error .tooManyTags := by
  intro s
  have fits : count (Fin 64) ≤ 64 := Nat.le_refl 64
  have hover : 64 < count (Fin 65) := Nat.lt_succ_self 64
  obtain ⟨built, hbuilt, -, -, htags, -, hequal⟩ :=
    (built_set_has_added_tags (63 : Fin 64) [0, 62, 0]).1 fits
  obtain rfl : built = s := Except.ok.inj (hbuilt.symm.trans (build_of_fits fits))
  have hlisting : IsListing [0, 62, 63] [63, 0, 62, (0 : Fin 64)] := ⟨by decide, by decide⟩
  have hsame : ∀ tag, tag ∈ [(63 : Fin 64), 62, 63, 0] ↔ tag ∈ [(63 : Fin 64), 0, 62, 0] := by
    decide
  exact ⟨fits, hbuilt, htags.eq hlisting, (hequal _ _).mpr ⟨rfl, hsame⟩, hover,
    (built_set_has_added_tags (63 : Fin 65) [0]).2 hover⟩

end WriteBarrier.TagSet
