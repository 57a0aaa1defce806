import Mathlib.Algebra.BigOperators.Group.Finset.Piecewise
import Mathlib.Data.Multiset.Count
import Mathlib.Tactic.Lemma

/-!
# Interleavings

The lists that contain the elements of the lists of a family and keep the order of each of them,
such as the notes of several threads in one journal.
-/

namespace WriteBarrier

variable {ι α β : Type} [DecidableEq ι]

/-- The elements of `merged` can be tagged in such a way that those with one tag are, in their
order, the list of the family for that tag. -/
def Interleaves (lists : ι → List α) (merged : List α) : Prop :=
  ∃ tagged : List (ι × α), tagged.map Prod.snd = merged ∧
    ∀ t, (tagged.filter (·.1 = t)).map Prod.snd = lists t

namespace Interleaves

variable {lists : ι → List α} {merged : List α}

lemma nil : Interleaves (fun _ : ι => ([] : List α)) [] := ⟨[], rfl, fun _ => rfl⟩

/-- The next element comes from the list `t`. -/
lemma snoc (h : Interleaves lists merged) (t : ι) (a : α) :
    Interleaves (Function.update lists t (lists t ++ [a])) (merged ++ [a]) := by
  obtain ⟨tagged, rfl, hlists⟩ := h
  refine ⟨tagged ++ [(t, a)], List.map_append, ?_⟩
  intro u
  rw [List.filter_append, List.map_append, hlists u]
  by_cases hu : u = t
  · subst hu
    simp
  · rw [Function.update_of_ne hu]
    simp [Ne.symm hu]

lemma mem_iff (h : Interleaves lists merged) (a : α) : a ∈ merged ↔ ∃ t, a ∈ lists t := by
  obtain ⟨tagged, rfl, hlists⟩ := h
  simp only [← hlists, List.mem_map, List.mem_filter, decide_eq_true_eq]
  constructor
  · rintro ⟨p, hp, rfl⟩
    exact ⟨p.1, p, ⟨hp, rfl⟩, rfl⟩
  · rintro ⟨t, p, ⟨hp, -⟩, rfl⟩
    exact ⟨p, hp, rfl⟩

lemma flatMap (h : Interleaves lists merged) (f : α → List β) :
    Interleaves (fun t => (lists t).flatMap f) (merged.flatMap f) := by
  obtain ⟨tagged, rfl, hlists⟩ := h
  refine ⟨tagged.flatMap fun p => (f p.2).map (p.1, ·), ?_, ?_⟩
  · simp [List.map_flatMap, List.flatMap_map, Function.comp_def]
  · intro t
    change _ = (lists t).flatMap f
    rw [← hlists t]
    clear hlists
    induction tagged with
    | nil => rfl
    | cons p tagged ih =>
      rw [List.flatMap_cons, List.filter_append, List.map_append, ih]
      by_cases hp : p.1 = t
      · simp [hp, List.filter_map, Function.comp_def]
      · simp [hp, List.filter_map, Function.comp_def]

/-- With multiplicity, the elements are those of the lists of the family together. -/
lemma coe_eq_sum [Fintype ι] (h : Interleaves lists merged) :
    (merged : Multiset α) = ∑ t, (lists t : Multiset α) := by
  obtain ⟨tagged, rfl, hlists⟩ := h
  simp only [← hlists]
  clear hlists
  induction tagged with
  | nil => simp
  | cons p tagged ih =>
    have htag : ∀ t, (((p :: tagged).filter (·.1 = t)).map Prod.snd : Multiset α) =
        (if p.1 = t then {p.2} else 0) + ((tagged.filter (·.1 = t)).map Prod.snd : Multiset α) := by
      intro t
      by_cases hp : p.1 = t
      · simp [hp]
      · simp [hp]
    simp only [htag, Finset.sum_add_distrib, Finset.sum_ite_eq, Finset.mem_univ, if_true, ← ih]
    rfl

lemma count_eq_sum [Fintype ι] [DecidableEq α] (h : Interleaves lists merged) (a : α) :
    merged.count a = ∑ t, (lists t).count a := by
  simp only [← Multiset.coe_count, h.coe_eq_sum, Multiset.count_sum']

end Interleaves

end WriteBarrier
