import Mathlib.Tactic.Lemma
import WriteBarrier.Barrier.Cast

/-!
# Casts

The two checked casts look at different tags: one asks whether the barrier set can be viewed as the
kind of the type, the other whether it is of that kind. Both ask for the concrete type afterwards.
They part ways on a barrier set that was built as a layer of a derived variant, since a layer has
the concrete type of the layer and the kind of the variant.
-/

namespace WriteBarrier

/-- The types that can be built as a layer of a derived variant, on top of the tags of the
variant. -/
def Family.isLayer : Family → Bool
  | modRef | cardTable | rememberedSet | snapshot | custom => true
  | extendedSet | loggingSnapshot | markingTable | plainSnapshot => false

namespace Barrier

/-- The tags are such as constructors put together. -/
inductive Constructed (b : Barrier) : Prop
  /-- The barrier set was built for the kind of its own type. -/
  | own : b.tags = (ofVariant b.variant).tags → Constructed b
  /-- It was built as a layer for the kind `concrete`, after the tags `added`. -/
  | layer (concrete : Kind) (added : List Kind) : b.variant.family.isLayer = true →
      b.tags = (ofTags b.variant ((TagSet.singleton concrete).addAll added)).tags → Constructed b

/-- One cast gives a barrier set exactly if the other does, and then both give the same. -/
def CastsAgree (b : Barrier) (family : Family) : Prop :=
  (∀ t, b.cast? family = some t ↔ b.cast family = .ok t) ∧
    (b.cast? family = none ↔ ∃ fault, b.cast family = .error fault)

variable {b : Barrier} {family : Family}

lemma has_ofTags {variant : Variant} {tags : TagSet Kind} {k : Kind} :
    (ofTags variant tags).tags.has k = true ↔ tags.has k = true ∨ k ∈ variant.family.layers :=
  TagSet.has_addAll (by decide)

lemma cast_eq_ok {t : Barrier} :
    b.cast family = .ok t ↔ t = b ∧ b.isA family.kind = true ∧ b.isOfType family := by
  unfold cast
  by_cases htag : b.isA family.kind = true
  · by_cases htype : b.isOfType family
    · simp [htag, htype, eq_comm]
    · simp [htag, htype]
  · simp [htag]

lemma cast?_eq_some {t : Barrier} :
    b.cast? family = some t ↔ t = b ∧ b.kind = family.kind ∧ b.isOfType family := by
  unfold cast?
  by_cases hkind : b.kind = family.kind
  · by_cases htype : b.isOfType family
    · simp [hkind, htype, eq_comm]
    · simp [hkind, htype]
  · simp [hkind]

lemma Constructed.isA_kind (hb : b.Constructed) : b.isA b.kind = true := by
  have hself : ∀ k : Kind, (TagSet.singleton k).has k = true := fun k =>
    (TagSet.has_singleton (by decide)).mpr rfl
  cases hb with
  | own htags =>
    rw [isA, kind, htags, ← kind, kind_ofVariant]
    exact has_ofTags.mpr (.inl (hself _))
  | layer concrete added hlayer htags =>
    rw [isA, kind, htags, ← kind, kind_ofTags, TagSet.concrete_addAll]
    exact has_ofTags.mpr (.inl ((TagSet.has_addAll (by decide)).mpr (.inl (hself concrete))))

/-- Every type but one that a virtual machine brings puts its own tag into the tags. -/
lemma Constructed.isA_own (hb : b.Constructed) (hcustom : b.variant.family ≠ .custom) :
    b.isA b.variant.family.kind = true := by
  cases hb with
  | own htags =>
    have hkind : b.kind = b.variant.family.kind := by rw [kind, htags, ← kind, kind_ofVariant]
    rw [← hkind]
    exact (Constructed.own htags).isA_kind
  | layer concrete added hlayer htags =>
    rw [isA, htags]
    refine has_ofTags.mpr (.inr ?_)
    generalize b.variant.family = family at hlayer hcustom
    cases family with
    | modRef | cardTable | rememberedSet | snapshot => exact .head _
    | custom => exact absurd rfl hcustom
    | _ => cases hlayer

lemma castsAgree_iff (hkind : b.isA b.kind = true) :
    b.CastsAgree family ↔
      (b.isOfType family → b.isA family.kind = true → b.kind = family.kind) := by
  have hsome : b.cast? family = some b ↔ b.kind = family.kind ∧ b.isOfType family := by
    rw [cast?_eq_some, and_iff_right rfl]
  have hok : b.cast family = .ok b ↔ b.isA family.kind = true ∧ b.isOfType family := by
    rw [cast_eq_ok, and_iff_right rfl]
  constructor
  · intro hagree htype htag
    have hgiven := (hagree.1 b).mpr (hok.mpr ⟨htag, htype⟩)
    exact (hsome.mp hgiven).1
  · intro hsame
    have hboth : b.kind = family.kind ∧ b.isOfType family ↔
        b.isA family.kind = true ∧ b.isOfType family := by
      constructor
      · rintro ⟨heq, htype⟩
        exact ⟨heq ▸ hkind, htype⟩
      · rintro ⟨htag, htype⟩
        exact ⟨hsame htype htag, htype⟩
    refine ⟨?_, ?_⟩
    · intro t
      rw [cast?_eq_some, cast_eq_ok, hboth]
    · constructor
      · intro hnone
        cases hcast : b.cast family with
        | error fault => exact ⟨fault, rfl⟩
        | ok t =>
          rw [cast_eq_ok, ← hboth, ← cast?_eq_some, hnone] at hcast
          cases hcast
      · rintro ⟨fault, hfault⟩
        cases hcast : b.cast? family with
        | none => rfl
        | some t =>
          rw [cast?_eq_some, hboth, ← cast_eq_ok, hfault] at hcast
          cases hcast

/-- Where the cast that may fail gives a barrier set, so does the other. The converse holds exactly
unless a barrier set of the type carries its tag and is of another kind. So for all types that bring
their own tag the casts agree on every target exactly if the barrier set was built for the kind of
its concrete type. -/
theorem casts_agree_iff_of_own_kind (hb : b.Constructed) :
    (∀ family t, b.cast? family = some t → b.cast family = .ok t ∧ t = b) ∧
    (∀ family, b.CastsAgree family ↔
      (b.isOfType family → b.isA family.kind = true → b.kind = family.kind)) ∧
    (b.variant.family ≠ .custom →
      ((∀ family, b.CastsAgree family) ↔ b.kind = b.variant.family.kind)) := by
  have hkind := hb.isA_kind
  refine ⟨?_, fun family => castsAgree_iff hkind, ?_⟩
  · intro family t ht
    obtain ⟨rfl, heq, htype⟩ := cast?_eq_some.mp ht
    exact ⟨cast_eq_ok.mpr ⟨rfl, heq ▸ hkind, htype⟩, rfl⟩
  · intro hcustom
    constructor
    · intro hagree
      exact (castsAgree_iff hkind).mp (hagree _) rfl (hb.isA_own hcustom)
    · intro hown family
      refine (castsAgree_iff hkind).mpr ?_
      rintro rfl htag
      exact hown

theorem casts_agree_iff_of_own_kind_of_logging_table :
    let b : Barrier := .ofVariant .loggingSnapshot
    b.Constructed ∧ b.variant.family ≠ .custom ∧ (∀ family, b.CastsAgree family) ∧
      b.cast? .loggingSnapshot = some b := by
  intro b
  have hb : b.Constructed := .own rfl
  have hcustom : b.variant.family ≠ .custom := by decide
  have hagree := ((casts_agree_iff_of_own_kind hb).2.2 hcustom).mpr rfl
  exact ⟨hb, hcustom, hagree, cast?_eq_some.mpr ⟨rfl, rfl, rfl⟩⟩

/-- The card table inside a remembered set. -/
theorem casts_differ_on_embedded_table :
    let tags := (TagSet.singleton .rememberedSet).addAll [.rememberedSet]
    let b : Barrier := .ofTags .cardTable tags
    b.Constructed ∧ b.cast .cardTable = .ok b ∧ b.cast? .cardTable = none := by
  intro tags b
  exact ⟨.layer .rememberedSet [.rememberedSet] rfl rfl, cast_eq_ok.mpr ⟨rfl, by decide, rfl⟩, rfl⟩

end Barrier

end WriteBarrier
