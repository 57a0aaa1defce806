import WriteBarrier.Fault

/-!
Tag sets over an enumeration. A tag set names a concrete tag and every tag under which its owner
can be viewed; the tags are the bits of one word, so an enumeration has at most 64 of them. Asking
for a tag is a test of one bit.
-/

namespace WriteBarrier

/-- A finite type whose values are numbered from zero on. -/
class Enumerated (α : Type) where
  count : Nat
  index : α → Fin count
  value : Fin count → α
  value_index : ∀ a, value (index a) = a
  index_value : ∀ i, index (value i) = i

namespace Enumerated

instance : Enumerated Kind where
  count := 6
  index := Kind.index
  value := Kind.ofIndex
  value_index := Kind.ofIndex_index
  index_value := Kind.index_ofIndex

instance : Enumerated Bool where
  count := 2
  index b := if b then 1 else 0
  value i := i == 1
  value_index := by decide
  index_value := by decide

instance (n : Nat) : Enumerated (Fin n) where
  count := n
  index := id
  value := id
  value_index _ := rfl
  index_value _ := rfl

/-- The values in order. -/
def all (α : Type) [Enumerated α] : List α := (List.finRange (count α)).map value

theorem index_inj {α : Type} [Enumerated α] {a b : α} :
    (index a).val = (index b).val ↔ a = b := by
  constructor
  · intro h
    rw [← value_index a, ← value_index b, Fin.ext h]
  · rintro rfl; rfl

/-- The value with the given number. -/
def ofIndex {α : Type} [Enumerated α] (i : Nat) : Except Fault α :=
  if h : i < count α then .ok (value ⟨i, h⟩) else .error .noSuchTag

end Enumerated

/-- A concrete tag with a set of tags, one bit for each. -/
structure TagSet (α : Type) where
  concrete : α
  bits : Word
  deriving DecidableEq

namespace TagSet

variable {α : Type} [Enumerated α]

/-- The bit of a tag. -/
def bit (tag : α) : Word := 1 <<< UInt64.ofNat (Enumerated.index tag)

/-- The set of one tag, which is also its concrete tag. -/
def singleton (concrete : α) : TagSet α := ⟨concrete, bit concrete⟩

/-- `singleton`, for enumerations that have not been checked to fit in a word. -/
def ofConcrete (concrete : α) : Except Fault (TagSet α) :=
  if Enumerated.count α ≤ 64 then .ok (singleton concrete) else .error .tooManyTags

/-- The set with a tag added. The concrete tag stays. -/
def add (s : TagSet α) (tag : α) : TagSet α := { s with bits := s.bits ||| bit tag }

/-- The set with several tags added. -/
def addAll (s : TagSet α) (tags : List α) : TagSet α := tags.foldl add s

def has (s : TagSet α) (tag : α) : Bool := s.bits &&& bit tag != 0

/-- The tags of the set in the order of the enumeration. -/
def tags (s : TagSet α) : List α := (Enumerated.all α).filter s.has

/-- A tag set on one line, the tags shown by `label`. -/
def describe (label : α → String) (s : TagSet α) : String :=
  s!"FakeRttiSupport \x7b concrete_tag: {label s.concrete}, tags: \x7b" ++
    ", ".intercalate (s.tags.map label) ++ "\x7d \x7d"

/-- A tag set over several lines, one for each tag. A set always holds its concrete tag, so the
list of tags is never empty. -/
def describeLines (label : α → String) (s : TagSet α) : String :=
  s!"FakeRttiSupport \x7b\n    concrete_tag: {label s.concrete},\n    tags: \x7b\n" ++
    String.join (s.tags.map fun tag => s!"        {label tag},\n") ++ "    \x7d,\n\x7d"

theorem concrete_addAll (s : TagSet α) (tags : List α) : (s.addAll tags).concrete = s.concrete := by
  induction tags generalizing s with
  | nil => rfl
  | cons tag tags ih => exact ih (s.add tag)

theorem mem_tags {s : TagSet α} {tag : α} : tag ∈ s.tags ↔ s.has tag = true := by
  rw [tags, List.mem_filter, and_iff_right_iff_imp]
  intro _
  exact List.mem_map.mpr ⟨Enumerated.index tag, List.mem_finRange _, Enumerated.value_index tag⟩

theorem toBitVec_bit (fits : Enumerated.count α ≤ 64) (tag : α) :
    (bit tag).toBitVec = BitVec.twoPow 64 (Enumerated.index tag) := by
  have hi := (Enumerated.index tag).isLt
  have hshift : ((UInt64.ofNat (Enumerated.index tag)).toBitVec % 64).toNat
      = Enumerated.index tag := by
    simp only [BitVec.toNat_umod, UInt64.toNat_toBitVec, UInt64.toNat_ofNat',
      show (64 : BitVec 64).toNat = 64 from rfl]
    omega
  rw [bit, UInt64.toBitVec_shiftLeft, BitVec.twoPow_eq, BitVec.shiftLeft_eq', hshift]
  rfl

theorem has_eq_getLsbD (fits : Enumerated.count α ≤ 64) (s : TagSet α) (tag : α) :
    s.has tag = s.bits.toBitVec.getLsbD (Enumerated.index tag) := by
  have hi := (Enumerated.index tag).isLt
  rw [Bool.eq_iff_iff, has, bne_iff_ne, ne_eq, ← UInt64.toBitVec_inj, UInt64.toBitVec_and,
    toBitVec_bit fits, BitVec.and_twoPow]
  split
  · rename_i h
    simp only [h, iff_true]
    intro hzero
    have hbit := congrArg (·.getLsbD (Enumerated.index tag)) hzero
    simp [BitVec.getLsbD_twoPow] at hbit
    omega
  · rename_i h
    simp [h]

theorem has_singleton (fits : Enumerated.count α ≤ 64) {concrete tag : α} :
    (singleton concrete).has tag = true ↔ tag = concrete := by
  have hi := (Enumerated.index concrete).isLt
  have hlt : (Enumerated.index concrete).val < 64 := by omega
  rw [has_eq_getLsbD fits, singleton, toBitVec_bit fits, BitVec.getLsbD_twoPow]
  simp only [hlt, decide_true, Bool.true_and, decide_eq_true_eq, Enumerated.index_inj]
  exact eq_comm

theorem has_add (fits : Enumerated.count α ≤ 64) {s : TagSet α} {new tag : α} :
    (s.add new).has tag = true ↔ s.has tag = true ∨ tag = new := by
  rw [← has_singleton fits, has_eq_getLsbD fits, has_eq_getLsbD fits, has_eq_getLsbD fits, add,
    singleton, UInt64.toBitVec_or, BitVec.getLsbD_or, Bool.or_eq_true]

theorem has_addAll (fits : Enumerated.count α ≤ 64) {s : TagSet α} {tags : List α} {tag : α} :
    (s.addAll tags).has tag = true ↔ s.has tag = true ∨ tag ∈ tags := by
  induction tags generalizing s with
  | nil => simp [addAll]
  | cons new tags ih =>
    have hstep : s.addAll (new :: tags) = (s.add new).addAll tags := rfl
    rw [hstep, ih, has_add fits, List.mem_cons, or_assoc]

end TagSet

end WriteBarrier
