import Mathlib.Tactic.ByContra
import Mathlib.Tactic.Lemma
import WriteBarrier.Barrier
import WriteBarrier.Proofs.RegionArithmetic
import WriteBarrier.Proofs.SlotCells

/-!
# Covering regions

What a call after a bulk store hands over. The region of whole words around a slice holds every
byte of its slots and little else, unless the slice ends in the last word of the address space,
where rounding up starts again at zero.
-/

namespace WriteBarrier

namespace Slice

/-- The address is that of a byte of one of the slots. -/
def Spans (s : Slice) (a : Address) : Prop := ∃ i < s.count.toNat, (s.slot i).Spans a

/-- The end of the slice, which may lie outside the address space. -/
def bound (s : Slice) : Nat := s.start.toNat + s.count.toNat * s.encoding.width.toNat

variable {s : Slice}

lemma start_lt_bound (hnonempty : s.isEmpty = false) : s.start.toNat < s.bound := by
  have hcount : s.count.toNat ≠ 0 := by
    rw [ne_eq, ← isEmpty_iff, hnonempty]
    exact Bool.false_ne_true
  have hwidth : 0 < s.count.toNat * s.encoding.width.toNat :=
    Nat.mul_pos (Nat.pos_of_ne_zero hcount) s.encoding.width_pos
  unfold bound
  omega

lemma bound_of_isEmpty (hempty : s.isEmpty = true) : s.bound = s.start.toNat := by
  rw [bound, isEmpty_iff.mp hempty, Nat.zero_mul, Nat.add_zero]

lemma toNat_address_slot (hbound : s.bound ≤ 2 ^ 64) {i : Nat} (hi : i < s.count.toNat) :
    (s.slot i).address.toNat = s.start.toNat + i * s.encoding.width.toNat := by
  have hcount := s.count.toNat_lt
  have hstart := s.start.toNat_lt
  have hindex : (UInt64.ofNat i).toNat = i := UInt64.toNat_ofNat_of_lt' (Nat.lt_trans hi hcount)
  have hlast : (i + 1) * s.encoding.width.toNat ≤ s.count.toNat * s.encoding.width.toNat :=
    Nat.mul_le_mul_right _ hi
  have hwidth := s.encoding.width_pos
  rw [Nat.succ_mul] at hlast
  unfold bound at hbound
  rw [slot, Encoding.address_slotAt, Address.toNat, UInt64.toNat_add, UInt64.toNat_mul, hindex,
    Nat.mod_eq_of_lt (a := i * _) (by omega), Nat.mod_eq_of_lt]
  · rfl
  · change s.start.toNat + _ < _
    omega

lemma exists_stop (hbound : s.bound < 2 ^ 64) :
    ∃ stop, s.stop = .ok stop ∧ stop.toNat = s.bound := by
  obtain ⟨w, hw⟩ := Word.exists_toNat_eq hbound
  exact ⟨⟨w⟩, stop_eq_ok.mpr hw.symm, hw⟩

lemma slots_of_bound (hbound : s.bound < 2 ^ 64) :
    s.slots = .ok ((List.range s.count.toNat).map s.slot) := by
  obtain ⟨stop, hstop, -⟩ := exists_stop hbound
  exact slots_of_stop hstop

lemma spans_slot_iff (hbound : s.bound ≤ 2 ^ 64) {i : Nat} (hi : i < s.count.toNat) {a : Address} :
    (s.slot i).Spans a ↔ s.start.toNat + i * s.encoding.width.toNat ≤ a.toNat ∧
      a.toNat < s.start.toNat + (i + 1) * s.encoding.width.toNat := by
  have ha := a.toNat_lt
  have hwidth := s.encoding.width_pos
  have haddress := toNat_address_slot hbound hi
  have hlast : (i + 1) * s.encoding.width.toNat ≤ s.count.toNat * s.encoding.width.toNat :=
    Nat.mul_le_mul_right _ hi
  unfold bound at hbound
  rw [Slot.Spans, Address.stepsTo_eq, haddress, slot, Encoding.encoding_slotAt]
  rw [Nat.succ_mul] at hlast ⊢
  omega

/-- The slots of a slice that stays in the address space lie side by side. -/
lemma spans_iff (hbound : s.bound ≤ 2 ^ 64) {a : Address} :
    s.Spans a ↔ s.start.toNat ≤ a.toNat ∧ a.toNat < s.bound := by
  have hwidth := s.encoding.width_pos
  constructor
  · rintro ⟨i, hi, hspans⟩
    have hlast : (i + 1) * s.encoding.width.toNat ≤ s.count.toNat * s.encoding.width.toNat :=
      Nat.mul_le_mul_right _ hi
    have hplace := (spans_slot_iff hbound hi).mp hspans
    unfold bound
    omega
  · rintro ⟨hlow, hhigh⟩
    have hdistance : a.toNat - s.start.toNat < s.count.toNat * s.encoding.width.toNat := by
      unfold bound at hhigh
      omega
    have hi := Nat.div_lt_of_lt_mul (Nat.mul_comm _ _ ▸ hdistance)
    have hquotient := Nat.div_mul_le_self (a.toNat - s.start.toNat) s.encoding.width.toNat
    have hremainder := Nat.lt_div_mul_add hwidth (a := a.toNat - s.start.toNat)
    refine ⟨_, hi, (spans_slot_iff hbound hi).mpr ?_⟩
    rw [Nat.succ_mul]
    omega

lemma coveringRegion_eq_ok {r : Region} : s.coveringRegion = .ok r ↔
    ∃ stop, s.stop = .ok stop ∧ r.start = s.start.wordDown ∧ r.stop = .ok stop.wordUp := by
  rw [coveringRegion, bind_eq_ok]
  simp only [Region.between_eq_ok]

/-- The ends of the slice rounded to words, where rounding up starts again at zero. -/
lemma ends_of_coveringRegion {r : Region} (h : s.coveringRegion = .ok r) :
    s.bound < 2 ^ 64 ∧ r.start.toNat = s.start.toNat / 8 * 8 ∧
      r.bound = (s.bound + 7) % 2 ^ 64 / 8 * 8 := by
  obtain ⟨stop, hstop, hstart, hend⟩ := coveringRegion_eq_ok.mp h
  have hbound : s.bound = stop.toNat := stop_eq_ok.mp hstop
  have hrounded : r.bound = stop.wordUp.toNat := Region.stop_eq_ok.mp hend
  rw [hstart, hrounded, hbound]
  exact ⟨stop.toNat_lt, Address.toNat_wordDown _, Address.toNat_wordUp _⟩

end Slice

namespace Call

variable {s : Slice}

lemma writtenRegion?_eq_none : writtenRegion? s = .ok none ↔ s.isEmpty = true := by
  unfold writtenRegion?
  split
  · rename_i hempty
    simp [hempty]
  · rename_i hempty
    split
    · cases s.coveringRegion <;> simp [hempty, Functor.map, Except.map]
    · simp [hempty]

lemma writtenRegion?_eq_some {r : Region} : writtenRegion? s = .ok (some r) ↔
    s.isEmpty = false ∧ (s.encoding.isNarrow = true ∨ s.start.isWordAligned = true) ∧
    s.coveringRegion = .ok r := by
  unfold writtenRegion?
  split
  · rename_i hempty
    simp [hempty]
  · rename_i hempty
    rw [← Bool.or_eq_true]
    split
    · rename_i hplace
      cases s.coveringRegion <;> simp [hempty, hplace, Functor.map, Except.map]
    · rename_i hplace
      simp [hplace]

/-- What a barrier set is told of a bulk store is settled before it is called. -/
lemma deliver_arrayPost {σ : Type} (answer : σ → Hook → σ × Except Fault Unit) (x : σ) :
    (arrayPost s).deliver answer x = match writtenRegion? s with
      | .error fault => (x, .error fault)
      | .ok none => (x, .ok ())
      | .ok (some r) => answer x (.arrayPost r) :=
  dispatch_arrayPost _ _ _ _

/-- A slice that ends below the last word of the address space is handed over, unless it consists of
full slots that do not start at a word. -/
lemma exists_writtenRegion? (hnonempty : s.isEmpty = false)
    (hplace : s.encoding.isNarrow = true ∨ s.start.isWordAligned = true)
    (hbound : s.bound ≤ 2 ^ 64 - 8) : ∃ r, writtenRegion? s = .ok (some r) := by
  have hlength := Slice.start_lt_bound hnonempty
  obtain ⟨stop, hstop, hend⟩ := Slice.exists_stop (s := s) (by omega)
  have hdown := Address.toNat_wordDown s.start
  have hup := Address.toNat_wordUp stop
  obtain ⟨r, hr, -⟩ := Region.exists_between (a := s.start.wordDown) (b := stop.wordUp) (by omega)
  have hcovering : s.coveringRegion = .ok r :=
    Slice.coveringRegion_eq_ok.mpr ⟨stop, hstop, Region.between_eq_ok.mp hr⟩
  exact ⟨r, writtenRegion?_eq_some.mpr ⟨hnonempty, hplace, hcovering⟩⟩

/-- The region that is handed over is right unless rounding up the end started again at zero. -/
lemma writtenRegion?_covers_iff {r : Region} (h : writtenRegion? s = .ok (some r)) :
    ∃ stop, r.stop = .ok stop ∧ r.start.isWordAligned = true ∧ stop.isWordAligned = true ∧
      ((∀ a, s.Spans a → a ∈ r) ∧ s.start.toNat < r.start.toNat + 8 ∧
        stop.toNat < s.bound + 8 ↔ s.bound ≤ 2 ^ 64 - 8) := by
  obtain ⟨hnonempty, -, hcovering⟩ := writtenRegion?_eq_some.mp h
  obtain ⟨hfits, hdown, hup⟩ := Slice.ends_of_coveringRegion hcovering
  have hbounded : r.Bounded := by
    change r.bound < 2 ^ 64
    omega
  obtain ⟨stop, hstop, hend⟩ := Region.exists_stop hbounded
  have hlength := Slice.start_lt_bound hnonempty
  unfold Region.bound at hup hend
  refine ⟨stop, hstop, ?_, ?_, ?_⟩
  · rw [Address.isWordAligned_iff]
    omega
  · rw [Address.isWordAligned_iff]
    omega
  constructor
  · rintro ⟨hcovers, -, -⟩
    have hfirst := hcovers s.start ((Slice.spans_iff (by omega)).mpr ⟨Nat.le_refl _, hlength⟩)
    rw [Region.mem_iff] at hfirst
    omega
  · intro hlow
    refine ⟨?_, by omega, by omega⟩
    intro a ha
    rw [Slice.spans_iff (by omega)] at ha
    rw [Region.mem_iff]
    omega

end Call

/-- What becomes of a call after a bulk store depends on the slice alone, whatever the barrier set
does. For an empty slice it calls no hook. Otherwise it stops before the hook or calls it once, with
a region of whole words that holds every byte of every slot and exceeds the slice by less than a
word at each end, exactly if the slice ends below the last word of the address space. -/
theorem bulk_store_covered_iff (s : Slice) :
    (s.isEmpty = true → ∀ {σ : Type} (answer : σ → Hook → σ × Except Fault Unit) (x : σ),
      (Call.arrayPost s).deliver answer x = (x, .ok ())) ∧
    (s.isEmpty = false →
      (2 ^ 64 - 8 < s.bound ∨ s.encoding = .full ∧ s.start.isWordAligned = false) ∧
        (∃ fault, ∀ {σ : Type} (answer : σ → Hook → σ × Except Fault Unit) (x : σ),
          (Call.arrayPost s).deliver answer x = (x, .error fault)) ∨
      ∃ r stop, (∀ {σ : Type} (answer : σ → Hook → σ × Except Fault Unit) (x : σ),
          (Call.arrayPost s).deliver answer x = answer x (.arrayPost r)) ∧
        r.stop = .ok stop ∧ r.start.isWordAligned = true ∧ stop.isWordAligned = true ∧
        ((∀ a, s.Spans a → a ∈ r) ∧ s.start.toNat < r.start.toNat + 8 ∧
          stop.toNat < s.bound + 8 ↔ s.bound ≤ 2 ^ 64 - 8)) := by
  constructor
  · intro hempty σ answer x
    rw [Call.deliver_arrayPost, Call.writtenRegion?_eq_none.mpr hempty]
  · intro hnonempty
    cases hwritten : Call.writtenRegion? s with
    | error fault =>
      refine .inl ⟨?_, fault, ?_⟩
      · by_contra hfits
        rw [not_or, not_and, Nat.not_lt, Bool.not_eq_false] at hfits
        have hplace : s.encoding.isNarrow = true ∨ s.start.isWordAligned = true := by
          cases hencoding : s.encoding with
          | full => exact .inr (hfits.2 hencoding)
          | narrow e => exact .inl rfl
        obtain ⟨r, hr⟩ := Call.exists_writtenRegion? hnonempty hplace hfits.1
        rw [hwritten] at hr
        cases hr
      · intro σ answer x
        rw [Call.deliver_arrayPost, hwritten]
    | ok region? =>
      cases region? with
      | none =>
        rw [Call.writtenRegion?_eq_none, hnonempty] at hwritten
        cases hwritten
      | some r =>
        obtain ⟨stop, hstop⟩ := Call.writtenRegion?_covers_iff hwritten
        refine .inr ⟨r, stop, ?_, hstop⟩
        intro σ answer x
        rw [Call.deliver_arrayPost, hwritten]

theorem bulk_store_covered_of_three_slots :
    let s : Slice := ⟨⟨0x40000004⟩, 3, .narrow .zeroBased⟩
    let b : Barrier := .ofVariant .cardTable
    s.isEmpty = false ∧ s.bound ≤ 2 ^ 64 - 8 ∧
    (b.call .zeroed (.arrayPost s)).1.journal.events = #[.arrayPost ⟨⟨0x40000000⟩, 16⟩] ∧
    ∀ a, s.Spans a → a ∈ (⟨⟨0x40000000⟩, 16⟩ : Region) := by
  intro s b
  have hnonempty : s.isEmpty = false := rfl
  have hbound : s.bound ≤ 2 ^ 64 - 8 := by decide
  have hevents : (b.call .zeroed (.arrayPost s)).1.journal.events =
      #[.arrayPost ⟨⟨0x40000000⟩, 16⟩] := by decide
  refine ⟨hnonempty, hbound, hevents, ?_⟩
  rw [Barrier.call] at hevents
  cases (bulk_store_covered_iff s).2 hnonempty with
  | inl hstops =>
    obtain ⟨-, fault, hfault⟩ := hstops
    rw [hfault] at hevents
    cases hevents
  | inr hreaches =>
    obtain ⟨r, stop, hdeliver, -, -, -, hiff⟩ := hreaches
    rw [hdeliver] at hevents
    cases hevents
    exact (hiff.mpr hbound).1

/-- A slice over all of the address space is handed over as the empty region. -/
theorem bulk_store_of_everything_not_covered :
    let s : Slice := ⟨.zero, 0x3fffffffffffffff, .narrow .zeroBased⟩
    let b : Barrier := .ofVariant .cardTable
    s.isEmpty = false ∧ (b.call .zeroed (.arrayPost s)).2 = .ok () ∧
    (b.call .zeroed (.arrayPost s)).1.journal.events = #[.arrayPost .empty] ∧
    s.Spans .zero ∧ Address.zero ∉ Region.empty := by
  refine ⟨rfl, rfl, by decide, ⟨0, by decide, by decide⟩, by decide⟩

end WriteBarrier
