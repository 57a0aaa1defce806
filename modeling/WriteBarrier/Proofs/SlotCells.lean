import Mathlib.Tactic.Lemma
import WriteBarrier.Proofs.WordArithmetic
import WriteBarrier.Slice

/-!
# Slots as cells

Two aligned slots of one layout are the same slot or share no byte, so that a store to one is not
seen through another. The slots that a walk over a slice finds are those at consecutive positions.
-/

namespace WriteBarrier

lemma Encoding.width_eq_pow (e : Encoding) : ∃ k, e.width.toNat = 2 ^ k := by
  cases e with
  | full => exact ⟨3, rfl⟩
  | narrow e => exact ⟨2, rfl⟩

namespace Address

lemma isAlignedTo_iff_dvd {a : Address} {e : Encoding} :
    a.isAlignedTo e.width = true ↔ e.width.toNat ∣ a.toNat := by
  obtain ⟨k, hk⟩ := e.width_eq_pow
  rw [isAlignedTo, Word.isAligned_iff_dvd hk, hk, toNat]

lemma stepsTo_eq (a x : Address) : a.stepsTo x = (2 ^ 64 - a.toNat + x.toNat) % 2 ^ 64 := by
  rw [stepsTo, UInt64.toNat_sub, toNat, toNat]

lemma stepsTo_lt_width_iff {a x : Address} {e : Encoding} (ha : a.isAlignedTo e.width = true) :
    a.stepsTo x < e.width.toNat ↔ x.toNat / e.width.toNat = a.toNat / e.width.toNat := by
  have haddr := a.toNat_lt
  have hx := x.toNat_lt
  have hdvd := isAlignedTo_iff_dvd.mp ha
  rw [stepsTo_eq]
  cases e with
  | full =>
    have hwidth : Encoding.full.width.toNat = 8 := rfl
    rw [hwidth] at hdvd ⊢
    omega
  | narrow e =>
    have hwidth : (Encoding.narrow e).width.toNat = 4 := rfl
    rw [hwidth] at hdvd ⊢
    omega

lemma eq_of_stepsTo_lt_width {a b x : Address} {e : Encoding} (ha : a.isAlignedTo e.width = true)
    (hb : b.isAlignedTo e.width = true) (hx : a.stepsTo x < e.width.toNat)
    (hx' : b.stepsTo x < e.width.toNat) : a = b := by
  have hsame : a.toNat / e.width.toNat = b.toNat / e.width.toNat :=
    ((stepsTo_lt_width_iff ha).mp hx).symm.trans ((stepsTo_lt_width_iff hb).mp hx')
  apply ext_toNat
  rw [← Nat.div_mul_cancel (isAlignedTo_iff_dvd.mp ha), hsame,
    Nat.div_mul_cancel (isAlignedTo_iff_dvd.mp hb)]

end Address

namespace Slot

/-- The slot lies at a multiple of its width. -/
def Aligned (s : Slot) : Prop := s.address.isAlignedTo s.encoding.width = true

instance (s : Slot) : Decidable s.Aligned :=
  inferInstanceAs (Decidable (s.address.isAlignedTo s.encoding.width = true))

/-- The address is that of a byte of the slot. -/
def Spans (t : Slot) (a : Address) : Prop := t.address.stepsTo a < t.encoding.width.toNat

instance (t : Slot) (a : Address) : Decidable (t.Spans a) :=
  inferInstanceAs (Decidable (t.address.stepsTo a < t.encoding.width.toNat))

/-- The slots have no byte in common. -/
def Apart (s t : Slot) : Prop := ∀ a, s.Spans a → ¬t.Spans a

instance : Std.Symm Apart := ⟨fun _ _ h a ha ha' => h a ha' ha⟩

/-- The word that the slot holds, before it is read as a reference. -/
def content (s : Slot) (m : Memory) : Word :=
  match s with
  | full a => m.load64 a
  | narrow a _ => (m.load32 a).toUInt64

variable {s t : Slot} {o : ObjectRef} {m m' : Memory} {a : Address}

lemma eq_of_address (henc : s.encoding = t.encoding) (h : s.address = t.address) :
    s = t := by
  cases s with
  | full a =>
    cases t with
    | full b => exact congrArg full h
    | narrow b e => cases henc
  | narrow a e =>
    cases t with
    | full b => cases henc
    | narrow b e' =>
      cases henc
      exact congrArg (narrow · e) h

lemma eq_store_of_store (h : s.store o m = .ok m') :
    ∃ value, m' = m.store s.address s.encoding.width.toNat value := by
  cases s with
  | full a => exact ⟨_, (Except.ok.inj h).symm⟩
  | narrow a e =>
    obtain ⟨n, -, hn⟩ := bind_eq_ok.mp h
    exact ⟨_, (Except.ok.inj hn).symm⟩

lemma byte_store_of_not_spans (h : t.store o m = .ok m') (ha : ¬t.Spans a) :
    m'.byte a = m.byte a := by
  obtain ⟨value, rfl⟩ := eq_store_of_store h
  exact Memory.byte_store_of_le (Nat.le_of_not_lt ha)

lemma content_congr (h : ∀ a, s.Spans a → m'.byte a = m.byte a) : s.content m' = s.content m := by
  have hload : m'.load s.address s.encoding.width.toNat = m.load s.address s.encoding.width.toNat :=
    Memory.load_congr (Nat.le_of_lt s.encoding.width.toNat_lt) h
  cases s with
  | full a => exact congrArg UInt64.ofNat hload
  | narrow a e => exact congrArg (fun n => (UInt32.ofNat n).toUInt64) hload

lemma Apart.content_store (h : s.Apart t) (hstore : t.store o m = .ok m') :
    s.content m' = s.content m :=
  content_congr fun a ha => byte_store_of_not_spans hstore (h a ha)

lemma load_congr (h : s.content m' = s.content m) : s.load m' = s.load m := by
  cases s with
  | full a => exact congrArg (fun w => ObjectRef.ofAddress ⟨w⟩) h
  | narrow a e => exact congrArg e.decode (UInt32.toUInt64_inj.mp h)

lemma Aligned.apart (hs : s.Aligned) (ht : t.Aligned) (henc : s.encoding = t.encoding)
    (hne : s ≠ t) : s.Apart t := by
  intro a ha ha'
  rw [Aligned, ← henc] at ht
  rw [Spans, ← henc] at ha'
  exact hne (eq_of_address henc (Address.eq_of_stepsTo_lt_width hs ht ha ha'))

/-- A store to another slot of the layout is not seen. -/
lemma load_store_of_ne (henc : s.encoding = t.encoding) (hs : s.Aligned) (ht : t.Aligned)
    (hne : s ≠ t) (hstore : t.store o m = .ok m') : s.load m' = s.load m :=
  load_congr ((hs.apart ht henc hne).content_store hstore)

end Slot

namespace SlotCursor

lemma next_of_lt {c : SlotCursor} {after : Address} (hlt : c.position < c.limit)
    (hafter : c.position.toNat + c.encoding.width.toNat = after.toNat) :
    c.next = .ok (some (c.encoding.slotAt c.position, { c with position := after })) := by
  rw [next, if_pos hlt, Address.above_eq_ok.mpr hafter]
  rfl

/-- The position of the `i`-th slot after the cursor. -/
def ahead (c : SlotCursor) (i : Nat) : Address :=
  ⟨c.position.val + UInt64.ofNat i * c.encoding.width⟩

lemma ahead_zero (c : SlotCursor) : c.ahead 0 = c.position := by simp [ahead]

lemma ahead_succ (c : SlotCursor) (i : Nat) :
    c.ahead (i + 1) = ahead { c with position := c.ahead 1 } i := by
  simp only [ahead, UInt64.ofNat_add, UInt64.add_mul, Address.mk.injEq]
  ac_rfl

/-- A cursor that is a whole number of slots before its limit collects those slots. -/
lemma collect_eq {n : Nat} {c : SlotCursor} (seen : Array Slot)
    (h : c.position.toNat + n * c.encoding.width.toNat = c.limit.toNat) :
    c.collect seen =
      .ok (seen ++ ((List.range n).map fun i => c.encoding.slotAt (c.ahead i)).toArray) := by
  induction n generalizing c seen with
  | zero =>
    have hend : ¬c.position < c.limit := by
      rw [Address.lt_iff_toNat]
      omega
    rw [collect, next, if_neg hend]
    simp
  | succ n ih =>
    have hwidth := c.encoding.width_pos
    have hlimit := c.limit.toNat_lt
    rw [Nat.succ_mul] at h
    have hlt : c.position < c.limit := by
      rw [Address.lt_iff_toNat]
      omega
    have hafter : c.position.toNat + c.encoding.width.toNat = (c.ahead 1).toNat := by
      simp only [ahead, Address.toNat, UInt64.toNat_add, UInt64.ofNat_one, UInt64.one_mul] at *
      omega
    have hrest := ih (c := { c with position := c.ahead 1 })
      (seen.push (c.encoding.slotAt c.position)) (by dsimp only; omega)
    rw [collect, next_of_lt hlt hafter]
    dsimp only
    have hshift : (List.range n).map (fun i => c.encoding.slotAt (c.ahead (i + 1))) =
        (List.range n).map fun i => c.encoding.slotAt (ahead { c with position := c.ahead 1 } i) :=
      List.map_congr_left fun i _ => congrArg c.encoding.slotAt (c.ahead_succ i)
    rw [hrest, List.range_succ_eq_map, List.map_cons, List.map_map, ahead_zero, Function.comp_def,
      hshift]
    simp

end SlotCursor

namespace Slice

lemma isEmpty_iff {s : Slice} : s.isEmpty = true ↔ s.count.toNat = 0 := by
  rw [isEmpty, beq_iff_eq]
  exact UInt64.toNat_inj.symm

lemma stop_eq_ok {s : Slice} {a : Address} :
    s.stop = .ok a ↔ s.start.toNat + s.count.toNat * s.encoding.width.toNat = a.toNat := by
  have ha := a.toNat_lt
  simp only [stop, bytes, bind_eq_ok, Word.product_eq_ok, Address.above_eq_ok]
  constructor
  · rintro ⟨size, hsize, hsum⟩
    rw [hsize, hsum]
  · intro hsum
    obtain ⟨size, hsize⟩ :=
      Word.exists_toNat_eq (n := s.count.toNat * s.encoding.width.toNat) (by omega)
    exact ⟨size, hsize.symm, by omega⟩

lemma stop_of_isEmpty {s : Slice} (hempty : s.isEmpty = true) : s.stop = .ok s.start := by
  rw [stop_eq_ok, isEmpty_iff.mp hempty, Nat.zero_mul, Nat.add_zero]

/-- The slots of a slice are found exactly when the slice has an end, and are those at consecutive
positions from its start on. -/
lemma slots_eq (s : Slice) :
    s.slots = s.stop >>= fun _ => .ok ((List.range s.count.toNat).map s.slot) := by
  cases hstop : s.stop with
  | error fault => simp [slots, cursor, hstop, bind, Except.bind]
  | ok stop =>
    have hend := stop_eq_ok.mp hstop
    have hwalk := SlotCursor.collect_eq (c := ⟨s.start, stop, s.encoding⟩) #[] hend
    simp only [slots, cursor, hstop, bind, Except.bind, pure, Except.pure, hwalk]
    simp [slot, SlotCursor.ahead]

lemma slots_of_stop {s : Slice} {stop : Address} (h : s.stop = .ok stop) :
    s.slots = .ok ((List.range s.count.toNat).map s.slot) := by
  rw [slots_eq, h]
  rfl

lemma eq_map_slot {s : Slice} {found : List Slot} (h : s.slots = .ok found) :
    (∃ stop, s.stop = .ok stop) ∧ found = (List.range s.count.toNat).map s.slot := by
  rw [slots_eq, bind_eq_ok] at h
  obtain ⟨stop, hstop, hfound⟩ := h
  exact ⟨⟨stop, hstop⟩, (Except.ok.inj hfound).symm⟩

lemma slots_eq_nil_iff {s : Slice} {found : List Slot} (h : s.slots = .ok found) :
    found = [] ↔ s.isEmpty = true := by
  rw [(eq_map_slot h).2, List.map_eq_nil_iff, List.range_eq_nil, isEmpty_iff]

lemma mem_slots {s : Slice} {found : List Slot} (h : s.slots = .ok found) {t : Slot} :
    t ∈ found ↔ ∃ i < s.count.toNat, s.slot i = t := by
  rw [(eq_map_slot h).2, List.mem_map]
  simp only [List.mem_range]

end Slice

end WriteBarrier
