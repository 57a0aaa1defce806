import WriteBarrier.Proofs.CoveringRegions
import WriteBarrier.Proofs.NarrowReferences
import WriteBarrier.Proofs.Resizes
import WriteBarrier.Proofs.Runs

/-!
# Narrow heaps

A heap that was zeroed at first and is written through narrow slots of one encoding alone. Every
slot holds null or the narrow value of a reference that was stored there, so that decoding never
stops, whatever base and shift the encoding has, and the snapshot variants remember nothing but
stored references.
-/

namespace WriteBarrier

/-- A slot of a narrow heap. -/
def Slot.InHeap (e : NarrowEncoding) (mapped : Region) (s : Slot) : Prop :=
  s.encoding = .narrow e ∧ s.access.Mapped mapped

/-- A call before stores to slots of a narrow heap. -/
def Call.Guards (e : NarrowEncoding) (mapped : Region) : Call → Prop
  | fieldPre slot _ => slot.InHeap e mapped
  | arrayPre slice _ => slice.encoding = .narrow e ∧ slice.access.Mapped mapped
  | _ => False

/-- A store to a slot of a narrow heap, or a call before such stores. -/
def Request.OnHeap (e : NarrowEncoding) (mapped : Region) : Request → Prop
  | store slot _ => slot.InHeap e mapped
  | call c => c.Guards e mapped
  | _ => False

variable {e : NarrowEncoding} {mapped : Region} {m m' : Memory} {s t : Slot} {o : ObjectRef}
  {stores : List (Slot × ObjectRef)}

/-- What a slot holds after stores: the last reference that was stored there, unless it lies at the
heap base, or null. -/
def NarrowEncoding.kept (e : NarrowEncoding) (stores : List (Slot × ObjectRef)) (s : Slot) :
    Option ObjectRef :=
  (stores.reverse.lookup s).filter (·.address ≠ e.base)

/-- Every slot of the heap holds what it should after stores to a zeroed memory. -/
def Memory.Holds (m : Memory) (e : NarrowEncoding) (mapped : Region)
    (stores : List (Slot × ObjectRef)) : Prop :=
  ∀ s : Slot, s.InHeap e mapped → s.load m = .ok (e.kept stores s)

namespace NarrowEncoding

lemma kept_append_self :
    e.kept (stores ++ [(s, o)]) s = if o.address = e.base then none else some o := by
  change (Request.lastStored (stores ++ [(s, o)]) s).filter _ = _
  rw [Request.lastStored_append_self]
  by_cases hbase : o.address = e.base
  · simp [hbase]
  · simp [hbase]

lemma kept_append_of_ne (hne : s ≠ t) : e.kept (stores ++ [(t, o)]) s = e.kept stores s := by
  change (Request.lastStored (stores ++ [(t, o)]) s).filter _ = _
  rw [Request.lastStored_append_of_ne hne]
  rfl

lemma mem_of_kept (h : e.kept stores s = some o) : (s, o) ∈ stores := by
  obtain ⟨hlookup, -⟩ := Option.filter_eq_some_iff.mp h
  obtain ⟨before, after, hstores, -⟩ := List.lookup_eq_some_iff.mp hlookup
  rw [← List.mem_reverse, hstores]
  simp

end NarrowEncoding

lemma Memory.load_zeroed (a : Address) (n : Nat) : zeroed.load a n = 0 := by
  induction n generalizing a with
  | zero => rfl
  | succ n ih =>
    rw [load, ih]
    rfl

lemma Slot.exists_narrow (h : s.encoding = .narrow e) : ∃ a, s = narrow a e := by
  cases s with
  | full a => cases h
  | narrow a e' =>
    cases h
    exact ⟨a, rfl⟩

namespace Memory

lemma holds_zeroed : zeroed.Holds e mapped [] := by
  rintro s ⟨hencoding, -⟩
  obtain ⟨a, rfl⟩ := Slot.exists_narrow hencoding
  rw [Slot.load, load32, load_zeroed]
  rfl

lemma Holds.store (h : m.Holds e mapped stores) (ht : t.InHeap e mapped)
    (hstore : t.store o m = .ok m') : m'.Holds e mapped (stores ++ [(t, o)]) := by
  intro s hs
  by_cases hst : s = t
  · obtain ⟨a, rfl⟩ := Slot.exists_narrow ht.1
    rw [hst, NarrowEncoding.kept_append_self]
    exact Slot.load_narrow_store hstore
  · rw [NarrowEncoding.kept_append_of_ne hst, ← h s hs]
    exact Slot.load_store_of_ne (hs.1.trans ht.1.symm) hs.2.2.2 ht.2.2.2 hst hstore

end Memory

lemma Slice.slot_inHeap {slice : Slice} (hmapped : mapped.Bounded)
    (hencoding : slice.encoding = .narrow e) (hslice : slice.access.Mapped mapped) {i : Nat}
    (hi : i < slice.count.toNat) : (slice.slot i).InHeap e mapped := by
  obtain ⟨hlow, hhigh, haligned⟩ := hslice
  have haddress := toNat_address_slot (Nat.le_trans hhigh (Nat.le_of_lt hmapped)) hi
  have hslot : (slice.slot i).encoding = slice.encoding := Encoding.encoding_slotAt _ _
  have hlast : (i + 1) * slice.encoding.width.toNat ≤
      slice.count.toNat * slice.encoding.width.toNat := Nat.mul_le_mul_right _ hi
  rw [Nat.succ_mul] at hlast
  refine ⟨hslot.trans hencoding, ?_, ?_, ?_⟩
  · have hstart := Address.le_iff_toNat.mp hlow
    rw [Address.le_iff_toNat]
    change mapped.start.toNat ≤ (slice.slot i).address.toNat
    exact Nat.le_trans hstart (haddress ▸ Nat.le_add_right _ _)
  · change slice.start.toNat + slice.count.toNat * slice.encoding.width.toNat ≤ _ at hhigh
    change (slice.slot i).address.toNat + (slice.slot i).encoding.width.toNat ≤ _
    rw [hslot]
    omega
  · have hstart := Address.isAlignedTo_iff_dvd.mp haligned
    change (slice.slot i).address.isAlignedTo (slice.slot i).encoding.width = true
    rw [hslot, Address.isAlignedTo_iff_dvd, haddress]
    exact Nat.dvd_add hstart (Nat.dvd_mul_left _ _)

section Call

variable {b : Barrier} {c : Call} {old : Array ObjectRef}

/-- What a snapshot variant loads at a call before stores to the heap are slots of the heap. -/
lemma Call.Guards.exists_answer {v : Variant} (hv : v = .snapshot ∨ v = .loggingSnapshot)
    (hmapped : mapped.Bounded) (hc : c.Guards e mapped) :
    ∃ (slots : List Slot) (event : Event),
      v.answer c = .ok (slots.flatMap Action.remembering ++ [.record event]) ∧
      ∀ s ∈ slots, s.InHeap e mapped := by
  cases c with
  | fieldPre slot new =>
    refine ⟨[slot], .fieldPre slot.address slot.isNarrow, Variant.answer_fieldPre hv slot new, ?_⟩
    intro s hs
    rw [List.mem_singleton.mp hs]
    exact hc
  | arrayPre slice uninitialized =>
    rw [Variant.answer_arrayPre hv, Variant.snapshotActions_arrayPre]
    cases uninitialized with
    | true => exact ⟨[], _, rfl, fun _ h => absurd h List.not_mem_nil⟩
    | false =>
      obtain ⟨hencoding, hslice⟩ := hc
      -- The slice ends where memory is mapped, so that the walk over its slots begins.
      have hslots := Slice.slots_of_bound (Nat.lt_of_le_of_lt hslice.2.1 hmapped)
      refine ⟨_, _, by rw [hslots]; rfl, ?_⟩
      intro s hs
      obtain ⟨i, hi, rfl⟩ := (Slice.mem_slots hslots).mp hs
      exact Slice.slot_inHeap hmapped hencoding hslice hi
  | _ => exact hc.elim

/-- Whatever was remembered in addition to `old` is one of the references in `stores`. -/
def Barrier.RemembersStored (b : Barrier) (old : Array ObjectRef)
    (stores : List (Slot × ObjectRef)) : Prop :=
  ∃ new : List ObjectRef, b.journal.remembered = old ++ new.toArray ∧
    ∀ o ∈ new, ∃ s, (s, o) ∈ stores

lemma Barrier.call_guarding (hv : b.variant = .snapshot ∨ b.variant = .loggingSnapshot)
    (hmapped : mapped.Bounded) (hm : m.Holds e mapped stores)
    (hb : b.RemembersStored old stores) (hc : c.Guards e mapped) :
    (b.call m c).2 = .ok () ∧ (b.call m c).1.RemembersStored old stores := by
  obtain ⟨slots, event, hanswer, hslots⟩ := hc.exists_answer hv hmapped
  obtain ⟨new, hnew, hstored⟩ := hb
  have hload : ∀ s ∈ slots, s.load m = .ok (e.kept stores s) := fun s hs => hm s (hslots s hs)
  have hevent : [Action.record event] = [event].map .record := rfl
  rw [call_of_answer_ok hanswer, Journal.perform_remembering hload, hevent, Journal.perform_record]
  refine ⟨rfl, new ++ slots.filterMap (e.kept stores), ?_, ?_⟩
  · simp [hnew]
  · intro o ho
    cases List.mem_append.mp ho with
    | inl hold => exact hstored o hold
    | inr hfound =>
      obtain ⟨s, -, hs⟩ := List.mem_filterMap.mp hfound
      exact ⟨s, NarrowEncoding.mem_of_kept hs⟩

end Call

section Run

variable {p : Machine} {i : Installation} {r : Request} {old : Array ObjectRef}

/-- The state of a machine with a snapshot variant after stores to a zeroed heap. -/
structure Machine.Consistent (p : Machine) (e : NarrowEncoding) (mapped : Region)
    (old : Array ObjectRef) (stores : List (Slot × ObjectRef)) : Prop where
  holds : p.memory.Holds e mapped stores
  installed : ∃ i, p.cell = .filled i ∧
    (i.barrier.variant = .snapshot ∨ i.barrier.variant = .loggingSnapshot) ∧
    i.barrier.RemembersStored old stores

lemma Barrier.RemembersStored.append {b : Barrier} (hb : b.RemembersStored old stores)
    (later : List (Slot × ObjectRef)) : b.RemembersStored old (stores ++ later) := by
  obtain ⟨new, hnew, hstored⟩ := hb
  refine ⟨new, hnew, ?_⟩
  intro o ho
  obtain ⟨s, hs⟩ := hstored o ho
  exact ⟨s, List.mem_append_left _ hs⟩

namespace Machine.Consistent

lemma serve (hp : p.Consistent e mapped old stores) (hmapped : mapped.Bounded)
    (hr : r.OnHeap e mapped) :
    (r.serve p).state.Consistent e mapped old (stores ++ (r.stored? p).toList) := by
  obtain ⟨i, hcell, hv, hremembers⟩ := hp.installed
  cases r with
  | store slot object =>
    rw [Request.serve, Request.stored?]
    cases hstore : slot.store object p.memory with
    | error fault =>
      rw [(store_of_error hstore).2, Option.toList_none, List.append_nil]
      exact hp
    | ok memory =>
      rw [(store_of_ok hstore).2]
      exact ⟨hp.holds.store hr hstore, i, hcell, hv, hremembers.append _⟩
  | call c =>
    obtain ⟨-, hremembers'⟩ := Barrier.call_guarding hv hmapped hp.holds hremembers hr
    have hnone : (Request.call c).stored? p = none := rfl
    rw [Request.serve, (call_of_filled hcell c).2, hnone, Option.toList_none, List.append_nil]
    refine ⟨hp.holds, _, rfl, ?_, hremembers'⟩
    rw [Barrier.variant_call]
    exact hv
  | _ => exact hr.elim

end Machine.Consistent

/-- A zeroed heap that is written through narrow slots alone is always readable: at every state of
every run of stores, some of which may stop, and of calls before stores, every slot holds null or
the last reference that was stored there; no call before a store stops, and the snapshot variants
remember stored references only. -/
theorem Machine.narrow_heap_readable (hmapped : mapped.Bounded) {start : Machine}
    (hcell : start.cell = .filled i)
    (hv : i.barrier.variant = .snapshot ∨ i.barrier.variant = .loggingSnapshot)
    (hzeroed : start.memory = .zeroed) (requests : List Request)
    (hrequests : ∀ r ∈ requests, r.OnHeap e mapped) :
    let p := Request.run start requests
    let stores := Request.storedIn start requests
    (∀ s : Slot, s.InHeap e mapped →
      s.load p.memory = .ok ((stores.reverse.lookup s).filter (·.address ≠ e.base))) ∧
    (∀ c : Call, c.Guards e mapped → (call c p).result = .ok ()) ∧
    ∃ i', p.installation? = some i' ∧
      i'.barrier.RemembersStored i.barrier.journal.remembered stores := by
  intro p stores
  have hstart : start.Consistent e mapped i.barrier.journal.remembered [] := by
    refine ⟨?_, i, hcell, hv, [], (Array.append_empty).symm, fun _ h => absurd h List.not_mem_nil⟩
    rw [hzeroed]
    exact Memory.holds_zeroed
  have hp := Request.run_notes (P := fun p stores => p.Consistent e mapped _ stores)
    (fun hp hr => hp.serve hmapped hr) hstart hrequests
  rw [List.nil_append] at hp
  obtain ⟨i', hcell', hv', hremembers⟩ := hp.installed
  refine ⟨hp.holds, ?_, i', installation?_of_filled hcell', hremembers⟩
  intro c hc
  rw [(call_of_filled hcell' c).1]
  exact (Barrier.call_guarding hv' hmapped hp.holds hremembers hc).1

theorem Machine.narrow_heap_readable_after_stopped_store :
    let e : NarrowEncoding := ⟨⟨0x1000⟩, 0⟩
    let s : Slot := .narrow ⟨0x40000004⟩ e
    let o : ObjectRef := ⟨⟨0x2008⟩, by decide, by decide⟩
    let low : ObjectRef := ⟨⟨0x800⟩, by decide, by decide⟩
    let start : Machine := { cell := .filled (.create {} (.ofVariant .snapshot)) }
    let requests : List Request := [.store s o, .store s low, .call (.fieldPre s none)]
    let p := Request.run start requests
    e.decode 1 = .error (.unalignedReference ⟨0x1001⟩) ∧
    s.load p.memory = .ok (some o) ∧
    (call (.arrayPre ⟨⟨0x40000000⟩, 4, .narrow e⟩ false) p).result = .ok () ∧
    ∃ i, p.installation? = some i ∧ i.barrier.RemembersStored #[] [(s, o)] := by
  intro e s o low start requests p
  let mapped : Region := ⟨⟨0x40000000⟩, 0x1000⟩
  have hmapped : mapped.Bounded := by decide
  have hs : s.InHeap e mapped := ⟨rfl, by decide⟩
  have hrequests : ∀ r ∈ requests, r.OnHeap e mapped :=
    List.forall_mem_cons.mpr ⟨hs, List.forall_mem_cons.mpr ⟨hs, List.forall_mem_singleton.mpr hs⟩⟩
  have hstored : Request.storedIn start requests = [(s, o)] := by decide
  have hcell : start.cell = .filled (.create {} (.ofVariant .snapshot)) := rfl
  obtain ⟨hloads, hcalls, hremembers⟩ :=
    narrow_heap_readable hmapped hcell (.inl rfl) rfl requests hrequests
  rw [hstored] at hloads hremembers
  exact ⟨by cbv, hloads s hs, hcalls _ ⟨rfl, by decide⟩, hremembers⟩

end Run

end WriteBarrier
