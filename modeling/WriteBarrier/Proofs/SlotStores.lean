import Mathlib.Data.List.Pairwise
import WriteBarrier.Proofs.CoveringRegions
import WriteBarrier.Proofs.MachineSteps
import WriteBarrier.Proofs.NarrowReferences
import WriteBarrier.Proofs.Runs

/-!
# Stores to the slots of a slice

The slots that a walk over a slice gives have no byte in common. Each is a cell of its own: it holds
what the last completed store through it put there, whatever was stored through the others.
-/

namespace WriteBarrier

/-- The word that a slot of the layout holds after a reference was stored in it: the address, or the
narrow value. -/
def Encoding.image : Encoding → ObjectRef → Except Fault Word
  | full, o => .ok o.address.val
  | narrow e, o => UInt32.toUInt64 <$> e.encode o

namespace Slot

variable {s : Slot} {o : ObjectRef} {m m' : Memory}

lemma image_of_store (h : s.store o m = .ok m') : s.encoding.image o = .ok (s.content m') := by
  cases s with
  | full a =>
    cases h
    exact congrArg Except.ok (Memory.load64_store64 m a o.address.val).symm
  | narrow a e =>
    obtain ⟨n, hn, rfl⟩ := store_narrow_eq_ok.mp h
    change UInt32.toUInt64 <$> e.encode o = .ok ((m.store32 a n).load32 a).toUInt64
    rw [hn, Memory.load32_store32]
    rfl

lemma image_of_store_error {fault : Fault} (h : s.store o m = .error fault) :
    s.encoding.image o = .error fault := by
  cases s with
  | full a => cases h
  | narrow a e =>
    change UInt32.toUInt64 <$> e.encode o = _
    rw [store, bind_eq_error] at h
    rcases h with hencode | ⟨n, -, hnone⟩
    · rw [hencode]
      rfl
    · cases hnone

end Slot

namespace Slice

variable {s : Slice}

lemma apart_slot (hbound : s.bound ≤ 2 ^ 64) {i j : Nat} (hi : i < s.count.toNat)
    (hj : j < s.count.toNat) (hne : i ≠ j) : (s.slot i).Apart (s.slot j) := by
  intro a ha ha'
  rw [spans_slot_iff hbound hi] at ha
  rw [spans_slot_iff hbound hj] at ha'
  rcases Nat.lt_or_gt_of_ne hne with hlt | hlt
  · have hnext : (i + 1) * s.encoding.width.toNat ≤ j * s.encoding.width.toNat :=
      Nat.mul_le_mul_right _ hlt
    omega
  · have hnext : (j + 1) * s.encoding.width.toNat ≤ i * s.encoding.width.toNat :=
      Nat.mul_le_mul_right _ hlt
    omega

lemma apart_slots {found : List Slot} (h : s.slots = .ok found) : found.Pairwise Slot.Apart := by
  obtain ⟨⟨stop, hstop⟩, rfl⟩ := eq_map_slot h
  have hend : s.bound = stop.toNat := stop_eq_ok.mp hstop
  have hbound : s.bound ≤ 2 ^ 64 := hend ▸ Nat.le_of_lt stop.toNat_lt
  rw [List.pairwise_map]
  apply List.nodup_range.imp_of_mem
  intro i j hi hj hne
  exact apart_slot hbound (List.mem_range.mp hi) (List.mem_range.mp hj) hne

end Slice

section Run

variable {found : List Slot} {stores : List (Slot × ObjectRef)}

/-- What a memory holds after completed stores through the slots that were found. -/
structure Memory.Written (m initial : Memory) (found : List Slot)
    (stores : List (Slot × ObjectRef)) : Prop where
  image : ∀ t ∈ found, ∀ o, Request.lastStored stores t = some o →
    t.encoding.image o = .ok (t.content m)
  content : ∀ t ∈ found, Request.lastStored stores t = none → t.content m = t.content initial
  byte : ∀ a, (∀ t ∈ found, ¬t.Spans a) → m.byte a = initial.byte a

lemma Memory.Written.nil (m : Memory) (found : List Slot) : m.Written m found [] := by
  refine ⟨?_, fun _ _ _ => rfl, fun _ _ => rfl⟩
  intro t _ o hnone
  cases hnone

lemma Memory.Written.store {m m' initial : Memory} {t : Slot} {o : ObjectRef}
    (h : m.Written initial found stores) (hfound : found.Pairwise Slot.Apart) (ht : t ∈ found)
    (hstore : t.store o m = .ok m') : m'.Written initial found (stores ++ [(t, o)]) := by
  have hother : ∀ u ∈ found, u ≠ t → u.content m' = u.content m := fun u hu hne =>
    (hfound.forall hu ht hne).content_store hstore
  refine ⟨?_, ?_, ?_⟩
  · intro u hu last hlast
    by_cases hut : u = t
    · rw [hut, Request.lastStored_append_self] at hlast
      cases hlast
      rw [hut]
      exact Slot.image_of_store hstore
    · rw [Request.lastStored_append_of_ne hut] at hlast
      rw [hother u hu hut]
      exact h.image u hu last hlast
  · intro u hu hnone
    by_cases hut : u = t
    · rw [hut, Request.lastStored_append_self] at hnone
      cases hnone
    · rw [Request.lastStored_append_of_ne hut] at hnone
      rw [hother u hu hut]
      exact h.content u hu hnone
  · intro a ha
    rw [Slot.byte_store_of_not_spans hstore (ha t ht)]
    exact h.byte a ha

namespace Request

/-- A store through one of the slots. -/
def Through (found : List Slot) : Request → Prop
  | store t _ => t ∈ found
  | _ => False

variable {p : Machine} {initial : Memory} {r : Request}

lemma written_serve (h : p.memory.Written initial found stores)
    (hfound : found.Pairwise Slot.Apart) (hr : r.Through found) :
    (r.serve p).state.memory.Written initial found (stores ++ (r.stored? p).toList) := by
  cases r with
  | store t o =>
    rw [serve, stored?]
    cases hstore : t.store o p.memory with
    | error fault =>
      rw [(Machine.store_of_error hstore).2, Option.toList_none, List.append_nil]
      exact h
    | ok memory =>
      rw [(Machine.store_of_ok hstore).2]
      exact h.store hfound hr hstore
  | _ => exact hr.elim

lemma state_of_store_error {t : Slot} {o : ObjectRef} {fault : Fault}
    (h : ((store t o).serve p).result = .error fault) :
    t.encoding.image o = .error fault ∧ ((store t o).serve p).state = p := by
  rw [serve] at h ⊢
  cases hstore : t.store o p.memory with
  | error other =>
    obtain ⟨hresult, hstate⟩ := Machine.store_of_error hstore
    rw [hresult] at h
    cases h
    exact ⟨Slot.image_of_store_error hstore, hstate⟩
  | ok memory =>
    rw [(Machine.store_of_ok hstore).1] at h
    cases h

end Request

/-- The slots of a slice have no byte in common, so that each is a cell of its own. After any stores
through them, in any order, a slot holds what the last one that completed put there, or what it held
before, and the bytes outside the slice are as they were. A store that stops changes nothing. -/
theorem Slice.slots_are_cells {s : Slice} (hfound : s.slots = .ok found) (p : Machine)
    {requests : List Request} (hrequests : ∀ r ∈ requests, r.Through found) :
    let q := Request.run p requests
    let stores := Request.storedIn p requests
    found.Pairwise Slot.Apart ∧
    (∀ t ∈ found,
      (∀ o, Request.lastStored stores t = some o →
        s.encoding.image o = .ok (t.content q.memory)) ∧
      (Request.lastStored stores t = none → t.content q.memory = t.content p.memory)) ∧
    (∃ stop, s.stop = .ok stop ∧
      ∀ a, a < s.start ∨ stop ≤ a → q.memory.byte a = p.memory.byte a) ∧
    ∀ (t : Slot) (o : ObjectRef) (fault : Fault),
      ((Request.store t o).serve q).result = .error fault →
        t.encoding.image o = .error fault ∧ ((Request.store t o).serve q).state = q := by
  intro q stores
  have hapart := apart_slots hfound
  have hq := Request.run_notes (P := fun q stores => q.memory.Written p.memory found stores)
    (fun hq hr => Request.written_serve hq hapart hr) (.nil p.memory found) hrequests
  rw [List.nil_append] at hq
  have hencoding : ∀ t ∈ found, t.encoding = s.encoding := by
    intro t ht
    obtain ⟨i, -, rfl⟩ := (mem_slots hfound).mp ht
    exact Encoding.encoding_slotAt _ _
  refine ⟨hapart, ?_, ?_, fun t o fault => Request.state_of_store_error⟩
  · intro t ht
    rw [← hencoding t ht]
    exact ⟨hq.image t ht, hq.content t ht⟩
  · obtain ⟨stop, hstop⟩ := (eq_map_slot hfound).1
    have hend : s.bound = stop.toNat := stop_eq_ok.mp hstop
    have hlt := stop.toNat_lt
    refine ⟨stop, hstop, ?_⟩
    intro a ha
    apply hq.byte
    intro t ht hspans
    obtain ⟨i, hi, rfl⟩ := (mem_slots hfound).mp ht
    have hinside := (spans_iff (by omega)).mp ⟨i, hi, hspans⟩
    rw [Address.lt_iff_toNat, Address.le_iff_toNat] at ha
    omega

theorem Slice.slots_are_cells_after_stopped_store :
    let e : NarrowEncoding := ⟨⟨0x1000⟩, 3⟩
    let s : Slice := ⟨⟨0x40000004⟩, 2, .narrow e⟩
    let o : ObjectRef := ⟨⟨0x2000⟩, by decide, by decide⟩
    let low : ObjectRef := ⟨⟨0x800⟩, by decide, by decide⟩
    let p : Machine := { memory := Memory.zeroed.store64 ⟨0x40000000⟩ 0x1122334455667788 }
    let requests : List Request := [.store (s.slot 1) o, .store (s.slot 1) low]
    let q := Request.run p requests
    s.slots = .ok [s.slot 0, s.slot 1] ∧
    (s.slot 0).content q.memory = 0x11223344 ∧
    (s.slot 1).content q.memory = 0x200 ∧
    q.memory.byte ⟨0x40000003⟩ = 0x55 ∧
    ((Request.store (s.slot 0) low).serve q).state = q := by
  intro e s o low p requests q
  have hstop : s.stop = .ok ⟨0x4000000c⟩ := rfl
  have hfound : s.slots = .ok [s.slot 0, s.slot 1] := slots_of_stop hstop
  have hfirst : s.slot 0 ∈ [s.slot 0, s.slot 1] := .head _
  have hlast : s.slot 1 ∈ [s.slot 0, s.slot 1] := .tail _ (.head _)
  have hrequests : ∀ r ∈ requests, r.Through [s.slot 0, s.slot 1] :=
    List.forall_mem_cons.mpr ⟨hlast, List.forall_mem_singleton.mpr hlast⟩
  have hstored : Request.storedIn p requests = [(s.slot 1, o)] := by decide
  have hinitial : (s.slot 0).content p.memory = 0x11223344 := by decide +kernel
  have himage : s.encoding.image o = .ok 0x200 := by decide
  obtain ⟨-, hcells, ⟨stop, hstop', hbytes⟩, hstops⟩ := slots_are_cells hfound p hrequests
  cases hstop.symm.trans hstop'
  rw [hstored] at hcells
  refine ⟨hfound, ?_, ?_, ?_, ?_⟩
  · exact ((hcells _ hfirst).2 (by decide)).trans hinitial
  · have hcontent := (hcells _ hlast).1 o (by decide)
    exact Except.ok.inj (hcontent.symm.trans himage)
  · exact (hbytes ⟨0x40000003⟩ (.inl (by decide))).trans (by decide +kernel)
  · exact (hstops (s.slot 0) low (.negativeDistance ⟨0x1000⟩ ⟨0x800⟩) rfl).2

end Run

end WriteBarrier
