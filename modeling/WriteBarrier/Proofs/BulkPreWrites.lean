import WriteBarrier.Proofs.Answers
import WriteBarrier.Proofs.CoveringRegions

/-!
# Bulk pre-writes

What a snapshot variant remembers at the call before a bulk store is what it would remember at the
calls before scalar stores to the slots one after the other, up to the first slot that cannot be
loaded.
-/

namespace WriteBarrier.Barrier

/-- Make calls in order until one of them stops. -/
def callUntilStop (b : Barrier) (m : Memory) : List Call → Barrier × Except Fault Unit
  | [] => (b, .ok ())
  | c :: calls =>
    match (b.call m c).2 with
    | .ok _ => (b.call m c).1.callUntilStop m calls
    | .error fault => ((b.call m c).1, .error fault)

/-- The barrier set once references have been remembered and an event has been recorded. -/
def noting (b : Barrier) (found : List ObjectRef) (event : Event) : Barrier :=
  { b with
    journal := { b.journal with
      remembered := b.journal.remembered ++ found.toArray
      events := b.journal.events.push event } }

/-- The barrier set once references have been remembered. -/
def remembering (b : Barrier) (found : List ObjectRef) : Barrier :=
  { b with journal := { b.journal with remembered := b.journal.remembered ++ found.toArray } }

variable {b : Barrier} {m : Memory}

/-- Slots are remembered and the call is recorded, unless one of them cannot be loaded. -/
lemma call_of_recalled {c : Call} {slots : List Slot} {event : Event}
    (hanswer : b.variant.answer c =
      .ok (slots.flatMap Action.remembering ++ [.record event])) :
    b.call m c =
      match (m.recalled slots).2 with
      | .ok _ => (b.noting (m.recalled slots).1 event, .ok ())
      | .error fault => (b.remembering (m.recalled slots).1, .error fault) := by
  rw [call_of_answer_ok hanswer, Journal.perform_recalled]
  cases (m.recalled slots).2 with
  | ok => rfl
  | error fault => rfl

section Scalar

variable {slot : Slot} (new : Option ObjectRef)

lemma call_fieldPre_of_recalled (hv : b.variant = .snapshot ∨ b.variant = .loggingSnapshot) :
    b.call m (.fieldPre slot new) =
      match (m.recalled [slot]).2 with
      | .ok _ =>
        (b.noting (m.recalled [slot]).1 (.fieldPre slot.address slot.isNarrow), .ok ())
      | .error fault => (b.remembering (m.recalled [slot]).1, .error fault) :=
  call_of_recalled (Variant.answer_fieldPre hv slot new)

lemma call_fieldPre_of_load (hv : b.variant = .snapshot ∨ b.variant = .loggingSnapshot)
    {found : Option ObjectRef} (hload : slot.load m = .ok found) :
    b.call m (.fieldPre slot new) =
      (b.noting found.toList (.fieldPre slot.address slot.isNarrow), .ok ()) := by
  have hrecalled : m.recalled [slot] = (found.toList, .ok ()) := by
    rw [Memory.recalled, hload, Memory.recalled]
    simp
  rw [call_fieldPre_of_recalled new hv, hrecalled]

lemma call_fieldPre_of_fault (hv : b.variant = .snapshot ∨ b.variant = .loggingSnapshot)
    {fault : Fault} (hload : slot.load m = .error fault) :
    b.call m (.fieldPre slot new) = (b.remembering [], .error fault) := by
  have hrecalled : m.recalled [slot] = ([], .error fault) := by
    rw [Memory.recalled, hload]
  rw [call_fieldPre_of_recalled new hv, hrecalled]

end Scalar

/-- Calls before scalar stores remember what the slots hold, up to the first slot that cannot be
loaded. -/
lemma callUntilStop_fieldPre (hv : b.variant = .snapshot ∨ b.variant = .loggingSnapshot)
    (stores : List (Slot × Option ObjectRef)) :
    (b.callUntilStop m (stores.map fun store => .fieldPre store.1 store.2)).2 =
      (m.recalled (stores.map Prod.fst)).2 ∧
    (b.callUntilStop m (stores.map fun store => .fieldPre store.1 store.2)).1.journal.remembered =
      b.journal.remembered ++ (m.recalled (stores.map Prod.fst)).1.toArray := by
  induction stores generalizing b with
  | nil => exact ⟨rfl, (Array.append_empty).symm⟩
  | cons store stores ih =>
    rw [List.map_cons, List.map_cons, callUntilStop, Memory.recalled]
    cases hload : store.1.load m with
    | error fault =>
      rw [call_fieldPre_of_fault store.2 hv hload]
      exact ⟨rfl, rfl⟩
    | ok found =>
      have hrest := ih (b := b.noting found.toList (.fieldPre store.1.address store.1.isNarrow)) hv
      rw [call_fieldPre_of_load store.2 hv hload]
      refine ⟨hrest.1, hrest.2.trans ?_⟩
      rw [noting, Array.append_assoc, List.append_toArray found.toList]

/-- At a call before a bulk store, every slot is remembered. -/
lemma answer_arrayPre_of_bound (hv : b.variant = .snapshot ∨ b.variant = .loggingSnapshot)
    {s : Slice} (hend : s.bound < 2 ^ 64) : b.variant.answer (.arrayPre s false) =
      .ok (((List.range s.count.toNat).map s.slot).flatMap Action.remembering ++
        [.record (.arrayPre s.start s.count false)]) := by
  rw [Variant.answer_arrayPre hv, Variant.snapshotActions_arrayPre, if_neg Bool.false_ne_true,
    Slice.slots_of_bound hend]
  rfl

/-- The call before a bulk store into initialized slots remembers what the calls before scalar
stores to the same slots remember, and stops exactly where they stop; if none of them stops, it
records itself once and records none of them, else it records nothing. The call before a bulk store
into slots that are not initialized loads no slot, remembers nothing and never stops. -/
theorem bulk_pre_write_as_scalar (hv : b.variant = .snapshot ∨ b.variant = .loggingSnapshot)
    (m : Memory) {s : Slice}
    (hend : s.start.toNat + s.count.toNat * s.encoding.width.toNat < 2 ^ 64)
    (new : Nat → Option ObjectRef) :
    let bulk := b.call m (.arrayPre s false)
    let scalar := b.callUntilStop m
      ((List.range s.count.toNat).map fun i => .fieldPre (s.slot i) (new i))
    (∀ i < s.count.toNat, (s.slot i).encoding = s.encoding ∧
      (s.slot i).address.toNat = s.start.toNat + i * s.encoding.width.toNat) ∧
    bulk.2 = scalar.2 ∧
    bulk.1.journal.remembered = scalar.1.journal.remembered ∧
    (scalar.2 = .ok () →
      bulk.1.journal.events = b.journal.events.push (.arrayPre s.start s.count false)) ∧
    (scalar.2 ≠ .ok () → bulk.1.journal.events = b.journal.events) ∧
    (∀ actions, b.variant.answer (.arrayPre s true) = .ok actions →
      ∀ slot, .load slot ∉ actions) ∧
    ∀ m', b.call m' (.arrayPre s true) =
      (b.noting [] (.arrayPre s.start s.count true), .ok ()) := by
  intro bulk scalar
  have hslots : (List.range s.count.toNat).map s.slot =
      ((List.range s.count.toNat).map fun i => (s.slot i, new i)).map Prod.fst := by
    rw [List.map_map]
    rfl
  have hbulk : bulk = _ := call_of_recalled (m := m) (answer_arrayPre_of_bound hv hend)
  have hscalar := callUntilStop_fieldPre (m := m) hv
    ((List.range s.count.toNat).map fun i => (s.slot i, new i))
  rw [← hslots, List.map_map] at hscalar
  have hresult : scalar.2 = (m.recalled ((List.range s.count.toNat).map s.slot)).2 := hscalar.1
  have hremembered : scalar.1.journal.remembered = _ := hscalar.2
  have huninitialized : b.variant.answer (.arrayPre s true) =
      .ok ([].flatMap Action.remembering ++ [.record (.arrayPre s.start s.count true)]) := by
    rw [Variant.answer_arrayPre hv, Variant.snapshotActions_arrayPre]
    rfl
  refine ⟨?_, ?_, ?_, ?_, ?_, ?_, fun m' => call_of_recalled huninitialized⟩
  · intro i hi
    exact ⟨Encoding.encoding_slotAt _ _, Slice.toNat_address_slot (Nat.le_of_lt hend) hi⟩
  · rw [hbulk, hresult]
    cases (m.recalled ((List.range s.count.toNat).map s.slot)).2 with
    | ok => rfl
    | error fault => rfl
  · rw [hbulk, hremembered]
    cases (m.recalled ((List.range s.count.toNat).map s.slot)).2 with
    | ok => rfl
    | error fault => rfl
  · intro hok
    rw [hbulk, ← hresult, hok]
    rfl
  · intro hstops
    rw [hbulk, ← hresult]
    cases hfault : scalar.2 with
    | ok => exact absurd hfault hstops
    | error fault => rfl
  · intro actions hactions slot
    rw [huninitialized] at hactions
    cases hactions
    simp

theorem bulk_pre_write_as_scalar_of_unreadable_slot :
    let heap : NarrowEncoding := ⟨⟨0x1000⟩, 0⟩
    let s : Slice := ⟨⟨0x40000000⟩, 4, .narrow heap⟩
    let m := ((Memory.zeroed.store32 ⟨0x40000000⟩ 8).store32 ⟨0x40000008⟩ 1).store32 ⟨0x4000000c⟩ 16
    let bulk := (Barrier.ofVariant .snapshot).call m (.arrayPre s false)
    bulk.2 = .error (.unalignedReference ⟨0x1001⟩) ∧
      bulk.1.journal.remembered.map (·.address) = #[⟨0x1008⟩] ∧ bulk.1.journal.events = #[] := by
  intro heap s m bulk
  have hend : s.start.toNat + s.count.toNat * s.encoding.width.toNat < 2 ^ 64 := by decide
  obtain ⟨-, hresult, hremembered, -, hevents, -⟩ :=
    bulk_pre_write_as_scalar (b := .ofVariant .snapshot) (.inl rfl) m hend fun _ => none
  have hscalar : ((Barrier.ofVariant .snapshot).callUntilStop m
      ((List.range s.count.toNat).map fun i => .fieldPre (s.slot i) none)).2 =
        .error (.unalignedReference ⟨0x1001⟩) := by decide +kernel
  refine ⟨hresult.trans hscalar, ?_, hevents ?_⟩
  · rw [hremembered]
    decide +kernel
  · rw [hscalar]
    exact nofun

end WriteBarrier.Barrier
