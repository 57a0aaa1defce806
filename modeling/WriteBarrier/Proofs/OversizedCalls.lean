import WriteBarrier.Proofs.ServedRequests
import WriteBarrier.Proofs.SliceWalks

/-!
# Oversized static calls

A static entry point refuses more than `maxCount` references before anything else happens. Its check
is on the number of references alone, so that fewer references whose size does not fit in a word
pass it. Their call is counted and goes on to the barrier set; it stops there where the size is
computed, before the barrier set has noted anything.
-/

namespace WriteBarrier

/-- The size of the slice does not fit in a word. -/
def Slice.Oversized (s : Slice) : Prop := 2 ^ 64 ≤ s.count.toNat * s.encoding.width.toNat

instance (s : Slice) : Decidable s.Oversized :=
  inferInstanceAs (Decidable (2 ^ 64 ≤ s.count.toNat * s.encoding.width.toNat))

/-- What stops the call after a bulk store into an oversized slice: the place of the slots is looked
at before their size. -/
def Slice.sizeFault (s : Slice) : Fault :=
  if s.encoding.isNarrow || s.start.isWordAligned then .productOverflow
  else .unalignedArray s.start

/-- The barrier set once events have been recorded. -/
def Barrier.recording (b : Barrier) (events : List Event) : Barrier :=
  { b with journal := { b.journal with events := b.journal.events ++ events.toArray } }

namespace Slice.Oversized

variable {s : Slice}

lemma of_maxCount_lt (hcount : Machine.maxCount < s.count) : s.Oversized := by
  have hmany : 0x7fffffffffffffff < s.count.toNat := UInt64.lt_iff_toNat_lt.mp hcount
  unfold Oversized
  cases s.encoding with
  | full =>
    have hwidth : Encoding.full.width.toNat = 8 := rfl
    rw [hwidth]
    omega
  | narrow e =>
    have hwidth : (Encoding.narrow e).width.toNat = 4 := rfl
    rw [hwidth]
    omega

lemma isEmpty_eq_false (h : s.Oversized) : s.isEmpty = false := by
  rw [Bool.eq_false_iff, ne_eq, isEmpty_iff]
  intro hcount
  rw [Oversized, hcount, Nat.zero_mul] at h
  omega

lemma stop_eq (h : s.Oversized) : s.stop = .error .productOverflow :=
  stop_eq_error.mpr (.inl ⟨rfl, h⟩)

lemma slots_eq (h : s.Oversized) : s.slots = .error .productOverflow := by
  rw [Slice.slots_eq, h.stop_eq]
  rfl

lemma coveringRegion_eq (h : s.Oversized) : s.coveringRegion = .error .productOverflow := by
  rw [coveringRegion, h.stop_eq]
  rfl

lemma writtenRegion?_eq (h : s.Oversized) : Call.writtenRegion? s = .error s.sizeFault := by
  have hnonempty : ¬s.isEmpty = true := by
    rw [h.isEmpty_eq_false]
    exact Bool.false_ne_true
  rw [Call.writtenRegion?, if_neg hnonempty, sizeFault]
  split
  · rw [h.coveringRegion_eq]
    rfl
  · rfl

/-- The call after a bulk store reaches no barrier set, whatever that does. -/
lemma deliver_arrayPost (h : s.Oversized) {σ : Type} (answer : σ → Hook → σ × Except Fault Unit)
    (x : σ) : (Call.arrayPost s).deliver answer x = (x, .error s.sizeFault) := by
  rw [Call.deliver_arrayPost, h.writtenRegion?_eq]

end Slice.Oversized

namespace Variant

variable {v : Variant}

lemma loadsOldValues_iff : v.loadsOldValues = true ↔ v = .snapshot ∨ v = .loggingSnapshot := by
  cases v <;> simp [loadsOldValues]

/-- A variant that does not look at old values does nothing before a bulk store but record it. -/
lemma exists_actions_arrayPre (hv : v.loadsOldValues = false) (s : Slice) (uninitialized : Bool) :
    ∃ events : List Event, v.actions (.arrayPre s uninitialized) = .ok (events.map .record) := by
  cases v with
  | snapshot => cases hv
  | loggingSnapshot => cases hv
  | modRef => exact ⟨[], rfl⟩
  | plainSnapshot => exact ⟨[], rfl⟩
  | custom policy => exact ⟨[], rfl⟩
  | markingTable range => exact ⟨[.slicePre s uninitialized], rfl⟩
  | _ => exact ⟨[.arrayPre s.start s.count uninitialized], rfl⟩

end Variant

namespace Barrier

variable {b : Barrier} {m : Memory} {s : Slice}

lemma call_arrayPost_of_oversized (h : s.Oversized) :
    b.call m (.arrayPost s) = (b, .error s.sizeFault) := by
  rw [call, h.deliver_arrayPost]

/-- Old values are loaded only once the size of the slice is known. -/
lemma call_arrayPre_of_oversized (hv : b.variant.loadsOldValues = true) (h : s.Oversized) :
    b.call m (.arrayPre s false) = (b, .error .productOverflow) := by
  apply call_of_answer_error
  rw [Variant.answer_arrayPre (Variant.loadsOldValues_iff.mp hv), Variant.snapshotActions_arrayPre,
    if_neg Bool.false_ne_true, h.slots_eq]
  rfl

lemma exists_call_arrayPre (hv : b.variant.loadsOldValues = false) (m : Memory) (s : Slice)
    (uninitialized : Bool) :
    ∃ events, b.call m (.arrayPre s uninitialized) = (b.recording events, .ok ()) := by
  obtain ⟨events, hactions⟩ := Variant.exists_actions_arrayPre hv s uninitialized
  have hanswer : b.variant.answer (.arrayPre s uninitialized) = .ok (events.map .record) := hactions
  refine ⟨events, ?_⟩
  rw [call_of_answer_ok hanswer, Journal.perform_record]
  rfl

end Barrier

namespace Machine

variable {p : Machine} {i : Installation}

/-- A refused static call writes no line either. -/
lemma staticCall_eq_of_refused (hcell : p.cell = .filled i) {f : Counters → Counters}
    {text : Slice → String} {c : Slice → Call} {start : Address} {count : Word} {fault : Fault}
    (hslice : staticSlice i start count = .error fault) :
    staticCall f text c start count p = ⟨.error fault, p, []⟩ := by
  have hinstalled : installation p = ⟨.ok i, p, []⟩ := by
    rw [installation, installation?_of_filled hcell]
  have hchecked : Step.ofExcept (staticSlice i start count) p = ⟨.error fault, p, []⟩ := by
    rw [hslice]
    rfl
  rw [staticCall, Step.bind_apply_ok hinstalled, Step.bind_apply_error hchecked]
  rfl

/-- A static call with more than `maxCount` references is refused before anything changes; their
size fits in a word under no layout. A call with fewer references whose size does not fit in a word
is counted. The call after the bulk store stops then, and so does the call before it at a barrier
set that loads old values; apart from the count nothing has changed. Any other barrier set is called
with the slice as with one that fits, does not stop, and records the call at most. -/
theorem oversized_static_calls (hcell : p.cell = .filled i) (start : Address) (count : Word) :
    let slice : Slice := ⟨start, count, i.encoding⟩
    (maxCount < count → slice.Oversized ∧
      staticPre start count p = ⟨.error (.countTooLarge count), p, []⟩ ∧
      staticPost start count p = ⟨.error (.countTooLarge count), p, []⟩) ∧
    (count ≤ maxCount → slice.Oversized →
      Step.Yields (staticPost start count) p (.error slice.sizeFault)
        { p with cell := .filled { i with counters := i.counters.countPost } } ∧
      (i.barrier.variant.loadsOldValues = true →
        Step.Yields (staticPre start count) p (.error .productOverflow)
          { p with cell := .filled { i with counters := i.counters.countPre } }) ∧
      (i.barrier.variant.loadsOldValues = false → ∃ events,
        i.barrier.call p.memory (.arrayPre slice false) = (i.barrier.recording events, .ok ()) ∧
        Step.Yields (staticPre start count) p (.ok ())
          { p with
            cell := .filled
              { i with
                barrier := i.barrier.recording events
                counters := i.counters.countPre } })) := by
  intro slice
  refine ⟨?_, ?_⟩
  · intro hmany
    have hslice : staticSlice i start count = .error (.countTooLarge count) :=
      staticSlice_eq_error (UInt64.not_le.mpr hmany)
    exact ⟨.of_maxCount_lt hmany, staticCall_eq_of_refused hcell hslice,
      staticCall_eq_of_refused hcell hslice⟩
  · intro hcount hsize
    have hslice : staticSlice i start count = .ok slice := staticSlice_eq_ok hcount
    have hpre : Step.Yields (staticPre start count) p
        (i.barrier.call p.memory (.arrayPre slice false)).2 _ := staticCall_of_accepted hcell hslice
    have hpost : Step.Yields (staticPost start count) p
        (i.barrier.call p.memory (.arrayPost slice)).2 _ := staticCall_of_accepted hcell hslice
    rw [Barrier.call_arrayPost_of_oversized hsize] at hpost
    refine ⟨hpost, ?_, ?_⟩
    · intro hloads
      rwa [Barrier.call_arrayPre_of_oversized hloads hsize] at hpre
    · intro hloads
      obtain ⟨events, hcall⟩ := Barrier.exists_call_arrayPre hloads p.memory slice false
      rw [hcall] at hpre
      exact ⟨events, hcall, hpre⟩

theorem oversized_static_calls_of_snapshot :
    let options : Options := { countStaticCalls := true }
    let p := (install [] options (.ofVariant .snapshot) {}).state
    let i := Installation.create options (.ofVariant .snapshot)
    p.cell = .filled i ∧
    staticPre ⟨0x40000000⟩ 0x8000000000000000 p =
      ⟨.error (.countTooLarge 0x8000000000000000), p, []⟩ ∧
    Step.Yields (staticPre ⟨0x40000000⟩ 0x2000000000000000) p (.error .productOverflow)
      { p with cell := .filled { i with counters := { counting := true, preCalls := 1 } } } ∧
    Step.Yields (staticPost ⟨0x40000004⟩ 0x2000000000000000) p
      (.error (.unalignedArray ⟨0x40000004⟩))
      { p with cell := .filled { i with counters := { counting := true, postCalls := 1 } } } := by
  intro options p i
  have hcell : p.cell = .filled i := rfl
  have hrefused := (oversized_static_calls hcell ⟨0x40000000⟩ 0x8000000000000000).1 (by decide)
  have hpre := (oversized_static_calls hcell ⟨0x40000000⟩ 0x2000000000000000).2 (by decide)
    (by decide)
  have hpost := (oversized_static_calls hcell ⟨0x40000004⟩ 0x2000000000000000).2 (by decide)
    (by decide)
  have hfault : Slice.sizeFault ⟨⟨0x40000004⟩, 0x2000000000000000, i.encoding⟩ =
      .unalignedArray ⟨0x40000004⟩ := by decide
  have hcounted := hpost.1
  rw [hfault] at hcounted
  exact ⟨hcell, hrefused.2.1, hpre.2.1 rfl, hcounted⟩

/-- A card table is called with more references than the address space has room for. -/
theorem oversized_static_call_accepted :
    let count : Word := 0x2000000000000000
    let p := (install [] { countStaticCalls := true } (.ofVariant .cardTable) {}).state
    let called := (staticPre ⟨0x40000000⟩ count p).state
    2 ^ 64 ≤ count.toNat * Encoding.full.width.toNat ∧
    Step.Yields referenceEncoding p (.ok .full) p ∧
    (staticPre ⟨0x40000000⟩ count p).result = .ok () ∧
    Step.Yields staticCallCounts called (.ok (1, 0)) called ∧
    called.barrierSet?.map (·.journal.events) =
      some #[.arrayPre ⟨0x40000000⟩ count false] := by
  intro count p called
  exact ⟨by decide, ⟨rfl, rfl⟩, rfl, ⟨rfl, rfl⟩, rfl⟩

end Machine

end WriteBarrier
