import WriteBarrier.Proofs.Answers
import WriteBarrier.Proofs.RegionArithmetic
import WriteBarrier.Proofs.SlotCells

/-!
# Card logging

The cards that a logging snapshot table logs in a run of calls are those of the scalar stores among
them, one for each and in their order. Calls after bulk stores and stores to regions log no card,
although each of them stands for a scalar store to every slot or word.
-/

namespace WriteBarrier

/-- The cards that an action logs. -/
def Action.loggedCards : Action → List Address
  | logCard card => [card]
  | _ => []

/-- The cards that a logging table logs at a call. -/
def Call.loggedCards : Call → List Address
  | fieldPost field _ _ => [field.alignDown Variant.cardBytes]
  | _ => []

/-- The cards that a barrier set logs while calls are made. -/
def Barrier.loggedCards (b : Barrier) (m : Memory) (calls : List Call) : List Address :=
  (b.drained.callAll m calls).journal.cards.toList

lemma Action.loggedCards_of_mem_remembering {slot : Slot} {action : Action}
    (h : action ∈ remembering slot) : action.loggedCards = [] := by
  cases h with
  | head => rfl
  | tail _ h =>
    rw [List.mem_singleton.mp h]
    rfl

section Actions

variable {m : Memory} {j j' : Journal} {held held' : Option ObjectRef}

lemma Action.cards_run {action : Action} (hrun : action.run m j held = .ok (j', held')) :
    j'.cards.toList = j.cards.toList ++ action.loggedCards := by
  cases action with
  | load slot =>
    obtain ⟨o, -, hj⟩ := bind_eq_ok.mp hrun
    cases hj
    exact (List.append_nil _).symm
  | remember =>
    cases held <;> cases hrun <;> exact (List.append_nil _).symm
  | logCard card =>
    cases hrun
    exact Array.toList_push
  | _ =>
    cases hrun
    exact (List.append_nil _).symm

lemma Journal.cards_perform {actions : List Action}
    (hnone : ∀ action ∈ actions, action.loggedCards = []) :
    (j.perform m held actions).1.cards.toList = j.cards.toList := by
  apply perform_keeps (P := fun j' => j'.cards.toList = j.cards.toList) _ rfl
  intro action haction j₁ j₂ held held' hj hrun
  rw [Action.cards_run hrun, hnone action haction, List.append_nil]
  exact hj

end Actions

lemma Call.hook_ne_fieldPost {c : Call} {hook : Hook} (hhook : c.hook? = .ok (some hook))
    (hnone : c.loggedCards = []) : ∀ field new release, hook ≠ .fieldPost field new release := by
  rintro field new release rfl
  cases c with
  | fieldPost field new release => cases hnone
  | arrayPost slice =>
    obtain ⟨r, hr⟩ := hook_of_arrayPost hhook
    cases hr
  | _ => cases hhook

/-- Only the answer to a scalar store logs a card. -/
lemma Variant.loggedCards_of_actions {hook : Hook} {actions : List Action}
    (hactions : loggingSnapshot.actions hook = .ok actions)
    (hnone : ∀ field new release, hook ≠ .fieldPost field new release) :
    ∀ action ∈ actions, action.loggedCards = [] := by
  rw [actions_loggingSnapshot hnone] at hactions
  intro action haction
  rcases mem_snapshotActions hactions haction with ⟨slot, hload⟩ | ⟨event, rfl⟩ | htable
  · exact Action.loggedCards_of_mem_remembering hload
  · rfl
  · cases hook with
    | fieldPost field new release => exact absurd rfl (hnone field new release)
    | resize region =>
      cases List.mem_cons.mp htable with
      | inl hcover =>
        rw [hcover]
        rfl
      | inr hrecord =>
        rw [List.mem_singleton.mp hrecord]
        rfl
    | _ =>
      revert htable
      simp +contextual [Action.loggedCards, cardTableActions, rootActions]

namespace Barrier

variable {b : Barrier} {m : Memory}

lemma cards_call (hb : b.variant = .loggingSnapshot) (c : Call) :
    (b.call m c).1.journal.cards.toList = b.journal.cards.toList ++ c.loggedCards := by
  by_cases hnone : c.loggedCards = []
  · rw [hnone, List.append_nil]
    cases hanswer : b.variant.answer c with
    | error fault => rw [call_of_answer_error hanswer]
    | ok actions =>
      rw [call_of_answer_ok hanswer]
      apply Journal.cards_perform
      rw [hb, Variant.answer_eq_ok] at hanswer
      rcases hanswer with ⟨-, rfl⟩ | ⟨hook, hhook, hactions⟩
      · simp
      · exact Variant.loggedCards_of_actions hactions (Call.hook_ne_fieldPost hhook hnone)
  · cases c with
    | fieldPost field new release =>
      rw [call_of_answer_ok (by rw [hb]; rfl)]
      exact Array.toList_push
    | _ => exact absurd rfl hnone

lemma cards_callAll (hb : b.variant = .loggingSnapshot) (calls : List Call) :
    (b.callAll m calls).journal.cards.toList =
      b.journal.cards.toList ++ calls.flatMap Call.loggedCards := by
  induction calls generalizing b with
  | nil => exact (List.append_nil _).symm
  | cons c calls ih =>
    have hrest := ih (b := (b.call m c).1) (variant_call.trans hb)
    rw [cards_call hb, List.append_assoc] at hrest
    exact hrest

/-- A logging table logs the cards of the scalar stores, one for each and in their order. -/
theorem loggedCards_eq (hb : b.variant = .loggingSnapshot) (calls : List Call) :
    b.loggedCards m calls = calls.flatMap Call.loggedCards :=
  cards_callAll (b := b.drained) hb calls

end Barrier

namespace Slice

/-- A call after a bulk store that did not stop has found the end of the slice, and so the walk
over its slots does not stop either. -/
lemma exists_slots {s : Slice} {written : Option Region}
    (h : Call.writtenRegion? s = .ok written) : ∃ found, s.slots = .ok found := by
  have hstop : ∃ a, s.stop = .ok a := by
    by_cases hempty : s.isEmpty = true
    · exact ⟨s.start, stop_of_isEmpty hempty⟩
    · unfold Call.writtenRegion? at h
      rw [if_neg hempty] at h
      split at h
      · cases hcover : s.coveringRegion with
        | error fault =>
          rw [hcover] at h
          cases h
        | ok region =>
          obtain ⟨a, ha, -⟩ := bind_eq_ok.mp hcover
          exact ⟨a, ha⟩
      · cases h
  obtain ⟨a, ha⟩ := hstop
  exact ⟨_, slots_of_stop ha⟩

end Slice

lemma Region.forall_not_mem_iff {r : Region} : (∀ a, a ∉ r) ↔ r.isEmpty = true := by
  have hbound : r.bound = r.start.toNat + r.size.toNat := rfl
  rw [isEmpty_iff]
  constructor
  · intro hnone
    have hstart := hnone r.start
    rw [mem_iff] at hstart
    omega
  · intro hempty a ha
    rw [mem_iff] at ha
    omega

namespace Barrier

variable {b : Barrier} {m : Memory}

lemma exists_written {s : Slice} (haccepted : (b.call m (.arrayPost s)).2 = .ok ()) :
    ∃ written, Call.writtenRegion? s = .ok written := by
  cases hwritten : Call.writtenRegion? s with
  | ok written => exact ⟨written, rfl⟩
  | error fault =>
    have hanswer : b.variant.answer (.arrayPost s) = .error fault := by
      rw [Variant.answer, Call.dispatch_arrayPost, hwritten]
    rw [call_of_answer_error hanswer] at haccepted
    cases haccepted

/-- Scalar stores to the slots of a slice log the card of every slot, while a bulk store to the
slice and a store to a region log no card. So the calls after such stores log the cards that are
expected of them exactly if nothing was stored. -/
theorem bulk_posts_log_iff (hb : b.variant = .loggingSnapshot) {s : Slice}
    (haccepted : (b.call m (.arrayPost s)).2 = .ok ()) (new : Slot → Option ObjectRef)
    (release : Bool) (r : Region) :
    (∃ slots, s.slots = .ok slots ∧
      b.loggedCards m (slots.map fun t => .fieldPost t.address (new t) release) =
        slots.map (fun t => t.address.alignDown Variant.cardBytes) ∧
      ((∀ t ∈ slots, t.address.alignDown Variant.cardBytes ∈ b.loggedCards m [.arrayPost s]) ↔
        s.isEmpty = true)) ∧
    ((∀ a ∈ r, a.alignDown Variant.cardBytes ∈ b.loggedCards m [.region r]) ↔
      r.isEmpty = true) := by
  have hbulk : b.loggedCards m [.arrayPost s] = [] := loggedCards_eq hb _
  have hregion : b.loggedCards m [.region r] = [] := loggedCards_eq hb _
  have hscalar : ∀ slots : List Slot,
      b.loggedCards m (slots.map fun t => .fieldPost t.address (new t) release) =
        slots.map fun t => t.address.alignDown Variant.cardBytes := by
    intro slots
    rw [loggedCards_eq hb, List.flatMap_map]
    exact List.map_eq_flatMap.symm
  obtain ⟨written, hwritten⟩ := exists_written haccepted
  obtain ⟨slots, hslots⟩ := Slice.exists_slots hwritten
  refine ⟨⟨slots, hslots, hscalar slots, ?_⟩, ?_⟩
  · rw [hbulk, ← Slice.slots_eq_nil_iff hslots, List.eq_nil_iff_forall_not_mem]
    simp only [List.not_mem_nil]
  · rw [hregion, ← Region.forall_not_mem_iff]
    simp only [List.not_mem_nil]

theorem bulk_posts_log_iff_of_one_slot :
    let b : Barrier := .ofVariant .loggingSnapshot
    let s : Slice := ⟨⟨0x40000000⟩, 1, .full⟩
    (b.call .zeroed (.arrayPost s)).2 = .ok () ∧
    ¬∀ slots, s.slots = .ok slots → ∀ t ∈ slots,
      t.address.alignDown Variant.cardBytes ∈ b.loggedCards .zeroed [.arrayPost s] := by
  intro b s
  have haccepted : ((ofVariant .loggingSnapshot).call .zeroed
      (.arrayPost ⟨⟨0x40000000⟩, 1, .full⟩)).2 = .ok () := rfl
  refine ⟨haccepted, ?_⟩
  intro hlogs
  obtain ⟨⟨slots, hslots, -, hiff⟩, -⟩ :=
    bulk_posts_log_iff rfl haccepted (fun _ => none) false .empty
  have hempty := hiff.mp (hlogs slots hslots)
  cases hempty

theorem one_slot_card_not_logged :
    let b : Barrier := .ofVariant .loggingSnapshot
    let s : Slice := ⟨⟨0x40000000⟩, 1, .full⟩
    (b.call .zeroed (.arrayPost s)).2 = .ok () ∧
    b.loggedCards .zeroed [.fieldPost (s.slot 0).address none false] = [⟨0x40000000⟩] ∧
    b.loggedCards .zeroed [.arrayPost s] = [] := ⟨rfl, rfl, rfl⟩

end Barrier

end WriteBarrier
