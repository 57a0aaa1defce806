import Mathlib.Tactic.Lemma
import WriteBarrier.Barrier

/-!
# Answers

The actions by which a barrier set answers a call, whether or not the call reaches a hook. A call
is the run of its answer from the journal of the barrier set.
-/

namespace WriteBarrier

lemma Call.hook_of_arrayPost {slice : Slice} {hook : Hook}
    (hhook : (arrayPost slice).hook? = .ok (some hook)) : ∃ r, hook = .arrayPost r := by
  have hmapped : Option.map Hook.arrayPost <$> writtenRegion? slice = .ok (some hook) := hhook
  cases hwritten : writtenRegion? slice with
  | error fault =>
    rw [hwritten] at hmapped
    cases hmapped
  | ok region? =>
    rw [hwritten] at hmapped
    cases region? with
    | none => cases hmapped
    | some r =>
      cases hmapped
      exact ⟨r, rfl⟩

namespace Variant

variable {v : Variant} {c : Call} {actions : List Action}

lemma answer_eq_ok : v.answer c = .ok actions ↔ c.hook? = .ok none ∧ actions = [] ∨
    ∃ hook, c.hook? = .ok (some hook) ∧ v.actions hook = .ok actions := by
  unfold answer Call.dispatch
  cases c.hook? with
  | error fault => simp
  | ok hook? =>
    cases hook? with
    | none => simp [eq_comm]
    | some hook => simp

lemma snapshotActions_arrayPre (slice : Slice) (uninitialized : Bool) :
    snapshotActions (.arrayPre slice uninitialized) =
      (if uninitialized then .ok [] else slice.slots) >>= fun found =>
        .ok (found.flatMap Action.remembering ++
          [.record (.arrayPre slice.start slice.count uninitialized)]) := by
  cases uninitialized with
  | true => rfl
  | false =>
    simp only [snapshotActions, if_neg Bool.false_ne_true]
    cases slice.slots with
    | error fault => rfl
    | ok found => rfl

lemma actions_loggingSnapshot {hook : Hook}
    (hnone : ∀ field new release, hook ≠ .fieldPost field new release) :
    loggingSnapshot.actions hook = snapshotActions hook := by
  cases hook with
  | fieldPost field new release => exact absurd rfl (hnone field new release)
  | _ => rfl

/-- A snapshot table loads and remembers slots, records, and answers as a card table. -/
lemma mem_snapshotActions {hook : Hook} {action : Action}
    (hactions : snapshotActions hook = .ok actions) (haction : action ∈ actions) :
    (∃ slot, action ∈ Action.remembering slot) ∨ (∃ event, action = .record event) ∨
      action ∈ cardTableActions hook := by
  cases hook with
  | fieldPre slot new =>
    cases hactions
    cases List.mem_append.mp haction with
    | inl hload => exact .inl ⟨slot, hload⟩
    | inr hrecord => exact .inr (.inl ⟨_, List.mem_singleton.mp hrecord⟩)
  | arrayPre slice uninitialized =>
    rw [snapshotActions_arrayPre] at hactions
    cases hfound : (if uninitialized then .ok [] else slice.slots : Except Fault (List Slot)) with
    | error fault =>
      rw [hfound] at hactions
      cases hactions
    | ok found =>
      rw [hfound] at hactions
      cases hactions
      cases List.mem_append.mp haction with
      | inl hload =>
        obtain ⟨slot, -, hslot⟩ := List.mem_flatMap.mp hload
        exact .inl ⟨slot, hslot⟩
      | inr hrecord => exact .inr (.inl ⟨_, List.mem_singleton.mp hrecord⟩)
  | _ =>
    cases hactions
    exact .inr (.inr haction)

lemma answer_fieldPre (hv : v = .snapshot ∨ v = .loggingSnapshot) (slot : Slot)
    (new : Option ObjectRef) : v.answer (.fieldPre slot new) =
      .ok (Action.remembering slot ++ [.record (.fieldPre slot.address slot.isNarrow)]) := by
  cases hv with
  | inl hv => rw [hv]; rfl
  | inr hv => rw [hv]; rfl

lemma answer_arrayPre (hv : v = .snapshot ∨ v = .loggingSnapshot) (slice : Slice)
    (uninitialized : Bool) : v.answer (.arrayPre slice uninitialized) =
      snapshotActions (.arrayPre slice uninitialized) := by
  cases hv with
  | inl hv => rw [hv]; rfl
  | inr hv => rw [hv]; rfl

end Variant

/-- What each of the actions keeps is kept by all that are done of them. -/
lemma Journal.perform_keeps {P : Journal → Prop} {m : Memory} {j : Journal}
    {held : Option ObjectRef} {actions : List Action}
    (hrun : ∀ action ∈ actions, ∀ {j j' held held'}, P j →
      action.run m j held = .ok (j', held') → P j')
    (hj : P j) : P (j.perform m held actions).1 := by
  induction actions generalizing j held with
  | nil => exact hj
  | cons action actions ih =>
    cases hnext : action.run m j held with
    | error fault =>
      rw [perform_cons_error hnext]
      exact hj
    | ok next =>
      rw [perform_cons_ok hnext]
      exact ih (fun a ha => hrun a (.tail _ ha)) (hrun action (.head _) hj hnext)

/-- The references in slots that are loaded one after the other, up to the first slot that cannot be
loaded, and how the last load ended. -/
def Memory.recalled (m : Memory) : List Slot → List ObjectRef × Except Fault Unit
  | [] => ([], .ok ())
  | slot :: slots =>
    match slot.load m with
    | .ok found => (found.toList ++ (m.recalled slots).1, (m.recalled slots).2)
    | .error fault => ([], .error fault)

lemma Memory.recalled_of_load {m : Memory} {slots : List Slot} {found : Slot → Option ObjectRef}
    (hload : ∀ slot ∈ slots, slot.load m = .ok (found slot)) :
    m.recalled slots = (slots.filterMap found, .ok ()) := by
  induction slots with
  | nil => rfl
  | cons slot slots ih =>
    rw [recalled, hload slot (.head _), ih fun s hs => hload s (.tail _ hs)]
    cases hfound : found slot with
    | none =>
      rw [List.filterMap_cons_none hfound]
      rfl
    | some o =>
      rw [List.filterMap_cons_some hfound]
      rfl

/-- Slots are remembered one after the other; what follows is done unless one cannot be loaded. -/
lemma Journal.perform_recalled {m : Memory} {j : Journal} (slots : List Slot)
    (rest : List Action) :
    j.perform m none (slots.flatMap Action.remembering ++ rest) =
      let noted := { j with remembered := j.remembered ++ (m.recalled slots).1.toArray }
      match (m.recalled slots).2 with
      | .ok _ => noted.perform m none rest
      | .error fault => (noted, .error fault) := by
  induction slots generalizing j with
  | nil => simp [Memory.recalled]
  | cons slot slots ih =>
    rw [List.flatMap_cons, List.append_assoc, Action.remembering, List.cons_append,
      List.cons_append, List.nil_append, Memory.recalled]
    cases hload : slot.load m with
    | error fault =>
      have hrun : Action.run m j none (.load slot) = .error fault := by
        rw [Action.run, hload]
        rfl
      rw [perform_cons_error hrun]
      simp
    | ok found =>
      have hrun : Action.run m j none (.load slot) = .ok (j, found) := by
        rw [Action.run, hload]
        rfl
      rw [perform_cons_ok hrun]
      cases found with
      | none =>
        rw [perform_cons_ok rfl, ih]
        simp
      | some o =>
        rw [perform_cons_ok rfl, ih]
        simp

lemma Journal.perform_remembering {m : Memory} {j : Journal} {slots : List Slot}
    {found : Slot → Option ObjectRef} (hload : ∀ slot ∈ slots, slot.load m = .ok (found slot))
    (rest : List Action) :
    j.perform m none (slots.flatMap Action.remembering ++ rest) =
      Journal.perform m { j with remembered := j.remembered ++ (slots.filterMap found).toArray }
        none rest := by
  rw [perform_recalled, Memory.recalled_of_load hload]

namespace Barrier

variable {b : Barrier} {m : Memory} {c : Call}

lemma call_of_answer_error {fault : Fault} (h : b.variant.answer c = .error fault) :
    b.call m c = (b, .error fault) := by
  rw [call_eq_runAnswer, h]
  rfl

lemma call_of_answer_ok {actions : List Action} (h : b.variant.answer c = .ok actions) :
    b.call m c = ({ b with journal := (b.journal.perform m none actions).1 },
      (b.journal.perform m none actions).2) := by
  rw [call_eq_runAnswer, h]
  rfl

lemma exists_answer (hok : (b.call m c).2 = .ok ()) :
    ∃ actions, b.variant.answer c = .ok actions := by
  cases hanswer : b.variant.answer c with
  | ok actions => exact ⟨actions, rfl⟩
  | error fault =>
    rw [call_of_answer_error hanswer] at hok
    cases hok

/-- A call changes nothing but the journal. -/
lemma call_eq_journal : ∃ journal, (b.call m c).1 = { b with journal } := by
  cases h : b.variant.answer c with
  | error fault =>
    rw [call_of_answer_error h]
    exact ⟨b.journal, rfl⟩
  | ok actions =>
    rw [call_of_answer_ok h]
    exact ⟨_, rfl⟩

lemma variant_call : (b.call m c).1.variant = b.variant := by
  obtain ⟨journal, hcall⟩ := call_eq_journal (b := b) (m := m) (c := c)
  rw [hcall]

lemma tags_call : (b.call m c).1.tags = b.tags := by
  obtain ⟨journal, hcall⟩ := call_eq_journal (b := b) (m := m) (c := c)
  rw [hcall]

end Barrier

end WriteBarrier
