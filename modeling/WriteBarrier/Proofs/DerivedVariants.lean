import WriteBarrier.Proofs.ConcurrentCalls
import WriteBarrier.Proofs.ServedRequests

/-!
# Derived variants

The variants that are built on one another, side by side. What a variant records in a run of calls
is what it records at each of them, so a variant that derives from another is compared with it one
call at a time: it adds records of its own, or none, and leaves the others and the covered region
to the variant below.
-/

namespace WriteBarrier

namespace Event

/-- The event is the record of a call before a scalar store. -/
def isFieldPre : Event → Bool
  | fieldPre _ _ => true
  | _ => false

/-- The event is the record of a resize. -/
def isResize : Event → Bool
  | resize _ => true
  | _ => false

end Event

/-- The region that a call tells a barrier set to cover. -/
def Call.newCover? : Call → Option Region
  | resize r => some r
  | _ => none

namespace Variant

/-- The variants that are built on one another, from the root on. -/
def layered : List Variant :=
  [.modRef, .cardTable, .rememberedSet, .extendedSet, .snapshot, .loggingSnapshot]

/-- The events that a variant records at a call that does not stop. -/
def recordedAt (v : Variant) (c : Call) : List Event :=
  match v.answer c with
  | .ok actions => actions.flatMap Action.recordedEvents
  | .error _ => []

variable {v : Variant} {c : Call} {hook : Hook} {actions : List Action}

lemma recordedAt_of_answer (hanswer : v.answer c = .ok actions) :
    v.recordedAt c = actions.flatMap Action.recordedEvents := by rw [recordedAt, hanswer]

lemma followsResizes_of_mem_layered (hv : v ∈ layered) : v.FollowsResizes := by
  cases v with
  | custom policy => simp [layered] at hv
  | _ => trivial

lemma answer_loggingSnapshot (hnone : c.loggedCards = []) :
    loggingSnapshot.answer c = snapshot.answer c := by
  unfold answer Call.dispatch
  cases hhook : c.hook? with
  | error fault => rfl
  | ok hook? =>
    cases hook? with
    | none => rfl
    | some hook => exact actions_loggingSnapshot (Call.hook_ne_fieldPost hhook hnone)

lemma recordedAt_loggingSnapshot (c : Call) :
    loggingSnapshot.recordedAt c = snapshot.recordedAt c := by
  -- The answers differ at the call after a scalar store alone, and there by an action that records
  -- nothing.
  by_cases hnone : c.loggedCards = []
  · rw [recordedAt, answer_loggingSnapshot hnone, recordedAt]
  · cases c with
    | fieldPost field new release => rfl
    | _ => exact absurd rfl hnone

lemma recordedEvents_remembering (slots : List Slot) :
    (slots.flatMap Action.remembering).flatMap Action.recordedEvents = [] := by
  rw [List.flatMap_assoc]
  exact List.flatMap_eq_nil_iff.mpr fun _ _ => rfl

/-- A snapshot table adds a record of the call before a scalar store to those of a card table. -/
lemma recordedEvents_snapshotActions (hactions : snapshotActions hook = .ok actions) :
    (actions.flatMap Action.recordedEvents).filter (!·.isFieldPre) =
      (cardTableActions hook).flatMap Action.recordedEvents := by
  cases hook with
  | arrayPre slice uninitialized =>
    rw [snapshotActions_arrayPre] at hactions
    obtain ⟨found, -, hfound⟩ := bind_eq_ok.mp hactions
    cases hfound
    rw [List.flatMap_append, recordedEvents_remembering]
    rfl
  | _ =>
    cases hactions
    rfl

lemma recordedAt_snapshot (hanswer : snapshot.answer c = .ok actions) :
    (snapshot.recordedAt c).filter (!·.isFieldPre) = cardTable.recordedAt c := by
  rw [recordedAt_of_answer hanswer]
  rcases answer_eq_ok.mp hanswer with ⟨hhook, rfl⟩ | ⟨hook, hhook, hactions⟩
  · have htable : cardTable.answer c = .ok [] := answer_eq_ok.mpr (.inl ⟨hhook, rfl⟩)
    exact (recordedAt_of_answer htable).symm
  · have htable : cardTable.answer c = .ok (cardTableActions hook) :=
      answer_eq_ok.mpr (.inr ⟨hook, hhook, rfl⟩)
    exact (recordedEvents_snapshotActions hactions).trans (recordedAt_of_answer htable).symm

lemma recordedAt_modRef (c : Call) :
    modRef.recordedAt c = (cardTable.recordedAt c).filter (·.isResize) := by
  unfold recordedAt answer Call.dispatch
  cases c.hook? with
  | error fault => rfl
  | ok hook? =>
    cases hook? with
    | none => rfl
    | some hook => cases hook <;> rfl

end Variant

section Journal

variable {m : Memory} {j k : Journal} {held : Option ObjectRef} {actions : List Action}

lemma Journal.events_perform (hok : (j.perform m held actions).2 = .ok ()) :
    (j.perform m held actions).1.events.toList =
      j.events.toList ++ actions.flatMap Action.recordedEvents := by
  induction actions generalizing j held with
  | nil => exact (List.append_nil _).symm
  | cons action actions ih =>
    cases hrun : action.run m j held with
    | error fault =>
      rw [perform_cons_error hrun] at hok
      cases hok
    | ok next =>
      rw [perform_cons_ok hrun] at hok ⊢
      rw [ih hok, (Action.notes_run hrun).1, List.append_assoc, List.flatMap_cons]

/-- What is remembered does not hang on the other notes. -/
lemma Journal.remembered_perform_congr (h : j.remembered = k.remembered) :
    (j.perform m held actions).1.remembered = (k.perform m held actions).1.remembered := by
  induction actions generalizing j k held with
  | nil => exact h
  | cons action actions ih =>
    cases action with
    | load slot =>
      rw [perform, perform, Action.run, Action.run]
      cases slot.load m with
      | error fault => exact h
      | ok found => exact ih h
    | remember =>
      cases held with
      | none => exact ih h
      | some old => exact ih (congrArg (·.push old) h)
    | _ => exact ih h

end Journal

namespace Barrier

/-- None of the calls stops, each made while memory is as given beside it. -/
def Completes (b : Barrier) : List (Memory × Call) → Prop
  | [] => True
  | made :: calls =>
    (b.call made.1 made.2).2 = .ok () ∧ (b.call made.1 made.2).1.Completes calls

instance (b : Barrier) : (calls : List (Memory × Call)) → Decidable (b.Completes calls)
  | [] => .isTrue trivial
  | made :: calls =>
    have := instDecidableCompletes (b.call made.1 made.2).1 calls
    inferInstanceAs (Decidable (_ ∧ _))

variable {b t : Barrier} {m : Memory} {c : Call} {calls : List (Memory × Call)}

lemma events_call (hok : (b.call m c).2 = .ok ()) :
    (b.call m c).1.journal.events.toList = b.journal.events.toList ++ b.variant.recordedAt c := by
  obtain ⟨actions, hanswer⟩ := exists_answer hok
  rw [call_of_answer_ok hanswer] at hok ⊢
  rw [Journal.events_perform hok, Variant.recordedAt_of_answer hanswer]

lemma events_after (hcalls : b.Completes calls) :
    (b.after calls).journal.events.toList =
      b.journal.events.toList ++ calls.flatMap fun made => b.variant.recordedAt made.2 := by
  induction calls generalizing b with
  | nil => exact (List.append_nil _).symm
  | cons made calls ih =>
    have hrest := ih hcalls.2
    rw [events_call hcalls.1, variant_call, List.append_assoc] at hrest
    exact hrest

lemma exists_answer_of_mem (hcalls : b.Completes calls) {made : Memory × Call}
    (hmade : made ∈ calls) : ∃ actions, b.variant.answer made.2 = .ok actions := by
  induction calls generalizing b with
  | nil => cases hmade
  | cons first calls ih =>
    cases hmade with
    | head => exact exists_answer hcalls.1
    | tail _ hmade =>
      obtain ⟨actions, hanswer⟩ := ih hcalls.2 hmade
      exact ⟨actions, variant_call (b := b) ▸ hanswer⟩

lemma remembered_call_congr (hb : b.variant = .loggingSnapshot) (ht : t.variant = .snapshot)
    (h : b.journal.remembered = t.journal.remembered) :
    (b.call m c).1.journal.remembered = (t.call m c).1.journal.remembered := by
  by_cases hnone : c.loggedCards = []
  · have hanswers : b.variant.answer c = t.variant.answer c := by
      rw [hb, ht, Variant.answer_loggingSnapshot hnone]
    cases hanswer : t.variant.answer c with
    | error fault =>
      rw [call_of_answer_error hanswer, call_of_answer_error (hanswers.trans hanswer)]
      exact h
    | ok actions =>
      rw [call_of_answer_ok hanswer, call_of_answer_ok (hanswers.trans hanswer)]
      exact Journal.remembered_perform_congr h
  · cases c with
    | fieldPost field new release =>
      rw [call_of_answer_ok (b := b) (by rw [hb]; rfl),
        call_of_answer_ok (b := t) (by rw [ht]; rfl)]
      exact h
    | _ => exact absurd rfl hnone

lemma remembered_after_congr (hb : b.variant = .loggingSnapshot) (ht : t.variant = .snapshot)
    (h : b.journal.remembered = t.journal.remembered) :
    (b.after calls).journal.remembered = (t.after calls).journal.remembered := by
  induction calls generalizing b t with
  | nil => exact h
  | cons made calls ih =>
    exact ih (variant_call.trans hb) (variant_call.trans ht) (remembered_call_congr hb ht h)

lemma covered_call_eq (hfollows : b.variant.FollowsResizes) :
    (b.call m c).1.covered = c.newCover?.getD b.covered := by
  cases c with
  | resize r =>
    rw [call_resize hfollows]
    rfl
  | _ => exact covered_call fun r => Call.noConfusion

/-- A barrier set that follows resizes covers the region of the last one. -/
lemma covered_after (hfollows : b.variant.FollowsResizes) :
    (b.after calls).covered =
      (calls.filterMap fun made => made.2.newCover?).getLast?.getD b.covered := by
  induction calls generalizing b with
  | nil => rfl
  | cons made calls ih =>
    have hrest := ih (b := (b.call made.1 made.2).1) (by rwa [variant_call])
    rw [covered_call_eq hfollows] at hrest
    refine hrest.trans ?_
    rw [List.filterMap_cons]
    cases made.2.newCover? with
    | none => rfl
    | some r =>
      dsimp only
      rw [List.getLast?_cons, Option.getD_some, Option.getD_some]

section Layered

variable (tags : Variant → TagSet Kind)

/-- A new barrier set of each of the variants that are built on one another, after the same calls
while memory was the same, of which none stopped. The remembered sets record what a card table
records, and a logging table records and remembers what a snapshot table does; a snapshot table
records what a card table records and the calls before scalar stores, and the root records the
resizes alone. At any time all of them cover the region of the last resize. -/
theorem derived_variants_simulate
    (hcalls : ∀ v ∈ Variant.layered, (ofTags v (tags v)).Completes calls) :
    let reached := fun v => (ofTags v (tags v)).after calls
    let events := fun v => (reached v).journal.events.toList
    events .rememberedSet = events .cardTable ∧
    events .extendedSet = events .cardTable ∧
    events .loggingSnapshot = events .snapshot ∧
    (reached .loggingSnapshot).journal.remembered = (reached .snapshot).journal.remembered ∧
    (events .snapshot).filter (!·.isFieldPre) = events .cardTable ∧
    events .modRef = (events .cardTable).filter (·.isResize) ∧
    ∀ v ∈ Variant.layered, ∀ before, before <+: calls →
      ((ofTags v (tags v)).after before).covered =
        (before.filterMap fun made => made.2.newCover?).getLast?.getD .empty := by
  intro reached events
  have hevents : ∀ v ∈ Variant.layered, events v = calls.flatMap fun made => v.recordedAt made.2 :=
    fun v hv => events_after (hcalls v hv)
  have hmodRef := hevents .modRef (by decide)
  have hcardTable := hevents .cardTable (by decide)
  have hsnapshot := hevents .snapshot (by decide)
  have hloggingSnapshot := hevents .loggingSnapshot (by decide)
  refine ⟨?_, ?_, ?_, remembered_after_congr rfl rfl rfl, ?_, ?_, ?_⟩
  · exact (hevents .rememberedSet (by decide)).trans hcardTable.symm
  · exact (hevents .extendedSet (by decide)).trans hcardTable.symm
  · rw [hloggingSnapshot, hsnapshot]
    exact List.flatMap_congr fun made _ => Variant.recordedAt_loggingSnapshot made.2
  · rw [hsnapshot, hcardTable, List.filter_flatMap]
    apply List.flatMap_congr
    intro made hmade
    -- A snapshot table refuses a slice without an end, where a card table would record the call.
    obtain ⟨actions, hanswer⟩ := exists_answer_of_mem (hcalls .snapshot (by decide)) hmade
    exact Variant.recordedAt_snapshot hanswer
  · rw [hmodRef, hcardTable, List.filter_flatMap]
    exact List.flatMap_congr fun made _ => Variant.recordedAt_modRef made.2
  · intro v hv before _
    exact covered_after (Variant.followsResizes_of_mem_layered hv)

end Layered

theorem derived_variants_simulate_over_bulk_store :
    let old : ObjectRef := ⟨⟨0x40000100⟩, by decide, by decide⟩
    let slot : Slot := .full ⟨0x40000008⟩
    let s : Slice := ⟨⟨0x40000000⟩, 4, .full⟩
    let m := Memory.zeroed.store64 slot.address old.address.val
    let calls : List (Memory × Call) :=
      [(m, .resize ⟨⟨0x40000000⟩, 0x1000⟩), (m, .arrayPre s false), (.zeroed, .arrayPost s),
        (m, .fieldPre slot none), (.zeroed, .fieldPost slot.address none false),
        (.zeroed, .resize ⟨⟨0x40000000⟩, 0x2000⟩)]
    (∀ v ∈ Variant.layered, (ofVariant v).Completes calls) ∧
    ((ofVariant .loggingSnapshot).after calls).journal.remembered = #[old, old] ∧
    (∀ v ∈ Variant.layered, ((ofVariant v).after calls).covered = ⟨⟨0x40000000⟩, 0x2000⟩) ∧
    ((ofVariant .modRef).after calls).journal.events.toList =
      [.resize ⟨⟨0x40000000⟩, 0x1000⟩, .resize ⟨⟨0x40000000⟩, 0x2000⟩] := by
  intro old slot s m calls
  have hcalls : ∀ v ∈ Variant.layered, (ofVariant v).Completes calls := by decide +kernel
  obtain ⟨-, -, -, hremembered, -, hresizes, hcovered⟩ :=
    derived_variants_simulate (fun v => .singleton v.family.kind) hcalls
  refine ⟨hcalls, hremembered.trans (by decide +kernel), ?_, hresizes.trans (by decide +kernel)⟩
  exact fun v hv => hcovered v hv calls List.prefix_rfl

end Barrier

end WriteBarrier
