import WriteBarrier.Proofs.Mutators
import WriteBarrier.Proofs.NarrowReferences

/-!
# Snapshot preservation

The snapshot variants keep the references that a slot held at the start of a run. A slot is
pristine as long as it was never stored to, no thread may store to it, and every call that
announces a store to it is still going to remember what it holds. A slot stops being pristine only
when its reference is remembered.
-/

namespace WriteBarrier

section Answers

variable {v : Variant} {m : Memory} {s : Slot} {r : ObjectRef}

/-- A snapshot variant remembers what every slot holds to which a call announces a store. -/
lemma Variant.remembering_infix_answer (hv : v = .snapshot ∨ v = .loggingSnapshot) {c : Call}
    {actions : List Action} (hanswer : v.answer c = .ok actions) (htruthful : c.Truthful m)
    (hload : s.load m = .ok (some r)) (hs : s ∈ c.announced) :
    Action.remembering s <:+: actions := by
  cases c with
  | fieldPre slot new =>
    have hslot : s = slot := hs
    rw [answer_fieldPre hv] at hanswer
    cases hanswer
    rw [hslot]
    exact (List.prefix_append _ _).isInfix
  | arrayPre slice uninitialized =>
    obtain ⟨i, hi, rfl⟩ := hs
    cases uninitialized with
    | true =>
      -- A slot of an uninitialized slice holds no reference.
      have hnull := htruthful i hi
      rw [hload] at hnull
      cases hnull
    | false =>
      rw [answer_arrayPre hv, snapshotActions_arrayPre, bind_eq_ok] at hanswer
      obtain ⟨found, hfound, hactions⟩ := hanswer
      have hmem : slice.slot i ∈ found := (Slice.mem_slots hfound).mpr ⟨i, hi, rfl⟩
      cases hactions
      have hpart := List.infix_of_mem_flatten (List.mem_map_of_mem (f := Action.remembering) hmem)
      rw [List.flatMap_def]
      exact hpart.trans (List.prefix_append _ _).isInfix
  | _ => exact hs.elim

end Answers

/-- The call is still going to remember `r`: it is about to load `s` and remember what it finds, or
has loaded `r` and is about to remember it. -/
def PendingCall.Secures (p : PendingCall) (s : Slot) (r : ObjectRef) : Prop :=
  Action.remembering s <:+: p.actions ∨ p.held = some r ∧ p.actions.head? = some .remember

/-- The thread will not store to `s` before `r` is remembered. -/
def Mutator.Secures (x : Mutator) (s : Slot) (r : ObjectRef) : Prop :=
  s ∉ x.guarded ∧ ∀ p, x.pending = some p → s ∈ p.announced → p.Secures s r

lemma Mutator.Secures.idle {guarded : Set Slot} {s : Slot} {r : ObjectRef} (h : s ∉ guarded) :
    Mutator.Secures ⟨none, guarded⟩ s r := by
  refine ⟨h, ?_⟩
  intro p hp
  cases hp

lemma Mutator.Secures.calling {p : PendingCall} {guarded : Set Slot} {s : Slot} {r : ObjectRef}
    (h : s ∉ guarded) (hp : s ∈ p.announced → p.Secures s r) :
    Mutator.Secures ⟨some p, guarded⟩ s r := by
  refine ⟨h, ?_⟩
  intro q hq
  cases hq
  exact hp

/-- A call that has no action left secures nothing. -/
lemma PendingCall.not_secures_nil {held : Option ObjectRef} {announced : Set Slot} {s : Slot}
    {r : ObjectRef} : ¬PendingCall.Secures ⟨[], held, announced⟩ s r := by
  rintro (hinside | hheld)
  · cases List.infix_nil.mp hinside
  · cases hheld.2

lemma Action.remembered_run {m : Memory} {j j' : Journal} {held held' : Option ObjectRef}
    {action : Action} (hrun : action.run m j held = .ok (j', held')) :
    j.remembered.toList <+: j'.remembered.toList := by
  cases action with
  | load slot =>
    obtain ⟨o, -, hj⟩ := bind_eq_ok.mp hrun
    cases hj
    exact List.prefix_rfl
  | remember =>
    cases held with
    | none =>
      cases hrun
      exact List.prefix_rfl
    | some old =>
      cases hrun
      rw [Array.toList_push]
      exact List.prefix_append _ _
  | _ =>
    cases hrun
    exact List.prefix_rfl

/-- One action of a call that secures the slot remembers the reference or still secures the slot. -/
lemma PendingCall.secures_run {m : Memory} {j j' : Journal} {held held' : Option ObjectRef}
    {action : Action} {actions : List Action} {announced : Set Slot} {s : Slot} {r : ObjectRef}
    (hload : s.load m = .ok (some r)) (hrun : action.run m j held = .ok (j', held'))
    (hsecures : PendingCall.Secures ⟨action :: actions, held, announced⟩ s r) :
    r ∈ j'.remembered.toList ∨ PendingCall.Secures ⟨actions, held', announced⟩ s r := by
  cases hsecures with
  | inl hinside =>
    cases List.infix_cons_iff.mp hinside with
    | inl hbegins =>
      obtain ⟨rest, hrest⟩ := hbegins
      cases hrest
      obtain ⟨o, ho, hj⟩ := bind_eq_ok.mp hrun
      rw [hload] at ho
      cases ho
      cases hj
      exact .inr (.inr ⟨rfl, rfl⟩)
    | inr hrest => exact .inr (.inl hrest)
  | inr hheld =>
    obtain ⟨rfl, hhead⟩ := hheld
    cases hhead
    cases hrun
    left
    rw [Array.toList_push]
    exact List.mem_concat_self

namespace SharedHeap

variable {ι : Type}

/-- The slot still holds the reference, and no thread stores to it before the reference is
remembered. -/
structure Pristine (s : Slot) (r : ObjectRef) (h : SharedHeap ι) : Prop where
  snapshotting : h.barrier.variant = .snapshot ∨ h.barrier.variant = .loggingSnapshot
  unwritten : s ∉ h.written
  holds : s.load h.memory = .ok (some r)
  secured : ∀ t, (h.mutators t).Secures s r

variable {h h' : SharedHeap ι} {s : Slot} {r : ObjectRef}

lemma Pristine.setJournal (hpristine : Pristine s r h) (journal : Journal) :
    Pristine s r (h.setJournal journal) :=
  ⟨hpristine.snapshotting, hpristine.unwritten, hpristine.holds, hpristine.secured⟩

lemma Pristine.of_store {t : ι} {stored : Slot} {o : ObjectRef} {memory : Memory}
    (hpristine : Pristine s r h) (henc : s.encoding = stored.encoding) (haligned : s.Aligned)
    (hplace : stored.Aligned) (hguarded : stored ∈ (h.mutators t).guarded)
    (hstore : stored.store o h.memory = .ok memory) :
    Pristine s r { h with memory, written := insert stored h.written } := by
  have hne : s ≠ stored := by
    rintro rfl
    exact (hpristine.secured t).1 hguarded
  refine ⟨hpristine.snapshotting, ?_, ?_, hpristine.secured⟩
  · rintro (hs | hwritten)
    · exact hne hs
    · exact hpristine.unwritten hwritten
  · have hload := Slot.load_store_of_ne henc haligned hplace hne hstore
    exact hload.trans hpristine.holds

variable [DecidableEq ι] {e : Encoding}

lemma Pristine.setMutator (hpristine : Pristine s r h) {t : ι} {x : Mutator}
    (hx : x.Secures s r) : Pristine s r (h.setMutator t x) := by
  refine ⟨hpristine.snapshotting, hpristine.unwritten, hpristine.holds, ?_⟩
  intro u
  by_cases hu : u = t
  · rw [hu, mutators_setMutator_self]
    exact hx
  · rw [mutators_setMutator_of_ne hu]
    exact hpristine.secured u

/-- What is remembered stays remembered. -/
lemma remembered_of_moves (hmove : Moves e h h') (hr : r ∈ h.remembered) : r ∈ h'.remembered := by
  cases hmove with
  | act t hpending hrun =>
    have hgrown := Action.remembered_run hrun
    cases List.mem_append.mp hr with
    | inl htaken => exact List.mem_append_left _ htaken
    | inr hqueue => exact List.mem_append_right _ (hgrown.subset hqueue)
  | take n =>
    unfold remembered takeOut setJournal
    rw [List.append_assoc, List.toList_toArray, List.take_append_drop]
    exact hr
  | _ => exact hr

lemma Pristine.of_act {t : ι} {action : Action} {actions : List Action}
    {held held' : Option ObjectRef} {announced : Set Slot} {journal : Journal}
    (hpristine : Pristine s r h)
    (hpending : (h.mutators t).pending = some ⟨action :: actions, held, announced⟩)
    (hrun : action.run h.memory h.barrier.journal held = .ok (journal, held')) :
    r ∈ journal.remembered.toList ∨ Pristine s r ((h.setJournal journal).setMutator t
      ⟨some ⟨actions, held', announced⟩, (h.mutators t).guarded⟩) := by
  have hguarded := (hpristine.secured t).1
  by_cases hs : s ∈ announced
  · have hsecures := (hpristine.secured t).2 _ hpending hs
    cases PendingCall.secures_run hpristine.holds hrun hsecures with
    | inl hr => exact .inl hr
    | inr hnext =>
      exact .inr ((hpristine.setJournal journal).setMutator (.calling hguarded fun _ => hnext))
  · exact .inr ((hpristine.setJournal journal).setMutator (.calling hguarded fun h => absurd h hs))

/-- A step leaves a slot pristine or leaves its reference remembered. -/
lemma Pristine.of_moves (hmove : Moves e h h') (henc : s.encoding = e) (haligned : s.Aligned)
    (hpristine : Pristine s r h) : r ∈ h'.remembered ∨ Pristine s r h' := by
  cases hmove with
  | enter t hidle htruthful hanswer =>
    refine .inr (hpristine.setMutator (.calling (hpristine.secured t).1 fun hs => .inl ?_))
    exact Variant.remembering_infix_answer hpristine.snapshotting hanswer htruthful
      hpristine.holds hs
  | act t hpending hrun =>
    cases hpristine.of_act hpending hrun with
    | inl hr => exact .inl (List.mem_append_right _ hr)
    | inr hnext => exact .inr hnext
  | fault t hpending hrun =>
    exact .inr (hpristine.setMutator (.idle (hpristine.secured t).1))
  | leave t hpending =>
    refine .inr (hpristine.setMutator (.idle ?_))
    rintro (hguarded | hs)
    · exact (hpristine.secured t).1 hguarded
    · exact PendingCall.not_secures_nil ((hpristine.secured t).2 _ hpending hs)
  | store t hidle hguarded hencoding hplace hstore =>
    exact .inr (hpristine.of_store (henc.trans hencoding.symm) haligned hplace hguarded hstore)
  | take n =>
    exact .inr ⟨hpristine.snapshotting, hpristine.unwritten, hpristine.holds, hpristine.secured⟩

/-- Whatever threads do, a slot that held a reference at the start was not written since or its
reference has been remembered. -/
theorem snapshot_preserved {b : Barrier}
    (hb : b.variant = .snapshot ∨ b.variant = .loggingSnapshot) {m : Memory}
    (hrun : Reaches e (start b m) h) (henc : s.encoding = e) (haligned : s.Aligned)
    (hr : s.load m = .ok (some r)) : s ∉ h.written ∨ r ∈ h.remembered := by
  have hkept : r ∈ h.remembered ∨ Pristine s r h := by
    induction hrun with
    | refl =>
      exact .inr ⟨hb, Set.notMem_empty s, hr, fun t => .idle (Set.notMem_empty s)⟩
    | tail hrun hmove ih =>
      cases ih with
      | inl hremembered => exact .inl (remembered_of_moves hmove hremembered)
      | inr hpristine => exact hpristine.of_moves hmove henc haligned
  exact hkept.symm.imp_left Pristine.unwritten

theorem snapshot_preserved_of_two_threads :
    let e : NarrowEncoding := ⟨⟨0x10000⟩, 3⟩
    let s : Slot := .narrow ⟨0x40000000⟩ e
    let r : ObjectRef := ⟨⟨0x10008⟩, by decide, by decide⟩
    let m : Memory := Memory.zeroed.store32 ⟨0x40000000⟩ 1
    ∃ h : SharedHeap Bool, Reaches (.narrow e) (start (.ofVariant .loggingSnapshot) m) h ∧
      s ∈ h.written ∧ r ∈ h.remembered := by
  intro e s r m
  let new : ObjectRef := ⟨⟨0x10010⟩, by decide, by decide⟩
  let rest : List Action := [.remember, .record (.fieldPre s.address s.isNarrow)]
  -- The thread `false` has loaded the slot and not remembered it when the thread `true` stores.
  let begun : SharedHeap Bool := start (.ofVariant .loggingSnapshot) m
  let called : SharedHeap Bool := begun.setMutator false ⟨some ⟨.load s :: rest, none, {s}⟩, ∅⟩
  let loaded : SharedHeap Bool :=
    (called.setJournal called.barrier.journal).setMutator false ⟨some ⟨rest, some r, {s}⟩, ∅⟩
  have hload : s.load m = .ok (some r) := by
    change e.decode (m.load32 _) = _
    rw [Memory.load32_store32]
    exact NarrowEncoding.decode_of_address (by decide) (by decide) rfl
  have hloads : ∀ j, (Action.load s).run m j none = .ok (j, some r) := fun j =>
    bind_eq_ok.mpr ⟨some r, hload, rfl⟩
  have henter : Moves (.narrow e) begun called :=
    .enter false (c := .fieldPre s (some new)) rfl trivial rfl
  have hact : Moves (.narrow e) called loaded := .act false rfl (hloads _)
  have hcall := reaches_afterCall (e := .narrow e) (h := loaded) (t := true)
    (c := .fieldPre s (some new)) rfl trivial
  have hok : (loaded.barrier.call loaded.memory (.fieldPre s (some new))).2 = .ok () := by
    have hperform : loaded.barrier.journal.perform m none (.load s :: rest) =
        loaded.barrier.journal.perform m (some r) rest :=
      Journal.perform_cons_ok (hloads loaded.barrier.journal)
    rw [Barrier.call_of_answer_ok rfl]
    exact congrArg Prod.snd hperform
  have hnew : e.encode new = .ok 2 := NarrowEncoding.encode_eq_ok.mpr ⟨by decide, rfl⟩
  have hstore := Moves.store (e := .narrow e) (s := s) true (pending_afterCall _)
    (announced_subset_guarded hok rfl) rfl (by decide) (Slot.store_narrow_eq_ok.mpr ⟨2, hnew, rfl⟩)
  have hrun := ((Relation.ReflTransGen.single henter).tail hact).trans (hcall.tail hstore)
  have hwritten : s ∈ insert s (∅ : Set Slot) := Set.mem_insert s ∅
  have hkept := snapshot_preserved (.inr rfl) hrun rfl (by decide) hload
  exact ⟨_, hrun, hwritten, hkept.resolve_left (not_not_intro hwritten)⟩

end SharedHeap

end WriteBarrier
