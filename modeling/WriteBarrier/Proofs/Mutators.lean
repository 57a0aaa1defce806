import Mathlib.Data.Set.Insert
import Mathlib.Logic.Function.Basic
import Mathlib.Logic.Relation
import Mathlib.Tactic.Lemma
import WriteBarrier.Proofs.Answers
import WriteBarrier.Proofs.SlotCells

/-!
# Mutators

Mutator threads that share a memory and a barrier set. Each thread calls barriers and stores
references, and the atomic actions of the calls and the stores of all threads interleave in any
order. A thread stores to a slot only after a call of its own that announced the store has
returned; a collector may take remembered values out at any moment.
-/

namespace WriteBarrier

/-- The slots to which a call announces stores. -/
def Call.announced : Call → Set Slot
  | fieldPre slot _ => {slot}
  | arrayPre slice _ => {s | ∃ i < slice.count.toNat, slice.slot i = s}
  | _ => ∅

/-- A caller says that a slice is uninitialized only if every slot of it holds null. -/
def Call.Truthful (m : Memory) : Call → Prop
  | arrayPre slice true => ∀ i < slice.count.toNat, (slice.slot i).load m = .ok none
  | _ => True

/-- A call from which a thread has not returned, with the actions that are left of its hook. -/
structure PendingCall where
  actions : List Action
  held : Option ObjectRef
  announced : Set Slot

structure Mutator where
  pending : Option PendingCall := none
  /-- The slots announced by the calls from which the thread has returned. -/
  guarded : Set Slot := ∅

/-- A thread that has returned from a call or was stopped in it. -/
def Mutator.ending (x : Mutator) (announced : Set Slot) : Except Fault Unit → Mutator
  | .ok _ => ⟨none, x.guarded ∪ announced⟩
  | .error _ => ⟨none, x.guarded⟩

lemma Mutator.ending_error {x : Mutator} {announced : Set Slot} {fault : Fault}
    (hidle : x.pending = none) : x.ending announced (.error fault) = x := by
  cases x
  cases hidle
  rfl

lemma Mutator.pending_ending {x : Mutator} {announced : Set Slot} {result : Except Fault Unit} :
    (x.ending announced result).pending = none := by
  cases result with
  | error fault => rfl
  | ok => rfl

/-- What the threads `ι` share, and the threads. -/
structure SharedHeap (ι : Type) where
  memory : Memory
  barrier : Barrier
  mutators : ι → Mutator := fun _ => {}
  /-- The remembered values that have been taken out. -/
  taken : List ObjectRef := []
  /-- The slots to which references have been stored. -/
  written : Set Slot := ∅

namespace SharedHeap

variable {ι : Type} [DecidableEq ι]

/-- The values remembered so far, taken out or not. -/
def remembered (h : SharedHeap ι) : List ObjectRef :=
  h.taken ++ h.barrier.journal.remembered.toList

/-- The start of a run: a barrier set without notes, a memory, and threads that did nothing. -/
def start (b : Barrier) (m : Memory) : SharedHeap ι := { memory := m, barrier := b.drained }

def setMutator (h : SharedHeap ι) (t : ι) (x : Mutator) : SharedHeap ι :=
  { h with mutators := Function.update h.mutators t x }

def setJournal (h : SharedHeap ι) (journal : Journal) : SharedHeap ι :=
  { h with barrier := { h.barrier with journal } }

/-- The oldest `n` remembered values are taken out. -/
def takeOut (h : SharedHeap ι) (n : Nat) : SharedHeap ι :=
  let queue := h.barrier.journal.remembered.toList
  { h.setJournal { h.barrier.journal with remembered := (queue.drop n).toArray } with
    taken := h.taken ++ queue.take n }

/-- One atomic step of a run over slots of the layout `e`. A call that stops before its first
action and a store that stops change nothing and are no steps. -/
inductive Moves (e : Encoding) : SharedHeap ι → SharedHeap ι → Prop
  /-- A thread calls a barrier. -/
  | enter {h : SharedHeap ι} (t : ι) {c : Call} {actions : List Action} :
      (h.mutators t).pending = none → c.Truthful h.memory →
      h.barrier.variant.answer c = .ok actions →
      Moves e h (h.setMutator t ⟨some ⟨actions, none, c.announced⟩, (h.mutators t).guarded⟩)
  /-- A thread does the next action of its call. -/
  | act {h : SharedHeap ι} (t : ι) {action : Action} {actions : List Action}
      {held held' : Option ObjectRef} {announced : Set Slot} {journal : Journal} :
      (h.mutators t).pending = some ⟨action :: actions, held, announced⟩ →
      action.run h.memory h.barrier.journal held = .ok (journal, held') →
      Moves e h ((h.setJournal journal).setMutator t
        ⟨some ⟨actions, held', announced⟩, (h.mutators t).guarded⟩)
  /-- The next action of a call stops, and the call with it. -/
  | fault {h : SharedHeap ι} (t : ι) {action : Action} {actions : List Action}
      {held : Option ObjectRef} {announced : Set Slot} {fault : Fault} :
      (h.mutators t).pending = some ⟨action :: actions, held, announced⟩ →
      action.run h.memory h.barrier.journal held = .error fault →
      Moves e h (h.setMutator t ⟨none, (h.mutators t).guarded⟩)
  /-- A thread returns from its call, and may store to the slots that the call announced. -/
  | leave {h : SharedHeap ι} (t : ι) {held : Option ObjectRef} {announced : Set Slot} :
      (h.mutators t).pending = some ⟨[], held, announced⟩ →
      Moves e h (h.setMutator t ⟨none, (h.mutators t).guarded ∪ announced⟩)
  /-- A thread stores a reference. -/
  | store {h : SharedHeap ι} (t : ι) {s : Slot} {o : ObjectRef} {memory : Memory} :
      (h.mutators t).pending = none → s ∈ (h.mutators t).guarded → s.encoding = e → s.Aligned →
      s.store o h.memory = .ok memory →
      Moves e h { h with memory, written := insert s h.written }
  /-- The collector takes out some of what has been remembered. -/
  | take {h : SharedHeap ι} (n : Nat) : Moves e h (h.takeOut n)

/-- A step in which no thread calls a barrier. -/
def Continues (e : Encoding) (h h' : SharedHeap ι) : Prop :=
  Moves e h h' ∧ ∀ t, (h.mutators t).pending = none → (h'.mutators t).pending = none

/-- Any number of steps of any threads. -/
def Reaches (e : Encoding) : SharedHeap ι → SharedHeap ι → Prop := Relation.ReflTransGen (Moves e)

/-- The state after a whole call that no other thread interrupts. -/
def afterCall (h : SharedHeap ι) (t : ι) (c : Call) : SharedHeap ι :=
  { h with barrier := (h.barrier.call h.memory c).1 }.setMutator t
    ((h.mutators t).ending c.announced (h.barrier.call h.memory c).2)

variable {e : Encoding} {h : SharedHeap ι} {t : ι}

lemma mutators_setMutator_self (x : Mutator) : (h.setMutator t x).mutators t = x := by
  simp only [setMutator, Function.update_self]

lemma mutators_setMutator_of_ne {u : ι} (hu : u ≠ t) (x : Mutator) :
    (h.setMutator t x).mutators u = h.mutators u := by
  simp only [setMutator, Function.update_of_ne hu]

lemma setMutator_self : h.setMutator t (h.mutators t) = h := by
  simp only [setMutator, Function.update_eq_self]

lemma setMutator_setJournal (x y : Mutator) (journal : Journal) :
    ((h.setMutator t x).setJournal journal).setMutator t y =
      (h.setJournal journal).setMutator t y := by
  simp only [setMutator, setJournal, Function.update_idem]

/-- A step that changes only a thread which is in a call. -/
lemma Moves.continues {k : SharedHeap ι} {p : PendingCall} {x : Mutator}
    (hmove : Moves e h (k.setMutator t x)) (hothers : k.mutators = h.mutators)
    (hpending : (h.mutators t).pending = some p) : Continues e h (k.setMutator t x) := by
  refine ⟨hmove, ?_⟩
  intro u hidle
  have hu : u ≠ t := by
    rintro rfl
    rw [hpending] at hidle
    cases hidle
  rw [mutators_setMutator_of_ne hu, hothers]
  exact hidle

/-- A pending call that no other thread interrupts does its remaining actions in sequence. -/
lemma continues_perform {actions : List Action} {held : Option ObjectRef} {announced : Set Slot}
    {journal : Journal} {result : Except Fault Unit}
    (hpending : (h.mutators t).pending = some ⟨actions, held, announced⟩)
    (hperform : h.barrier.journal.perform h.memory held actions = (journal, result)) :
    Relation.ReflTransGen (Continues e) h
      ((h.setJournal journal).setMutator t ((h.mutators t).ending announced result)) := by
  induction actions generalizing h held with
  | nil =>
    rw [Journal.perform_nil] at hperform
    cases hperform
    exact .single ((Moves.leave t hpending).continues rfl hpending)
  | cons action actions ih =>
    cases hrun : action.run h.memory h.barrier.journal held with
    | error fault =>
      rw [Journal.perform_cons_error hrun] at hperform
      cases hperform
      exact .single ((Moves.fault t hpending hrun).continues rfl hpending)
    | ok next =>
      obtain ⟨noted, held'⟩ := next
      rw [Journal.perform_cons_ok hrun] at hperform
      have hmove := Moves.act (e := e) t hpending hrun
      have hrest := ih (h := (h.setJournal noted).setMutator t
        ⟨some ⟨actions, held', announced⟩, (h.mutators t).guarded⟩)
        (by rw [mutators_setMutator_self]) hperform
      rw [mutators_setMutator_self, setMutator_setJournal] at hrest
      exact .head (hmove.continues rfl hpending) hrest

lemma reaches_perform {actions : List Action} {held : Option ObjectRef} {announced : Set Slot}
    {journal : Journal} {result : Except Fault Unit}
    (hpending : (h.mutators t).pending = some ⟨actions, held, announced⟩)
    (hperform : h.barrier.journal.perform h.memory held actions = (journal, result)) :
    Reaches e h ((h.setJournal journal).setMutator t ((h.mutators t).ending announced result)) :=
  (continues_perform hpending hperform).lift id fun _ _ => And.left

/-- A call that no other thread interrupts is the call of the barrier set. -/
theorem reaches_afterCall {c : Call} (hidle : (h.mutators t).pending = none)
    (htruthful : c.Truthful h.memory) : Reaches e h (h.afterCall t c) := by
  unfold afterCall
  cases hanswer : h.barrier.variant.answer c with
  | error fault =>
    rw [Barrier.call_of_answer_error hanswer, Mutator.ending_error hidle, setMutator_self]
    exact .refl
  | ok actions =>
    rw [Barrier.call_of_answer_ok hanswer]
    have hmove := Moves.enter (e := e) t hidle htruthful hanswer
    have hrest := reaches_perform (e := e) (t := t)
      (h := h.setMutator t ⟨some ⟨actions, none, c.announced⟩, (h.mutators t).guarded⟩)
      (by rw [mutators_setMutator_self]) rfl
    rw [mutators_setMutator_self, setMutator_setJournal] at hrest
    exact .head hmove hrest

lemma pending_afterCall (c : Call) : ((h.afterCall t c).mutators t).pending = none := by
  rw [afterCall, mutators_setMutator_self, Mutator.pending_ending]

/-- A thread that has returned from a call may store to the slots that the call announced. -/
lemma announced_subset_guarded {c : Call} (hok : (h.barrier.call h.memory c).2 = .ok ()) :
    c.announced ⊆ ((h.afterCall t c).mutators t).guarded := by
  rw [afterCall, mutators_setMutator_self, hok]
  exact Set.subset_union_right

end SharedHeap
end WriteBarrier
