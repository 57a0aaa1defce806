import WriteBarrier.Proofs.CardLogging
import WriteBarrier.Proofs.Interleavings
import WriteBarrier.Proofs.Mutators

/-!
# Concurrent calls

The calls that each thread makes in a run, and what all of them leave in the journal. As long as no
call looks at the memory, no action stops, and the actions that were done are an interleaving of
those by which the calls of the threads were answered.
-/

namespace WriteBarrier

def Action.recordedEvents : Action → List Event
  | record event => [event]
  | _ => []

def Action.markedWords : Action → List Word
  | mark word => [word]
  | _ => []

/-- What a new journal holds once the actions have been noted in it. -/
structure Journal.Notes (actions : List Action) (j : Journal) : Prop where
  events : j.events.toList = actions.flatMap Action.recordedEvents
  cards : j.cards.toList = actions.flatMap Action.loggedCards
  postWrites : j.postWrites = .ofNat (actions.count .countWrite)
  marks : j.marks.reverse = actions.flatMap Action.markedWords

lemma Journal.Notes.nil : Notes [] {} := ⟨rfl, rfl, rfl, rfl⟩

section Actions

variable {m : Memory} {j j' : Journal} {held held' : Option ObjectRef} {action : Action}

/-- Only a load can stop. -/
lemma Action.exists_run (hload : ∀ slot, action ≠ .load slot) :
    ∃ j' held', action.run m j held = .ok (j', held') := by
  cases action with
  | load slot => exact absurd rfl (hload slot)
  | remember =>
    cases held with
    | none => exact ⟨_, _, rfl⟩
    | some old => exact ⟨_, _, rfl⟩
  | _ => exact ⟨_, _, rfl⟩

lemma Action.notes_run (hrun : action.run m j held = .ok (j', held')) :
    j'.events.toList = j.events.toList ++ action.recordedEvents ∧
    j'.postWrites = j.postWrites + .ofNat ([action].count .countWrite) ∧
    j'.marks.reverse = j.marks.reverse ++ action.markedWords := by
  cases action with
  | load slot =>
    obtain ⟨o, -, hj⟩ := bind_eq_ok.mp hrun
    cases hj
    simp [recordedEvents, markedWords]
  | remember => cases held <;> cases hrun <;> simp [recordedEvents, markedWords]
  | _ =>
    cases hrun
    simp [recordedEvents, markedWords]

lemma Journal.Notes.run {actions : List Action} (h : Notes actions j)
    (hrun : action.run m j held = .ok (j', held')) : Notes (actions ++ [action]) j' := by
  obtain ⟨hevents, hpostWrites, hmarks⟩ := Action.notes_run hrun
  constructor
  · rw [hevents, h.events, List.flatMap_append, List.flatMap_singleton]
  · rw [Action.cards_run hrun, h.cards, List.flatMap_append, List.flatMap_singleton]
  · rw [hpostWrites, h.postWrites, List.count_append, UInt64.ofNat_add]
  · rw [hmarks, h.marks, List.flatMap_append, List.flatMap_singleton]

end Actions

/-- The variant answers the call without a look at the memory. -/
def Variant.Blind (v : Variant) (c : Call) : Prop :=
  ∀ actions, v.answer c = .ok actions → ∀ action ∈ actions, ∀ slot, action ≠ .load slot

/-- The actions that are left of the call in which a thread is. -/
def Mutator.left (x : Mutator) : List Action :=
  match x.pending with
  | some p => p.actions
  | none => []

namespace SharedHeap

variable {ι : Type} [DecidableEq ι] {e : Encoding} {h₀ h h' : SharedHeap ι} {calls : ι → List Call}
  {v : Variant} {m : Memory}

/-- A run in which each thread makes the given calls in their order. -/
inductive ReachesBy (e : Encoding) (h₀ : SharedHeap ι) : (ι → List Call) → SharedHeap ι → Prop
  | refl : ReachesBy e h₀ (fun _ => []) h₀
  | call {calls : ι → List Call} {h : SharedHeap ι} (t : ι) {c : Call} {actions : List Action} :
      ReachesBy e h₀ calls h → (h.mutators t).pending = none → c.Truthful h.memory →
      h.barrier.variant.answer c = .ok actions →
      ReachesBy e h₀ (Function.update calls t (calls t ++ [c]))
        (h.setMutator t ⟨some ⟨actions, none, c.announced⟩, (h.mutators t).guarded⟩)
  | tail {calls : ι → List Call} {h h' : SharedHeap ι} :
      ReachesBy e h₀ calls h → Continues e h h' → ReachesBy e h₀ calls h'

/-- All threads have returned from their calls. -/
def Idle (h : SharedHeap ι) : Prop := ∀ t, (h.mutators t).pending = none

lemma ReachesBy.trans (hrun : ReachesBy e h₀ calls h)
    (hrest : Relation.ReflTransGen (Continues e) h h') : ReachesBy e h₀ calls h' := by
  induction hrest with
  | refl => exact hrun
  | tail _ hmove ih => exact ih.tail hmove

/-- Every run is a run of the calls that the threads make in it. -/
theorem reaches_iff_exists_calls : Reaches e h₀ h ↔ ∃ calls, ReachesBy e h₀ calls h := by
  constructor
  · intro hrun
    induction hrun with
    | refl => exact ⟨_, .refl⟩
    | tail _ hmove ih =>
      obtain ⟨calls, hcalls⟩ := ih
      cases hmove with
      | enter t hidle htruthful hanswer => exact ⟨_, hcalls.call t hidle htruthful hanswer⟩
      | act t hpending hrun =>
        exact ⟨calls, hcalls.tail ((Moves.act t hpending hrun).continues rfl hpending)⟩
      | fault t hpending hrun =>
        exact ⟨calls, hcalls.tail ((Moves.fault t hpending hrun).continues rfl hpending)⟩
      | leave t hpending =>
        exact ⟨calls, hcalls.tail ((Moves.leave t hpending).continues rfl hpending)⟩
      | store t hidle hguarded hencoding hplace hstore =>
        exact ⟨calls, hcalls.tail ⟨.store t hidle hguarded hencoding hplace hstore, fun _ => id⟩⟩
      | take n => exact ⟨calls, hcalls.tail ⟨.take n, fun _ => id⟩⟩
  · rintro ⟨calls, hrun⟩
    induction hrun with
    | refl => exact .refl
    | call t _ hidle htruthful hanswer ih => exact ih.tail (.enter t hidle htruthful hanswer)
    | tail _ hmove ih => exact ih.tail hmove.1

/-- Threads that are in calls can return from them, whatever the calls still do. -/
theorem exists_idle [Fintype ι] (h : SharedHeap ι) :
    ∃ h', Relation.ReflTransGen (Continues e) h h' ∧ h'.Idle := by
  have hthreads : ∀ s : Finset ι, ∃ h', Relation.ReflTransGen (Continues e) h h' ∧
      ∀ t ∈ s, (h'.mutators t).pending = none := by
    intro s
    induction s using Finset.induction_on with
    | empty => exact ⟨h, .refl, by simp⟩
    | insert t s _ ih =>
      obtain ⟨h', hrun, hidle⟩ := ih
      cases hpending : (h'.mutators t).pending with
      | none =>
        refine ⟨h', hrun, ?_⟩
        intro u hu
        cases Finset.mem_insert.mp hu with
        | inl heq => rw [heq, hpending]
        | inr hmem => exact hidle u hmem
      | some p =>
        refine ⟨_, hrun.trans (continues_perform hpending rfl), ?_⟩
        intro u hu
        by_cases heq : u = t
        · rw [heq, mutators_setMutator_self]
          exact Mutator.pending_ending
        · rw [mutators_setMutator_of_ne heq]
          exact hidle u (Finset.mem_of_mem_insert_of_ne hu heq)
  obtain ⟨h', hrun, hidle⟩ := hthreads Finset.univ
  exact ⟨h', hrun, fun t => hidle t (Finset.mem_univ t)⟩

/-- The calls that the threads made were answered; what was done of the answers was done in the
order of `merged` and has been noted, and the rest is still to be done. -/
structure Accounts (v : Variant) (calls : ι → List Call) (answers : ι → List (List Action))
    (done : ι → List Action) (merged : List Action) (h : SharedHeap ι) : Prop where
  variant : h.barrier.variant = v
  answered : ∀ t, (calls t).map v.answer = (answers t).map .ok
  divided : ∀ t, done t ++ (h.mutators t).left = (answers t).flatten
  interleaved : Interleaves done merged
  noted : h.barrier.journal.Notes merged

namespace Accounts

variable {answers : ι → List (List Action)} {done : ι → List Action} {merged : List Action}

lemma start : Accounts v (fun _ => []) (fun _ => []) (fun _ => []) []
    (SharedHeap.start (.ofVariant v) m : SharedHeap ι) where
  variant := rfl
  answered _ := rfl
  divided _ := rfl
  interleaved := .nil
  noted := .nil

lemma call (haccounts : Accounts v calls answers done merged h) {t : ι} {c : Call}
    {actions : List Action} (hidle : (h.mutators t).pending = none)
    (hanswer : h.barrier.variant.answer c = .ok actions) :
    Accounts v (Function.update calls t (calls t ++ [c]))
      (Function.update answers t (answers t ++ [actions])) done merged
      (h.setMutator t ⟨some ⟨actions, none, c.announced⟩, (h.mutators t).guarded⟩) where
  variant := haccounts.variant
  answered u := by
    by_cases hu : u = t
    · rw [hu, Function.update_self, Function.update_self, List.map_append, List.map_append,
        haccounts.answered t, List.map_singleton, List.map_singleton, ← hanswer, haccounts.variant]
    · rw [Function.update_of_ne hu, Function.update_of_ne hu]
      exact haccounts.answered u
  divided u := by
    by_cases hu : u = t
    · have hdone : done t ++ [] = (answers t).flatten := by
        rw [← haccounts.divided t, Mutator.left, hidle]
      rw [hu, Function.update_self, mutators_setMutator_self, List.flatten_append, ← hdone,
        List.append_nil, List.flatten_singleton]
      rfl
    · rw [Function.update_of_ne hu, mutators_setMutator_of_ne hu]
      exact haccounts.divided u
  interleaved := haccounts.interleaved
  noted := haccounts.noted

lemma act (haccounts : Accounts v calls answers done merged h) {t : ι} {action : Action}
    {actions : List Action} {held held' : Option ObjectRef} {announced : Set Slot}
    {journal : Journal}
    (hpending : (h.mutators t).pending = some ⟨action :: actions, held, announced⟩)
    (hrun : action.run h.memory h.barrier.journal held = .ok (journal, held')) :
    Accounts v calls answers (Function.update done t (done t ++ [action])) (merged ++ [action])
      ((h.setJournal journal).setMutator t
        ⟨some ⟨actions, held', announced⟩, (h.mutators t).guarded⟩) where
  variant := haccounts.variant
  answered := haccounts.answered
  divided u := by
    by_cases hu : u = t
    · have hleft : (h.mutators t).left = action :: actions := by rw [Mutator.left, hpending]
      rw [hu, Function.update_self, mutators_setMutator_self, ← haccounts.divided t, hleft,
        List.append_assoc]
      rfl
    · rw [Function.update_of_ne hu, mutators_setMutator_of_ne hu]
      exact haccounts.divided u
  interleaved := haccounts.interleaved.snoc t action
  noted := haccounts.noted.run hrun

lemma leave (haccounts : Accounts v calls answers done merged h) {t : ι}
    {held : Option ObjectRef} {announced : Set Slot} {x : Mutator}
    (hpending : (h.mutators t).pending = some ⟨[], held, announced⟩) (hx : x.pending = none) :
    Accounts v calls answers done merged (h.setMutator t x) where
  variant := haccounts.variant
  answered := haccounts.answered
  divided u := by
    by_cases hu : u = t
    · have hleft : (h.mutators t).left = x.left := by rw [Mutator.left, hpending, Mutator.left, hx]
      rw [hu, mutators_setMutator_self, ← hleft]
      exact haccounts.divided t
    · rw [mutators_setMutator_of_ne hu]
      exact haccounts.divided u
  interleaved := haccounts.interleaved
  noted := haccounts.noted

lemma mem_answer (haccounts : Accounts v calls answers done merged h) {t : ι} {action : Action}
    (haction : action ∈ (h.mutators t).left) :
    ∃ c ∈ calls t, ∃ actions, v.answer c = .ok actions ∧ action ∈ actions := by
  have hmem : action ∈ (answers t).flatten := by
    rw [← haccounts.divided t]
    exact List.mem_append_right _ haction
  obtain ⟨actions, hactions, hin⟩ := List.mem_flatten.mp hmem
  have hanswer : .ok actions ∈ (calls t).map v.answer := by
    rw [haccounts.answered t]
    exact List.mem_map_of_mem hactions
  obtain ⟨c, hc, heq⟩ := List.mem_map.mp hanswer
  exact ⟨c, hc, actions, heq, hin⟩

/-- A step without a new call does at most one of the actions that are left. -/
lemma tail (haccounts : Accounts v calls answers done merged h) (hmove : Continues e h h')
    (hblind : ∀ t, ∀ c ∈ calls t, v.Blind c) :
    ∃ done merged, Accounts v calls answers done merged h' := by
  obtain ⟨hmove, hnocall⟩ := hmove
  cases hmove with
  | enter t hidle htruthful hanswer =>
    have hstays := hnocall t hidle
    rw [mutators_setMutator_self] at hstays
    cases hstays
  | act t hpending hrun => exact ⟨_, _, haccounts.act hpending hrun⟩
  | @fault t action actions held announced fault hpending hrun =>
    -- Only a load stops, and no answer has one.
    have hleft : action ∈ (h.mutators t).left := by
      rw [Mutator.left, hpending]
      exact .head _
    obtain ⟨c, hc, actions, hanswer, haction⟩ := haccounts.mem_answer hleft
    obtain ⟨j, held', hok⟩ := Action.exists_run (hblind t c hc actions hanswer action haction)
    rw [hok] at hrun
    cases hrun
  | leave t hpending => exact ⟨_, _, haccounts.leave hpending rfl⟩
  | store t hidle hguarded hencoding hplace hstore =>
    exact ⟨done, merged, haccounts.variant, haccounts.answered, haccounts.divided,
      haccounts.interleaved, haccounts.noted⟩
  | take n =>
    exact ⟨done, merged, haccounts.variant, haccounts.answered, haccounts.divided,
      haccounts.interleaved, ⟨haccounts.noted.events, haccounts.noted.cards,
        haccounts.noted.postWrites, haccounts.noted.marks⟩⟩

end Accounts

lemma ReachesBy.exists_accounts (hrun : ReachesBy e (start (.ofVariant v) m) calls h)
    (hblind : ∀ t, ∀ c ∈ calls t, v.Blind c) :
    ∃ answers done merged, Accounts v calls answers done merged h := by
  induction hrun with
  | refl => exact ⟨_, _, _, .start⟩
  | @call calls h t c actions _ hidle _ hanswer ih =>
    -- The calls made so far are among those that are made in the end.
    have hbefore : ∀ u, ∀ c' ∈ calls u, v.Blind c' := by
      intro u c' hc'
      apply hblind u c'
      by_cases hu : u = t
      · subst hu
        rw [Function.update_self]
        exact List.mem_append_left _ hc'
      · rw [Function.update_of_ne hu]
        exact hc'
    obtain ⟨answers, done, merged, haccounts⟩ := ih hbefore
    exact ⟨_, _, _, haccounts.call hidle hanswer⟩
  | tail _ hmove ih =>
    obtain ⟨answers, done, merged, haccounts⟩ := ih hblind
    exact ⟨answers, haccounts.tail hmove hblind⟩

/-- Once all threads have returned, the journal holds the notes of an interleaving of the answers
to their calls. -/
theorem ReachesBy.exists_merged (hrun : ReachesBy e (start (.ofVariant v) m) calls h)
    (hblind : ∀ t, ∀ c ∈ calls t, v.Blind c) (hidle : h.Idle) :
    h.barrier.variant = v ∧ ∃ (answers : ι → List (List Action)) (merged : List Action),
      (∀ t, (calls t).map v.answer = (answers t).map .ok) ∧
      Interleaves (fun t => (answers t).flatten) merged ∧ h.barrier.journal.Notes merged := by
  obtain ⟨answers, done, merged, haccounts⟩ := hrun.exists_accounts hblind
  have hdone : done = fun t => (answers t).flatten := by
    funext t
    rw [← haccounts.divided t, Mutator.left, hidle t, List.append_nil]
  have hinterleaved := haccounts.interleaved
  rw [hdone] at hinterleaved
  exact ⟨haccounts.variant, answers, merged, haccounts.answered, hinterleaved, haccounts.noted⟩

end SharedHeap

end WriteBarrier
