import Mathlib.Tactic.Lemma
import WriteBarrier.Machine.Request

/-!
# Runs

What holds after a run of requests because every request keeps it, also of notes that are taken on
the requests along the way. The stores that complete in a run are such notes.
-/

namespace WriteBarrier.Request

variable {α : Type} {note : Machine → Request → Option α} {Q : Request → Prop} {p : Machine}
  {requests : List Request}

/-- What every request keeps holds after a run. -/
theorem run_keeps {P : Machine → Prop} (hserve : ∀ {p r}, P p → Q r → P (r.serve p).state)
    (hp : P p) (hrequests : ∀ r ∈ requests, Q r) : P (run p requests) := by
  induction requests generalizing p with
  | nil => exact hp
  | cons r requests ih =>
    exact ih (hserve hp (hrequests r (.head _))) fun r hr => hrequests r (.tail _ hr)

/-- The notes on the requests of a run, in their order. A note is taken on a request and the machine
that serves it. -/
def notes (note : Machine → Request → Option α) (p : Machine) : List Request → List α
  | [] => []
  | r :: requests => (note p r).toList ++ notes note (r.serve p).state requests

/-- The same for what is known of a machine and the notes on the run that led to it. -/
theorem run_notes {P : Machine → List α → Prop} (hserve : ∀ {p r noted}, P p noted → Q r →
      P (r.serve p).state (noted ++ (note p r).toList))
    {noted : List α} (hp : P p noted) (hrequests : ∀ r ∈ requests, Q r) :
    P (run p requests) (noted ++ notes note p requests) := by
  induction requests generalizing p noted with
  | nil =>
    rw [notes, List.append_nil]
    exact hp
  | cons r requests ih =>
    rw [notes, ← List.append_assoc]
    exact ih (hserve hp (hrequests r (.head _))) fun r hr => hrequests r (.tail _ hr)

lemma length_notes_le {counts : Request → Bool}
    (hcounts : ∀ p r, (note p r).isSome = true → counts r = true) :
    (notes note p requests).length ≤ requests.countP counts := by
  induction requests generalizing p with
  | nil => exact Nat.le_refl _
  | cons r requests ih =>
    have hrest := ih (p := (r.serve p).state)
    rw [notes, List.length_append, List.countP_cons]
    cases hnote : note p r with
    | none =>
      rw [Option.toList_none, List.length_nil]
      omega
    | some a =>
      rw [if_pos (hcounts p r (by rw [hnote]; rfl)), Option.toList_some, List.length_singleton]
      omega

/-- The slot and the reference of a store that completes. -/
def stored? (p : Machine) : Request → Option (Slot × ObjectRef)
  | store slot object =>
    match slot.store object p.memory with
    | .ok _ => some (slot, object)
    | .error _ => none
  | _ => none

/-- The stores that complete in a run, in their order. -/
def storedIn : Machine → List Request → List (Slot × ObjectRef) := notes stored?

/-- The reference that was stored in the slot last. -/
def lastStored (stores : List (Slot × ObjectRef)) (s : Slot) : Option ObjectRef :=
  stores.reverse.lookup s

variable {stores : List (Slot × ObjectRef)} {s t : Slot} {o : ObjectRef}

lemma lastStored_append_self : lastStored (stores ++ [(s, o)]) s = some o := by
  rw [lastStored, List.reverse_append, List.reverse_singleton, List.singleton_append,
    List.lookup_cons_self]

lemma lastStored_append_of_ne (hne : s ≠ t) :
    lastStored (stores ++ [(t, o)]) s = lastStored stores s := by
  rw [lastStored, List.reverse_append, List.reverse_singleton, List.singleton_append,
    List.lookup_cons, beq_false_of_ne hne]
  rfl

end WriteBarrier.Request
