import WriteBarrier.Proofs.StepRules
import WriteBarrier.WriteOnce

/-!
# Write-once cells

What becomes of a cell under any sequence of attempts to fill it and of reads, in the order in which
they take effect. The first initializer decides: it is the only one that is run, its value is what
every later use finds, and if it gives none the cell stays unset and cannot be filled any more.
-/

namespace WriteBarrier.WriteOnce

variable {σ α : Type}

/-- A use of a cell by some thread. Initializers work on a state that the threads share. -/
inductive Use (σ α : Type) where
  | fill (initializer : Step σ α)
  | isInitialized
  /-- Read the value, which must exist, through a reference to it or to the cell. -/
  | get
  | get?

/-- What a use answers unless it stops. -/
inductive Reply (α : Type) where
  /-- Whether this use stored the value. -/
  | stored (here : Bool)
  | initialized (yes : Bool)
  | value (v : α)
  | value? (found : Option α)

/-- The use stored the value. -/
def Reply.isStored : Except Fault (Reply α) → Bool
  | .ok (.stored here) => here
  | _ => false

namespace Use

def initializer? : Use σ α → Option (Step σ α)
  | fill initializer => some initializer
  | _ => none

def serve : Use σ α → Step (WriteOnce α × σ) (Reply α)
  | fill initializer => do
    let here ← fillBy initializer
    return .stored here
  | isInitialized => do
    let (c, _) ← Step.read
    return .initialized c.isInitialized
  | get => do
    let (c, _) ← Step.read
    let v ← Step.ofExcept c.get
    return .value v
  | get? => do
    let (c, _) ← Step.read
    return .value? c.get?

/-- The cell and the state after uses, some of which may stop. -/
def run (p : WriteOnce α × σ) (uses : List (Use σ α)) : WriteOnce α × σ :=
  uses.foldl (fun p u => (u.serve p).state) p

/-- The answers to uses, in their order. -/
def replies (p : WriteOnce α × σ) : List (Use σ α) → List (Except Fault (Reply α))
  | [] => []
  | u :: uses => (u.serve p).result :: replies (u.serve p).state uses

/-- The initializer of the first attempt to fill the cell. -/
def first? (uses : List (Use σ α)) : Option (Step σ α) := uses.findSome? initializer?

end Use

/-- What the reads of a cell find. -/
structure Shows (c : WriteOnce α) (v? : Option α) : Prop where
  isInitialized : c.isInitialized = v?.isSome
  get? : c.get? = v?
  get : c.get = v?.elim (.error .unsetCell) .ok

/-- The reads of the cell find `v?`, and an attempt to fill it gives `answer`, runs no initializer
and leaves everything as it is. -/
structure Settled (c : WriteOnce α) (v? : Option α) (answer : Except Fault Bool) : Prop
    extends c.Shows v? where
  fillBy : ∀ {σ : Type} (initializer : Step σ α) (s : σ),
    fillBy initializer (c, s) = ⟨answer, (c, s), []⟩

/-- The cell after an initializer with this result. -/
def decided : Except Fault α → WriteOnce α
  | .ok v => filled v
  | .error _ => poisoned

variable {c : WriteOnce α} {v? : Option α} {answer : Except Fault Bool} {s : σ}
  {p : WriteOnce α × σ} {u : Use σ α} {uses : List (Use σ α)}

lemma shows_empty : (empty : WriteOnce α).Shows none := ⟨rfl, rfl, rfl⟩

lemma settled_filled (v : α) : (filled v).Settled (some v) (.ok false) :=
  { isInitialized := rfl, get? := rfl, get := rfl, fillBy := fun _ _ => rfl }

lemma settled_poisoned : (poisoned : WriteOnce α).Settled none (.error .poisonedCell) :=
  { isInitialized := rfl, get? := rfl, get := rfl, fillBy := fun _ _ => rfl }

lemma exists_settled_decided (result : Except Fault α) :
    ∃ v? answer, (decided result).Settled v? answer ∧ answer ≠ .ok true := by
  cases result with
  | ok v => exact ⟨_, _, settled_filled v, by simp⟩
  | error fault => exact ⟨_, _, settled_poisoned, by simp⟩

/-- The initializer of an empty cell is run and decides on the cell. -/
lemma fillBy_empty (initializer : Step σ α) (s : σ) : fillBy initializer (empty, s) =
    ⟨(fun _ => true) <$> (initializer s).result,
      (decided (initializer s).result, (initializer s).state), (initializer s).lines⟩ := by
  simp only [WriteOnce.fillBy, fill]
  cases (initializer s).result <;> rfl

namespace Use

lemma state_serve_of_read (hread : u.initializer? = none) : (u.serve p).state = p := by
  obtain ⟨c, s⟩ := p
  cases u with
  | fill initializer => cases hread
  | _ => cases c <;> rfl

lemma not_isStored_of_read (hread : u.initializer? = none) :
    Reply.isStored (u.serve p).result = false := by
  obtain ⟨c, s⟩ := p
  cases u with
  | fill initializer => cases hread
  | _ => cases c <;> rfl

lemma serve_fill (initializer : Step σ α) (p : WriteOnce α × σ) :
    (fill initializer).serve.Yields p (Reply.stored <$> (fillBy initializer p).result)
      (fillBy initializer p).state := by
  have hfill : (fillBy initializer).Yields p (fillBy initializer p).result
      (fillBy initializer p).state := ⟨rfl, rfl⟩
  generalize (fillBy initializer p).result = result at hfill ⊢
  cases result with
  | error fault => exact .bind_error hfill
  | ok here => exact .bind_ok hfill (.pure _ _)

lemma state_serve_of_settled (h : c.Settled v? answer) (u : Use σ α) :
    (u.serve (c, s)).state = (c, s) := by
  cases u with
  | fill initializer => rw [(serve_fill initializer _).2, h.fillBy]
  | _ => exact state_serve_of_read rfl

lemma run_of_settled (h : c.Settled v? answer) (uses : List (Use σ α)) :
    run (c, s) uses = (c, s) := by
  induction uses with
  | nil => rfl
  | cons u uses ih =>
    have hstep : run (c, s) (u :: uses) = run (u.serve (c, s)).state uses := rfl
    rw [hstep, state_serve_of_settled h, ih]

lemma countP_replies_of_settled (h : c.Settled v? answer) (hanswer : answer ≠ .ok true)
    (uses : List (Use σ α)) : (replies (c, s) uses).countP Reply.isStored = 0 := by
  induction uses with
  | nil => rfl
  | cons u uses ih =>
    have hreply : Reply.isStored (u.serve (c, s)).result = false := by
      cases u with
      | fill initializer =>
        rw [(serve_fill initializer _).1, h.fillBy]
        cases answer with
        | error fault => rfl
        | ok here =>
          cases here with
          | false => rfl
          | true => exact absurd rfl hanswer
      | _ => exact not_isStored_of_read rfl
    rw [replies, List.countP_cons, state_serve_of_settled h, ih, hreply]
    rfl

/-- The cell and the state are what the first initializer makes of them. -/
lemma run_empty (s : σ) (uses : List (Use σ α)) : run (empty, s) uses =
    (first? uses).elim (empty, s) fun initializer =>
      (decided (initializer s).result, (initializer s).state) := by
  induction uses with
  | nil => rfl
  | cons u uses ih =>
    have hstep : run (empty, s) (u :: uses) = run (u.serve (empty, s)).state uses := rfl
    cases u with
    | fill initializer =>
      obtain ⟨v?, answer, hsettled, -⟩ := exists_settled_decided (initializer s).result
      rw [hstep, (serve_fill initializer _).2, fillBy_empty, run_of_settled hsettled]
      rfl
    | _ =>
      rw [hstep, state_serve_of_read rfl, ih]
      rfl

lemma countP_replies_empty_le (s : σ) (uses : List (Use σ α)) :
    (replies (empty, s) uses).countP Reply.isStored ≤ 1 := by
  induction uses with
  | nil => exact Nat.zero_le 1
  | cons u uses ih =>
    rw [replies, List.countP_cons]
    cases u with
    | fill initializer =>
      obtain ⟨v?, answer, hsettled, hanswer⟩ := exists_settled_decided (initializer s).result
      rw [(serve_fill initializer _).2, fillBy_empty, countP_replies_of_settled hsettled hanswer]
      split <;> omega
    | _ =>
      rw [state_serve_of_read rfl, not_isStored_of_read rfl, if_neg Bool.false_ne_true]
      exact ih

end Use

/-- Under any uses at most one attempt to fill a new cell stores a value. Until the first attempt
reads find nothing, and its initializer is run. It is the only one that is: if it gives a value,
every later use finds this value, and if it stops, the cell is unset for good and every later
attempt stops as well. -/
theorem first_initializer_decides (s : σ) (uses : List (Use σ α)) :
    let p := Use.run (empty, s) uses
    (Use.replies (empty, s) uses).countP Reply.isStored ≤ 1 ∧
    (Use.first? uses = none → p = (empty, s) ∧ p.1.Shows none ∧
      ∀ initializer : Step σ α,
        (fillBy initializer p).result = (fun _ => true) <$> (initializer s).result ∧
          (fillBy initializer p).state.2 = (initializer s).state) ∧
    ∀ initializer, Use.first? uses = some initializer →
      p.2 = (initializer s).state ∧
      (∀ v, (initializer s).result = .ok v → p.1.Settled (some v) (.ok false)) ∧
      ∀ fault, (initializer s).result = .error fault →
        p.1.Settled none (.error .poisonedCell) := by
  intro p
  have hp : p = _ := Use.run_empty s uses
  refine ⟨Use.countP_replies_empty_le s uses, ?_, ?_⟩
  · intro hfirst
    rw [hfirst, Option.elim_none] at hp
    rw [hp]
    refine ⟨rfl, shows_empty, ?_⟩
    intro initializer
    rw [fillBy_empty]
    exact ⟨rfl, rfl⟩
  · intro initializer hfirst
    rw [hfirst, Option.elim_some] at hp
    rw [hp]
    refine ⟨rfl, ?_, ?_⟩
    · intro v hv
      rw [hv]
      exact settled_filled v
    · intro fault hfault
      rw [hfault]
      exact settled_poisoned

/-- The state counts the initializers that are run. -/
theorem first_initializer_decides_among_three :
    let giving (v : String) : Step Nat String := fun n => ⟨.ok v, n + 1, []⟩
    let stopping : Step Nat String := fun n => ⟨.error (.failedInitializer "full"), n + 1, []⟩
    let reading : List (Use Nat String) := [.isInitialized, .get, .get?]
    let filling :=
      [.get?, .fill (giving "card table"), .fill stopping, .fill (giving "other"), .get]
    let spoiling := [.isInitialized, .fill stopping, .fill (giving "card table"), .get?]
    (Use.run (empty, 0) reading).1.get? = none ∧
    (Use.run (empty, 0) filling).2 = 1 ∧
    (Use.run (empty, 0) filling).1.Settled (some "card table") (.ok false) ∧
    (Use.run (empty, 0) spoiling).2 = 1 ∧
    (Use.run (empty, 0) spoiling).1.Settled none (.error .poisonedCell) := by
  intro giving stopping reading filling spoiling
  have hread := (first_initializer_decides 0 reading).2.1 rfl
  have hfilled := (first_initializer_decides 0 filling).2.2 _ rfl
  have hspoiled := (first_initializer_decides 0 spoiling).2.2 _ rfl
  exact ⟨hread.2.1.get?, hfilled.1, hfilled.2.1 _ rfl, hspoiled.1, hspoiled.2.2 _ rfl⟩

end WriteBarrier.WriteOnce
