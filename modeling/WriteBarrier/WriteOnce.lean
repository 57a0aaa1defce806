import WriteBarrier.Log

/-!
A cell that is filled at most once. Filling it runs an initializer unless a value is stored
already; an initializer that fails spoils the cell for good.
-/

namespace WriteBarrier

/-- A write-once cell. -/
inductive WriteOnce (α : Type) where
  | empty
  | filled (value : α)
  | poisoned
  deriving DecidableEq

namespace WriteOnce

variable {α : Type}

/-- Fill the cell with what `initializer` gives. The answer tells whether this call stored the
value; the initializer of a cell that is not empty is never run. -/
def fill (c : WriteOnce α) (initializer : Unit → Except Fault α) :
    WriteOnce α × Except Fault Bool :=
  match c with
  | filled value => (filled value, .ok false)
  | poisoned => (poisoned, .error .poisonedCell)
  | empty =>
    match initializer () with
    | .ok value => (filled value, .ok true)
    | .error fault => (poisoned, .error fault)

/-- `fill` with an initializer that works on a state beside the cell. It does so only if the cell is
empty. -/
def fillBy {σ : Type} (initializer : Step σ α) : Step (WriteOnce α × σ) Bool := fun (c, s) =>
  match c with
  | filled value => ⟨.ok false, (filled value, s), []⟩
  | poisoned => ⟨.error .poisonedCell, (poisoned, s), []⟩
  | empty =>
    let outcome := initializer s
    let (c, stored) := empty.fill fun _ => outcome.result
    ⟨stored, (c, outcome.state), outcome.lines⟩

def isInitialized : WriteOnce α → Bool
  | filled _ => true
  | _ => false

/-- The stored value, if any. -/
def get? : WriteOnce α → Option α
  | filled value => some value
  | _ => none

/-- The stored value, which must exist. -/
def get (c : WriteOnce α) : Except Fault α :=
  match c.get? with
  | some value => .ok value
  | none => .error .unsetCell

/-- Several callers race to store the same value; `count` of them ask. The answer counts the
callers that stored it. A caller that finds the cell spoiled stops without storing. -/
def race (c : WriteOnce α) (value : α) : Nat → WriteOnce α × Nat
  | 0 => (c, 0)
  | n + 1 =>
    let (c, won) := c.fill fun _ => .ok value
    let (c, others) := c.race value n
    (c, (if won matches .ok true then 1 else 0) + others)

/-- However an initializer works on the state, the cell and the answer are those of `fill`. -/
theorem fillBy_eq_fill {σ : Type} (initializer : Step σ α) (c : WriteOnce α) (s : σ) :
    ((fillBy initializer (c, s)).state.1, (fillBy initializer (c, s)).result) =
      c.fill fun _ => (initializer s).result := by
  cases c <;> rfl

end WriteOnce

end WriteBarrier
