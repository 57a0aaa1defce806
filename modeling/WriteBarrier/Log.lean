import WriteBarrier.Fault

/-!
Log lines and steps that write them. A step works on a state; it may write lines and change the
state before it returns a value or stops with a fault, and nothing that it did is undone.
-/

namespace WriteBarrier

/-- The importance of a log line, from the least to the greatest. -/
inductive Level where
  | trace
  | debug
  | info
  | warn
  | error
  deriving DecidableEq

namespace Level

def name : Level → String
  | trace => "TRACE"
  | debug => "DEBUG"
  | info => "INFO"
  | warn => "WARN"
  | error => "ERROR"

def rank : Level → Nat
  | trace => 0
  | debug => 1
  | info => 2
  | warn => 3
  | error => 4

instance : LE Level := ⟨fun a b => a.rank ≤ b.rank⟩
instance (a b : Level) : Decidable (a ≤ b) := inferInstanceAs (Decidable (a.rank ≤ b.rank))

end Level

structure LogLine where
  level : Level
  text : String
  deriving DecidableEq

/-- What a step leaves behind. -/
structure Outcome (σ α : Type) where
  result : Except Fault α
  state : σ
  lines : List LogLine

/-- A step on states of type `σ` that gives a value of type `α`. -/
def Step (σ α : Type) : Type := σ → Outcome σ α

namespace Step

variable {σ α β : Type}

/-- Run one step and, unless it stopped, the step that its value gives. -/
def andThen (x : Step σ α) (f : α → Step σ β) : Step σ β := fun s =>
  match (x s).result with
  | .error fault => ⟨.error fault, (x s).state, (x s).lines⟩
  | .ok a =>
    let rest := f a (x s).state
    ⟨rest.result, rest.state, (x s).lines ++ rest.lines⟩

instance : Monad (Step σ) where
  pure a := fun s => ⟨.ok a, s, []⟩
  bind := andThen

def read : Step σ σ := fun s => ⟨.ok s, s, []⟩

def modify (f : σ → σ) : Step σ Unit := fun s => ⟨.ok (), f s, []⟩

def stop (fault : Fault) : Step σ α := fun s => ⟨.error fault, s, []⟩

/-- A result that was computed without the state. -/
def ofExcept (x : Except Fault α) : Step σ α := fun s => ⟨x, s, []⟩

def write (lines : List LogLine) : Step σ Unit := fun s => ⟨.ok (), s, lines⟩

theorem pure_apply (a : α) (s : σ) : (pure a : Step σ α) s = ⟨.ok a, s, []⟩ := rfl

theorem bind_apply_ok {x : Step σ α} {f : α → Step σ β} {s s' : σ} {a : α} {lines : List LogLine}
    (h : x s = ⟨.ok a, s', lines⟩) :
    (x >>= f) s = ⟨(f a s').result, (f a s').state, lines ++ (f a s').lines⟩ := by
  show andThen x f s = _
  simp [andThen, h]

theorem bind_apply_error {x : Step σ α} {f : α → Step σ β} {s s' : σ} {fault : Fault}
    {lines : List LogLine} (h : x s = ⟨.error fault, s', lines⟩) :
    (x >>= f) s = ⟨.error fault, s', lines⟩ := by
  show andThen x f s = _
  simp [andThen, h]

end Step

end WriteBarrier
