import WriteBarrier.Barrier.Description
import WriteBarrier.Log.Filter
import WriteBarrier.Options
import WriteBarrier.Release
import WriteBarrier.WriteOnce

/-!
The barrier set of a machine. At most one barrier set is installed; it is reached through the
machine from then on, together with the options it was installed with and the counters about its
use. A step on a machine logs through the logger that is set, which takes lines by its filter.
-/

namespace WriteBarrier

/-- Counters about the use of the installed barrier set. They wrap. -/
structure Counters where
  /-- Calls of the static entry points are counted. -/
  counting : Bool := false
  preCalls : Word := 0
  postCalls : Word := 0
  resizes : Word := 0
  deriving DecidableEq

namespace Counters

/-- Count a call of the static entry point before a bulk store, if calls are counted. -/
def countPre (c : Counters) : Counters :=
  if c.counting then { c with preCalls := c.preCalls + 1 } else c

/-- Count a call of the static entry point after a bulk store, if calls are counted. -/
def countPost (c : Counters) : Counters :=
  if c.counting then { c with postCalls := c.postCalls + 1 } else c

def countResize (c : Counters) : Counters := { c with resizes := c.resizes + 1 }

end Counters

/-- An installed barrier set. -/
structure Installation where
  barrier : Barrier
  options : Options
  /-- The layout by which the static entry points read their arguments. -/
  encoding : Encoding
  counters : Counters
  deriving DecidableEq

/-- A barrier set as it is when it has just been installed. -/
def Installation.create (options : Options) (barrier : Barrier) : Installation :=
  ⟨barrier, options, options.referenceEncoding, { counting := options.countStaticCalls }⟩

structure Machine where
  cell : WriteOnce Installation := .empty
  /-- The filter of the logger; none while no logger is set. -/
  logger : Option LogFilter := none
  memory : Memory := .zeroed
  /-- From which sources the machine's release was built. -/
  sources : Release.Sources := {}

namespace Machine

/-- Does the logger take lines of a source at a level? -/
def takes (p : Machine) (source : LogSource) (level : Level) : Bool :=
  p.logger.any (·.takes source level)

/-- Does the logger take lines at a level from whichever sources? -/
def attends (p : Machine) (level : Level) : Bool := p.logger.any (·.attends level)

/-- Log a line. A line that is not taken is not put into words either. -/
def log (source : LogSource) (level : Level) (text : Except Fault String) : Step Machine Unit :=
  fun p =>
    if p.takes source level then
      match text with
      | .ok text => ⟨.ok (), p, [⟨level, text⟩]⟩
      | .error fault => ⟨.error fault, p, []⟩
    else ⟨.ok (), p, []⟩

/-- Log a text that is made up as soon as the logger attends to the level, even if the line is not
taken in the end. -/
def logEager (source : LogSource) (level : Level) (text : Except Fault String) :
    Step Machine Unit := do
  let p ← Step.read
  if p.attends level then
    let text ← Step.ofExcept text
    log source level (.ok text)

/-- The installed barrier set, if there is one. -/
def installation? (p : Machine) : Option Installation := p.cell.get?

/-- The installed barrier set, which must exist. -/
def installation : Step Machine Installation := fun p =>
  match p.installation? with
  | some i => ⟨.ok i, p, []⟩
  | none => ⟨.error .notInstalled, p, []⟩

def update (f : Installation → Installation) (p : Machine) : Machine :=
  match p.cell with
  | .filled i => { p with cell := .filled (f i) }
  | _ => p

def call (c : Call) : Step Machine Unit := do
  let i ← installation
  let p ← Step.read
  let (barrier, result) := i.barrier.call p.memory c
  Step.modify (update fun i => { i with barrier })
  Step.ofExcept result

def store (slot : Slot) (object : ObjectRef) : Step Machine Unit := do
  let p ← Step.read
  let memory ← Step.ofExcept (slot.store object p.memory)
  Step.modify fun p => { p with memory }

/-- The description of the installed barrier set, however far its variant gives it. -/
def dump : Step Machine String := do
  let i ← installation
  let d ← Step.ofExcept i.barrier.description
  return d.text

end Machine

end WriteBarrier
