import WriteBarrier.Options.Bulk
import WriteBarrier.Options.CamelCase
import WriteBarrier.Options.Environment
import WriteBarrier.Machine.Request

/-!
Sessions: how a virtual machine is set up. A session reads options from the environment,
changes them in a builder, installs a barrier set with them, or asks for a shared barrier set that
is installed on first use.
-/

namespace WriteBarrier

structure Session where
  machine : Machine := {}
  environment : Environment := []
  /-- The options being put together, once there are any. -/
  builder : Option Options := none
  /-- Whether the shared barrier set has been made. -/
  shared : WriteOnce Unit := .empty

namespace Session

/-- A step of the machine. -/
def onMachine {α : Type} (x : Step Machine α) : Step Session α := fun s =>
  let outcome := x s.machine
  ⟨outcome.result, { s with machine := outcome.state }, outcome.lines⟩

/-- Log lines about options. -/
def report (lines : List LogLine) : Step Session Unit := fun s =>
  ⟨.ok (), s, lines.filter fun line => s.machine.takes .options line.level⟩

/-- Set the standard logger, whose filter the environment states, unless a logger is set. The answer
tells whether it was set. -/
def startLogger : Step Session Bool := do
  let s ← Step.read
  onMachine (Machine.startLogger (.ofEnvironment s.environment))

/-- Install a barrier set with options, and with the standard logger if no logger is set. -/
def installWith (options : Options) (barrier : Barrier) : Step Session Unit := do
  let s ← Step.read
  onMachine (Machine.install (.ofEnvironment s.environment) options barrier)

/-- The options that the environment asks for now. -/
def freshOptions : Step Session Options := do
  let s ← Step.read
  let (options, warnings) := Options.ofEnvironment s.environment
  report warnings
  return options

/-- Begin with fresh options. -/
def newBuilder : Step Session Options := do
  let options ← freshOptions
  Step.modify fun s => { s with builder := some options }
  return options

/-- The options being put together, fresh ones if there are none. -/
def currentBuilder : Step Session Options := do
  match (← Step.read).builder with
  | some options => return options
  | none => newBuilder

/-- Change the options being put together. -/
def onBuilder {α : Type} (x : Step Options α) : Step Session α := do
  let options ← currentBuilder
  let outcome := x options
  Step.modify fun s => { s with builder := some outcome.state }
  report outcome.lines
  Step.ofExcept outcome.result

/-- Set an option by its name in camelCase or snake_case. -/
def setOption (key value : String) : Step Session Bool := onBuilder (Options.setCamelCase key value)

/-- Set the options of a text. -/
def setOptions (text : String) : Step Session Bool := onBuilder (Options.setBulk text)

/-- Install a barrier set with the options put together, which are used up. -/
def install (barrier : Barrier) : Step Session Unit := do
  let options ← match (← Step.read).builder with
    | some options => pure options
    | none => freshOptions
  Step.modify fun s => { s with builder := none }
  installWith options barrier

/-- Install the shared barrier set. Its options come from the environment, except that references
are full and everything is checked, printed and counted. -/
def installShared : Step Session Unit := do
  let options ← freshOptions
  let options := { options with
    compressedOops := false
    verifyCoveredRegions := true
    printBarrierSet := true
    countStaticCalls := true }
  installWith options (.ofVariant .extendedSet)

/-- Make sure that the shared barrier set has been made. A failure to make it is final. -/
def makeShared : Step Session Unit := fun s =>
  let outcome := WriteOnce.fillBy installShared (s.shared, s)
  let (shared, session) := outcome.state
  ⟨(fun _ => ()) <$> outcome.result, { session with shared }, outcome.lines⟩

/-- The kind of the shared barrier set. -/
def sharedKind : Step Session Kind := do
  makeShared
  let i ← onMachine Machine.installation
  return i.barrier.kind

end Session

end WriteBarrier
