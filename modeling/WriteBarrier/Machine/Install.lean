import WriteBarrier.Machine

/-!
Installing the barrier set of a machine. The cell of the machine is filled first; what follows
reports the installation and checks the region that the barrier set covers already.
-/

namespace WriteBarrier.Machine

/-- Set a logger with a filter unless a logger is set. The answer tells whether it was set. -/
def startLogger (filter : LogFilter) : Step Machine Bool := do
  let p ← Step.read
  if p.logger.isSome then return false
  Step.modify fun p => { p with logger := some filter }
  return true

/-- Make sure that a logger is set, and report whose it is. -/
def announceLogger (filter : LogFilter) : Step Machine Unit := do
  let started ← startLogger filter
  log .logger .debug <| .ok <|
    if started then "The barrier set initialized the logger."
    else "A logger has already been set. The barrier set will use it."

/-- Fill the cell of the machine; false if it was filled before. -/
def fillCell (i : Installation) : Step Machine Bool := fun p =>
  let (cell, filled) := p.cell.fill fun _ => .ok i
  ⟨filled, { p with cell }, []⟩

/-- Install a barrier set with options. There must be no installed barrier set. The filter is that
of the logger which is set if there is none. -/
def install (filter : LogFilter) (options : Options) (barrier : Barrier) : Step Machine Unit := do
  announceLogger filter
  let filled ← fillCell (.create options barrier)
  let i ← installation
  if !filled then Step.stop (.alreadyInstalled barrier.kind i.barrier.kind)
  let p ← Step.read
  log .machine .info <| .ok <|
    s!"Installed barrier set {barrier.kind.name} (barrier-set {Release.version}, " ++
      s!"{p.sources.revision})"
  log .machine .debug (.ok s!"Reference encoding: {i.encoding.describe}")
  if i.options.printBarrierSet then
    logEager .machine .info (Description.text <$> i.barrier.description)
  if i.options.verifyCoveredRegions then Step.ofExcept (i.barrier.verify i.barrier.covered)

end WriteBarrier.Machine
