import WriteBarrier.Machine

/-!
Access to the installed barrier set and to what a machine keeps about it. All of it goes through
the cell of the machine.
-/

namespace WriteBarrier.Machine

/-- Has a barrier set been installed? -/
def isInstalled (p : Machine) : Bool := p.cell.isInitialized

/-- The installed barrier set, if there is one. -/
def barrierSet? (p : Machine) : Option Barrier := p.installation?.map (·.barrier)

/-- The installed barrier set, which must exist. -/
def barrierSet : Step Machine Barrier := return (← installation).barrier

/-- The layout by which the static entry points read their arguments. -/
def referenceEncoding : Step Machine Encoding := return (← installation).encoding

/-- The numbers of counted calls of the static entry points before and after bulk stores. -/
def staticCallCounts : Step Machine (Word × Word) := do
  let i ← installation
  return (i.counters.preCalls, i.counters.postCalls)

/-- How often the covered region was resized. -/
def resizeCount : Step Machine Word := return (← installation).counters.resizes

end WriteBarrier.Machine
