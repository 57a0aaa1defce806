import WriteBarrier.Machine

/-!
Resizing the region that the installed barrier set covers. The new region is reported and checked
before the barrier set hears of it; a resize counts once the barrier set covers the new region.
-/

namespace WriteBarrier.Machine

/-- The report of a resize that begins. -/
def resizeReport (kind : Kind) (old new : Region) : Except Fault String := do
  let old ← old.text
  let new ← new.text
  return s!"Resizing the covered region of {kind.name} from {old} to {new}"

/-- Let the installed barrier set cover a region. -/
def resize (region : Region) : Step Machine Unit := do
  let i ← installation
  log .machine .debug (resizeReport i.barrier.kind i.barrier.covered region)
  if i.options.verifyCoveredRegions then Step.ofExcept (i.barrier.verify region)
  call (.resize region)
  let i ← installation
  let covered := i.barrier.covered
  if covered ≠ region then
    Step.stop (.coverNotTaken covered.start covered.size region.start region.size)
  Step.modify (update fun i => { i with counters := i.counters.countResize })
  let count ← Step.ofExcept (Word.sum i.counters.resizes 1)
  log .machine .trace (.ok s!"Covered region resized {count.toNat} times")

end WriteBarrier.Machine
