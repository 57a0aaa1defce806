import WriteBarrier.Machine

/-!
The static entry points, by which generated code without a reference to the barrier set calls the
barriers around a bulk store. The slice is laid out as the options of the installation say.

A fault in an entry point cannot be handed on to generated code, and a process may end with it. Runs
go on after such a fault as after any other: a process that ends has made a run up to there, so that
what holds after every run covers it too.
-/

namespace WriteBarrier.Machine

/-- The greatest number of references that a static entry point accepts. -/
def maxCount : Word := 0x7fffffffffffffff

/-- The slice that a static entry point is given. -/
def staticSlice (i : Installation) (start : Address) (count : Word) : Except Fault Slice :=
  if count ≤ maxCount then .ok ⟨start, count, i.encoding⟩ else .error (.countTooLarge count)

/-- The static entry point before a bulk store into initialized slots. -/
def staticPre (start : Address) (count : Word) : Step Machine Unit := do
  let i ← installation
  let slice ← Step.ofExcept (staticSlice i start count)
  log .staticCall .trace (.ok s!"static_write_ref_array_pre {slice.describe}")
  Step.modify (update fun i => { i with counters := i.counters.countPre })
  call (.arrayPre slice false)

/-- The static entry point after a bulk store. -/
def staticPost (start : Address) (count : Word) : Step Machine Unit := do
  let i ← installation
  let slice ← Step.ofExcept (staticSlice i start count)
  log .staticCall .trace (.ok s!"static_write_ref_array_post {slice.describe}")
  Step.modify (update fun i => { i with counters := i.counters.countPost })
  call (.arrayPost slice)

end WriteBarrier.Machine
