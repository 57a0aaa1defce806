import WriteBarrier.Machine.Install
import WriteBarrier.Machine.Resize
import WriteBarrier.Machine.StaticCall

/-!
Requests to a machine and runs of requests. A request that stops leaves the machine as it was at
that point, and the next request goes on from there.
-/

namespace WriteBarrier

/-- A request that may change a machine. -/
inductive Request where
  | install (filter : LogFilter) (options : Options) (barrier : Barrier)
  | resize (region : Region)
  | call (c : Call)
  | staticPre (start : Address) (count : Word)
  | staticPost (start : Address) (count : Word)
  | store (slot : Slot) (object : ObjectRef)

namespace Request

def serve : Request → Step Machine Unit
  | install filter options barrier => Machine.install filter options barrier
  | resize region => Machine.resize region
  | call c => Machine.call c
  | staticPre start count => Machine.staticPre start count
  | staticPost start count => Machine.staticPost start count
  | store slot object => Machine.store slot object

/-- The machine after a run of requests. -/
def run (p : Machine) (requests : List Request) : Machine :=
  requests.foldl (fun p r => (r.serve p).state) p

theorem run_append (p : Machine) (first rest : List Request) :
    run p (first ++ rest) = run (run p first) rest := List.foldl_append

end Request

end WriteBarrier
