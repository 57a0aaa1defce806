import WriteBarrier.Proofs.Resizes
import WriteBarrier.Proofs.Runs

/-!
# Served requests

Everything that a request does to a machine. Where a barrier set is installed, a request makes at
most one call of it and counts at most itself; where none is installed, a request that needs one
stops and changes nothing. So the installed barrier set is at any time the one that was installed,
brought forward by the calls that requests have made since.
-/

namespace WriteBarrier

open Machine

/-- The barrier set after calls, each made while memory was as given beside it. -/
def Barrier.after (b : Barrier) (calls : List (Memory × Call)) : Barrier :=
  calls.foldl (fun b made => (b.call made.1 made.2).1) b

lemma Barrier.kind_after (b : Barrier) (calls : List (Memory × Call)) :
    (b.after calls).kind = b.kind := by
  induction calls generalizing b with
  | nil => rfl
  | cons made calls ih =>
    have hkind : (b.call made.1 made.2).1.kind = b.kind := by rw [kind, tags_call, kind]
    exact (ih _).trans hkind

lemma Barrier.after_append (b : Barrier) (first rest : List (Memory × Call)) :
    b.after (first ++ rest) = (b.after first).after rest := List.foldl_append

namespace Request

/-- The call of the installed barrier set that a request makes. -/
def madeCall? (p : Machine) (i : Installation) : Request → Option Call
  | resize region =>
    match resizeCheck p i region with
    | .ok _ => some (.resize region)
    | .error _ => none
  | call c => some c
  | staticPre start count =>
    if count ≤ maxCount then some (.arrayPre ⟨start, count, i.encoding⟩ false) else none
  | staticPost start count =>
    if count ≤ maxCount then some (.arrayPost ⟨start, count, i.encoding⟩) else none
  | _ => none

/-- The same with the memory at that moment; none if there is no installed barrier set. -/
def called? (p : Machine) (r : Request) : Option (Memory × Call) :=
  p.installation?.bind fun i => (r.madeCall? p i).map (p.memory, ·)

/-- The calls of the installed barrier set that a run makes, in their order. -/
def callsIn : Machine → List Request → List (Memory × Call) := notes called?

/-- The counters once a request has counted itself. -/
def counted : Request → Counters → Counters
  | staticPre _ count, c => if count ≤ maxCount then c.countPre else c
  | staticPost _ count, c => if count ≤ maxCount then c.countPost else c
  | _, c => c

/-- There must be an installed barrier set to serve the request. -/
def needsBarrier : Request → Bool
  | install _ _ _ => false
  | store _ _ => false
  | _ => true

end Request

variable {p : Machine} {i : Installation} {r : Request} {requests : List Request}

lemma Machine.staticSlice_eq_ok {start : Address} {count : Word} (hcount : count ≤ maxCount) :
    staticSlice i start count = .ok ⟨start, count, i.encoding⟩ := if_pos hcount

lemma Machine.staticSlice_eq_error {start : Address} {count : Word} (hcount : ¬count ≤ maxCount) :
    staticSlice i start count = .error (.countTooLarge count) := if_neg hcount

/-- Being told of a region moves the number of resizes alone. -/
lemma Installation.counters_told (barrier : Barrier) (region : Region) :
    (i.told barrier region).counters =
      { i.counters with resizes := (i.told barrier region).counters.resizes } := by
  unfold told
  by_cases htaken : barrier.covered = region
  · simp only [if_pos htaken]
    rfl
  · simp only [if_neg htaken]

/-- The installation after a request of which `resizes` resizes are counted. -/
def Installation.served (i : Installation) (p : Machine) (r : Request) (resizes : Word) :
    Installation :=
  { i with
    barrier := i.barrier.after (r.called? p).toList
    counters := { r.counted i.counters with resizes } }

lemma staticCall_served (hcell : p.cell = .filled i) {f : Counters → Counters}
    {text : Slice → String} {c : Slice → Call} {start : Address} {count : Word} :
    (staticCall f text c start count p).state = { p with
      cell := .filled { i with
        barrier := i.barrier.after
          ((if count ≤ maxCount then some (c ⟨start, count, i.encoding⟩) else none).map
            (p.memory, ·)).toList
        counters := if count ≤ maxCount then f i.counters else i.counters } } := by
  by_cases hcount : count ≤ maxCount
  · rw [(staticCall_of_accepted hcell (staticSlice_eq_ok hcount)).2]
    simp only [if_pos hcount]
    rfl
  · rw [(staticCall_of_refused hcell (staticSlice_eq_error hcount)).2]
    simp only [if_neg hcount]
    exact congrArg (fun cell => { p with cell }) hcell

/-- A request makes at most one call of the installed barrier set and counts at most itself. -/
lemma Request.serve_of_filled (hcell : p.cell = .filled i) (r : Request) :
    (∃ resizes, (r.serve p).state.cell = .filled (i.served p r resizes)) ∧
      (p.logger.isSome → (r.serve p).state.logger = p.logger) := by
  have hinstalled := installation?_of_filled hcell
  unfold Installation.served called?
  rw [hinstalled, Option.bind_some]
  cases r with
  | install filter options barrier =>
    rw [serve, (install_of_filled filter options barrier hcell).2]
    refine ⟨⟨i.counters.resizes, hcell⟩, ?_⟩
    cases p.logger with
    | none => intro h; cases h
    | some filter => exact fun _ => rfl
  | resize region =>
    cases hcheck : resizeCheck p i region with
    | error fault =>
      rw [serve, (resize_of_refused hcell hcheck).2, madeCall?, hcheck]
      exact ⟨⟨i.counters.resizes, hcell⟩, fun _ => rfl⟩
    | ok =>
      rw [serve, (resize_of_checked hcell hcheck).2, madeCall?, hcheck]
      let told := i.told (i.barrier.call p.memory (.resize region)).1 region
      refine ⟨⟨told.counters.resizes, ?_⟩, fun _ => rfl⟩
      exact congrArg (fun counters => WriteOnce.filled { told with counters })
        (Installation.counters_told _ region)
  | call c =>
    rw [serve, (call_of_filled hcell c).2]
    exact ⟨⟨i.counters.resizes, rfl⟩, fun _ => rfl⟩
  | staticPre start count =>
    rw [serve, staticPre_eq, staticCall_served hcell]
    exact ⟨⟨_, rfl⟩, fun _ => rfl⟩
  | staticPost start count =>
    rw [serve, staticPost_eq, staticCall_served hcell]
    exact ⟨⟨_, rfl⟩, fun _ => rfl⟩
  | store slot object =>
    rw [serve]
    cases hstore : slot.store object p.memory with
    | error fault =>
      rw [(store_of_error hstore).2]
      exact ⟨⟨i.counters.resizes, hcell⟩, fun _ => rfl⟩
    | ok memory =>
      rw [(store_of_ok hstore).2]
      exact ⟨⟨i.counters.resizes, hcell⟩, fun _ => rfl⟩

lemma Request.serve_of_none (hnone : p.installation? = none) (hr : r.needsBarrier = true) :
    Step.Yields r.serve p (.error .notInstalled) p := by
  cases r with
  | install filter options barrier => cases hr
  | store slot object => cases hr
  | call c => exact call_of_none hnone c
  | _ => exact .bind_error (installation_of_none hnone)

/-- The installed barrier set is that of `i` after calls of it. -/
structure Machine.Made (p : Machine) (i : Installation) (calls : List (Memory × Call)) : Prop where
  installed : ∃ counters, p.cell = .filled { i with barrier := i.barrier.after calls, counters }
  logging : p.logger.isSome

namespace Machine.Made

variable {calls : List (Memory × Call)}

lemma serve (hp : p.Made i calls) (r : Request) :
    (r.serve p).state.Made i (calls ++ (r.called? p).toList) := by
  obtain ⟨⟨counters, hcell⟩, hlogging⟩ := hp
  obtain ⟨⟨resizes, hserved⟩, hlogger⟩ := Request.serve_of_filled hcell r
  rw [Installation.served, ← Barrier.after_append] at hserved
  refine ⟨⟨_, hserved⟩, ?_⟩
  rw [hlogger hlogging]
  exact hlogging

lemma run (hp : p.Made i []) (requests : List Request) :
    (Request.run p requests).Made i (Request.callsIn p requests) :=
  Request.run_notes (P := fun p calls => p.Made i calls) (Q := fun _ => True)
    (fun {_ r _} hp _ => hp.serve r) hp fun _ _ => trivial

end Machine.Made

end WriteBarrier
