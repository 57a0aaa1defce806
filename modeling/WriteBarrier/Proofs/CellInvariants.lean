import WriteBarrier.Proofs.MachineSteps
import WriteBarrier.Proofs.Runs

/-!
# Cell invariants

A property of the cell of a machine holds after every run of requests if filling the cell, calls of
the installed barrier set and changes of the counters keep it.
-/

namespace WriteBarrier

open Machine

/-- A property of cells that no request breaks. -/
structure CellInvariant (P : WriteOnce Installation → Prop) : Prop where
  fill : ∀ {cell : WriteOnce Installation} (options : Options) (barrier : Barrier), P cell →
    P (cell.fill fun _ => .ok (.create options barrier)).1
  call : ∀ {i : Installation} (m : Memory) (c : Call), P (.filled i) →
    P (.filled { i with barrier := (i.barrier.call m c).1 })
  count : ∀ {i : Installation} (counters : Counters), P (.filled i) →
    P (.filled { i with counters })

namespace CellInvariant

variable {P : WriteOnce Installation → Prop} (hP : CellInvariant P)

lemma keeps_log (source : LogSource) (level : Level) (text : Except Fault String) :
    (log source level text).Keeps fun p => P p.cell := .of_state (log_state source level text)

lemma keeps_installation : installation.Keeps fun p => P p.cell := .of_state installation_state

lemma keeps_logEager (source : LogSource) (level : Level) (text : Except Fault String) :
    (logEager source level text).Keeps fun p => P p.cell := by
  refine .bind .read fun p => .ite ?_ (.pure ())
  exact .bind (.ofExcept text) fun text => keeps_log source level (.ok text)

/-- A step without effect on a machine on which nothing is installed need only be looked at where
something is. -/
lemma keeps_of_cases {x : Step Machine Unit}
    (hnone : ∀ p, p.installation? = none → (x p).state = p)
    (hsome : ∀ p i, p.cell = .filled i → P (.filled i) → P (x p).state.cell) :
    x.Keeps fun p => P p.cell := by
  intro p hp
  cases hinstalled : p.installation? with
  | none =>
    rw [hnone p hinstalled]
    exact hp
  | some i =>
    have hcell := cell_eq_filled hinstalled
    rw [hcell] at hp
    exact hsome p i hcell hp

include hP

lemma keeps_call (c : Call) : (Machine.call c).Keeps fun p => P p.cell := by
  apply keeps_of_cases
  · intro p hnone
    exact (call_of_none hnone c).2
  · intro p i hcell hi
    rw [(call_of_filled hcell c).2]
    exact hP.call p.memory c hi

lemma keeps_count (f : Counters → Counters) :
    (Step.modify (update fun i => { i with counters := f i.counters })).Keeps
      fun p => P p.cell := by
  apply keeps_of_cases
  · intro p hnone
    rw [(Step.Yields.modify _ p).2, update_of_none hnone]
  · intro p i hcell hi
    rw [(Step.Yields.modify _ p).2, update_of_filled hcell]
    exact hP.count (f i.counters) hi

lemma keeps_fillCell (options : Options) (barrier : Barrier) :
    (fillCell (.create options barrier)).Keeps fun p => P p.cell :=
  fun _ hp => hP.fill options barrier hp

lemma keeps_install (filter : LogFilter) (options : Options) (barrier : Barrier) :
    (install filter options barrier).Keeps fun p => P p.cell := by
  have hstart : (startLogger filter).Keeps fun p => P p.cell := by
    refine .bind .read fun p => .ite (.pure _) ?_
    exact .bind (.modify fun p hp => hp) fun _ => .pure _
  have hannounce : (announceLogger filter).Keeps fun p => P p.cell :=
    .bind hstart fun started => keeps_log _ _ _
  refine .bind hannounce fun _ => .bind (hP.keeps_fillCell options barrier) fun filled => ?_
  refine .bind keeps_installation fun i => .when (.stop _) fun _ => .bind .read fun p => ?_
  refine .bind (keeps_log _ _ _) fun _ => .bind (keeps_log _ _ _) fun _ => ?_
  refine .when (keeps_logEager _ _ _) fun _ => ?_
  exact .ite (.ofExcept _) (.pure ())

lemma keeps_resize (region : Region) : (resize region).Keeps fun p => P p.cell := by
  refine .bind keeps_installation fun i => .bind (keeps_log _ _ _) fun _ => ?_
  refine .when (.ofExcept _) fun _ => .bind (hP.keeps_call _) fun _ => ?_
  refine .bind keeps_installation fun i => .when (.stop _) fun _ => ?_
  refine .bind (hP.keeps_count Counters.countResize) fun _ => .bind (.ofExcept _) fun count => ?_
  exact keeps_log _ _ _

lemma keeps_staticCall (f : Counters → Counters) (text : Slice → String) (c : Slice → Call)
    (start : Address) (count : Word) :
    (staticCall f text c start count).Keeps fun p => P p.cell := by
  refine .bind keeps_installation fun i => .bind (.ofExcept _) fun slice => ?_
  refine .bind (keeps_log _ _ _) fun _ => .bind (hP.keeps_count f) fun _ => ?_
  exact hP.keeps_call (c slice)

lemma keeps_serve (r : Request) : r.serve.Keeps fun p => P p.cell := by
  cases r with
  | install filter options barrier => exact hP.keeps_install filter options barrier
  | resize region => exact hP.keeps_resize region
  | call c => exact hP.keeps_call c
  | staticPre start count => exact hP.keeps_staticCall _ _ _ start count
  | staticPost start count => exact hP.keeps_staticCall _ _ _ start count
  | store slot object =>
    refine .bind .read fun p => .bind (.ofExcept _) fun memory => ?_
    exact .modify fun p hp => hp

/-- What no request breaks holds after any run of requests. -/
theorem run {p : Machine} (hp : P p.cell) (requests : List Request) :
    P (Request.run p requests).cell :=
  Request.run_keeps (fun {p r} hp _ => hP.keeps_serve r p hp) hp fun _ _ => trivial

end CellInvariant

end WriteBarrier
