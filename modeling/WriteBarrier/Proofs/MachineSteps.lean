import WriteBarrier.Machine.Access
import WriteBarrier.Machine.Request
import WriteBarrier.Proofs.StepRules

/-!
# Steps of a machine

What the steps from which requests are put together give at a machine, depending on whether a
barrier set is installed there.
-/

namespace WriteBarrier.Machine

lemma cell_eq_filled {p : Machine} {i : Installation} (h : p.installation? = some i) :
    p.cell = .filled i := by
  unfold installation? at h
  cases hcell : p.cell with
  | filled j =>
    rw [hcell] at h
    rw [Option.some.inj h]
  | _ =>
    rw [hcell] at h
    cases h

lemma installation?_of_filled {p : Machine} {i : Installation} (h : p.cell = .filled i) :
    p.installation? = some i := by
  rw [installation?, h]
  rfl

lemma installation_state (p : Machine) : (installation p).state = p := by
  unfold installation
  cases p.installation? with
  | none => rfl
  | some i => rfl

lemma installation_of_filled {p : Machine} {i : Installation} (h : p.cell = .filled i) :
    Step.Yields installation p (.ok i) p := by
  unfold Step.Yields installation installation?
  rw [h]
  exact ⟨rfl, rfl⟩

lemma installation_of_none {p : Machine} (h : p.installation? = none) :
    Step.Yields installation p (.error .notInstalled) p := by
  unfold Step.Yields installation
  rw [h]
  exact ⟨rfl, rfl⟩

/-- However the machine is asked for its barrier set, the answer is that of `i`. -/
structure Presents (p : Machine) (i : Installation) : Prop where
  isInstalled_eq : p.isInstalled = true
  installation?_eq : p.installation? = some i
  barrierSet?_eq : p.barrierSet? = some i.barrier
  barrierSet_yields : Step.Yields barrierSet p (.ok i.barrier) p
  encoding_yields : Step.Yields referenceEncoding p (.ok i.encoding) p

section Access

variable {p : Machine} {i : Installation}

lemma isInstalled_of_filled (h : p.cell = .filled i) : p.isInstalled = true := by
  rw [isInstalled, h]
  rfl

lemma barrierSet?_of_filled (h : p.cell = .filled i) : p.barrierSet? = some i.barrier := by
  rw [barrierSet?, installation?_of_filled h]
  rfl

lemma barrierSet_of_filled (h : p.cell = .filled i) :
    Step.Yields barrierSet p (.ok i.barrier) p :=
  .bind_ok (installation_of_filled h) (.pure _ p)

lemma referenceEncoding_of_filled (h : p.cell = .filled i) :
    Step.Yields referenceEncoding p (.ok i.encoding) p :=
  .bind_ok (installation_of_filled h) (.pure _ p)

lemma presents_of_filled (h : p.cell = .filled i) : p.Presents i :=
  ⟨isInstalled_of_filled h, installation?_of_filled h, barrierSet?_of_filled h,
    barrierSet_of_filled h, referenceEncoding_of_filled h⟩

lemma staticCallCounts_of_filled (h : p.cell = .filled i) :
    Step.Yields staticCallCounts p (.ok (i.counters.preCalls, i.counters.postCalls)) p :=
  .bind_ok (installation_of_filled h) (.pure _ p)

lemma resizeCount_of_filled (h : p.cell = .filled i) :
    Step.Yields resizeCount p (.ok i.counters.resizes) p :=
  .bind_ok (installation_of_filled h) (.pure _ p)

end Access

/-- A line that is taken is put into words, which may fail. -/
lemma log_yields (source : LogSource) (level : Level) (text : Except Fault String) (p : Machine) :
    Step.Yields (log source level text) p
      (if p.takes source level then text >>= fun _ => .ok () else .ok ()) p := by
  unfold Step.Yields log
  by_cases htakes : p.takes source level = true
  · rw [if_pos htakes, if_pos htakes]
    cases text with
    | error fault => exact ⟨rfl, rfl⟩
    | ok text => exact ⟨rfl, rfl⟩
  · rw [if_neg htakes, if_neg htakes]
    exact ⟨rfl, rfl⟩

lemma log_state (source : LogSource) (level : Level) (text : Except Fault String) (p : Machine) :
    (log source level text p).state = p := (log_yields source level text p).2

lemma log_ok (source : LogSource) (level : Level) (text : String) (p : Machine) :
    Step.Yields (log source level (.ok text)) p (.ok ()) p := by
  have hlog := log_yields source level (.ok text) p
  have hworded : (Except.ok text >>= fun _ => .ok () : Except Fault Unit) = .ok () := rfl
  rwa [hworded, ite_self] at hlog

lemma update_of_filled {p : Machine} {i : Installation} (h : p.cell = .filled i)
    (f : Installation → Installation) : update f p = { p with cell := .filled (f i) } := by
  rw [update, h]

lemma update_of_none {p : Machine} (h : p.installation? = none) (f : Installation → Installation) :
    update f p = p := by
  unfold update
  cases hcell : p.cell with
  | filled i =>
    rw [installation?, hcell] at h
    cases h
  | _ => rfl

lemma call_of_filled {p : Machine} {i : Installation} (h : p.cell = .filled i) (c : Call) :
    Step.Yields (call c) p (i.barrier.call p.memory c).2
      { p with cell := .filled { i with barrier := (i.barrier.call p.memory c).1 } } := by
  apply Step.Yields.bind_ok (installation_of_filled h)
  apply Step.Yields.bind_ok (Step.Yields.read p)
  apply Step.Yields.bind_ok (Step.Yields.modify _ p)
  rw [update_of_filled h]
  exact Step.Yields.ofExcept _ _

lemma call_of_none {p : Machine} (h : p.installation? = none) (c : Call) :
    Step.Yields (call c) p (.error .notInstalled) p :=
  Step.Yields.bind_error (installation_of_none h)

lemma store_of_error {p : Machine} {slot : Slot} {object : ObjectRef} {fault : Fault}
    (h : slot.store object p.memory = .error fault) :
    Step.Yields (store slot object) p (.error fault) p :=
  .bind_ok (.read p) (.bind_error (.ofExcept_eq h p))

lemma store_of_ok {p : Machine} {slot : Slot} {object : ObjectRef} {memory : Memory}
    (h : slot.store object p.memory = .ok memory) :
    Step.Yields (store slot object) p (.ok ()) { p with memory } :=
  .bind_ok (.read p) (.bind_ok (.ofExcept_eq h p) (.modify _ p))

/-- What the static entry points share: they differ in what they count, report and call. -/
def staticCall (f : Counters → Counters) (text : Slice → String) (c : Slice → Call)
    (start : Address) (count : Word) : Step Machine Unit := do
  let i ← installation
  let slice ← Step.ofExcept (staticSlice i start count)
  log .staticCall .trace (.ok (text slice))
  Step.modify (update fun i => { i with counters := f i.counters })
  call (c slice)

lemma staticPre_eq : staticPre = staticCall Counters.countPre
    (fun slice => s!"static_write_ref_array_pre {slice.describe}") (.arrayPre · false) := rfl

lemma staticPost_eq : staticPost = staticCall Counters.countPost
    (fun slice => s!"static_write_ref_array_post {slice.describe}") .arrayPost := rfl

lemma takes_of_logger {p p' : Machine} {source : LogSource} {level : Level}
    (hlogger : p.logger.isSome → p'.logger = p.logger) (htakes : p.takes source level = true) :
    p'.takes source level = true := by
  unfold takes at *
  rw [hlogger]
  · exact htakes
  · cases hnone : p.logger with
    | none =>
      rw [hnone] at htakes
      cases htakes
    | some filter => rfl

section StaticCall

variable {p : Machine} {i : Installation} {f : Counters → Counters} {text : Slice → String}
  {c : Slice → Call} {start : Address} {count : Word}

lemma staticCall_of_refused (hcell : p.cell = .filled i) {fault : Fault}
    (hslice : staticSlice i start count = .error fault) :
    Step.Yields (staticCall f text c start count) p (.error fault) p :=
  .bind_ok (installation_of_filled hcell) (.bind_error (.ofExcept_eq hslice p))

lemma staticCall_of_accepted (hcell : p.cell = .filled i) {slice : Slice}
    (hslice : staticSlice i start count = .ok slice) :
    Step.Yields (staticCall f text c start count) p (i.barrier.call p.memory (c slice)).2
      { p with
        cell := .filled
          { i with
            barrier := (i.barrier.call p.memory (c slice)).1
            counters := f i.counters } } := by
  let counted : Machine := { p with cell := .filled { i with counters := f i.counters } }
  have hcounted : counted.cell = .filled { i with counters := f i.counters } := rfl
  refine .bind_ok (installation_of_filled hcell) (.bind_ok (.ofExcept_eq hslice p) ?_)
  refine .bind_ok (log_ok _ _ _ p) (.bind_ok (.modify _ p) ?_)
  rw [update_of_filled hcell]
  exact call_of_filled hcounted (c slice)

end StaticCall

end WriteBarrier.Machine
