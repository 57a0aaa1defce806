import WriteBarrier.Proofs.Answers
import WriteBarrier.Proofs.CellInvariants
import WriteBarrier.Proofs.WordArithmetic

/-!
# Installation

What installing a barrier set does to a machine. The cell is filled before anything can fail, so an
installation that stops has installed its barrier set all the same, and since nothing ever empties
the cell, no other barrier set can be installed from then on.
-/

namespace WriteBarrier

/-- The installation is one of `barrier` with `options`, whatever its notes and counters are. -/
structure Installation.IsOf (i : Installation) (options : Options) (barrier : Barrier) : Prop where
  options_eq : i.options = options
  encoding_eq : i.encoding = options.referenceEncoding
  variant_eq : i.barrier.variant = barrier.variant
  tags_eq : i.barrier.tags = barrier.tags

lemma Installation.IsOf.kind {i : Installation} {options : Options} {barrier : Barrier}
    (h : i.IsOf options barrier) : i.barrier.kind = barrier.kind := by
  rw [Barrier.kind, h.tags_eq, Barrier.kind]

lemma Installation.IsOf.verify {i : Installation} {options : Options} {barrier : Barrier}
    (h : i.IsOf options barrier) (region : Region) :
    i.barrier.verify region = barrier.verify region := by
  unfold Barrier.verify Barrier.isAligned
  rw [h.kind, h.variant_eq]

namespace CellInvariant

lemma notPoisoned : CellInvariant (· ≠ .poisoned) where
  fill {cell} options barrier h := by
    cases cell with
    | poisoned => exact absurd rfl h
    | empty =>
      intro hfill
      cases hfill
    | filled i =>
      intro hfill
      cases hfill
  call m c h := by
    intro hcell
    cases hcell
  count counters h := by
    intro hcell
    cases hcell

/-- An installed barrier set stays installed. -/
lemma installed (options : Options) (barrier : Barrier) :
    CellInvariant fun cell => ∃ i : Installation, cell = .filled i ∧ i.IsOf options barrier where
  fill {cell} _ _ h := by
    obtain ⟨i, rfl, hi⟩ := h
    exact ⟨i, rfl, hi⟩
  call m c h := by
    obtain ⟨i, hcell, hi⟩ := h
    cases hcell
    exact ⟨_, rfl, hi.options_eq, hi.encoding_eq, Barrier.variant_call.trans hi.variant_eq,
      Barrier.tags_call.trans hi.tags_eq⟩
  count counters h := by
    obtain ⟨i, hcell, hi⟩ := h
    cases hcell
    exact ⟨_, rfl, hi.options_eq, hi.encoding_eq, hi.variant_eq, hi.tags_eq⟩

end CellInvariant

namespace Machine

/-- What installing does after the cell has been filled: the barrier set is put into words if it is
to be printed and the logger attends to it, and its covered region is verified if asked for. -/
def installCheck (filter : LogFilter) (options : Options) (barrier : Barrier) :
    Except Fault Unit := do
  if options.printBarrierSet then
    if filter.attends .info then
      let _ ← barrier.description
  if options.verifyCoveredRegions then barrier.verify barrier.covered

variable {p : Machine} {filter : LogFilter} {options : Options} {barrier : Barrier}

lemma logEager_yields (source : LogSource) (level : Level) (text : Except Fault String)
    (p : Machine) : Step.Yields (logEager source level text) p
      (if p.attends level then text >>= fun _ => .ok () else .ok ()) p := by
  refine .bind_ok (.read p) ?_
  by_cases hattends : p.attends level = true
  · rw [if_pos hattends, if_pos hattends]
    cases text with
    | error fault => exact .bind_error (.ofExcept _ p)
    | ok text => exact .bind_ok (.ofExcept _ p) (log_ok source level text p)
  · rw [if_neg hattends, if_neg hattends]
    exact .pure () p

lemma announceLogger_yields (filter : LogFilter) (p : Machine) :
    Step.Yields (announceLogger filter) p (.ok ())
      { p with logger := some (p.logger.getD filter) } := by
  have hstart : ∃ started, Step.Yields (startLogger filter) p (.ok started)
      { p with logger := some (p.logger.getD filter) } := by
    obtain ⟨cell, logger, memory, sources⟩ := p
    cases logger with
    | none => exact ⟨true, rfl, rfl⟩
    | some set => exact ⟨false, rfl, rfl⟩
  obtain ⟨started, hstart⟩ := hstart
  exact .bind_ok hstart (log_ok _ _ _ _)

lemma fillCell_of_empty (p : Machine) (h : p.cell = .empty) (i : Installation) :
    Step.Yields (fillCell i) p (.ok true) { p with cell := .filled i } := by
  unfold Step.Yields fillCell WriteOnce.fill
  rw [h]
  exact ⟨rfl, rfl⟩

lemma fillCell_of_filled (p : Machine) {i : Installation} (h : p.cell = .filled i)
    (other : Installation) :
    Step.Yields (fillCell other) p (.ok false) p := by
  unfold Step.Yields fillCell WriteOnce.fill
  rw [h]
  exact ⟨rfl, congrArg (fun cell => { p with cell }) h.symm⟩

lemma fillCell_of_poisoned (p : Machine) (h : p.cell = .poisoned) (i : Installation) :
    Step.Yields (fillCell i) p (.error .poisonedCell) p := by
  unfold Step.Yields fillCell WriteOnce.fill
  rw [h]
  exact ⟨rfl, congrArg (fun cell => { p with cell }) h.symm⟩

lemma installCheck_eq : installCheck filter options barrier =
    (if options.printBarrierSet then
      if filter.attends .info then Description.text <$> barrier.description >>= fun _ => .ok ()
      else .ok ()
    else .ok ()) >>= fun _ =>
      if options.verifyCoveredRegions then barrier.verify barrier.covered else .ok () := by
  unfold installCheck
  cases options.printBarrierSet with
  | false => rfl
  | true =>
    cases filter.attends .info with
    | false => rfl
    | true => cases barrier.description <;> rfl

/-- The check fails where the covered region cannot be put into words or is not accepted. -/
lemma installCheck_eq_error {fault : Fault}
    (h : installCheck filter options barrier = .error fault) :
    options.printBarrierSet = true ∧ filter.attends .info = true ∧
        barrier.description = .error fault ∨
      options.verifyCoveredRegions = true ∧ barrier.verify barrier.covered = .error fault := by
  have hverify : (if options.verifyCoveredRegions then barrier.verify barrier.covered else .ok ()) =
      Except.error fault →
      options.verifyCoveredRegions = true ∧ barrier.verify barrier.covered = .error fault := by
    intro h
    by_cases hasked : options.verifyCoveredRegions = true
    · rw [if_pos hasked] at h
      exact ⟨hasked, h⟩
    · rw [if_neg hasked] at h
      cases h
  rw [installCheck_eq] at h
  by_cases hprint : options.printBarrierSet = true
  · rw [if_pos hprint] at h
    by_cases hattends : filter.attends .info = true
    · rw [if_pos hattends] at h
      cases hdescription : barrier.description with
      | error other =>
        rw [hdescription] at h
        cases h
        exact .inl ⟨hprint, hattends, rfl⟩
      | ok description =>
        rw [hdescription] at h
        exact .inr (hverify h)
    · rw [if_neg hattends] at h
      exact .inr (hverify h)
  · rw [if_neg hprint] at h
    exact .inr (hverify h)

lemma verify_of_installCheck (h : installCheck filter options barrier = .ok ())
    (hasked : options.verifyCoveredRegions = true) : barrier.verify barrier.covered = .ok () := by
  rw [installCheck_eq, bind_eq_ok, if_pos hasked] at h
  obtain ⟨-, -, hverify⟩ := h
  exact hverify

/-- Installing into an empty cell installs the barrier set, whatever the check says then. -/
lemma install_of_empty (filter : LogFilter) (options : Options) (barrier : Barrier)
    (h : p.cell = .empty) :
    Step.Yields (install filter options barrier) p
      (installCheck (p.logger.getD filter) options barrier)
      { p with
        cell := .filled (.create options barrier)
        logger := some (p.logger.getD filter) } := by
  let logging : Machine := { p with logger := some (p.logger.getD filter) }
  let filled : Machine := { logging with cell := .filled (.create options barrier) }
  have hcell : logging.cell = .empty := h
  have hfilled : filled.cell = .filled (.create options barrier) := rfl
  refine .bind_ok (announceLogger_yields filter p) ?_
  refine .bind_ok (fillCell_of_empty logging hcell _) ?_
  refine .bind_ok (installation_of_filled hfilled) ?_
  refine .of_not (by decide) (.bind_ok (.read filled) ?_)
  refine .bind_ok (log_ok _ _ _ _) (.bind_ok (log_ok _ _ _ _) ?_)
  rw [installCheck_eq]
  exact .check (logEager_yields _ _ _ filled) (.ite (.ofExcept _ filled) (.pure () filled))

lemma install_of_filled (filter : LogFilter) (options : Options) (barrier : Barrier)
    {i : Installation} (h : p.cell = .filled i) :
    Step.Yields (install filter options barrier) p
      (.error (.alreadyInstalled barrier.kind i.barrier.kind))
      { p with logger := some (p.logger.getD filter) } := by
  let logging : Machine := { p with logger := some (p.logger.getD filter) }
  have hcell : logging.cell = .filled i := h
  refine .bind_ok (announceLogger_yields filter p) ?_
  refine .bind_ok (fillCell_of_filled logging hcell _) ?_
  refine .bind_ok (installation_of_filled hcell) ?_
  exact .bind_error (.stop _ _)

lemma install_of_poisoned (filter : LogFilter) (options : Options) (barrier : Barrier)
    (h : p.cell = .poisoned) :
    Step.Yields (install filter options barrier) p (.error .poisonedCell)
      { p with logger := some (p.logger.getD filter) } := by
  let logging : Machine := { p with logger := some (p.logger.getD filter) }
  have hcell : logging.cell = .poisoned := h
  refine .bind_ok (announceLogger_yields filter p) ?_
  exact .bind_error (fillCell_of_poisoned logging hcell _)

lemma install_eq_ok (h : (install filter options barrier p).result = .ok ()) :
    installCheck (p.logger.getD filter) options barrier = .ok () ∧
    (install filter options barrier p).state =
      { p with
        cell := .filled (.create options barrier)
        logger := some (p.logger.getD filter) } := by
  cases hcell : p.cell with
  | empty =>
    obtain ⟨hresult, hstate⟩ := install_of_empty filter options barrier hcell
    exact ⟨hresult.symm.trans h, hstate⟩
  | filled i =>
    rw [(install_of_filled filter options barrier hcell).1] at h
    cases h
  | poisoned =>
    rw [(install_of_poisoned filter options barrier hcell).1] at h
    cases h

lemma cell_run_eq_empty {start : Machine} (hstart : start.cell = .empty) (requests : List Request)
    (hnone : (Request.run start requests).installation? = none) :
    (Request.run start requests).cell = .empty := by
  have hclean : (Request.run start requests).cell ≠ .poisoned := by
    apply CellInvariant.notPoisoned.run
    rw [hstart]
    intro hpoisoned
    cases hpoisoned
  unfold installation? at hnone
  cases hcell : (Request.run start requests).cell with
  | empty => rfl
  | poisoned => exact absurd hcell hclean
  | filled i =>
    rw [hcell] at hnone
    cases hnone

/-- An installation that stops although nothing was installed has installed its barrier set all the
same. It stops where the barrier set is printed or its covered region is verified; the barrier set
stays installed whatever is requested later, and no other can be installed. -/
theorem stopped_install_stays {start : Machine} (hstart : start.cell = .empty)
    (before : List Request) {fault : Fault}
    (hnone : (Request.run start before).installation? = none)
    (hfault : (install filter options barrier (Request.run start before)).result = .error fault) :
    let stopped := (install filter options barrier (Request.run start before)).state
    stopped.Presents (.create options barrier) ∧
    (options.printBarrierSet = true ∧ stopped.attends .info = true ∧
        barrier.description = .error fault ∨
      options.verifyCoveredRegions = true ∧ barrier.verify barrier.covered = .error fault) ∧
    ∀ later : List Request, ∃ i : Installation,
      (Request.run stopped later).Presents i ∧ i.IsOf options barrier ∧
      ∀ (filter' : LogFilter) (options' : Options) (other : Barrier),
        let next := install filter' options' other (Request.run stopped later)
        next.result = .error (.alreadyInstalled other.kind barrier.kind) ∧
        next.state.Presents i := by
  have hcell := cell_run_eq_empty hstart before hnone
  obtain ⟨hresult, hstate⟩ := install_of_empty filter options barrier hcell
  rw [hresult] at hfault
  rw [hstate]
  intro stopped
  refine ⟨presents_of_filled rfl, installCheck_eq_error hfault, ?_⟩
  intro later
  obtain ⟨i, hi, hsame⟩ := (CellInvariant.installed options barrier).run (p := stopped)
    ⟨_, rfl, rfl, rfl, rfl, rfl⟩ later
  refine ⟨i, presents_of_filled hi, hsame, ?_⟩
  intro filter' options' other next
  obtain ⟨hresult, hstate⟩ := install_of_filled filter' options' other hi
  rw [hsame.kind] at hresult
  refine ⟨hresult, presents_of_filled ?_⟩
  rw [hstate]
  exact hi

theorem stopped_install_stays_after_resize :
    let b : Barrier := (Barrier.ofVariant .modRef).setCovered ⟨⟨1⟩, 8⟩
    let stopped := (install [] {} b {}).state
    stopped.isInstalled = true ∧ stopped.barrierSet? = some b ∧
    ∃ i : Installation, (Request.run stopped [.resize ⟨⟨0x1000⟩, 0x1000⟩]).Presents i ∧
      i.IsOf {} b := by
  intro b stopped
  have hfault : (install [] {} ((Barrier.ofVariant .modRef).setCovered ⟨⟨1⟩, 8⟩) {}).result =
      .error (.misalignedCover ⟨1⟩ 8 .modRef) := rfl
  obtain ⟨hstopped, -, hlater⟩ := stopped_install_stays rfl [] rfl hfault
  obtain ⟨i, hi, hsame, -⟩ := hlater [.resize ⟨⟨0x1000⟩, 0x1000⟩]
  exact ⟨hstopped.isInstalled_eq, hstopped.barrierSet?_eq, i, hi, hsame⟩

theorem stopped_install_not_undone :
    let b : Barrier := (Barrier.ofVariant .modRef).setCovered ⟨⟨1⟩, 8⟩
    let stopped := (install [] {} b {}).state
    ({} : Machine).isInstalled = false ∧ ({} : Machine).installation? = none ∧
    (install [] {} b {}).result = .error (.misalignedCover ⟨1⟩ 8 .modRef) ∧
    stopped.isInstalled = true ∧ stopped.barrierSet? = some b ∧
    stopped.installation? = some (.create {} b) ∧
    (install [] {} (.ofVariant .cardTable) stopped).result =
      .error (.alreadyInstalled .cardTable .modRef) :=
  ⟨rfl, rfl, rfl, rfl, rfl, rfl, rfl⟩

end Machine

end WriteBarrier
