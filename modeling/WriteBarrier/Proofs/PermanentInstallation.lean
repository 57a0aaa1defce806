import WriteBarrier.Proofs.ServedRequests

/-!
# The permanent installation

Until the first installation of a run, whatever needs a barrier set stops. The barrier set that is
installed first and the layout that its options ask for are what every access gives from then on,
and no later installation changes anything.
-/

namespace WriteBarrier

open Machine

def Request.isInstall : Request → Bool
  | install _ _ _ => true
  | _ => false

/-- What is said to a barrier set that is installed too late. -/
def Kind.refusal (rejected installed : Kind) : String :=
  s!"cannot install barrier set {rejected.name}: barrier set {installed.name} is already installed"

/-- There is no barrier set to be had from the machine. -/
structure Machine.Bare (p : Machine) : Prop where
  isInstalled_eq : p.isInstalled = false
  barrierSet?_eq : p.barrierSet? = none
  barrierSet_stops : Step.Yields barrierSet p (.error .notInstalled) p
  encoding_stops : Step.Yields referenceEncoding p (.error .notInstalled) p
  counts_stop : Step.Yields staticCallCounts p (.error .notInstalled) p
  resizes_stop : Step.Yields resizeCount p (.error .notInstalled) p
  dump_stops : Step.Yields dump p (.error .notInstalled) p
  requests_stop : ∀ r : Request, r.needsBarrier = true →
    Step.Yields r.serve p (.error .notInstalled) p

/-- What the machine gives is `barrier`, installed with `options`, after calls of it. Any further
installation is refused and leaves the machine as it is. -/
structure Machine.Settled (p : Machine) (options : Options) (barrier : Barrier)
    (calls : List (Memory × Call)) : Prop where
  isInstalled_eq : p.isInstalled = true
  installed : ∃ counters, p.installation? =
    some ⟨barrier.after calls, options, options.referenceEncoding, counters⟩
  barrierSet?_eq : p.barrierSet? = some (barrier.after calls)
  barrierSet_yields : Step.Yields barrierSet p (.ok (barrier.after calls)) p
  encoding_yields : Step.Yields referenceEncoding p (.ok options.referenceEncoding) p
  refuses : ∀ (filter : LogFilter) (others : Options) (other : Barrier), ∃ fault,
    Step.Yields (install filter others other) p (.error fault) p ∧
    fault.message? = some (other.kind.refusal barrier.kind)

variable {p : Machine} {requests : List Request}

lemma Request.callsIn_cons (p : Machine) (r : Request) (requests : List Request) :
    callsIn p (r :: requests) =
      (r.called? p).toList ++ callsIn (r.serve p).state requests := rfl

lemma Machine.installation?_of_empty (h : p.cell = .empty) : p.installation? = none := by
  rw [installation?, h]
  rfl

lemma Machine.bare_of_empty (h : p.cell = .empty) : p.Bare :=
  have hnone := installation?_of_empty h
  have hlookup := installation_of_none hnone
  { isInstalled_eq := by rw [isInstalled, h]; rfl
    barrierSet?_eq := by rw [barrierSet?, hnone]; rfl
    barrierSet_stops := .bind_error hlookup
    encoding_stops := .bind_error hlookup
    counts_stop := .bind_error hlookup
    resizes_stop := .bind_error hlookup
    dump_stops := .bind_error hlookup
    requests_stop := fun _ hr => Request.serve_of_none hnone hr }

/-- Only an installation fills the cell of a machine. -/
lemma Machine.cell_run_of_no_install (h : p.cell = .empty)
    (hrequests : ∀ r ∈ requests, r.isInstall = false) : (Request.run p requests).cell = .empty := by
  refine Request.run_keeps (P := fun p => p.cell = .empty) ?_ h hrequests
  intro p r hp hr
  have hnone := installation?_of_empty hp
  cases r with
  | install filter options barrier => cases hr
  | store slot object =>
    have hkeeps : (store slot object).Keeps fun p => p.cell = .empty :=
      .bind .read fun p => .bind (.ofExcept _) fun memory => .modify fun p hp => hp
    exact hkeeps p hp
  | _ =>
    rw [(Request.serve_of_none hnone rfl).2]
    exact hp

/-- A machine on which something is installed and that logs is the same after a refused
installation. -/
lemma Machine.install_refused {i : Installation} (hcell : p.cell = .filled i)
    (hlogging : p.logger.isSome) (filter : LogFilter) (options : Options) (barrier : Barrier) :
    Step.Yields (install filter options barrier) p
      (.error (.alreadyInstalled barrier.kind i.barrier.kind)) p := by
  have hlogger : some (p.logger.getD filter) = p.logger := by
    obtain ⟨set, hset⟩ := Option.isSome_iff_exists.mp hlogging
    rw [hset]
    rfl
  have hinstall := install_of_filled filter options barrier hcell
  rwa [hlogger] at hinstall

lemma Machine.Made.settled {options : Options} {barrier : Barrier} {calls : List (Memory × Call)}
    (h : p.Made (.create options barrier) calls) : p.Settled options barrier calls := by
  obtain ⟨⟨counters, hcell⟩, hlogging⟩ := h
  refine ⟨isInstalled_of_filled hcell, ⟨counters, installation?_of_filled hcell⟩, barrierSet?_of_filled hcell,
    barrierSet_of_filled hcell, referenceEncoding_of_filled hcell, ?_⟩
  intro filter others other
  refine ⟨_, install_refused hcell hlogging filter others other, ?_⟩
  change (Fault.alreadyInstalled other.kind (barrier.after calls).kind).message? = _
  rw [Barrier.kind_after]
  rfl

/-- The first installation of a run that returns is permanent: no request before it finds a barrier
set, and at every state after it the machine gives the barrier set of that installation, brought
forward by the calls that requests have made, with the layout of its options. -/
theorem Machine.first_installation_permanent {start : Machine} (hstart : start.cell = .empty)
    {before : List Request} (hbefore : ∀ r ∈ before, r.isInstall = false) :
    (∀ soon, soon <+: before → (Request.run start soon).Bare) ∧
    ∀ (filter : LogFilter) (options : Options) (barrier : Barrier),
      (install filter options barrier (Request.run start before)).result = .ok () →
      ∀ later : List Request,
        let installed := (install filter options barrier (Request.run start before)).state
        (Request.run installed later).Settled options barrier
          (Request.callsIn installed later) := by
  refine ⟨?_, ?_⟩
  · intro soon hsoon
    exact bare_of_empty (cell_run_of_no_install hstart fun r hr => hbefore r (hsoon.subset hr))
  · intro filter options barrier hreturned later installed
    have hinstalled := (install_eq_ok hreturned).2
    have hmade : installed.Made (.create options barrier) [] := by
      refine ⟨⟨(Installation.create options barrier).counters, ?_⟩, ?_⟩
      · exact congrArg Machine.cell hinstalled
      · exact (congrArg (·.logger.isSome) hinstalled).trans rfl
    exact (hmade.run later).settled

theorem Machine.first_installation_permanent_of_snapshot :
    let before : List Request := [.staticPre ⟨0x40000000⟩ 2]
    let b : Barrier := .ofVariant .snapshot
    let other : Request := .install [] { compressedOops := true } (.ofVariant .cardTable)
    let fieldPost : Call := .fieldPost ⟨0x40000000⟩ none false
    let installed := (install [] {} b (Request.run {} before)).state
    let p := Request.run installed [other, .call fieldPost]
    (Request.run {} before).barrierSet? = none ∧
    p.barrierSet? = some (b.after [(installed.memory, fieldPost)]) ∧
    Step.Yields referenceEncoding p (.ok .full) p := by
  intro before b other fieldPost installed p
  have hbefore : ∀ r ∈ before, r.isInstall = false := by decide
  have hempty : ({} : Machine).cell = .empty := rfl
  obtain ⟨hbare, hpermanent⟩ := first_installation_permanent hempty hbefore
  have hsettled := hpermanent [] {} b rfl [other, .call fieldPost]
  obtain ⟨fault, hrefused, -⟩ := (hpermanent [] {} b rfl []).refuses []
    { compressedOops := true } (.ofVariant .cardTable)
  have hother : (other.serve installed).state = installed := hrefused.2
  have hcalls : Request.callsIn installed [other, .call fieldPost] =
      [(installed.memory, fieldPost)] := by
    rw [Request.callsIn_cons, hother]
    rfl
  have hset := hsettled.barrierSet?_eq
  rw [hcalls] at hset
  exact ⟨(hbare before List.prefix_rfl).barrierSet?_eq, hset, hsettled.encoding_yields⟩

end WriteBarrier
