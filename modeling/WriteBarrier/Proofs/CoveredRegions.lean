import WriteBarrier.Proofs.Resizes
import WriteBarrier.Proofs.Runs

/-!
# Covered regions

What an installed barrier set covers over whole runs of requests. As long as it is resized through
the machine alone, it covers the region of the last resize that returned.
-/

namespace WriteBarrier

open Machine

namespace Request

def isResize : Request → Bool
  | resize _ => true
  | _ => false

/-- The regions of the resizes that return in a run, in their order. -/
def resizedIn : Machine → List Request → List Region := notes resized?

end Request

variable {p : Machine} {i : Installation} {r : Request}

lemma Request.isResize_of_resized? (p : Machine) (r : Request)
    (h : (r.resized? p).isSome = true) : r.isResize = true := by
  cases r with
  | resize region => rfl
  | _ => cases h

variable {options : Options} {barrier : Barrier} {returned : List Region} {filter : LogFilter}

/-- What is known of an installation of `barrier` after the resizes to `returned` have returned. -/
structure Installation.Tracks (i : Installation) (options : Options) (barrier : Barrier)
    (returned : List Region) : Prop where
  isOf : i.IsOf options barrier
  covered_eq : i.barrier.covered = returned.getLast?.getD barrier.covered
  resizes_eq : i.counters.resizes.toNat = returned.length
  bounded : i.barrier.covered.Bounded

/-- The barrier set of a machine that logs every line covers what it should. -/
structure Machine.Tracks (p : Machine) (options : Options) (barrier : Barrier)
    (returned : List Region) : Prop where
  levels : ∀ source level, p.takes source level = true
  installed : ∃ i, p.cell = .filled i ∧ i.Tracks options barrier returned

namespace Machine.Tracks

/-- What is known of a machine after the resizes so far is known after the next request, as long as
there are few resizes. -/
lemma serve (hp : p.Tracks options barrier returned) (hfollows : barrier.variant.FollowsResizes)
    (hfew : returned.length < 2 ^ 64 - 1) (hr : r.isManaged = true) :
    (r.serve p).state.Tracks options barrier (returned ++ (r.resized? p).toList) := by
  obtain ⟨i, hcell, hi⟩ := hp.installed
  have hisOf := (CellInvariant.installed options barrier).keeps_serve r p ⟨i, hcell, hi.isOf⟩
  obtain ⟨i', hcell', hisOf'⟩ := hisOf
  rcases Request.serve_managed hcell hr with ⟨hsame, hnone⟩ | ⟨region, rfl, hcheck⟩
  · obtain ⟨j, hj, hcovered, hresizes, hlogger⟩ := hsame
    cases hcell'.symm.trans hj
    rw [hnone, Option.toList_none, List.append_nil]
    refine ⟨?_, i', hcell', hisOf', hcovered.trans hi.covered_eq, ?_, ?_⟩
    · intro source level
      exact takes_of_logger hlogger (hp.levels source level)
    · rw [hresizes, hi.resizes_eq]
    · rw [hcovered]
      exact hi.bounded
  · have hvariant := hi.isOf.followsResizes hfollows
    rw [← hi.resizes_eq] at hfew
    have hreturned : (Request.resize region).resized? p = some region := by
      rw [Request.resized?, resize_result hcell hvariant hfew, hcheck]
    obtain ⟨-, hstate⟩ := resize_of_accepted hcell hvariant hcheck
    rw [Request.serve, hstate] at hcell'
    cases hcell'
    have hworded := (resizeCheck_eq_ok.mp hcheck).1 (hp.levels .machine .debug)
    rw [hreturned, Request.serve, hstate]
    refine ⟨hp.levels, _, rfl, hisOf', ?_, ?_, hworded.2⟩
    · simp [Installation.resized, Barrier.resized, Barrier.covered]
    · rw [Installation.toNat_resizes_resized hfew, hi.resizes_eq]
      simp

lemma run (hp : p.Tracks options barrier []) (hfollows : barrier.variant.FollowsResizes)
    {requests : List Request} (hmanaged : ∀ r ∈ requests, r.isManaged = true)
    (hfew : requests.countP Request.isResize < 2 ^ 64 - 1) :
    (Request.resizedIn p requests).length < 2 ^ 64 - 1 ∧
      (Request.run p requests).Tracks options barrier (Request.resizedIn p requests) := by
  have hlength : (Request.resizedIn p requests).length < 2 ^ 64 - 1 :=
    Nat.lt_of_le_of_lt (Request.length_notes_le Request.isResize_of_resized?) hfew
  -- The count of resizes wraps in the end, so a machine is followed only as long as it does not.
  have hserve : ∀ {p : Machine} {r : Request} {returned : List Region},
      (returned.length < 2 ^ 64 - 1 → p.Tracks options barrier returned) → r.isManaged = true →
      (returned ++ (r.resized? p).toList).length < 2 ^ 64 - 1 →
      (r.serve p).state.Tracks options barrier (returned ++ (r.resized? p).toList) := by
    intro p r returned hp hr hlength
    rw [List.length_append] at hlength
    have hbefore : returned.length < 2 ^ 64 - 1 := by omega
    exact (hp hbefore).serve hfollows hbefore hr
  have hrun := Request.run_notes (P := fun p returned =>
    returned.length < 2 ^ 64 - 1 → p.Tracks options barrier returned) hserve (fun _ => hp) hmanaged
  exact ⟨hlength, hrun hlength⟩

end Machine.Tracks

section Next

variable (hi : i.Tracks options barrier returned) (hcell : p.cell = .filled i)
  (hfollows : barrier.variant.FollowsResizes) (hfew : returned.length < 2 ^ 64 - 1)
  {region : Region}

include hi

lemma Installation.Tracks.accepts_iff (htakes : p.takes .machine .debug = true) :
    resizeCheck p i region = .ok () ↔
      region.Bounded ∧ (options.verifyCoveredRegions = true → ¬barrier.Rejects region) := by
  rw [resizeCheck_eq_ok, hi.isOf.options_eq, hi.isOf.verify]
  constructor
  · rintro ⟨hworded, hverified⟩
    have hregion := (hworded htakes).2
    exact ⟨hregion, fun hasked => (Barrier.verify_eq_ok_of_bounded hregion).mp (hverified hasked)⟩
  · rintro ⟨hregion, hverified⟩
    exact ⟨fun _ => ⟨hi.bounded, hregion⟩,
      fun hasked => (Barrier.verify_eq_ok_of_bounded hregion).mpr (hverified hasked)⟩

include hcell hfollows hfew

lemma Installation.Tracks.resize_result :
    (resize region p).result = resizeCheck p i region := by
  rw [← hi.resizes_eq] at hfew
  exact Machine.resize_result hcell (hi.isOf.followsResizes hfollows) hfew region

lemma Installation.Tracks.resize_stops_iff (htakes : p.takes .machine .debug = true) :
    (∃ fault, (resize region p).result = .error fault) ↔
      ¬region.Bounded ∨ options.verifyCoveredRegions = true ∧ barrier.Rejects region := by
  rw [hi.resize_result hcell hfollows hfew, exists_eq_error_iff, hi.accepts_iff htakes,
    Classical.not_and_iff_not_or_not, Classical.not_imp, Classical.not_not]

lemma Installation.Tracks.state_of_stopped {fault : Fault}
    (hstopped : (resize region p).result = .error fault) : (resize region p).state = p := by
  rw [hi.resize_result hcell hfollows hfew] at hstopped
  exact (resize_of_refused hcell hstopped).2

lemma Installation.Tracks.state_of_returned (hreturned : (resize region p).result = .ok ()) :
    ∃ i', (resize region p).state = { p with cell := .filled i' } ∧
      i'.barrier.covered = region ∧
      Step.Yields resizeCount (resize region p).state (.ok i'.counters.resizes)
        (resize region p).state ∧
      i'.counters.resizes.toNat = returned.length + 1 ∧
      i'.barrier.journal.events =
        i.barrier.journal.events ++ (barrier.variant.resizeEvents region).toArray := by
  have hvariant := hi.isOf.variant_eq
  rw [hi.resize_result hcell hfollows hfew] at hreturned
  rw [← hvariant] at hfollows
  have hstate := (resize_of_accepted hcell hfollows hreturned).2
  refine ⟨i.resized region, hstate, rfl, ?_, ?_, ?_⟩
  · rw [hstate]
    exact resizeCount_of_filled rfl
  · rw [← hi.resizes_eq] at hfew ⊢
    exact Installation.toNat_resizes_resized hfew region
  · rw [← hvariant]
    rfl

end Next

/-- An installed barrier set that is resized through the machine alone covers the region of the last
resize that returned, and the machine counts those resizes. At every state of the run, a resize
stops exactly if the region has no end, or if regions are verified and this one has an end that the
barrier set rejects; it leaves the machine as it was then, and otherwise has the barrier set cover
the region and record that it did. -/
theorem Machine.covered_region_follows_resizes {start : Machine} (requests : List Request)
    (hinstall : (install filter options barrier start).result = .ok ())
    (hlevels : ∀ source level,
      (install filter options barrier start).state.takes source level = true)
    (hfollows : barrier.variant.FollowsResizes) (hbounded : barrier.covered.Bounded)
    (hmanaged : ∀ r ∈ requests, r.isManaged = true)
    (hfew : requests.countP Request.isResize < 2 ^ 64 - 1) :
    let installed := (install filter options barrier start).state
    let p := Request.run installed requests
    let returned := Request.resizedIn installed requests
    ∃ i, p.Presents i ∧
      i.barrier.covered = returned.getLast?.getD barrier.covered ∧
      Step.Yields resizeCount p (.ok i.counters.resizes) p ∧
      i.counters.resizes.toNat = returned.length ∧
      ∀ region,
        ((∃ fault, (resize region p).result = .error fault) ↔ ¬region.Bounded ∨
          options.verifyCoveredRegions = true ∧ barrier.Rejects region) ∧
        (∀ fault, (resize region p).result = .error fault → (resize region p).state = p) ∧
        ((resize region p).result = .ok () →
          ∃ i', (resize region p).state = { p with cell := .filled i' } ∧
            i'.barrier.covered = region ∧
            Step.Yields resizeCount (resize region p).state (.ok i'.counters.resizes)
              (resize region p).state ∧
            i'.counters.resizes.toNat = returned.length + 1 ∧
            i'.barrier.journal.events =
              i.barrier.journal.events ++ (barrier.variant.resizeEvents region).toArray) := by
  intro installed p returned
  obtain ⟨-, hinstalled⟩ := install_eq_ok hinstall
  have hcell : installed.cell = .filled (.create options barrier) :=
    congrArg Machine.cell hinstalled
  have hcreated : (Installation.create options barrier).Tracks options barrier [] :=
    ⟨⟨rfl, rfl, rfl, rfl⟩, rfl, rfl, hbounded⟩
  have hstart : installed.Tracks options barrier [] := ⟨hlevels, _, hcell, hcreated⟩
  obtain ⟨hlength, htracks⟩ := hstart.run hfollows hmanaged hfew
  obtain ⟨i, hi, hafter⟩ := htracks.installed
  refine ⟨i, presents_of_filled hi, hafter.covered_eq, resizeCount_of_filled hi,
    hafter.resizes_eq, ?_⟩
  intro region
  exact ⟨hafter.resize_stops_iff hi hfollows hlength (htracks.levels .machine .debug),
    fun _ => hafter.state_of_stopped hi hfollows hlength,
    hafter.state_of_returned hi hfollows hlength⟩

theorem Machine.covered_region_after_refused_resize :
    let b : Barrier := .ofVariant .cardTable
    let heap : Region := ⟨⟨0x40000000⟩, 0x10000⟩
    let requests : List Request := [.resize heap, .resize ⟨⟨0x40000001⟩, 0x10000⟩,
      .install [] {} b, .staticPost ⟨0x40000008⟩ 2]
    let installed := (install (.uniform .always) {} b {}).state
    let p := Request.run installed requests
    ∃ b', p.barrierSet? = some b' ∧ b'.covered = heap ∧ Step.Yields resizeCount p (.ok 1) p := by
  intro b heap requests installed p
  have hlevels : ∀ source level, installed.takes source level = true := by
    intro source level
    cases source <;> cases level <;> rfl
  have hreturned : Request.resizedIn installed requests = [heap] := by decide
  obtain ⟨i, hi, hcovered, hcount, hresizes, -⟩ := covered_region_follows_resizes requests rfl
    hlevels trivial (by decide) (by decide) (by decide)
  rw [hreturned] at hcovered hresizes
  have hone : i.counters.resizes = 1 := UInt64.toNat_inj.mp hresizes
  rw [hone] at hcount
  exact ⟨i.barrier, hi.barrierSet?_eq, hcovered, hcount⟩

end WriteBarrier
