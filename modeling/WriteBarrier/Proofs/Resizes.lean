import Mathlib.Tactic.ByContra
import WriteBarrier.Proofs.CoveringRegions
import WriteBarrier.Proofs.Installation

/-!
# Resizes

What a resize does to a barrier set and to the machine on which it is installed. Only a resize
changes the covered region. A machine accepts the new region or refuses it; if it refuses the
region, it stays as it was.
-/

namespace WriteBarrier

namespace Variant

/-- The variant takes over the regions that it is told to cover. -/
def FollowsResizes : Variant → Prop
  | custom policy => policy.followsResizes = true
  | _ => True

/-- What a variant records of a resize. -/
def resizeEvents : Variant → Region → List Event
  | plainSnapshot, _ => []
  | _, region => [.resize region]

variable {v : Variant} {hook : Hook} {actions : List Action}

lemma actions_resize (hv : v.FollowsResizes) (region : Region) :
    v.actions (.resize region) = .ok (.cover region :: (v.resizeEvents region).map .record) := by
  cases v with
  | custom policy =>
    have hfollows : policy.followsResizes = true := hv
    simp [Variant.actions, customActions, resizeEvents, hfollows]
  | _ => rfl

lemma ne_cover_of_snapshotActions (hactions : snapshotActions hook = .ok actions)
    (hhook : ∀ region, hook ≠ .resize region) {action : Action} (haction : action ∈ actions)
    (region : Region) : action ≠ .cover region := by
  rintro rfl
  rcases mem_snapshotActions hactions haction with ⟨slot, hload⟩ | ⟨event, hrecord⟩ | htable
  · simp [Action.remembering] at hload
  · cases hrecord
  · cases hook with
    | resize region => exact hhook region rfl
    | _ => simp [cardTableActions, rootActions] at htable

lemma ne_cover_of_mem_actions (hactions : v.actions hook = .ok actions)
    (hhook : ∀ region, hook ≠ .resize region) {action : Action} (haction : action ∈ actions)
    (region : Region) : action ≠ .cover region := by
  cases v with
  | snapshot => exact ne_cover_of_snapshotActions hactions hhook haction region
  | loggingSnapshot =>
    by_cases hpost : ∃ field new release, hook = .fieldPost field new release
    · obtain ⟨field, new, release, rfl⟩ := hpost
      cases hactions
      rintro rfl
      simp [cardTableActions] at haction
    · have hnone : ∀ field new release, hook ≠ .fieldPost field new release :=
        fun field new release h => hpost ⟨field, new, release, h⟩
      rw [actions_loggingSnapshot hnone] at hactions
      exact ne_cover_of_snapshotActions hactions hhook haction region
  | markingTable range =>
    cases hactions
    rintro rfl
    cases hook with
    | resize region => exact hhook region rfl
    | fieldPost field new release =>
      rw [markingActions] at haction
      cases hword : range.position? field <;> simp [hword] at haction
    | _ => simp [markingActions, rootActions] at haction
  | _ =>
    cases hactions
    rintro rfl
    cases hook with
    | resize region => exact hhook region rfl
    | _ => simp [rootActions, cardTableActions, plainActions, customActions] at haction

end Variant

section Journal

variable {m : Memory} {j j' : Journal} {held held' : Option ObjectRef} {actions : List Action}

lemma Action.covered_run {action : Action} (hcover : ∀ region, action ≠ .cover region)
    (hrun : action.run m j held = .ok (j', held')) : j'.covered = j.covered := by
  cases action with
  | cover region => exact absurd rfl (hcover region)
  | load slot =>
    obtain ⟨o, -, hj⟩ := bind_eq_ok.mp hrun
    cases hj
    rfl
  | remember => cases held <;> cases hrun <;> rfl
  | _ =>
    cases hrun
    rfl

lemma Journal.covered_perform (hcover : ∀ action ∈ actions, ∀ region, action ≠ .cover region) :
    (j.perform m held actions).1.covered = j.covered := by
  apply perform_keeps (P := fun j' => j'.covered = j.covered) _ rfl
  intro action haction j₁ j₂ held held' hj hrun
  exact (Action.covered_run (hcover action haction) hrun).trans hj

lemma Journal.perform_record (events : List Event) :
    j.perform m held (events.map .record) =
      ({ j with events := j.events ++ events.toArray }, .ok ()) := by
  induction events generalizing j with
  | nil => simp [perform_nil]
  | cons event events ih =>
    rw [List.map_cons, perform_cons_ok rfl, ih]
    simp

end Journal

namespace Barrier

variable {b : Barrier} {m : Memory} {c : Call} {region : Region}

lemma covered_call (hc : ∀ region, c ≠ .resize region) :
    (b.call m c).1.covered = b.covered := by
  cases hanswer : b.variant.answer c with
  | error fault => rw [call_of_answer_error hanswer]
  | ok actions =>
    rw [call_of_answer_ok hanswer]
    apply Journal.covered_perform
    rcases Variant.answer_eq_ok.mp hanswer with ⟨-, rfl⟩ | ⟨hook, hhook, hactions⟩
    · simp
    · have hne : ∀ region, hook ≠ .resize region := by
        rintro region rfl
        cases c with
        | resize region => exact hc region rfl
        | arrayPost slice =>
          obtain ⟨r, hr⟩ := Call.hook_of_arrayPost hhook
          cases hr
        | _ => cases hhook
      exact fun action => Variant.ne_cover_of_mem_actions hactions hne

/-- The barrier set once it covers a region that it was told to cover. -/
def resized (b : Barrier) (region : Region) : Barrier :=
  { b with
    journal := { b.journal with
      covered := region
      events := b.journal.events ++ (b.variant.resizeEvents region).toArray } }

lemma call_resize (hfollows : b.variant.FollowsResizes) (region : Region) :
    b.call m (.resize region) = (b.resized region, .ok ()) := by
  have hanswer : b.variant.answer (.resize region) = _ := Variant.actions_resize hfollows region
  rw [call_of_answer_ok hanswer, Journal.perform_cons_ok rfl, Journal.perform_record]
  rfl

/-- No variant stops when it is told to cover a region, whether or not it takes the region over. -/
lemma result_call_resize (b : Barrier) (m : Memory) (region : Region) :
    (b.call m (.resize region)).2 = .ok () := by
  obtain ⟨variant, tags, journal⟩ := b
  cases variant with
  | custom policy =>
    obtain ⟨granularity, followsResizes, printsFully⟩ := policy
    cases followsResizes <;> rfl
  | _ => rfl

/-- An end of the region does not satisfy the granularity of the barrier set. -/
def Rejects (b : Barrier) (region : Region) : Prop :=
  region.isEmpty = false ∧ (b.isAligned region.start = false ∨
    ∃ stop, region.stop = .ok stop ∧ b.isAligned stop = false)

lemma verify_eq_ok : b.verify region = .ok () ↔ region.isEmpty = true ∨
    b.isAligned region.start = true ∧
      ∃ stop, region.stop = .ok stop ∧ b.isAligned stop = true := by
  unfold verify
  by_cases hempty : region.isEmpty = true
  · simp [hempty]
  · by_cases hstart : b.isAligned region.start = true
    · rw [if_neg hempty, if_pos hstart, bind_eq_ok]
      simp only [hempty, hstart, true_and, Bool.false_eq_true, false_or]
      apply exists_congr
      intro stop
      by_cases hstop : b.isAligned stop = true
      · simp [hstop, pure, Except.pure]
      · simp [hstop, throw, throwThe, MonadExceptOf.throw]
    · simp [hempty, hstart]

lemma verify_eq_ok_of_bounded (hregion : region.Bounded) :
    b.verify region = .ok () ↔ ¬b.Rejects region := by
  obtain ⟨stop, hstop, -⟩ := Region.exists_stop hregion
  rw [verify_eq_ok, Rejects, hstop]
  cases region.isEmpty <;> cases b.isAligned region.start <;> simp

end Barrier

lemma Region.exists_text_iff {region : Region} :
    (∃ text, region.text = .ok text) ↔ region.Bounded := by
  unfold Bounded
  simp only [text_eq_ok, Fault.extent?]
  split
  · rename_i hregion
    simp only [Option.some.injEq, exists_eq', hregion]
  · rename_i hregion
    simp only [reduceCtorEq, exists_false, hregion]

lemma Installation.IsOf.followsResizes {i : Installation} {options : Options} {barrier : Barrier}
    (h : i.IsOf options barrier) (hfollows : barrier.variant.FollowsResizes) :
    i.barrier.variant.FollowsResizes := by
  rw [h.variant_eq]
  exact hfollows

/-- The installation after a resize to the region was accepted. -/
def Installation.resized (i : Installation) (region : Region) : Installation :=
  { i with barrier := i.barrier.resized region, counters := i.counters.countResize }

/-- The installation after its barrier set was told of a region and became `barrier`. The resize
counts if the region was taken over. -/
def Installation.told (i : Installation) (barrier : Barrier) (region : Region) : Installation :=
  { i with
    barrier
    counters := if barrier.covered = region then i.counters.countResize else i.counters }

/-- What a resize reports after the barrier set was told of the region and became `barrier`. -/
def Installation.toldCheck (i : Installation) (barrier : Barrier) (region : Region) :
    Except Fault Unit :=
  if barrier.covered = region then Word.sum i.counters.resizes 1 >>= fun _ => .ok ()
  else .error (.coverNotTaken barrier.covered.start barrier.covered.size region.start region.size)

namespace Machine

/-- What a resize does before the barrier set hears of it: the report is put into words if it is
taken, and the region is verified if asked for. -/
def resizeCheck (p : Machine) (i : Installation) (region : Region) : Except Fault Unit :=
  (if p.takes .machine .debug then
    resizeReport i.barrier.kind i.barrier.covered region >>= fun _ => .ok ()
  else .ok ()) >>= fun _ =>
    if i.options.verifyCoveredRegions then i.barrier.verify region else .ok ()

variable {p : Machine} {i : Installation} {region : Region}

lemma exists_resizeReport_iff {kind : Kind} {old new : Region} :
    (∃ text, resizeReport kind old new = .ok text) ↔ old.Bounded ∧ new.Bounded := by
  simp only [resizeReport, bind_eq_ok, ← Region.exists_text_iff, pure, Except.pure]
  constructor
  · rintro ⟨-, old, hold, new, hnew, -⟩
    exact ⟨⟨old, hold⟩, new, hnew⟩
  · rintro ⟨⟨old, hold⟩, new, hnew⟩
    exact ⟨_, old, hold, new, hnew, rfl⟩

lemma resizeCheck_eq_ok : resizeCheck p i region = .ok () ↔
    (p.takes .machine .debug = true → i.barrier.covered.Bounded ∧ region.Bounded) ∧
    (i.options.verifyCoveredRegions = true → i.barrier.verify region = .ok ()) := by
  have hpassed : ∀ {c : Prop} [Decidable c] {x : Except Fault Unit},
      (if c then x else .ok ()) = .ok () ↔ (c → x = .ok ()) := by
    intro c _ x
    by_cases hc : c
    · simp [hc]
    · simp [hc]
  have hreported : (resizeReport i.barrier.kind i.barrier.covered region >>= fun _ => .ok ()) =
      .ok () ↔ i.barrier.covered.Bounded ∧ region.Bounded := by
    simp only [bind_eq_ok, and_true, exists_resizeReport_iff]
  rw [resizeCheck, bind_eq_ok]
  simp only [hpassed, hreported]
  exact ⟨fun ⟨_, h⟩ => h, fun h => ⟨(), h⟩⟩

/-- A machine that refuses a region stays as it was. -/
lemma resize_of_refused (hcell : p.cell = .filled i) {fault : Fault}
    (hcheck : resizeCheck p i region = .error fault) :
    Step.Yields (resize region) p (.error fault) p := by
  have hlog := log_yields .machine .debug
    (resizeReport i.barrier.kind i.barrier.covered region) p
  refine .bind_ok (installation_of_filled hcell) ?_
  unfold resizeCheck at hcheck
  generalize (if p.takes .machine .debug then
    resizeReport i.barrier.kind i.barrier.covered region >>= fun _ => .ok ()
    else .ok () : Except Fault Unit) = reported at hlog hcheck
  cases reported with
  | error other =>
    cases hcheck
    exact .bind_error hlog
  | ok =>
    by_cases hasked : i.options.verifyCoveredRegions = true
    · have hverify : i.barrier.verify region = .error fault := (if_pos hasked).symm.trans hcheck
      exact .bind_ok hlog (.of_check_error hasked (.ofExcept_eq hverify p))
    · cases (if_neg hasked).symm.trans hcheck

lemma resize_of_checked (hcell : p.cell = .filled i) (hcheck : resizeCheck p i region = .ok ()) :
    let barrier := (i.barrier.call p.memory (.resize region)).1
    Step.Yields (resize region) p (i.toldCheck barrier region)
      { p with cell := .filled (i.told barrier region) } := by
  have hlog := log_yields .machine .debug
    (resizeReport i.barrier.kind i.barrier.covered region) p
  obtain ⟨hreported, hverified⟩ := bind_eq_ok.mp hcheck
  rw [hverified.1] at hlog
  have hcall := call_of_filled hcell (.resize region)
  rw [Barrier.result_call_resize] at hcall
  intro barrier
  let told : Machine := { p with cell := .filled { i with barrier } }
  have htold : told.cell = .filled { i with barrier } := rfl
  refine .bind_ok (installation_of_filled hcell) (.bind_ok hlog (.of_check_ok ?_ ?_))
  · intro hasked
    exact .ofExcept_eq ((if_pos hasked).symm.trans hverified.2) p
  -- The installation is looked up again, to see whether the barrier set has taken the region over.
  refine .bind_ok hcall (.bind_ok (installation_of_filled htold) ?_)
  unfold Installation.told Installation.toldCheck
  by_cases htaken : barrier.covered = region
  · simp only [if_pos htaken]
    refine .of_not (not_not.mpr htaken) (.bind_ok (.modify _ told) ?_)
    rw [update_of_filled htold]
    cases Word.sum i.counters.resizes 1 with
    | error fault => exact .bind_error (.ofExcept _ _)
    | ok count => exact .bind_ok (.ofExcept _ _) (log_ok _ _ _ _)
  · simp only [if_neg htaken]
    exact .of_check_error htaken (.stop _ told)

/-- A machine that accepts a region has its barrier set cover it. The report on the number of
resizes is made afterwards and fails when the number no longer fits in a word. -/
lemma resize_of_accepted (hcell : p.cell = .filled i)
    (hfollows : i.barrier.variant.FollowsResizes) (hcheck : resizeCheck p i region = .ok ()) :
    Step.Yields (resize region) p (Word.sum i.counters.resizes 1 >>= fun _ => .ok ())
      { p with cell := .filled (i.resized region) } := by
  have hchecked := resize_of_checked hcell hcheck
  have htaken : (i.barrier.resized region).covered = region := rfl
  simp only [Barrier.call_resize hfollows, Installation.told, Installation.toldCheck,
    if_pos htaken] at hchecked
  exact hchecked

/-- A resize returns exactly if the machine accepts it, as long as the number of resizes fits in a
word. -/
lemma resize_result (hcell : p.cell = .filled i)
    (hfollows : i.barrier.variant.FollowsResizes)
    (hfew : i.counters.resizes.toNat < 2 ^ 64 - 1) (region : Region) :
    (resize region p).result = resizeCheck p i region := by
  cases hcheck : resizeCheck p i region with
  | error fault => exact (resize_of_refused hcell hcheck).1
  | ok =>
    have hsum : Word.sum i.counters.resizes 1 = .ok (i.counters.resizes + 1) := by
      apply if_pos
      rw [UInt64.toNat_one]
      omega
    rw [(resize_of_accepted hcell hfollows hcheck).1, hsum]
    rfl

end Machine

lemma Installation.toNat_resizes_resized {i : Installation}
    (hfew : i.counters.resizes.toNat < 2 ^ 64 - 1) (region : Region) :
    (i.resized region).counters.resizes.toNat = i.counters.resizes.toNat + 1 := by
  change (i.counters.resizes + 1).toNat = _
  rw [UInt64.toNat_add, UInt64.toNat_one]
  omega

section Requests

open Machine

variable {p : Machine} {i : Installation} {r : Request}

namespace Request

/-- The request does not have the installed barrier set cover a region behind the machine's back. -/
def isManaged : Request → Bool
  | call (.resize _) => false
  | _ => true

/-- The region of a resize that returns. -/
def resized? (p : Machine) : Request → Option Region
  | resize region =>
    match (Machine.resize region p).result with
    | .ok _ => some region
    | .error _ => none
  | _ => none

end Request

/-- What the installed barrier set covers and how often it was resized is as in `i`, and the logger
is that of `p`. -/
def Machine.Undisturbed (p : Machine) (i : Installation) (p' : Machine) : Prop :=
  ∃ i', p'.cell = .filled i' ∧ i'.barrier.covered = i.barrier.covered ∧
    i'.counters.resizes = i.counters.resizes ∧ (p.logger.isSome → p'.logger = p.logger)

lemma Machine.Undisturbed.refl (hcell : p.cell = .filled i) : p.Undisturbed i p :=
  ⟨i, hcell, rfl, rfl, fun _ => rfl⟩

lemma undisturbed_staticCall (hcell : p.cell = .filled i) {f : Counters → Counters}
    (hf : (f i.counters).resizes = i.counters.resizes) (text : Slice → String) {c : Slice → Call}
    (hc : ∀ slice region, c slice ≠ .resize region) (start : Address) (count : Word) :
    p.Undisturbed i (staticCall f text c start count p).state := by
  cases hslice : staticSlice i start count with
  | error fault =>
    rw [(staticCall_of_refused hcell hslice).2]
    exact .refl hcell
  | ok slice =>
    rw [(staticCall_of_accepted hcell hslice).2]
    exact ⟨_, rfl, Barrier.covered_call (hc slice), hf, fun _ => rfl⟩

/-- A request leaves what the installed barrier set covers alone, or is a resize that the machine
accepts. -/
lemma Request.serve_managed (hcell : p.cell = .filled i) (hr : r.isManaged = true) :
    p.Undisturbed i (r.serve p).state ∧ r.resized? p = none ∨
      ∃ region, r = .resize region ∧ resizeCheck p i region = .ok () := by
  cases r with
  | install filter options barrier =>
    refine .inl ⟨?_, rfl⟩
    rw [serve, (install_of_filled filter options barrier hcell).2]
    refine ⟨i, hcell, rfl, rfl, ?_⟩
    cases p.logger with
    | none => intro h; cases h
    | some filter => exact fun _ => rfl
  | resize region =>
    cases hcheck : resizeCheck p i region with
    | error fault =>
      obtain ⟨hresult, hstate⟩ := resize_of_refused hcell hcheck
      rw [serve, hstate, resized?, hresult]
      exact .inl ⟨.refl hcell, rfl⟩
    | ok => exact .inr ⟨region, rfl, hcheck⟩
  | call c =>
    refine .inl ⟨?_, rfl⟩
    rw [serve, (call_of_filled hcell c).2]
    refine ⟨_, rfl, Barrier.covered_call ?_, rfl, fun _ => rfl⟩
    rintro region rfl
    cases hr
  | staticPre start count =>
    refine .inl ⟨?_, rfl⟩
    rw [serve, staticPre_eq]
    refine undisturbed_staticCall hcell ?_ _ (fun _ _ => Call.noConfusion) start count
    unfold Counters.countPre
    split <;> rfl
  | staticPost start count =>
    refine .inl ⟨?_, rfl⟩
    rw [serve, staticPost_eq]
    refine undisturbed_staticCall hcell ?_ _ (fun _ _ => Call.noConfusion) start count
    unfold Counters.countPost
    split <;> rfl
  | store slot object =>
    refine .inl ⟨?_, rfl⟩
    rw [serve]
    cases hstore : slot.store object p.memory with
    | error fault =>
      rw [(store_of_error hstore).2]
      exact .refl hcell
    | ok memory =>
      rw [(store_of_ok hstore).2]
      exact ⟨i, hcell, rfl, rfl, fun _ => rfl⟩

end Requests

end WriteBarrier
