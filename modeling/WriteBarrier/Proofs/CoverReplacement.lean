import WriteBarrier.Proofs.Resizes
import WriteBarrier.Proofs.Runs

/-!
# Replacing the covered region

Whether a machine lets its barrier set cover an acceptable region depends on the region that is
covered so far: the report of a resize shows both. A covered region without an end cannot be shown,
so that a machine which takes the report keeps such a region for good.
-/

namespace WriteBarrier

/-- The barrier set accepts the ends of the region, or the region is empty. -/
def Barrier.Accepts (b : Barrier) (region : Region) : Prop :=
  region.isEmpty = true ∨ b.isAligned region.start = true ∧
    ∃ stop, region.stop = .ok stop ∧ b.isAligned stop = true

lemma Barrier.Accepts.bounded {b : Barrier} {region : Region} (h : b.Accepts region) :
    region.Bounded := by
  rcases h with hempty | ⟨-, stop, hstop, -⟩
  · exact Region.bounded_of_isEmpty hempty
  · exact Region.bounded_of_stop hstop

lemma Region.text_of_not_bounded {region : Region} (h : ¬region.Bounded) :
    region.text = .error .sumOverflow := by
  have hsum : Word.sum region.start.val region.size = .error .sumOverflow := if_neg h
  simp only [text, stop, Address.above, hsum, Functor.map, Except.map, bind, Except.bind]

namespace Machine

variable {p : Machine} {i : Installation} {region : Region} {requests : List Request}

lemma resizeCheck_of_unbounded_cover (htakes : p.takes .machine .debug = true)
    (hcover : ¬i.barrier.covered.Bounded) : resizeCheck p i region = .error .sumOverflow := by
  have hreport : resizeReport i.barrier.kind i.barrier.covered region = .error .sumOverflow := by
    rw [resizeReport, Region.text_of_not_bounded hcover]
    rfl
  rw [resizeCheck, if_pos htakes, hreport]
  rfl

lemma resizeCheck_eq_ok_of_accepts (hregion : i.barrier.Accepts region) :
    resizeCheck p i region = .ok () ↔
      (p.takes .machine .debug = true → i.barrier.covered.Bounded) := by
  rw [resizeCheck_eq_ok]
  constructor
  · intro h htakes
    exact (h.1 htakes).1
  · intro hcover
    have hverified := Barrier.verify_eq_ok.mpr hregion
    exact ⟨fun htakes => ⟨hcover htakes, hregion.bounded⟩, fun _ => hverified⟩

/-- A machine that reports resizes and covers a region without an end. -/
def Stuck (p : Machine) (cover : Region) : Prop :=
  p.takes .machine .debug = true ∧ ∃ i, p.cell = .filled i ∧ i.barrier.covered = cover

/-- No request replaces a covered region without an end, as long as resizes are reported. -/
lemma Stuck.serve {cover : Region} (hcover : ¬cover.Bounded) {r : Request} (hp : p.Stuck cover)
    (hr : r.isManaged = true) : (r.serve p).state.Stuck cover := by
  obtain ⟨htakes, i, hcell, rfl⟩ := hp
  rcases Request.serve_managed hcell hr with ⟨⟨i', hcell', hcovered, -, hlogger⟩, -⟩ | hresize
  · exact ⟨takes_of_logger hlogger htakes, i', hcell', hcovered⟩
  · obtain ⟨region, rfl, hcheck⟩ := hresize
    rw [resizeCheck_of_unbounded_cover htakes hcover] at hcheck
    cases hcheck

/-- A resize to a region that the barrier set accepts returns exactly if the region covered so far
has an end or is not reported, as long as the number of resizes fits in a word. Then the barrier set
covers the region and the resize is counted. A reported region without an end stays covered whatever
is requested later. -/
theorem resize_returns_iff_cover_reported (hcell : p.cell = .filled i)
    (hfollows : i.barrier.variant.FollowsResizes) (hregion : i.barrier.Accepts region) :
    ((resize region p).result = .ok () ↔
      (p.takes .machine .debug = true → i.barrier.covered.Bounded) ∧
        i.counters.resizes.toNat < 2 ^ 64 - 1) ∧
    ((p.takes .machine .debug = true → i.barrier.covered.Bounded) →
      ∃ i', (resize region p).state.installation? = some i' ∧ i'.barrier.covered = region ∧
        i'.counters.resizes = i.counters.resizes + 1) ∧
    (p.takes .machine .debug = true → ¬i.barrier.covered.Bounded →
      (resize region p).result = .error .sumOverflow ∧
      ∀ requests : List Request, (∀ r ∈ requests, r.isManaged = true) →
        ∃ i', (Request.run p (.resize region :: requests)).installation? = some i' ∧
          i'.barrier.covered = i.barrier.covered) := by
  refine ⟨?_, ?_, ?_⟩
  · rw [← resizeCheck_eq_ok_of_accepts hregion]
    cases hcheck : resizeCheck p i region with
    | error fault => simp [(resize_of_refused hcell hcheck).1]
    | ok =>
      have hlt := i.counters.resizes.toNat_lt
      rw [(resize_of_accepted hcell hfollows hcheck).1, bind_eq_ok]
      simp only [and_true, true_and, Word.sum_eq_ok, UInt64.toNat_one]
      constructor
      · rintro ⟨count, hcount⟩
        have hlast := count.toNat_lt
        omega
      · intro hfew
        have hlt : i.counters.resizes.toNat + 1 < 2 ^ 64 := by omega
        obtain ⟨count, hcount⟩ := Word.exists_toNat_eq hlt
        exact ⟨count, hcount.symm⟩
  · intro hcover
    have hcheck := (resizeCheck_eq_ok_of_accepts hregion).mpr hcover
    rw [(resize_of_accepted hcell hfollows hcheck).2]
    exact ⟨i.resized region, rfl, rfl, rfl⟩
  · intro htakes hcover
    refine ⟨(resize_of_refused hcell (resizeCheck_of_unbounded_cover htakes hcover)).1, ?_⟩
    intro requests hmanaged
    have hall : ∀ r ∈ Request.resize region :: requests, r.isManaged = true := by
      rintro r (_ | ⟨_, hr⟩)
      · rfl
      · exact hmanaged r hr
    obtain ⟨-, i', hcell', hcovered⟩ := Request.run_keeps (P := fun p => p.Stuck i.barrier.covered)
      (Stuck.serve hcover) ⟨htakes, i, hcell, rfl⟩ hall
    exact ⟨i', installation?_of_filled hcell', hcovered⟩

theorem resize_returns_iff_cover_reported_of_small_cover :
    let heap : Region := ⟨⟨0x40000000⟩, 0x1000⟩
    let b : Barrier := (Barrier.ofVariant .snapshot).setCovered ⟨⟨1⟩, 8⟩
    let installed := (install (.uniform .always) {} b {}).state
    (resize heap installed).result = .ok () := by
  intro heap b installed
  have hcell : installed.cell = .filled (.create {} b) := rfl
  have hregion : b.Accepts heap :=
    .inr ⟨by decide, ⟨0x40001000⟩, Region.stop_eq_ok.mpr (by decide), by decide⟩
  have hreturns := (resize_returns_iff_cover_reported hcell trivial hregion).1
  exact hreturns.mpr ⟨fun _ => by decide, by decide⟩

theorem endless_cover_not_replaced :
    let heap : Region := ⟨⟨0x40000000⟩, 0x1000⟩
    let endless : Region := ⟨⟨0x10⟩, 0xffffffffffffffff⟩
    let p := Request.run {} [.install (.uniform .always) {} (.ofVariant .modRef),
      .call (.resize endless)]
    let b := (Barrier.ofVariant .modRef).resized endless
    p.takes .machine .debug = true ∧
    p.installation? = some { Installation.create {} (.ofVariant .modRef) with barrier := b } ∧
    b.verify heap = .ok () ∧
    (resize heap p).result = .error .sumOverflow := ⟨rfl, rfl, rfl, rfl⟩

end Machine

end WriteBarrier
