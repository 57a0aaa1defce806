import WriteBarrier.Proofs.Resizes
import WriteBarrier.Proofs.Runs

/-!
# Bulk stores inside the covered region

A machine that verifies regions only ever has its barrier set cover regions which the barrier set
accepts. If those end at word boundaries, rounding a slice inside the covered region to words does
not lead out of it.
-/

namespace WriteBarrier

lemma Barrier.isWordAligned_of_isAligned {b : Barrier} {a : Address}
    (hvariant : ∀ policy, b.variant ≠ .custom policy) (h : b.isAligned a = true) :
    a.isWordAligned = true := by
  have hpow : ∃ k, 3 ≤ k ∧ b.variant.granularity.toNat = 2 ^ k := by
    cases hv : b.variant with
    | modRef => exact ⟨3, by omega, rfl⟩
    | custom policy => exact absurd hv (hvariant policy)
    | _ => exact ⟨9, by omega, rfl⟩
  obtain ⟨k, hk, hgranularity⟩ := hpow
  have hdvd := (Word.isAligned_iff_dvd hgranularity).mp h
  rw [Address.isWordAligned_iff, ← Nat.dvd_iff_mod_eq_zero]
  exact Nat.dvd_trans (Nat.pow_dvd_pow 2 hk) hdvd

section Slice

variable {b : Barrier} {heap : Region} {s : Slice}

/-- A region that is accepted and holds the bytes of some slots has its ends at word boundaries, if
only those are accepted. -/
lemma Barrier.ends_of_verify (hwords : ∀ a, b.isAligned a = true → a.isWordAligned = true)
    (hverify : b.verify heap = .ok ()) (hsize : heap.size.toNat ≠ 0) :
    heap.start.isWordAligned = true ∧ ∃ stop, heap.stop = .ok stop ∧ stop.isWordAligned = true := by
  have hnonempty : heap.isEmpty = false := by
    rw [Region.isEmpty, beq_eq_false_iff_ne, ne_eq, ← UInt64.toNat_inj]
    exact hsize
  rcases verify_eq_ok.mp hverify with hempty | ⟨hstart, stop, hstop, hend⟩
  · rw [hnonempty] at hempty
    cases hempty
  · exact ⟨hwords _ hstart, stop, hstop, hwords _ hend⟩

lemma Call.writtenRegion?_inside (hwords : ∀ a, b.isAligned a = true → a.isWordAligned = true)
    (hverify : b.verify heap = .ok ()) (hnonempty : s.isEmpty = false)
    (hplace : s.encoding.isNarrow = true ∨ s.start.isWordAligned = true)
    (hlow : heap.start ≤ s.start) (hhigh : s.bound ≤ heap.start.toNat + heap.size.toNat) :
    ∃ r stop, writtenRegion? s = .ok (some r) ∧ heap.contains r = .ok true ∧ r.stop = .ok stop ∧
      r.start.isWordAligned = true ∧ stop.isWordAligned = true ∧ ∀ a, s.Spans a → a ∈ r := by
  have hlow' := Address.le_iff_toNat.mp hlow
  have hlength := Slice.start_lt_bound hnonempty
  obtain ⟨hstart, stop, hstop, hend⟩ := b.ends_of_verify hwords hverify (by omega)
  have hsum := Region.stop_eq_ok.mp hstop
  have hlt := stop.toNat_lt
  rw [Address.isWordAligned_iff] at hstart hend
  -- The last address at a word boundary is 8 below the end of the address space.
  have hbound : s.bound ≤ 2 ^ 64 - 8 := by omega
  obtain ⟨r, hr⟩ := exists_writtenRegion? hnonempty hplace hbound
  obtain ⟨-, -, hcovering⟩ := writtenRegion?_eq_some.mp hr
  obtain ⟨-, hdown, hrounded⟩ := Slice.ends_of_coveringRegion hcovering
  obtain ⟨up, hup, haligned, haligned', hcovers⟩ := writtenRegion?_covers_iff hr
  have hheap : heap.bound = stop.toNat := hsum
  have hinside : heap.contains r = .ok true :=
    (Region.contains_eq_true_iff (Region.bounded_of_stop hstop)).mpr (.inr ⟨by omega, by omega⟩)
  exact ⟨r, up, hr, hinside, hup, haligned, haligned', (hcovers.mpr hbound).1⟩

end Slice

lemma Variant.exists_actions_arrayPost (v : Variant) (r : Region) :
    ∃ events : List Event, v.actions (.arrayPost r) = .ok (events.map .record) := by
  cases v with
  | modRef => exact ⟨[], rfl⟩
  | plainSnapshot => exact ⟨[], rfl⟩
  | _ => exact ⟨[.arrayPost r], rfl⟩

/-- No variant stops at what it is told of a bulk store. -/
lemma Barrier.result_runHook_arrayPost (b : Barrier) (m : Memory) (r : Region) :
    (b.runHook m (.arrayPost r)).2 = .ok () := by
  obtain ⟨events, hactions⟩ := b.variant.exists_actions_arrayPost r
  rw [runHook, hactions, runAnswer, Journal.perform_record]

lemma Barrier.call_arrayPost_of_written {b : Barrier} {m : Memory} {s : Slice} {r : Region}
    (hwritten : Call.writtenRegion? s = .ok (some r)) :
    b.call m (.arrayPost s) = b.runHook m (.arrayPost r) := by
  rw [call, Call.deliver_arrayPost, hwritten]

variable {p : Machine} {i : Installation} {r : Request} {filter : LogFilter} {options : Options}
  {barrier : Barrier}

/-- What is installed is `barrier`, and it covers a region that it accepts. -/
def Machine.CoversAccepted (p : Machine) (options : Options) (barrier : Barrier) : Prop :=
  ∃ i : Installation, p.cell = .filled i ∧ i.IsOf options barrier ∧
    barrier.verify i.barrier.covered = .ok ()

/-- Only a resize that is accepted changes what is covered. -/
lemma Machine.CoversAccepted.serve (hp : p.CoversAccepted options barrier)
    (hasked : options.verifyCoveredRegions = true) (hfollows : barrier.variant.FollowsResizes)
    (hr : r.isManaged = true) : (r.serve p).state.CoversAccepted options barrier := by
  obtain ⟨i, hcell, hisOf, haccepted⟩ := hp
  obtain ⟨i', hcell', hisOf'⟩ :=
    (CellInvariant.installed options barrier).keeps_serve r p ⟨i, hcell, hisOf⟩
  refine ⟨i', hcell', hisOf', ?_⟩
  rcases Request.serve_managed hcell hr with ⟨⟨j, hj, hcovered, -⟩, -⟩ | ⟨region, rfl, hcheck⟩
  · cases hcell'.symm.trans hj
    rw [hcovered]
    exact haccepted
  · have hvariant := hisOf.followsResizes hfollows
    have hverify := (resizeCheck_eq_ok.mp hcheck).2 (by rw [hisOf.options_eq, hasked])
    rw [Request.serve, (resize_of_accepted hcell hvariant hcheck).2] at hcell'
    cases hcell'
    rwa [hisOf.verify] at hverify

/-- If regions are verified and only word boundaries are accepted, a bulk store inside the covered
region is handed over inside it, at every state of every run in which the covered region is resized
through the machine alone. The call does not stop; what it does is to call the hook once, with a
region of whole words inside the covered region that holds every byte of every slot. -/
theorem Machine.bulk_store_inside_covered_region {start : Machine} (requests : List Request)
    (hinstall : (install filter options barrier start).result = .ok ())
    (hasked : options.verifyCoveredRegions = true) (hfollows : barrier.variant.FollowsResizes)
    (hwords : ∀ a, barrier.isAligned a = true → a.isWordAligned = true)
    (hmanaged : ∀ r ∈ requests, r.isManaged = true) :
    let p := Request.run (install filter options barrier start).state requests
    ∃ i, p.Presents i ∧ ∀ s : Slice, s.isEmpty = false →
      (s.encoding.isNarrow = true ∨ s.start.isWordAligned = true) →
      i.barrier.covered.start ≤ s.start →
      s.bound ≤ i.barrier.covered.start.toNat + i.barrier.covered.size.toNat →
      ∃ r stop,
        Step.Yields (call (.arrayPost s)) p (.ok ())
          { p with
            cell := .filled { i with barrier := (i.barrier.runHook p.memory (.arrayPost r)).1 } } ∧
        i.barrier.call p.memory (.arrayPost s) = i.barrier.runHook p.memory (.arrayPost r) ∧
        (∀ {σ : Type} (answer : σ → Hook → σ × Except Fault Unit) (x : σ),
          (Call.arrayPost s).deliver answer x = answer x (.arrayPost r)) ∧
        i.barrier.covered.contains r = .ok true ∧ r.stop = .ok stop ∧
        r.start.isWordAligned = true ∧ stop.isWordAligned = true ∧ ∀ a, s.Spans a → a ∈ r := by
  intro p
  obtain ⟨hcheck, hinstalled⟩ := install_eq_ok hinstall
  have hcell : (install filter options barrier start).state.cell =
      .filled (.create options barrier) := congrArg Machine.cell hinstalled
  have hstart : (install filter options barrier start).state.CoversAccepted options barrier :=
    ⟨_, hcell, ⟨rfl, rfl, rfl, rfl⟩, verify_of_installCheck hcheck hasked⟩
  obtain ⟨i, hi, -, haccepted⟩ := Request.run_keeps (P := (·.CoversAccepted options barrier))
    (fun hp hr => hp.serve hasked hfollows hr) hstart hmanaged
  refine ⟨i, presents_of_filled hi, ?_⟩
  intro s hnonempty hplace hlow hhigh
  obtain ⟨r, stop, hwritten, hinside⟩ :=
    Call.writtenRegion?_inside hwords haccepted hnonempty hplace hlow hhigh
  have hhook : i.barrier.call p.memory (.arrayPost s) = i.barrier.runHook p.memory (.arrayPost r) :=
    Barrier.call_arrayPost_of_written hwritten
  refine ⟨r, stop, ?_, hhook, ?_, hinside⟩
  · have hcall := call_of_filled hi (.arrayPost s)
    rwa [hhook, Barrier.result_runHook_arrayPost] at hcall
  · intro σ answer x
    rw [Call.deliver_arrayPost, hwritten]

theorem Machine.narrow_store_inside_resized_region :
    let b : Barrier := .ofVariant .cardTable
    let heap : Region := ⟨⟨0x40000000⟩, 0x10000⟩
    let s : Slice := ⟨⟨0x40000004⟩, 3, .narrow .zeroBased⟩
    let requests : List Request := [.resize heap, .resize ⟨⟨0x40000001⟩, 0x10000⟩]
    let p := Request.run (install [] {} b {}).state requests
    p.barrierSet?.map (·.covered) = some heap ∧
    ∃ r, (call (.arrayPost s) p).result = .ok () ∧
      (call (.arrayPost s) p).state.barrierSet?.map (·.journal.events) =
        some #[.resize heap, .arrayPost r] ∧
      heap.contains r = .ok true ∧ ∀ a, s.Spans a → a ∈ r := by
  intro b heap s requests p
  have hwords : ∀ a, b.isAligned a = true → a.isWordAligned = true := by
    intro a
    exact Barrier.isWordAligned_of_isAligned (fun _ => Variant.noConfusion)
  have hinstall : (install [] {} b {}).result = .ok () := rfl
  obtain ⟨i, hi, hstore⟩ :=
    bulk_store_inside_covered_region requests hinstall rfl trivial hwords (by decide)
  have hset : i.barrier = b.resized heap := by
    have hrun : p.barrierSet? = some (b.resized heap) := by decide
    exact Option.some.inj (hi.barrierSet?_eq.symm.trans hrun)
  rw [hset] at hstore
  obtain ⟨r, -, ⟨hresult, hstate⟩, -, -, hinside, -, -, -, hspans⟩ :=
    hstore s rfl (.inl rfl) (by decide) (by decide)
  refine ⟨?_, r, hresult, ?_, hinside, hspans⟩
  · rw [hi.barrierSet?_eq, hset]
    rfl
  · rw [hstate]
    rfl

end WriteBarrier
