import WriteBarrier.Proofs.ServedRequests

/-!
# Static calls

A static entry point does what a direct call of the installed barrier set does with the slice in the
layout of the installation, apart from counting itself. So a run and the run in which direct calls
take the place of its static calls go through the same machines, up to the two counters, and these
hold the numbers of static calls that were accepted.
-/

namespace WriteBarrier

open Machine

namespace Request

/-- The direct call that takes the place of an accepted static call. -/
def direct (encoding : Encoding) : Request → Request
  | staticPre start count =>
    if count ≤ maxCount then call (.arrayPre ⟨start, count, encoding⟩ false)
    else staticPre start count
  | staticPost start count =>
    if count ≤ maxCount then call (.arrayPost ⟨start, count, encoding⟩)
    else staticPost start count
  | r => r

/-- An accepted static call before a bulk store. -/
def isCountedPre : Request → Bool
  | staticPre _ count => decide (count ≤ maxCount)
  | _ => false

/-- An accepted static call after a bulk store. -/
def isCountedPost : Request → Bool
  | staticPost _ count => decide (count ≤ maxCount)
  | _ => false

end Request

def Counters.uncounted (c : Counters) : Counters := { c with preCalls := 0, postCalls := 0 }

def Installation.uncounted (i : Installation) : Installation :=
  { i with counters := i.counters.uncounted }

/-- The machine as if no static call had been counted. -/
def Machine.uncounted (p : Machine) : Machine := update Installation.uncounted p

variable {p : Machine} {i : Installation}

lemma Counters.uncounted_countPre (c : Counters) : c.countPre.uncounted = c.uncounted := by
  unfold countPre
  by_cases hcounting : c.counting = true
  · rw [if_pos hcounting]
    rfl
  · rw [if_neg hcounting]

lemma Counters.uncounted_countPost (c : Counters) : c.countPost.uncounted = c.uncounted := by
  unfold countPost
  by_cases hcounting : c.counting = true
  · rw [if_pos hcounting]
    rfl
  · rw [if_neg hcounting]

lemma Installation.uncounted_told (i : Installation) (barrier : Barrier) (region : Region) :
    i.uncounted.told barrier region = (i.told barrier region).uncounted := by
  unfold told uncounted
  by_cases htaken : barrier.covered = region
  · simp only [if_pos htaken]
    rfl
  · simp only [if_neg htaken]

namespace Machine

/-- What the first step does to a machine, the second does to it as if nothing had been counted. -/
def Mirrors (p : Machine) (x y : Step Machine Unit) : Prop :=
  Step.Yields y p.uncounted (x p).result (x p).state.uncounted

lemma Mirrors.of_yields {x y : Step Machine Unit} {result : Except Fault Unit} {p' : Machine}
    (hx : Step.Yields x p result p') (hy : Step.Yields y p.uncounted result p'.uncounted) :
    p.Mirrors x y := by
  unfold Mirrors
  rw [hx.1, hx.2]
  exact hy

section Filled

variable {f : Counters → Counters} {text : Slice → String} {c : Slice → Call} {start : Address}
  {count : Word}

/-- An accepted static call mirrors the direct call, any other mirrors itself. -/
lemma staticCall_mirrors (hf : ∀ counters : Counters, (f counters).uncounted = counters.uncounted) :
    Mirrors { p with cell := .filled i } (staticCall f text c start count)
      (if count ≤ maxCount then call (c ⟨start, count, i.encoding⟩)
      else staticCall f text c start count) := by
  let filled : Machine := { p with cell := .filled i }
  let slice : Slice := ⟨start, count, i.encoding⟩
  by_cases hcount : count ≤ maxCount
  · rw [if_pos hcount]
    have hstatic : Step.Yields (staticCall f text c start count) filled _ _ :=
      staticCall_of_accepted rfl (staticSlice_eq_ok hcount)
    have hcall := call_of_filled (p := { p with cell := .filled i.uncounted }) rfl (c slice)
    have hcounted := congrArg
      (fun counters : Counters => { p with
        cell := .filled { i with
          barrier := (i.barrier.call p.memory (c slice)).1
          counters } }) (hf i.counters)
    exact .of_yields hstatic ⟨hcall.1, hcall.2.trans hcounted.symm⟩
  · rw [if_neg hcount]
    exact .of_yields (staticCall_of_refused rfl (staticSlice_eq_error hcount))
      (staticCall_of_refused rfl (staticSlice_eq_error hcount))

end Filled

lemma serve_mirrors_direct (hcell : p.cell = .filled i) (r : Request) :
    p.Mirrors r.serve (r.direct i.encoding).serve := by
  obtain ⟨other, rfl⟩ : ∃ other : Machine, p = { other with cell := .filled i } :=
    ⟨p, by rw [← hcell]⟩
  let p : Machine := { other with cell := .filled i }
  let q : Machine := { other with cell := .filled i.uncounted }
  have hp : p.cell = .filled i := rfl
  have hq : q.cell = .filled i.uncounted := rfl
  cases r with
  | install filter options barrier =>
    have hinstall := install_of_filled filter options barrier hq
    exact .of_yields (install_of_filled filter options barrier hp) hinstall
  | resize region =>
    cases hcheck : resizeCheck p i region with
    | error fault =>
      have hresize := resize_of_refused hq hcheck
      exact .of_yields (resize_of_refused hp hcheck) hresize
    | ok =>
      have hresize := resize_of_checked hq hcheck
      simp only [Installation.uncounted_told] at hresize
      exact .of_yields (resize_of_checked hp hcheck) hresize
  | call c =>
    have hcall := call_of_filled hq c
    exact .of_yields (call_of_filled hp c) hcall
  | staticPre start count =>
    rw [Request.direct, apply_ite Request.serve]
    exact staticCall_mirrors Counters.uncounted_countPre
  | staticPost start count =>
    rw [Request.direct, apply_ite Request.serve]
    exact staticCall_mirrors Counters.uncounted_countPost
  | store slot object =>
    cases hstore : slot.store object other.memory with
    | error fault => exact .of_yields (store_of_error hstore) (store_of_error hstore)
    | ok memory => exact .of_yields (store_of_ok hstore) (store_of_ok hstore)

/-- A run and the run of direct calls in its place differ in what has been counted alone. -/
lemma run_direct (hcell : p.cell = .filled i) (requests : List Request) :
    Request.run p.uncounted (requests.map (·.direct i.encoding)) =
      (Request.run p requests).uncounted := by
  induction requests generalizing p i with
  | nil => rfl
  | cons r requests ih =>
    -- No request changes the layout of the installation, so the rest is replaced in the same way.
    obtain ⟨⟨resizes, hserved⟩, -⟩ := Request.serve_of_filled hcell r
    have hmirrors := serve_mirrors_direct hcell r
    have hrest := ih hserved
    calc Request.run p.uncounted ((r :: requests).map (·.direct i.encoding))
        = Request.run ((r.direct i.encoding).serve p.uncounted).state
            (requests.map (·.direct i.encoding)) := rfl
      _ = Request.run (r.serve p).state.uncounted (requests.map (·.direct i.encoding)) := by
        rw [hmirrors.2]
      _ = (Request.run p (r :: requests)).uncounted := hrest

end Machine

/-- If calls of the static entry points are counted, `pres` and `posts` of them have been; none
otherwise. The counters are words. -/
structure Counters.Tally (c : Counters) (counting : Bool) (pres posts : Nat) : Prop where
  counting_eq : c.counting = counting
  preCalls_eq : c.preCalls = if counting then .ofNat pres else 0
  postCalls_eq : c.postCalls = if counting then .ofNat posts else 0

namespace Counters.Tally

variable {c : Counters} {counting : Bool} {pres posts : Nat}

lemma countPre (h : c.Tally counting pres posts) : c.countPre.Tally counting (pres + 1) posts := by
  obtain ⟨rfl, hpre, hpost⟩ := h
  unfold Counters.countPre
  by_cases hcounting : c.counting = true
  · rw [if_pos hcounting] at hpre ⊢
    have hnext : c.preCalls + 1 = .ofNat (pres + 1) := by rw [hpre, UInt64.ofNat_add]; rfl
    exact ⟨rfl, by rw [if_pos hcounting, hnext], hpost⟩
  · rw [if_neg hcounting] at hpre ⊢
    exact ⟨rfl, by rw [if_neg hcounting, hpre], hpost⟩

lemma countPost (h : c.Tally counting pres posts) :
    c.countPost.Tally counting pres (posts + 1) := by
  obtain ⟨rfl, hpre, hpost⟩ := h
  unfold Counters.countPost
  by_cases hcounting : c.counting = true
  · rw [if_pos hcounting] at hpost ⊢
    have hnext : c.postCalls + 1 = .ofNat (posts + 1) := by rw [hpost, UInt64.ofNat_add]; rfl
    exact ⟨rfl, hpre, by rw [if_pos hcounting, hnext]⟩
  · rw [if_neg hcounting] at hpost ⊢
    exact ⟨rfl, hpre, by rw [if_neg hcounting, hpost]⟩

lemma counted (h : c.Tally counting pres posts) (r : Request) :
    (r.counted c).Tally counting (pres + if r.isCountedPre then 1 else 0)
      (posts + if r.isCountedPost then 1 else 0) := by
  cases r with
  | staticPre start count =>
    rw [Request.counted, Request.isCountedPre]
    by_cases hcount : count ≤ maxCount
    · rw [if_pos hcount, if_pos (decide_eq_true hcount)]
      exact h.countPre
    · have hrefused : ¬decide (count ≤ maxCount) = true := by rwa [decide_eq_true_iff]
      rw [if_neg hcount, if_neg hrefused]
      exact h
  | staticPost start count =>
    rw [Request.counted, Request.isCountedPost]
    by_cases hcount : count ≤ maxCount
    · rw [if_pos hcount, if_pos (decide_eq_true hcount)]
      exact h.countPost
    · have hrefused : ¬decide (count ≤ maxCount) = true := by rwa [decide_eq_true_iff]
      rw [if_neg hcount, if_neg hrefused]
      exact h
  | _ => exact h

lemma run (hcell : p.cell = .filled i) (h : i.counters.Tally counting pres posts)
    (requests : List Request) : ∃ i', (Request.run p requests).cell = .filled i' ∧
      i'.encoding = i.encoding ∧
      i'.counters.Tally counting (pres + requests.countP Request.isCountedPre)
        (posts + requests.countP Request.isCountedPost) := by
  induction requests generalizing p i pres posts with
  | nil => exact ⟨i, hcell, rfl, h⟩
  | cons r requests ih =>
    obtain ⟨⟨resizes, hserved⟩, -⟩ := Request.serve_of_filled hcell r
    obtain ⟨hcounting, hpre, hpost⟩ := h.counted r
    have htally : (i.served p r resizes).counters.Tally counting _ _ := ⟨hcounting, hpre, hpost⟩
    rw [List.countP_cons, List.countP_cons, Nat.add_comm (requests.countP _),
      Nat.add_comm (requests.countP _), ← Nat.add_assoc, ← Nat.add_assoc]
    have hrest := ih hserved htally
    exact hrest

end Counters.Tally

/-- From an installation on, a run and the run in which direct calls of the installed barrier set
take the place of the accepted static calls give the same at every request and leave the same
barrier set and memory. A static call that is not accepted stops and changes nothing. The accepted
static calls are counted, in words, if the options of the installation ask for it. -/
theorem Machine.static_calls_match_direct_calls {start : Machine} {filter : LogFilter}
    {options : Options} {barrier : Barrier}
    (hinstall : (install filter options barrier start).result = .ok ())
    (requests : List Request) :
    let installed := (install filter options barrier start).state
    let encoding := options.referenceEncoding
    let p := Request.run installed requests
    let p' := Request.run installed (requests.map (·.direct encoding))
    (∃ b, p.barrierSet? = some b ∧ p'.barrierSet? = some b) ∧
    p'.memory = p.memory ∧
    Step.Yields referenceEncoding p (.ok encoding) p ∧
    Step.Yields referenceEncoding p' (.ok encoding) p' ∧
    (∀ r : Request, ((r.direct encoding).serve p').result = (r.serve p).result) ∧
    (∀ first count, maxCount < count →
      Step.Yields (staticPre first count) p (.error (.countTooLarge count)) p ∧
      Step.Yields (staticPost first count) p (.error (.countTooLarge count)) p) ∧
    Step.Yields staticCallCounts p
      (.ok (if options.countStaticCalls then
        (.ofNat (requests.countP Request.isCountedPre),
          .ofNat (requests.countP Request.isCountedPost))
      else (0, 0))) p := by
  intro installed encoding p p'
  let created := Installation.create options barrier
  have hinstalled : installed = _ := (install_eq_ok hinstall).2
  have hcell : installed.cell = .filled created := congrArg Machine.cell hinstalled
  have hfresh : installed.uncounted = installed := by
    rw [hinstalled]
    rfl
  have hnone : created.counters.Tally options.countStaticCalls 0 0 := by
    refine ⟨rfl, ?_, ?_⟩ <;> cases options.countStaticCalls <;> rfl
  obtain ⟨i, hi, hkept, -, hpre, hpost⟩ := hnone.run hcell requests
  have hencoding : i.encoding = encoding := hkept
  rw [Nat.zero_add] at hpre hpost
  have hp' : p' = p.uncounted := by
    have hrun := run_direct hcell requests
    rwa [hfresh] at hrun
  have hi' : p' = { p with cell := .filled i.uncounted } := hp'.trans (update_of_filled hi _)
  have hcell' : p'.cell = .filled i.uncounted := by rw [hi']
  have hset' := barrierSet?_of_filled hcell'
  have hencoding' := referenceEncoding_of_filled hcell'
  refine ⟨⟨i.barrier, barrierSet?_of_filled hi, hset'⟩, ?_, ?_, ?_, ?_, ?_, ?_⟩
  · rw [hi']
  · rw [← hencoding]
    exact referenceEncoding_of_filled hi
  · rw [← hencoding]
    exact hencoding'
  · intro r
    have hmirrors := serve_mirrors_direct hi r
    rw [hencoding] at hmirrors
    rw [hp']
    exact hmirrors.1
  · intro first count hcount
    have hslice : staticSlice i first count = .error (.countTooLarge count) :=
      staticSlice_eq_error (UInt64.not_le.mpr hcount)
    exact ⟨staticCall_of_refused hi hslice, staticCall_of_refused hi hslice⟩
  · have hcounts := staticCallCounts_of_filled hi
    rw [hpre, hpost] at hcounts
    cases hcounting : options.countStaticCalls with
    | _ => rwa [hcounting] at hcounts

theorem Machine.static_calls_match_direct_calls_of_snapshot :
    let b : Barrier := .ofVariant .snapshot
    let options : Options := { countStaticCalls := true }
    let requests : List Request := [.staticPre ⟨0x40000000⟩ 2, .staticPost ⟨0xfffffffffffffff8⟩ 2,
      .staticPre ⟨0x40000000⟩ 0x8000000000000000, .call (.fieldPost ⟨0x40000000⟩ none false)]
    let installed := (install [] options b {}).state
    let p := Request.run installed requests
    let p' := Request.run installed (requests.map (·.direct .full))
    (∃ b, p.barrierSet? = some b ∧ p'.barrierSet? = some b) ∧
    (call (.arrayPost ⟨⟨0xfffffffffffffff8⟩, 2, .full⟩) p').result =
      (staticPost ⟨0xfffffffffffffff8⟩ 2 p).result ∧
    Step.Yields staticCallCounts p (.ok (1, 1)) p := by
  intro b options requests installed p p'
  have hreturned : (install [] options b {}).result = .ok () := rfl
  obtain ⟨hset, -, -, -, hresult, -, hcounts⟩ := static_calls_match_direct_calls hreturned requests
  exact ⟨hset, hresult (.staticPost ⟨0xfffffffffffffff8⟩ 2), hcounts⟩

end WriteBarrier
