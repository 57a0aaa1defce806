import Mathlib.Algebra.Order.BigOperators.Group.Finset
import Mathlib.Tactic.Convert
import WriteBarrier.Proofs.ConcurrentCalls
import WriteBarrier.Proofs.CoveringRegions

/-!
# Post-writes of many threads

Threads that call one barrier set after their stores. Whatever the order in which the actions of
their calls are done, every call is counted, marked and recorded once, and the records of each
thread keep the order of its calls.
-/

namespace WriteBarrier

namespace Call

/-- The call follows a store of one reference or of several. -/
def FollowsStore : Call → Prop
  | fieldPost _ _ _ => True
  | arrayPost _ => True
  | _ => False

def isScalar : Call → Bool
  | fieldPost _ _ _ => true
  | _ => false

/-- The record of a call after a bulk store, unless nothing was stored. -/
def bulkRecord? : Call → Option (Except Fault Event)
  | arrayPost slice =>
    if slice.isEmpty then none else some (Event.arrayPost <$> slice.coveringRegion)
  | _ => none

/-- The record of a call after any store, unless nothing was stored. -/
def storeRecord? : Call → Option (Except Fault Event)
  | fieldPost field new release => some (.ok (.fieldPost field new release))
  | c => c.bulkRecord?

def markedWords (range : MarkedRange) : Call → List Word
  | fieldPost field _ _ => (range.position? field).toList
  | _ => []

end Call

lemma MarkedRange.position?_eq_some {range : MarkedRange} {field : Address} {word : Word} :
    range.position? field = some word ↔ range.start.toNat ≤ field.toNat ∧
      (field.toNat - range.start.toNat) / 8 = word.toNat ∧ word.toNat < range.words.toNat := by
  unfold position?
  split
  · rename_i hstart
    have hword : ((field.val - range.start.val) / Word.bytes).toNat =
        (field.toNat - range.start.toNat) / 8 := by
      rw [UInt64.toNat_div, UInt64.toNat_sub_of_le _ _ hstart]
      rfl
    rw [Option.ite_none_right_eq_some, Option.some.injEq, ← UInt64.toNat_inj,
      UInt64.lt_iff_toNat_lt, hword]
    constructor
    · rintro ⟨hlt, heq⟩
      exact ⟨Address.le_iff_toNat.mp hstart, heq, heq ▸ hlt⟩
    · rintro ⟨-, heq, hlt⟩
      exact ⟨heq ▸ hlt, heq⟩
  · rename_i hstart
    rw [Address.le_iff_toNat] at hstart
    simp [hstart]

/-- Two fields are in the same word of a range. -/
lemma MarkedRange.exists_position?_iff {range : MarkedRange} {f g : Address} :
    (∃ word, range.position? f = some word ∧ range.position? g = some word) ↔
      range.start.toNat ≤ f.toNat ∧ (f.toNat - range.start.toNat) / 8 < range.words.toNat ∧
      range.start.toNat ≤ g.toNat ∧
      (g.toNat - range.start.toNat) / 8 = (f.toNat - range.start.toNat) / 8 := by
  simp only [position?_eq_some]
  constructor
  · rintro ⟨word, ⟨hf, hword, hin⟩, hg, hword', -⟩
    exact ⟨hf, hword ▸ hin, hg, hword'.trans hword.symm⟩
  · rintro ⟨hf, hin, hg, hsame⟩
    obtain ⟨word, hword⟩ := Word.exists_toNat_eq (hin.trans range.words.toNat_lt)
    exact ⟨word, ⟨hf, hword.symm, hword ▸ hin⟩, hg, hsame.trans hword.symm, hword ▸ hin⟩

lemma Barrier.isMarked_iff {b : Barrier} {range : MarkedRange} {f : Address}
    (hb : b.variant = .markingTable range) :
    b.isMarked f = true ↔ ∃ word, range.position? f = some word ∧ word ∈ b.journal.marks := by
  unfold isMarked
  rw [hb]
  dsimp only
  cases range.position? f with
  | none => simp
  | some word => simp

lemma Call.mem_markedWords {range : MarkedRange} {word : Word} {calls : List Call} :
    word ∈ calls.flatMap (markedWords range) ↔
      ∃ g new release, .fieldPost g new release ∈ calls ∧ range.position? g = some word := by
  rw [List.mem_flatMap]
  constructor
  · rintro ⟨c, hc, hword⟩
    cases c with
    | fieldPost g new release => exact ⟨g, new, release, hc, Option.mem_toList.mp hword⟩
    | _ => cases hword
  · rintro ⟨g, new, release, hc, hword⟩
    exact ⟨_, hc, Option.mem_toList.mpr hword⟩

section Answers

variable {v : Variant} {c : Call} {actions : List Action}

/-- A variant that records bulk stores does no more at the call after one. -/
lemma Variant.exists_bulk_record {slice : Slice}
    (hrecords : ∀ r, v.actions (.arrayPost r) = .ok [.record (.arrayPost r)])
    (hanswer : v.answer (.arrayPost slice) = .ok actions) :
    ∃ records : List Event, (Call.arrayPost slice).bulkRecord?.toList = records.map .ok ∧
      actions = records.map .record := by
  rw [answer, Call.dispatch_arrayPost] at hanswer
  cases hwritten : Call.writtenRegion? slice with
  | error fault =>
    rw [hwritten] at hanswer
    cases hanswer
  | ok region? =>
    rw [hwritten] at hanswer
    cases region? with
    | none =>
      cases hanswer
      have hempty := Call.writtenRegion?_eq_none.mp hwritten
      refine ⟨[], ?_, rfl⟩
      rw [Call.bulkRecord?, if_pos hempty]
      rfl
    | some r =>
      cases (hrecords r).symm.trans hanswer
      obtain ⟨hnonempty, -, hcovering⟩ := Call.writtenRegion?_eq_some.mp hwritten
      refine ⟨[.arrayPost r], ?_, rfl⟩
      rw [Call.bulkRecord?, hcovering, hnonempty]
      rfl

lemma Variant.markingTable_answer {range : MarkedRange} (hc : c.FollowsStore)
    (hanswer : (markingTable range).answer c = .ok actions) :
    (∀ action ∈ actions, ∀ slot, action ≠ .load slot) ∧
    actions.count .countWrite = (if c.isScalar then 1 else 0) ∧
    actions.flatMap Action.markedWords = c.markedWords range ∧
    c.bulkRecord?.toList = (actions.flatMap Action.recordedEvents).map .ok := by
  cases c with
  | fieldPost field new release =>
    have hactions : actions = markingActions range (.fieldPost field new release) := by
      cases hanswer
      rfl
    rw [hactions]
    dsimp only [markingActions, Call.markedWords]
    cases range.position? field with
    | none => exact ⟨by simp, rfl, rfl, rfl⟩
    | some word => exact ⟨by simp, rfl, rfl, rfl⟩
  | arrayPost slice =>
    obtain ⟨records, hrecords, rfl⟩ := exists_bulk_record (fun _ => rfl) hanswer
    rw [hrecords]
    simp [Call.isScalar, Call.markedWords, Action.markedWords, Action.recordedEvents,
      List.flatMap_map, List.count_eq_zero]
  | _ => cases hc

lemma Variant.loggingSnapshot_answer (hc : c.FollowsStore)
    (hanswer : loggingSnapshot.answer c = .ok actions) :
    (∀ action ∈ actions, ∀ slot, action ≠ .load slot) ∧
    actions.flatMap Action.loggedCards = c.loggedCards ∧
    c.storeRecord?.toList = (actions.flatMap Action.recordedEvents).map .ok := by
  cases c with
  | fieldPost field new release =>
    cases hanswer
    exact ⟨by simp [cardTableActions], rfl, rfl⟩
  | arrayPost slice =>
    obtain ⟨records, hrecords, rfl⟩ := exists_bulk_record (fun _ => rfl) hanswer
    have hsame : (Call.arrayPost slice).storeRecord? = (Call.arrayPost slice).bulkRecord? := rfl
    rw [hsame, hrecords]
    simp [Call.loggedCards, Action.loggedCards, Action.recordedEvents, List.flatMap_map]
  | _ => cases hc

end Answers

section Collecting

variable {v : Variant} {calls : List Call} {answers : List (List Action)}

lemma flatMap_answers {γ : Type} {f : Call → List γ} {g : Action → List γ}
    (hanswers : calls.map v.answer = answers.map .ok)
    (hcall : ∀ c ∈ calls, ∀ actions, v.answer c = .ok actions → actions.flatMap g = f c) :
    answers.flatten.flatMap g = calls.flatMap f := by
  induction calls generalizing answers with
  | nil =>
    rw [List.map_nil, eq_comm, List.map_eq_nil_iff] at hanswers
    rw [hanswers]
    rfl
  | cons c calls ih =>
    obtain ⟨actions, answers, rfl, hfirst, hrest⟩ := List.map_eq_cons_iff.mp hanswers.symm
    rw [List.flatten_cons, List.flatMap_append, List.flatMap_cons,
      hcall c (.head _) actions hfirst.symm, ih hrest.symm fun c hc => hcall c (.tail _ hc)]

lemma count_answers {p : Call → Bool} {action : Action}
    (hanswers : calls.map v.answer = answers.map .ok)
    (hcall : ∀ c ∈ calls, ∀ actions, v.answer c = .ok actions →
      actions.count action = if p c then 1 else 0) :
    answers.flatten.count action = calls.countP p := by
  induction calls generalizing answers with
  | nil =>
    rw [List.map_nil, eq_comm, List.map_eq_nil_iff] at hanswers
    rw [hanswers]
    rfl
  | cons c calls ih =>
    obtain ⟨actions, answers, rfl, hfirst, hrest⟩ := List.map_eq_cons_iff.mp hanswers.symm
    rw [List.flatten_cons, List.count_append, hcall c (.head _) actions hfirst.symm,
      ih hrest.symm fun c hc => hcall c (.tail _ hc), List.countP_cons, Nat.add_comm]

end Collecting

namespace SharedHeap

variable {ι : Type} [DecidableEq ι] {e : Encoding} {m : Memory} {calls : ι → List Call}
  {h : SharedHeap ι}

lemma ReachesBy.exists_records {v : Variant} {record? : Call → Option (Except Fault Event)}
    {answers : ι → List (List Action)} {merged : List Action}
    (hanswers : ∀ t, (calls t).map v.answer = (answers t).map .ok)
    (hmerged : Interleaves (fun t => (answers t).flatten) merged)
    (hnotes : h.barrier.journal.Notes merged)
    (hcall : ∀ t, ∀ c ∈ calls t, ∀ actions, v.answer c = .ok actions →
      (record? c).toList = (actions.flatMap Action.recordedEvents).map .ok) :
    ∃ records : ι → List Event, (∀ t, (calls t).filterMap record? = (records t).map .ok) ∧
      Interleaves records h.barrier.journal.events.toList := by
  refine ⟨fun t => (answers t).flatten.flatMap Action.recordedEvents, ?_, ?_⟩
  · intro t
    rw [List.map_flatMap, List.filterMap_eq_flatMap_toList]
    apply Eq.symm
    apply flatMap_answers (hanswers t)
    intro c hc actions hanswer
    rw [hcall t c hc actions hanswer, List.map_flatMap]
  · rw [hnotes.events]
    exact hmerged.flatMap _

lemma ReachesBy.markingTable_notes [Fintype ι] {range : MarkedRange}
    (hrun : ReachesBy e (start (.ofVariant (.markingTable range)) m) calls h) (hidle : h.Idle)
    (hposts : ∀ t, ∀ c ∈ calls t, c.FollowsStore) :
    h.barrier.journal.postWrites = .ofNat (∑ t, (calls t).countP Call.isScalar) ∧
    (∀ f, h.barrier.isMarked f = true ↔ ∃ word, range.position? f = some word ∧
      ∃ t, word ∈ (calls t).flatMap (Call.markedWords range)) ∧
    ∃ records : ι → List Event, (∀ t, (calls t).filterMap Call.bulkRecord? = (records t).map .ok) ∧
      Interleaves records h.barrier.journal.events.toList := by
  obtain ⟨hvariant, answers, merged, hanswers, hmerged, hnotes⟩ := hrun.exists_merged
    (fun t c hc _ h => (Variant.markingTable_answer (hposts t c hc) h).1) hidle
  have hcount : ∀ t, (answers t).flatten.count .countWrite = (calls t).countP Call.isScalar :=
    fun t => count_answers (hanswers t)
      fun c hc _ h => (Variant.markingTable_answer (hposts t c hc) h).2.1
  have hmarks : ∀ t, (answers t).flatten.flatMap Action.markedWords =
      (calls t).flatMap (Call.markedWords range) :=
    fun t => flatMap_answers (hanswers t)
      fun c hc _ h => (Variant.markingTable_answer (hposts t c hc) h).2.2.1
  refine ⟨?_, ?_, ?_⟩
  · rw [hnotes.postWrites, hmerged.count_eq_sum]
    simp only [hcount]
  · have hmem : ∀ word, word ∈ h.barrier.journal.marks ↔
        ∃ t, word ∈ (calls t).flatMap (Call.markedWords range) := by
      intro word
      rw [← List.mem_reverse, hnotes.marks, (hmerged.flatMap Action.markedWords).mem_iff]
      simp only [hmarks]
    intro f
    rw [Barrier.isMarked_iff hvariant]
    simp only [hmem]
  · exact exists_records hanswers hmerged hnotes
      fun t c hc _ h => (Variant.markingTable_answer (hposts t c hc) h).2.2.2

lemma ReachesBy.loggingSnapshot_notes
    (hrun : ReachesBy e (start (.ofVariant .loggingSnapshot) m) calls h) (hidle : h.Idle)
    (hposts : ∀ t, ∀ c ∈ calls t, c.FollowsStore) :
    Interleaves (fun t => (calls t).flatMap Call.loggedCards) h.barrier.journal.cards.toList ∧
    ∃ records : ι → List Event, (∀ t, (calls t).filterMap Call.storeRecord? = (records t).map .ok) ∧
      Interleaves records h.barrier.journal.events.toList := by
  obtain ⟨-, answers, merged, hanswers, hmerged, hnotes⟩ := hrun.exists_merged
    (fun t c hc _ h => (Variant.loggingSnapshot_answer (hposts t c hc) h).1) hidle
  have hcards : ∀ t, (answers t).flatten.flatMap Action.loggedCards =
      (calls t).flatMap Call.loggedCards :=
    fun t => flatMap_answers (hanswers t)
      fun c hc _ h => (Variant.loggingSnapshot_answer (hposts t c hc) h).2.1
  constructor
  · have hinterleaved := hmerged.flatMap Action.loggedCards
    simp only [hcards] at hinterleaved
    rw [hnotes.cards]
    exact hinterleaved
  · exact exists_records hanswers hmerged hnotes
      fun t c hc _ h => (Variant.loggingSnapshot_answer (hposts t c hc) h).2.2

/-- Whatever the order in which threads do the actions of their calls, no call is lost and none
has an effect twice. A marking table counts all scalar stores and marks their words, and records
every bulk store that stored something; a logging table records all of them and logs the card of
every scalar store. -/
theorem post_writes_noted_once [Fintype ι] (hposts : ∀ t, ∀ c ∈ calls t, c.FollowsStore)
    (hfew : ∑ t, (calls t).length < 2 ^ 64) :
    (∀ (range : MarkedRange) (h : SharedHeap ι),
      ReachesBy e (start (.ofVariant (.markingTable range)) m) calls h → h.Idle →
      h.barrier.journal.postWrites.toNat = ∑ t, (calls t).countP Call.isScalar ∧
      (∀ f : Address, h.barrier.isMarked f = true ↔ range.start.toNat ≤ f.toNat ∧
        (f.toNat - range.start.toNat) / 8 < range.words.toNat ∧
        ∃ t g new release, .fieldPost g new release ∈ calls t ∧ range.start.toNat ≤ g.toNat ∧
          (g.toNat - range.start.toNat) / 8 = (f.toNat - range.start.toNat) / 8) ∧
      ∃ records : ι → List Event,
        (∀ t, (calls t).filterMap Call.bulkRecord? = (records t).map .ok) ∧
        Interleaves records h.barrier.journal.events.toList) ∧
    ∀ h : SharedHeap ι, ReachesBy e (start (.ofVariant .loggingSnapshot) m) calls h → h.Idle →
      (∃ records : ι → List Event,
        (∀ t, (calls t).filterMap Call.storeRecord? = (records t).map .ok) ∧
        Interleaves records h.barrier.journal.events.toList) ∧
      (h.barrier.journal.cards.toList : Multiset Address) =
        ∑ t, ((calls t).flatMap Call.loggedCards : Multiset Address) := by
  constructor
  · intro range h hrun hidle
    obtain ⟨hpostWrites, hmarks, hrecords⟩ := hrun.markingTable_notes hidle hposts
    refine ⟨?_, ?_, hrecords⟩
    · have hscalars : ∑ t, (calls t).countP Call.isScalar ≤ ∑ t, (calls t).length :=
        Finset.sum_le_sum fun t _ => List.countP_le_length
      rw [hpostWrites, UInt64.toNat_ofNat', Nat.mod_eq_of_lt (by omega)]
    · intro f
      rw [hmarks]
      simp only [Call.mem_markedWords]
      constructor
      · rintro ⟨word, hf, t, g, new, release, hcall, hg⟩
        obtain ⟨hstart, hin, hsame⟩ := MarkedRange.exists_position?_iff.mp ⟨word, hf, hg⟩
        exact ⟨hstart, hin, t, g, new, release, hcall, hsame⟩
      · rintro ⟨hstart, hin, t, g, new, release, hcall, hsame⟩
        obtain ⟨word, hf, hg⟩ := MarkedRange.exists_position?_iff.mpr ⟨hstart, hin, hsame⟩
        exact ⟨word, hf, t, g, new, release, hcall, hg⟩
  · intro h hrun hidle
    obtain ⟨hcards, hrecords⟩ := hrun.loggingSnapshot_notes hidle hposts
    exact ⟨hrecords, hcards.coe_eq_sum⟩

theorem post_writes_noted_once_of_two_threads :
    let calls : Bool → List Call := fun t =>
      if t then [.fieldPost ⟨0x1009⟩ none true, .arrayPost ⟨⟨0x2000⟩, 2, .full⟩]
      else [.fieldPost ⟨0x1005⟩ none false]
    (∃ h : SharedHeap Bool, h.Idle ∧
      ReachesBy .full (start (.ofVariant (.markingTable ⟨⟨0x1001⟩, 4⟩)) .zeroed) calls h ∧
      h.barrier.journal.postWrites.toNat = 2 ∧ h.barrier.isMarked ⟨0x1010⟩ = true) ∧
    ∃ h : SharedHeap Bool, h.Idle ∧
      ReachesBy .full (start (.ofVariant .loggingSnapshot) .zeroed) calls h ∧
      h.barrier.journal.cards.toList.Perm [⟨0x1000⟩, ⟨0x1000⟩] := by
  intro calls
  have hposts : ∀ t, ∀ c ∈ calls t, c.FollowsStore := by
    intro t c hc
    cases t with
    | false =>
      rw [List.mem_singleton.mp hc]
      trivial
    | true =>
      cases List.mem_pair.mp hc with
      | inl hfield =>
        rw [hfield]
        trivial
      | inr hbulk =>
        rw [hbulk]
        trivial
  have hfew : ∑ t, (calls t).length < 2 ^ 64 := by decide
  -- The thread `false` pauses after one action of its call while `true` makes both of its calls.
  have hrun : ∀ (v : Variant) (action : Action) (rest scalar bulk : List Action),
      v.answer (.fieldPost ⟨0x1005⟩ none false) = .ok (action :: rest) →
      (∀ slot, action ≠ .load slot) → v.answer (.fieldPost ⟨0x1009⟩ none true) = .ok scalar →
      v.answer (.arrayPost ⟨⟨0x2000⟩, 2, .full⟩) = .ok bulk →
      ∃ h : SharedHeap Bool, h.Idle ∧ ReachesBy .full (start (.ofVariant v) .zeroed) calls h := by
    intro v action rest scalar bulk hfirst hload hscalar hbulk
    let begun : SharedHeap Bool := start (.ofVariant v) .zeroed
    let called := begun.setMutator false ⟨some ⟨action :: rest, none, ∅⟩, ∅⟩
    obtain ⟨journal, held, hact⟩ : ∃ journal held,
        action.run called.memory called.barrier.journal none = .ok (journal, held) :=
      Action.exists_run hload
    let paused := (called.setJournal journal).setMutator false ⟨some ⟨rest, held, ∅⟩, ∅⟩
    have hcalled : ReachesBy .full begun _ called :=
      .call false (c := .fieldPost ⟨0x1005⟩ none false) .refl rfl trivial hfirst
    have hmove : Continues .full called paused := (Moves.act false rfl hact).continues rfl rfl
    have hother := (hcalled.tail hmove).call true (c := .fieldPost ⟨0x1009⟩ none true)
      rfl trivial hscalar
    have hreturned := hother.trans (continues_perform (by rw [mutators_setMutator_self]) rfl)
    have hboth := hreturned.call true (c := .arrayPost ⟨⟨0x2000⟩, 2, .full⟩)
      (by rw [mutators_setMutator_self, Mutator.pending_ending]) trivial hbulk
    obtain ⟨h, hrest, hidle⟩ := exists_idle (e := .full) (_ : SharedHeap Bool)
    refine ⟨h, hidle, ?_⟩
    convert hboth.trans hrest using 1
    funext t
    cases t <;> rfl
  let bulk : List Action := [.record (.arrayPost ⟨⟨0x2000⟩, 16⟩)]
  constructor
  · obtain ⟨h, hidle, hreach⟩ :=
      hrun (.markingTable ⟨⟨0x1001⟩, 4⟩) .countWrite [.mark 0] _ bulk rfl (by simp) rfl rfl
    obtain ⟨hpostWrites, hmarked, -⟩ := (post_writes_noted_once hposts hfew).1 _ h hreach hidle
    refine ⟨h, hidle, hreach, hpostWrites, (hmarked _).mpr ?_⟩
    exact ⟨by decide, by decide, true, ⟨0x1009⟩, none, true, .head _, by decide, by decide⟩
  · obtain ⟨h, hidle, hreach⟩ := hrun .loggingSnapshot _ _ _ bulk rfl (by simp) rfl rfl
    have hcards := ((post_writes_noted_once hposts hfew).2 h hreach hidle).2
    refine ⟨h, hidle, hreach, ?_⟩
    rw [← Multiset.coe_eq_coe, hcards]
    rfl

end SharedHeap

end WriteBarrier
