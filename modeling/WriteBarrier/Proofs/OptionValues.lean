import Mathlib.Tactic.Lemma
import WriteBarrier.Options

/-!
# Option values

The value of each option, and what becomes of it when texts are given to options one after the
other. A text that does not read as a value of the option, or reads as one that the option does not
admit, changes nothing. So an option has the last value that was accepted for it.
-/

namespace WriteBarrier

/-- A value of some option. -/
inductive OptionValue where
  | flag (b : Bool)
  | number (n : Nat)
  deriving DecidableEq

/-- The value as warnings show it. -/
def OptionValue.shown : OptionValue → String
  | flag b => toString b
  | number n => toString n

namespace OptionName

/-- The value as which a text reads for an option. -/
def read? (n : OptionName) (text : String) : Option OptionValue :=
  match n with
  | .compressedOopsBase => (Text.numeral? (2 ^ 64) text).map .number
  | .compressedOopsShift => (Text.numeral? (2 ^ 8) text).map .number
  | _ => (Text.flag? text).map .flag

/-- The heap base must be word aligned and the shift at most 3. -/
def admits : OptionName → OptionValue → Bool
  | .compressedOopsBase, .number base => base % 8 == 0
  | .compressedOopsShift, .number shift => shift ≤ 3
  | _, _ => true

/-- The value that an option accepts a text as. -/
def accepted? (n : OptionName) (text : String) : Option OptionValue :=
  (n.read? text).filter n.admits

/-- What becomes of a text that is given to an option. -/
def verdict (n : OptionName) (text : String) : Verdict :=
  match n.read? text with
  | none => .unreadable text
  | some v => if n.admits v then .accepted else .refused v.shown

variable {n : OptionName} {text : String}

lemma verdict_eq_accepted : n.verdict text = .accepted ↔ (n.accepted? text).isSome = true := by
  unfold verdict accepted?
  cases n.read? text with
  | none => simp
  | some v =>
    by_cases hv : n.admits v = true
    · simp [hv]
    · simp [hv]

/-- The values that an option accepts among texts given to options, in their order. -/
def given (n : OptionName) (settings : List (OptionName × String)) : List OptionValue :=
  settings.filterMap fun s => if s.1 = n then n.accepted? s.2 else none

lemma mem_given {settings : List (OptionName × String)} {v : OptionValue} :
    v ∈ n.given settings ↔ ∃ text, (n, text) ∈ settings ∧ n.accepted? text = some v := by
  simp only [given, List.mem_filterMap, Option.ite_none_right_eq_some, Prod.exists]
  constructor
  · rintro ⟨m, text, hmem, rfl, hv⟩
    exact ⟨text, hmem, hv⟩
  · rintro ⟨text, hmem, hv⟩
    exact ⟨n, text, hmem, rfl, hv⟩

end OptionName

namespace Options

variable {o : Options} {n : OptionName} {text : String}

def value (o : Options) : OptionName → OptionValue
  | .compressedOops => .flag o.compressedOops
  | .compressedOopsBase => .number o.compressedOopsBase.toNat
  | .compressedOopsShift => .number o.compressedOopsShift.toNat
  | .verifyCoveredRegions => .flag o.verifyCoveredRegions
  | .printBarrierSet => .flag o.printBarrierSet
  | .countStaticCalls => .flag o.countStaticCalls

lemma ext_value {o' : Options} (h : ∀ n, o.value n = o'.value n) : o = o' := by
  have hbase := h .compressedOopsBase
  have hshift := h .compressedOopsShift
  have hflags := And.intro (h .compressedOops) (h .verifyCoveredRegions)
  have hmore := And.intro (h .printBarrierSet) (h .countStaticCalls)
  cases o
  cases o'
  simp only [value, OptionValue.flag.injEq, OptionValue.number.injEq, UInt64.toNat_inj,
    UInt8.toNat_inj] at hbase hshift hflags hmore
  simp [hbase, hshift, hflags, hmore]

/-- The options with another value of one option. -/
def withValue (o : Options) : OptionName → OptionValue → Options
  | .compressedOops, .flag b => { o with compressedOops := b }
  | .compressedOopsBase, .number base => { o with compressedOopsBase := UInt64.ofNat base }
  | .compressedOopsShift, .number shift => { o with compressedOopsShift := UInt8.ofNat shift }
  | .verifyCoveredRegions, .flag b => { o with verifyCoveredRegions := b }
  | .printBarrierSet, .flag b => { o with printBarrierSet := b }
  | .countStaticCalls, .flag b => { o with countStaticCalls := b }
  | _, _ => o

/-- Reading comes first, then the check, and the value is changed only after both. -/
lemma assign_eq : o.assign n text =
    match n.read? text with
    | none => (o, .unreadable text)
    | some v => if n.admits v then (o.withValue n v, .accepted) else (o, .refused v.shown) := by
  cases n with
  | compressedOopsBase =>
    simp only [assign, put, OptionName.read?]
    cases Text.numeral? (2 ^ 64) text <;> rfl
  | compressedOopsShift =>
    simp only [assign, put, OptionName.read?]
    cases Text.numeral? (2 ^ 8) text <;> rfl
  | _ =>
    simp only [assign, putFlag, put, OptionName.read?]
    cases Text.flag? text <;> rfl

lemma verdict_assign : (o.assign n text).2 = n.verdict text := by
  rw [assign_eq, OptionName.verdict]
  cases n.read? text with
  | none => rfl
  | some v => exact apply_ite Prod.snd _ _ _

/-- A value that was read is kept as it is, since it is in the range of its option. -/
lemma value_withValue {v : OptionValue} (hread : n.read? text = some v) (k : OptionName) :
    (o.withValue n v).value k = if n = k then v else o.value k := by
  cases n with
  | compressedOopsBase =>
    obtain ⟨base, hbase, rfl⟩ := Option.map_eq_some_iff.mp hread
    have hkept : (UInt64.ofNat base).toNat = base :=
      UInt64.toNat_ofNat_of_lt' (Text.numeral?_lt hbase)
    cases k <;> simp [withValue, value, hkept]
  | compressedOopsShift =>
    obtain ⟨shift, hshift, rfl⟩ := Option.map_eq_some_iff.mp hread
    have hkept : (UInt8.ofNat shift).toNat = shift :=
      UInt8.toNat_ofNat_of_lt' (Text.numeral?_lt hshift)
    cases k <;> simp [withValue, value, hkept]
  | _ =>
    obtain ⟨b, -, rfl⟩ := Option.map_eq_some_iff.mp hread
    cases k <;> simp [withValue, value]

lemma value_assign (k : OptionName) : (o.assign n text).1.value k =
    if n = k then (n.accepted? text).getD (o.value k) else o.value k := by
  rw [assign_eq, OptionName.accepted?]
  cases hread : n.read? text with
  | none => simp
  | some v =>
    by_cases hv : n.admits v = true
    · simp [hv, Option.filter_some, value_withValue hread]
    · simp [hv, Option.filter_some]

/-- The options after texts are given to options in order. -/
def assignAll (o : Options) (settings : List (OptionName × String)) : Options :=
  settings.foldl (fun o s => (o.assign s.1 s.2).1) o

lemma assignAll_append (settings more : List (OptionName × String)) :
    o.assignAll (settings ++ more) = (o.assignAll settings).assignAll more :=
  List.foldl_append

/-- An option has the last value that was accepted for it, or the value that it had. -/
theorem value_assignAll (settings : List (OptionName × String)) :
    (o.assignAll settings).value n = (n.given settings).getLast?.getD (o.value n) := by
  induction settings generalizing o with
  | nil => rfl
  | cons s settings ih =>
    have hstep : o.assignAll (s :: settings) = (o.assign s.1 s.2).1.assignAll settings := rfl
    rw [hstep, ih, value_assign, OptionName.given, OptionName.given, List.filterMap_cons]
    by_cases hs : s.1 = n
    · rw [if_pos hs, if_pos hs, hs]
      cases n.accepted? s.2 with
      | none => rfl
      | some v => simp [List.getLast?_cons]
    · rw [if_neg hs, if_neg hs]

lemma set_text : set n.text text o = ⟨.ok (n.accepted? text).isSome, (o.assign n text).1,
    (n.verdict text).warnings n.text⟩ := by
  have haccepted : ((o.assign n text).2 == .accepted) = (n.accepted? text).isSome := by
    rw [Bool.eq_iff_iff, beq_iff_eq, verdict_assign, OptionName.verdict_eq_accepted]
  rw [← haccepted, ← verdict_assign (o := o), set, OptionName.ofText?_text]
  exact congrArg (Outcome.mk _ _) (List.append_nil _)

end Options

end WriteBarrier
