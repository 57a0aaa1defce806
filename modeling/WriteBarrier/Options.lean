import WriteBarrier.Encoding
import WriteBarrier.Log
import WriteBarrier.Text.Numeral
import WriteBarrier.Text.Quoted

/-!
Options. Each option has a name and a value that is read from text; a value that does not read or
that the option does not admit leaves the options as they were and gives a warning.
-/

namespace WriteBarrier

/-- How a barrier set is installed. -/
structure Options where
  /-- Reference fields in the heap are narrow. -/
  compressedOops : Bool := false
  /-- The heap base of narrow references; a multiple of the word size. -/
  compressedOopsBase : Word := 0
  /-- The shift of narrow references; objects are aligned to 8 bytes, so it is at most 3. -/
  compressedOopsShift : UInt8 := 3
  /-- Check the ends of covered regions. -/
  verifyCoveredRegions : Bool := true
  /-- Print the barrier set when it is installed. -/
  printBarrierSet : Bool := false
  /-- Count the calls of the static entry points. -/
  countStaticCalls : Bool := false
  deriving DecidableEq

/-- The name of an option. -/
inductive OptionName where
  | compressedOops
  | compressedOopsBase
  | compressedOopsShift
  | verifyCoveredRegions
  | printBarrierSet
  | countStaticCalls
  deriving DecidableEq

namespace OptionName

def all : List OptionName :=
  [.compressedOops, .compressedOopsBase, .compressedOopsShift, .verifyCoveredRegions,
    .printBarrierSet, .countStaticCalls]

def text : OptionName → String
  | compressedOops => "compressed_oops"
  | compressedOopsBase => "compressed_oops_base"
  | compressedOopsShift => "compressed_oops_shift"
  | verifyCoveredRegions => "verify_covered_regions"
  | printBarrierSet => "print_barrier_set"
  | countStaticCalls => "count_static_barrier_calls"

def ofText? (s : String) : Option OptionName := all.find? (·.text == s)

theorem ofText?_text (n : OptionName) : ofText? n.text = some n := by cases n <;> rfl

theorem ofText?_eq_some {s : String} {n : OptionName} : ofText? s = some n ↔ s = n.text := by
  constructor
  · intro h
    have hname : n.text = s := by simpa using List.find?_some h
    exact hname.symm
  · rintro rfl
    exact ofText?_text n

end OptionName

/-- What became of a value given for an option. -/
inductive Verdict where
  | accepted
  /-- The value reads as `value`, which the option does not admit. -/
  | refused (value : String)
  /-- The text does not read as a value of the option. -/
  | unreadable (text : String)
  deriving DecidableEq

namespace Verdict

/-- The warning about a value that was not accepted. -/
def warnings (key : String) : Verdict → List LogLine
  | accepted => []
  | refused value =>
    [⟨.warn, s!"Unable to set {key}={value}. Invalid value. Default value will be used."⟩]
  | unreadable text =>
    [⟨.warn,
      s!"Unable to set {key}={Text.quoted text}. Cant parse value. Default value will be used."⟩]

end Verdict

namespace Options

/-- The options with the value `read`, if there is one and it is valid. -/
def put {α : Type} (o : Options) (text : String) (read : Option α) (valid : α → Bool)
    (shown : α → String) (change : α → Options) : Options × Verdict :=
  match read with
  | none => (o, .unreadable text)
  | some value => if valid value then (change value, .accepted) else (o, .refused (shown value))

/-- A flag admits both its values. -/
def putFlag (o : Options) (text : String) (change : Bool → Options) : Options × Verdict :=
  o.put text (Text.flag? text) (fun _ => true) (fun b => toString b) change

/-- Give an option a value. -/
def assign (o : Options) (name : OptionName) (text : String) : Options × Verdict :=
  match name with
  | .compressedOops => o.putFlag text fun b => { o with compressedOops := b }
  | .compressedOopsBase =>
    o.put text (Text.numeral? (2 ^ 64) text) (fun n => n % 8 == 0) (fun n => toString n)
      fun n => { o with compressedOopsBase := UInt64.ofNat n }
  | .compressedOopsShift =>
    o.put text (Text.numeral? (2 ^ 8) text) (fun n => n ≤ 3) (fun n => toString n)
      fun n => { o with compressedOopsShift := UInt8.ofNat n }
  | .verifyCoveredRegions => o.putFlag text fun b => { o with verifyCoveredRegions := b }
  | .printBarrierSet => o.putFlag text fun b => { o with printBarrierSet := b }
  | .countStaticCalls => o.putFlag text fun b => { o with countStaticCalls := b }

/-- The layout of reference slots that the options ask for. -/
def referenceEncoding (o : Options) : Encoding :=
  if o.compressedOops then .narrow ⟨⟨o.compressedOopsBase⟩, o.compressedOopsShift⟩ else .full

/-- The options as they appear in diagnostics. -/
def describe (o : Options) : String :=
  s!"Options \x7b compressed_oops: {o.compressedOops}, " ++
    s!"compressed_oops_base: {o.compressedOopsBase.toNat}, " ++
    s!"compressed_oops_shift: {o.compressedOopsShift.toNat}, " ++
    s!"verify_covered_regions: {o.verifyCoveredRegions}, " ++
    s!"print_barrier_set: {o.printBarrierSet}, " ++
    s!"count_static_barrier_calls: {o.countStaticCalls} \x7d"

/-- Give the option called `key` a value; false if the value is not accepted. There must be such
an option. -/
def set (key text : String) : Step Options Bool := do
  match OptionName.ofText? key with
  | none => Step.stop (.unknownOption key)
  | some name =>
    let (o, verdict) := (← Step.read).assign name text
    Step.modify fun _ => o
    Step.write (verdict.warnings key)
    return verdict == .accepted

end Options

end WriteBarrier
