import WriteBarrier.Options.Bulk
import WriteBarrier.Options.CamelCase
import WriteBarrier.Options.Environment
import WriteBarrier.Proofs.NarrowReferences
import WriteBarrier.Proofs.StepRules

/-!
# Admissible options

Options that start from the environment and are changed by text alone ask for a word-aligned heap
base and a shift of at most 3. A narrow encoding with such a base and shift refuses a reference
above the base for one reason only: it is out of reach of a 32-bit value.
-/

namespace WriteBarrier

namespace NarrowEncoding

variable {e : NarrowEncoding} {o : ObjectRef} {offset : Word}

/-- Where no bits are lost under the shift, the reach is the only limit. -/
lemma encode_of_dvd (hoffset : o.address.distanceFrom e.base = .ok offset)
    (hshift : e.shift.toNat < 64) (hdvd : 2 ^ e.shift.toNat ∣ offset.toNat) :
    e.encode o =
      if offset >>> e.shift.toUInt64 ≤ 0xffffffff then
        .ok (offset >>> e.shift.toUInt64).toUInt32
      else .error (.outOfReach o.address e.base) := by
  obtain ⟨unit, hunit⟩ := Word.exists_toNat_eq (Nat.pow_lt_pow_right (by omega) hshift)
  have hshifted : Word.shifted 1 e.shift = .ok unit :=
    Word.shifted_one_eq_ok.mpr ⟨hshift, hunit⟩
  have hmask : offset &&& (unit - 1) = 0 := (Word.and_sub_one_eq_zero_iff hunit).mpr hdvd
  simp only [encode, hoffset, hshifted, hmask, bind, Except.bind, ne_eq, not_true_eq_false,
    if_false]
  rfl

end NarrowEncoding

namespace Options

/-- The heap base and the shift that the options ask for are values that they admit. -/
structure Admissible (o : Options) : Prop where
  base_aligned : o.compressedOopsBase.toNat % 8 = 0
  shift_le : o.compressedOopsShift.toNat ≤ 3

lemma admissible_default : Admissible {} := ⟨rfl, by decide⟩

variable {o : Options}

lemma Admissible.put {α : Type} {text : String} {read : Option α} {valid : α → Bool}
    {shown : α → String} {change : α → Options} (ho : o.Admissible)
    (hchange : ∀ value, read = some value → valid value = true → (change value).Admissible) :
    (o.put text read valid shown change).1.Admissible := by
  unfold Options.put
  cases hread : read with
  | none => exact ho
  | some value =>
    by_cases hvalid : valid value = true
    · simp only [if_pos hvalid]
      exact hchange value hread hvalid
    · simp only [if_neg hvalid]
      exact ho

/-- Giving an option a value, accepted or not, leaves admissible options admissible. -/
lemma Admissible.assign (ho : o.Admissible) (name : OptionName) (text : String) :
    (o.assign name text).1.Admissible := by
  cases name with
  | compressedOopsBase =>
    refine ho.put fun n hread hvalid => ⟨?_, ho.shift_le⟩
    have hn : (UInt64.ofNat n).toNat = n := UInt64.toNat_ofNat_of_lt' (Text.numeral?_lt hread)
    rw [hn]
    exact beq_iff_eq.mp hvalid
  | compressedOopsShift =>
    refine ho.put fun n hread hvalid => ⟨ho.base_aligned, ?_⟩
    have hn : (UInt8.ofNat n).toNat = n := UInt8.toNat_ofNat_of_lt' (Text.numeral?_lt hread)
    rw [hn]
    exact of_decide_eq_true hvalid
  | _ => exact ho.put fun _ _ _ => ⟨ho.base_aligned, ho.shift_le⟩

lemma set_keeps (key text : String) : (set key text).Keeps Admissible := by
  unfold set
  cases OptionName.ofText? key with
  | none => exact .stop _
  | some name =>
    intro o ho
    exact ho.assign name text

lemma setCamelCase_keeps (key text : String) : (setCamelCase key text).Keeps Admissible := by
  refine .bind (.of_state fun _ => rfl) fun _ => ?_
  refine .bind (set_keeps (snakeCase key) text) fun accepted => ?_
  exact .bind (.of_state fun _ => rfl) fun _ => .pure accepted

lemma Token.process_keeps (token : Token) : token.process.Keeps Admissible := by
  cases token with
  | pair name value => exact set_keeps name.text value
  | _ => exact .bind (.of_state fun _ => rfl) fun _ => .pure false

lemma processAll_keeps (tokens : List Token) : (processAll tokens).Keeps Admissible := by
  induction tokens with
  | nil => exact .pure true
  | cons token tokens ih =>
    exact .bind token.process_keeps fun accepted => .bind ih fun rest => .pure _

lemma useVariable_keeps (key value : String) : (useVariable key value).Keeps Admissible := by
  unfold useVariable
  cases ofVariable? key with
  | none => exact .pure ()
  | some name => exact .bind (set_keeps name.text value) fun _ => .pure ()

lemma useVariables_keeps (env : Environment) : (useVariables env).Keeps Admissible := by
  induction env with
  | nil => exact .pure ()
  | cons entry env ih => exact .bind (useVariable_keeps entry.1 entry.2) fun _ => ih

/-- A change of options by text. -/
inductive Change where
  | set (key text : String)
  | camelCase (key text : String)
  | bulk (text : String)

def Change.make : Change → Step Options Bool
  | set key text => Options.set key text
  | camelCase key text => setCamelCase key text
  | bulk text => setBulk text

/-- The options after changes, some of which may stop or be refused. -/
def afterChanges (o : Options) (changes : List Change) : Options :=
  changes.foldl (fun o change => (change.make o).state) o

lemma Change.make_keeps (change : Change) : change.make.Keeps Admissible := by
  cases change with
  | set key text => exact set_keeps key text
  | camelCase key text => exact setCamelCase_keeps key text
  | bulk text => exact processAll_keeps (Token.ofText text)

lemma Admissible.afterChanges (ho : o.Admissible) (changes : List Change) :
    (o.afterChanges changes).Admissible := by
  induction changes generalizing o with
  | nil => exact ho
  | cons change changes ih => exact ih (change.make_keeps o ho)

lemma eq_of_referenceEncoding {e : NarrowEncoding} (h : o.referenceEncoding = .narrow e) :
    e = ⟨⟨o.compressedOopsBase⟩, o.compressedOopsShift⟩ := by
  unfold referenceEncoding at h
  by_cases hnarrow : o.compressedOops = true
  · rw [if_pos hnarrow] at h
    exact (Encoding.narrow.inj h).symm
  · rw [if_neg hnarrow] at h
    cases h

/-- Objects are aligned to every unit that admissible options give. -/
lemma Admissible.unit_dvd (ho : o.Admissible) {object : ObjectRef} {offset : Word}
    (hoffset : o.compressedOopsBase.toNat + offset.toNat = object.address.toNat) :
    2 ^ o.compressedOopsShift.toNat ∣ offset.toNat := by
  have hobject := Address.isWordAligned_iff.mp object.aligned
  have hbase := ho.base_aligned
  have hword : 8 ∣ offset.toNat := by omega
  exact Nat.dvd_trans (Nat.pow_dvd_pow 2 ho.shift_le) hword

end Options

/-- However options are set by text, they stay admissible, and the narrow encoding that they ask for
takes every reference at or above the heap base that is within reach of a 32-bit value. It divides
the distance from the base without remainder; the other references are refused as out of reach. -/
theorem narrow_encoding_of_options_exact (env : Environment) (changes : List Options.Change) :
    let options := (Options.ofEnvironment env).1.afterChanges changes
    options.Admissible ∧
    ∀ e, options.referenceEncoding = .narrow e → ∀ o : ObjectRef, e.base ≤ o.address →
      ((∃ fault, e.encode o = .error fault) ↔
        2 ^ 32 - 1 < (o.address.toNat - e.base.toNat) >>> e.shift.toNat) ∧
      (∀ fault, e.encode o = .error fault → fault = .outOfReach o.address e.base) ∧
      ∀ n, e.encode o = .ok n → n.toNat * 2 ^ e.shift.toNat = o.address.toNat - e.base.toNat := by
  intro options
  have hoptions : options.Admissible :=
    .afterChanges (Options.useVariables_keeps env {} Options.admissible_default) changes
  refine ⟨hoptions, ?_⟩
  intro e he o ho
  have hbase := Address.le_iff_toNat.mp ho
  have hlt := o.address.toNat_lt
  obtain ⟨offset, hoffset⟩ := Word.exists_toNat_eq (n := o.address.toNat - e.base.toNat) (by omega)
  have hsum : e.base.toNat + offset.toNat = o.address.toNat := by omega
  have hshift : e.shift.toNat ≤ 3 ∧ 2 ^ e.shift.toNat ∣ offset.toNat := by
    cases Options.eq_of_referenceEncoding he
    exact ⟨hoptions.shift_le, hoptions.unit_dvd hsum⟩
  have hsmall : e.shift.toNat < 64 := by omega
  have hreach : offset >>> e.shift.toUInt64 ≤ 0xffffffff ↔
      (o.address.toNat - e.base.toNat) >>> e.shift.toNat ≤ 2 ^ 32 - 1 := by
    rw [UInt64.le_iff_toNat_le, Word.toNat_shiftRight hsmall, hoffset, Nat.shiftRight_eq_div_pow]
    rfl
  have hencode := NarrowEncoding.encode_of_dvd (Address.distanceFrom_eq_ok.mpr hsum) hsmall hshift.2
  rw [← Nat.not_le, ← hreach]
  refine ⟨?_, ?_, ?_⟩
  · rw [hencode]
    split
    · rename_i hwithin
      simp [hwithin]
    · rename_i hbeyond
      simp [hbeyond]
  · intro fault hfault
    rw [hencode] at hfault
    split at hfault
    · cases hfault
    · exact (Except.error.inj hfault).symm
  · intro n hn
    have hunits := (NarrowEncoding.encode_eq_ok.mp hn).2
    omega

theorem narrow_encoding_of_options_exact_after_refusals :
    let env : Environment := [("BARRIER_SET_COMPRESSED_OOPS", "true")]
    let changes : List Options.Change := [.bulk "compressed_oops_base=4096 compressed_oops_shift=9",
      .set "no_such_option" "1", .set "compressed_oops_shift" "2"]
    let e : NarrowEncoding := ⟨⟨0x1000⟩, 2⟩
    let o : ObjectRef := ⟨⟨0x1008⟩, by decide, by decide⟩
    ((Options.ofEnvironment env).1.afterChanges changes).referenceEncoding = .narrow e ∧
    e.encode o = .ok 2 ∧ ¬∃ fault, e.encode o = .error fault := by
  intro env changes e o
  have he : ((Options.ofEnvironment env).1.afterChanges changes).referenceEncoding = .narrow e := by
    decide +kernel
  have hencode : e.encode o = .ok 2 := NarrowEncoding.encode_eq_ok.mpr ⟨by decide, rfl⟩
  have hexact := (narrow_encoding_of_options_exact env changes).2 e he o (by decide)
  exact ⟨he, hencode, fun hfault => absurd (hexact.1.mp hfault) (by decide)⟩

end WriteBarrier
