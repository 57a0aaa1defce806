import Mathlib
import WriteBarrier.Options.CamelCase
import WriteBarrier.Proofs.OptionValues
import WriteBarrier.Proofs.StepRules

/-!
# Option names in camelCase

The keys that are accepted for an option are its name with some pairs of an underscore and a letter
written as the capital. Nothing else is, since the small form of every capital but those from A to Z
contains a character that no name uses.
-/

namespace WriteBarrier

/-- The second text is the first with some pairs of an underscore and a small letter written as the
capital. -/
inductive CamelForm : List Char → List Char → Prop
  | nil : CamelForm [] []
  | keep (c : Char) {name key : List Char} : CamelForm name key →
      CamelForm (c :: name) (c :: key)
  | capital (c : Char) {name key : List Char} : c.isLower = true → CamelForm name key →
      CamelForm ('_' :: c :: name) (c.toUpper :: key)

namespace CamelForm

variable {name key : List Char}

lemma refl (name : List Char) : CamelForm name name := by
  induction name with
  | nil => exact .nil
  | cons c name ih => exact .keep c ih

lemma append_left (before : List Char) (h : CamelForm name key) :
    CamelForm (before ++ name) (before ++ key) := by
  induction before with
  | nil => exact h
  | cons c before ih => exact .keep c ih

end CamelForm

namespace OptionName

/-- The character occurs in the name of an option. -/
def Uses (d : Char) : Prop := ∃ n : OptionName, d ∈ n.text.toList

lemma Uses.place {d : Char} (h : Uses d) : 0x5f ≤ d.toNat ∧ d.toNat ≤ 0x7a ∧ d ≠ 'k' := by
  obtain ⟨n, hd⟩ := h
  have hall : ∀ d ∈ n.text.toList, 0x5f ≤ d.toNat ∧ d.toNat ≤ 0x7a ∧ d ≠ 'k' := by
    cases n <;> simp [text]
  exact hall d hd

end OptionName

namespace Text

variable {c : Char} {r : CapitalRun}

lemma isUpper_iff : c.isUpper = true ↔ 0x41 ≤ c.toNat ∧ c.toNat ≤ 0x5a := by
  simp [Char.isUpper, UInt32.le_iff_toNat_le, ← Char.toNat_val]

/-- A run of capitals is that from A to Z, has its small forms beyond the letters of names, or is
the Kelvin sign alone. -/
lemma run_cases (hr : r ∈ capitalRuns.toList) : r.first = 0x41 ∧ r.last = 0x5a ∨
    0x80 ≤ r.first + r.distance ∨ r.first = r.last ∧ r.first + r.distance = 0x6b := by
  have hall : ∀ r ∈ capitalRuns.toList, r.first = 0x41 ∧ r.last = 0x5a ∨
      0x80 ≤ r.first + r.distance ∨ r.first = r.last ∧ r.first + r.distance = 0x6b := by
    decide +kernel
  exact hall r hr

lemma exists_run (hcapital : isCapital c = true) (hdotted : c ≠ dottedCapital) :
    ∃ r ∈ capitalRuns.toList, r.first ≤ c.toNat ∧ c.toNat ≤ r.last ∧
      smallForm c = [Char.ofNat (c.toNat + r.distance).toNat] := by
  rw [isCapital, beq_false_of_ne hdotted, Bool.false_or, ← Array.isSome_find?] at hcapital
  obtain ⟨r, hr⟩ := Option.isSome_iff_exists.mp hcapital
  have hcontains := Array.find?_some hr
  simp only [CapitalRun.contains, Bool.and_eq_true, decide_eq_true_eq] at hcontains
  refine ⟨r, Array.mem_toList_iff.mpr (Array.mem_of_find?_eq_some hr), hcontains.1.1,
    hcontains.1.2, ?_⟩
  rw [smallForm, if_neg hdotted, hr]

/-- A capital other than those from A to Z has a character in its small form that no option's name
uses. -/
lemma exists_mem_smallForm_not_uses (hcapital : isCapital c = true) (hlatin : c.isUpper = false) :
    ∃ d ∈ smallForm c, ¬OptionName.Uses d := by
  by_cases hdotted : c = dottedCapital
  · subst hdotted
    refine ⟨'\u0307', by decide, ?_⟩
    intro huses
    exact absurd huses.place.2.1 (by decide)
  · obtain ⟨r, hmem, hfirst, hlast, hsmall⟩ := exists_run hcapital hdotted
    refine ⟨_, hsmall ▸ List.mem_singleton_self _, ?_⟩
    intro huses
    obtain ⟨hlow, hhigh, hk⟩ := huses.place
    have hcode : (Char.ofNat (c.toNat + r.distance).toNat).toNat =
        (c.toNat + r.distance).toNat := by
      rw [Char.toNat_ofNat] at hlow ⊢
      split at hlow
      · rename_i hvalid
        exact if_pos hvalid
      · omega
    rw [hcode] at hlow hhigh
    rcases run_cases hmem with ⟨hA, hZ⟩ | hbeyond | ⟨hsingle, hkelvin⟩
    · rw [← isCapital_of_lt (by omega), hcapital] at hlatin
      cases hlatin
    · omega
    · have hsame : (c.toNat + r.distance).toNat = 0x6b := by omega
      rw [hsame] at hk
      exact hk rfl

end Text

namespace Options

variable {c : Char} {name key : List Char}

lemma snakeCaseChar_of_lt (hc : c.toNat < 0xc0) :
    snakeCaseChar c = if c.isUpper then ['_', c.toLower] else [c] := by
  rw [snakeCaseChar, Text.isCapital_of_lt hc, Text.smallForm_of_lt hc]

lemma snakeCaseChar_of_isUpper (hc : c.isUpper = true) : snakeCaseChar c = ['_', c.toLower] := by
  have hplace := Text.isUpper_iff.mp hc
  rw [snakeCaseChar_of_lt (by omega), if_pos hc]

lemma snakeCaseChar_of_uses (hc : OptionName.Uses c) : snakeCaseChar c = [c] := by
  have hplace := hc.place
  have hlatin : ¬c.isUpper = true := by
    rw [Text.isUpper_iff]
    omega
  rw [snakeCaseChar_of_lt (by omega), if_neg hlatin]

/-- The keys that stand for a name are its camelCase forms. In one direction the induction is on the
key, since each character of a key gives the beginning of what is left of the name. -/
lemma flatMap_snakeCaseChar_eq_iff (hname : ∀ d ∈ name, OptionName.Uses d) :
    key.flatMap snakeCaseChar = name ↔ CamelForm name key := by
  constructor
  · intro h
    induction key generalizing name with
    | nil =>
      subst h
      exact .nil
    | cons c key ih =>
      rw [List.flatMap_cons] at h
      subst h
      have hrest := ih (fun d hd => hname d (List.mem_append_right _ hd)) rfl
      by_cases hcapital : Text.isCapital c = true
      · cases hlatin : c.isUpper with
        | true =>
          have hsmall : c.toLower.isLower = true := by simp [Char.isAlpha, hlatin]
          have hback : c.toLower.toUpper = c := by
            rw [Char.toUpper_toLower_eq_toUpper,
              Char.toUpper_eq_of_not_isLower (Char.not_isLower_of_isUpper hlatin)]
          have hform := CamelForm.capital c.toLower hsmall hrest
          rw [hback] at hform
          rw [snakeCaseChar_of_isUpper hlatin]
          exact hform
        | false =>
          obtain ⟨d, hd, huses⟩ := Text.exists_mem_smallForm_not_uses hcapital hlatin
          rw [snakeCaseChar, if_pos hcapital] at hname
          exact absurd (hname d (List.mem_append_left _ (.tail _ hd))) huses
      · rw [snakeCaseChar, if_neg hcapital]
        exact .keep c hrest
  · intro h
    induction h with
    | nil => rfl
    | keep c _ ih =>
      rw [List.flatMap_cons, snakeCaseChar_of_uses (hname c (.head _)),
        ih fun d hd => hname d (.tail _ hd)]
      rfl
    | capital c hc _ ih =>
      have hlatin : c.toUpper.isUpper = true := by simp [Char.isAlpha, hc]
      have hback : c.toUpper.toLower = c := by
        rw [Char.toLower_toUpper_eq_toLower,
          Char.toLower_eq_of_not_isUpper (Char.not_isUpper_of_isLower hc)]
      rw [List.flatMap_cons, snakeCaseChar_of_isUpper hlatin, hback,
        ih fun d hd => hname d (.tail _ (.tail _ hd))]
      rfl

/-- The key is the name of the option with some pairs of an underscore and a letter written as the
capital. -/
def StandsFor (key : String) (n : OptionName) : Prop := CamelForm n.text.toList key.toList

lemma standsFor_iff {key : String} {n : OptionName} : StandsFor key n ↔ snakeCase key = n.text := by
  rw [StandsFor, ← flatMap_snakeCaseChar_eq_iff fun d hd => ⟨n, hd⟩, ← String.toList_inj, snakeCase,
    String.toList_ofList]

/-- The lines around the setting have no part in the result. -/
lemma setCamelCase_yields (key text : String) (o : Options) :
    (setCamelCase key text).Yields o (set (snakeCase key) text o).result
      (set (snakeCase key) text o).state := by
  have hwrite : ∀ lines, (Step.write lines).Yields o (.ok ()) o := fun _ => ⟨rfl, rfl⟩
  refine .bind_ok (hwrite _) ?_
  have hset : (set (snakeCase key) text).Yields o (set (snakeCase key) text o).result
      (set (snakeCase key) text o).state := ⟨rfl, rfl⟩
  generalize (set (snakeCase key) text o).result = result at hset ⊢
  cases result with
  | error fault => exact .bind_error hset
  | ok accepted => exact .bind_ok hset (.bind_ok ⟨rfl, rfl⟩ (.pure accepted _))

lemma set_of_unknown {key : String} (hkey : ∀ n : OptionName, key ≠ n.text) (text : String)
    (o : Options) : (set key text).Yields o (.error (.unknownOption key)) o := by
  have hunknown : OptionName.ofText? key = none := by
    rw [Option.eq_none_iff_forall_ne_some]
    intro n hn
    exact hkey n (OptionName.ofText?_eq_some.mp hn)
  rw [set, hunknown]
  exact .stop _ o

/-- A key in camelCase, snake_case or a mixture sets the option as its name does. Every other key
stops and changes nothing, and no key stands for two options. -/
theorem setCamelCase_accepts_names (o : Options) (key text : String) :
    (∀ n, StandsFor key n → ∃ accepted,
      (set n.text text).Yields o (.ok accepted) (set n.text text o).state ∧
      (setCamelCase key text).Yields o (.ok accepted) (set n.text text o).state) ∧
    ((∀ n, ¬StandsFor key n) →
      (setCamelCase key text).Yields o (.error (.unknownOption (snakeCase key))) o) ∧
    ∀ n m, StandsFor key n → StandsFor key m → n = m := by
  have hyields := setCamelCase_yields key text o
  refine ⟨?_, ?_, ?_⟩
  · intro n hn
    have hresult : (set n.text text o).result = .ok (n.accepted? text).isSome := by rw [set_text]
    rw [standsFor_iff.mp hn, hresult] at hyields
    exact ⟨_, ⟨hresult, rfl⟩, hyields⟩
  · intro hnone
    have hstops := set_of_unknown (fun n hn => hnone n (standsFor_iff.mpr hn)) text o
    rw [hstops.1, hstops.2] at hyields
    exact hyields
  · intro n m hn hm
    have htext : n.text = m.text := (standsFor_iff.mp hn).symm.trans (standsFor_iff.mp hm)
    rw [← Option.some.injEq, ← OptionName.ofText?_text n, htext, OptionName.ofText?_text]

theorem setCamelCase_accepts_names_of_mixture :
    StandsFor "compressedOops_shift" .compressedOopsShift ∧
    (setCamelCase "compressedOops_shift" "2" {}).state =
      (set "compressed_oops_shift" "2" {}).state ∧
    (∀ n, ¬StandsFor "CompressedOops" n) ∧
    (setCamelCase "CompressedOops" "true" {}).result =
      .error (.unknownOption "_compressed_oops") := by
  have hmixture : StandsFor "compressedOops_shift" .compressedOopsShift :=
    .append_left "compressed".toList (.capital 'o' rfl (.refl "ops_shift".toList))
  have hlow : ∀ c ∈ "CompressedOops".toList, c.toNat < 0xc0 := by simp
  have hleading : snakeCase "CompressedOops" = "_compressed_oops" := by
    rw [snakeCase, List.flatMap_congr fun c hc => snakeCaseChar_of_lt (hlow c hc)]
    rfl
  have hnone : ∀ n, ¬StandsFor "CompressedOops" n := by
    intro n
    rw [standsFor_iff, hleading]
    cases n <;> decide
  obtain ⟨accepted, -, hset⟩ := (setCamelCase_accepts_names {} _ "2").1 _ hmixture
  have hstops := (setCamelCase_accepts_names {} _ "true").2.1 hnone
  rw [hleading] at hstops
  exact ⟨hmixture, hset.2, hnone, hstops.1⟩

end Options

end WriteBarrier
