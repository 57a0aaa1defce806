import Mathlib.Data.List.Perm.Basic
import Mathlib.Tactic.Lemma
import WriteBarrier.Options.Environment
import WriteBarrier.Proofs.OptionValues
import WriteBarrier.Proofs.StepRules

/-!
# The order of environment variables

Several variables may name one option, since their capitals do not count. Of the values that they
give it the one listed last is taken, so the order of the variables matters exactly if two of them
give an option different values.
-/

namespace WriteBarrier

lemma getLast?_eq_of_perm {α : Type} {l l' : List α} (hperm : l'.Perm l)
    (hequal : ∀ a ∈ l, ∀ b ∈ l, a = b) : l'.getLast? = l.getLast? := by
  cases hlast : l.getLast? with
  | none =>
    rw [List.getLast?_eq_none_iff] at hlast ⊢
    subst hlast
    exact hperm.eq_nil
  | some a =>
    have ha := List.mem_of_getLast? hlast
    cases hlast' : l'.getLast? with
    | none =>
      rw [List.getLast?_eq_none_iff.mp hlast', List.nil_perm] at hperm
      subst hperm
      cases ha
    | some b =>
      have hb := hperm.mem_iff.mp (List.mem_of_getLast? hlast')
      rw [hequal b hb a ha]

namespace Options

/-- The variable names the option: the option's name stands behind the mark, whatever its letters
are capitals or not. -/
def Names (key : String) (n : OptionName) : Prop :=
  ∃ rest, key.toList = environmentMark.toList ++ rest ∧
    rest.flatMap Text.smallForm = n.text.toList

/-- A variable of the environment names the option and has a value that the option accepts. -/
def Gives (env : Environment) (n : OptionName) (v : OptionValue) : Prop :=
  ∃ key text, (key, text) ∈ env ∧ Names key n ∧ n.accepted? text = some v

lemma afterMark?_eq_some {mark cs rest : List Char} :
    afterMark? mark cs = some rest ↔ cs = mark ++ rest := by
  induction mark generalizing cs with
  | nil => simp [afterMark?]
  | cons m mark ih =>
    cases cs with
    | nil => simp [afterMark?]
    | cons c cs =>
      rw [afterMark?, List.cons_append, List.cons.injEq]
      by_cases hc : m = c
      · rw [if_pos hc, ih, and_iff_right hc.symm]
      · rw [if_neg hc, eq_comm (a := c)]
        simp [hc]

lemma ofVariable?_eq_some {key : String} {n : OptionName} :
    ofVariable? key = some n ↔ Names key n := by
  simp only [ofVariable?, Option.bind_eq_bind, Option.bind_eq_some_iff, afterMark?_eq_some,
    OptionName.ofText?_eq_some, ← String.toList_inj, String.toList_ofList, Names]

lemma names_of_lt {key : String} {n : OptionName} (rest : List Char)
    (hkey : key.toList = environmentMark.toList ++ rest) (hrest : ∀ c ∈ rest, c.toNat < 0xc0)
    (hname : rest.map Char.toLower = n.text.toList) : Names key n := by
  refine ⟨rest, hkey, ?_⟩
  rw [List.flatMap_congr fun c hc => Text.smallForm_of_lt (hrest c hc), ← List.map_eq_flatMap]
  exact hname

/-- What the variables of an environment ask for, in their order. -/
def settings (env : Environment) : List (OptionName × String) :=
  env.filterMap fun entry => (ofVariable? entry.1).map (·, entry.2)

lemma mem_given_settings {env : Environment} {n : OptionName} {v : OptionValue} :
    v ∈ n.given (settings env) ↔ Gives env n v := by
  simp only [OptionName.mem_given, settings, List.mem_filterMap, Option.map_eq_some_iff,
    Prod.mk.injEq, ofVariable?_eq_some, Prod.exists, Gives]
  constructor
  · rintro ⟨text, ⟨key, text, hmem, n, hnames, rfl, rfl⟩, hv⟩
    exact ⟨key, text, hmem, hnames, hv⟩
  · rintro ⟨key, text, hmem, hnames, hv⟩
    exact ⟨text, ⟨key, text, hmem, n, hnames, rfl, rfl⟩, hv⟩

lemma settings_cons (entry : String × String) (env : Environment) : settings (entry :: env) =
    ((ofVariable? entry.1).map (·, entry.2)).toList ++ settings env := by
  rw [settings, List.filterMap_cons]
  cases (ofVariable? entry.1).map (·, entry.2) <;> rfl

lemma useVariable_yields (entry : String × String) (o : Options) :
    Step.Yields (useVariable entry.1 entry.2) o (.ok ())
      (o.assignAll ((ofVariable? entry.1).map (·, entry.2)).toList) := by
  unfold useVariable
  cases ofVariable? entry.1 with
  | none => exact .pure () o
  | some n =>
    have hset : Step.Yields (set n.text entry.2) o (.ok (n.accepted? entry.2).isSome)
        (o.assign n entry.2).1 := by
      rw [Step.Yields, set_text]
      exact ⟨rfl, rfl⟩
    exact .bind_ok hset (.pure () _)

/-- Variables never stop one another; each sets its option in its turn. -/
lemma useVariables_yields (env : Environment) (o : Options) :
    Step.Yields (useVariables env) o (.ok ()) (o.assignAll (settings env)) := by
  induction env generalizing o with
  | nil => exact .pure () o
  | cons entry env ih =>
    rw [settings_cons, assignAll_append]
    exact .bind_ok (useVariable_yields entry o) (ih _)

lemma ofEnvironment_eq_assignAll (env : Environment) :
    (ofEnvironment env).1 = assignAll {} (settings env) :=
  (useVariables_yields env {}).2

lemma value_ofEnvironment (env : Environment) (n : OptionName) :
    (ofEnvironment env).1.value n = (n.given (settings env)).getLast?.getD (value {} n) := by
  rw [ofEnvironment_eq_assignAll, value_assignAll]

/-- What an environment gives to an option can be listed last. -/
lemma exists_perm_of_gives {env : Environment} {n : OptionName} {v : OptionValue}
    (hgives : Gives env n v) :
    ∃ env', List.Perm env' env ∧ (ofEnvironment env').1.value n = v := by
  obtain ⟨key, text, hmem, hnames, hv⟩ := hgives
  obtain ⟨before, after, rfl⟩ := List.append_of_mem hmem
  refine ⟨before ++ after ++ [(key, text)], ?_, ?_⟩
  · rw [List.append_assoc]
    exact List.perm_append_comm.append_left before
  · have hsettings : settings (before ++ after ++ [(key, text)]) =
        settings (before ++ after) ++ [(n, text)] := by
      rw [settings, List.filterMap_append]
      simp [settings, ofVariable?_eq_some.mpr hnames]
    rw [value_ofEnvironment, hsettings, OptionName.given, List.filterMap_append]
    simp [hv]

/-- Every option has a value that a variable gives it, or its default if there is none. The order in
which variables are listed does not matter to the options exactly if no option is given different
values. -/
theorem options_of_environment_ordered_iff (env : Environment) :
    (∀ n, Gives env n ((ofEnvironment env).1.value n) ∨
      (∀ v, ¬Gives env n v) ∧ (ofEnvironment env).1.value n = value {} n) ∧
    ((∀ env', List.Perm env' env → (ofEnvironment env').1 = (ofEnvironment env).1) ↔
      ∀ n v w, Gives env n v → Gives env n w → v = w) := by
  refine ⟨?_, ?_, ?_⟩
  · intro n
    rw [value_ofEnvironment]
    cases hlast : (n.given (settings env)).getLast? with
    | some v => exact .inl (mem_given_settings.mp (List.mem_of_getLast? hlast))
    | none =>
      refine .inr ⟨?_, rfl⟩
      intro v hgives
      rw [← mem_given_settings, List.getLast?_eq_none_iff.mp hlast] at hgives
      cases hgives
  · intro hsame n v w hv hw
    obtain ⟨first, hfirst, rfl⟩ := exists_perm_of_gives hv
    obtain ⟨second, hsecond, rfl⟩ := exists_perm_of_gives hw
    rw [hsame first hfirst, hsame second hsecond]
  · intro hequal env' hperm
    apply ext_value
    intro n
    rw [value_ofEnvironment, value_ofEnvironment]
    have hgiven : (n.given (settings env')).Perm (n.given (settings env)) :=
      (hperm.filterMap _).filterMap _
    rw [getLast?_eq_of_perm hgiven]
    intro v hv w hw
    exact hequal n v w (mem_given_settings.mp hv) (mem_given_settings.mp hw)

theorem capital_and_small_name_ordered :
    let env : Environment :=
      [("BARRIER_SET_COMPRESSED_OOPS", "true"), ("BARRIER_SET_compressed_oops", "false")]
    (env.map Prod.fst).Nodup ∧ List.Perm env.reverse env ∧
      (ofEnvironment env).1.compressedOops = false ∧
      (ofEnvironment env.reverse).1.compressedOops = true := by
  intro env
  have hcapital : ofVariable? "BARRIER_SET_COMPRESSED_OOPS" = some .compressedOops :=
    ofVariable?_eq_some.mpr (names_of_lt "COMPRESSED_OOPS".toList rfl (by simp) (by decide))
  have hsmall : ofVariable? "BARRIER_SET_compressed_oops" = some .compressedOops :=
    ofVariable?_eq_some.mpr (names_of_lt "compressed_oops".toList rfl (by simp) (by decide))
  have hfirst : settings env = [(.compressedOops, "true"), (.compressedOops, "false")] := by
    simp [env, settings, hcapital, hsmall]
  have hsecond : settings env.reverse =
      [(.compressedOops, "false"), (.compressedOops, "true")] := by
    simp [env, settings, hcapital, hsmall]
  refine ⟨by decide, List.reverse_perm env, ?_, ?_⟩
  · rw [ofEnvironment_eq_assignAll, hfirst]
    rfl
  · rw [ofEnvironment_eq_assignAll, hsecond]
    rfl

end Options

end WriteBarrier
