import Mathlib.Data.List.Basic
import Mathlib.Tactic.Lemma
import WriteBarrier.Options.Bulk
import WriteBarrier.Proofs.OptionValues

/-!
# Bulk options

A text of `name=value` words means its words in their order. Whether a word is accepted does not
depend on the options that it meets, so a text is the sum of its words: each option has the last
value that a word gave it, every word that gives none is warned about, and two texts with a blank
between them are the one after the other.
-/

namespace WriteBarrier

namespace Text

/-- The text consists of the words, with blanks before, between and after them. -/
inductive Words : List Char → List (List Char) → Prop
  | nil : Words [] []
  | blank {c : Char} {cs : List Char} {ws : List (List Char)} :
      isBlank c = true → Words cs ws → Words (c :: cs) ws
  | word {w cs : List Char} {ws : List (List Char)} : w ≠ [] → (∀ c ∈ w, isBlank c = false) →
      (∀ c ∈ cs.head?, isBlank c = true) → Words cs ws → Words (w ++ cs) (w :: ws)

lemma words_cons_blank {c : Char} {cs : List Char} (hc : isBlank c = true) :
    words (c :: cs) = words cs := by
  simp [words, pieces, hc]

/-- The first piece goes on with the characters before it. -/
lemma pieces_append_of_not {separates : Char → Bool} {w cs first : List Char}
    {rest : List (List Char)} (hw : ∀ c ∈ w, separates c = false)
    (hcs : pieces separates cs = first :: rest) :
    pieces separates (w ++ cs) = (w ++ first) :: rest := by
  induction w with
  | nil => exact hcs
  | cons c w ih =>
    have hrest := ih fun d hd => hw d (.tail _ hd)
    simp [pieces, hw c (.head _), hrest]

lemma words_append_word {w cs : List Char} (hne : w ≠ []) (hw : ∀ c ∈ w, isBlank c = false)
    (hcs : ∀ c ∈ cs.head?, isBlank c = true) : words (w ++ cs) = w :: words cs := by
  cases cs with
  | nil =>
    rw [words, pieces_append_of_not hw rfl]
    simp [hne, words, pieces]
  | cons c cs =>
    have hc : isBlank c = true := hcs c rfl
    have hpieces : pieces isBlank (c :: cs) = [] :: pieces isBlank cs := by simp [pieces, hc]
    rw [words, pieces_append_of_not hw hpieces, words_cons_blank hc]
    simp [hne, words]

/-- The words of a text are the only ones of which it consists. -/
theorem words_iff {cs : List Char} {ws : List (List Char)} : Words cs ws ↔ ws = words cs := by
  constructor
  · intro h
    induction h with
    | nil => rfl
    | blank hc _ ih => rw [words_cons_blank hc, ih]
    | word hne hw hcs _ ih => rw [words_append_word hne hw hcs, ih]
  · rintro rfl
    -- A character that is no blank goes on with a word `w` that has been begun.
    have hboth : Words cs (words cs) ∧ ∀ w, w ≠ [] → (∀ c ∈ w, isBlank c = false) →
        Words (w ++ cs) (words (w ++ cs)) := by
      induction cs with
      | nil =>
        refine ⟨.nil, ?_⟩
        intro w hne hw
        rw [words_append_word hne hw (by simp)]
        exact .word hne hw (by simp) .nil
      | cons c cs ih =>
        by_cases hc : isBlank c = true
        · have hblank : Words (c :: cs) (words (c :: cs)) := by
            rw [words_cons_blank hc]
            exact .blank hc ih.1
          refine ⟨hblank, ?_⟩
          intro w hne hw
          have hhead : ∀ d ∈ (c :: cs).head?, isBlank d = true := by simp [hc]
          rw [words_append_word hne hw hhead]
          exact .word hne hw hhead hblank
        · have hc : isBlank c = false := Bool.eq_false_iff.mpr hc
          refine ⟨ih.2 [c] (by simp) (by simp [hc]), ?_⟩
          intro w hne hw
          have hnext := ih.2 (w ++ [c]) (by simp) (by
            intro d hd
            cases List.mem_append.mp hd with
            | inl hd => exact hw d hd
            | inr hd => rwa [List.mem_singleton.mp hd])
          rwa [List.append_assoc] at hnext
    exact hboth.1

lemma splitAtMark?_append {mark : Char} {l : List Char} (hl : mark ∉ l) (r : List Char) :
    splitAtMark? mark (l ++ mark :: r) = some (l, r) := by
  induction l with
  | nil => simp [splitAtMark?]
  | cons c l ih =>
    have hc : c ≠ mark := fun h => hl (h ▸ .head _)
    simp [splitAtMark?, hc, ih fun h => hl (.tail _ h)]

end Text

lemma OptionName.mark_not_mem_text (n : OptionName) : '=' ∉ n.text.toList := by
  cases n <;> decide

namespace Options

/-- The value that a word gives to an option. -/
def given? (n : OptionName) (word : List Char) : Option OptionValue :=
  match Text.splitAtMark? '=' word with
  | none => none
  | some (key, value) =>
    if key = n.text.toList then n.accepted? (String.ofList value) else none

/-- The word gives no option a value, for the reason that the line states. -/
inductive Warns : List Char → LogLine → Prop
  | malformed {word : List Char} : '=' ∉ word → Warns word
      ⟨.warn, s!"Unable to parse option {Text.quoted (String.ofList word)}. Expected name=value."⟩
  | unknown {key value : List Char} : '=' ∉ key → (∀ n : OptionName, n.text.toList ≠ key) →
      Warns (key ++ '=' :: value)
        ⟨.warn, s!"Unknown option {Text.quoted (String.ofList key)}. Ignored."⟩
  | unreadable {n : OptionName} {value : List Char} : n.read? (String.ofList value) = none →
      Warns (n.text.toList ++ '=' :: value)
        ⟨.warn, s!"Unable to set {n.text}={Text.quoted (String.ofList value)}. Cant parse value. Default value will be used."⟩
  | refused {n : OptionName} {value : List Char} {v : OptionValue} :
      n.read? (String.ofList value) = some v → n.admits v = false →
      Warns (n.text.toList ++ '=' :: value)
        ⟨.warn, s!"Unable to set {n.text}={v.shown}. Invalid value. Default value will be used."⟩

namespace Token

def setting? : Token → Option (OptionName × String)
  | pair name value => some (name, value)
  | _ => none

/-- The line about a word that is not accepted. -/
def warning? : Token → Option LogLine
  | malformed word =>
    some ⟨.warn, s!"Unable to parse option {Text.quoted word}. Expected name=value."⟩
  | unknown key => some ⟨.warn, s!"Unknown option {Text.quoted key}. Ignored."⟩
  | pair name value => ((name.verdict value).warnings name.text).head?

lemma toList_head?_warnings (verdict : Verdict) (key : String) :
    (verdict.warnings key).head?.toList = verdict.warnings key := by
  cases verdict <;> rfl

lemma warning?_pair_eq_none {n : OptionName} {value : String} :
    (pair n value).warning? = none ↔ (n.accepted? value).isSome = true := by
  rw [warning?, ← OptionName.verdict_eq_accepted, List.head?_eq_none_iff]
  cases n.verdict value <;> simp [Verdict.warnings]

/-- A word is accepted, refused and warned about in the same way whatever the options are. -/
lemma process_apply (token : Token) (o : Options) : token.process o =
    ⟨.ok token.warning?.isNone, o.assignAll token.setting?.toList, token.warning?.toList⟩ := by
  cases token with
  | pair n value =>
    have haccepted : (pair n value).warning?.isNone = (n.accepted? value).isSome := by
      rw [Bool.eq_iff_iff, Option.isNone_iff_eq_none, warning?_pair_eq_none]
    rw [haccepted, warning?, toList_head?_warnings]
    exact set_text
  | _ => rfl

end Token

open Token in
lemma processAll_apply (tokens : List Token) (o : Options) : processAll tokens o =
    ⟨.ok (tokens.all (·.warning?.isNone)), o.assignAll (tokens.filterMap setting?),
      tokens.filterMap warning?⟩ := by
  induction tokens generalizing o with
  | nil => rfl
  | cons token tokens ih =>
    rw [processAll, Step.bind_apply_ok (process_apply token o), Step.bind_apply_ok (ih _)]
    simp only [Step.pure_apply, List.append_nil, ← assignAll_append, List.all_cons,
      List.filterMap_eq_flatMap_toList, List.flatMap_cons]

lemma ofWord_of_not_mem {word : List Char} (h : '=' ∉ word) :
    Token.ofWord word = .malformed (String.ofList word) := by
  rw [Token.ofWord, Text.splitAtMark?_eq_none.mpr h]

lemma ofWord_of_unknown {key : List Char} (hmark : '=' ∉ key)
    (hkey : ∀ n : OptionName, n.text.toList ≠ key) (value : List Char) :
    Token.ofWord (key ++ '=' :: value) = .unknown (String.ofList key) := by
  have hnone : OptionName.ofText? (String.ofList key) = none := by
    rw [Option.eq_none_iff_forall_not_mem]
    intro n hn
    have hname := OptionName.ofText?_eq_some.mp hn
    exact hkey n (by rw [← hname, String.toList_ofList])
  simp only [Token.ofWord, Text.splitAtMark?_append hmark, hnone]

lemma ofWord_of_text (n : OptionName) (value : List Char) :
    Token.ofWord (n.text.toList ++ '=' :: value) = .pair n (String.ofList value) := by
  simp only [Token.ofWord, Text.splitAtMark?_append n.mark_not_mem_text, String.ofList_toList,
    OptionName.ofText?_text]

/-- A word has no mark, a key before its first mark that is no name, or such a name. -/
lemma word_cases (word : List Char) : '=' ∉ word ∨
    (∃ key value, word = key ++ '=' :: value ∧ '=' ∉ key ∧
      ∀ n : OptionName, n.text.toList ≠ key) ∨
    ∃ (n : OptionName) (value : List Char), word = n.text.toList ++ '=' :: value := by
  cases hsplit : Text.splitAtMark? '=' word with
  | none => exact .inl (Text.splitAtMark?_eq_none.mp hsplit)
  | some parts =>
    obtain ⟨hword, hmark⟩ := Text.splitAtMark?_eq_some hsplit
    by_cases hname : ∃ n : OptionName, n.text.toList = parts.1
    · obtain ⟨n, hn⟩ := hname
      exact .inr (.inr ⟨n, parts.2, hn ▸ hword⟩)
    · exact .inr (.inl ⟨parts.1, parts.2, hword, hmark, not_exists.mp hname⟩)

lemma given?_of_text (n m : OptionName) (value : List Char) :
    given? n (m.text.toList ++ '=' :: value) =
      if m = n then n.accepted? (String.ofList value) else none := by
  have hname : m.text.toList = n.text.toList ↔ m = n := by
    constructor
    · intro h
      have hfound := OptionName.ofText?_text m
      rw [String.toList_inj.mp h, OptionName.ofText?_text] at hfound
      exact (Option.some.inj hfound).symm
    · rintro rfl
      rfl
  simp only [given?, Text.splitAtMark?_append m.mark_not_mem_text, hname]

lemma given_settings (n : OptionName) (words : List (List Char)) :
    n.given ((words.map Token.ofWord).filterMap Token.setting?) = words.filterMap (given? n) := by
  rw [OptionName.given, List.filterMap_filterMap, List.filterMap_map]
  congr 1
  funext word
  rw [Function.comp_apply]
  rcases word_cases word with hmark | ⟨key, value, rfl, hmark, hkey⟩ | ⟨m, value, rfl⟩
  · rw [ofWord_of_not_mem hmark, given?, Text.splitAtMark?_eq_none.mpr hmark]
    rfl
  · have hne : key ≠ n.text.toList := (hkey n).symm
    simp only [ofWord_of_unknown hmark hkey, given?, Text.splitAtMark?_append hmark, if_neg hne]
    rfl
  · rw [ofWord_of_text, given?_of_text]
    rfl

/-- The line about a word states a reason, and every reason has its line. -/
lemma warning?_eq_some {word : List Char} {line : LogLine} :
    (Token.ofWord word).warning? = some line ↔ Warns word line := by
  constructor
  · intro h
    rcases word_cases word with hmark | ⟨key, value, rfl, hmark, hkey⟩ | ⟨n, value, rfl⟩
    · rw [ofWord_of_not_mem hmark] at h
      cases h
      exact .malformed hmark
    · rw [ofWord_of_unknown hmark hkey] at h
      cases h
      exact .unknown hmark hkey
    · rw [ofWord_of_text, Token.warning?, OptionName.verdict] at h
      cases hread : n.read? (String.ofList value) with
      | none =>
        rw [hread] at h
        cases h
        exact .unreadable hread
      | some v =>
        by_cases hv : n.admits v = true
        · simp [hread, hv, Verdict.warnings] at h
        · have hv := Bool.eq_false_iff.mpr hv
          simp only [hread, hv, Bool.false_eq_true, if_false] at h
          cases h
          exact .refused hread hv
  · intro h
    cases h with
    | malformed hmark =>
      rw [ofWord_of_not_mem hmark]
      rfl
    | unknown hmark hkey =>
      rw [ofWord_of_unknown hmark hkey]
      rfl
    | unreadable hread =>
      rw [ofWord_of_text, Token.warning?, OptionName.verdict, hread]
      rfl
    | refused hread hv =>
      rw [ofWord_of_text, Token.warning?, OptionName.verdict, hread]
      simp only [hv, Bool.false_eq_true, if_false]
      rfl

/-- A text of options never stops. Each option has the last value that a word gives it, or its
previous one; the text is accepted exactly if no word is warned about, and the warnings stand in the
order of the words. With a blank between them two texts do what they do one after the other. -/
theorem setBulk_means_words (o : Options) (text : String) :
    let words := Text.words text.toList
    let outcome := setBulk text o
    (∀ ws, Text.Words text.toList ws ↔ ws = words) ∧
    (∃ accepted, outcome.result = .ok accepted ∧
      (accepted = false ↔ ∃ word ∈ words, ∃ line, Warns word line)) ∧
    (∀ n, outcome.state.value n = (words.filterMap (given? n)).getLast?.getD (o.value n)) ∧
    outcome.lines = words.filterMap (fun word => (Token.ofWord word).warning?) ∧
    (∀ word line, (Token.ofWord word).warning? = some line ↔ Warns word line) ∧
    ∀ blank, Text.isBlank blank = true → ∀ rest : String,
      setBulk (text ++ String.singleton blank ++ rest) o = (do
        let first ← setBulk text
        let second ← setBulk rest
        return first && second : Step Options Bool) o := by
  intro words outcome
  have happly : ∀ (s : String) (o : Options), setBulk s o =
      ⟨.ok ((Token.ofText s).all (·.warning?.isNone)),
        o.assignAll ((Token.ofText s).filterMap Token.setting?),
        (Token.ofText s).filterMap Token.warning?⟩ := fun s o => processAll_apply _ o
  have houtcome : outcome = _ := happly text o
  refine ⟨fun ws => Text.words_iff, ?_, ?_, ?_, fun word line => warning?_eq_some, ?_⟩
  · refine ⟨_, congrArg Outcome.result houtcome, ?_⟩
    simp only [List.all_eq_false, Token.ofText, List.mem_map, ← warning?_eq_some,
      Option.isNone_iff_eq_none, ← Option.isSome_iff_exists, ← Option.ne_none_iff_isSome]
    constructor
    · rintro ⟨token, ⟨word, hword, rfl⟩, hwarned⟩
      exact ⟨word, hword, hwarned⟩
    · rintro ⟨word, hword, hwarned⟩
      exact ⟨_, ⟨word, hword, rfl⟩, hwarned⟩
  · intro n
    rw [houtcome, value_assignAll, Token.ofText, given_settings]
  · rw [houtcome]
    exact List.filterMap_map
  · intro blank hblank rest
    have htokens : Token.ofText (text ++ String.singleton blank ++ rest) =
        Token.ofText text ++ Token.ofText rest := by
      simp only [Token.ofText, String.toList_append, String.toList_singleton, List.append_assoc,
        List.singleton_append, Text.words_append_blank hblank, List.map_append]
    rw [Step.bind_apply_ok (happly text o), Step.bind_apply_ok (happly rest _), happly, htokens]
    simp only [List.all_append, List.filterMap_append, assignAll_append, Step.pure_apply,
      List.append_nil]

theorem setBulk_means_words_of_repeated_keys :
    let text := "compressed_oops_shift=1 bogus"
    let rest := "compressed_oops_shift=2 compressed_oops_shift=9"
    let joined := text ++ String.singleton '\n' ++ rest
    Text.isBlank '\n' = true ∧
    setBulk joined {} = (do
      let first ← setBulk text
      let second ← setBulk rest
      return first && second : Step Options Bool) {} ∧
    (setBulk joined {}).state.value .compressedOopsShift = .number 2 := by
  intro text rest joined
  have hblank : Text.isBlank '\n' = true := rfl
  have hjoined := setBulk_means_words {} joined
  have hlast : ((Text.words joined.toList).filterMap (given? .compressedOopsShift)).getLast? =
      some (.number 2) := by decide +kernel
  have hvalue := hjoined.2.2.1 .compressedOopsShift
  rw [hlast] at hvalue
  exact ⟨hblank, (setBulk_means_words {} text).2.2.2.2.2 '\n' hblank rest, hvalue⟩

end Options

end WriteBarrier
