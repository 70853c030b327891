import LinkVetting.Proofs.Catalogue.DeniedPlaces

/-!
# Rules that look for a stretch

Two built-in rules look for something that may stand anywhere in a candidate: one
markup character, or the token of a script address.  Each fails exactly where such a
stretch is cut out of the candidate, so what surrounds the stretch does not matter, and
a line break is to both rules what a blank is.
-/

namespace LinkVetting

open Unicode (plainLetter)

/-! ## Stretches -/

/-- A rule fails exactly on the candidates with a stretch of the given kind. -/
def Rule.RejectsStretch (rule : Rule) (kind : List Char → Prop) : Prop :=
  ∀ candidate : String, rule.passes candidate = false ↔
    ∃ before word after, candidate.toList = before ++ word ++ after ∧ kind word

/-- Line breaks are exchanged for line breaks or blanks, and everything else stays. -/
structure ExchangesBreaks (exchange : Char → Char) : Prop where
  breaks : ∀ c ∈ ['\n', '\r', '\u2028', '\u2029'],
    exchange c ∈ [' ', '\n', '\r', '\u2028', '\u2029']
  others : ∀ c ∉ ['\n', '\r', '\u2028', '\u2029'], exchange c = c

/-- Text around a candidate that a rule rejects does not make the rule accept it, and
exchanged line breaks do not change what the rule says. -/
structure Rule.LooksEverywhere (rule : Rule) : Prop where
  surrounded : ∀ before candidate after : String, rule.passes candidate = false →
    rule.passes (before ++ candidate ++ after) = false
  exchanged : ∀ exchange, ExchangesBreaks exchange → ∀ candidate : String,
    rule.passes (String.ofList (candidate.toList.map exchange)) = rule.passes candidate

section

variable {rule : Rule} {kind : List Char → Prop} {exchange : Char → Char}

theorem Rule.RejectsStretch.surrounded (rejects : rule.RejectsStretch kind)
    {before candidate after : String} (fails : rule.passes candidate = false) :
    rule.passes (before ++ candidate ++ after) = false := by
  obtain ⟨front, word, back, cut, isKind⟩ := (rejects candidate).mp fails
  apply (rejects _).mpr
  refine ⟨before.toList ++ front, word, back ++ after.toList, ?_, isKind⟩
  rw [String.toList_append, String.toList_append, cut]
  simp only [List.append_assoc]

theorem Rule.RejectsStretch.exchanged (rejects : rule.RejectsStretch kind)
    (respects : ∀ word, kind (word.map exchange) ↔ kind word) {candidate : String} :
    rule.passes (String.ofList (candidate.toList.map exchange)) = rule.passes candidate := by
  suffices agrees : rule.passes (String.ofList (candidate.toList.map exchange)) = false ↔
      rule.passes candidate = false by
    rw [Bool.eq_iff_iff, ← not_iff_not, Bool.not_eq_true, Bool.not_eq_true]
    exact agrees
  rw [rejects, rejects, String.toList_ofList]
  constructor
  · intro found
    obtain ⟨_, _, _, cut, isKind⟩ := found
    obtain ⟨front, after, whole, exchanged, rfl⟩ := List.map_eq_append_iff.mp cut
    obtain ⟨before, word, rfl, rfl, rfl⟩ := List.map_eq_append_iff.mp exchanged
    exact ⟨before, word, after, whole, (respects word).mp isKind⟩
  · intro found
    obtain ⟨before, word, after, cut, isKind⟩ := found
    refine ⟨before.map exchange, word.map exchange, after.map exchange, ?_,
      (respects word).mpr isKind⟩
    rw [cut, List.map_append, List.map_append]

theorem Rule.RejectsStretch.looksEverywhere (rejects : rule.RejectsStretch kind)
    (respects : ∀ exchange, ExchangesBreaks exchange →
      ∀ word, kind (word.map exchange) ↔ kind word) :
    rule.LooksEverywhere where
  surrounded := fun _ _ _ fails => rejects.surrounded fails
  exchanged := fun exchange exchanges _ => rejects.exchanged (respects exchange exchanges)

/-- Among characters that are neither blanks nor line breaks, an exchange is none. -/
theorem ExchangesBreaks.eq_iff (exchanges : ExchangesBreaks exchange) {c other : Char}
    (visible : other ∉ [' ', '\n', '\r', '\u2028', '\u2029']) :
    exchange c = other ↔ c = other := by
  by_cases lineBreak : c ∈ ['\n', '\r', '\u2028', '\u2029']
  · have isBreak := exchanges.breaks c lineBreak
    apply iff_of_false
    · intro same
      rw [same] at isBreak
      exact visible isBreak
    · intro same
      rw [same] at lineBreak
      exact visible (List.mem_cons_of_mem ' ' lineBreak)
  · rw [exchanges.others c lineBreak]

end

namespace Catalogue

/-! ## One markup character -/

section

variable {word : List Char} {exchange : Char → Char}

def IsMarkup (word : List Char) : Prop := ∃ c ∈ markupCharacters, word = [c]

theorem containsMarkup_iff_stretch {text : List Char} :
    ContainsMarkup text ↔
      ∃ before word after, text = before ++ word ++ after ∧ IsMarkup word := by
  constructor
  · intro contains
    obtain ⟨c, inText, markup⟩ := contains
    obtain ⟨before, after, rfl⟩ := List.append_of_mem inText
    exact ⟨before, [c], after, by simp, c, markup, rfl⟩
  · intro found
    obtain ⟨before, _, after, rfl, c, markup, rfl⟩ := found
    exact ⟨c, by simp, markup⟩

theorem isMarkup_exchanged (exchanges : ExchangesBreaks exchange) :
    IsMarkup (word.map exchange) ↔ IsMarkup word := by
  have visible : ∀ c ∈ markupCharacters, c ∉ [' ', '\n', '\r', '\u2028', '\u2029'] := by
    have checked : (markupCharacters.all fun c =>
        decide (c ∉ [' ', '\n', '\r', '\u2028', '\u2029'])) = true := by
      decide
    exact fun c markup => of_decide_eq_true (List.all_eq_true.mp checked c markup)
  simp only [IsMarkup]
  refine exists_congr fun c => and_congr_right fun markup => ?_
  constructor
  · intro same
    obtain ⟨other, rfl, exchanged⟩ := List.map_eq_singleton_iff.mp same
    rw [(exchanges.eq_iff (visible c markup)).mp exchanged]
  · rintro rfl
    rw [List.map_singleton, (exchanges.eq_iff (visible c markup)).mpr rfl]

/-! ## The script token -/

/-- A word is the token of a script address, in any letter case.  The token has an `s` but
no `k`, so the long s is the only letter outside ASCII that a word may have. -/
def IsScript (word : List Char) : Prop :=
  word.length = 11 ∧ List.Forall₂ FoldsTo word "javascript:".toList

theorem isScript_iff : IsScript word ↔ word.map plainLetter = "javascript:".toList := by
  have token : Unicode.isToken "javascript:".toList = true := by decide
  rw [IsScript, forall₂_foldsTo_iff token]
  apply and_iff_right_of_imp
  intro plain
  rw [← List.length_map plainLetter, plain]
  rfl

/-- No letter of a token is read out of a blank or a line break. -/
theorem plainLetter_exchanged (exchanges : ExchangesBreaks exchange) {c : Char} :
    plainLetter (exchange c) ∈ Unicode.tokenAlphabet ∨ plainLetter c ∈ Unicode.tokenAlphabet →
      plainLetter (exchange c) = plainLetter c := by
  have unread : ∀ c ∈ [' ', '\n', '\r', '\u2028', '\u2029'],
      plainLetter c ∉ Unicode.tokenAlphabet := by
    have checked : ([' ', '\n', '\r', '\u2028', '\u2029'].all fun c =>
        decide (plainLetter c ∉ Unicode.tokenAlphabet)) = true := by
      decide
    exact fun c blank => of_decide_eq_true (List.all_eq_true.mp checked c blank)
  intro member
  by_cases lineBreak : c ∈ ['\n', '\r', '\u2028', '\u2029']
  · rcases member with exchanged | plain
    · exact absurd exchanged (unread _ (exchanges.breaks c lineBreak))
    · exact absurd plain (unread c (List.mem_cons_of_mem ' ' lineBreak))
  · rw [exchanges.others c lineBreak]

theorem map_plainLetter_exchanged (exchanges : ExchangesBreaks exchange) {token : List Char}
    (spelled : Unicode.isToken token = true) :
    (word.map exchange).map plainLetter = token ↔ word.map plainLetter = token := by
  induction word generalizing token with
  | nil => rfl
  | cons c word induction =>
      cases token with
      | nil => simp
      | cons letter token =>
          obtain ⟨member, spelledLater⟩ := Unicode.isToken_cons_iff.mp spelled
          have first : plainLetter (exchange c) = letter ↔ plainLetter c = letter := by
            constructor
            · rintro rfl
              exact (plainLetter_exchanged exchanges (Or.inl member)).symm
            · rintro rfl
              exact plainLetter_exchanged exchanges (Or.inr member)
          simp only [List.map_cons, List.cons.injEq, first, induction spelledLater]

theorem isScript_exchanged (exchanges : ExchangesBreaks exchange) :
    IsScript (word.map exchange) ↔ IsScript word := by
  have token : Unicode.isToken "javascript:".toList = true := by decide
  rw [isScript_iff, isScript_iff]
  exact map_plainLetter_exchanged exchanges token

end

/-! ## The rules -/

theorem rejectsStretch_markup :
    (Rule.ofSpelled forbiddenCharacters markupExpression).RejectsStretch IsMarkup := by
  intro candidate
  rw [← Bool.not_eq_true, passes_markup_iff, not_not]
  exact containsMarkup_iff_stretch

theorem rejectsStretch_script :
    (Rule.ofSpelled embeddedJavascript scriptExpression).RejectsStretch IsScript := by
  intro candidate
  rw [← Bool.not_eq_true, passes_script_iff, not_not]
  simp only [ContainsScript, isScript_iff]

/-- One rule rejects a candidate exactly where it holds a markup character, the other
exactly where eleven characters of it read as the token of a script address, at any
place.  Neither depends on line breaks or on what surrounds the stretch. -/
theorem stretch_rules_fail_iff :
    (∃ rule, RuleSet.builtin.find? "forbidden_characters" = some rule ∧
      rule.toRuleText = forbiddenCharacters ∧
      (∀ candidate : String, rule.passes candidate = false ↔
        ∃ c ∈ candidate.toList, c ∈ markupCharacters) ∧
      rule.LooksEverywhere) ∧
    ∃ rule, RuleSet.builtin.find? "embedded_javascript" = some rule ∧
      rule.toRuleText = embeddedJavascript ∧
      (∀ candidate : String, rule.passes candidate = false ↔
        ∃ before word after, candidate.toList = before ++ word ++ after ∧
          word.length = 11 ∧ List.Forall₂ FoldsTo word "javascript:".toList) ∧
      rule.LooksEverywhere := by
  constructor
  · refine ⟨.ofSpelled forbiddenCharacters markupExpression, ?_, rfl, ?_, ?_⟩
    · rw [builtin_rules]
      rfl
    · intro candidate
      rw [← Bool.not_eq_true, passes_markup_iff, not_not]
      rfl
    · exact rejectsStretch_markup.looksEverywhere
        fun _ exchanges _ => isMarkup_exchanged exchanges
  · refine ⟨.ofSpelled embeddedJavascript scriptExpression, ?_, rfl, ?_, ?_⟩
    · rw [builtin_rules]
      rfl
    · exact rejectsStretch_script
    · exact rejectsStretch_script.looksEverywhere
        fun _ exchanges _ => isScript_exchanged exchanges

end Catalogue

end LinkVetting
