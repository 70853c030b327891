import LinkVetting.Pattern.Meaning
import LinkVetting.Proofs.Pattern.ReadingInversion
import LinkVetting.Proofs.Unicode.PlainLetter

/-!
# What constructed expressions read

Patterns are put together from sequences, choices and repetitions of single
sets.  Each construction reads what its parts read, and a sequence of caseless
letters reads the words that are the token in plain letters.
-/

namespace LinkVetting.Pattern

section

variable {before word after : List Char}

theorem matches_sequence_nil_iff :
    Matches (Regex.sequence []) before word after ↔ word = [] :=
  matches_empty_iff

theorem matches_sequence_cons_iff {first : Regex} {later : List Regex} :
    Matches (Regex.sequence (first :: later)) before word after ↔
      ∃ front back, word = front ++ back ∧
        Matches first before front (back ++ after) ∧
          Matches (Regex.sequence later) (before ++ front) back after := by
  cases later with
  | nil =>
      simp only [Regex.sequence, matches_empty_iff]
      constructor
      · intro reading
        exact ⟨word, [], by simp, by simpa using reading, rfl⟩
      · intro parts
        obtain ⟨front, back, rfl, reading, rfl⟩ := parts
        simpa using reading
  | cons second later => exact matches_seq_iff

theorem matches_sequence_append_iff {earlier later : List Regex} :
    Matches (Regex.sequence (earlier ++ later)) before word after ↔
      ∃ front back, word = front ++ back ∧
        Matches (Regex.sequence earlier) before front (back ++ after) ∧
          Matches (Regex.sequence later) (before ++ front) back after := by
  induction earlier generalizing before word with
  | nil =>
      constructor
      · intro reading
        exact ⟨[], word, rfl, .empty, by simpa using reading⟩
      · intro parts
        obtain ⟨front, back, rfl, onFront, onBack⟩ := parts
        obtain rfl := matches_empty_iff.mp onFront
        simpa using onBack
  | cons first earlier induction =>
      simp only [List.cons_append, matches_sequence_cons_iff, induction]
      constructor
      · intro parts
        obtain ⟨front, _, rfl, onFront, middle, back, rfl, onMiddle, onBack⟩ := parts
        refine ⟨front ++ middle, back, by simp, ⟨front, middle, rfl, ?_, ?_⟩, ?_⟩
        · simpa using onFront
        · exact onMiddle
        · simpa using onBack
      · intro parts
        obtain ⟨_, back, rfl, ⟨front, middle, rfl, onFront, onMiddle⟩, onBack⟩ := parts
        refine ⟨front, middle ++ back, by simp, ?_, middle, back, rfl, onMiddle, ?_⟩
        · simpa using onFront
        · simpa using onBack

theorem matches_choice_iff {branches : List Regex} :
    Matches (Regex.choice branches) before word after ↔
      ∃ branch ∈ branches, Matches branch before word after := by
  induction branches with
  | nil => simp [Regex.choice]
  | cons branch branches induction =>
      cases branches with
      | nil => simp [Regex.choice]
      | cons next later =>
          rw [Regex.choice, matches_either_iff, induction]
          · simp
          · exact List.cons_ne_nil next later

theorem matches_star_set_iff {members : Char → Bool} :
    Matches (.star (.set members)) before word after ↔
      ∀ c ∈ word, members c = true := by
  induction word generalizing before with
  | nil => simp
  | cons c word induction =>
      rw [matches_star_cons_iff]
      constructor
      · intro parts
        obtain ⟨front, back, rfl, onFront, onBack⟩ := parts
        obtain ⟨read, equality, member⟩ := matches_set_iff.mp onFront
        cases equality
        have later := induction.mp (by simpa using onBack)
        simpa using ⟨member, later⟩
      · intro all
        have member : members c = true := all c List.mem_cons_self
        have later : ∀ d ∈ word, members d = true :=
          fun d inWord => all d (List.mem_cons_of_mem c inWord)
        exact ⟨[], word, rfl, .set member, induction.mpr later⟩

theorem matches_someOf_iff {members : Char → Bool} :
    Matches ((Regex.set members).repeated 1 none) before word after ↔
      word ≠ [] ∧ ∀ c ∈ word, members c = true := by
  simp only [Regex.repeated, Regex.atLeast, matches_seq_iff, matches_set_iff,
    matches_star_set_iff]
  constructor
  · intro parts
    obtain ⟨_, later, rfl, ⟨c, rfl, member⟩, others⟩ := parts
    exact ⟨by simp, by simpa using ⟨member, others⟩⟩
  · intro parts
    obtain ⟨nonempty, all⟩ := parts
    obtain ⟨c, later, rfl⟩ := List.exists_cons_of_ne_nil nonempty
    have others : ∀ d ∈ later, members d = true :=
      fun d inLater => all d (List.mem_cons_of_mem c inLater)
    exact ⟨[c], later, rfl, ⟨c, rfl, all c List.mem_cons_self⟩, others⟩

theorem matches_optional_iff {body : Regex} :
    Matches (body.repeated 0 (some 1)) before word after ↔
      word = [] ∨ Matches body before word after := by
  simp only [Regex.repeated, Regex.times, Regex.atMost, matches_seq_iff,
    matches_either_iff, matches_empty_iff]
  constructor
  · intro parts
    obtain ⟨_, _, rfl, rfl, rfl | ⟨front, _, rfl, reading, rfl⟩⟩ := parts
    · exact Or.inl rfl
    · exact Or.inr (by simpa using reading)
  · intro parts
    rcases parts with rfl | reading
    · exact ⟨[], [], rfl, rfl, Or.inl rfl⟩
    · exact ⟨[], word, rfl, rfl, Or.inr ⟨word, [], by simp, by simpa using reading, rfl⟩⟩

/-- The expression that reads one character in any case. -/
def Regex.caseless (c : Char) : Regex :=
  .ofCodes (.ofList (Unicode.caseVariants c.toNat))

theorem matches_caseless_iff {c : Char} (member : c ∈ Unicode.tokenAlphabet) :
    Matches (Regex.caseless c) before word after ↔
      word.map Unicode.plainLetter = [c] := by
  simp only [Regex.caseless, Regex.ofCodes, matches_set_iff, CodeSet.ofList,
    List.contains_iff_mem, Unicode.mem_caseVariants_iff member]
  constructor
  · intro parts
    obtain ⟨read, rfl, plain⟩ := parts
    simp [plain]
  · intro plain
    obtain ⟨read, rfl, equality⟩ := List.map_eq_singleton_iff.mp plain
    exact ⟨read, rfl, equality⟩

theorem matches_letters_iff {letter : Char → Regex} {plain : Char → Char}
    {token : List Char}
    (reads : ∀ c ∈ token, ∀ {before word after : List Char},
      Matches (letter c) before word after ↔ word.map plain = [c]) :
    Matches (Regex.sequence (token.map letter)) before word after ↔
      word.map plain = token := by
  induction token generalizing before word with
  | nil => simp [Regex.sequence]
  | cons c token induction =>
      have readsHead {before word after : List Char} :=
        @reads c List.mem_cons_self before word after
      have readsTail {before word : List Char} :=
        @induction before word fun other member => reads other (List.mem_cons_of_mem c member)
      simp only [List.map_cons, matches_sequence_cons_iff, readsHead, readsTail]
      constructor
      · intro parts
        obtain ⟨front, back, rfl, onFront, onBack⟩ := parts
        rw [List.map_append, onFront, onBack, List.singleton_append]
      · intro same
        obtain ⟨read, later, rfl, equality, laterPlain⟩ :=
          List.map_eq_cons_iff.mp same
        exact ⟨[read], later, rfl, by simp [equality], laterPlain⟩

theorem matches_token_iff {token : List Char}
    (spelled : Unicode.isToken token = true) :
    Matches (Regex.sequence (token.map Regex.caseless)) before word after ↔
      word.map Unicode.plainLetter = token :=
  matches_letters_iff fun _ member =>
    matches_caseless_iff (Unicode.mem_tokenAlphabet spelled member)

end

end LinkVetting.Pattern
