import LinkVetting.Proofs.Pattern.ReadingInversion
import Mathlib.Tactic.Tauto

/-!
# Adequacy of the matcher

`Resumes marked before word after` says that `marked` can go on from one of its
marks, which stands right behind `before`, and reach its end by reading `word`
where `after` follows.  The three operations of the matcher are specified by
this relation: `exits` asks for the empty word, `advance` moves one character
from the word into the past, and `finds` looks for any word at any place.
-/

namespace LinkVetting.Pattern

namespace Marked

/-- The expression can go on from one of its marks and read a word up to its
end. -/
def Resumes : Marked → List Char → List Char → List Char → Prop
  | .never, _, _, _ => False
  | .empty, _, _, _ => False
  | .boundary _, _, _, _ => False
  | .set _ mark, _, word, _ => mark = true ∧ word = []
  | .seq first second, before, word, after =>
      (∃ front back, word = front ++ back ∧
        Resumes first before front (back ++ after) ∧
          Matches second.forget (before ++ front) back after) ∨
        Resumes second before word after
  | .either left right, before, word, after =>
      Resumes left before word after ∨ Resumes right before word after
  | .star body, before, word, after =>
      ∃ front back, word = front ++ back ∧
        Resumes body before front (back ++ after) ∧
          Matches (.star body.forget) (before ++ front) back after

theorem not_resumes_unmarked (r : Regex) (before word after : List Char) :
    ¬ Resumes r.unmarked before word after := by
  induction r generalizing word after with
  | never | empty | boundary condition | set members =>
      simp [Regex.unmarked, Resumes]
  | seq first second firstInduction secondInduction =>
      simp [Regex.unmarked, Resumes, firstInduction, secondInduction]
  | either left right leftInduction rightInduction =>
      simp [Regex.unmarked, Resumes, leftInduction, rightInduction]
  | star body bodyInduction =>
      simp [Regex.unmarked, Resumes, bodyInduction]

@[simp]
theorem forget_advance (previous : Option Char) (c : Char) (entered : Bool)
    (marked : Marked) :
    (marked.advance previous c entered).forget = marked.forget := by
  induction marked generalizing entered with
  | never | empty | boundary condition | set members mark => rfl
  | seq first second firstInduction secondInduction =>
      simp [advance, forget, firstInduction, secondInduction]
  | either left right leftInduction rightInduction =>
      simp [advance, forget, leftInduction, rightInduction]
  | star body bodyInduction => simp [advance, forget, bodyInduction]

theorem exits_iff {marked : Marked} {before after : List Char} {entered : Bool} :
    marked.exits before.getLast? after.head? entered = true ↔
      Resumes marked before [] after ∨
        (entered = true ∧ Matches marked.forget before [] after) := by
  induction marked generalizing entered with
  | never => simp [exits, Resumes, forget]
  | empty => simp [exits, Resumes, forget]
  | boundary condition => simp [exits, Resumes, forget]
  | set members mark => simp [exits, Resumes, forget]
  | seq first second firstInduction secondInduction =>
      rw [exits, secondInduction, firstInduction]
      simp only [Resumes, forget, matches_seq_iff, exists_cut_nil,
        List.nil_append, List.append_nil]
      tauto
  | either left right leftInduction rightInduction =>
      rw [exits, Bool.or_eq_true, leftInduction, rightInduction]
      simp only [Resumes, forget, matches_either_iff]
      tauto
  | star body bodyInduction =>
      rw [exits, Bool.or_eq_true, bodyInduction]
      simp only [Resumes, forget, exists_cut_nil, List.nil_append,
        matches_star_nil, and_true]
      tauto

theorem exits_some_iff {marked : Marked} {before later : List Char} {c : Char}
    {entered : Bool} :
    marked.exits before.getLast? (some c) entered = true ↔
      Resumes marked before [] (c :: later) ∨
        (entered = true ∧ Matches marked.forget before [] (c :: later)) :=
  @exits_iff marked before (c :: later) entered

/-- Reading a character moves it from the word into the past, both for marks
and for an entry at the start of the expression. -/
theorem resumes_advance_iff {marked : Marked} {before word after : List Char}
    {c : Char} {entered : Bool} :
    Resumes (marked.advance before.getLast? c entered) (before ++ [c]) word after ↔
      Resumes marked before (c :: word) after ∨
        (entered = true ∧ Matches marked.forget before (c :: word) after) := by
  induction marked generalizing entered word after with
  | never => simp [advance, Resumes, forget]
  | empty => simp [advance, Resumes, forget]
  | boundary condition => simp [advance, Resumes, forget]
  | set members mark =>
      constructor
      · intro reading
        obtain ⟨marked, rfl⟩ := reading
        obtain ⟨entry, member⟩ := Bool.and_eq_true_iff.mp marked
        exact Or.inr ⟨entry, .set member⟩
      · intro reading
        rcases reading with ⟨_, impossible⟩ | ⟨entry, reading⟩
        · cases impossible
        · cases reading with
          | set member => exact ⟨Bool.and_eq_true_iff.mpr ⟨entry, member⟩, rfl⟩
  | seq first second firstInduction secondInduction =>
      simp only [advance, Resumes, forget, matches_seq_iff, exists_cut_cons,
        firstInduction, secondInduction, forget_advance,
        @exits_some_iff first before (word ++ after) c, List.cons_append,
        List.append_assoc, List.append_nil]
      constructor
      · intro reading
        rcases reading with ⟨front, back, cut, inFirst | ⟨entry, onFront⟩, onBack⟩ |
          inSecond | ⟨atEnd | ⟨entry, onNothing⟩, onWord⟩
        · exact Or.inl (Or.inl (Or.inr ⟨front, back, cut, inFirst, onBack⟩))
        · exact Or.inr ⟨entry, Or.inr ⟨front, back, cut, onFront, onBack⟩⟩
        · exact Or.inl (Or.inr inSecond)
        · exact Or.inl (Or.inl (Or.inl ⟨atEnd, onWord⟩))
        · exact Or.inr ⟨entry, Or.inl ⟨onNothing, onWord⟩⟩
      · intro reading
        rcases reading with ((⟨atEnd, onWord⟩ | ⟨front, back, cut, inFirst, onBack⟩) |
          inSecond) | ⟨entry, ⟨onNothing, onWord⟩ | ⟨front, back, cut, onFront, onBack⟩⟩
        · exact Or.inr (Or.inr ⟨Or.inl atEnd, onWord⟩)
        · exact Or.inl ⟨front, back, cut, Or.inl inFirst, onBack⟩
        · exact Or.inr (Or.inl inSecond)
        · exact Or.inr (Or.inr ⟨Or.inr ⟨entry, onNothing⟩, onWord⟩)
        · exact Or.inl ⟨front, back, cut, Or.inr ⟨entry, onFront⟩, onBack⟩
  | either left right leftInduction rightInduction =>
      simp only [advance, Resumes, forget, matches_either_iff, leftInduction,
        rightInduction]
      tauto
  | star body bodyInduction =>
      simp only [advance, Resumes, forget, exists_cut_cons, bodyInduction,
        forget_advance, Bool.or_eq_true, matches_star_cons_iff,
        @exits_some_iff body before (word ++ after) c, List.cons_append,
        List.append_assoc, List.append_nil]
      constructor
      · intro reading
        rcases reading with ⟨front, back, cut, inBody |
          ⟨entry | atEnd | ⟨entry, _⟩, onFront⟩, onBack⟩
        · exact Or.inl (Or.inr ⟨front, back, cut, inBody, onBack⟩)
        · exact Or.inr ⟨entry, front, back, cut, onFront, onBack⟩
        · exact Or.inl (Or.inl ⟨atEnd, front, back, cut, onFront, onBack⟩)
        · exact Or.inr ⟨entry, front, back, cut, onFront, onBack⟩
      · intro reading
        rcases reading with (⟨atEnd, front, back, cut, onFront, onBack⟩ |
          ⟨front, back, cut, inBody, onBack⟩) | ⟨entry, front, back, cut, onFront, onBack⟩
        · exact ⟨front, back, cut, Or.inr ⟨Or.inr (Or.inl atEnd), onFront⟩, onBack⟩
        · exact ⟨front, back, cut, Or.inl inBody, onBack⟩
        · exact ⟨front, back, cut, Or.inr ⟨Or.inl entry, onFront⟩, onBack⟩

/-- A search that stands behind `before` finds either a match under way or one
that starts in the rest. -/
theorem finds_iff {marked : Marked} {before rest : List Char} :
    marked.finds before.getLast? rest = true ↔
      (∃ word after, rest = word ++ after ∧ Resumes marked before word after) ∨
        ∃ skipped later, rest = skipped ++ later ∧
          ∃ word after, later = word ++ after ∧
            Matches marked.forget (before ++ skipped) word after := by
  induction rest generalizing marked before with
  | nil =>
      have atEnd := @exits_iff marked before [] true
      rw [List.head?_nil] at atEnd
      rw [finds, atEnd]
      simp only [exists_cut_nil, List.append_nil, true_and]
  | cons c rest induction =>
      have later := @induction (marked.advance before.getLast? c true) (before ++ [c])
      rw [List.getLast?_concat] at later
      rw [finds, Bool.or_eq_true, @exits_some_iff marked before rest c, later]
      simp only [exists_cut_cons, resumes_advance_iff, forget_advance, true_and,
        List.append_assoc, List.singleton_append, List.append_nil]
      constructor
      · intro reading
        rcases reading with (ending | onNothing) | ⟨word, after, cut, goingOn |
          onWord⟩ | elsewhere
        · exact Or.inl (Or.inl ending)
        · exact Or.inr (Or.inl (Or.inl onNothing))
        · exact Or.inl (Or.inr ⟨word, after, cut, goingOn⟩)
        · exact Or.inr (Or.inl (Or.inr ⟨word, after, cut, onWord⟩))
        · exact Or.inr (Or.inr elsewhere)
      · intro reading
        rcases reading with (ending | ⟨word, after, cut, goingOn⟩) | (onNothing |
          ⟨word, after, cut, onWord⟩) | elsewhere
        · exact Or.inl (Or.inl ending)
        · exact Or.inr (Or.inl ⟨word, after, cut, Or.inl goingOn⟩)
        · exact Or.inl (Or.inr onNothing)
        · exact Or.inr (Or.inl ⟨word, after, cut, Or.inr onWord⟩)
        · exact Or.inr (Or.inr elsewhere)

end Marked

/-- The matcher finds a match exactly where there is one. -/
theorem Regex.occursIn_iff {r : Regex} {text : List Char} :
    r.occursIn text = true ↔ OccursIn r text := by
  have search := @Marked.finds_iff r.unmarked [] text
  rw [Regex.occursIn, ← List.getLast?_nil, search]
  simp only [Marked.not_resumes_unmarked, and_false, exists_false, false_or,
    Regex.forget_unmarked, List.nil_append]
  constructor
  · intro reading
    obtain ⟨skipped, later, rfl, word, after, rfl, reading⟩ := reading
    exact ⟨skipped, word, after, by rw [List.append_assoc], reading⟩
  · intro reading
    obtain ⟨before, word, after, rfl, reading⟩ := reading
    exact ⟨before, word ++ after, by rw [List.append_assoc], word, after, rfl, reading⟩

end LinkVetting.Pattern
