import LinkVetting.Pattern.Matcher

/-!
# Inversion of the reading relation

What an expression reads is determined by the parts of the expression.  The
equivalences below take `Matches` apart constructor by constructor, so that
later arguments never have to invert a derivation themselves.
-/

namespace LinkVetting.Pattern

section

variable {before word after : List Char}

theorem exists_cut_nil {α : Type} {property : List α → List α → Prop} :
    (∃ front back, [] = front ++ back ∧ property front back) ↔ property [] [] := by
  constructor
  · intro parts
    obtain ⟨front, back, cut, holds⟩ := parts
    obtain ⟨rfl, rfl⟩ := List.nil_eq_append_iff.mp cut
    exact holds
  · intro holds
    exact ⟨[], [], rfl, holds⟩

theorem exists_cut_cons {α : Type} {head : α} {tail : List α}
    {property : List α → List α → Prop} :
    (∃ front back, head :: tail = front ++ back ∧ property front back) ↔
      property [] (head :: tail) ∨
        ∃ front back, tail = front ++ back ∧ property (head :: front) back := by
  constructor
  · intro parts
    obtain ⟨front, back, cut, holds⟩ := parts
    rcases List.cons_eq_append_iff.mp cut with ⟨rfl, rfl⟩ | ⟨shorter, rfl, rfl⟩
    · exact Or.inl holds
    · exact Or.inr ⟨shorter, back, rfl, holds⟩
  · intro parts
    rcases parts with holds | ⟨front, back, rfl, holds⟩
    · exact ⟨[], head :: tail, rfl, holds⟩
    · exact ⟨head :: front, back, rfl, holds⟩

@[simp]
theorem matches_never_iff : Matches .never before word after ↔ False := by
  constructor
  · intro reading
    cases reading
  · exact False.elim

@[simp]
theorem matches_empty_iff : Matches .empty before word after ↔ word = [] := by
  constructor
  · intro reading
    cases reading
    rfl
  · intro same
    subst same
    exact .empty

@[simp]
theorem matches_boundary_iff {condition : Boundary} :
    Matches (.boundary condition) before word after ↔
      word = [] ∧ condition.holds before.getLast? after.head? = true := by
  constructor
  · intro reading
    cases reading with
    | boundary holds => exact ⟨rfl, holds⟩
  · intro parts
    obtain ⟨rfl, holds⟩ := parts
    exact .boundary holds

@[simp]
theorem matches_set_iff {members : Char → Bool} :
    Matches (.set members) before word after ↔
      ∃ c, word = [c] ∧ members c = true := by
  constructor
  · intro reading
    cases reading with
    | set member => exact ⟨_, rfl, member⟩
  · intro parts
    obtain ⟨c, rfl, member⟩ := parts
    exact .set member

theorem matches_seq_iff {first second : Regex} :
    Matches (.seq first second) before word after ↔
      ∃ front back, word = front ++ back ∧
        Matches first before front (back ++ after) ∧
          Matches second (before ++ front) back after := by
  constructor
  · intro reading
    cases reading with
    | seq onFront onBack => exact ⟨_, _, rfl, onFront, onBack⟩
  · intro parts
    obtain ⟨front, back, rfl, onFront, onBack⟩ := parts
    exact .seq onFront onBack

@[simp]
theorem matches_either_iff {left right : Regex} :
    Matches (.either left right) before word after ↔
      Matches left before word after ∨ Matches right before word after := by
  constructor
  · intro reading
    cases reading with
    | left reading => exact Or.inl reading
    | right reading => exact Or.inr reading
  · intro parts
    rcases parts with reading | reading
    · exact .left reading
    · exact .right reading

@[simp]
theorem matches_star_nil {body : Regex} : Matches (.star body) before [] after :=
  .done

/-- The first round of a repetition that reads something can be taken to read
something itself: rounds before it leave the place as it is. -/
theorem matches_star_cons_iff {body : Regex} {c : Char} :
    Matches (.star body) before (c :: word) after ↔
      ∃ front back, word = front ++ back ∧
        Matches body before (c :: front) (back ++ after) ∧
          Matches (.star body) (before ++ c :: front) back after := by
  constructor
  · intro reading
    generalize expression : Regex.star body = whole at reading
    generalize stretch : c :: word = read at reading
    induction reading with
    | again onFront onBack _ laterInduction =>
        cases expression
        rcases List.cons_eq_append_iff.mp stretch with ⟨rfl, rfl⟩ | ⟨shorter, rfl, rfl⟩
        · simpa using laterInduction rfl rfl
        · exact ⟨shorter, _, rfl, onFront, onBack⟩
    | done => cases stretch
    | _ => cases expression
  · intro parts
    obtain ⟨front, back, rfl, onFront, onBack⟩ := parts
    exact @Matches.again body before (c :: front) back after onFront onBack

end

end LinkVetting.Pattern
