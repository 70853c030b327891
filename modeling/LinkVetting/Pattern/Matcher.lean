import LinkVetting.Pattern.Regex

/-!
# Searching in linear time

A search keeps the expression with a mark on every character set that has just read a character.
Reading one more character moves all marks at once, so a search takes one walk over the expression
for every character of the text, whatever the expression is.
-/

namespace LinkVetting.Pattern

inductive Marked where
  | never
  | empty
  | boundary (condition : Boundary)
  | set (members : Char → Bool) (mark : Bool)
  | seq (first second : Marked)
  | either (left right : Marked)
  | star (body : Marked)

def Regex.unmarked : Regex → Marked
  | .never => .never
  | .empty => .empty
  | .boundary condition => .boundary condition
  | .set members => .set members false
  | .seq first second => .seq first.unmarked second.unmarked
  | .either left right => .either left.unmarked right.unmarked
  | .star body => .star body.unmarked

namespace Marked

/-- The expression that is left when marks are forgotten. -/
def forget : Marked → Regex
  | .never => .never
  | .empty => .empty
  | .boundary condition => .boundary condition
  | .set members _ => .set members
  | .seq first second => .seq first.forget second.forget
  | .either left right => .either left.forget right.forget
  | .star body => .star body.forget

/-- Whether the end of the expression is reached between two neighbouring characters, from a mark
inside or, if `entered`, from its start without reading anything. -/
def exits (previous next : Option Char) : (entered : Bool) → Marked → Bool
  | _, .never => false
  | entered, .empty => entered
  | entered, .boundary condition => entered && condition.holds previous next
  | _, .set _ mark => mark
  | entered, .seq first second => exits previous next (exits previous next entered first) second
  | entered, .either left right =>
    exits previous next entered left || exits previous next entered right
  | entered, .star body => entered || exits previous next entered body

/-- Reads one character: marks move on to the sets that can read it next, also from the start of
the expression if it is `entered`. -/
def advance (previous : Option Char) (c : Char) : (entered : Bool) → Marked → Marked
  | _, .never => .never
  | _, .empty => .empty
  | _, .boundary condition => .boundary condition
  | entered, .set members _ => .set members (entered && members c)
  | entered, .seq first second =>
    .seq (advance previous c entered first)
      (advance previous c (exits previous (some c) entered first) second)
  | entered, .either left right =>
    .either (advance previous c entered left) (advance previous c entered right)
  | entered, .star body =>
    .star (advance previous c (entered || exits previous (some c) entered body) body)

/-- Whether some match ends in the rest of a text. A match may start at every position. -/
def finds (marked : Marked) (previous : Option Char) : List Char → Bool
  | [] => exits previous none true marked
  | c :: later =>
    exits previous (some c) true marked || finds (advance previous c true marked) (some c) later

end Marked

/-- Whether a text contains a stretch that the expression reads. -/
def Regex.occursIn (r : Regex) (text : List Char) : Bool :=
  r.unmarked.finds none text

@[simp]
theorem Regex.forget_unmarked (r : Regex) : r.unmarked.forget = r := by
  induction r <;> simp_all [Regex.unmarked, Marked.forget]

end LinkVetting.Pattern
