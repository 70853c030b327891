import LinkVetting.Decimal.Binary64

/-!
# Similarity of words

Two characters of two words match when they are equal and their places are not far apart. The
similarity of two words is the mean of three shares: of the matching characters in the one word, in
the other, and of those among them that stand in the same order.
-/

namespace LinkVetting.Text

open Decimal (Binary64)

/-- How far apart the places of matching characters may be. -/
def matchRange (left right : List Char) : Nat := max left.length right.length / 2 - 1

/-- For every character of a word the place of its match in another word; `taken` are the places
that are matched already. -/
def matchesFrom (range : Nat) (right : List (Char × Nat)) (taken : List Nat) (place : Nat) :
    List Char → List (Option Nat)
  | [] => []
  | c :: later =>
    let found := right.find? fun (other, there) =>
      other == c && place ≤ there + range && there ≤ place + range && !taken.contains there
    match found with
    | some (_, there) =>
      some there :: matchesFrom range right (there :: taken) (place + 1) later
    | none => none :: matchesFrom range right taken (place + 1) later

/-- The matching characters of both words, each in the order of its word. -/
def matching (left right : List Char) : List (Char × Char) :=
  let places := matchesFrom (matchRange left right) right.zipIdx [] 0 left
  let ours := (left.zip places).filterMap fun (c, place) => place.map fun _ => c
  let theirs := right.zipIdx.filterMap fun (c, place) =>
    if places.contains (some place) then some c else none
  ours.zip theirs

/-- The similarity of two words, rounded at every step. -/
def similarity (left right : List Char) : Binary64 :=
  let pairs := matching left right
  let count := pairs.length
  let swapped := (pairs.countP fun (ours, theirs) => ours != theirs) / 2
  let shares : Option Binary64 := do
    if count = 0 then none
    let ours ← Binary64.ofRatio? count left.length
    let theirs ← Binary64.ofRatio? count right.length
    let order ← Binary64.ofRatio? (count - swapped) count
    let sum ← (← ours.plus? theirs).plus? order
    sum.dividedBy? (← Binary64.ofNat? 3)
  shares.getD .zero

def similarityBound : Binary64 := (Binary64.ofRatio? 7 10).getD .zero

/-- The words that are similar to a given one, the most similar one last. -/
def similarWords (word : List Char) (words : List String) : List String :=
  let scored := (words.map fun other => (similarity word other.toList, other)).filter
    fun (score, _) => similarityBound.isBelow score
  (scored.mergeSort fun left right => !right.1.isBelow left.1).map (·.2)

end LinkVetting.Text
