import LinkVetting.Decimal.Shortest

/-!
# JSON values

The members of an object stand in a list. A value that was read has them sorted by name, each name
once; `Json.insert` keeps that form.
-/

namespace LinkVetting

namespace Json

/-- A number: a natural one, the negative of a positive one, or a fraction. -/
inductive Number where
  | natural (magnitude : Nat)
  | negative (magnitude : Nat)
  | float (value : Decimal.Binary64)
  deriving DecidableEq, Repr

end Json

inductive Json where
  | null
  | bool (value : Bool)
  | number (value : Json.Number)
  | string (text : String)
  | array (items : List Json)
  | object (members : List (String × Json))

namespace Json

/-- Members sorted by name with one more; an earlier member of the same name gives way. -/
def insert (name : String) (value : Json) : List (String × Json) → List (String × Json)
  | [] => [(name, value)]
  | (other, held) :: later =>
    if name < other then (name, value) :: (other, held) :: later
    else if name = other then (name, value) :: later
    else (other, held) :: insert name value later

/-- An object with its members sorted by name; of two members of one name the later one counts. -/
def ofMembers (members : List (String × Json)) : Json :=
  .object (members.foldl (fun sorted (name, value) => insert name value sorted) [])

def ofNat (n : Nat) : Json := .number (.natural n)

def member? (value : Json) (name : String) : Option Json :=
  match value with
  | .object members => members.lookup name
  | _ => none

end Json

end LinkVetting
