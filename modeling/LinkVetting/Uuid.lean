import LinkVetting.Text.Utf8
import LinkVetting.Json.Reader

/-!
# Identifiers

An identifier has 128 bits, written as 32 hexadecimal digits. It is printed in groups of 8, 4, 4, 4
and 12 digits with hyphens between them. It is also read without hyphens, in braces, or after
`urn:uuid:`.
-/

namespace LinkVetting

structure Uuid where
  digits : List (Fin 16)
  length_eq : digits.length = 32
  deriving DecidableEq

namespace Uuid

def digitChar (digit : Fin 16) : Char := Json.hexDigit digit.val

def chars (id : Uuid) : List Char :=
  let written := id.digits.map digitChar
  written.take 8 ++ '-' :: (written.drop 8).take 4 ++ '-' :: (written.drop 12).take 4 ++
    '-' :: (written.drop 16).take 4 ++ '-' :: written.drop 20

/-- The identifier made of random digits, which says of itself that it is. -/
def ofRandom (random : Nat → Fin 16) : Uuid where
  digits := (List.range 32).map fun place =>
    if place = 12 then 4
    else if place = 16 then ⟨8 + (random place).val % 4, by omega⟩
    else random place
  length_eq := by simp

/-- What can be wrong with the text of an identifier. -/
inductive Fault where
  /-- A character that does not belong to an identifier, at a byte counted from zero. -/
  | character (found : Char) (place : Nat)
  | length (found : Nat)
  | groupCount (found : Nat)
  | groupLength (group expected found : Nat)
  deriving DecidableEq, Repr

/-- The wording of a fault. -/
def Fault.message (fault : Fault) : String :=
  "UUID parsing failed: " ++ match fault with
    | .character found place => s!"invalid character: found `{found}` at {place}"
    | .length found => s!"invalid length: found {found}"
    | .groupCount found => s!"invalid group count: expected 5, found {found}"
    | .groupLength group expected found =>
      s!"invalid group length in group {group}: expected {expected}, found {found}"

def digitOf? (c : Char) : Option (Fin 16) :=
  match Json.hexValue? c with
  | some value => if bounded : value < 16 then some ⟨value, bounded⟩ else none
  | none => none

def ofDigits? (written : List Char) : Option Uuid :=
  match written.mapM digitOf? with
  | some digits => if counted : digits.length = 32 then some ⟨digits, counted⟩ else none
  | none => none

/-- The digits of a text in groups with hyphens between them. -/
def ofGroups? (text : List Char) : Option Uuid :=
  let hyphenated := [8, 13, 18, 23].all fun place => text[place]? == some '-'
  if text.length = 36 && hyphenated then
    ofDigits? (text.take 8 ++ (text.drop 9).take 4 ++ (text.drop 14).take 4 ++
      (text.drop 19).take 4 ++ text.drop 24)
  else none

def unbraced? (text : List Char) : Option (List Char) :=
  match text with
  | '\x7b' :: rest => if rest.getLast? == some '\x7d' then some rest.dropLast else none
  | _ => none

/-- The start of an identifier that is written as a name. -/
def urnStart : List Char := "urn:uuid:".toList

def withoutUrn? (text : List Char) : Option (List Char) :=
  if urnStart.isPrefixOf text then some (text.drop urnStart.length) else none

def ofText? (text : List Char) : Option Uuid :=
  match text.length with
  | 32 => ofDigits? text
  | 36 => ofGroups? text
  | 38 => (unbraced? text).bind ofGroups?
  | 45 => (withoutUrn? text).bind ofGroups?
  | _ => none

/-- The characters of a text with the number of bytes before each. -/
def placed (start : Nat) : List Char → List (Char × Nat)
  | [] => []
  | c :: later => (c, start) :: placed (start + (Text.Utf8.encodeChar c).length) later

/-- The first byte of every group if the groups are as long as they should be. -/
def groupStarts : List Nat := [0, 9, 14, 19, 24]

/-- The fault of a text that is not an identifier: a wrong character counts before a wrong number
of groups, and that before the first group of a wrong length. -/
def diagnose (text : List Char) : Fault :=
  let size := Text.Utf8.size text
  let (body, offset, isWrapped) := match unbraced? text, withoutUrn? text with
    | some body, _ => (body, 1, true)
    | none, some body => (body, urnStart.length, true)
    | none, none => (text, 0, false)
  let characters := placed 0 body
  match characters.find? fun (c, _) => (digitOf? c).isNone && c != '-' with
  | some (c, place) => .character c (place + offset)
  | none =>
    let bounds := (characters.filter fun (c, _) => c == '-').map (·.2)
    if bounds.isEmpty && !isWrapped then .length size
    else if bounds.length != 4 then .groupCount (bounds.length + 1)
    else
      let groups := (bounds.zip groupStarts).zipIdx
      match groups.find? fun ((bound, start), index) =>
          bound != start + (if index == 0 then 8 else 4) with
      | some ((bound, start), index) =>
        .groupLength index (if index == 0 then 8 else 4) (bound - start)
      | none => .groupLength 4 12 (size - 24)

def read (text : List Char) : Except Fault Uuid :=
  match ofText? text with
  | some id => .ok id
  | none => .error (diagnose text)

end Uuid

end LinkVetting
