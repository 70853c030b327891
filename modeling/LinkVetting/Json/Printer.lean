import LinkVetting.Json.Value

/-!
# Printing JSON

Compact form has no blanks. Indented form puts every item and member on a line of its own, two
blanks deeper than what holds it. In strings only quotes, backslashes and the controls below U+0020
are escaped.
-/

namespace LinkVetting.Json

def hexDigit (n : Nat) : Char :=
  if n < 10 then Char.ofNat (0x30 + n) else Char.ofNat (0x57 + n)

def escapedChar (c : Char) : List Char :=
  if c == '"' then ['\\', '"']
  else if c == '\\' then ['\\', '\\']
  else if c.toNat ≥ 0x20 then [c]
  else if c == '\x08' then ['\\', 'b']
  else if c == '\x0c' then ['\\', 'f']
  else if c == '\n' then ['\\', 'n']
  else if c == '\r' then ['\\', 'r']
  else if c == '\t' then ['\\', 't']
  else ['\\', 'u', '0', '0', hexDigit (c.toNat / 16), hexDigit (c.toNat % 16)]

def stringChars (text : String) : List Char :=
  '"' :: text.toList.flatMap escapedChar ++ ['"']

/-- The least exponent of ten that is written without an exponent. -/
def leastPlainExponent : Int := -5

/-- The greatest exponent of ten that is written without an exponent. -/
def greatestPlainExponent : Int := 15

/-- The exponent of ten of the first digit of a decimal. -/
def leadingExponent (decimal : Decimal.Numeral) : Int :=
  decimal.exponent + (Nat.repr decimal.digits).length - 1

def signChars (value : Decimal.Binary64) : List Char := if value.negative then ['-'] else []

/-- A fraction by its shortest digits and without an exponent, with at least one digit after the
point. -/
def plainFloatChars (value : Decimal.Binary64) : List Char :=
  let decimal := value.shortest
  let digits := (Nat.repr decimal.digits).toList
  let leading := leadingExponent decimal
  signChars value ++
    if value.isZero then ['0', '.', '0']
    else if leading < 0 then
      ['0', '.'] ++ List.replicate (-leading - 1).toNat '0' ++ digits
    else
      let whole := leading.toNat + 1
      let padded := digits ++ List.replicate (whole - digits.length) '0'
      let fraction := padded.drop whole
      padded.take whole ++ ['.'] ++ (if fraction.isEmpty then ['0'] else fraction)

/-- A fraction by its shortest digits and with an exponent. -/
def scientificChars (value : Decimal.Binary64) : List Char :=
  let decimal := value.shortest
  let digits := (Nat.repr decimal.digits).toList
  let leading := leadingExponent decimal
  let fraction := digits.tail
  signChars value ++ digits.take 1 ++ (if fraction.isEmpty then [] else '.' :: fraction) ++
    ['e', if leading < 0 then '-' else '+'] ++ (Nat.repr leading.natAbs).toList

/-- A fraction, without an exponent as long as that is short. -/
def floatChars (value : Decimal.Binary64) : List Char :=
  let leading := leadingExponent value.shortest
  if value.isZero || (leastPlainExponent ≤ leading && leading ≤ greatestPlainExponent) then
    plainFloatChars value
  else scientificChars value

def Number.chars : Number → List Char
  | .natural magnitude => (Nat.repr magnitude).toList
  | .negative magnitude => '-' :: (Nat.repr magnitude).toList
  | .float value => floatChars value

mutual

def compactChars : Json → List Char
  | .null => ['n', 'u', 'l', 'l']
  | .bool true => ['t', 'r', 'u', 'e']
  | .bool false => ['f', 'a', 'l', 's', 'e']
  | .number value => value.chars
  | .string text => stringChars text
  | .array items => '[' :: compactItems items ++ [']']
  | .object members => '\x7b' :: compactMembers members ++ ['\x7d']

/-- The compact form of the items of an array. -/
def compactItems : List Json → List Char
  | [] => []
  | [item] => compactChars item
  | item :: later => compactChars item ++ ',' :: compactItems later

/-- The compact form of the members of an object. -/
def compactMembers : List (String × Json) → List Char
  | [] => []
  | [(name, value)] => stringChars name ++ ':' :: compactChars value
  | (name, value) :: later =>
    stringChars name ++ ':' :: compactChars value ++ ',' :: compactMembers later

end

/-- The compact form of a value as a string. -/
def compact (value : Json) : String := String.ofList value.compactChars

/-- The start of a line at a given depth. -/
def indentation (depth : Nat) : List Char := '\n' :: List.replicate (2 * depth) ' '

mutual

/-- The indented form of a value at a given depth. -/
def indentedChars (depth : Nat) : Json → List Char
  | .array [] => ['[', ']']
  | .array items => '[' :: indentedItems (depth + 1) items ++ indentation depth ++ [']']
  | .object [] => ['\x7b', '\x7d']
  | .object members =>
    '\x7b' :: indentedMembers (depth + 1) members ++ indentation depth ++ ['\x7d']
  | .null => ['n', 'u', 'l', 'l']
  | .bool true => ['t', 'r', 'u', 'e']
  | .bool false => ['f', 'a', 'l', 's', 'e']
  | .number value => value.chars
  | .string text => stringChars text

def indentedItems (depth : Nat) : List Json → List Char
  | [] => []
  | [item] => indentation depth ++ indentedChars depth item
  | item :: later =>
    indentation depth ++ indentedChars depth item ++ ',' :: indentedItems depth later

def indentedMembers (depth : Nat) : List (String × Json) → List Char
  | [] => []
  | [(name, value)] =>
    indentation depth ++ stringChars name ++ [':', ' '] ++ indentedChars depth value
  | (name, value) :: later =>
    indentation depth ++ stringChars name ++ [':', ' '] ++ indentedChars depth value ++
      ',' :: indentedMembers depth later

end

/-- The indented form of a value as a string. -/
def indented (value : Json) : String := String.ofList (value.indentedChars 0)

end LinkVetting.Json
