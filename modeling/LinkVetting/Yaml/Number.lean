import LinkVetting.Yaml.Cursor

/-!
# Numbers in plain scalars

A whole number is decimal, or hexadecimal, octal or binary after `0x`, `0o` or `0b`, with a sign
before it. Digits after a leading zero are no number. A fraction has an exponent or a point or
neither, and is finite; the special values have names of their own that begin with a point.
-/

namespace LinkVetting.Yaml

/-! ## Whole numbers -/

def isSign (c : Char) : Bool := c == '+' || c == '-'

/-- A text without the sign it may begin with. -/
def withoutSign : List Char → List Char
  | c :: rest => if isSign c then rest else c :: rest
  | [] => []

/-- Whether a text is made of digits after a leading zero. -/
def isPaddedNumber (text : List Char) : Bool :=
  match withoutSign text with
  | first :: second :: rest => first == '0' && (second :: rest).all Char.isDigit
  | _ => false

/-- Whether a character is a digit of a base. -/
def isDigitOf (base : Nat) (c : Char) : Bool := isHexDigit c && digitValue c < base

/-- The number that digits of a base spell, if it is at most a given one. -/
def readDigits (base most : Nat) (digits : List Char) : Option Nat :=
  if digits.isEmpty || !digits.all (isDigitOf base) then none
  else
    let value := digitsValue base digits
    if value ≤ most then some value else none

def baseLetters : List (Char × Nat) := [('x', 16), ('o', 8), ('b', 2)]

/-- The number that a text without its sign spells, if it is at most a given one. -/
def readMagnitude (most : Nat) (text : List Char) : Option Nat :=
  let announced := match text with
    | '0' :: letter :: digits =>
      (baseLetters.lookup letter).bind fun base => readDigits base most digits
    | _ => none
  announced.or (if isPaddedNumber text then none else readDigits 10 most text)

/-- The whole number that a text spells, if it fits into 128 bits. -/
def readInteger (text : List Char) : Option Int :=
  match text with
  | '-' :: rest => (readMagnitude (Nat.pow 2 127) rest).map fun magnitude => -(magnitude : Int)
  | '+' :: rest => (readMagnitude (Nat.pow 2 128 - 1) rest).map Int.ofNat
  | _ => (readMagnitude (Nat.pow 2 128 - 1) text).map Int.ofNat

/-! ## Fractions -/

/-- The digits of an exponent with a sign before them. -/
def readExponent (text : List Char) : Option Int :=
  let digits := withoutSign text
  if digits.isEmpty || !digits.all Char.isDigit then none
  else
    let magnitude : Int := digitsValue 10 digits
    some (if text.head? == some '-' then -magnitude else magnitude)

/-- The exponent after the digits of a fraction, zero if there is none. -/
def readExponentPart : List Char → Option Int
  | [] => some 0
  | c :: rest => if c == 'e' || c == 'E' then readExponent rest else none

/-- The digits of a fraction after its point, if it has one, and what follows them. -/
def readFractionDigits : List Char → List Char × List Char
  | '.' :: rest => rest.span Char.isDigit
  | rest => ([], rest)

/-- The least and the greatest exponent of ten that make a difference for some digits. -/
def clampExponent (digits : Nat) (exponent : Int) : Int :=
  max (-400 - digits) (min 400 exponent)

/-- The magnitude nearest to some digits times a power of ten. -/
def nearest? (digits : List Char) (exponent : Int) : Option Decimal.Binary64 :=
  let value := digitsValue 10 digits
  if value = 0 then some .zero
  else match clampExponent digits.length exponent with
    | .ofNat power => Decimal.Binary64.ofRatio? (value * Nat.pow 10 power) 1
    | .negSucc power => Decimal.Binary64.ofRatio? value (Nat.pow 10 (power + 1))

/-- The finite fraction that a text without its sign spells. -/
def readFraction (text : List Char) : Option Decimal.Binary64 := do
  let (whole, rest) := text.span Char.isDigit
  let (part, rest) := readFractionDigits rest
  if whole.isEmpty && part.isEmpty then none
  else
    let exponent ← readExponentPart rest
    nearest? (whole ++ part) (exponent - part.length)

inductive FloatValue where
  | finite (value : Decimal.Binary64)
  | infinite (negative : Bool)
  | notNumber
  deriving DecidableEq, Repr

def FloatValue.chars : FloatValue → List Char
  | .finite value => Json.plainFloatChars value
  | .infinite true => ['-', 'i', 'n', 'f']
  | .infinite false => ['i', 'n', 'f']
  | .notNumber => ['N', 'a', 'N']

/-- The forms of a word: lowercase, capitalised, and uppercase. -/
def isWord (lower capital upper : String) (text : List Char) : Bool :=
  text == lower.toList || text == capital.toList || text == upper.toList

def isInfinity (text : List Char) : Bool := isWord ".inf" ".Inf" ".INF" text

/-- The value of a fraction that a text spells. -/
def readFloat (text : List Char) : Option FloatValue :=
  if isWord ".nan" ".NaN" ".NAN" text then some .notNumber
  else match text with
    | '-' :: rest =>
      if isInfinity rest then some (.infinite true)
      else (readFraction rest).map fun value => .finite (value.withSign true)
    | '+' :: rest =>
      if isInfinity rest then some (.infinite false) else (readFraction rest).map .finite
    | _ => if isInfinity text then some (.infinite false) else (readFraction text).map .finite

end LinkVetting.Yaml
