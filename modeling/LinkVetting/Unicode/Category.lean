import LinkVetting.Unicode.Letter
import LinkVetting.Unicode.Mark
import LinkVetting.Unicode.Numeral
import LinkVetting.Unicode.Punctuation
import LinkVetting.Unicode.Symbol
import LinkVetting.Unicode.Separator
import LinkVetting.Unicode.Property

/-!
# Character classes

Every character class of this library is a Boolean function of a code point, put together from the
category and property tables. ASCII is decided first wherever a class is asked for often.
-/

namespace LinkVetting.Unicode

def isLetter (code : Nat) : Bool :=
  lowercaseLetter.mem code || uppercaseLetter.mem code || titlecaseLetter.mem code ||
    modifierLetter.mem code || otherLetter.mem code

def isMark (code : Nat) : Bool :=
  nonspacingMark.mem code || spacingMark.mem code || enclosingMark.mem code

def isNumber (code : Nat) : Bool :=
  decimalNumber.mem code || letterNumber.mem code || otherNumber.mem code

def isPunctuation (code : Nat) : Bool :=
  connectorPunctuation.mem code || dashPunctuation.mem code || openPunctuation.mem code ||
    closePunctuation.mem code || initialPunctuation.mem code || finalPunctuation.mem code ||
    otherPunctuation.mem code

def isSymbol (code : Nat) : Bool :=
  mathSymbol.mem code || currencySymbol.mem code || modifierSymbol.mem code ||
    otherSymbol.mem code

def isSeparator (code : Nat) : Bool :=
  spaceSeparator.mem code || lineSeparator.mem code || paragraphSeparator.mem code

def isSurrogate (code : Nat) : Bool :=
  0xD800 ≤ code && code ≤ 0xDFFF

/-- A code point without a meaning: none of the other categories has it. -/
def isUnassigned (code : Nat) : Bool :=
  !(isLetter code || isMark code || isNumber code || isPunctuation code || isSymbol code ||
    isSeparator code || control.mem code || format.mem code || privateUse.mem code ||
    isSurrogate code)

/-- The letters, letter numbers and vowel signs that words are spelled with. -/
def isAlphabetic (code : Nat) : Bool :=
  if code < 0x80 then (0x41 ≤ code && code ≤ 0x5A) || (0x61 ≤ code && code ≤ 0x7A)
  else isLetter code || letterNumber.mem code || otherAlphabetic.mem code

def isAlphanumeric (code : Nat) : Bool :=
  if code < 0x80 then
    (0x30 ≤ code && code ≤ 0x39) || (0x41 ≤ code && code ≤ 0x5A) || (0x61 ≤ code && code ≤ 0x7A)
  else isAlphabetic code || isNumber code

def isDigit (code : Nat) : Bool :=
  if code < 0x80 then 0x30 ≤ code && code ≤ 0x39 else decimalNumber.mem code

def isSpace (code : Nat) : Bool :=
  if code < 0x80 then (0x09 ≤ code && code ≤ 0x0D) || code == 0x20 else whiteSpace.mem code

def isAsciiWord (code : Nat) : Bool :=
  (0x30 ≤ code && code ≤ 0x39) || (0x41 ≤ code && code ≤ 0x5A) || code == 0x5F ||
    (0x61 ≤ code && code ≤ 0x7A)

/-- A character that a word may hold: letters, marks, digits, connectors and joiners. -/
def isWord (code : Nat) : Bool :=
  if code < 0x80 then isAsciiWord code
  else isLetter code || isMark code || decimalNumber.mem code || letterNumber.mem code ||
    connectorPunctuation.mem code || otherWord.mem code

/-- A character that extends the one before it instead of starting a new one. -/
def extendsGrapheme (code : Nat) : Bool :=
  if code < 0x80 then false
  else nonspacingMark.mem code || enclosingMark.mem code || otherGraphemeExtend.mem code

/-- A character with a visible form. The plain blank is the only separator that counts, and
letters that only fill a place do not count. -/
def isPrintable (code : Nat) : Bool :=
  if code < 0x80 then 0x20 ≤ code && code ≤ 0x7E
  else (isLetter code || isMark code || isNumber code || isPunctuation code || isSymbol code) &&
    !defaultIgnorableCodePoint.mem code

end LinkVetting.Unicode
