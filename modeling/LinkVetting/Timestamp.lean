import LinkVetting.Unicode.Category

/-!
# Points in time

A point in time is a date and a time of day in Coordinated Universal Time, to the nanosecond. A
minute may have a sixty-first second. It is printed as RFC 3339 has it, and read more leniently:
blanks between the parts of the date and the time, one or two digits for most parts, any number of
fraction digits, and years of more than four digits behind a sign.
-/

namespace LinkVetting

def isLeapYear (year : Int) : Bool :=
  year % 4 == 0 && (year % 100 != 0 || year % 400 == 0)

/-- The number of days of a month. -/
def daysInMonth (year : Int) (month : Nat) : Nat :=
  if month == 2 then if isLeapYear year then 29 else 28
  else if [4, 6, 9, 11].contains month then 30
  else 31

structure Date where
  year : Int
  month : Nat
  day : Nat
  deriving DecidableEq, Repr

namespace Date

def firstYear : Int := -262143

def lastYear : Int := 262142

/-- Whether the day exists and its year is represented. -/
def isValid (date : Date) : Bool :=
  firstYear ≤ date.year && date.year ≤ lastYear && 1 ≤ date.month && date.month ≤ 12 &&
    1 ≤ date.day && date.day ≤ daysInMonth date.year date.month

def next (date : Date) : Date :=
  if date.day < daysInMonth date.year date.month then { date with day := date.day + 1 }
  else if date.month < 12 then { date with month := date.month + 1, day := 1 }
  else ⟨date.year + 1, 1, 1⟩

def previous (date : Date) : Date :=
  if date.day > 1 then { date with day := date.day - 1 }
  else if date.month > 1 then
    { date with month := date.month - 1, day := daysInMonth date.year (date.month - 1) }
  else ⟨date.year - 1, 12, 31⟩

end Date

structure Clock where
  hour : Nat
  minute : Nat
  second : Nat
  nanosecond : Nat
  deriving DecidableEq, Repr

namespace Clock

def isValid (clock : Clock) : Bool :=
  clock.hour < 24 && clock.minute < 60 && clock.second ≤ 60 && clock.nanosecond < 1000000000

end Clock

structure Timestamp where
  date : Date
  clock : Clock
  date_valid : date.isValid = true
  clock_valid : clock.isValid = true
  deriving DecidableEq

namespace Timestamp

/-! ## Counting seconds -/

/-- The beginning of the year 1970, from which seconds are counted. -/
def epoch : Timestamp where
  date := ⟨1970, 1, 1⟩
  clock := ⟨0, 0, 0, 0⟩
  date_valid := by decide
  clock_valid := by decide

/-- The seconds of a day. -/
def secondsPerDay : Nat := 86400

/-- The point in time some seconds and nanoseconds after the epoch, as far as it is represented. -/
def afterEpoch (seconds nanosecond : Nat) : Timestamp :=
  let date := (seconds / secondsPerDay).repeat Date.next epoch.date
  let second := seconds % secondsPerDay
  let clock : Clock := ⟨second / 3600, second / 60 % 60, second % 60, nanosecond⟩
  if valid : date.isValid = true ∧ clock.isValid = true then ⟨date, clock, valid.1, valid.2⟩
  else epoch

/-! ## Printing -/

/-- The decimal digits of a number, with zeros in front up to a width. -/
def paddedChars (width n : Nat) : List Char :=
  let digits := (Nat.repr n).toList
  List.replicate (width - digits.length) '0' ++ digits

/-- A year: four digits, or a sign and at least four digits. -/
def yearChars (year : Int) : List Char :=
  if 0 ≤ year && year ≤ 9999 then paddedChars 4 year.toNat
  else (if year < 0 then '-' else '+') :: paddedChars 4 year.natAbs

/-- A fraction of a second: as many groups of three digits as it needs. -/
def fractionChars (nanosecond : Nat) : List Char :=
  if nanosecond = 0 then []
  else if nanosecond % 1000000 = 0 then '.' :: paddedChars 3 (nanosecond / 1000000)
  else if nanosecond % 1000 = 0 then '.' :: paddedChars 6 (nanosecond / 1000)
  else '.' :: paddedChars 9 nanosecond

def secondChars (time : Timestamp) : List Char :=
  yearChars time.date.year ++ '-' :: paddedChars 2 time.date.month ++
    '-' :: paddedChars 2 time.date.day ++ 'T' :: paddedChars 2 time.clock.hour ++
    ':' :: paddedChars 2 time.clock.minute ++ ':' :: paddedChars 2 time.clock.second

def chars (time : Timestamp) : List Char :=
  time.secondChars ++ fractionChars time.clock.nanosecond ++ ['Z']

/-- A point in time as text, always to the microsecond. -/
def microsecondChars (time : Timestamp) : List Char :=
  time.secondChars ++ '.' :: paddedChars 6 (time.clock.nanosecond / 1000) ++ ['Z']

/-! ## Reading -/

/-- What can be wrong with the text of a point in time. -/
inductive Fault where
  | outOfRange
  | unrepresented
  | unexpected
  | tooShort
  | tooLong
  deriving DecidableEq, Repr

def Fault.message : Fault → String
  | .outOfRange => "input is out of range"
  | .unrepresented => "no possible date and time matching input"
  | .unexpected => "input contains invalid characters"
  | .tooShort => "premature end of input"
  | .tooLong => "trailing input"

def dropSpace (text : List Char) : List Char := text.dropWhile fun c => Unicode.isSpace c.toNat

/-- The value of digits. -/
def digitsValue (digits : List Char) : Nat :=
  digits.foldl (fun value c => value * 10 + (c.toNat - 0x30)) 0

def readNumber (width : Nat) (text : List Char) : Except Fault (Nat × List Char) :=
  match text with
  | [] => .error .tooShort
  | c :: _ =>
    if !c.isDigit then .error .unexpected
    else
      let digits := (text.take width).takeWhile Char.isDigit
      .ok (digitsValue digits, text.drop digits.length)

/-- Reads a number of one or two digits within bounds, after blanks. -/
def readPart (least greatest : Nat) (text : List Char) : Except Fault (Nat × List Char) := do
  let (value, rest) ← readNumber 2 (dropSpace text)
  if value < least || greatest < value then .error .outOfRange else return (value, rest)

/-- The greatest year that is read, even if it is not represented. -/
def greatestYear : Nat := Nat.pow 2 31 - 1

/-- Reads a year; only behind a sign it may have more than four digits. -/
def readYear (text : List Char) : Except Fault (Int × List Char) :=
  match dropSpace text with
  | '-' :: rest => do
    let (value, rest) ← readNumber rest.length rest
    if value > greatestYear + 1 then .error .outOfRange else return (-(value : Int), rest)
  | '+' :: rest => do
    let (value, rest) ← readNumber rest.length rest
    if value > greatestYear then .error .outOfRange else return ((value : Int), rest)
  | rest => do
    let (value, rest) ← readNumber 4 rest
    return ((value : Int), rest)

/-- Reads a mark such as a hyphen, after blanks. -/
def readMark (mark : Char) (text : List Char) : Except Fault (List Char) :=
  match dropSpace text with
  | [] => .error .tooShort
  | c :: rest => if c = mark then .ok rest else .error .unexpected

def readDivider : List Char → Except Fault (List Char)
  | [] => .error .tooShort
  | c :: rest => if c = 't' || c = 'T' || c = ' ' then .ok rest else .error .unexpected

/-- Reads a fraction of a second, if there is one; digits past the ninth do not count. -/
def readFraction (text : List Char) : Except Fault (Nat × List Char) :=
  match text with
  | '.' :: rest => do
    let (value, later) ← readNumber 9 rest
    let count := rest.length - later.length
    return (value * Nat.pow 10 (9 - count), later.dropWhile Char.isDigit)
  | _ => .ok (0, text)

def readTwoDigits : List Char → Except Fault (Nat × List Char)
  | first :: second :: rest =>
    if first.isDigit && second.isDigit then .ok (digitsValue [first, second], rest)
    else .error .unexpected
  | [c] => if c.toNat < 0x80 then .error .tooShort else .error .unexpected
  | [] => .error .tooShort

/-- Reads hours and minutes of an offset, as minutes. -/
def readOffsetMinutes (text : List Char) : Except Fault (Nat × List Char) := do
  let (hours, rest) ← readTwoDigits text
  let (minutes, rest) ← readTwoDigits
    (rest.dropWhile fun c => c == ':' || Unicode.isSpace c.toNat)
  if minutes ≥ 60 then .error .outOfRange else return (hours * 60 + minutes, rest)

/-- Whether a text begins with `UTC`, in any case. -/
def beginsWithUtc (text : List Char) : Bool :=
  (text.take 3).map Char.toUpper == ['U', 'T', 'C']

def readOffset (text : List Char) : Except Fault (Int × List Char) :=
  if beginsWithUtc text then .ok (0, text.drop 3)
  else match text with
    | [] => .error .tooShort
    | c :: rest =>
      if c = 'Z' || c = 'z' then .ok (0, rest)
      else if c = '+' then do
        let (minutes, rest) ← readOffsetMinutes rest
        return ((minutes : Int), rest)
      else if c = '-' || c = '\u2212' then do
        let (minutes, rest) ← readOffsetMinutes rest
        return (-(minutes : Int), rest)
      else .error .unexpected

/-- The minutes of a day. -/
def minutesPerDay : Nat := 1440

/-- The date and time in Coordinated Universal Time of a local date and time. -/
def ofLocal (date : Date) (clock : Clock) (offset : Int) : Except Fault Timestamp :=
  if !date.isValid || !clock.isValid || offset.natAbs ≥ minutesPerDay then .error .outOfRange
  else
    let minute : Int := clock.hour * 60 + clock.minute - offset
    let universal :=
      if minute < 0 then date.previous
      else if minute ≥ minutesPerDay then date.next
      else date
    let ofDay := (minute % minutesPerDay).toNat
    let shifted : Clock := { clock with hour := ofDay / 60, minute := ofDay % 60 }
    if valid : universal.isValid = true ∧ shifted.isValid = true then
      .ok ⟨universal, shifted, valid.1, valid.2⟩
    else .error .unrepresented

def read (text : List Char) : Except Fault Timestamp := do
  let (year, rest) ← readYear text
  let (month, rest) ← readPart 1 12 (← readMark '-' rest)
  let (day, rest) ← readPart 1 31 (← readMark '-' rest)
  let (hour, rest) ← readPart 0 23 (← readDivider rest)
  let (minute, rest) ← readPart 0 59 (← readMark ':' rest)
  let (second, rest) ← readPart 0 60 (← readMark ':' rest)
  let (nanosecond, rest) ← readFraction rest
  let (offset, rest) ← readOffset (dropSpace rest)
  if !(dropSpace rest).isEmpty then .error .tooLong
  else ofLocal ⟨year, month, day⟩ ⟨hour, minute, second, nanosecond⟩ offset

end Timestamp

end LinkVetting
