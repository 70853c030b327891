import LinkVetting.Decimal.Binary64

/-!
# Shortest decimal forms

A decimal number reads back as a binary value when it lies in the interval of reals that round to
the value. The shortest form has the fewest digits among these, and is the nearest to the value
among those with as few digits.
-/

namespace LinkVetting.Decimal

/-- A decimal numeral, with the value `digits * 10 ^ exponent`. -/
structure Numeral where
  digits : Nat
  exponent : Int
  deriving DecidableEq, Repr

/-- The same number without the trailing zeros of its digits; `fuel` bounds how many are dropped. -/
def Numeral.trimmed (numeral : Numeral) : (fuel : Nat) → Numeral
  | 0 => numeral
  | fuel + 1 =>
    if numeral.digits % 10 == 0 && numeral.digits > 0 then
      trimmed ⟨numeral.digits / 10, numeral.exponent + 1⟩ fuel
    else numeral

/-- The reals that round to a positive value, as numerators over one denominator. -/
structure Interval where
  low : Nat
  value : Nat
  high : Nat
  denominator : Nat
  /-- Whether the two ends round to the value. -/
  closed : Bool

/-- The interval of a positive value. The gap below a power of two is half as wide. -/
def Binary64.interval (value : Binary64) : Interval :=
  let m := value.significand
  let below := if m == Nat.pow 2 52 && value.exponent > leastExponent then 1 else 2
  let (low, middle, high) := (4 * m - below, 4 * m, 4 * m + 2)
  match value.exponent with
  | .ofNat power =>
    ⟨low * Nat.pow 2 power, middle * Nat.pow 2 power, high * Nat.pow 2 power, 4, m % 2 == 0⟩
  | .negSucc power => ⟨low, middle, high, 4 * Nat.pow 2 (power + 1), m % 2 == 0⟩

/-- Whether `digits * 10 ^ exponent` rounds to the value of an interval. -/
def Interval.contains (interval : Interval) (numeral : Numeral) : Bool :=
  let (point, scale) := match numeral.exponent with
    | .ofNat power => (numeral.digits * Nat.pow 10 power * interval.denominator, 1)
    | .negSucc power => (numeral.digits * interval.denominator, Nat.pow 10 (power + 1))
  if interval.closed then interval.low * scale ≤ point && point ≤ interval.high * scale
  else interval.low * scale < point && point < interval.high * scale

/-- The largest power of ten that is at most a ratio, as an exponent; `fuel` bounds its size. -/
def tenExponent (numerator denominator : Nat) : Nat → Int
  | 0 => 0
  | fuel + 1 =>
    if numerator ≥ 10 * denominator then tenExponent numerator (10 * denominator) fuel + 1
    else if numerator < denominator then tenExponent (10 * numerator) denominator fuel - 1
    else 0

/-- The better of the two points next to the value on the grid of a given exponent, if one of them
rounds to the value. The nearer one is better, and of two equally near ones the even one. -/
def Interval.nearest? (interval : Interval) (exponent : Int) : Option Numeral :=
  let (n, d) := match exponent with
    | .ofNat power => (interval.value, interval.denominator * Nat.pow 10 power)
    | .negSucc power => (interval.value * Nat.pow 10 (power + 1), interval.denominator)
  let below := n / d
  let rest := n % d
  let nearer := if 2 * rest > d || (2 * rest == d && below % 2 == 1) then below + 1 else below
  let other := if nearer == below then below + 1 else below
  if interval.contains ⟨nearer, exponent⟩ then some ⟨nearer, exponent⟩
  else if other > 0 && interval.contains ⟨other, exponent⟩ then some ⟨other, exponent⟩
  else none

/-- The shortest form with at least `17 - left` digits, for a value whose leading digit stands at
`leading`. -/
def Interval.shortestFrom (interval : Interval) (leading : Int) : (left : Nat) → Numeral
  | 0 => (interval.nearest? (leading - 16)).getD ⟨0, 0⟩
  | left + 1 =>
    match interval.nearest? (leading - (16 - (left + 1 : Nat))) with
    | some numeral => numeral
    | none => interval.shortestFrom leading left

def Binary64.shortest (value : Binary64) : Numeral :=
  if value.isZero then ⟨0, 0⟩
  else
    let interval := value.interval
    let leading := tenExponent interval.value interval.denominator 400
    (interval.shortestFrom leading 16).trimmed 17

end LinkVetting.Decimal
