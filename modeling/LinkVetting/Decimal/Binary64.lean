/-!
# Binary floating-point values of 64 bits

A finite value is a sign, a significand below `2 ^ 53` and an exponent of two. The significand is
at least `2 ^ 52` unless the exponent is the least one, so every value has one form. Arithmetic is
exact arithmetic on naturals followed by one rounding to the nearest value, ties to even.
-/

namespace LinkVetting.Decimal

/-- A finite binary floating-point value: `significand * 2 ^ exponent` with a sign. -/
structure Binary64 where
  negative : Bool
  significand : Nat
  exponent : Int
  deriving DecidableEq, Repr

def leastExponent : Int := -1074

def greatestExponent : Int := 971

/-- The quotient rounded to the nearest natural, a tie to the even one. -/
def divideToNearest (numerator denominator : Nat) : Nat :=
  let quotient := numerator / denominator
  let remainder := numerator % denominator
  if 2 * remainder > denominator || (2 * remainder == denominator && quotient % 2 == 1) then
    quotient + 1
  else quotient

/-- A ratio divided by a power of two, as a ratio. -/
def dividedByPower (numerator denominator : Nat) (exponent : Int) : Nat × Nat :=
  match exponent with
  | .ofNat power => (numerator, denominator * Nat.pow 2 power)
  | .negSucc power => (numerator * Nat.pow 2 (power + 1), denominator)

/-- The significand and exponent nearest to a ratio of naturals. -/
def roundRatio (numerator denominator : Nat) : Nat × Int :=
  if numerator = 0 then (0, leastExponent)
  else
    let guess : Int := (numerator.log2 : Int) - (denominator.log2 : Int) - 53
    let (n, d) := dividedByPower numerator denominator guess
    let normal := if n / d ≥ Nat.pow 2 53 then guess + 1 else guess
    let exponent := max normal leastExponent
    let (n, d) := dividedByPower numerator denominator exponent
    let rounded := divideToNearest n d
    if rounded = Nat.pow 2 53 then (Nat.pow 2 52, exponent + 1) else (rounded, exponent)

namespace Binary64

def zero : Binary64 := ⟨false, 0, leastExponent⟩

def withSign (negative : Bool) (value : Binary64) : Binary64 := { value with negative }

/-- The value nearest to a ratio; absent when it is too large to be finite. -/
def ofRatio? (numerator denominator : Nat) : Option Binary64 :=
  let (significand, exponent) := roundRatio numerator denominator
  if exponent > greatestExponent then none else some ⟨false, significand, exponent⟩

def ofNat? (n : Nat) : Option Binary64 := ofRatio? n 1

/-- The magnitude of a value as a ratio of naturals. -/
def toRatio (value : Binary64) : Nat × Nat :=
  match value.exponent with
  | .ofNat power => (value.significand * Nat.pow 2 power, 1)
  | .negSucc power => (value.significand, Nat.pow 2 (power + 1))

def powerOfTen? (power : Nat) : Option Binary64 := ofNat? (Nat.pow 10 power)

def plus? (left right : Binary64) : Option Binary64 :=
  let (ln, ld) := left.toRatio
  let (rn, rd) := right.toRatio
  ofRatio? (ln * rd + rn * ld) (ld * rd)

def isBelow (left right : Binary64) : Bool :=
  let (ln, ld) := left.toRatio
  let (rn, rd) := right.toRatio
  ln * rd < rn * ld

def times? (left right : Binary64) : Option Binary64 :=
  let (ln, ld) := left.toRatio
  let (rn, rd) := right.toRatio
  ofRatio? (ln * rn) (ld * rd)

def dividedBy? (left right : Binary64) : Option Binary64 :=
  let (ln, ld) := left.toRatio
  let (rn, rd) := right.toRatio
  ofRatio? (ln * rd) (ld * rn)

def isZero (value : Binary64) : Bool := value.significand == 0

end Binary64

end LinkVetting.Decimal
