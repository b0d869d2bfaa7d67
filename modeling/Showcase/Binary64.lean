namespace Showcase

/-- How many doubles there are from one power of two to the next. -/
def Binary64.binade : Nat := 0x10000000000000

/-- How many finite doubles there are of either sign. -/
def Binary64.size : Nat := 2047 * binade

/-- A finite double: its sign, and how many doubles lie from zero up to its magnitude. -/
structure Binary64 where
  negative : Bool
  magnitude : Nat
  magnitude_lt : magnitude < Binary64.size
deriving DecidableEq, Repr

namespace Binary64

/-- The quotient rounded to the nearest integer, a half to the even one. -/
def roundDiv (num den : Nat) : Nat :=
  let q := num / den
  let twice := 2 * (num % den)
  if twice < den then q
  else if den < twice then q + 1
  else q + q % 2

/-- The fraction `num / den` counted in units of `2 ^ unit`. -/
def inUnits (num den : Nat) (unit : Int) : Nat × Nat :=
  (num * Nat.pow 2 (-unit).toNat, den * Nat.pow 2 unit.toNat)

/-- The exponent of the last place of a double near `num / den`. -/
def lastPlace (num den : Nat) : Int :=
  let low : Int := max (num.log2 - den.log2 - 53) (-1074)
  let (n, d) := inUnits num den low
  if n / d < 2 * binade then low else low + 1

/-- The double nearest to `num / den`, or none beyond the range; ties go to the even one. -/
def ofRatio? (negative : Bool) (num den : Nat) : Option Binary64 :=
  let unit := lastPlace num den
  let (n, d) := inUnits num den unit
  let magnitude := if num = 0 then 0 else (unit + 1074).toNat * binade + roundDiv n d
  if h : magnitude < size then some ⟨negative, magnitude, h⟩ else none

variable (x y : Binary64)

def isZero : Bool := x.magnitude == 0

/-- The magnitude of `x` is `x.significand * 2 ^ x.exponent`. -/
def significand : Nat :=
  if x.magnitude < binade then x.magnitude else binade + x.magnitude % binade

def exponent : Int := (max (x.magnitude / binade) 1 : Nat) - 1075

def fraction : Nat × Nat :=
  (x.significand * Nat.pow 2 x.exponent.toNat, Nat.pow 2 (-x.exponent).toNat)

def mul? : Option Binary64 :=
  ofRatio? (x.negative != y.negative)
    (x.fraction.1 * y.fraction.1) (x.fraction.2 * y.fraction.2)

def div? : Option Binary64 :=
  ofRatio? (x.negative != y.negative)
    (x.fraction.1 * y.fraction.2) (x.fraction.2 * y.fraction.1)

end Binary64

end Showcase
