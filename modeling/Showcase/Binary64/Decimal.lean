import Showcase.Binary64

namespace Showcase.Binary64

/-- One step multiplies or divides by at most this power of ten, the last that is a double. -/
def maxTenExponent : Nat := 308

def tenPower? (e : Nat) : Option Binary64 := ofRatio? false (Nat.pow 10 e) 1

/-- Divides by a power of ten, rounding after each factor of at most `10 ^ 308`. -/
def divTenPower (x : Binary64) (e : Nat) : Option Binary64 :=
  if _h : e ≤ maxTenExponent then do
    x.div? (← tenPower? e)
  else if x.isZero then
    some x
  else do
    let y ← x.div? (← tenPower? maxTenExponent)
    divTenPower y (e - maxTenExponent)
termination_by e
decreasing_by simp only [maxTenExponent] at *; omega

/-- Multiplies by a power of ten; only zero survives a factor beyond `10 ^ 308`. -/
def mulTenPower (x : Binary64) (e : Nat) : Option Binary64 :=
  if e ≤ maxTenExponent then do x.mul? (← tenPower? e)
  else if x.isZero then some x
  else none

/-- The double that a decimal literal denotes: first the digits are rounded, then each scaling. -/
def ofDecimal? (negative : Bool) (digits : Nat) (exponent : Int) : Option Binary64 := do
  let x ← ofRatio? negative digits 1
  if exponent < 0 then x.divTenPower exponent.natAbs else x.mulTenPower exponent.natAbs

end Showcase.Binary64
