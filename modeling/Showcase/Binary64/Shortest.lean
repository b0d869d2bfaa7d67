import Showcase.Binary64

namespace Showcase.Binary64

/-- A magnitude, the bounds of the numbers that round to it, and whether the bounds do so too,
all over one denominator. -/
structure Interval where
  value : Nat
  low : Nat
  high : Nat
  closed : Bool
  denominator : Nat

def interval (x : Binary64) : Interval :=
  let m := 4 * x.significand
  let below := if x.significand = binade ∧ -1074 < x.exponent then 1 else 2
  let unit := x.exponent - 2
  let scale := Nat.pow 2 unit.toNat
  { value := m * scale
    low := (m - below) * scale
    high := (m + 2) * scale
    closed := x.significand % 2 == 0
    denominator := Nat.pow 2 (-unit).toNat }

def Interval.holds (i : Interval) (num : Nat) : Bool :=
  if i.closed then i.low ≤ num && num ≤ i.high else i.low < num && num < i.high

/-- The interval as multiples of `1 / i.denominator` of `10 ^ e`, with the size of a whole one. -/
def Interval.inTens (i : Interval) (e : Int) : Interval × Nat :=
  let up := Nat.pow 10 (-e).toNat
  ({ i with value := i.value * up, low := i.low * up, high := i.high * up },
    i.denominator * Nat.pow 10 e.toNat)

/-- The multiple of `10 ^ e` that reads back and lies nearest, a tie going to the even one. -/
def Interval.nearest? (i : Interval) (e : Int) : Option Nat :=
  let (j, one) := i.inTens e
  let d := j.value / one
  match d != 0 && j.holds (d * one), j.holds ((d + 1) * one) with
  | false, false => none
  | true, false => some d
  | false, true => some (d + 1)
  | true, true => some (roundDiv j.value one)

/-- The first power of ten, from `e` downwards, some multiple of which reads back. -/
def Interval.search (i : Interval) : Nat → Int → Nat × Int
  | 0, e => (0, e)
  | steps + 1, e =>
    match i.nearest? e with
    | some d => (d, e)
    | none => i.search steps (e - 1)

/-- The fewest digits that read back, and the power of ten they count. -/
def shortest (x : Binary64) : Nat × Int :=
  let top : Int := (x.significand.log2 + x.exponent + 2) * 30103
  x.interval.search 25 (top.fdiv 100000 + 1)

def zeros (n : Nat) : String := String.ofList (List.replicate n '0')

/-- Positional from `1e-5` up to `1e16`, else one digit, a point and a signed exponent; a number
without an exponent always shows a point. -/
def magnitudeText (digits : Nat) (e : Int) : String :=
  let ds := toString digits
  let point : Int := ds.length + e
  if -5 < point ∧ point ≤ 16 then
    if 0 ≤ e then ds ++ zeros e.toNat ++ ".0"
    else if 0 < point then
      String.ofList (ds.toList.take point.toNat) ++ "." ++ String.ofList (ds.toList.drop point.toNat)
    else "0." ++ zeros (-point).toNat ++ ds
  else
    let rest := ds.toList.drop 1
    String.ofList (ds.toList.take 1) ++ (if rest.isEmpty then "" else "." ++ String.ofList rest) ++
      (if 0 < point then "e+" else "e-") ++ toString (point - 1).natAbs

def text (x : Binary64) : String :=
  let (digits, e) := x.shortest
  (if x.negative then "-" else "") ++ if x.isZero then "0.0" else magnitudeText digits e

end Showcase.Binary64
