import Showcase.Binary64.Decimal
import Showcase.Json

namespace Showcase.Json

structure NumberLiteral where
  negative : Bool
  whole : List Nat
  fraction : Option (List Nat)
  exponent : Option Int
deriving Repr

def digits (cs : List Char) : List Nat × List Char :=
  ((cs.takeWhile Char.isDigit).map fun c ↦ c.toNat - '0'.toNat, cs.dropWhile Char.isDigit)

def wholeNumber (ds : List Nat) : Nat := ds.foldl (fun n d ↦ 10 * n + d) 0

def fractionPart? : List Char → Option (Option (List Nat) × List Char)
  | '.' :: cs =>
    let (ds, rest) := digits cs
    if ds.isEmpty then none else some (some ds, rest)
  | cs => some (none, cs)

def signedDigits? (negative : Bool) (cs : List Char) : Option (Option Int × List Char) :=
  let (ds, rest) := digits cs
  if ds.isEmpty then none
  else some (some (if negative then -(wholeNumber ds : Int) else wholeNumber ds), rest)

def exponentPart? : List Char → Option (Option Int × List Char)
  | 'e' :: cs | 'E' :: cs =>
    match cs with
    | '-' :: cs => signedDigits? true cs
    | '+' :: cs => signedDigits? false cs
    | cs => signedDigits? false cs
  | cs => some (none, cs)

/-- A whole part without leading zeros, then perhaps a fraction and an exponent. -/
def unsignedLiteral? (negative : Bool) (cs : List Char) :
    Option (NumberLiteral × List Char) := do
  let (whole, cs) := digits cs
  if whole.isEmpty || (whole.head? == some 0 && whole.length != 1) then none
  let (fraction, cs) ← fractionPart? cs
  let (exponent, cs) ← exponentPart? cs
  return (⟨negative, whole, fraction, exponent⟩, cs)

def numberLiteral? : List Char → Option (NumberLiteral × List Char)
  | '-' :: cs => unsignedLiteral? true cs
  | cs => unsignedLiteral? false cs

/-- The first number that takes more than 64 bits. -/
def wordSize : Nat := 0x10000000000000000

/-- Takes in digits as long as the number stays within 64 bits, and gives back the others. -/
def absorb (n : Nat) : List Nat → Nat × List Nat
  | [] => (n, [])
  | d :: ds => if 10 * n + d < wordSize then absorb (10 * n + d) ds else (n, d :: ds)

/-- The value of a literal, or none beyond the range of doubles. Digits past 64 bits are dropped;
those before the point still count as a power of ten. -/
def NumberLiteral.value? (l : NumberLiteral) : Option Number :=
  let (n, excess) := absorb 0 l.whole
  match l.fraction, l.exponent, excess with
  | none, none, [] =>
    if !l.negative then some (.integer n)
    else if n != 0 && 2 * n ≤ wordSize then some (.integer (-n))
    else (Binary64.ofDecimal? true n 0).map .float
  | fraction, exponent, excess =>
    let ds := fraction.getD []
    let (m, dropped) := absorb n ds
    let scale : Int := excess.length + dropped.length - ds.length
    (Binary64.ofDecimal? l.negative m (scale + exponent.getD 0)).map .float

/-- One piece of a string as written: a character, or a code unit given by its number. -/
inductive Piece
  | char (c : Char)
  | codeUnit (n : Nat)
deriving Repr

def hexValue? (c : Char) : Option Nat :=
  if c.isDigit then some (c.toNat - '0'.toNat)
  else if 'a' ≤ c ∧ c ≤ 'f' then some (c.toNat - 'a'.toNat + 10)
  else if 'A' ≤ c ∧ c ≤ 'F' then some (c.toNat - 'A'.toNat + 10)
  else none

def codeUnit? (cs : List Char) : Option Nat :=
  cs.foldlM (fun n c ↦ (hexValue? c).map (16 * n + ·)) 0

def shortEscape? : Char → Option Char
  | '"' => some '"'
  | '\\' => some '\\'
  | '/' => some '/'
  | 'b' => some '\x08'
  | 'f' => some '\x0c'
  | 'n' => some '\n'
  | 'r' => some '\r'
  | 't' => some '\t'
  | _ => none

def pieces? : List Char → Option (List Piece × List Char)
  | [] => none
  | '"' :: cs => some ([], cs)
  | '\\' :: 'u' :: a :: b :: c :: d :: cs => do
    let n ← codeUnit? [a, b, c, d]
    let (ps, rest) ← pieces? cs
    return (.codeUnit n :: ps, rest)
  | '\\' :: c :: cs => do
    let c ← shortEscape? c
    let (ps, rest) ← pieces? cs
    return (.char c :: ps, rest)
  | c :: cs => do
    if c.toNat < 0x20 then none
    let (ps, rest) ← pieces? cs
    return (.char c :: ps, rest)

def isHighSurrogate (n : Nat) : Bool := 0xD800 ≤ n && n < 0xDC00

def isLowSurrogate (n : Nat) : Bool := 0xDC00 ≤ n && n < 0xE000

/-- The characters of the pieces; surrogates must come in pairs. -/
def characters? : List Piece → Option (List Char)
  | [] => some []
  | .char c :: ps => (characters? ps).map (c :: ·)
  | .codeUnit n :: ps =>
    if isHighSurrogate n then
      match ps with
      | .codeUnit m :: qs =>
        if isLowSurrogate m then
          (characters? qs).map (Char.ofNat (0x10000 + (n - 0xD800) * 0x400 + (m - 0xDC00)) :: ·)
        else none
      | _ => none
    else if isLowSurrogate n then none
    else (characters? ps).map (Char.ofNat n :: ·)

end Showcase.Json
