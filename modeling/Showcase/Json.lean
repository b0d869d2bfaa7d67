import Showcase.Binary64

namespace Showcase

/-- Integers are exact; every other number is a double. -/
inductive Number
  | integer (n : Int)
  | float (x : Binary64)
deriving DecidableEq, Repr

def Number.isZero : Number → Bool
  | integer n => n == 0
  | float x => x.isZero

inductive Json
  | null
  | bool (b : Bool)
  | number (n : Number)
  | string (s : String)
  | array (items : List Json)
  | object (entries : List (String × Json))
deriving Repr, Inhabited

namespace Json

def integer (n : Int) : Json := number (.integer n)

/-- False, null, zero of either sign and the empty text are falsy. -/
def isTruthy : Json → Bool
  | null => false
  | bool b => b
  | number n => !n.isZero
  | string s => s != ""
  | array _ | object _ => true

/-- An object or a list without members. -/
def isBare : Json → Bool
  | object entries => entries.isEmpty
  | array items => items.isEmpty
  | _ => false

def get? (name : String) : Json → Option Json
  | object entries => entries.lookup name
  | _ => none

end Json

end Showcase
