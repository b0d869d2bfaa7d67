import Showcase.OrderedMap
import Showcase.Json

namespace Showcase

/-- The kind of a value at run time; null is an object. -/
inductive ValueKind
  | undefined
  | boolean
  | number
  | string
  | object
  | array
  | function
  | symbol
  | bigint
deriving DecidableEq, Repr

namespace ValueKind

def ofJson : Json → ValueKind
  | .bool _ => boolean
  | .number _ => number
  | .string _ => string
  | .array _ => array
  | .object _ | .null => object

def name : ValueKind → String
  | undefined => "undefined"
  | boolean => "boolean"
  | number => "number"
  | string => "string"
  | object => "object"
  | array => "array"
  | function => "function"
  | symbol => "symbol"
  | bigint => "bigint"

end ValueKind

inductive CallError
  | validator (name : String)
  | needsNew (name : String)
  | failed (name message : String)
deriving DecidableEq, Repr

def CallError.message : CallError → String
  | validator name => s!"Validator '{name}' cannot be called without props"
  | needsNew name => s!"Class constructor '{name}' cannot be invoked without 'new'"
  | failed name message => s!"Constructor '{name}' failed: {message}"

/-- The constructors a type may name. A `custom` one comes with the outcome of a bare call. The call
is taken to be pure: its outcome is always the same, and it does nothing else. -/
inductive Constructor
  | string
  | number
  | boolean
  | object
  | array
  | function
  | date
  | symbol
  | ofClass (name : String)
  | custom (name : String) (outcome : Except CallError ValueKind)
deriving Repr

namespace Constructor

def ofGlobal? : String → Option Constructor
  | "String" => some string
  | "Number" => some number
  | "Boolean" => some boolean
  | "Object" => some object
  | "Array" => some array
  | "Function" => some function
  | "Date" => some date
  | "Symbol" => some symbol
  | _ => none

/-- The kind of what a bare call returns; a date called bare is a text. -/
def call : Constructor → Except CallError ValueKind
  | string | date => .ok .string
  | number => .ok .number
  | boolean => .ok .boolean
  | object => .ok .object
  | array => .ok .array
  | function => .ok .function
  | symbol => .ok .symbol
  | ofClass name => .error (.needsNew name)
  | custom _ outcome => outcome

end Constructor

inductive PropType
  | label (text : String)
  | file
  | constructor (c : Constructor)
  | validator (name : String)
  | union (members : List PropType)
deriving Repr

namespace PropType

def ofName (name : String) : PropType :=
  if name = "File" then file else (Constructor.ofGlobal? name).elim (label name) constructor

mutual

/-- A name or a list of types; anything else carries no type. -/
def ofJson? : Json → Option PropType
  | .string name => some (ofName name)
  | .array items => some (union (ofItems items))
  | _ => none

def ofItems : List Json → List PropType
  | [] => []
  | v :: vs =>
    match ofJson? v with
    | some t => t :: ofItems vs
    | none => ofItems vs

end

def invoke? : PropType → Option (Except CallError ValueKind)
  | constructor c => some c.call
  | validator name => some (.error (.validator name))
  | label _ | file | union _ => none

end PropType

/-- A default is a value or a producer, which the host calls for every render. Copies of a
declaration share their producer. -/
inductive DefaultSource
  | literal (v : Json)
  | producer (id : Nat)
deriving Repr

/-- The kind of the entry itself, so a producer is a function. -/
def DefaultSource.valueKind : DefaultSource → ValueKind
  | literal v => .ofJson v
  | producer _ => .function

structure Declaration where
  type : Option PropType := none
  default : Option DefaultSource := none
deriving Repr, Inhabited

/-- An object gives its `type` and `default`; any other value is the type itself. -/
def Declaration.ofJson : Json → Declaration
  | .object entries =>
    { type := (entries.lookup "type").bind PropType.ofJson?
      default := (entries.lookup "default").map .literal }
  | v => { type := PropType.ofJson? v }

abbrev PropMap := OrderedMap Declaration

end Showcase
