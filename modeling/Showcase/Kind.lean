import Showcase.Session

namespace Showcase

inductive ControlKind
  | text
  | number
  | boolean
  | select
  | color
  | date
  | object
  | array
  | radios
  | options
  | files
  | button
deriving DecidableEq, Repr

def ControlKind.name : ControlKind → String
  | text => "text"
  | number => "number"
  | boolean => "boolean"
  | select => "select"
  | color => "color"
  | date => "date"
  | object => "object"
  | array => "array"
  | radios => "radios"
  | options => "options"
  | files => "files"
  | button => "button"

inductive Kind
  | boolean
  | number
  | text
  | select
  | file
  | function
  | object
  | array
  | color
  | date
  | radios
  | options
  | files
  | button
  | other (label : String)
deriving DecidableEq, Repr

namespace Kind

def ofLabel : String → Kind
  | "string" | "text" => text
  | "boolean" => boolean
  | "number" => number
  | "select" => select
  | "file" => file
  | "function" => function
  | "object" => object
  | "array" => array
  | "color" => color
  | "date" => date
  | "radios" => radios
  | "options" => options
  | "files" => files
  | "button" => button
  | label => other label

def name : Kind → String
  | boolean => "boolean"
  | number => "number"
  | text => "text"
  | select => "select"
  | file => "file"
  | function => "function"
  | object => "object"
  | array => "array"
  | color => "color"
  | date => "date"
  | radios => "radios"
  | options => "options"
  | files => "files"
  | button => "button"
  | other label => label

def isOther : Kind → Bool
  | other _ => true
  | _ => false

def ofRuntime : ValueKind → Kind
  | .string => text
  | .number => number
  | .boolean => boolean
  | .object => object
  | .array => array
  | .function => function
  | .undefined => other ValueKind.undefined.name
  | .symbol => other ValueKind.symbol.name
  | .bigint => other ValueKind.bigint.name

/-- Kinds without a widget of their own are edited as text. -/
def control : Kind → ControlKind
  | boolean => .boolean
  | number => .number
  | select => .select
  | object => .object
  | array => .array
  | color => .color
  | date => .date
  | radios => .radios
  | options => .options
  | files => .files
  | button => .button
  | text | file | function | other _ => .text

def fallback? (prop : String) : Kind → Option Json
  | boolean => some (.bool false)
  | number => some (.integer 0)
  | object => some (.object [])
  | array => some (.array [])
  | text | select => some (.string prop)
  | _ => none

end Kind

namespace Declaration

def defaultKind (d : Declaration) : Kind := d.default.elim .text fun v ↦ .ofRuntime v.valueKind

/-- A label or a file designator stands for itself; a type that can be called bare is what it
returns; otherwise the default decides. -/
def kind (d : Declaration) : Kind :=
  match d.type with
  | none => d.defaultKind
  | some (.label text) => .ofLabel text
  | some .file => .file
  | some type =>
    match type.invoke? with
    | some (.ok k) => .ofRuntime k
    | some (.error _) | none => d.defaultKind

def probeError? (d : Declaration) : Option CallError :=
  match d.type.bind PropType.invoke? with
  | some (.error e) => some e
  | some (.ok _) | none => none

variable {σ : Type}

/-- The kind of the prop; a failed call of its type is logged. -/
def infer (d : Declaration) : Action σ Kind := do
  match d.probeError? with
  | some e => logEvent (.probeFailed e)
  | none => pure ()
  return d.kind

end Declaration

end Showcase
