import Showcase.Kind
import Showcase.Placeholder

namespace Showcase

/-- The choices of a select, by label. -/
abbrev Enumeration := OrderedMap Json

inductive Arg
  | undefined
  | json (v : Json)
  | placeholder (p : Placeholder)
deriving Repr

namespace Arg

def json? : Arg → Option Json
  | undefined => none
  | json v => some v
  | placeholder p => some p.value

def toJson (a : Arg) : Json := a.json?.getD .null

def label (a : Arg) : String :=
  match a.json? with
  | none => "undefined"
  | some (.string s) => s
  | some v => v.text

/-- The default of a prop; one without members is wrapped. -/
def ofDefault (prop : String) (v : Json) : Arg :=
  if v.isBare then placeholder ⟨v, .prop prop⟩ else json v

end Arg

/-- Adds the value as a last choice unless its label is taken. -/
def Enumeration.withChoice (e : Enumeration) (a : Arg) : Enumeration :=
  if e.contains a.label then e else e.insert a.label a.toJson

structure Binding where
  name : String
  control : ControlKind
  options : Option Enumeration
  default : Arg

namespace Binding

def plain (name : String) (control : ControlKind) (default : Arg) : Binding :=
  ⟨name, control, none, default⟩

def select (name : String) (options : Enumeration) (default : Arg) : Binding :=
  ⟨name, .select, some options, default⟩

def toJson (b : Binding) : Json :=
  .object ([("name", .string b.name), ("control", .string b.control.name)] ++
    (b.options.map fun e ↦ ("options", Json.object e.entries)).toList ++
    [("defaultValue", b.default.toJson)])

end Binding

end Showcase
