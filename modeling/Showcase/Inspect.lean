import Showcase.Registry
import Showcase.Story
import Showcase.Text.Quoted

namespace Showcase

variable {σ α : Type}

def inspectList (items : List String) : String := "[" ++ ", ".intercalate items ++ "]"

mutual

def Json.inspect : Json → String
  | .null => "Null"
  | .bool b => if b then "Bool(true)" else "Bool(false)"
  | .number n => "Number(" ++ n.text ++ ")"
  | .string s => "String(" ++ quoted s ++ ")"
  | .array items => "Array " ++ inspectList (Json.inspectItems items)
  | .object entries => "Object \x7b" ++ ", ".intercalate (Json.inspectEntries entries) ++ "\x7d"

def Json.inspectItems : List Json → List String
  | [] => []
  | v :: vs => v.inspect :: Json.inspectItems vs

def Json.inspectEntries : List (String × Json) → List String
  | [] => []
  | (k, v) :: es => (quoted k ++ ": " ++ v.inspect) :: Json.inspectEntries es

end

def Constructor.inspect : Constructor → String
  | string => "String"
  | number => "Number"
  | boolean => "Boolean"
  | object => "Object"
  | array => "Array"
  | function => "Function"
  | date => "Date"
  | symbol => "Symbol"
  | ofClass name => "Class(" ++ quoted name ++ ")"
  | custom name _ => "Custom \x7b name: " ++ quoted name ++ " \x7d"

mutual

def PropType.inspect : PropType → String
  | .label text => "Label(" ++ quoted text ++ ")"
  | .file => "File"
  | .constructor c => "Constructor(" ++ c.inspect ++ ")"
  | .validator name => "Validator(" ++ quoted name ++ ")"
  | .union members => "Union(" ++ inspectList (PropType.inspectMembers members) ++ ")"

def PropType.inspectMembers : List PropType → List String
  | [] => []
  | m :: ms => m.inspect :: PropType.inspectMembers ms

end

def DefaultSource.inspect : DefaultSource → String
  | literal v => "Literal(" ++ v.inspect ++ ")"
  | producer _ => "Producer(..)"

def inspectOption (inspect : α → String) : Option α → String
  | none => "None"
  | some a => "Some(" ++ inspect a ++ ")"

def Declaration.inspect (d : Declaration) : String :=
  "PropDeclaration \x7b type_marker: " ++ inspectOption PropType.inspect d.type ++
    ", default: " ++ inspectOption DefaultSource.inspect d.default ++ " \x7d"

def Owner.inspect : Owner → String
  | prop name => "Prop(" ++ quoted name ++ ")"
  | store => "Store"

def Placeholder.inspect (p : Placeholder) : String :=
  "Placeholder \x7b value: " ++ p.value.inspect ++ ", owner: " ++ p.owner.inspect ++ " \x7d"

def Arg.inspect : Arg → String
  | undefined => "Undefined"
  | json v => "Json(" ++ v.inspect ++ ")"
  | placeholder p => "Placeholder(" ++ p.inspect ++ ")"

def Input.inspect : Input σ → String
  | control a => "Control(" ++ a.inspect ++ ")"
  | emptyFile => "File(EmptyFile)"
  | callback c => "Callback(StandInCallback \x7b prop_name: " ++ quoted c.prop ++ ", .. \x7d)"

def ElementStory.inspect (s : ElementStory σ) : String :=
  let props := s.props.entries.map fun e ↦ quoted e.1 ++ ": " ++ e.2.inspect
  "ElementStory \x7b props: \x7b" ++ ", ".intercalate props ++ "\x7d, .. \x7d"

def Decorator.inspect : Decorator → String := Decorator.name

def Entry.inspect (e : Entry α) : String :=
  "RecordedStory \x7b name: " ++ quoted e.name ++ ", .. \x7d"

def Group.inspect (g : Group α) : String :=
  "RecordedGroup \x7b kind: " ++ quoted g.kind ++
    ", decorators: " ++ inspectList (g.decorators.map Decorator.inspect) ++
    ", stories: " ++ inspectList (g.stories.map Entry.inspect) ++ " \x7d"

def Registry.inspect (r : Registry α) : String :=
  "RecordingRegistry \x7b groups: " ++ inspectList (r.groups.map Group.inspect) ++ " \x7d"

end Showcase
