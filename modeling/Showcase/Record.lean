import Showcase.Module
import Showcase.Session

namespace Showcase

variable {σ : Type}

/-- A component found in a file, with the names under which its story goes. -/
structure Record where
  style : Style
  group : String
  name : String
  component : Component
  module : Module

def slotProp : String := "SLOT"

/-- The props a story resolves; a template also has the slot, whatever the component declares
under its name. -/
def Record.props (r : Record) : PropMap :=
  if r.style.hasSlot then
    r.component.props.insert slotProp { type := some (.constructor .string) }
  else r.component.props

def Record.id (r : Record) : StoryId := ⟨r.group, r.name⟩

def Module.present? (m : Module) (name : String) : Option (String × Export) :=
  ((m.get? name).filter Export.isPresent).map fun e ↦ (name, e)

/-- The default export, else the one named like the file, else whatever comes first. -/
def findExport (m : Option Module) (info : FileInfo) : Except FileError (String × Export) :=
  match m with
  | none => .error (.missingModule info.file)
  | some m =>
    match m.present? "default" <|> m.present? info.name <|> m.first? with
    | some found => .ok found
    | none => .error (.undetectable info.file)

/-- A file without a parent directory is a group of its own. -/
def FileInfo.group (info : FileInfo) : String :=
  if info.parent = "" then info.name else info.parent

/-- The record of the component in a file; what is no component is passed over. -/
def Record.find (m : Option Module) (info : FileInfo) :
    Action σ (Except FileError (Option Record)) :=
  match m with
  | none => return .error (.missingModule info.file)
  | some m =>
    match findExport (some m) info with
    | .error e => return .error e
    | .ok (_, .component c) => return .ok (some ⟨c.style, info.group, info.name, c, m⟩)
    | .ok (_, .value v) => do
      logEvent (.notComponent info.file v)
      return .ok none
    | .ok (_, .empty) => do
      logEvent (.emptyExport info.file)
      return .ok none

end Showcase
