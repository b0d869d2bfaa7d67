import Showcase.Component
import Showcase.FileInfo
import Showcase.Json.TextRecord

namespace Showcase

open Decoder

namespace FileInfo

def decode (source : Source) : Decoder FileInfo := fun d ↦ do
  let m ← textRecord "struct FileInfo" ["name", "parent", "file"] source d
  return ⟨← textField m "name", ← textField m "parent", ← textField m "file"⟩

def toJson (i : FileInfo) : Json :=
  .object [("name", .string i.name), ("parent", .string i.parent), ("file", .string i.file)]

end FileInfo

namespace StoryId

def decode (source : Source) : Decoder StoryId := fun d ↦ do
  let m ← textRecord "struct StoryId" ["group", "name"] source d
  return ⟨← textField m "group", ← textField m "name"⟩

def toJson (i : StoryId) : Json := .object [("group", .string i.group), ("name", .string i.name)]

end StoryId

namespace Style

def ofName : String → Except ReadError Style
  | "template" => .ok .template
  | "function" => .ok .function
  | name => .error (.shape (.unknownVariant name [template.name, function.name]))

/-- A style is its name, or an object whose one name it is and which says nothing more. -/
def decode : Decoder Style
  | .string name => ofName name
  | .object [(some name, d)] => do
    let style ← ofName name
    match d with
    | .null => return style
    | d => unexpected "unit" d
  | .object _ => .error (.shape .severalNames)
  | d => unexpected "string or map" d

def toJson (s : Style) : Json := .string s.name

end Style

end Showcase
