import Showcase.Json.Shape

namespace Showcase

open Decoder

def textItems (title : String) (names : List String) (source : Source) (m : OrderedMap String) :
    List String → List Document → Except ReadError (OrderedMap String)
  | [], [] => .ok m
  | [], rest => .error (source.overlong names.length (names.length + rest.length))
  | _ :: missing, [] =>
    .error (.shape (.invalidLength (names.length - 1 - missing.length)
      s!"{title} with {names.length} elements"))
  | name :: missing, d :: ds => do
    let s ← string d
    textItems title names source (m.insert name s) missing ds

def textEntries (names : List String) (m : OrderedMap String) :
    List (Option String × Document) → Except ReadError (OrderedMap String)
  | [] => .ok m
  | (none, _) :: _ => .error .malformed
  | (some k, d) :: es => do
    if names.contains k then
      once k (m.get? k)
      let s ← string d
      textEntries names (m.insert k s) es
    else
      skip d
      textEntries names m es

/-- A record of texts, given by name or in order. -/
def textRecord (title : String) (names : List String) (source : Source) :
    Decoder (OrderedMap String)
  | .object entries => textEntries names .empty entries
  | .array items => textItems title names source .empty names items
  | d => unexpected title d

def textField (m : OrderedMap String) (name : String) : Except ReadError String :=
  required name (m.get? name)

end Showcase
