import Showcase.Json.Printer
import Showcase.Json.Reader
import Showcase.Text.Quoted

namespace Showcase

def Found.text : Found → String
  | null => "null"
  | bool b => s!"boolean `{b}`"
  | number (.integer n) => s!"integer `{n}`"
  | number (.float x) => s!"floating point `{x.text}`"
  | string s => "string " ++ quoted s
  | sequence => "sequence"
  | map => "map"

/-- A value that is JSON, but not of the form asked for. -/
inductive ShapeError
  | invalidType (found : Found) (expected : String)
  | invalidLength (length : Nat) (expected : String)
  | duplicateField (name : String)
  | missingField (name : String)
  | unknownVariant (name : String) (known : List String)
  | severalNames
  | propsForm (found : Json)
deriving Repr

def ShapeError.message : ShapeError → String
  | invalidType found expected => s!"invalid type: {found.text}, expected {expected}"
  | invalidLength length expected => s!"invalid length {length}, expected {expected}"
  | duplicateField name => s!"duplicate field `{name}`"
  | missingField name => s!"missing field `{name}`"
  | unknownVariant name known =>
    s!"unknown variant `{name}`, expected " ++ " or ".intercalate (known.map fun k ↦ s!"`{k}`")
  | severalNames => "invalid value: map, expected map with a single key"
  | propsForm found => s!"expected props object or list, found {found.text}"

inductive ReadError
  | malformed
  | shape (e : ShapeError)
deriving Repr

/-- Where a value stands; it decides how an overlong list is reported. -/
inductive Source
  | value
  | text
  | setAside
deriving DecidableEq, Repr

/-- A list of `length` items where `taken` would do. -/
def Source.overlong (taken length : Nat) : Source → ReadError
  | value => .shape (.invalidLength length "fewer elements in array")
  | text => .malformed
  | setAside => .shape (.invalidLength length s!"{taken} elements in sequence")

abbrev Decoder (α : Type) := Document → Except ReadError α

namespace Decoder

variable {α : Type}

def unexpected (expected : String) (d : Document) : Except ReadError α :=
  match d.found? with
  | some found => .error (.shape (.invalidType found expected))
  | none => .error .malformed

def whole : Decoder Json := fun d ↦ d.toJson?.elim (.error .malformed) .ok

def skip : Decoder Unit := fun d ↦ if d.isIntact then .ok () else .error .malformed

def string : Decoder String
  | .string s => .ok s
  | d => unexpected "a string" d

def nullable (decode : Decoder α) : Decoder (Option α)
  | .null => .ok none
  | d => some <$> decode d

def mapEntries (decode : Decoder α) (m : OrderedMap α) :
    List (Option String × Document) → Except ReadError (OrderedMap α)
  | [] => .ok m
  | (none, _) :: _ => .error .malformed
  | (some k, d) :: es => do
    let v ← decode d
    mapEntries decode (m.insert k v) es

def map (decode : Decoder α) : Decoder (OrderedMap α)
  | .object es => mapEntries decode .empty es
  | d => unexpected "a map" d

def once (name : String) (earlier : Option α) : Except ReadError Unit :=
  if earlier.isSome then .error (.shape (.duplicateField name)) else .ok ()

def required (name : String) (given : Option α) : Except ReadError α :=
  given.elim (.error (.shape (.missingField name))) .ok

def ofJson (decode : Decoder α) (v : Json) : Except ReadError α := decode (.ofJson v)

/-- Reads a text; what follows the value is looked at last. -/
def ofText (decode : Decoder α) (text : String) : Except ReadError α := do
  let (d, complete) := Document.ofText Document.maxLevels text
  let v ← decode d
  if complete then return v else throw .malformed

end Decoder

end Showcase
