import Showcase.OrderedMap
import Showcase.Json

namespace Showcase

inductive Found
  | null
  | bool (b : Bool)
  | number (n : Number)
  | string (s : String)
  | sequence
  | map
deriving Repr

/-- A JSON text as far as it can be read. Objects keep repeated names; a name that no text can
hold is missing. An `unreadable` value is well formed but cannot be held, so it may only be passed
over; it is all that a list or an object nested too deeply contains. At `broken` the text stops
being JSON. -/
inductive Document
  | null
  | bool (b : Bool)
  | number (n : Number)
  | string (s : String)
  | array (items : List Document)
  | object (entries : List (Option String × Document))
  | unreadable
  | broken
deriving Repr, Inhabited

namespace Document

mutual

def ofJson : Json → Document
  | .null => null
  | .bool b => bool b
  | .number n => number n
  | .string s => string s
  | .array items => array (ofItems items)
  | .object entries => object (ofEntries entries)

def ofItems : List Json → List Document
  | [] => []
  | v :: vs => ofJson v :: ofItems vs

def ofEntries : List (String × Json) → List (Option String × Document)
  | [] => []
  | (k, v) :: es => (some k, ofJson v) :: ofEntries es

end

mutual

/-- The whole value, each repeated name at its first place with its last value. -/
def toJson? : Document → Option Json
  | null => some .null
  | bool b => some (.bool b)
  | number n => some (.number n)
  | string s => some (.string s)
  | array items => (itemsToJson? items).map .array
  | object entries => (entriesToJson? entries).map fun es ↦ .object (mergeEntries es)
  | unreadable | broken => none

def itemsToJson? : List Document → Option (List Json)
  | [] => some []
  | d :: ds => do
    let v ← d.toJson?
    let vs ← itemsToJson? ds
    return v :: vs

def entriesToJson? : List (Option String × Document) → Option (List (String × Json))
  | [] => some []
  | (k, d) :: es => do
    let k ← k
    let v ← d.toJson?
    let vs ← entriesToJson? es
    return (k, v) :: vs

end

mutual

/-- The text of the value can be passed over. -/
def isIntact : Document → Bool
  | array items => itemsIntact items
  | object entries => entriesIntact entries
  | broken => false
  | _ => true

def itemsIntact : List Document → Bool
  | [] => true
  | d :: ds => d.isIntact && itemsIntact ds

def entriesIntact : List (Option String × Document) → Bool
  | [] => true
  | (_, d) :: es => d.isIntact && entriesIntact es

end

/-- How a value is reported; a text that cannot be read that far has no report. -/
def found? : Document → Option Found
  | null => some .null
  | bool b => some (.bool b)
  | number n => some (.number n)
  | string s => some (.string s)
  | array _ => some .sequence
  | object _ => some .map
  | unreadable | broken => none

end Document

end Showcase
