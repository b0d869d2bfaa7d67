import Showcase.Component

namespace Showcase

inductive Export
  | component (c : Component)
  | value (v : Json)
  | empty

namespace Export

def isPresent : Export → Bool
  | empty => false
  | component _ | value _ => true

def component? : Export → Option Component
  | component c => some c
  | value _ | empty => none

end Export

structure Module where
  exports : OrderedMap Export := .empty

namespace Module

variable (m : Module)

def withExport (name : String) (e : Export) : Module := ⟨m.exports.insert name e⟩

def withComponent (name : String) (c : Component) : Module := m.withExport name (.component c)

def get? (name : String) : Option Export := m.exports.get? name

def first? : Option (String × Export) := m.exports.entries.head?

def toList : List (String × Export) := m.exports.entries

def size : Nat := m.exports.entries.length

def isEmpty : Bool := m.exports.entries.isEmpty

end Module

end Showcase
