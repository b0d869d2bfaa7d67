import Showcase.Json

namespace Showcase

inductive Owner
  | prop (name : String)
  | store
deriving DecidableEq, Repr

/-- A structured value of which every member can be read. -/
structure Placeholder where
  value : Json
  owner : Owner
deriving Repr

structure Stub where
  key : String
  owner : Owner
deriving DecidableEq, Repr

def Stub.text (s : Stub) : String :=
  match s.owner with
  | .prop name => s!"Proxy property \"{s.key}\" of prop \"{name}\" by storybook automation"
  | .store => s!"Proxy property \"{s.key}\" from store by storybook automation"

inductive Member
  | value (v : Json)
  | stub (s : Stub)
deriving Repr

def Member.isStub : Member → Bool
  | stub _ => true
  | value _ => false

/-- A position in a list: decimal digits after perhaps a plus sign, within 64 bits. -/
def listIndex? (key : String) : Option Nat :=
  let ds := match key.toList with
    | '+' :: cs => cs
    | cs => cs
  if ds.isEmpty || !ds.all Char.isDigit then none
  else
    let n := ds.foldl (fun n c ↦ 10 * n + (c.toNat - '0'.toNat)) 0
    if n < 0x10000000000000000 then some n else none

namespace Placeholder

def store : Placeholder := ⟨.object [], .store⟩

def member? (key : String) : Json → Option Json
  | .object entries => entries.lookup key
  | .array items => (listIndex? key).bind (items[·]?)
  | _ => none

def get (p : Placeholder) (key : String) : Member :=
  (member? key p.value).elim (.stub ⟨key, p.owner⟩) .value

end Placeholder

end Showcase
