namespace Showcase

variable {α : Type}

inductive Decorator
  | withKnobs
deriving DecidableEq, Repr

def Decorator.name : Decorator → String
  | withKnobs => "WithKnobs"

structure Entry (α : Type) where
  name : String
  story : α

@[ext] structure Group (α : Type) where
  kind : String
  decorators : List Decorator := []
  stories : List (Entry α) := []

namespace Group

def addDecorator (d : Decorator) (g : Group α) : Group α :=
  if d ∈ g.decorators then g else { g with decorators := g.decorators ++ [d] }

def add (name : String) (story : α) (g : Group α) : Group α :=
  { g with stories := g.stories ++ [⟨name, story⟩] }

end Group

/-- Where the group of a kind is to be found, and the groups, with a new one at the end if there was
none of the kind. -/
def openAt (kind : String) (gs : List (Group α)) : Nat × List (Group α) :=
  match gs.findIdx? (·.kind = kind) with
  | some i => (i, gs)
  | none => (gs.length, gs ++ [{ kind }])

def inGroup (kind : String) (f : Group α → Group α) (gs : List (Group α)) : List (Group α) :=
  (openAt kind gs).2.modify (openAt kind gs).1 f

/-- Stories by group, groups in the order in which they were first opened. -/
structure Registry (α : Type) where
  groups : List (Group α) := []

namespace Registry

variable (r : Registry α)

def openGroup (kind : String) : Registry α := ⟨inGroup kind id r.groups⟩

def addDecorator (kind : String) (d : Decorator) : Registry α :=
  ⟨inGroup kind (Group.addDecorator d) r.groups⟩

def add (kind name : String) (story : α) : Registry α :=
  ⟨inGroup kind (Group.add name story) r.groups⟩

def group? (kind : String) : Option (Group α) := r.groups.find? (·.kind = kind)

def story? (kind name : String) : Option (Entry α) :=
  (r.group? kind).bind fun g ↦ g.stories.find? (·.name = name)

def size : Nat := r.groups.foldl (fun n g ↦ n + g.stories.length) 0

end Registry

end Showcase
