import Showcase.Declaration

namespace Showcase

structure Options where
  props : Option PropMap := none
  mixins : Option (List Options) := none

structure Prototype where
  isReactComponent : Bool
deriving DecidableEq, Repr

structure Component where
  options : Option Options := none
  instanceOptions : Option Options := none
  own : Options := {}
  propTypes : Option (OrderedMap PropType) := none
  defaultProps : OrderedMap Json := .empty
  prototype : Option Prototype := none

namespace Component

def isReact (c : Component) : Bool := c.prototype.any (·.isReactComponent)

/-- The option scopes, in the order in which they are searched. -/
def scopes (c : Component) : List (Option Options) := [c.options, c.instanceOptions, some c.own]

def offered? {α : Type} (c : Component) (pick : Options → Option α) : Option α :=
  c.scopes.findSome? (·.bind pick)

/-- The props of the mixins alone; the mixins of a mixin count for nothing. -/
def inheritedProps (c : Component) : PropMap :=
  ((c.offered? (·.mixins)).getD []).foldl
    (fun props mixin ↦ props.overlay (mixin.props.getD .empty)) .empty

def validatedProps (c : Component) : PropMap :=
  (c.propTypes.getD .empty).map fun name type ↦
    { type := some type, default := (c.defaultProps.get? name).map .literal }

/-- Typed props over direct props over the props of mixins. -/
def props (c : Component) : PropMap :=
  (c.inheritedProps.overlay ((c.offered? (·.props)).getD .empty)).overlay c.validatedProps

end Component

/-- Options components are rendered through a template, classes and functions directly. -/
inductive Style
  | template
  | function
deriving DecidableEq, Repr

namespace Style

def name : Style → String
  | template => "template"
  | function => "function"

def hasSlot : Style → Bool
  | template => true
  | function => false

end Style

def Component.style (c : Component) : Style := if c.isReact then .function else .template

end Showcase
