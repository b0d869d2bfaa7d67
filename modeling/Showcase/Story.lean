import Showcase.Input
import Showcase.Record

namespace Showcase

variable {σ : Type}

def templateText (name : String) (props : List String) : String :=
  "<" ++ name ++ "\n" ++ "\n".intercalate (props.map fun p ↦ "  :" ++ p ++ "=\"" ++ p ++ "\"") ++
    "\n>\x7b\x7b SLOT \x7d\x7d</" ++ name ++ ">"

structure TemplateStory (σ : Type) where
  plugins : OrderedMap Json
  components : OrderedMap Component
  template : String
  props : OrderedMap (Resolution σ)
  store : Placeholder

/-- A component called directly with plain values. -/
structure ElementStory (σ : Type) where
  component : Component
  props : OrderedMap (Input σ)

inductive Story (σ : Type)
  | template (s : TemplateStory σ)
  | element (s : ElementStory σ)

namespace Story

def input? (prop : String) : Story σ → Option (Input σ)
  | template s => (s.props.get? prop).map (·.value)
  | element s => s.props.get? prop

def store? : Story σ → Option Placeholder
  | template s => some s.store
  | element _ => none

end Story

structure PropContext where
  record : Record
  prop : String
  declaration : Declaration

/-- A hook of the caller's; none leaves the prop as it is. -/
abbrev Hook (σ α : Type) := PropContext → Action σ (Option α)

/-- All that rendering a story depends on, its component apart. -/
structure Env (σ : Type) where
  plugins : OrderedMap Json := .empty
  defaultHook : Hook σ Json := fun _ ↦ return none
  choiceHook : Hook σ Enumeration := fun _ ↦ return none
  host : Host σ

def reservedKeys : List String := ["components", "template", "props", "store"]

def storyPlugins (plugins : OrderedMap Json) : OrderedMap Json :=
  reservedKeys.foldl OrderedMap.swapRemove plugins

namespace Env

variable (env : Env σ) (r : Record)

def resolution (prop : String) (d : Declaration) : Action σ (Resolution σ) := do
  let context : PropContext := ⟨r, prop, d⟩
  let default ← env.defaultHook context
  let choices ← env.choiceHook context
  resolve env.host prop d { default, choices }

def resolutionsOf :
    List (String × Declaration) → Action σ (List (String × Resolution σ))
  | [] => return []
  | (prop, d) :: es => do
    let input ← env.resolution r prop d
    let inputs ← resolutionsOf es
    return (prop, input) :: inputs

def resolutions : Action σ (OrderedMap (Resolution σ)) := do
  let inputs ← env.resolutionsOf r r.props.entries
  return .ofList inputs

def asTemplate : Action σ (TemplateStory σ) := do
  let props ← env.resolutions r
  return {
    plugins := storyPlugins env.plugins
    components := .ofList [(r.name, r.component)]
    template := templateText r.name r.component.props.keys
    props
    store := .store }

def asElement : Action σ (ElementStory σ) := do
  let props ← env.resolutions r
  return { component := r.component, props := props.map fun _ input ↦ input.value }

/-- Resolves the props and reads the controls anew each time. -/
def render : Action σ (Story σ) :=
  match r.style with
  | .template => .template <$> env.asTemplate r
  | .function => .element <$> env.asElement r

end Env

end Showcase
