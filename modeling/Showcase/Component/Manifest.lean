import Showcase.Component
import Showcase.Json.Shape

namespace Showcase

open Decoder

/-- Props are an object of declarations or a list of names; other items of the list are passed
over. -/
def PropMap.decode : Decoder (Option PropMap) := fun d ↦ do
  match ← whole d with
  | .null => return none
  | .object entries => return some (.ofList (entries.map fun e ↦ (e.1, Declaration.ofJson e.2)))
  | .array items =>
    return some (.ofList (items.filterMap fun
      | .string name => some (name, {})
      | _ => none))
  | v => throw (.shape (.propsForm v))

namespace Options

/-- The fields met so far; a field given as null has been met. -/
structure Fields where
  props : Option (Option PropMap) := none
  mixins : Option (Option (List Options)) := none

mutual

/-- Options are an object, or a list of their fields in order of which the last may be missing. -/
def decode (source : Source) : Decoder Options
  | .object entries => decodeFields source {} entries
  | .array [] => .ok {}
  | .array [p] => do
    let props ← PropMap.decode p
    return { props }
  | .array (p :: m :: rest) => do
    let props ← PropMap.decode p
    let mixins ← decodeMixins source m
    if rest.isEmpty then return { props, mixins }
    else throw (source.overlong 2 (rest.length + 2))
  | d => unexpected "struct ComponentOptions" d

def decodeFields (source : Source) (seen : Fields) :
    List (Option String × Document) → Except ReadError Options
  | [] => .ok { props := seen.props.join, mixins := seen.mixins.join }
  | (none, _) :: _ => .error .malformed
  | (some "props", d) :: entries => do
    once "props" seen.props
    let props ← PropMap.decode d
    decodeFields source { seen with props := some props } entries
  | (some "mixins", d) :: entries => do
    once "mixins" seen.mixins
    let mixins ← decodeMixins source d
    decodeFields source { seen with mixins := some mixins } entries
  | (some _, d) :: entries => do
    skip d
    decodeFields source seen entries

def decodeMixins (source : Source) : Decoder (Option (List Options))
  | .null => .ok none
  | .array items => some <$> decodeItems source items
  | d => unexpected "a sequence" d

def decodeItems (source : Source) : List Document → Except ReadError (List Options)
  | [] => .ok []
  | d :: ds => do
    let o ← decode source d
    let os ← decodeItems source ds
    return o :: os

end

end Options

namespace Prototype

def marker (d : Document) : Except ReadError Prototype := do
  let v ← whole d
  return ⟨v.isTruthy⟩

def decodeFields (seen : Option Prototype) :
    List (Option String × Document) → Except ReadError Prototype
  | [] => .ok (seen.getD ⟨false⟩)
  | (none, _) :: _ => .error .malformed
  | (some "isReactComponent", d) :: entries => do
    once "isReactComponent" seen
    let p ← marker d
    decodeFields (some p) entries
  | (some _, d) :: entries => do
    skip d
    decodeFields seen entries

def decode (source : Source) : Decoder Prototype
  | .object entries => decodeFields none entries
  | .array [] => .ok ⟨false⟩
  | .array (d :: rest) => do
    let p ← marker d
    if rest.isEmpty then return p else throw (source.overlong 1 (rest.length + 1))
  | d => unexpected "struct Prototype" d

end Prototype

namespace Component

def decodePropTypes : Decoder (OrderedMap PropType) := fun d ↦ do
  let names ← map string d
  return names.map fun _ name ↦ .validator name

/-- The fields met so far, all but the component's own options. -/
structure Fields where
  options : Option (Option Options) := none
  instanceOptions : Option (Option Options) := none
  propTypes : Option (Option (OrderedMap PropType)) := none
  defaultProps : Option (OrderedMap Json) := none
  prototype : Option (Option Prototype) := none

def decodeFields (source : Source) (seen : Fields) :
    List (Option String × Document) → Except ReadError Fields
  | [] => .ok seen
  | (none, _) :: _ => .error .malformed
  | (some "options", d) :: entries => do
    once "options" seen.options
    let options ← nullable (Options.decode source) d
    decodeFields source { seen with options := some options } entries
  | (some "$options", d) :: entries => do
    once "$options" seen.instanceOptions
    let options ← nullable (Options.decode source) d
    decodeFields source { seen with instanceOptions := some options } entries
  | (some "propTypes", d) :: entries => do
    once "propTypes" seen.propTypes
    let types ← nullable decodePropTypes d
    decodeFields source { seen with propTypes := some types } entries
  | (some "defaultProps", d) :: entries => do
    once "defaultProps" seen.defaultProps
    let defaults ← map whole d
    decodeFields source { seen with defaultProps := some defaults } entries
  | (some "prototype", d) :: entries => do
    once "prototype" seen.prototype
    let prototype ← nullable (Prototype.decode source) d
    decodeFields source { seen with prototype := some prototype } entries
  | (some _, d) :: entries => do
    let _ ← whole d
    decodeFields source seen entries

/-- The component's own options are set aside until all its other fields have been read. -/
def decode (source : Source) : Decoder Component
  | .object entries => do
    let fields ← decodeFields source {} entries
    let own ← Options.decodeFields .setAside {} entries
    return {
      options := fields.options.join
      instanceOptions := fields.instanceOptions.join
      own
      propTypes := fields.propTypes.join
      defaultProps := fields.defaultProps.getD .empty
      prototype := fields.prototype.join }
  | d => unexpected "struct ComponentDefinition" d

def ofJson : Json → Except ReadError Component := Decoder.ofJson (decode .value)

def ofText : String → Except ReadError Component := Decoder.ofText (decode .text)

end Component

end Showcase
