import Showcase.Generation
import Showcase.Json.Shape

namespace Showcase

open Decoder

variable {σ : Type}

/-- Plugins, and defaults and choices of props by component and by prop. -/
structure Config where
  schema : Option String := none
  plugins : OrderedMap Json := .empty
  defaults : OrderedMap (OrderedMap Json) := .empty
  enums : OrderedMap (OrderedMap Enumeration) := .empty

instance : Inhabited Config := ⟨{}⟩

namespace Config

def default? (c : Config) (component prop : String) : Option Json :=
  (c.defaults.get? component).bind (·.get? prop)

def choices? (c : Config) (component prop : String) : Option Enumeration :=
  (c.enums.get? component).bind (·.get? prop)

/-- Adds the plugins to those already there; the hooks are replaced. -/
def apply (c : Config) (g : Generation σ) : Generation σ :=
  { g with env := { g.env with
      plugins := g.env.plugins.overlay c.plugins
      defaultHook := fun p ↦ return c.default? p.record.name p.prop
      choiceHook := fun p ↦ return c.choices? p.record.name p.prop } }

def mapJson {α : Type} (toJson : α → Json) (m : OrderedMap α) : Json :=
  .object (m.map fun _ v ↦ toJson v).entries

def toJson (c : Config) : Json :=
  .object ((c.schema.map fun s ↦ ("$schema", Json.string s)).toList ++
    [("plugins", mapJson id c.plugins),
      ("defaults", mapJson (mapJson id) c.defaults),
      ("enums", mapJson (mapJson (mapJson id)) c.enums)])

structure Fields where
  schema : Option (Option String) := none
  plugins : Option (OrderedMap Json) := none
  defaults : Option (OrderedMap (OrderedMap Json)) := none
  enums : Option (OrderedMap (OrderedMap Enumeration)) := none

def ofFields (f : Fields) : Config :=
  { schema := f.schema.join
    plugins := f.plugins.getD .empty
    defaults := f.defaults.getD .empty
    enums := f.enums.getD .empty }

def decodeSchema : Decoder (Option String) := nullable string

def decodePlugins : Decoder (OrderedMap Json) := map whole

def decodeDefaults : Decoder (OrderedMap (OrderedMap Json)) := map (map whole)

def decodeEnums : Decoder (OrderedMap (OrderedMap Enumeration)) := map (map (map whole))

def decodeFields (seen : Fields) : List (Option String × Document) → Except ReadError Fields
  | [] => .ok seen
  | (none, _) :: _ => .error .malformed
  | (some "$schema", d) :: entries => do
    once "$schema" seen.schema
    let schema ← decodeSchema d
    decodeFields { seen with schema := some schema } entries
  | (some "plugins", d) :: entries => do
    once "plugins" seen.plugins
    let plugins ← decodePlugins d
    decodeFields { seen with plugins := some plugins } entries
  | (some "defaults", d) :: entries => do
    once "defaults" seen.defaults
    let defaults ← decodeDefaults d
    decodeFields { seen with defaults := some defaults } entries
  | (some "enums", d) :: entries => do
    once "enums" seen.enums
    let enums ← decodeEnums d
    decodeFields { seen with enums := some enums } entries
  | (some _, d) :: entries => do
    skip d
    decodeFields seen entries

/-- The fields in order; those at the end may be missing. -/
def decodeItems (source : Source) : List Document → Except ReadError Fields
  | [] => .ok {}
  | s :: items => do
    let schema ← decodeSchema s
    match items with
    | [] => return { schema := some schema }
    | p :: items =>
      let plugins ← decodePlugins p
      match items with
      | [] => return { schema := some schema, plugins := some plugins }
      | d :: items =>
        let defaults ← decodeDefaults d
        match items with
        | [] =>
          return { schema := some schema, plugins := some plugins, defaults := some defaults }
        | e :: items =>
          let enums ← decodeEnums e
          if items.isEmpty then return ⟨schema, plugins, defaults, enums⟩
          else throw (source.overlong 4 (items.length + 4))

def decode (source : Source) : Decoder Config
  | .object entries => ofFields <$> decodeFields {} entries
  | .array items => ofFields <$> decodeItems source items
  | d => unexpected "struct DocentConfig" d

def ofJson : Json → Except ReadError Config := Decoder.ofJson (decode .value)

def ofText : String → Except ReadError Config := Decoder.ofText (decode .text)

end Config

/-- What is found at a path. If it cannot be read, the system says why in its own words. -/
inductive FileContent
  | missing
  | unreadable (reason : String)
  | bytes (content : ByteArray)

/-- The reason why bytes are no text. -/
def FileContent.notUTF8 : String := "stream did not contain valid UTF-8"

/-- The words in which the reader of JSON says why it did not read a text, and where it stopped. -/
abbrev Wording := String → ReadError → String

namespace Config

variable (wording : Wording) (path : String)

def read : FileContent → Except ConfigError (Option Config)
  | .missing => .ok none
  | .unreadable reason => .error (.unreadable path reason)
  | .bytes content =>
    match String.fromUTF8? content with
    | none => .error (.unreadable path FileContent.notUTF8)
    | some text =>
      match ofText text with
      | .ok c => .ok (some c)
      | .error e => .error (.malformed path ⟨e, wording text e⟩)

/-- Never fails: a file that cannot be used is logged and counts as empty. -/
def load (file : FileContent) : Action σ Config := do
  match read wording path file with
  | .ok c => return c.getD {}
  | .error e =>
    logEvent (.configFailed e)
    return {}

end Config

end Showcase
