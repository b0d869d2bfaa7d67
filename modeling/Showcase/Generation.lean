import Showcase.Registry
import Showcase.Story

namespace Showcase

variable {σ : Type}

structure Files where
  keys : List String
  load : String → Option Module

/-- Files held in memory; a file without a module cannot be loaded. -/
abbrev FileTable := OrderedMap (Option Module)

namespace FileTable

def withModule (files : FileTable) (path : String) (m : Module) : FileTable :=
  files.insert path (some m)

def withMissing (files : FileTable) (path : String) : FileTable := files.insert path none

def load (files : FileTable) (path : String) : Option Module := (files.get? path).join

def toFiles (files : FileTable) : Files := ⟨files.keys, files.load⟩

end FileTable

/-- A story as it is kept in a registry, to be rendered at any time. -/
abbrev Stories (σ : Type) := Registry (Action σ (Story σ))

structure Generation (σ : Type) where
  env : Env σ
  files : Option Files := none
  registry : Stories σ

namespace Generation

/-- No hooks, the echoing control library and the logging sink. -/
def new (registry : Stories σ) (produce : Nat → Action σ Json) : Generation σ :=
  { env := { host := { produce, control := echo, acknowledge := logAcknowledged } }, registry }

variable (g : Generation σ)

def withPlugins (plugins : OrderedMap Json) : Generation σ :=
  { g with env := { g.env with plugins } }

def withDefaultHook (defaultHook : Hook σ Json) : Generation σ :=
  { g with env := { g.env with defaultHook } }

def withChoiceHook (choiceHook : Hook σ Enumeration) : Generation σ :=
  { g with env := { g.env with choiceHook } }

def withFiles (files : Files) : Generation σ := { g with files := some files }

def withControls (control : Binding → Action σ Arg) : Generation σ :=
  { g with env := { g.env with host := { g.env.host with control } } }

def withAcknowledge (acknowledge : Sink σ) : Generation σ :=
  { g with env := { g.env with host := { g.env.host with acknowledge } } }

end Generation

structure Report where
  registered : List StoryId := []
  diagnostics : List FileError := []
deriving Repr

def Report.isClean (r : Report) : Bool := r.diagnostics.isEmpty

structure Outcome (σ : Type) where
  report : Report := {}
  registry : Stories σ

def register (env : Env σ) (r : Record) (registry : Stories σ) : Stories σ :=
  (registry.addDecorator r.group .withKnobs).add r.group r.name (env.render r)

def visit (env : Env σ) (files : Files) (acc : Outcome σ) (file : String) :
    Action σ (Outcome σ) := do
  match ← Record.find (files.load file) (.ofPath file) with
  | .ok (some r) =>
    logEvent (.registered r.id)
    return {
      report := { acc.report with registered := acc.report.registered ++ [r.id] }
      registry := register env r acc.registry }
  | .ok none => return acc
  | .error e =>
    logEvent (.noStory e)
    return { acc with report := { acc.report with diagnostics := acc.report.diagnostics ++ [e] } }

/-- Visits the files in order; without files nothing is generated. -/
def Generation.run (g : Generation σ) : Action σ (Outcome σ) :=
  match g.files with
  | none => return { registry := g.registry }
  | some files => files.keys.foldlM (visit g.env files) { registry := g.registry }

end Showcase
