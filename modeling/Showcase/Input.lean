import Showcase.Binding

namespace Showcase

variable {σ : Type}

abbrev Sink (σ : Type) := String → Action σ (Except SinkError Unit)

/-- What the host lends to every story: the producers of defaults, the control library and the
sink behind callbacks. -/
structure Host (σ : Type) where
  produce : Nat → Action σ Json
  control : Binding → Action σ Arg
  acknowledge : Sink σ

def echo (b : Binding) : Action σ Arg := return b.default

def logAcknowledged (prop : String) : Action σ (Except SinkError Unit) := do
  logEvent (.acknowledged prop)
  return .ok ()

structure Callback (σ : Type) where
  prop : String
  acknowledge : Sink σ

/-- A failure to acknowledge is logged and goes no further. -/
def Callback.call (c : Callback σ) : Action σ Unit := do
  match ← c.acknowledge c.prop with
  | .ok _ => pure ()
  | .error e => logEvent (.acknowledgeFailed c.prop e)

inductive Input (σ : Type)
  | control (a : Arg)
  | emptyFile
  | callback (c : Callback σ)

namespace Input

def control? : Input σ → Option Arg
  | control a => some a
  | emptyFile | callback _ => none

def callback? : Input σ → Option (Callback σ)
  | callback c => some c
  | control _ | emptyFile => none

end Input

/-- A prop resolved for one render; files and functions have no binding. -/
structure Resolution (σ : Type) where
  name : String
  kind : Kind
  binding : Option Binding
  value : Input σ

structure Overrides where
  default : Option Json := none
  choices : Option Enumeration := none

variable (host : Host σ) (prop : String) (d : Declaration)

def DefaultSource.materialize : DefaultSource → Action σ Json
  | literal v => return v
  | producer id => host.produce id

/-- The caller's default, else the declared one, for which a producer is called. -/
def givenDefault (caller : Option Json) : Action σ (Option Json) :=
  match caller, d.default with
  | some v, _ => return some v
  | none, some declared => some <$> declared.materialize host
  | none, none => return none

def defaultArg (kind : Kind) (caller : Option Json) : Action σ Arg := do
  let given ← givenDefault host d caller
  return ((given <|> kind.fallback? prop).map (Arg.ofDefault prop)).getD .undefined

/-- Choices from the caller make a select, which offers the default too. -/
def bindProp (kind : Kind) (o : Overrides) : Action σ Binding := do
  let default ← defaultArg host prop d kind o.default
  return match o.choices with
    | some e => .select prop (e.withChoice default) default
    | none => .plain prop kind.control default

def inputKind (o : Overrides) : Action σ Kind :=
  if o.choices.isSome then return .select else d.infer

def resolve (o : Overrides) : Action σ (Resolution σ) := do
  let kind ← inputKind d o
  match kind with
  | .file => return ⟨prop, kind, none, .emptyFile⟩
  | .function => return ⟨prop, kind, none, .callback ⟨prop, host.acknowledge⟩⟩
  | _ =>
    let binding ← bindProp host prop d kind o
    let value ← host.control binding
    return ⟨prop, kind, some binding, .control value⟩

end Showcase
