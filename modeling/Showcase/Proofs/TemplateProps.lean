import Showcase.Proofs.Resolution

namespace Showcase

variable {σ : Type} (env : Env σ) (r : Record)

def slotDeclaration : Declaration := { type := some (.constructor .string) }

theorem slotDeclaration_kind : slotDeclaration.kind = .text := rfl

theorem slotDeclaration_probeError? : slotDeclaration.probeError? = none := rfl

theorem slotDeclaration_default : slotDeclaration.default = none := rfl

/-- The slot as a text that nobody declared: only the hooks and the control have a say. -/
def slotInput : Action σ (Resolution σ) := do
  let context : PropContext := ⟨r, slotProp, slotDeclaration⟩
  let caller ← env.defaultHook context
  let choices ← env.choiceHook context
  let default := Arg.ofDefault slotProp (caller.getD (.string slotProp))
  let binding : Binding :=
    match choices with
    | none => .plain slotProp .text default
    | some e => .select slotProp (e.withChoice default) default
  let value ← env.host.control binding
  return ⟨slotProp, if choices.isSome then .select else .text, some binding, .control value⟩

theorem resolution_slot : env.resolution r slotProp slotDeclaration = slotInput env r := by
  ext1 s
  simp only [Env.resolution, slotInput, resolve_eq, Action.perform_bind, perform_inputKind]
  generalize (env.defaultHook _).perform s = caller
  generalize (env.choiceHook _).perform caller.2 = choices
  obtain ⟨caller, s'⟩ := caller
  obtain ⟨choices, s''⟩ := choices
  cases choices <;> cases caller <;>
    simp [kindUnder, probesUnder, Kind.isBound, perform_bindProp, givenDefault, bindingOf, argOf,
      Kind.fallback?, Kind.control, slotDeclaration_kind, slotDeclaration_probeError?,
      slotDeclaration_default]

/-- The slot comes last unless the component has a prop of that name. -/
def templateNames (c : Component) : List String :=
  if slotProp ∈ c.props.keys then c.props.keys else c.props.keys ++ [slotProp]

def templateInput (prop : String) : Action σ (Resolution σ) :=
  if prop = slotProp then slotInput env r
  else env.resolution r prop ((r.component.props.get? prop).getD {})

section Template

variable {r} (h : r.style = .template)

include h

theorem entries_props : r.props.entries = (templateNames r.component).map fun k ↦
    (k, if k = slotProp then slotDeclaration else (r.component.props.get? k).getD {}) := by
  have hprops : r.props = r.component.props.insert slotProp slotDeclaration := by
    rw [Record.props, h, Style.hasSlot, if_pos rfl]
    rfl
  rw [hprops, OrderedMap.entries_eq_map_get? _ {}, OrderedMap.keys_insert]
  refine List.map_congr_left fun k _ ↦ ?_
  rw [OrderedMap.get?_insert]
  split <;> rfl

theorem resolutionsOf_template : env.resolutionsOf r r.props.entries =
    (templateNames r.component).mapM fun k ↦ (k, ·) <$> templateInput env r k := by
  rw [resolutionsOf_eq_mapM, entries_props h, List.mapM_map]
  congr 1
  funext k
  simp only [templateInput, Function.comp_apply]
  split
  · next hk => rw [hk, resolution_slot]
  · rfl

theorem keys_props : r.props.keys = templateNames r.component := by
  simp [OrderedMap.keys, entries_props h, Function.comp_def]

theorem perform_render (s : Session σ) : ∃ t, (env.render r).perform s =
      (.template t, ((env.resolutionsOf r r.props.entries).perform s).2) ∧
    t.template = templateText r.name r.component.props.keys ∧
    t.props.entries = ((env.resolutionsOf r r.props.entries).perform s).1 := by
  rw [Env.render, h]
  exact ⟨_, rfl, rfl, entries_resolutions env r s⟩

/-- The markup of a template story binds the props of the component, in their order. Its props are
these and the slot, which stands last unless the component has a prop of its name: each is resolved
from what the component declares, except for the slot. -/
theorem template_props_agree (s : Session σ) :
    let names := r.component.props.keys
    let inputs := ((templateNames r.component).mapM fun k ↦
      (k, ·) <$> templateInput env r k).perform s
    ∃ t, (env.render r).perform s = (.template t, inputs.2) ∧
      t.template = "<" ++ r.name ++ "\n" ++
        "\n".intercalate (names.map fun k ↦ "  :" ++ k ++ "=\"" ++ k ++ "\"") ++
        "\n>\x7b\x7b SLOT \x7d\x7d</" ++ r.name ++ ">" ∧
      t.props.entries = inputs.1 ∧
      t.props.keys = (if slotProp ∈ names then names else names ++ [slotProp]) ∧
      t.props.keys.Nodup ∧
      (∀ k ∈ names, k ≠ slotProp → ∃ d, r.component.props.get? k = some d ∧
        templateInput env r k = env.resolution r k d) ∧
      templateInput env r slotProp = slotInput env r := by
  intro names inputs
  have hinputs : (env.resolutionsOf r r.props.entries).perform s = inputs := by
    rw [resolutionsOf_template env h]
  obtain ⟨t, ht, htext, hprops⟩ := perform_render env h s
  refine ⟨t, hinputs ▸ ht, htext, hinputs ▸ hprops, ?_, t.props.keys_nodup,
    fun k hk hne ↦ ?_, if_pos rfl⟩
  · rw [OrderedMap.keys, hprops, keys_resolutionsOf]
    exact keys_props h
  · obtain ⟨d, hd⟩ := OrderedMap.mem_keys_iff_get?.1 hk
    exact ⟨d, hd, by rw [templateInput, if_neg hne, hd, Option.getD_some]⟩

end Template

def quietEnv : Env Unit where
  host := { produce := fun _ ↦ return .null, control := echo, acknowledge := logAcknowledged }

/-- A component that declares a prop under the name of the slot. -/
def slottedRecord : Record where
  style := .template
  group := "forms"
  name := "Field"
  component := { own := { props := some (.ofList
    [("SLOT", { type := some .file }), ("label", { default := some (.literal .null) })]) } }
  module := {}

theorem slotted_props_agree : slottedRecord.style = .template ∧ ∃ t s,
    (quietEnv.render slottedRecord).perform ⟨(), []⟩ = (.template t, s) ∧
      t.template =
        "<Field\n  :SLOT=\"SLOT\"\n  :label=\"label\"\n>\x7b\x7b SLOT \x7d\x7d</Field>" ∧
      t.props.entries.map (fun e ↦ (e.1, e.2.kind)) = [("SLOT", .text), ("label", .object)] := by
  obtain ⟨t, ht, htext, hprops, -⟩ :=
    template_props_agree quietEnv (r := slottedRecord) rfl ⟨(), []⟩
  refine ⟨rfl, t, _, ht, ?_, ?_⟩
  · rw [htext]
    decide
  · rw [hprops]
    decide

end Showcase
