import Showcase.Config
import Showcase.Proofs.TemplateProps

namespace Showcase

variable {σ : Type}

/-- Answers that do not depend on the state: hooks go by the names of the component and of the prop,
producers and controls by what they are asked. -/
structure FixedAnswers where
  caller : String → String → Option Json
  choices : String → String → Option Enumeration
  produced : Nat → Json
  control : Binding → Arg

structure Host.Gives (host : Host σ) (x : FixedAnswers) : Prop where
  produce : ∀ id s, ((host.produce id).perform s).1 = x.produced id
  control : ∀ b s, ((host.control b).perform s).1 = x.control b

structure Env.Gives (env : Env σ) (x : FixedAnswers) : Prop where
  host : env.host.Gives x
  defaultHook : ∀ c s, ((env.defaultHook c).perform s).1 = x.caller c.record.name c.prop
  choiceHook : ∀ c s, ((env.choiceHook c).perform s).1 = x.choices c.record.name c.prop

theorem Config.gives_apply (c : Config) (g : Generation σ) {x : FixedAnswers}
    (h : g.env.host.Gives x) :
    (c.apply g).env.Gives { x with caller := c.default?, choices := c.choices? } where
  host := ⟨h.produce, h.control⟩
  defaultHook _ _ := rfl
  choiceHook _ _ := rfl

def DefaultSource.fixedValue (x : FixedAnswers) : DefaultSource → Json
  | literal v => v
  | producer id => x.produced id

section Input

variable (env : Env σ) (x : FixedAnswers)

/-- The input of a prop, which the style of the record has no part in. -/
def fixedInput (component prop : String) (d : Declaration) : Input σ :=
  let choices := x.choices component prop
  let kind := kindUnder d choices
  let given := x.caller component prop <|> d.default.map (DefaultSource.fixedValue x)
  if kind.isBound then .control (x.control (bindingOf prop kind choices (argOf prop kind given)))
  else freeInput env.host prop kind

variable {env x} (h : env.Gives x) (r : Record)

include h

theorem value_givenDefault (d : Declaration) (caller : Option Json) (s : Session σ) :
    ((givenDefault env.host d caller).perform s).1 =
      (caller <|> d.default.map (DefaultSource.fixedValue x)) := by
  obtain ⟨type, default⟩ := d
  cases caller with
  | some v => rfl
  | none =>
    match default with
    | none => rfl
    | some (.literal v) => rfl
    | some (.producer id) => exact congrArg some (h.host.produce id s)

theorem value_resolution (prop : String) (d : Declaration) (s : Session σ) :
    ((env.resolution r prop d).perform s).1.value = fixedInput env x r.name prop d := by
  simp only [Env.resolution, resolve_eq, Action.perform_bind, perform_inputKind, h.defaultHook,
    h.choiceHook, fixedInput]
  split
  · simp [perform_bindProp, value_givenDefault h, h.host.control]
  · rfl

theorem values_resolutionsOf (es : List (String × Declaration)) (s : Session σ) :
    (((env.resolutionsOf r es).perform s).1.map fun e ↦ (e.1, e.2.value)) =
      es.map fun e ↦ (e.1, fixedInput env x r.name e.1 e.2) := by
  induction es generalizing s with
  | nil => rfl
  | cons e es ih => simp [Env.resolutionsOf, value_resolution h, ih]

/-- Values are resolved for the same props in the same way, whatever becomes of the slot. -/
theorem values_filter_slot (s s' : Session σ) :
    let values (style : Style) (s : Session σ) :=
      ((env.resolutions { r with style }).perform s).1.entries.map fun e ↦ (e.1, e.2.value)
    (values .template s).filter (·.1 ≠ slotProp) =
      (values .function s').filter (·.1 ≠ slotProp) := by
  intro values
  have hvalues (style : Style) (s : Session σ) :
      (values style s).filter (·.1 ≠ slotProp) =
        ((Record.props { r with style }).entries.filter (·.1 ≠ slotProp)).map fun e ↦
          (e.1, fixedInput env x r.name e.1 e.2) := by
    simp only [values, entries_resolutions, values_resolutionsOf h, List.filter_map]
    rfl
  rw [hvalues, hvalues]
  exact congrArg (List.map _) (filter_insertEntry slotProp _ r.component.props.entries)

end Input

theorem perform_render_element (env : Env σ) {r : Record} (h : r.style = .function)
    (s : Session σ) : ∃ e, ((env.render r).perform s).1 = .element e ∧
      e.props.entries =
        ((env.resolutions r).perform s).1.entries.map fun p ↦ (p.1, p.2.value) := by
  rw [Env.render, h]
  exact ⟨_, rfl, rfl⟩

/-- A component renders to the same inputs in either style as long as all answers are fixed. The
slot is left out of this: a template always has it, a function only if the component does. -/
theorem styles_agree {env : Env σ} {x : FixedAnswers} (h : env.Gives x) (r : Record)
    (s s' : Session σ) : ∃ t e,
      ((env.render { r with style := .template }).perform s).1 = .template t ∧
      ((env.render { r with style := .function }).perform s').1 = .element e ∧
      (t.props.entries.map fun p ↦ (p.1, p.2.value)).filter (·.1 ≠ slotProp) =
        e.props.entries.filter (·.1 ≠ slotProp) ∧
      (slotProp ∈ e.props.keys ↔ slotProp ∈ r.component.props.keys) ∧
      slotProp ∈ t.props.keys := by
  obtain ⟨t, ht, -, htprops⟩ := perform_render env (r := { r with style := .template }) rfl s
  obtain ⟨e, he, heprops⟩ := perform_render_element env (r := { r with style := .function }) rfl s'
  refine ⟨t, e, congrArg Prod.fst ht, he, ?_, ?_, ?_⟩
  · rw [heprops, htprops, ← entries_resolutions]
    exact values_filter_slot h r s s'
  · have hkeys : e.props.keys = r.component.props.keys := by
      rw [OrderedMap.keys, heprops, List.map_map, entries_resolutions]
      exact keys_resolutionsOf ..
    rw [hkeys]
  · have hkeys : t.props.keys = templateNames r.component := by
      rw [OrderedMap.keys, htprops, keys_resolutionsOf]
      exact keys_props rfl
    rw [hkeys, templateNames]
    split
    · assumption
    · exact List.mem_append_right _ (List.mem_singleton_self _)

/-- Counts the reads of its controls, and answers each with the default. -/
def countingHost : Host Nat where
  produce _ := return .null
  control b := fun s ↦ (b.default, { s with state := s.state + 1 })
  acknowledge := logAcknowledged

def fieldConfig : Config where
  defaults := .ofList [("Field", .ofList [("label", .string "Name")])]
  enums := .ofList [("Field", .ofList [("SLOT", .ofList [("none", .null)])])]

theorem configured_field_agrees :
    let env := (fieldConfig.apply { env := { host := countingHost }, registry := {} }).env
    let x : FixedAnswers :=
      ⟨fieldConfig.default?, fieldConfig.choices?, fun _ ↦ .null, Binding.default⟩
    env.Gives x ∧ ∃ t e, ((env.render slottedRecord).perform ⟨0, []⟩).1 = .template t ∧
      ((env.render { slottedRecord with style := .function }).perform ⟨7, []⟩).1 = .element e ∧
      (t.props.entries.map fun p ↦ (p.1, p.2.value)).filter (·.1 ≠ slotProp) =
        e.props.entries.filter (·.1 ≠ slotProp) ∧
      slotProp ∈ e.props.keys ∧ slotProp ∈ t.props.keys := by
  intro env x
  have hhost : countingHost.Gives x := ⟨fun _ _ ↦ rfl, fun _ _ ↦ rfl⟩
  have henv : env.Gives x :=
    fieldConfig.gives_apply { env := { host := countingHost }, registry := {} } hhost
  obtain ⟨t, e, ht, he, hvalues, hslot, htslot⟩ :=
    styles_agree henv slottedRecord ⟨0, []⟩ ⟨7, []⟩
  exact ⟨henv, t, e, ht, he, hvalues, hslot.2 (by decide), htslot⟩

end Showcase
