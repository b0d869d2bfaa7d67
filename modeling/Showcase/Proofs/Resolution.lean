import Showcase.Proofs.Action
import Showcase.Proofs.OrderedMap
import Showcase.Story

namespace Showcase

variable {σ : Type}

namespace Kind

/-- Files and functions are handed over as they are; any other kind is bound to a control. -/
def isBound : Kind → Bool
  | file | function => false
  | _ => true

theorem isBound_iff {k : Kind} : k.isBound = true ↔ k ≠ .file ∧ k ≠ .function := by
  cases k <;> simp [isBound]

end Kind

namespace Enumeration

variable {e : Enumeration} {a : Arg}

theorem withChoice_of_mem (h : a.label ∈ e.keys) : e.withChoice a = e := by
  rw [withChoice, if_pos (OrderedMap.contains_iff.2 h)]

theorem entries_withChoice_of_notMem (h : a.label ∉ e.keys) :
    (e.withChoice a).entries = e.entries ++ [(a.label, a.toJson)] := by
  rw [withChoice, if_neg (mt OrderedMap.contains_iff.1 h)]
  exact insertEntry_of_notMem h

end Enumeration

section Pure

variable (prop : String) (d : Declaration) (kind : Kind)

def kindUnder (choices : Option Enumeration) : Kind := if choices.isSome then .select else d.kind

/-- The failed call of a type, unless choices make the type irrelevant. -/
def probesUnder (choices : Option Enumeration) : List LogEvent :=
  if choices.isSome then [] else (d.probeError?.map .probeFailed).toList

def argOf (given : Option Json) : Arg :=
  ((given <|> kind.fallback? prop).map (Arg.ofDefault prop)).getD .undefined

def bindingOf (choices : Option Enumeration) (default : Arg) : Binding :=
  match choices with
  | some e => .select prop (e.withChoice default) default
  | none => .plain prop kind.control default

theorem bindingOf_name (choices : Option Enumeration) (default : Arg) :
    (bindingOf prop kind choices default).name = prop := by cases choices <;> rfl

theorem bindingOf_default (choices : Option Enumeration) (default : Arg) :
    (bindingOf prop kind choices default).default = default := by cases choices <;> rfl

theorem bindingOf_options (choices : Option Enumeration) (default : Arg) :
    (bindingOf prop kind choices default).options = choices.map (·.withChoice default) := by
  cases choices <;> rfl

theorem bindingOf_control (choices : Option Enumeration) (default : Arg) :
    (bindingOf prop (kindUnder d choices) choices default).control =
      (kindUnder d choices).control := by cases choices <;> rfl

end Pure

namespace Declaration

variable (d : Declaration) (s : Session σ)

theorem perform_infer : ((d.infer : Action σ Kind).perform s).1 = d.kind := by
  rw [infer]
  cases d.probeError? <;> rfl

/-- Inference touches nothing but the log. -/
theorem session_infer : ((d.infer : Action σ Kind).perform s).2 =
    { s with log := s.log ++ (d.probeError?.map .probeFailed).toList } := by
  rw [infer]
  cases d.probeError? <;> simp

end Declaration

section Resolve

variable (host : Host σ) (prop : String) (d : Declaration) (o : Overrides) (s : Session σ)

theorem perform_inputKind :
    (inputKind d o).perform s =
      (kindUnder d o.choices, { s with log := s.log ++ probesUnder d o.choices }) := by
  cases h : o.choices with
  | some e => simp [inputKind, kindUnder, probesUnder, h]
  | none =>
    rw [inputKind, h]
    exact Prod.ext (d.perform_infer s) (d.session_infer s)

theorem perform_defaultArg (kind : Kind) (caller : Option Json) :
    (defaultArg host prop d kind caller).perform s =
      (argOf prop kind ((givenDefault host d caller).perform s).1,
        ((givenDefault host d caller).perform s).2) := rfl

theorem perform_bindProp (kind : Kind) :
    (bindProp host prop d kind o).perform s =
      (bindingOf prop kind o.choices
          (argOf prop kind ((givenDefault host d o.default).perform s).1),
        ((givenDefault host d o.default).perform s).2) := by
  cases h : o.choices <;> simp [bindProp, perform_defaultArg, bindingOf, h]

def freeInput (kind : Kind) : Input σ :=
  if kind = .file then .emptyFile else .callback ⟨prop, host.acknowledge⟩

theorem resolve_eq :
    resolve host prop d o = do
      let kind ← inputKind d o
      if kind.isBound then
        let binding ← bindProp host prop d kind o
        let value ← host.control binding
        return ⟨prop, kind, some binding, .control value⟩
      else return ⟨prop, kind, none, freeInput host prop kind⟩ := by
  rw [resolve]
  congr 1
  funext kind
  cases kind <;> rfl

/-- The control is read last, for the binding that the default goes into. -/
theorem perform_resolve_of_isBound (h : (kindUnder d o.choices).isBound = true) :
    let kind := kindUnder d o.choices
    let bound := (bindProp host prop d kind o).perform
      { s with log := s.log ++ probesUnder d o.choices }
    let read := (host.control bound.1).perform bound.2
    (resolve host prop d o).perform s =
      (⟨prop, kind, some bound.1, .control read.1⟩, read.2) := by
  simp only [resolve_eq, Action.perform_bind, perform_inputKind, h, if_true]
  rfl

theorem perform_resolve_bound (h : (kindUnder d o.choices).isBound = true) : ∃ given s',
    (∀ v, o.default = some v → given = some v) ∧
      let kind := kindUnder d o.choices
      let b := bindingOf prop kind o.choices (argOf prop kind given)
      ((resolve host prop d o).perform s).1 =
        ⟨prop, kind, some b, .control ((host.control b).perform s').1⟩ := by
  let given := (givenDefault host d o.default).perform
    { s with log := s.log ++ probesUnder d o.choices }
  refine ⟨given.1, given.2, fun v hv ↦ ?_, ?_⟩
  · simp only [given, hv]
    rfl
  · rw [perform_resolve_of_isBound host prop d o s h]
    simp only [perform_bindProp, given]

/-- A file or a function is resolved without a call of the host. -/
theorem perform_resolve_free (h : (kindUnder d o.choices).isBound = false) :
    (resolve host prop d o).perform s =
      (⟨prop, kindUnder d o.choices, none, freeInput host prop (kindUnder d o.choices)⟩,
        { s with log := s.log ++ probesUnder d o.choices }) := by
  simp only [resolve_eq, Action.perform_bind, perform_inputKind, h, Bool.false_eq_true, if_false]
  rfl

end Resolve

section Resolutions

variable (env : Env σ) (r : Record)

/-- The hooks only give the overrides under which the prop is resolved. -/
theorem perform_resolution (prop : String) (d : Declaration) (s : Session σ) : ∃ o s',
    (env.resolution r prop d).perform s = (resolve env.host prop d o).perform s' := ⟨_, _, rfl⟩

theorem resolutionsOf_eq_mapM (es : List (String × Declaration)) :
    env.resolutionsOf r es = es.mapM fun e ↦ (e.1, ·) <$> env.resolution r e.1 e.2 := by
  induction es with
  | nil => rfl
  | cons e es ih => simp [Env.resolutionsOf, ih]

theorem keys_resolutionsOf (es : List (String × Declaration)) (s : Session σ) :
    ((env.resolutionsOf r es).perform s).1.map Prod.fst = es.map Prod.fst := by
  induction es generalizing s with
  | nil => rfl
  | cons e es ih => simp [Env.resolutionsOf, ih]

/-- An input is resolved when all props in front of it are, and before any prop behind it. -/
theorem resolved_in_turn {es : List (String × Declaration)} {s : Session σ} {prop : String}
    {input : Resolution σ} (h : (prop, input) ∈ ((env.resolutionsOf r es).perform s).1) :
    ∃ before d after, es = before ++ (prop, d) :: after ∧
      (env.resolution r prop d).perform ((env.resolutionsOf r before).perform s).2 =
        (input, ((env.resolutionsOf r (before ++ [(prop, d)])).perform s).2) := by
  induction es generalizing s with
  | nil => cases h
  | cons e es ih =>
    simp only [Env.resolutionsOf, Action.perform_bind, Action.perform_pure, List.mem_cons,
      Prod.mk.injEq] at h
    rcases h with ⟨rfl, rfl⟩ | h
    · exact ⟨[], e.2, es, rfl, rfl⟩
    · obtain ⟨before, d, after, rfl, hinput⟩ := ih h
      exact ⟨e :: before, d, after, rfl, hinput⟩

theorem mem_resolutionsOf {es : List (String × Declaration)} {s : Session σ} {prop : String}
    {input : Resolution σ} (h : (prop, input) ∈ ((env.resolutionsOf r es).perform s).1) :
    ∃ d s', (prop, d) ∈ es ∧ input = ((env.resolution r prop d).perform s').1 := by
  obtain ⟨before, d, after, rfl, hinput⟩ := resolved_in_turn env r h
  exact ⟨d, _, by simp, (congrArg Prod.fst hinput).symm⟩

theorem entries_resolutions (s : Session σ) :
    ((env.resolutions r).perform s).1.entries =
      ((env.resolutionsOf r r.props.entries).perform s).1 := by
  have h : (((env.resolutionsOf r r.props.entries).perform s).1.map Prod.fst).Nodup := by
    rw [keys_resolutionsOf]
    exact r.props.keys_nodup
  exact OrderedMap.entries_ofList_of_nodup h

theorem keys_resolutions (s : Session σ) :
    ((env.resolutions r).perform s).1.keys = r.props.keys := by
  rw [OrderedMap.keys, entries_resolutions, keys_resolutionsOf]
  rfl

theorem resolution_of_get? {s : Session σ} {prop : String} {input : Resolution σ}
    (h : ((env.resolutions r).perform s).1.get? prop = some input) :
    ∃ d s', r.props.get? prop = some d ∧ input = ((env.resolution r prop d).perform s').1 := by
  have hmem := OrderedMap.mem_entries_of_get? h
  rw [entries_resolutions] at hmem
  obtain ⟨d, s', hd, hinput⟩ := mem_resolutionsOf env r hmem
  exact ⟨d, s', OrderedMap.get?_eq_some_iff.2 hd, hinput⟩

/-- What a story shows of a prop, in either style, is what was resolved for it. -/
theorem input?_render (s : Session σ) (prop : String) : ((env.render r).perform s).1.input? prop =
    (((env.resolutions r).perform s).1.get? prop).map (·.value) := by
  rw [Env.render]
  cases r.style with
  | template => rfl
  | function => exact OrderedMap.get?_map ..

theorem resolve_of_input? {s : Session σ} {prop : String} {v : Input σ}
    (h : ((env.render r).perform s).1.input? prop = some v) : ∃ d o s',
    r.props.get? prop = some d ∧ v = ((resolve env.host prop d o).perform s').1.value := by
  rw [input?_render] at h
  obtain ⟨input, hinput, hvalue⟩ := Option.map_eq_some_iff.1 h
  obtain ⟨d, s', hd, rfl⟩ := resolution_of_get? env r hinput
  obtain ⟨o, s'', hresolve⟩ := perform_resolution env r prop d s'
  rw [hresolve] at hvalue
  exact ⟨d, o, s'', hd, hvalue.symm⟩

theorem resolutionsOf_congr {env env' : Env σ} {r : Record} {es : List (String × Declaration)}
    (h : ∀ e ∈ es, env'.resolution r e.1 e.2 = env.resolution r e.1 e.2) :
    env'.resolutionsOf r es = env.resolutionsOf r es := by
  induction es with
  | nil => rfl
  | cons e es ih =>
    rw [Env.resolutionsOf, Env.resolutionsOf, h e (List.mem_cons_self ..),
      ih fun e' he' ↦ h e' (List.mem_cons_of_mem _ he')]

/-- A render depends on no more of its surroundings than what a story keeps of the plugins and how
its own props are resolved. -/
theorem render_congr {env env' : Env σ} {r : Record}
    (hplugins : storyPlugins env'.plugins = storyPlugins env.plugins)
    (h : ∀ e ∈ r.props.entries, env'.resolution r e.1 e.2 = env.resolution r e.1 e.2) :
    env'.render r = env.render r := by
  have hprops : env'.resolutions r = env.resolutions r := by
    rw [Env.resolutions, Env.resolutions, resolutionsOf_congr h]
  simp only [Env.render, Env.asTemplate, Env.asElement, hprops, hplugins]

end Resolutions

end Showcase
