import Mathlib.Data.List.Forall2
import Showcase.Config
import Showcase.Proofs.Resolution

namespace Showcase

variable {σ α β : Type}

/-- One event twice, or two failed calls of types. -/
inductive LogEvent.SameButProbe : LogEvent → LogEvent → Prop
  | refl (e : LogEvent) : SameButProbe e e
  | probe (e e' : CallError) : SameButProbe (.probeFailed e) (.probeFailed e')

/-- The sessions differ in nothing but why calls of types failed. -/
structure Session.SameButProbes (s s' : Session σ) : Prop where
  state : s'.state = s.state
  log : List.Forall₂ LogEvent.SameButProbe s.log s'.log

theorem Session.SameButProbes.refl (s : Session σ) : s.SameButProbes s where
  state := rfl
  log := List.forall₂_same.2 fun e _ ↦ .refl e

theorem Session.SameButProbes.append {s s' : Session σ} {es es' : List LogEvent}
    (h : s.SameButProbes s') (hes : List.Forall₂ LogEvent.SameButProbe es es') :
    SameButProbes { s with log := s.log ++ es } { s' with log := s'.log ++ es' } where
  state := h.state
  log := List.rel_append h.log hes

namespace Action

/-- On sessions that differ in probes alone the actions give one result and leave such sessions. -/
def SameButProbes (act act' : Action σ α) : Prop :=
  ∀ s s', s.SameButProbes s' → (act'.perform s').1 = (act.perform s).1 ∧
    (act.perform s).2.SameButProbes (act'.perform s').2

theorem SameButProbes.pure (a : α) :
    SameButProbes (Pure.pure a : Action σ α) (Pure.pure a) := fun _ _ hs ↦ ⟨rfl, hs⟩

theorem SameButProbes.bind {act act' : Action σ α} {f f' : α → Action σ β}
    (h : act.SameButProbes act') (hf : ∀ a, (f a).SameButProbes (f' a)) :
    (act >>= f).SameButProbes (act' >>= f') := by
  intro s s' hs
  obtain ⟨hresult, hleft⟩ := h s s' hs
  rw [perform_bind, perform_bind, hresult]
  exact hf _ _ _ hleft

theorem SameButProbes.map {act act' : Action σ α} (f : α → β) (h : act.SameButProbes act') :
    (f <$> act).SameButProbes (f <$> act') := by
  intro s s' hs
  obtain ⟨hresult, hleft⟩ := h s s' hs
  exact ⟨congrArg f hresult, hleft⟩

end Action

/-- The declarations give one kind and one default, and a call of either type fails if one of the
other does. -/
structure Declaration.SameButProbe (d d' : Declaration) : Prop where
  kind : d'.kind = d.kind
  default : d'.default = d.default
  probe : d'.probeError?.isSome = d.probeError?.isSome

theorem Declaration.SameButProbe.refl (d : Declaration) : d.SameButProbe d := ⟨rfl, rfl, rfl⟩

/-- The host pays no heed to the log's probes. -/
structure Host.IgnoresProbes (host : Host σ) : Prop where
  produce : ∀ id, (host.produce id).SameButProbes (host.produce id)
  control : ∀ b, (host.control b).SameButProbes (host.control b)

/-- Hooks that look at the names of the component and of the prop alone. -/
structure Env.LooksAtNames (env : Env σ) : Prop where
  host : env.host.IgnoresProbes
  defaultHook : ∀ x x' : PropContext, x'.record.name = x.record.name → x'.prop = x.prop →
    (env.defaultHook x).SameButProbes (env.defaultHook x')
  choiceHook : ∀ x x' : PropContext, x'.record.name = x.record.name → x'.prop = x.prop →
    (env.choiceHook x).SameButProbes (env.choiceHook x')

theorem Config.looksAtNames_apply (c : Config) (g : Generation σ) (h : g.env.host.IgnoresProbes) :
    (c.apply g).env.LooksAtNames where
  host := h
  defaultHook x x' hname hprop := by
    simp only [apply, hname, hprop]
    exact .pure _
  choiceHook x x' hname hprop := by
    simp only [apply, hname, hprop]
    exact .pure _

section Resolve

variable {host : Host σ} {d d' : Declaration} (h : d.SameButProbe d')

include h

theorem inputKind_sameButProbes (o : Overrides) :
    (inputKind d o : Action σ Kind).SameButProbes (inputKind d' o) := by
  intro s s' hs
  have hkind : kindUnder d' o.choices = kindUnder d o.choices := by
    rw [kindUnder, kindUnder, h.kind]
  have hprobes : List.Forall₂ LogEvent.SameButProbe (probesUnder d o.choices)
      (probesUnder d' o.choices) := by
    have hprobe := h.probe
    rw [probesUnder, probesUnder]
    split
    · exact .nil
    · cases he : d.probeError? <;> cases he' : d'.probeError? <;> rw [he, he'] at hprobe
      · exact .nil
      · cases hprobe
      · cases hprobe
      · exact .cons (.probe _ _) .nil
  rw [perform_inputKind, perform_inputKind, hkind]
  exact ⟨rfl, hs.append hprobes⟩

variable (hhost : host.IgnoresProbes)

include hhost

theorem givenDefault_sameButProbes (caller : Option Json) :
    (givenDefault host d caller).SameButProbes (givenDefault host d' caller) := by
  obtain ⟨type, default⟩ := d
  obtain ⟨type', default'⟩ := d'
  obtain rfl : default' = default := h.default
  cases caller with
  | some v => exact .pure (some v)
  | none =>
    match default' with
    | none => exact .pure none
    | some (.literal v) => exact (Action.SameButProbes.pure v).map some
    | some (.producer id) => exact (hhost.produce id).map some

theorem bindProp_sameButProbes (prop : String) (kind : Kind) (o : Overrides) :
    (bindProp host prop d kind o).SameButProbes (bindProp host prop d' kind o) :=
  ((givenDefault_sameButProbes h hhost o.default).bind fun _ ↦ .pure _).bind fun _ ↦ .pure _

theorem resolve_sameButProbes (prop : String) (o : Overrides) :
    (resolve host prop d o).SameButProbes (resolve host prop d' o) := by
  rw [resolve_eq, resolve_eq]
  refine (inputKind_sameButProbes h o).bind fun kind ↦ ?_
  split
  · exact (bindProp_sameButProbes h hhost prop kind o).bind fun b ↦
      (hhost.control b).bind fun _ ↦ .pure _
  · exact .pure _

end Resolve

/-- The maps declare the same names in the same order, with the same kinds and defaults. -/
structure PropMap.SameButProbes (m m' : PropMap) : Prop where
  keys : m'.keys = m.keys
  get : ∀ k, Option.Rel Declaration.SameButProbe (m.get? k) (m'.get? k)

namespace PropMap.SameButProbes

variable {m m' : PropMap} (h : m.SameButProbes m')

include h

theorem insert (name : String) (d : Declaration) :
    SameButProbes (OrderedMap.insert m name d) (OrderedMap.insert m' name d) where
  keys := by
    rw [OrderedMap.keys_insert, OrderedMap.keys_insert, h.keys]
  get k := by
    rw [OrderedMap.get?_insert, OrderedMap.get?_insert]
    split
    · exact .some (.refl d)
    · exact h.get k

theorem entries : List.Forall₂ (fun e e' ↦ e'.1 = e.1 ∧ e.2.SameButProbe e'.2)
    m.entries m'.entries := by
  rw [m.entries_eq_map_get? {}, m'.entries_eq_map_get? {}, h.keys, List.forall₂_map_left_iff,
    List.forall₂_map_right_iff, List.forall₂_same]
  intro k _
  refine ⟨rfl, ?_⟩
  have hget := h.get k
  cases hk : m.get? k <;> cases hk' : m'.get? k <;> rw [hk, hk'] at hget <;> cases hget
  · exact .refl {}
  · assumption

end PropMap.SameButProbes

section Render

variable {env : Env σ} (henv : env.LooksAtNames) {r r' : Record} (hname : r'.name = r.name)

include henv hname

theorem resolution_sameButProbes (prop : String) {d d' : Declaration} (h : d.SameButProbe d') :
    (env.resolution r prop d).SameButProbes (env.resolution r' prop d') := by
  have hdefault := henv.defaultHook ⟨r, prop, d⟩ ⟨r', prop, d'⟩ hname rfl
  have hchoices := henv.choiceHook ⟨r, prop, d⟩ ⟨r', prop, d'⟩ hname rfl
  exact hdefault.bind fun _ ↦ hchoices.bind fun _ ↦ resolve_sameButProbes h henv.host prop _

theorem resolutionsOf_sameButProbes {es es' : List (String × Declaration)}
    (h : List.Forall₂ (fun e e' ↦ e'.1 = e.1 ∧ e.2.SameButProbe e'.2) es es') :
    (env.resolutionsOf r es).SameButProbes (env.resolutionsOf r' es') := by
  induction h with
  | nil => exact .pure []
  | @cons e e' es es' he _ ih =>
    obtain ⟨hprop, hd⟩ := he
    rw [Env.resolutionsOf, Env.resolutionsOf, hprop]
    exact (resolution_sameButProbes henv hname e.1 hd).bind fun _ ↦ ih.bind fun _ ↦ .pure _

theorem resolutions_sameButProbes (h : r.props.SameButProbes r'.props) :
    (env.resolutions r).SameButProbes (env.resolutions r') :=
  (resolutionsOf_sameButProbes henv hname h.entries).bind fun _ ↦ .pure _

end Render

/-- The story as it would be of another component. -/
def Story.withComponent (c : Component) : Story σ → Story σ
  | template s => template { s with components := s.components.map fun _ _ ↦ c }
  | element s => element { s with component := c }

theorem Record.props_sameButProbes {r r' : Record} (hstyle : r'.style = r.style)
    (h : r.component.props.SameButProbes r'.component.props) :
    r.props.SameButProbes r'.props := by
  rw [props, props, hstyle]
  split
  · exact h.insert slotProp _
  · exact h

/-- Records whose props differ only in why a call of a type fails render to stories that differ only
in the component itself. -/
theorem render_sameButProbes {env : Env σ} (henv : env.LooksAtNames) {r r' : Record}
    (hname : r'.name = r.name) (hstyle : r'.style = r.style)
    (h : r.component.props.SameButProbes r'.component.props) :
    Action.SameButProbes (Story.withComponent r'.component <$> env.render r) (env.render r') := by
  intro s s' hs
  obtain ⟨hresult, hleft⟩ :=
    resolutions_sameButProbes henv hname (Record.props_sameButProbes hstyle h) s s' hs
  rw [Env.render, Env.render, hstyle]
  -- Besides the resolved props a template uses the name of the component and the names of its props.
  cases r.style with
  | template =>
    simp only [Env.asTemplate, Action.perform_map, Action.perform_bind, Action.perform_pure,
      hresult, hname, h.keys]
    exact ⟨rfl, hleft⟩
  | function =>
    simp only [Env.asElement, Action.perform_map, Action.perform_bind, Action.perform_pure,
      hresult]
    exact ⟨rfl, hleft⟩

end Showcase
