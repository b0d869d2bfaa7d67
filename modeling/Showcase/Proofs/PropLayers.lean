import Mathlib.Data.List.Perm.Basic
import Showcase.Component
import Showcase.Proofs.OrderedMap

namespace Showcase

namespace OrderedMap

variable {α : Type} {ms ms' : List (OrderedMap α)} {k : String} {v : α}

/-- The maps laid over each other, the first one at the bottom. -/
def stack (ms : List (OrderedMap α)) : OrderedMap α := ms.foldl overlay empty

theorem stack_append (ms ns : List (OrderedMap α)) : stack (ms ++ ns) = ns.foldl overlay (stack ms) :=
  List.foldl_append

theorem stack_cons (m : OrderedMap α) (ms : List (OrderedMap α)) :
    stack (m :: ms) = ms.foldl overlay m := by
  rw [stack, List.foldl_cons]
  exact congrArg (fun m' ↦ ms.foldl overlay m') m.ofList_entries

theorem stack_eq_ofList (ms : List (OrderedMap α)) : stack ms = ofList (ms.flatMap entries) :=
  List.foldl_flatMap.symm

/-- A name keeps the place that the lowest map with it gives it. -/
theorem keys_stack (ms : List (OrderedMap α)) : (stack ms).keys = (ms.flatMap keys).eraseDups := by
  rw [stack_eq_ofList, keys_ofList, List.map_flatMap]
  rfl

theorem get?_stack (ms : List (OrderedMap α)) (k : String) :
    (stack ms).get? k = ms.reverse.findSome? (·.get? k) := by
  induction ms using List.reverseRecOn with
  | nil => rfl
  | append_singleton ms m ih =>
    rw [stack_append, List.foldl_cons, List.foldl_nil, get?_overlay, ih, List.reverse_concat,
      List.findSome?_cons]
    cases m.get? k <;> rfl

/-- The value of a name is that of the topmost map with it. -/
theorem get?_stack_eq_some_iff : (stack ms).get? k = some v ↔ ∃ below m above,
    ms = below ++ m :: above ∧ m.get? k = some v ∧ ∀ n ∈ above, k ∉ n.keys := by
  rw [get?_stack, List.findSome?_eq_some_iff]
  constructor
  · intro ⟨above, m, below, hms, hm, habove⟩
    refine ⟨below.reverse, m, above.reverse, ?_, hm, fun n hn ↦ ?_⟩
    · have hrev := congrArg List.reverse hms
      simpa using hrev
    · exact get?_eq_none_iff.1 (habove n (List.mem_reverse.1 hn))
  · intro ⟨below, m, above, hms, hm, habove⟩
    refine ⟨above.reverse, m, below.reverse, ?_, hm, fun n hn ↦ ?_⟩
    · simp [hms]
    · exact get?_eq_none_iff.2 (habove n (List.mem_reverse.1 hn))

theorem mem_keys_stack : k ∈ (stack ms).keys ↔ ∃ m ∈ ms, k ∈ m.keys := by
  rw [keys_stack, List.mem_eraseDups, List.mem_flatMap]

/-- Where no two maps share a name, it does not matter which of them is on top. -/
theorem get?_stack_of_disjoint (h : ms.Pairwise fun m n ↦ m.keys.Disjoint n.keys) :
    (stack ms).get? k = some v ↔ ∃ m ∈ ms, m.get? k = some v := by
  constructor
  · intro hk
    obtain ⟨below, m, above, rfl, hm, -⟩ := get?_stack_eq_some_iff.1 hk
    exact ⟨m, by simp, hm⟩
  · intro ⟨m, hmem, hm⟩
    obtain ⟨below, above, rfl⟩ := List.append_of_mem hmem
    refine get?_stack_eq_some_iff.2 ⟨below, m, above, rfl, hm, fun n hn hkn ↦ ?_⟩
    have hrest := (List.pairwise_append.1 h).2.1
    exact (List.pairwise_cons.1 hrest).1 n hn (mem_keys_iff_get?.2 ⟨v, hm⟩) hkn

theorem get?_stack_perm (h : ms.Pairwise fun m n ↦ m.keys.Disjoint n.keys) (hperm : ms'.Perm ms) :
    (stack ms').get? k = (stack ms).get? k := by
  have h' : ms'.Pairwise fun m n ↦ m.keys.Disjoint n.keys := h.perm hperm.symm List.disjoint_symm
  refine Option.ext fun v ↦ ?_
  rw [get?_stack_of_disjoint h, get?_stack_of_disjoint h']
  simp only [hperm.mem_iff]

theorem get?_foldl_overlay {m m' : OrderedMap α} (h : ∀ k, m'.get? k = m.get? k)
    (ns : List (OrderedMap α)) (k : String) :
    (ns.foldl overlay m').get? k = (ns.foldl overlay m).get? k := by
  induction ns generalizing m m' with
  | nil => exact h k
  | cons n ns ih =>
    refine ih fun k ↦ ?_
    rw [get?_overlay, get?_overlay, h k]

theorem entries_perm {m m' : OrderedMap α} (h : ∀ k, m'.get? k = m.get? k) :
    m'.entries.Perm m.entries := by
  rw [List.perm_ext_iff_of_nodup m'.keys_nodup.of_map m.keys_nodup.of_map]
  intro e
  rw [← get?_eq_some_iff, ← get?_eq_some_iff, h]

end OrderedMap

namespace Component

variable {α β : Type} {c c' : Component}

/-- What is asked for, from the first scope that has it: the options, else the instance options, else
the component's own. -/
def first? (c : Component) (pick : Options → Option α) : Option α :=
  (c.options.bind pick).or ((c.instanceOptions.bind pick).or (pick c.own))

theorem offered?_eq_first? (c : Component) (pick : Options → Option α) :
    c.offered? pick = c.first? pick := by
  rw [offered?, scopes, first?]
  simp only [List.findSome?_cons, List.findSome?_nil, Option.bind_some]
  cases c.options.bind pick <;> cases c.instanceOptions.bind pick <;> cases pick c.own <;> rfl

theorem first?_map (c : Component) (pick : Options → Option α) (f : α → β) :
    (c.first? fun o ↦ (pick o).map f) = (c.first? pick).map f := by
  simp only [first?, Option.map_or, Option.map_bind]
  rfl

def mixinsInUse (c : Component) : List Options := (c.first? (·.mixins)).getD []

/-- The prop maps that a component is made of, the lowest first: those of the mixins, the direct one
and that of the typed props. -/
def layers (c : Component) : List PropMap :=
  c.mixinsInUse.filterMap (·.props) ++ ((c.first? (·.props)).toList ++ [c.validatedProps])

theorem inheritedProps_eq_stack (c : Component) :
    c.inheritedProps = .stack (c.mixinsInUse.filterMap (·.props)) := by
  rw [inheritedProps, offered?_eq_first?, OrderedMap.stack, List.foldl_filterMap]
  congr 1
  funext props mixin
  cases mixin.props <;> rfl

theorem props_eq_stack (c : Component) : c.props = .stack c.layers := by
  rw [props, inheritedProps_eq_stack, offered?_eq_first?, layers, OrderedMap.stack_append]
  cases c.first? (·.props) <;> rfl

/-- Both components have the same to offer in every scope, up to the first that has what is asked
for. The scopes after that are out of reach. -/
def AgreesInReach (pick : Options → Option α) (c c' : Component) : Prop :=
  c'.options.bind pick = c.options.bind pick ∧
    (c.options.bind pick = none →
      c'.instanceOptions.bind pick = c.instanceOptions.bind pick ∧
        (c.instanceOptions.bind pick = none → pick c'.own = pick c.own))

theorem AgreesInReach.first?_eq {pick : Options → Option α} (h : AgreesInReach pick c c') :
    c'.first? pick = c.first? pick := by
  obtain ⟨hoptions, hlater⟩ := h
  rw [first?, first?, hoptions]
  cases ho : c.options.bind pick with
  | some a => rfl
  | none =>
    obtain ⟨hinstance, hown⟩ := hlater ho
    rw [hinstance]
    cases hi : c.instanceOptions.bind pick with
    | some a => rfl
    | none => rw [hown hi]

/-- The components differ at most in scopes that are out of reach and in the mixins of mixins. -/
structure SameInReach (c c' : Component) : Prop where
  props : AgreesInReach (·.props) c c'
  mixins : AgreesInReach (fun o ↦ o.mixins.map (·.map (·.props))) c c'
  propTypes : c'.propTypes = c.propTypes
  defaultProps : c'.defaultProps = c.defaultProps

theorem SameInReach.props_eq (h : c.SameInReach c') : c'.props = c.props := by
  have hmixins : (c'.first? (·.mixins)).map (·.map (·.props)) =
      (c.first? (·.mixins)).map (·.map (·.props)) := by
    rw [← first?_map, ← first?_map]
    exact h.mixins.first?_eq
  have hinherited : c'.mixinsInUse.filterMap (·.props) = c.mixinsInUse.filterMap (·.props) := by
    have hlist (o : Option (List Options)) :
        (o.getD []).filterMap (·.props) = ((o.map (·.map (·.props))).getD []).filterMap id := by
      cases o <;> simp [List.filterMap_map]
    rw [mixinsInUse, mixinsInUse, hlist, hlist, hmixins]
  rw [props_eq_stack, props_eq_stack, layers, layers, hinherited, h.props.first?_eq, validatedProps,
    validatedProps, h.propTypes, h.defaultProps]

/-- The mixins in use stand in another order, and no two of them have a prop of one name. -/
structure ReordersMixins (c c' : Component) : Prop where
  mixins : c'.mixinsInUse.Perm c.mixinsInUse
  disjoint : (c.mixinsInUse.filterMap (·.props)).Pairwise fun m n ↦ m.keys.Disjoint n.keys
  props : c'.first? (·.props) = c.first? (·.props)
  propTypes : c'.propTypes = c.propTypes
  defaultProps : c'.defaultProps = c.defaultProps

theorem ReordersMixins.get?_props (h : c.ReordersMixins c') (k : String) :
    c'.props.get? k = c.props.get? k := by
  have habove : (c'.first? (·.props)).toList ++ [c'.validatedProps] =
      (c.first? (·.props)).toList ++ [c.validatedProps] := by
    rw [h.props, validatedProps, validatedProps, h.propTypes, h.defaultProps]
  rw [props_eq_stack, props_eq_stack, layers, layers, habove, OrderedMap.stack_append,
    OrderedMap.stack_append]
  exact OrderedMap.get?_foldl_overlay
    (fun k ↦ OrderedMap.get?_stack_perm h.disjoint (h.mixins.filterMap _)) _ k

/-- A component has the props of its layers: each is declared as in the topmost layer that has it and
stands where the lowest one puts it. So a direct declaration hides those of the mixins, a scope that
is out of reach has no say, nor has a mixin of a mixin, and mixins that share no name may change
places without changing more than the order of the props. -/
theorem props_overlay_layers (c : Component) :
    (∀ k, k ∈ c.props.keys ↔ ∃ m ∈ c.layers, k ∈ m.keys) ∧
    (∀ k d, c.props.get? k = some d ↔ ∃ below m above,
      c.layers = below ++ m :: above ∧ m.get? k = some d ∧ ∀ n ∈ above, k ∉ n.keys) ∧
    c.props.keys = (c.layers.flatMap (·.keys)).eraseDups ∧ c.props.keys.Nodup ∧
    (∀ direct k d, c.first? (·.props) = some direct → direct.get? k = some d →
      c.props.get? k = some ((c.validatedProps.get? k).getD d)) ∧
    (∀ c', c.SameInReach c' → c'.props = c.props) ∧
    ∀ c', c.ReordersMixins c' → c'.props.entries.Perm c.props.entries := by
  refine ⟨fun k ↦ ?_, fun k d ↦ ?_, ?_, c.props.keys_nodup, fun direct k d hdirect hd ↦ ?_,
    fun c' h ↦ h.props_eq, fun c' h ↦ OrderedMap.entries_perm h.get?_props⟩
  · rw [props_eq_stack, OrderedMap.mem_keys_stack]
  · rw [props_eq_stack, OrderedMap.get?_stack_eq_some_iff]
  · rw [props_eq_stack, OrderedMap.keys_stack]
  · rw [props, offered?_eq_first?, hdirect, Option.getD_some, OrderedMap.get?_overlay,
      OrderedMap.get?_overlay, hd]
    cases c.validatedProps.get? k <;> rfl

section Panel

def titleMixin : Options where
  props := some (.ofList [("title", { default := some (.literal (.string "Panel")) })])
  mixins := some [{ props := some (.ofList [("deep", {})]) }]

def sizeMixin : Options where
  props := some (.ofList [("size", {}), ("open", {})])

/-- The mixins come from the first scope, the direct props from the second and none from the third. -/
def panel : Component where
  options := some { mixins := some [titleMixin, {}, sizeMixin] }
  instanceOptions := some {
    props := some (.ofList [("open", { type := some (.constructor .boolean) }), ("title", {})])
    mixins := some [{ props := some (.ofList [("lost", {})]) }] }
  own := { props := some (.ofList [("own", {})]) }
  propTypes := some (.ofList [("title", .validator "string"), ("note", .validator "string")])

/-- What is out of reach in a panel is left out. -/
def barePanel : Component :=
  { panel with
    options := some { mixins := some [{ titleMixin with mixins := none }, {}, sizeMixin] }
    instanceOptions := some {
      props := some (.ofList [("open", { type := some (.constructor .boolean) }), ("title", {})]) }
    own := {} }

def turnedPanel : Component :=
  { panel with options := some { mixins := some [sizeMixin, {}, titleMixin] } }

theorem panel_props_overlay :
    panel.props.keys = ["title", "size", "open", "note"] ∧
    panel.props.get? "open" = some { type := some (.constructor .boolean) } ∧
    panel.SameInReach barePanel ∧ barePanel.props = panel.props ∧
    panel.ReordersMixins turnedPanel ∧ turnedPanel.props.entries.Perm panel.props.entries ∧
    turnedPanel.props.keys = ["size", "open", "title", "note"] := by
  obtain ⟨-, -, hkeys, -, hdirect, hreach, hreorder⟩ := props_overlay_layers panel
  have hbare : panel.SameInReach barePanel := ⟨⟨rfl, fun _ ↦ ⟨rfl, nofun⟩⟩, ⟨rfl, nofun⟩, rfl, rfl⟩
  have hnames : ["title"].Disjoint ["size", "open"] := by simp
  have hturned : panel.ReordersMixins turnedPanel :=
    ⟨List.reverse_perm [titleMixin, {}, sizeMixin], List.pairwise_pair.2 hnames, rfl, rfl, rfl⟩
  refine ⟨hkeys.trans (by decide), ?_, hbare, hreach _ hbare, hturned, hreorder _ hturned, by decide⟩
  exact hdirect _ "open" _ rfl rfl

end Panel

end Component

end Showcase
