import Showcase.Proofs.ManifestFields
import Showcase.Proofs.ProbeTrace
import Showcase.Proofs.TemplateProps

namespace Showcase

open Decoder

variable {σ : Type}

theorem findSome?_rel {α β γ δ : Type} {R : α → β → Prop} {S : γ → δ → Prop} {f : γ → Option α}
    {g : δ → Option β} {l : List γ} {l' : List δ} (h : List.Forall₂ S l l')
    (hfg : ∀ a b, S a b → Option.Rel R (f a) (g b)) :
    Option.Rel R (l.findSome? f) (l'.findSome? g) := by
  induction h with
  | nil => exact .none
  | @cons a b l l' hab _ ih =>
    have hhead := hfg a b hab
    rw [List.findSome?_cons, List.findSome?_cons]
    cases ha : f a <;> cases hb : g b <;> rw [ha, hb] at hhead
    · exact ih
    · cases hhead
    · cases hhead
    · exact hhead

namespace Component

section Decode

variable {source : Source} {d : Document}

theorem decodePropTypes_eq_ok {types : OrderedMap PropType} (h : decodePropTypes d = .ok types) :
    ∃ names, map string d = .ok names ∧ types = names.map fun _ name ↦ .validator name := by
  obtain ⟨names, hnames, htypes⟩ := bind_eq_ok.1 h
  exact ⟨names, hnames, (Except.ok.inj htypes).symm⟩

theorem propTypes_of_decode {entries : List (Option String × Document)} {c : Component}
    {types : Document} (h : decode source (.object entries) = .ok c)
    (hentry : (some "propTypes", types) ∈ entries) (hnull : types ≠ .null) :
    ∃ names, map string types = .ok names ∧
      c.propTypes = some (names.map fun _ name ↦ .validator name) := by
  obtain ⟨f, own, hf, rfl⟩ := decode_entries h
  obtain ⟨-, a, ha, hget⟩ := ((readsField_propTypes source).foldlM hf).1 types hentry
  rw [nullable_of_ne_null decodePropTypes hnull] at ha
  obtain ⟨read, hread, rfl⟩ := map_eq_ok.1 ha
  obtain ⟨names, hnames, rfl⟩ := decodePropTypes_eq_ok hread
  exact ⟨names, hnames, Option.join_eq_some_iff.2 hget⟩

theorem defaultProps_of_decode {entries : List (Option String × Document)} {c : Component}
    (h : decode source (.object entries) = .ok c) :
    (∀ defaults, (some "defaultProps", defaults) ∈ entries →
      map whole defaults = .ok c.defaultProps) ∧
    ((∀ defaults, (some "defaultProps", defaults) ∉ entries) → c.defaultProps = .empty) := by
  obtain ⟨f, own, hf, rfl⟩ := decode_entries h
  obtain ⟨hin, hout⟩ := (readsField_defaultProps source).foldlM hf
  constructor
  · intro defaults hentry
    obtain ⟨-, a, ha, hget⟩ := hin defaults hentry
    simp only [ofFields, hget, Option.getD_some]
    exact ha
  · intro habsent
    simp only [ofFields, hout habsent]
    rfl

/-- In a manifest every type of a typed prop is a validator. -/
theorem validators_of_decode {c : Component} {types : OrderedMap PropType}
    (h : decode source d = .ok c) (ht : c.propTypes = some types) :
    ∃ names : OrderedMap String, types = names.map fun _ name ↦ .validator name := by
  cases d with
  | object entries =>
    obtain ⟨f, own, hf, rfl⟩ := decode_entries h
    obtain ⟨types', -, hread⟩ := (readsField_propTypes source).of_foldlM hf rfl
      (Option.join_eq_some_iff.1 ht)
    obtain ⟨names, -, hnames⟩ := decodePropTypes_eq_ok (nullable_eq_ok_some hread)
    exact ⟨names, hnames⟩
  | null | bool | number | string | array | unreadable | broken =>
    simp only [decode] at h
    exact absurd ⟨c, h⟩ (not_succeeds_unexpected _ _)

end Decode

/-- The names of the typed props. -/
def typedNames (c : Component) : List String := (c.propTypes.getD .empty).keys

/-- A typed prop has its validator and its entry among the defaults, whatever else the component
declares under its name. -/
theorem get?_props_typed {c : Component} {k : String} (hk : k ∈ c.typedNames) :
    ∃ type, (c.propTypes.getD .empty).get? k = some type ∧ c.props.get? k =
      some { type := some type, default := (c.defaultProps.get? k).map .literal } := by
  obtain ⟨type, htype⟩ := OrderedMap.mem_keys_iff_get?.1 hk
  refine ⟨type, htype, ?_⟩
  rw [props, OrderedMap.get?_overlay, validatedProps, OrderedMap.get?_map, htype]
  rfl

theorem get?_props_of_decode {source : Source} {d : Document} {c : Component} {k : String}
    (h : decode source d = .ok c) (hk : k ∈ c.typedNames) : ∃ name, c.props.get? k =
      some { type := some (.validator name), default := (c.defaultProps.get? k).map .literal } := by
  obtain ⟨type, htype, hget⟩ := get?_props_typed hk
  cases hc : c.propTypes with
  | none => rw [hc] at htype; cases htype
  | some types =>
    obtain ⟨names, rfl⟩ := validators_of_decode h hc
    rw [hc, Option.getD_some, OrderedMap.get?_map] at htype
    obtain ⟨name, -, rfl⟩ := Option.map_eq_some_iff.1 htype
    exact ⟨name, hget⟩

theorem get?_props_untyped {c : Component} {k : String} (hk : k ∉ c.typedNames) :
    c.props.get? k =
      (((c.offered? (·.props)).getD .empty).get? k).or (c.inheritedProps.get? k) := by
  have htype : (c.propTypes.getD .empty).get? k = none := OrderedMap.get?_eq_none_iff.2 hk
  rw [props, OrderedMap.get?_overlay, OrderedMap.get?_overlay, validatedProps,
    OrderedMap.get?_map, htype]
  rfl

end Component

/-- A validator says nothing about its prop: it cannot be called bare, so the default decides. -/
theorem Declaration.kind_validator (name : String) (default : Option Json) :
    ({ type := some (.validator name), default := default.map .literal } : Declaration).kind =
      default.elim .text fun v ↦ .ofRuntime (.ofJson v) := by
  cases default <;> rfl

/-- The maps agree on all other names. -/
def PropMap.AgreesOff (names : List String) (m m' : PropMap) : Prop :=
  ∀ k ∉ names, m'.get? k = m.get? k

theorem PropMap.AgreesOff.overlay {names : List String} {m m' n n' : PropMap}
    (hm : AgreesOff names m m') (hn : AgreesOff names n n') :
    AgreesOff names (OrderedMap.overlay m n) (OrderedMap.overlay m' n') := by
  intro k hk
  rw [OrderedMap.get?_overlay, OrderedMap.get?_overlay, hm k hk, hn k hk]

theorem PropMap.AgreesOff.refl (names : List String) (m : PropMap) : AgreesOff names m m :=
  fun _ _ ↦ rfl

theorem PropMap.AgreesOff.foldl_overlay {names : List String} {m m' : PropMap}
    {mixins mixins' : List Options} (hm : AgreesOff names m m')
    (h : List.Forall₂ (fun o o' ↦ AgreesOff names (o.props.getD .empty) (o'.props.getD .empty))
      mixins mixins') :
    AgreesOff names
      (mixins.foldl (fun props o ↦ props.overlay (o.props.getD .empty)) m)
      (mixins'.foldl (fun props o ↦ props.overlay (o.props.getD .empty)) m') := by
  induction h generalizing m m' with
  | nil => exact hm
  | cons hhead _ ih => exact ih (hm.overlay hhead)

/-- The scopes declare the same props on all other names, directly and through their mixins. -/
structure Options.AgreesOff (names : List String) (o o' : Options) : Prop where
  props : Option.Rel (PropMap.AgreesOff names) o.props o'.props
  mixins : Option.Rel (List.Forall₂ fun m m' ↦
    PropMap.AgreesOff names (m.props.getD .empty) (m'.props.getD .empty)) o.mixins o'.mixins

namespace Component

/-- The components differ only in the validators of typed props, in the defaults of props without
a validator, and in what else they declare under the names of typed props. -/
structure SameButTyped (c c' : Component) : Prop where
  types : c'.typedNames = c.typedNames
  defaults : ∀ k ∈ c.typedNames, c'.defaultProps.get? k = c.defaultProps.get? k
  options : Option.Rel (Options.AgreesOff c.typedNames) c.options c'.options
  instanceOptions :
    Option.Rel (Options.AgreesOff c.typedNames) c.instanceOptions c'.instanceOptions
  own : Options.AgreesOff c.typedNames c.own c'.own
  keys : c'.props.keys = c.props.keys

namespace SameButTyped

variable {c c' : Component} (h : c.SameButTyped c')

include h

theorem offered? {α : Type} {R : α → α → Prop} {pick : Options → Option α}
    (hpick : ∀ o o', Options.AgreesOff c.typedNames o o' → Option.Rel R (pick o) (pick o')) :
    Option.Rel R (c.offered? pick) (c'.offered? pick) := by
  have hscopes : List.Forall₂ (Option.Rel (Options.AgreesOff c.typedNames)) c.scopes c'.scopes :=
    .cons h.options (.cons h.instanceOptions (.cons (.some h.own) .nil))
  refine findSome?_rel hscopes fun a b hab ↦ ?_
  cases hab with
  | none => exact .none
  | some hab => exact hpick _ _ hab

theorem inheritedProps :
    PropMap.AgreesOff c.typedNames c.inheritedProps c'.inheritedProps := by
  have hmixins : List.Forall₂ (fun m m' ↦ PropMap.AgreesOff c.typedNames
      (m.props.getD .empty) (m'.props.getD .empty))
      ((c.offered? (·.mixins)).getD []) ((c'.offered? (·.mixins)).getD []) := by
    have hrel := h.offered? fun o o' ho ↦ ho.mixins
    cases ho : c.offered? (·.mixins) <;> cases ho' : c'.offered? (·.mixins) <;>
      rw [ho, ho'] at hrel <;> cases hrel
    · exact .nil
    · assumption
  exact (PropMap.AgreesOff.refl _ _).foldl_overlay hmixins

theorem directProps : PropMap.AgreesOff c.typedNames
    ((c.offered? (·.props)).getD .empty) ((c'.offered? (·.props)).getD .empty) := by
  have hrel := h.offered? fun o o' ho ↦ ho.props
  cases ho : c.offered? (·.props) <;> cases ho' : c'.offered? (·.props) <;>
    rw [ho, ho'] at hrel <;> cases hrel
  · exact .refl _ _
  · assumption

/-- Components read from manifests have one kind and one default for each name; only the validators,
which no probe can call, may have other names. -/
theorem props_sameButProbes {source source' : Source} {d d' : Document}
    (hc : decode source d = .ok c) (hc' : decode source' d' = .ok c') :
    PropMap.SameButProbes c.props c'.props where
  keys := h.keys
  get k := by
    by_cases hk : k ∈ c.typedNames
    · -- The layers below do not show: the whole declaration comes from the validator and the default.
      obtain ⟨name, hget⟩ := get?_props_of_decode hc hk
      obtain ⟨name', hget'⟩ := get?_props_of_decode hc' (h.types ▸ hk)
      rw [hget, hget', h.defaults k hk]
      refine .some ⟨?_, rfl, rfl⟩
      rw [Declaration.kind_validator, Declaration.kind_validator]
    · have hk' : k ∉ c'.typedNames := h.types ▸ hk
      have hsame : c'.props.get? k = c.props.get? k := by
        rw [get?_props_untyped hk, get?_props_untyped hk', h.directProps k hk, h.inheritedProps k hk]
      rw [hsame]
      cases c.props.get? k with
      | none => exact .none
      | some d => exact .some (.refl d)

end SameButTyped

/-- A prop with a validator is decided by its entry among the defaults. Two components that differ
only in validators, in other defaults and in what else they declare for such props are rendered
alike, and the log tells them apart only by the names of the validators that cannot be called. -/
theorem defaults_decide_typed_props :
    (∀ source entries c types, decode source (.object entries) = .ok c →
      (some "propTypes", types) ∈ entries → types ≠ .null →
      ∃ names, map string types = .ok names ∧
        (∀ defaults, (some "defaultProps", defaults) ∈ entries →
          map whole defaults = .ok c.defaultProps) ∧
        ((∀ defaults, (some "defaultProps", defaults) ∉ entries) → c.defaultProps = .empty) ∧
        ∀ k ∈ names.keys, ∃ d, c.props.get? k = some d ∧
          (∀ s : Session σ, (d.infer.perform s).1 =
            (c.defaultProps.get? k).elim .text fun v ↦ .ofRuntime (.ofJson v)) ∧
          d.default = (c.defaultProps.get? k).map .literal) ∧
    ∀ source source' d d' (r r' : Record), decode source d = .ok r.component →
      decode source' d' = .ok r'.component → r.component.SameButTyped r'.component →
      r'.name = r.name → r'.style = r.style →
      ∀ env : Env σ, env.LooksAtNames → ∀ s s', s.SameButProbes s' →
        ((env.resolutions r').perform s').1 = ((env.resolutions r).perform s).1 ∧
        ((env.render r').perform s').1 =
          ((env.render r).perform s).1.withComponent r'.component ∧
        ((env.render r).perform s).2.SameButProbes ((env.render r').perform s').2 := by
  constructor
  · intro source entries c types hc hentry hnull
    obtain ⟨names, hnames, htypes⟩ := propTypes_of_decode hc hentry hnull
    obtain ⟨hin, hout⟩ := defaultProps_of_decode hc
    refine ⟨names, hnames, hin, hout, fun k hk ↦ ?_⟩
    have htyped : k ∈ c.typedNames := by
      rw [typedNames, htypes, Option.getD_some, OrderedMap.keys_map]
      exact hk
    obtain ⟨name, hget⟩ := get?_props_of_decode hc htyped
    refine ⟨_, hget, fun s ↦ ?_, rfl⟩
    rw [Declaration.perform_infer, Declaration.kind_validator]
  · intro source source' d d' r r' hc hc' hsame hname hstyle env henv s s' hs
    have hprops := hsame.props_sameButProbes hc hc'
    obtain ⟨hresolved, -⟩ := resolutions_sameButProbes henv hname
      (Record.props_sameButProbes hstyle hprops) s s' hs
    obtain ⟨hrender, hleft⟩ := render_sameButProbes henv hname hstyle hprops s s' hs
    exact ⟨hresolved, hrender, hleft⟩

section Note

def noteEntries : List (String × Json) :=
  [("propTypes", .object [("size", .string "oneOf"), ("text", .string "node")]),
    ("defaultProps", .object [("size", .null), ("stray", .bool true)]),
    ("props", .object [("size", .string "Number"), ("title", .string "String")])]

def otherNoteEntries : List (String × Json) :=
  [("props", .object [("size", .object [("default", .bool true)]), ("title", .string "String")]),
    ("propTypes", .object [("size", .string "shape"), ("text", .string "string")]),
    ("defaultProps", .object [("size", .null)])]

def note : Component where
  own := { props := some (.ofList [("size", { type := some (.constructor .number) }),
    ("title", { type := some (.constructor .string) })]) }
  propTypes := some (.ofList [("size", .validator "oneOf"), ("text", .validator "node")])
  defaultProps := .ofList [("size", .null), ("stray", .bool true)]

def otherNote : Component where
  own := { props := some (.ofList [("size", { default := some (.literal (.bool true)) }),
    ("title", { type := some (.constructor .string) })]) }
  propTypes := some (.ofList [("size", .validator "shape"), ("text", .validator "string")])
  defaultProps := .ofList [("size", .null)]

def noteConfig : Config where
  defaults := .ofList [("Note", .ofList [("text", .string "Hi")])]

def noteRecord (c : Component) : Record where
  style := c.style
  group := "notes"
  name := "Note"
  component := c
  module := {}

theorem note_sameButTyped : note.SameButTyped otherNote where
  types := rfl
  defaults k hk := by
    have hnames : k ∈ ["size", "text"] := hk
    rcases List.mem_pair.1 hnames with rfl | rfl <;> rfl
  options := .none
  instanceOptions := .none
  own := by
    refine ⟨.some fun k hk ↦ ?_, .none⟩
    have hsize : k ≠ "size" := by
      rintro rfl
      exact hk (by decide)
    simp [OrderedMap.get?_ofList, lookup_cons_eq, hsize]
  keys := by decide

theorem notes_rendered_alike :
    let env := (noteConfig.apply { env := quietEnv, registry := {} }).env
    let log (c : Component) := ((env.render (noteRecord c)).perform ⟨(), []⟩).2.log
    decode .value (.object (Document.ofEntries noteEntries)) = .ok note ∧
    decode .value (.object (Document.ofEntries otherNoteEntries)) = .ok otherNote ∧
    note.SameButTyped otherNote ∧ env.LooksAtNames ∧
    (∃ d, note.props.get? "size" = some d ∧
      ((d.infer : Action Unit Kind).perform ⟨(), []⟩).1 = .object ∧
      d.default = some (.literal .null)) ∧
    ((env.render (noteRecord otherNote)).perform ⟨(), []⟩).1 =
      ((env.render (noteRecord note)).perform ⟨(), []⟩).1.withComponent otherNote ∧
    List.Forall₂ LogEvent.SameButProbe (log note) (log otherNote) ∧
    (log note).map LogEvent.message ≠ (log otherNote).map LogEvent.message := by
  intro env log
  have hnote : decode .value (.object (Document.ofEntries noteEntries)) = .ok note := rfl
  have hother : decode .value (.object (Document.ofEntries otherNoteEntries)) = .ok otherNote := rfl
  have henv : env.LooksAtNames := noteConfig.looksAtNames_apply { env := quietEnv, registry := {} }
    ⟨fun _ ↦ .pure _, fun b ↦ .pure b.default⟩
  obtain ⟨hdecided, halike⟩ := defaults_decide_typed_props (σ := Unit)
  obtain ⟨-, hrender, hleft⟩ := halike .value .value _ _ (noteRecord note) (noteRecord otherNote)
    hnote hother note_sameButTyped rfl rfl env henv ⟨(), []⟩ ⟨(), []⟩ (.refl _)
  obtain ⟨names, hnames, -, -, hkinds⟩ := hdecided .value _ _
    (.ofJson (.object [("size", .string "oneOf"), ("text", .string "node")])) hnote
    (List.mem_cons_self ..) (by simp [Document.ofJson])
  obtain rfl : OrderedMap.ofList [("size", "oneOf"), ("text", "node")] = names :=
    Except.ok.inj hnames
  obtain ⟨d, hd, hkind, hdefault⟩ := hkinds "size" (by decide)
  exact ⟨hnote, hother, note_sameButTyped, henv, ⟨d, hd, hkind _, hdefault⟩, hrender, hleft.log,
    by decide⟩

end Note

end Component

end Showcase
