import Mathlib.Logic.Relation
import Showcase.Proofs.ManifestFields
import Showcase.Proofs.OrderedMap
import Showcase.Story

namespace Showcase

open Decoder

theorem PropType.ofJson?_array (items : List Json) :
    ofJson? (.array items) = some (union (items.filterMap ofJson?)) := by
  have hitems : ofItems items = items.filterMap ofJson? := by
    induction items with
    | nil => rfl
    | cons v vs ih =>
      rw [ofItems, List.filterMap_cons, ih]
      cases ofJson? v <;> rfl
  rw [ofJson?, hitems]

theorem Declaration.ofJson_of_ne_object {v : Json} (h : ∀ entries, v ≠ .object entries) :
    ofJson v = { type := PropType.ofJson? v } := by
  cases v with
  | object entries => exact absurd rfl (h entries)
  | null | bool | number | string | array => rfl

namespace Json

variable {v v' : Json}

/-- A list of types loses a member that is neither a name nor a list, or a list in it does. -/
inductive TypeRespelling : Json → Json → Prop
  | drop (us ws : List Json) {v : Json} (hname : ∀ s, v ≠ string s) (hlist : ∀ vs, v ≠ array vs) :
      TypeRespelling (array (us ++ v :: ws)) (array (us ++ ws))
  | member (us ws : List Json) {v v' : Json} (h : TypeRespelling v v') :
      TypeRespelling (array (us ++ v :: ws)) (array (us ++ v' :: ws))

/-- A declaration that is only a type is spelled out as an object, or its type is respelled. -/
inductive DeclarationRespelling : Json → Json → Prop
  | long {v : Json} (hobject : ∀ entries, v ≠ object entries) :
      DeclarationRespelling v (object [("type", v)])
  | short {v v' : Json} (h : TypeRespelling v v') : DeclarationRespelling v v'
  | type (es fs : List (String × Json)) {v v' : Json} (h : TypeRespelling v v') :
      DeclarationRespelling (object (es ++ ("type", v) :: fs)) (object (es ++ ("type", v') :: fs))

def name? : Json → Option String
  | string s => some s
  | _ => none

/-- A list of names is spelled out as an object of declarations that say nothing, or one of the
declarations of an object is respelled. -/
inductive PropsRespelling : Json → Json → Prop
  | list (items : List Json) :
      PropsRespelling (array items)
        (object ((items.filterMap name?).eraseDups.map fun name ↦ (name, null)))
  | declaration (es fs : List (String × Json)) {name : String} {v v' : Json}
      (h : DeclarationRespelling v v') :
      PropsRespelling (object (es ++ (name, v) :: fs)) (object (es ++ (name, v') :: fs))

/-- The props of options or of a mixin at any depth are respelled. -/
inductive OptionsRespelling : Json → Json → Prop
  | props (es fs : List (String × Json)) {p p' : Json} (h : PropsRespelling p p') :
      OptionsRespelling (object (es ++ ("props", p) :: fs)) (object (es ++ ("props", p') :: fs))
  | mixin (es fs : List (String × Json)) (us ws : List Json) {o o' : Json}
      (h : OptionsRespelling o o') :
      OptionsRespelling (object (es ++ ("mixins", array (us ++ o :: ws)) :: fs))
        (object (es ++ ("mixins", array (us ++ o' :: ws)) :: fs))
  | propsItem (rest : List Json) {p p' : Json} (h : PropsRespelling p p') :
      OptionsRespelling (array (p :: rest)) (array (p' :: rest))
  | mixinItem (p : Json) (us ws rest : List Json) {o o' : Json} (h : OptionsRespelling o o') :
      OptionsRespelling (array (p :: array (us ++ o :: ws) :: rest))
        (array (p :: array (us ++ o' :: ws) :: rest))

/-- The options of a component are respelled in one of its scopes. -/
inductive Respelling : Json → Json → Prop
  | own {es : List (String × Json)} {v' : Json} (h : OptionsRespelling (object es) v') :
      Respelling (object es) v'
  | scope (es fs : List (String × Json)) {name : String} {o o' : Json}
      (hname : name = "options" ∨ name = "$options") (h : OptionsRespelling o o') :
      Respelling (object (es ++ (name, o) :: fs)) (object (es ++ (name, o') :: fs))

namespace TypeRespelling

theorem namesDistinct (hs : TypeRespelling v v') (h : v.NamesDistinct) : v'.NamesDistinct := by
  induction hs with
  | drop us ws =>
    rw [namesDistinct_array, List.forall_mem_append, List.forall_mem_cons] at h
    rw [namesDistinct_array, List.forall_mem_append]
    exact ⟨h.1, h.2.2⟩
  | member us ws _ ih => exact h.replaceItem us ws (ih (h.item us ws))

theorem ofJson? (hs : TypeRespelling v v') : PropType.ofJson? v' = PropType.ofJson? v := by
  induction hs with
  | @drop us ws v hname hlist =>
    have hv : PropType.ofJson? v = none := by
      cases v with
      | string s => exact absurd rfl (hname s)
      | array vs => exact absurd rfl (hlist vs)
      | null | bool | number | object => rfl
    rw [PropType.ofJson?_array, PropType.ofJson?_array, List.filterMap_append,
      List.filterMap_append, List.filterMap_cons_none hv]
  | member us ws _ ih =>
    rw [PropType.ofJson?_array, PropType.ofJson?_array]
    simp only [List.filterMap_append, List.filterMap_cons, ih]

theorem ne_object (hs : TypeRespelling v v') (entries : List (String × Json)) :
    v ≠ object entries ∧ v' ≠ object entries := by
  cases hs with
  | drop | member => exact ⟨nofun, nofun⟩

end TypeRespelling

namespace DeclarationRespelling

theorem namesDistinct (hs : DeclarationRespelling v v') (h : v.NamesDistinct) :
    v'.NamesDistinct := by
  cases hs with
  | long hobject => simpa using h
  | short hs => exact hs.namesDistinct h
  | type es fs hs => exact h.replaceEntry es fs (hs.namesDistinct (h.entry es fs))

theorem ofJson (hs : DeclarationRespelling v v') :
    Declaration.ofJson v' = Declaration.ofJson v := by
  cases hs with
  | long hobject =>
    rw [Declaration.ofJson_of_ne_object hobject]
    rfl
  | short hs =>
    rw [Declaration.ofJson_of_ne_object fun entries ↦ (hs.ne_object entries).1,
      Declaration.ofJson_of_ne_object fun entries ↦ (hs.ne_object entries).2, hs.ofJson?]
  | @type es fs v v' hs =>
    have htype : ((es ++ ("type", v') :: fs).lookup "type").bind PropType.ofJson? =
        ((es ++ ("type", v) :: fs).lookup "type").bind PropType.ofJson? := by
      simp only [List.lookup_append, lookup_cons_eq, if_true]
      cases es.lookup "type" with
      | none => exact hs.ofJson?
      | some t => rfl
    have hdefault : (es ++ ("type", v') :: fs).lookup "default" =
        (es ++ ("type", v) :: fs).lookup "default" := by
      simp [List.lookup_append, lookup_cons_eq]
    rw [Declaration.ofJson, Declaration.ofJson, htype, hdefault]

end DeclarationRespelling

namespace PropsRespelling

theorem namesDistinct (hs : PropsRespelling v v') (h : v.NamesDistinct) : v'.NamesDistinct := by
  cases hs with
  | list items =>
    rw [namesDistinct_object]
    constructor
    · exact nodup_keys_const _ _
    · intro e he
      obtain ⟨name, -, rfl⟩ := List.mem_map.1 he
      exact .null
  | declaration es fs hs => exact h.replaceEntry es fs (hs.namesDistinct (h.entry es fs))

/-- The first place of each name is the one that counts in a list of names too. -/
theorem ofList_names (items : List Json) :
    OrderedMap.ofList (items.filterMap fun
      | .string name => some (name, ({} : Declaration))
      | _ => none) =
    .ofList (((items.filterMap name?).eraseDups.map fun name ↦ (name, null)).map fun e ↦
      (e.1, Declaration.ofJson e.2)) := by
  have hitems : (items.filterMap fun
      | .string name => some (name, ({} : Declaration))
      | _ => none) = (items.filterMap name?).map fun name ↦ (name, {}) := by
    rw [List.map_filterMap]
    refine List.filterMap_congr fun v _ ↦ ?_
    cases v <;> rfl
  ext1
  rw [hitems, OrderedMap.entries_ofList_const, List.map_map]
  exact (OrderedMap.entries_ofList_of_nodup (nodup_keys_const _ _)).symm

theorem decode (hs : PropsRespelling v v') (h : v.NamesDistinct) :
    PropMap.decode (.ofJson v') = PropMap.decode (.ofJson v) := by
  rw [PropMap.decode, PropMap.decode, whole_ofJson (hs.namesDistinct h), whole_ofJson h]
  cases hs with
  | list items => exact congrArg (fun props ↦ Except.ok (some props)) (ofList_names items).symm
  | @declaration es fs name v v' hs =>
    have hentries : (es ++ (name, v') :: fs).map (fun e ↦ (e.1, Declaration.ofJson e.2)) =
        (es ++ (name, v) :: fs).map fun e ↦ (e.1, Declaration.ofJson e.2) := by
      rw [List.map_append, List.map_append, List.map_cons, List.map_cons, hs.ofJson]
    exact congrArg (fun entries ↦ Except.ok (some (OrderedMap.ofList entries))) hentries

end PropsRespelling

namespace OptionsRespelling

theorem namesDistinct (hs : OptionsRespelling v v') (h : v.NamesDistinct) :
    v'.NamesDistinct := by
  induction hs with
  | props es fs hs => exact h.replaceEntry es fs (hs.namesDistinct (h.entry es fs))
  | mixin es fs us ws _ ih =>
    have hmixins := h.entry es fs
    exact h.replaceEntry es fs (hmixins.replaceItem us ws (ih (hmixins.item us ws)))
  | propsItem rest hs => exact h.replaceItem [] rest (hs.namesDistinct (h.item [] rest))
  | mixinItem p us ws rest _ ih =>
    have hmixins := h.item [p] rest
    exact h.replaceItem [p] rest (hmixins.replaceItem us ws (ih (hmixins.item us ws)))

theorem decodeMixins_replace {source : Source} (us ws : List Json) {o o' : Json}
    (h : Options.decode source (.ofJson o') = Options.decode source (.ofJson o)) :
    Options.decodeMixins source (.ofJson (.array (us ++ o' :: ws))) =
      Options.decodeMixins source (.ofJson (.array (us ++ o :: ws))) := by
  rw [Options.decodeMixins_array, Options.decodeMixins_array]
  exact congrArg (some <$> ·) (mapM_replace h)

theorem decode (hs : OptionsRespelling v v') (h : v.NamesDistinct) (source : Source) :
    Options.decode source (.ofJson v') = Options.decode source (.ofJson v) := by
  induction hs with
  | props es fs hs =>
    rw [Options.decode_object, Options.decode_object, foldlM_replace]
    intro f
    exact readField_congr (hs.decode (h.entry es fs))
  | mixin es fs us ws _ ih =>
    have hmixins := h.entry es fs
    rw [Options.decode_object, Options.decode_object, foldlM_replace]
    intro f
    exact readField_congr (decodeMixins_replace us ws (ih (hmixins.item us ws)))
  | propsItem rest hs =>
    have hp := hs.decode (h.item [] rest)
    cases rest with
    | nil => rw [Options.decode_single, Options.decode_single, hp]
    | cons m rest => rw [Options.decode_pair, Options.decode_pair, hp]
  | mixinItem p us ws rest _ ih =>
    have hmixins := decodeMixins_replace us ws (ih ((h.item [p] rest).item us ws))
    rw [Options.decode_pair, Options.decode_pair, hmixins]

/-- In an object the respelling is one of the two fields of options. -/
theorem entry {entries : List (String × Json)} (hs : OptionsRespelling (.object entries) v') :
    ∃ es fs name w w', entries = es ++ (name, w) :: fs ∧ v' = .object (es ++ (name, w') :: fs) ∧
      (name = "props" ∨ name = "mixins") := by
  cases hs with
  | props es fs _ => exact ⟨es, fs, _, _, _, rfl, rfl, .inl rfl⟩
  | mixin es fs us ws _ => exact ⟨es, fs, _, _, _, rfl, rfl, .inr rfl⟩

theorem ne_null (hs : OptionsRespelling v v') : v ≠ null ∧ v' ≠ null := by
  cases hs with
  | props | mixin | propsItem | mixinItem => exact ⟨nofun, nofun⟩

end OptionsRespelling

namespace Respelling

theorem namesDistinct (hs : Respelling v v') (h : v.NamesDistinct) : v'.NamesDistinct := by
  cases hs with
  | own hs => exact hs.namesDistinct h
  | scope es fs _ hs => exact h.replaceEntry es fs (hs.namesDistinct (h.entry es fs))

theorem ofJson (hs : Respelling v v') (h : v.NamesDistinct) :
    Component.ofJson v' = Component.ofJson v := by
  have h' := hs.namesDistinct h
  simp only [Component.ofJson, Decoder.ofJson]
  cases hs with
  | own hs =>
    have hown := hs.decode h .setAside
    obtain ⟨es, fs, name, w, w', rfl, rfl, hname⟩ := hs.entry
    -- The other fields of the component pass over what its own options read.
    have hfields : name ∉ Component.fieldNames := by
      rcases hname with rfl | rfl <;> decide
    rw [Component.decode_object, Component.decode_object, hown, foldlM_replace]
    intro f
    rw [Component.take_of_notMem hfields (h.entry es fs),
      Component.take_of_notMem hfields (h'.entry es fs)]
  | @scope es fs name o o' hname hs =>
    have hprops : name ≠ "props" := by
      rcases hname with rfl | rfl <;> decide
    have hmixins : name ≠ "mixins" := by
      rcases hname with rfl | rfl <;> decide
    -- Its own options in turn pass over the two scopes.
    have hown : Options.decode .setAside (.ofJson (.object (es ++ (name, o') :: fs))) =
        Options.decode .setAside (.ofJson (.object (es ++ (name, o) :: fs))) := by
      rw [Options.decode_object, Options.decode_object, foldlM_replace]
      intro f
      rw [Options.take_of_ne hprops hmixins, Options.take_of_ne hprops hmixins]
    have hscope : nullable (Options.decode .value) (.ofJson o') =
        nullable (Options.decode .value) (.ofJson o) := by
      rw [nullable_ofJson _ hs.ne_null.1, nullable_ofJson _ hs.ne_null.2,
        hs.decode (h.entry es fs)]
    rw [Component.decode_object, Component.decode_object, hown, foldlM_replace]
    intro f
    rcases hname with rfl | rfl
    · exact readField_congr hscope
    · exact readField_congr hscope

end Respelling

theorem namesDistinct_respelled (hs : Relation.ReflTransGen Respelling v v')
    (h : v.NamesDistinct) : v'.NamesDistinct := by
  induction hs with
  | refl => exact h
  | tail _ hs ih => exact hs.namesDistinct ih

end Json

namespace Component

variable {σ : Type}

theorem ofJson_respelled {v v' : Json} (hs : Relation.ReflTransGen Json.Respelling v v')
    (h : v.NamesDistinct) : ofJson v' = ofJson v := by
  induction hs with
  | refl => rfl
  | tail hs' hs ih => exact (hs.ofJson (Json.namesDistinct_respelled hs' h)).trans ih

/-- Shorthand and long form of a manifest read alike, and what is read has the same props of the
same kinds and renders to the same story under any host and hooks. -/
theorem reads_respelled {v v' : Json} (h : v.NamesDistinct)
    (hs : Relation.ReflTransGen Json.Respelling v v') :
    ofJson v' = ofJson v ∧
    ∀ c, ofJson v = .ok c → ∃ c', ofJson v' = .ok c' ∧ c'.props = c.props ∧
      (c'.props.map fun _ d ↦ d.kind) = (c.props.map fun _ d ↦ d.kind) ∧
      ∀ (env : Env σ) (r : Record),
        env.render { r with component := c' } = env.render { r with component := c } := by
  have hread := ofJson_respelled hs h
  exact ⟨hread, fun c hc ↦ ⟨c, hread.trans hc, rfl, rfl, fun _ _ ↦ rfl⟩⟩

/-- A list of names in a mixin, and a type that is a list with more in it than types. -/
def shorthand : Json :=
  .object [("mixins", .array [.object [("props", .array [.string "a", .null, .string "a"])]]),
    ("props", .object [("b", .array [.string "String", .null])])]

def longForm : Json :=
  .object [("mixins", .array [.object [("props", .object [("a", .null)])]]),
    ("props", .object [("b", .object [("type", .array [.string "String"])])])]

theorem reads_shorthand :
    shorthand.NamesDistinct ∧ Relation.ReflTransGen Json.Respelling shorthand longForm ∧
      ∃ c c', ofJson shorthand = .ok c ∧ ofJson longForm = .ok c' ∧ c'.props = c.props := by
  have hdistinct : shorthand.NamesDistinct := by
    simp [shorthand, Json.NamesDistinct.null, Json.NamesDistinct.string]
  have hlist : Json.PropsRespelling (.array [.string "a", .null, .string "a"])
      (.object [("a", .null)]) := .list _
  have hlong : Json.PropsRespelling (.object [("b", .array [.string "String", .null])])
      (.object [("b", .object [("type", .array [.string "String", .null])])]) :=
    .declaration [] [] (.long nofun)
  have hdrop : Json.PropsRespelling
      (.object [("b", .object [("type", .array [.string "String", .null])])])
      (.object [("b", .object [("type", .array [.string "String"])])]) :=
    .declaration [] [] (.type [] [] (.drop [_] [] nofun nofun))
  have hs : Relation.ReflTransGen Json.Respelling shorthand longForm := by
    refine .head (.own (.mixin [] _ [] [] (.props [] [] hlist))) ?_
    refine .head (.own (.props [_] [] hlong)) ?_
    exact .single (.own (.props [_] [] hdrop))
  obtain ⟨-, hreads⟩ := reads_respelled (σ := Unit) hdistinct hs
  have hok : ∃ c, ofJson shorthand = .ok c := ⟨_, rfl⟩
  obtain ⟨c, hc⟩ := hok
  obtain ⟨c', hc', hprops, -⟩ := hreads c hc
  exact ⟨hdistinct, hs, c, c', hc, hc', hprops⟩

end Component

end Showcase
