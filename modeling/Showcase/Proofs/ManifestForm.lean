import Mathlib.Logic.Relation
import Mathlib.Tactic.SplitIfs
import Showcase.Proofs.ManifestFields

namespace Showcase

open Decoder

namespace Json

/-- Props are an object of declarations or a list of names, or they are left out as null. -/
def IsProps : Json → Prop
  | null | array _ | object _ => True
  | bool _ | number _ | string _ => False

mutual

/-- Options are an object, or the list of their two fields of which the last ones may be missing. -/
inductive IsOptions : Json → Prop
  | object {entries : List (String × Json)} (props : ∀ p, ("props", p) ∈ entries → p.IsProps)
      (mixins : ∀ m, ("mixins", m) ∈ entries → IsMixins m) : IsOptions (.object entries)
  | empty : IsOptions (.array [])
  | props {p : Json} (props : p.IsProps) : IsOptions (.array [p])
  | mixins {p m : Json} (props : p.IsProps) (mixins : IsMixins m) : IsOptions (.array [p, m])

inductive IsMixins : Json → Prop
  | null : IsMixins .null
  | list {items : List Json} (h : ∀ o ∈ items, IsOptions o) : IsMixins (.array items)

end

theorem isMixins_array {items : List Json} :
    IsMixins (.array items) ↔ ∀ o ∈ items, IsOptions o :=
  ⟨fun | .list h => h, .list⟩

theorem isOptions_object {entries : List (String × Json)} :
    IsOptions (.object entries) ↔ (∀ p, ("props", p) ∈ entries → p.IsProps) ∧
      ∀ m, ("mixins", m) ∈ entries → IsMixins m :=
  ⟨fun | .object props mixins => ⟨props, mixins⟩, fun h ↦ .object h.1 h.2⟩

/-- A component is read from an object. Besides its own options it may have options in two other
scopes, the validators and the defaults of typed props, and a prototype. -/
structure IsComponent (entries : List (String × Json)) : Prop where
  own : IsOptions (.object entries)
  options : ∀ o, ("options", o) ∈ entries → o = .null ∨ IsOptions o
  instanceOptions : ∀ o, ("$options", o) ∈ entries → o = .null ∨ IsOptions o
  propTypes : ∀ t, ("propTypes", t) ∈ entries →
    t = .null ∨ ∃ types, t = .object types ∧ ∀ e ∈ types, ∃ s, e.2 = .string s
  defaultProps : ∀ d, ("defaultProps", d) ∈ entries → ∃ defaults, d = .object defaults
  prototype : ∀ p, ("prototype", p) ∈ entries →
    p = .null ∨ (∃ fields, p = .object fields) ∨ p = .array [] ∨ ∃ m, p = .array [m]

theorem forall_named {entries : List (String × Json)} {name : String} {P : Json → Prop} :
    (∀ e ∈ entries, e.1 = name → P e.2) ↔ ∀ v, (name, v) ∈ entries → P v := by
  constructor
  · exact fun h v hv ↦ h (name, v) hv rfl
  · rintro h ⟨name, v⟩ he rfl
    exact h v he

end Json

theorem PropMap.succeeds_decode {p : Json} (h : p.NamesDistinct) :
    Succeeds (PropMap.decode (.ofJson p)) ↔ p.IsProps := by
  rw [PropMap.decode, whole_ofJson h]
  cases p with
  | null | array | object => exact iff_of_true (succeeds_ok _) trivial
  | bool | number | string => exact iff_of_false (not_succeeds_error _) not_false

namespace Options

def Fields.Met (f : Fields) (name : String) : Prop :=
  (name = "props" ∧ f.props.isSome) ∨ (name = "mixins" ∧ f.mixins.isSome)

theorem met_of_take {source : Source} {f f' : Fields} {e : String × Json} {name : String}
    (h : take source f e.1 (.ofJson e.2) = .ok f') (hmet : f'.Met name) :
    f.Met name ∨ name = e.1 := by
  rw [take] at h
  split at h
  · next he =>
    obtain ⟨props, rfl⟩ := readField_eq_ok h
    rcases hmet with ⟨hname, -⟩ | hmixins
    · exact .inr (hname.trans he.symm)
    · exact .inl (.inr hmixins)
  · split at h
    · next he =>
      obtain ⟨mixins, rfl⟩ := readField_eq_ok h
      rcases hmet with hprops | ⟨hname, -⟩
      · exact .inl (.inl hprops)
      · exact .inr (hname.trans he.symm)
    · simp only [skip_ofJson] at h
      obtain rfl := Except.ok.inj h
      exact .inl hmet

theorem succeeds_take {source : Source} {f : Fields} {e : String × Json}
    (hf : ¬ f.Met e.1) (he : e.2.NamesDistinct)
    (hmixins : Succeeds (decodeMixins source (.ofJson e.2)) ↔ e.2.IsMixins) :
    Succeeds (take source f e.1 (.ofJson e.2)) ↔
      (e.1 = "props" → e.2.IsProps) ∧ (e.1 = "mixins" → e.2.IsMixins) := by
  obtain ⟨name, v⟩ := e
  simp only [Fields.Met, not_or, not_and, Option.not_isSome_iff_eq_none] at hf
  rw [take]
  split
  · next hname =>
    subst hname
    rw [hf.1 rfl, readField_none, succeeds_map, PropMap.succeeds_decode he]
    simp
  · split
    · next hname =>
      subst hname
      rw [hf.2 rfl, readField_none, succeeds_map, hmixins]
      simp
    · next hprops hmixins =>
      simp only [skip_ofJson]
      exact iff_of_true (succeeds_ok f) ⟨fun h ↦ absurd h hprops, fun h ↦ absurd h hmixins⟩

theorem succeeds_takes (source : Source) {entries : List (String × Json)}
    (h : (Json.object entries).NamesDistinct)
    (hmixins : ∀ e ∈ entries, Succeeds (decodeMixins source (.ofJson e.2)) ↔ e.2.IsMixins) :
    Succeeds (entries.foldlM (fun f e ↦ take source f e.1 (.ofJson e.2)) {}) ↔
      Json.IsOptions (.object entries) := by
  obtain ⟨hnames, hvalues⟩ := Json.namesDistinct_object.1 h
  have hempty (name : String) : ¬ Fields.Met {} name := by simp [Fields.Met]
  -- The names are distinct: no field has been met before when its entry comes.
  have hfold := succeeds_foldlM (fun f e ↦ take source f e.1 (.ofJson e.2)) Fields.Met
    (fun f e he hf ↦ succeeds_take hf (hvalues e he) (hmixins e he))
    (fun _ _ _ _ h hmet ↦ met_of_take h hmet) hnames fun e _ ↦ hempty e.1
  rw [hfold, Json.isOptions_object, ← Json.forall_named, ← Json.forall_named, ← forall₂_and]

theorem succeeds_list {source : Source} {items : List Json} (h : ∀ v ∈ items, v.NamesDistinct)
    (hmixins : ∀ v ∈ items, Succeeds (decodeMixins source (.ofJson v)) ↔ v.IsMixins) :
    Succeeds (decode source (.ofJson (.array items))) ↔ Json.IsOptions (.array items) := by
  match items with
  | [] =>
    rw [Document.ofJson, Document.ofItems, decode]
    exact iff_of_true (succeeds_ok _) .empty
  | [p] =>
    have hp := PropMap.succeeds_decode (h p (List.mem_cons_self ..))
    rw [decode_single, succeeds_bind]
    constructor
    · rintro ⟨props, hprops, -⟩
      exact .props (hp.1 ⟨props, hprops⟩)
    · rintro ⟨⟩
      next hprops =>
      obtain ⟨props, hprops⟩ := hp.2 hprops
      exact ⟨props, hprops, succeeds_ok _⟩
  | p :: m :: rest =>
    have hp := PropMap.succeeds_decode (h p (List.mem_cons_self ..))
    have hm := hmixins m (List.mem_cons_of_mem _ (List.mem_cons_self ..))
    rw [decode_pair, succeeds_bind]
    simp only [succeeds_bind]
    constructor
    · rintro ⟨props, hprops, mixins, hmixin, hrest⟩
      cases rest with
      | nil => exact .mixins (hp.1 ⟨props, hprops⟩) (hm.1 ⟨mixins, hmixin⟩)
      | cons v vs => exact absurd hrest (not_succeeds_error _)
    · rintro ⟨⟩
      next hprops hmixin =>
      obtain ⟨props, hprops⟩ := hp.2 hprops
      obtain ⟨mixins, hmixin⟩ := hm.2 hmixin
      exact ⟨props, hprops, mixins, hmixin, succeeds_ok _⟩

/-- By induction on the value: the mixins of options are options themselves. -/
theorem succeeds_decode_and (v : Json) (h : v.NamesDistinct) (source : Source) :
    (Succeeds (decode source (.ofJson v)) ↔ v.IsOptions) ∧
      (Succeeds (decodeMixins source (.ofJson v)) ↔ v.IsMixins) := by
  induction v using Json.inductionOn with
  | null =>
    simp only [Document.ofJson, decode, decodeMixins]
    exact ⟨iff_of_false (not_succeeds_unexpected _ _) (by rintro ⟨⟩),
      iff_of_true (succeeds_ok _) .null⟩
  | bool | number | string =>
    simp only [Document.ofJson, decode, decodeMixins]
    exact ⟨iff_of_false (not_succeeds_unexpected _ _) (by rintro ⟨⟩),
      iff_of_false (not_succeeds_unexpected _ _) (by rintro ⟨⟩)⟩
  | array items ih =>
    have hitems := Json.namesDistinct_array.1 h
    refine ⟨succeeds_list hitems fun v hv ↦ (ih v hv (hitems v hv)).2, ?_⟩
    rw [decodeMixins_array, succeeds_map, succeeds_mapM, Json.isMixins_array]
    exact forall₂_congr fun o ho ↦ (ih o ho (hitems o ho)).1
  | object entries ih =>
    have hentries := (Json.namesDistinct_object.1 h).2
    refine ⟨?_, ?_⟩
    · rw [decode_object, succeeds_map]
      exact succeeds_takes source h fun e he ↦ (ih e he (hentries e he)).2
    · simp only [Document.ofJson, decodeMixins]
      exact iff_of_false (not_succeeds_unexpected _ _) (by rintro ⟨⟩)

theorem succeeds_decode {v : Json} (h : v.NamesDistinct) (source : Source) :
    Succeeds (decode source (.ofJson v)) ↔ v.IsOptions := (succeeds_decode_and v h source).1

end Options

namespace Prototype

theorem succeeds_marker {v : Json} (h : v.NamesDistinct) : Succeeds (marker (.ofJson v)) := by
  rw [marker, whole_ofJson h]
  exact succeeds_ok _

theorem succeeds_takes {entries : List (String × Json)} (h : (Json.object entries).NamesDistinct) :
    Succeeds (entries.foldlM (fun p e ↦ take p e.1 (.ofJson e.2)) none) := by
  obtain ⟨hnames, hvalues⟩ := Json.namesDistinct_object.1 h
  refine (succeeds_foldlM _ (fun p name ↦ name = "isReactComponent" ∧ p.isSome) ?_ ?_ hnames
    (f := none) (by simp)).2 fun _ _ ↦ trivial
  · intro p e he hp
    refine iff_of_true ?_ trivial
    rw [take]
    split
    · next hname =>
      obtain rfl : p = none := by simpa [hname] using hp
      rw [readField_none, succeeds_map]
      exact succeeds_marker (hvalues e he)
    · simp
  · rintro p e p' name hp' ⟨rfl, hsome⟩
    rw [take] at hp'
    split at hp'
    · next hname => exact .inr hname.symm
    · simp only [skip_ofJson] at hp'
      obtain rfl := Except.ok.inj hp'
      exact .inl ⟨rfl, hsome⟩

theorem succeeds_decode {v : Json} (h : v.NamesDistinct) (source : Source) :
    Succeeds (decode source (.ofJson v)) ↔
      (∃ fields, v = .object fields) ∨ v = .array [] ∨ ∃ m, v = .array [m] := by
  cases v with
  | null | bool | number | string =>
    simp only [Document.ofJson, decode]
    exact iff_of_false (not_succeeds_unexpected _ _) (by simp)
  | object fields =>
    refine iff_of_true ?_ (.inl ⟨fields, rfl⟩)
    rw [Document.ofJson, decode, decodeFields_ofEntries, succeeds_map]
    exact succeeds_takes h
  | array items =>
    cases items with
    | nil => exact iff_of_true (succeeds_ok _) (.inr (.inl rfl))
    | cons m rest =>
      obtain ⟨p, hp⟩ := succeeds_marker (Json.namesDistinct_array.1 h m (List.mem_cons_self ..))
      rw [Document.ofJson, Document.ofItems, decode, hp]
      cases rest with
      | nil => exact iff_of_true (succeeds_ok _) (.inr (.inr ⟨m, rfl⟩))
      | cons v vs => exact iff_of_false (not_succeeds_error _) (by simp)

end Prototype

namespace Component

theorem succeeds_decodePropTypes (v : Json) :
    Succeeds (decodePropTypes (.ofJson v)) ↔
      ∃ types, v = .object types ∧ ∀ e ∈ types, ∃ s, e.2 = .string s := by
  rw [decodePropTypes, succeeds_bind]
  simp only [pure, Except.pure, succeeds_ok, and_true]
  exact (succeeds_map_ofJson string v).trans (by simp only [succeeds_string])

theorem succeeds_defaults {v : Json} (h : v.NamesDistinct) :
    Succeeds (map whole (.ofJson v)) ↔ ∃ defaults, v = .object defaults := by
  rw [succeeds_map_ofJson]
  refine exists_congr fun defaults ↦ and_iff_left_of_imp ?_
  rintro rfl e he
  rw [whole_ofJson ((Json.namesDistinct_object.1 h).2 e he)]
  exact succeeds_ok _

def Fields.Met (f : Fields) (name : String) : Prop :=
  (name = "options" ∧ f.options.isSome) ∨ (name = "$options" ∧ f.instanceOptions.isSome) ∨
    (name = "propTypes" ∧ f.propTypes.isSome) ∨ (name = "defaultProps" ∧ f.defaultProps.isSome) ∨
    (name = "prototype" ∧ f.prototype.isSome)

theorem met_of_take {source : Source} {f f' : Fields} {e : String × Json} {name : String}
    (h : take source f e.1 (.ofJson e.2) = .ok f') (hmet : f'.Met name) :
    f.Met name ∨ name = e.1 := by
  rw [take] at h
  split_ifs at h
  case pos | pos | pos | pos | pos =>
    obtain ⟨a, rfl⟩ := readField_eq_ok h
    grind [Fields.Met]
  case neg =>
    simp only at h
    cases hd : whole (.ofJson e.2) with
    | error x => rw [hd] at h; cases h
    | ok v =>
      rw [hd] at h
      obtain rfl := Except.ok.inj h
      exact .inl hmet

theorem succeeds_take {source : Source} {f : Fields} {e : String × Json}
    (hf : ¬ f.Met e.1) (he : e.2.NamesDistinct) :
    Succeeds (take source f e.1 (.ofJson e.2)) ↔
      (e.1 = "options" → e.2 = .null ∨ e.2.IsOptions) ∧
      (e.1 = "$options" → e.2 = .null ∨ e.2.IsOptions) ∧
      (e.1 = "propTypes" → e.2 = .null ∨
        ∃ types, e.2 = .object types ∧ ∀ e ∈ types, ∃ s, e.2 = .string s) ∧
      (e.1 = "defaultProps" → ∃ defaults, e.2 = .object defaults) ∧
      (e.1 = "prototype" → e.2 = .null ∨
        (∃ fields, e.2 = .object fields) ∨ e.2 = .array [] ∨ ∃ m, e.2 = .array [m]) := by
  obtain ⟨name, v⟩ := e
  by_cases hname : name ∈ fieldNames
  · simp only [fieldNames, List.mem_cons, List.not_mem_nil, or_false] at hname
    rcases hname with rfl | rfl | rfl | rfl | rfl
    · have hnone : f.options = none := by simpa [Fields.Met] using hf
      simp [take, hnone, readField_none, succeeds_nullable, Options.succeeds_decode he]
    · have hnone : f.instanceOptions = none := by simpa [Fields.Met] using hf
      simp [take, hnone, readField_none, succeeds_nullable, Options.succeeds_decode he]
    · have hnone : f.propTypes = none := by simpa [Fields.Met] using hf
      simp [take, hnone, readField_none, succeeds_nullable, succeeds_decodePropTypes]
    · have hnone : f.defaultProps = none := by simpa [Fields.Met] using hf
      simp [take, hnone, readField_none, succeeds_defaults he]
    · have hnone : f.prototype = none := by simpa [Fields.Met] using hf
      simp [take, hnone, readField_none, succeeds_nullable, Prototype.succeeds_decode he]
  · rw [take_of_notMem hname he]
    simp only [fieldNames, List.mem_cons, List.not_mem_nil, or_false, not_or] at hname
    obtain ⟨h₁, h₂, h₃, h₄, h₅⟩ := hname
    exact iff_of_true (succeeds_ok f) (by simp [h₁, h₂, h₃, h₄, h₅])

theorem succeeds_takes (source : Source) {entries : List (String × Json)}
    (h : (Json.object entries).NamesDistinct) :
    Succeeds (entries.foldlM (fun f e ↦ take source f e.1 (.ofJson e.2)) {}) ∧
      Json.IsOptions (.object entries) ↔ Json.IsComponent entries := by
  obtain ⟨hnames, hvalues⟩ := Json.namesDistinct_object.1 h
  have hempty (name : String) : ¬ Fields.Met {} name := by simp [Fields.Met]
  rw [succeeds_foldlM (fun f e ↦ take source f e.1 (.ofJson e.2)) Fields.Met
    (fun f e he hf ↦ succeeds_take hf (hvalues e he)) (fun _ _ _ _ h hmet ↦ met_of_take h hmet)
    hnames fun e _ ↦ hempty e.1]
  simp only [forall₂_and]
  constructor
  · rintro ⟨⟨options, instanceOptions, propTypes, defaultProps, prototype⟩, own⟩
    exact ⟨own, Json.forall_named.1 options, Json.forall_named.1 instanceOptions,
      Json.forall_named.1 propTypes, Json.forall_named.1 defaultProps,
      Json.forall_named.1 prototype⟩
  · rintro ⟨own, options, instanceOptions, propTypes, defaultProps, prototype⟩
    exact ⟨⟨Json.forall_named.2 options, Json.forall_named.2 instanceOptions,
      Json.forall_named.2 propTypes, Json.forall_named.2 defaultProps,
      Json.forall_named.2 prototype⟩, own⟩

theorem succeeds_ofJson {entries : List (String × Json)}
    (h : (Json.object entries).NamesDistinct) :
    Succeeds (ofJson (.object entries)) ↔ Json.IsComponent entries := by
  rw [← succeeds_takes .value h, ← Options.succeeds_decode h .setAside, ofJson, Decoder.ofJson,
    decode_object, succeeds_bind]
  simp only [succeeds_bind]
  constructor
  · rintro ⟨f, hf, own, hown, -⟩
    exact ⟨⟨f, hf⟩, own, hown⟩
  · rintro ⟨⟨f, hf⟩, own, hown⟩
    exact ⟨f, hf, own, hown, succeeds_ok _⟩

end Component

end Showcase
