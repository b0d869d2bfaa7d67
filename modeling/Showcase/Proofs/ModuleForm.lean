import Showcase.Proofs.ManifestForm

namespace Showcase

open Decoder

namespace Json

/-- `p.MixesIn o` when `o` stands among the mixins of the options `p`. -/
inductive MixesIn : Json → Json → Prop
  | field {entries : List (String × Json)} {os : List Json} {o : Json}
      (hmixins : ("mixins", .array os) ∈ entries) (ho : o ∈ os) : MixesIn (.object entries) o
  | item {p : Json} {os rest : List Json} {o : Json} (ho : o ∈ os) :
      MixesIn (.array (p :: .array os :: rest)) o

/-- The options in a component: its own, those of its two other scopes, and all their mixins. -/
inductive HasOptions (entries : List (String × Json)) : Json → Prop
  | own : HasOptions entries (.object entries)
  | options {o : Json} (ho : ("options", o) ∈ entries) (hnull : o ≠ .null) : HasOptions entries o
  | instanceOptions {o : Json} (ho : ("$options", o) ∈ entries) (hnull : o ≠ .null) :
      HasOptions entries o
  | mixin {p o : Json} (hp : HasOptions entries p) (ho : p.MixesIn o) : HasOptions entries o

theorem IsOptions.mixin {p o : Json} (hp : p.IsOptions) (ho : p.MixesIn o) : o.IsOptions := by
  cases ho with
  | field hmixins ho => exact isMixins_array.1 ((isOptions_object.1 hp).2 _ hmixins) o ho
  | item ho =>
    cases hp with
    | mixins _ hmixins => exact isMixins_array.1 hmixins o ho

theorem IsComponent.isOptions {entries : List (String × Json)} {o : Json} (h : IsComponent entries)
    (ho : HasOptions entries o) : o.IsOptions := by
  induction ho with
  | own => exact h.own
  | options ho hnull => exact (h.options _ ho).resolve_left hnull
  | instanceOptions ho hnull => exact (h.instanceOptions _ ho).resolve_left hnull
  | mixin _ ho ih => exact ih.mixin ho

end Json

/-- What a value exports: an object the component read from it, a value that is not an object
itself if it is truthy. -/
inductive Export.Reads : Json → Export → Prop
  | component {entries : List (String × Json)} {c : Component}
      (h : Component.ofJson (.object entries) = .ok c) : Reads (.object entries) (.component c)
  | value {v : Json} (hobject : ∀ entries, v ≠ .object entries) (h : v.isTruthy = true) :
      Reads v (.value v)
  | empty {v : Json} (h : v.isTruthy = false) : Reads v .empty

namespace Export

theorem decode_object {entries : List (String × Json)} (h : (Json.object entries).NamesDistinct) :
    decode (.ofJson (.object entries)) = component <$> Component.ofJson (.object entries) := by
  rw [decode, whole_ofJson h]
  rfl

theorem decode_of_ne_object {v : Json} (h : v.NamesDistinct) (hv : ∀ entries, v ≠ .object entries) :
    decode (.ofJson v) = .ok (if v.isTruthy then .value v else .empty) := by
  rw [decode, whole_ofJson h]
  cases v with
  | object entries => exact absurd rfl (hv entries)
  | null | bool | number | string | array => rfl

theorem reads_of_decode {v : Json} {x : Export} (h : v.NamesDistinct)
    (hx : decode (.ofJson v) = .ok x) : Reads v x := by
  by_cases hv : ∃ entries, v = .object entries
  · obtain ⟨entries, rfl⟩ := hv
    rw [decode_object h] at hx
    cases hc : Component.ofJson (.object entries) with
    | error e => rw [hc] at hx; cases hx
    | ok c =>
      rw [hc] at hx
      cases hx
      exact .component hc
  · rw [not_exists] at hv
    rw [decode_of_ne_object h hv] at hx
    obtain rfl := Except.ok.inj hx
    split
    · next htruthy => exact .value hv htruthy
    · next htruthy => exact .empty (Bool.not_eq_true _ ▸ htruthy)

theorem succeeds_decode {v : Json} (h : v.NamesDistinct) :
    Succeeds (decode (.ofJson v)) ↔ ∀ entries, v = .object entries → Json.IsComponent entries := by
  by_cases hv : ∃ entries, v = .object entries
  · obtain ⟨entries, rfl⟩ := hv
    rw [decode_object h, succeeds_map, Component.succeeds_ofJson h]
    simp
  · rw [not_exists] at hv
    rw [decode_of_ne_object h hv]
    exact iff_of_true (succeeds_ok _) fun entries hentries ↦ absurd hentries (hv entries)

end Export

/-- A module is an object of exports whose components are well formed. -/
def Json.IsModule (v : Json) : Prop :=
  ∃ es, v = .object es ∧ ∀ name entries, (name, .object entries) ∈ es → IsComponent entries

namespace Module

theorem ofJson_object (es : List (String × Json)) :
    ofJson (.object es) =
      (⟨.ofList ·⟩) <$> es.mapM fun e ↦ (e.1, ·) <$> Export.decode (.ofJson e.2) := by
  rw [ofJson, Decoder.ofJson, decode, map_ofJson]
  cases es.mapM fun e ↦ (e.1, ·) <$> Export.decode (.ofJson e.2) <;> rfl

theorem succeeds_ofJson {v : Json} (h : v.NamesDistinct) : Succeeds (ofJson v) ↔ v.IsModule := by
  cases v with
  | object es =>
    have hvalues := (Json.namesDistinct_object.1 h).2
    rw [ofJson_object, succeeds_map, succeeds_mapM]
    simp only [succeeds_map]
    rw [forall₂_congr fun e he ↦ Export.succeeds_decode (hvalues e he)]
    constructor
    · exact fun hes ↦ ⟨es, rfl, fun name entries he ↦ hes _ he entries rfl⟩
    · rintro ⟨es', hes', hcomponents⟩ ⟨name, v⟩ he entries rfl
      cases hes'
      exact hcomponents name entries he
  | null | bool | number | string | array =>
    refine iff_of_false ?_ (by rintro ⟨es, hes, -⟩; cases hes)
    simp only [ofJson, Decoder.ofJson, decode, Document.ofJson, map, succeeds_bind]
    rintro ⟨exports, hexports, -⟩
    exact not_succeeds_unexpected _ _ ⟨exports, hexports⟩

/-- The exports stand in the order of the values they were read from, under the same names. -/
theorem reads_of_ofJson {es : List (String × Json)} {m : Module}
    (h : (Json.object es).NamesDistinct) (hm : ofJson (.object es) = .ok m) :
    List.Forall₂ (fun e x ↦ x.1 = e.1 ∧ Export.Reads e.2 x.2) es m.exports.entries := by
  obtain ⟨hnames, hvalues⟩ := Json.namesDistinct_object.1 h
  rw [ofJson_object] at hm
  cases hxs : es.mapM fun e ↦ (e.1, ·) <$> Export.decode (.ofJson e.2) with
  | error e => rw [hxs] at hm; cases hm
  | ok xs =>
    rw [hxs] at hm
    obtain rfl := Except.ok.inj hm
    have hreads : List.Forall₂ (fun e x ↦ x.1 = e.1 ∧ Export.Reads e.2 x.2) es xs := by
      refine ((List.forall₂_and_left _ _).2 ⟨hvalues, mapM_eq_ok.1 hxs⟩).imp fun e x hx ↦ ?_
      cases hd : Export.decode (.ofJson e.2) with
      | error e => rw [hd] at hx; cases hx.2
      | ok x' =>
        rw [hd] at hx
        obtain rfl := Except.ok.inj hx.2
        exact ⟨rfl, Export.reads_of_decode hx.1 hd⟩
    have hkeys : xs.map Prod.fst = es.map Prod.fst := by
      rw [← List.forall₂_eq_eq_eq, List.forall₂_map_left_iff, List.forall₂_map_right_iff]
      exact (hreads.imp fun _ _ hx ↦ hx.1).flip
    rw [OrderedMap.entries_ofList_of_nodup (hkeys ▸ hnames)]
    exact hreads

/-- A manifest is a module exactly when all its components are well formed; one malformed mixin,
however deep, spoils the whole. Each name exports one value. -/
theorem reads_manifest {v : Json} (h : v.NamesDistinct) :
    ((∃ m, ofJson v = .ok m) ↔ v.IsModule) ∧
    (∀ es m, v = .object es → ofJson v = .ok m →
      List.Forall₂ (fun e x ↦ x.1 = e.1 ∧ Export.Reads e.2 x.2) es m.exports.entries) ∧
    ∀ es name entries o, v = .object es → (name, .object entries) ∈ es →
      Json.HasOptions entries o → ¬ o.IsOptions → ∃ e, ofJson v = .error e := by
  refine ⟨succeeds_ofJson h, ?_, ?_⟩
  · rintro es m rfl hm
    exact reads_of_ofJson h hm
  · rintro es name entries o rfl he ho hmalformed
    rw [← not_succeeds_iff, succeeds_ofJson h]
    rintro ⟨es', hes', hcomponents⟩
    cases hes'
    exact hmalformed ((hcomponents name entries he).isOptions ho)

/-- The props stand in a mixin that is given by place, in options that are given by place. -/
def manifestWith (props : Json) : Json :=
  .object [("Card", .object [("$options", .array [.null, .array [.array [props]]])]),
    ("limit", .integer 0)]

theorem manifestWith_array : (manifestWith (.array [])).IsModule := by
  have hmixin : Json.IsOptions (.array [.array []]) := .props trivial
  have hoptions : Json.IsOptions (.array [.null, .array [.array [.array []]]]) :=
    .mixins trivial (.list (by simpa using hmixin))
  refine ⟨_, rfl, fun name entries he ↦ ?_⟩
  obtain ⟨rfl, rfl⟩ : name = "Card" ∧
      entries = [("$options", .array [.null, .array [.array [.array []]]])] := by
    simpa [Json.integer] using he
  constructor
  case own => exact .object (by simp) (by simp)
  case instanceOptions => simpa using hoptions
  all_goals simp

theorem manifestWith_decided :
    (∃ m, ofJson (manifestWith (.array [])) = .ok m) ∧
      ∃ e, ofJson (manifestWith (.bool true)) = .error e := by
  have hdistinct (p : Json) (hp : p.NamesDistinct) : (manifestWith p).NamesDistinct := by
    simp [manifestWith, Json.integer, hp, Json.NamesDistinct.null, Json.NamesDistinct.number]
  refine ⟨(reads_manifest (hdistinct _ (by simp))).1.2 manifestWith_array, ?_⟩
  refine (reads_manifest (hdistinct _ (.bool true))).2.2 _ "Card" _ (.array [.bool true]) rfl
    (List.mem_cons_self ..) ?_ ?_
  · refine .mixin (.instanceOptions (List.mem_cons_self ..) (by simp)) (.item ?_)
    exact List.mem_cons_self ..
  · exact fun | .props h => h

end Module

end Showcase
