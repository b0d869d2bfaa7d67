import Showcase.Proofs.Action
import Showcase.Proofs.ManifestFields
import Showcase.Record

namespace Showcase

open Decoder

variable {σ : Type}

namespace Module

variable {m : Module} {name : String} {e : Export} {x : String × Export}

def Offers (m : Module) (name : String) (e : Export) : Prop := m.get? name = some e ∧ e ≠ .empty

/-- Nothing is exported under the name, or an empty export is. -/
def Lacks (m : Module) (name : String) : Prop := ∀ e, m.get? name = some e → e = .empty

/-- The export that counts for a file of the given name. -/
inductive Selects (m : Module) (name : String) : String × Export → Prop
  | default {e : Export} (h : m.Offers "default" e) : Selects m name ("default", e)
  | named {e : Export} (hdefault : m.Lacks "default") (h : m.Offers name e) :
      Selects m name (name, e)
  | first {x : String × Export} (hdefault : m.Lacks "default") (hnamed : m.Lacks name)
      (h : m.first? = some x) : Selects m name x

theorem present?_of_offers (h : m.Offers name e) : m.present? name = some (name, e) := by
  obtain ⟨hget, hempty⟩ := h
  rw [present?, hget]
  cases e with
  | component c => rfl
  | value v => rfl
  | empty => exact absurd rfl hempty

theorem present?_of_lacks (h : m.Lacks name) : m.present? name = none := by
  rw [present?]
  cases hget : m.get? name with
  | none => rfl
  | some e =>
    obtain rfl := h e hget
    rfl

theorem offers_or_lacks (m : Module) (name : String) : (∃ e, m.Offers name e) ∨ m.Lacks name := by
  by_cases h : m.Lacks name
  · exact .inr h
  · simp only [Lacks, not_forall] at h
    obtain ⟨e, hget, hempty⟩ := h
    exact .inl ⟨e, hget, hempty⟩

end Module

section FindExport

variable {m : Module} {info : FileInfo} {x : String × Export}

theorem findExport_of_selects (h : m.Selects info.name x) : findExport (some m) info = .ok x := by
  rw [findExport]
  cases h with
  | default h => rw [Module.present?_of_offers h]; rfl
  | named hdefault h =>
    rw [Module.present?_of_lacks hdefault, Module.present?_of_offers h]
    rfl
  | first hdefault hnamed h =>
    rw [Module.present?_of_lacks hdefault, Module.present?_of_lacks hnamed, h]
    rfl

theorem Module.selects_or_empty (m : Module) (name : String) :
    (∃ x, m.Selects name x) ∨ m.exports.entries = [] := by
  rcases m.offers_or_lacks "default" with ⟨e, he⟩ | hdefault
  · exact .inl ⟨_, .default he⟩
  rcases m.offers_or_lacks name with ⟨e, he⟩ | hnamed
  · exact .inl ⟨_, .named hdefault he⟩
  cases hentries : m.exports.entries with
  | nil => exact .inr rfl
  | cons x xs => exact .inl ⟨x, .first hdefault hnamed (by rw [first?, hentries]; rfl)⟩

theorem findExport_of_entries_nil (h : m.exports.entries = []) :
    findExport (some m) info = .error (.undetectable info.file) := by
  have hlacks (name : String) : m.Lacks name := by
    intro e he
    rw [Module.get?, OrderedMap.get?, h] at he
    cases he
  rw [findExport, Module.present?_of_lacks (hlacks _), Module.present?_of_lacks (hlacks _),
    Module.first?, h]
  rfl

theorem findExport_eq_ok_iff : findExport (some m) info = .ok x ↔ m.Selects info.name x := by
  refine ⟨fun h ↦ ?_, findExport_of_selects⟩
  rcases m.selects_or_empty info.name with ⟨y, hy⟩ | hempty
  · cases (findExport_of_selects hy).symm.trans h
    exact hy
  · cases (findExport_of_entries_nil hempty).symm.trans h

theorem findExport_eq_error_iff {m : Option Module} {e : FileError} :
    findExport m info = .error e ↔ (m = none ∧ e = .missingModule info.file) ∨
      ∃ a, m = some a ∧ a.exports.entries = [] ∧ e = .undetectable info.file := by
  cases m with
  | none => simp [findExport, eq_comm]
  | some a =>
    rcases a.selects_or_empty info.name with ⟨x, hx⟩ | hempty
    · rw [findExport_of_selects hx]
      refine iff_of_false (by simp) ?_
      rintro (⟨ha, -⟩ | ⟨a', ha, hempty, -⟩)
      · cases ha
      · cases ha
        cases (findExport_of_selects hx).symm.trans (findExport_of_entries_nil hempty)
    · rw [findExport_of_entries_nil hempty]
      simp [hempty, eq_comm]

end FindExport

theorem Component.style_eq_function_iff {c : Component} :
    c.style = .function ↔ c.isReact = true := by
  rw [style]
  cases c.isReact <;> simp

section Find

variable {m : Option Module} {info : FileInfo} {s : Session σ} {r : Record} {e : FileError}

theorem find_eq_error_iff :
    ((Record.find m info).perform s).1 = .error e ↔ findExport m info = .error e := by
  cases m with
  | none => simp [Record.find, findExport]
  | some a =>
    rw [Record.find]
    rcases findExport (some a) info with e | ⟨name, c | v | _⟩ <;> simp

theorem find_eq_ok_some_iff : ((Record.find m info).perform s).1 = .ok (some r) ↔
    ∃ a name c, m = some a ∧ findExport m info = .ok (name, .component c) ∧
      r = ⟨c.style, info.group, info.name, c, a⟩ := by
  cases m with
  | none => simp [Record.find]
  | some a =>
    rw [Record.find]
    rcases findExport (some a) info with e | ⟨name, c | v | _⟩ <;> simp [eq_comm]

/-- What a file's record says is told by the component and the file's names. -/
theorem isRecord_iff : ((Record.find m info).perform s).1 = .ok (some r) ↔
    (∃ name, findExport m info = .ok (name, .component r.component)) ∧ m = some r.module ∧
      (r.style = .function ↔ r.component.isReact = true) ∧ r.name = info.name ∧
      r.group = info.group := by
  rw [find_eq_ok_some_iff]
  constructor
  · rintro ⟨a, name, c, rfl, hc, rfl⟩
    exact ⟨⟨name, hc⟩, rfl, Component.style_eq_function_iff, rfl, rfl⟩
  · rintro ⟨⟨name, hc⟩, hm, hstyle, hname, hgroup⟩
    have hcomponent : r.style = r.component.style := by
      rw [← Component.style_eq_function_iff] at hstyle
      cases h : r.style <;> cases h' : r.component.style <;> simp [h, h'] at hstyle ⊢
    exact ⟨r.module, name, r.component, hm, hc, by rw [← hcomponent, ← hgroup, ← hname]⟩

end Find

section Marker

/-- The value by which a prototype marks its component for direct rendering. -/
inductive Json.HasMarker : Json → Json → Prop
  | field {fields : List (String × Json)} {v : Json} (h : ("isReactComponent", v) ∈ fields) :
      HasMarker (.object fields) v
  | item (v : Json) : HasMarker (.array [v]) v

theorem Json.hasMarker_object {fields : List (String × Json)} {v : Json} :
    HasMarker (.object fields) v ↔ ("isReactComponent", v) ∈ fields := by
  refine ⟨fun h ↦ ?_, .field⟩
  cases h with
  | field h => exact h

theorem Json.hasMarker_single {v w : Json} : HasMarker (.array [w]) v ↔ v = w := by
  constructor
  · intro h
    cases h with
    | item => rfl
  · rintro rfl
    exact .item v

namespace Prototype

variable {source : Source} {p : Json} {q : Prototype}

theorem marker_ofJson {v : Json} (h : v.NamesDistinct) : marker (.ofJson v) = .ok ⟨v.isTruthy⟩ := by
  rw [marker, whole_ofJson h]
  rfl

theorem readsField_marker : ReadsField take "isReactComponent" id marker := by
  refine .of_readField (fun _ ↦ rfl) (fun _ _ ↦ rfl) fun seen n d seen' hn h ↦ ?_
  rw [take, if_neg hn] at h
  obtain ⟨-, -, hseen⟩ := bind_eq_ok.1 h
  exact (Except.ok.inj hseen).symm

theorem isReactComponent_of_fields {fields : List (String × Json)}
    (hfields : ∀ e ∈ fields, e.2.NamesDistinct)
    (h : decodeFields none (Document.ofEntries fields) = .ok q) :
    q.isReactComponent = true ↔ ∃ v, ("isReactComponent", v) ∈ fields ∧ v.isTruthy = true := by
  have hfold := foldlM_entries (fun seen ↦ by rw [decodeFields])
    (fun seen d es ↦ by rw [decodeFields]) decodeFields_cons none (Document.ofEntries fields)
  obtain ⟨seen, hseen, rfl⟩ := map_eq_ok.1 (hfold.symm.trans h)
  obtain ⟨hin, hout⟩ := readsField_marker.foldlM hseen
  have hmarked (v : Json) (hv : ("isReactComponent", v) ∈ fields) : seen = some ⟨v.isTruthy⟩ := by
    obtain ⟨-, a, ha, hget⟩ := hin (.ofJson v) (Document.mem_ofEntries.2 ⟨v, hv, rfl⟩)
    rw [marker_ofJson (hfields _ hv)] at ha
    exact hget.trans (congrArg some (Except.ok.inj ha).symm)
  constructor
  · intro htruthy
    by_cases habsent : ∃ v, ("isReactComponent", v) ∈ fields
    · obtain ⟨v, hv⟩ := habsent
      rw [hmarked v hv] at htruthy
      exact ⟨v, hv, htruthy⟩
    · have hnone : seen = none := hout fun d hd ↦ by
        obtain ⟨v, hv, -⟩ := Document.mem_ofEntries.1 hd
        exact habsent ⟨v, hv⟩
      rw [hnone] at htruthy
      cases htruthy
  · rintro ⟨v, hv, htruthy⟩
    rw [hmarked v hv]
    exact htruthy

theorem isReactComponent_of_decode (hp : p.NamesDistinct)
    (h : decode source (.ofJson p) = .ok q) :
    q.isReactComponent = true ↔ ∃ v, p.HasMarker v ∧ v.isTruthy = true := by
  cases p with
  | object fields =>
    rw [Document.ofJson, decode] at h
    simp only [Json.hasMarker_object]
    exact isReactComponent_of_fields (Json.namesDistinct_object.1 hp).2 h
  | array items =>
    rcases items with _ | ⟨v, rest⟩
    · rw [Document.ofJson, Document.ofItems, decode] at h
      obtain rfl := Except.ok.inj h
      exact iff_of_false (by simp) (by rintro ⟨v, hv, -⟩; cases hv)
    · rw [Document.ofJson, Document.ofItems, decode,
        marker_ofJson (Json.namesDistinct_array.1 hp v (List.mem_cons_self ..))] at h
      cases rest with
      | nil =>
        obtain rfl := Except.ok.inj h
        simp only [Json.hasMarker_single, exists_eq_left]
      | cons w ws => cases h
  | null | bool | number | string =>
    simp only [Document.ofJson, decode] at h
    exact absurd ⟨q, h⟩ (not_succeeds_unexpected _ _)

end Prototype

namespace Component

theorem isReact_of_ofJson {entries : List (String × Json)} {c : Component}
    (hdistinct : (Json.object entries).NamesDistinct) (h : ofJson (.object entries) = .ok c) :
    c.isReact = true ↔
      ∃ p v, ("prototype", p) ∈ entries ∧ p.HasMarker v ∧ v.isTruthy = true := by
  have hvalues := (Json.namesDistinct_object.1 hdistinct).2
  obtain ⟨f, own, hf, rfl⟩ := decode_entries h
  have hfield := readsField_prototype .value
  simp only [isReact, ofFields, Option.any_eq_true, Option.join_eq_some_iff]
  constructor
  · rintro ⟨q, hq, htruthy⟩
    obtain ⟨d, hd, hread⟩ := hfield.of_foldlM hf rfl hq
    obtain ⟨p, hp, rfl⟩ := Document.mem_ofEntries.1 hd
    obtain ⟨v, hv⟩ :=
      (Prototype.isReactComponent_of_decode (hvalues _ hp) (nullable_eq_ok_some hread)).1 htruthy
    exact ⟨p, v, hp, hv⟩
  · rintro ⟨p, v, hp, hv⟩
    obtain ⟨-, a, hread, hget⟩ := (hfield.foldlM hf).1 _ (Document.mem_ofEntries.2 ⟨p, hp, rfl⟩)
    have hnull : p ≠ .null := by
      rintro rfl
      cases hv.1
    rw [nullable_ofJson _ hnull] at hread
    obtain ⟨q, hq, rfl⟩ := map_eq_ok.1 hread
    exact ⟨q, hget, (Prototype.isReactComponent_of_decode (hvalues _ hp) hq).2 ⟨v, hv⟩⟩

end Component

end Marker

/-- The default export is selected if it is present, whatever else the module exports; then the
export named like the file, whatever stands beside it, and only then the first one. A record is
made of the selected export if that is a component, and of nothing else. -/
theorem selects_named_slots_first (info : FileInfo) :
    (∀ m, (findExport m info = .error (.missingModule info.file) ↔ m = none) ∧
      (findExport m info = .error (.undetectable info.file) ↔
        ∃ a, m = some a ∧ a.exports.entries = []) ∧
      ∀ e, findExport m info = .error e →
        e = .missingModule info.file ∨ e = .undetectable info.file) ∧
    (∀ a b e, a.Offers "default" e → b.get? "default" = a.get? "default" →
      findExport (some a) info = .ok ("default", e) ∧
      findExport (some b) info = .ok ("default", e)) ∧
    (∀ a b e, a.Lacks "default" → a.Offers info.name e → b.Lacks "default" →
      b.get? info.name = a.get? info.name →
      findExport (some a) info = .ok (info.name, e) ∧
      findExport (some b) info = .ok (info.name, e)) ∧
    (∀ a x rest, a.Lacks "default" → a.Lacks info.name → a.exports.entries = x :: rest →
      findExport (some a) info = .ok x) ∧
    (∀ a name, findExport (some a) info = .ok (name, .empty) →
      a.Lacks "default" ∧ a.Lacks info.name) ∧
    (∀ m (s : Session σ),
      (∀ e, ((Record.find m info).perform s).1 = .error e ↔ findExport m info = .error e) ∧
      ∀ r, ((Record.find m info).perform s).1 = .ok (some r) ↔
        (∃ name, findExport m info = .ok (name, .component r.component)) ∧ m = some r.module ∧
        (r.style = .function ↔ r.component.isReact = true) ∧ r.name = info.name ∧
        r.group = if info.parent = "" then info.name else info.parent) ∧
    ∀ entries c, (Json.object entries).NamesDistinct → Component.ofJson (.object entries) = .ok c →
      (c.isReact = true ↔
        ∃ p v, ("prototype", p) ∈ entries ∧ p.HasMarker v ∧ v.isTruthy = true) := by
  refine ⟨fun m ↦ ?_, ?_, ?_, ?_, ?_, fun m s ↦ ⟨fun e ↦ find_eq_error_iff, fun r ↦ isRecord_iff⟩,
    fun entries c ↦ Component.isReact_of_ofJson⟩
  · refine ⟨?_, ?_, fun e he ↦ ?_⟩
    · simp [findExport_eq_error_iff]
    · simp [findExport_eq_error_iff]
    · exact (findExport_eq_error_iff.1 he).imp And.right fun ⟨_, _, _, h⟩ ↦ h
  · rintro a b e ⟨hget, hempty⟩ hb
    exact ⟨findExport_of_selects (.default ⟨hget, hempty⟩),
      findExport_of_selects (.default ⟨hb.trans hget, hempty⟩)⟩
  · rintro a b e ha ⟨hget, hempty⟩ hb hname
    exact ⟨findExport_of_selects (.named ha ⟨hget, hempty⟩),
      findExport_of_selects (.named hb ⟨hname.trans hget, hempty⟩)⟩
  · intro a x rest hdefault hnamed hentries
    exact findExport_of_selects (.first hdefault hnamed (by rw [Module.first?, hentries]; rfl))
  · intro a name h
    cases findExport_eq_ok_iff.1 h with
    | default h => exact absurd rfl h.2
    | named hdefault h => exact absurd rfl h.2
    | first hdefault hnamed h => exact ⟨hdefault, hnamed⟩

/-- An empty default export stands first, and the file's name goes to a class or to nothing. -/
theorem empty_default_gives_way :
    let info : FileInfo := ⟨"Card", "", "Card.vue"⟩
    let entries := [("prototype", .object [("isReactComponent", .object [])])]
    let c : Component := { prototype := some ⟨true⟩ }
    let a : Module := ⟨.ofList [("default", .empty), ("Card", .component c)]⟩
    let b : Module := ⟨.ofList [("limit", .value (.bool true)), ("Card", .component c)]⟩
    let d : Module := ⟨.ofList [("Card", .empty), ("default", .component c)]⟩
    let e : Module := ⟨.ofList [("default", .empty), ("limit", .value (.bool true))]⟩
    findExport (some a) info = .ok ("Card", .component c) ∧
      findExport (some b) info = .ok ("Card", .component c) ∧
      findExport (some d) info = .ok ("default", .component c) ∧
      findExport (some e) info = .ok ("default", .empty) ∧
      ((Record.find (some a) info).perform (⟨(), []⟩ : Session Unit)).1 =
        .ok (some ⟨.function, "Card", "Card", c, a⟩) ∧
      Component.ofJson (.object entries) = .ok c ∧
      ∃ p v, ("prototype", p) ∈ entries ∧ p.HasMarker v ∧ v.isTruthy = true := by
  intro info entries c a b d e
  obtain ⟨-, hdefault, hnamed, hfirst, -, hfind, hmarker⟩ :=
    selects_named_slots_first (σ := Unit) info
  have hc : Component.ofJson (.object entries) = .ok c := rfl
  have ha : a.Lacks "default" := fun x hx ↦ (Option.some.inj hx).symm
  have hb : b.Lacks "default" := by
    intro x hx
    cases hx
  have he : e.Lacks "default" := fun x hx ↦ (Option.some.inj hx).symm
  have he' : e.Lacks "Card" := by
    intro x hx
    cases hx
  obtain ⟨hselected, hselected'⟩ := hnamed a b (.component c) ha ⟨rfl, by simp⟩ hb rfl
  refine ⟨hselected, hselected', (hdefault d d (.component c) ⟨rfl, by simp⟩ rfl).1,
    hfirst e _ _ he he' rfl, ((hfind _ _).2 _).2 ⟨⟨_, hselected⟩, rfl, ?_, rfl, rfl⟩, hc, ?_⟩
  · exact iff_of_true rfl rfl
  · exact (hmarker entries c (by simp [entries]) hc).1 rfl

end Showcase
