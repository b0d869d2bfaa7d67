import Showcase.Proofs.ConfigFields

namespace Showcase

open Decoder

/-- What a field may hold: a text or null, any value, or a map into one form. -/
inductive Form
  | text
  | value
  | map (f : Form)

namespace Form

def Fits : Form → Document → Prop
  | text, d => d = .null ∨ ∃ s, d = .string s
  | value, d => ¬ d.Spoilt
  | map f, d => d.IsMap f.Fits

/-- At one place, however deep, the document is not of the form. -/
inductive Misfit : Form → Document → Prop
  | text {d : Document} (notNull : d ≠ .null) (notString : ∀ s, d ≠ .string s) : Misfit text d
  | value {d : Document} (spoilt : d.Spoilt) : Misfit value d
  | kind {f : Form} {d : Document} (notObject : ∀ entries, d ≠ .object entries) : Misfit (map f) d
  | name {f : Form} {entries : List (Option String × Document)} {e : Option String × Document}
    (mem : e ∈ entries) (nameless : e.1 = none) : Misfit (map f) (.object entries)
  | entry {f : Form} {entries : List (Option String × Document)} {e : Option String × Document}
    (mem : e ∈ entries) (misfit : Misfit f e.2) : Misfit (map f) (.object entries)

theorem misfit_iff {f : Form} {d : Document} : f.Misfit d ↔ ¬ f.Fits d := by
  induction f generalizing d with
  | text =>
    rw [Fits, not_or, not_exists]
    exact ⟨fun | .text hnull hstring => ⟨hnull, hstring⟩, fun h ↦ .text h.1 h.2⟩
  | value =>
    rw [Fits, not_not]
    exact ⟨fun | .value h => h, .value⟩
  | map f ih =>
    rw [Fits, Document.not_isMap]
    constructor
    · intro h
      cases h with
      | kind hkind => exact .inl hkind
      | name he hname => exact .inr ⟨_, rfl, _, he, .inl hname⟩
      | entry he hmisfit => exact .inr ⟨_, rfl, _, he, .inr (ih.1 hmisfit)⟩
    · rintro (hkind | ⟨entries, rfl, e, he, hname | hfits⟩)
      · exact .kind hkind
      · exact .name he hname
      · exact .entry he (ih.2 hfits)

end Form

namespace Config

def fields : List (String × Form) :=
  [("$schema", .text), ("plugins", .map .value), ("defaults", .map (.map .value)),
    ("enums", .map (.map (.map .value)))]

/-- What one entry may hold. The value of an unknown field is not looked at, but it must end. -/
structure FitsField (name : String) (d : Document) : Prop where
  known : ∀ f, (name, f) ∈ fields → f.Fits d
  unknown : name ∉ fieldNames → d.isIntact = true

theorem mem_fieldNames {name : String} {f : Form} (h : (name, f) ∈ fields) : name ∈ fieldNames :=
  List.mem_map_of_mem (f := Prod.fst) h

theorem fitsField_known {name : String} {f : Form} {d : Document} (h : (name, f) ∈ fields) :
    FitsField name d ↔ f.Fits d := by
  refine ⟨fun hfits ↦ hfits.known f h, fun hfits ↦ ⟨fun g hg ↦ ?_, fun hname ↦ ?_⟩⟩
  · -- No field is listed twice, so its name has one form.
    have hsame : (name, g) = (name, f) :=
      List.inj_on_of_nodup_map (f := Prod.fst) (by decide : (fields.map Prod.fst).Nodup) hg h rfl
    rw [(Prod.mk.inj hsame).2]
    exact hfits
  · exact absurd (mem_fieldNames h) hname

theorem fitsField_unknown {name : String} {d : Document} (h : name ∉ fieldNames) :
    FitsField name d ↔ d.isIntact = true :=
  ⟨fun hfits ↦ hfits.unknown h, fun hd ↦ ⟨fun _ hf ↦ absurd (mem_fieldNames hf) h, fun _ ↦ hd⟩⟩

/-- The entries of a configuration. An unknown field may be repeated. -/
structure FitEntries (entries : List (Option String × Document)) : Prop where
  fit : ∀ e ∈ entries, ∃ name, e.1 = some name ∧ FitsField name e.2
  once : ((entries.filterMap Prod.fst).filter (· ∈ fieldNames)).Nodup

/-- The entries of a configuration. It may be the list of its fields, of which the last may be
missing. -/
def entries? : Document → Option (List (Option String × Document))
  | .object entries => some entries
  | .array items =>
    if items.length ≤ fieldNames.length then some ((fieldNames.map some).zip items) else none
  | _ => none

def Fits (d : Document) : Prop := ∃ entries, entries? d = some entries ∧ FitEntries entries

theorem not_fits_of_misfit {d v : Document} {entries : List (Option String × Document)}
    {name : String} {f : Form} (hentries : entries? d = some entries)
    (hv : (some name, v) ∈ entries) (hf : (name, f) ∈ fields) (hmisfit : f.Misfit v) : ¬ Fits d := by
  rintro ⟨es, hes, hfit⟩
  obtain rfl := Option.some.inj (hes.symm.trans hentries)
  obtain ⟨n, hn, hfits⟩ := hfit.fit _ hv
  obtain rfl := Option.some.inj hn
  exact Form.misfit_iff.1 hmisfit (hfits.known f hf)

theorem succeeds_whole {d : Document} : Succeeds (whole d) ↔ Form.value.Fits d := by
  rw [Form.Fits, ← Document.toJson?_eq_none, whole]
  cases d.toJson? with
  | none => exact iff_of_false (not_succeeds_error _) (not_not_intro rfl)
  | some v => exact iff_of_true (succeeds_ok v) (by simp)

theorem succeeds_decodeSchema {d : Document} : Succeeds (decodeSchema d) ↔ Form.text.Fits d := by
  by_cases hnull : d = .null
  · subst hnull
    exact iff_of_true (succeeds_ok none) (.inl rfl)
  · rw [decodeSchema, nullable_of_ne_null string hnull, succeeds_map, Form.Fits, or_iff_right hnull]
    simp only [Succeeds, string_eq_ok]

theorem succeeds_decodePlugins {d : Document} :
    Succeeds (decodePlugins d) ↔ (Form.map .value).Fits d := by
  simp only [decodePlugins, succeeds_map_iff, succeeds_whole, Form.Fits]

theorem succeeds_decodeDefaults {d : Document} :
    Succeeds (decodeDefaults d) ↔ (Form.map (.map .value)).Fits d := by
  simp only [decodeDefaults, succeeds_map_iff, succeeds_whole, Form.Fits]

theorem succeeds_decodeEnums {d : Document} :
    Succeeds (decodeEnums d) ↔ (Form.map (.map (.map .value))).Fits d := by
  simp only [decodeEnums, succeeds_map_iff, succeeds_whole, Form.Fits]

def Fields.Met (f : Fields) (name : String) : Prop :=
  (name = "$schema" ∧ f.schema ≠ none) ∨ (name = "plugins" ∧ f.plugins ≠ none) ∨
    (name = "defaults" ∧ f.defaults ≠ none) ∨ (name = "enums" ∧ f.enums ≠ none)

theorem succeeds_skip {d : Document} : Succeeds (skip d) ↔ d.isIntact = true := by
  rw [skip]
  split
  · next h => exact iff_of_true (succeeds_ok ()) h
  · next h => exact iff_of_false (not_succeeds_error _) h

theorem succeeds_take (f : Fields) (name : String) (d : Document) :
    Succeeds (take f name d) ↔ ¬ f.Met name ∧ FitsField name d := by
  rw [take]
  split_ifs with h₁ h₂ h₃ h₄
  · subst h₁
    rw [succeeds_readField, succeeds_decodeSchema, fitsField_known (f := .text) (by simp [fields])]
    simp [Fields.Met]
  · subst h₂
    rw [succeeds_readField, succeeds_decodePlugins,
      fitsField_known (f := .map .value) (by simp [fields])]
    simp [Fields.Met]
  · subst h₃
    rw [succeeds_readField, succeeds_decodeDefaults,
      fitsField_known (f := .map (.map .value)) (by simp [fields])]
    simp [Fields.Met]
  · subst h₄
    rw [succeeds_readField, succeeds_decodeEnums,
      fitsField_known (f := .map (.map (.map .value))) (by simp [fields])]
    simp [Fields.Met]
  · have hnew : ¬ f.Met name := by simp [Fields.Met, h₁, h₂, h₃, h₄]
    rw [fitsField_unknown (by simp [fieldNames, h₁, h₂, h₃, h₄]), ← succeeds_skip, succeeds_bind]
    constructor
    · rintro ⟨u, hu, -⟩
      exact ⟨hnew, u, hu⟩
    · rintro ⟨-, u, hu⟩
      exact ⟨u, hu, succeeds_ok f⟩

theorem met_take (f : Fields) (name : String) (d : Document) (f' : Fields) (n : String)
    (h : take f name d = .ok f') :
    f'.Met n ↔ f.Met n ∨ (n = name ∧ decide (name ∈ fieldNames) = true) := by
  rcases take_eq_ok h with ⟨rfl, -, a, -, rfl⟩ | ⟨rfl, -, a, -, rfl⟩ | ⟨rfl, -, a, -, rfl⟩ |
    ⟨rfl, -, a, -, rfl⟩ | ⟨hname, -, rfl⟩
  · grind [Fields.Met, fieldNames]
  · grind [Fields.Met, fieldNames]
  · grind [Fields.Met, fieldNames]
  · grind [Fields.Met, fieldNames]
  · simp [hname]

theorem succeeds_entries {entries : List (Option String × Document)} :
    Succeeds (entries.foldlM (takeEntry take) {}) ↔ FitEntries entries := by
  rw [succeeds_foldlM_entries (· ∈ fieldNames) Fields.Met succeeds_take met_take]
  have hnew (name : String) : ¬ Fields.Met {} name := by simp [Fields.Met]
  simp only [hnew, not_false_eq_true, true_and]
  exact ⟨fun h ↦ ⟨h.1, h.2⟩, fun h ↦ ⟨h.fit, h.once⟩⟩

theorem succeeds_decode {source : Source} {d : Document} :
    Succeeds (decode source d) ↔ Fits d := by
  cases d with
  | object entries =>
    rw [decode_object, succeeds_map, succeeds_entries]
    simp [Fits, entries?]
  | array items =>
    rw [decode_array, succeeds_map, succeeds_bind]
    by_cases hlength : items.length ≤ fieldNames.length
    · simp only [Fits, entries?, if_pos hlength, Option.some_inj, exists_eq_left',
        ← succeeds_entries]
      exact ⟨fun ⟨f, hf, _⟩ ↦ ⟨f, hf⟩, fun ⟨f, hf⟩ ↦ ⟨f, hf, succeeds_ok f⟩⟩
    · simp only [Fits, entries?, if_neg hlength]
      exact iff_of_false (fun ⟨_, _, h⟩ ↦ not_succeeds_error _ h) (by simp)
  | null | bool | number | string | unreadable | broken =>
    simp only [decode]
    exact iff_of_false (not_succeeds_unexpected _ _) (by simp [Fits, entries?])

theorem succeeds_ofText {text : String} :
    Succeeds (ofText text) ↔ (Document.ofText Document.maxLevels text).2 = true ∧
      Fits (Document.ofText Document.maxLevels text).1 := by
  rw [ofText, Succeeds]
  simp only [ofText_eq_ok_iff, exists_and_left]
  exact and_congr_right fun _ ↦ succeeds_decode

end Config

end Showcase
