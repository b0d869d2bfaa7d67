import Showcase.Proofs.ConfigFile

namespace Showcase.Config

open Decoder

/-- The items are values for the fields in their order; those of the last fields may be missing. -/
structure FitsInOrder (items : List Document) : Prop where
  length : items.length ≤ fields.length
  fit : ∀ p ∈ fields.zip items, p.1.2.Fits p.2

section Items

variable {items : List Document}

theorem names_zip (items : List Document) : (fieldNames.map some).zip items =
    (fields.zip items).map fun p ↦ (some p.1.1, p.2) := by
  have hnames : fieldNames.map some = fields.map fun f ↦ some f.1 := rfl
  rw [hnames, List.zip_map_left]
  rfl

theorem nodup_names_zip (items : List Document) :
    ((fields.zip items).map fun p ↦ p.1.1).Nodup := by
  have hfields : (fields.map Prod.fst).Nodup := by decide
  have hzip : (fields.zip items).map Prod.fst =
      fields.take (min fields.length items.length) := by
    rw [List.zip_eq_zip_take_min, List.map_fst_zip (by simp)]
  have hmap : ((fields.zip items).map fun p ↦ p.1.1) =
      ((fields.zip items).map Prod.fst).map Prod.fst := by rw [List.map_map]; rfl
  rw [hmap, hzip]
  exact hfields.sublist ((List.take_sublist _ _).map _)

/-- Each item is judged by the form of the field in its place. -/
theorem fitEntries_zip :
    FitEntries ((fieldNames.map some).zip items) ↔ ∀ p ∈ fields.zip items, p.1.2.Fits p.2 := by
  have hfield (p : (String × Form) × Document) (hp : p ∈ fields.zip items) :
      FitsField p.1.1 p.2 ↔ p.1.2.Fits p.2 := fitsField_known (List.of_mem_zip hp).1
  rw [names_zip]
  constructor
  · intro hfit p hp
    obtain ⟨name, hname, hfits⟩ := hfit.fit _ (List.mem_map_of_mem hp)
    obtain rfl := Option.some.inj hname
    exact (hfield p hp).1 hfits
  · intro hfit
    constructor
    · intro e he
      obtain ⟨p, hp, rfl⟩ := List.mem_map.1 he
      exact ⟨p.1.1, rfl, (hfield p hp).2 (hfit p hp)⟩
    · have hnames : ((fields.zip items).map fun p ↦ (some p.1.1, p.2)).filterMap Prod.fst =
          (fields.zip items).map fun p ↦ p.1.1 := by
        rw [List.filterMap_map]
        exact congrFun List.filterMap_eq_map (fields.zip items)
      rw [hnames]
      exact (nodup_names_zip items).filter _

theorem fits_array : Fits (.array items) ↔ FitsInOrder items := by
  have hlength : fieldNames.length = fields.length := rfl
  simp only [Fits, entries?, hlength]
  split
  · next h =>
    simp only [Option.some_inj, exists_eq_left', fitEntries_zip]
    exact ⟨fun hfit ↦ ⟨h, hfit⟩, fun hfit ↦ hfit.fit⟩
  · next h => exact iff_of_false (by simp) fun hfit ↦ h hfit.length

/-- A list that is not too long is read as the object whose entries have the names of the fields. -/
theorem decode_array_eq_object (source : Source) (h : items.length ≤ fields.length) :
    decode source (.array items) = decode source (.object ((fieldNames.map some).zip items)) := by
  have hlength : items.length ≤ fieldNames.length := h
  rw [decode_array, decode_object]
  simp only [if_pos hlength, bind_pure]

theorem not_fits_of_no_container {d : Document} (hobject : ∀ entries, d ≠ .object entries)
    (harray : ∀ items, d ≠ .array items) : ¬ Fits d := by
  intro ⟨entries, hentries, _⟩
  cases d with
  | object entries => exact hobject entries rfl
  | array items => exact harray items rfl
  | null | bool | number | string | unreadable | broken => cases hentries

end Items

/-- A configuration that is no object may still be the list of its fields: it is then used like the
object with these fields and nothing is logged. Anything else that is no object, be it another list
or no list at all, counts as malformed: it is logged once and leaves the empty configuration. -/
theorem only_listed_fields_replace_object (wording : Wording) (path : String) {file : FileContent}
    {text : String} {d : Document} (htext : file.text? = some text)
    (hd : Document.ofText Document.maxLevels text = (d, true))
    (hobject : ∀ entries, d ≠ .object entries) :
    (∀ items, d = .array items → FitsInOrder items → ∃ c,
      decode .text (.object ((fieldNames.map some).zip items)) = .ok c ∧ ofText text = .ok c ∧
      LoadsTo wording path file (.ok (some c)) c []) ∧
    ((∀ items, d = .array items → ¬ FitsInOrder items) →
      IsMalformed wording path file text) := by
  constructor
  · intro items hitems hfit
    subst hitems
    obtain ⟨c, hc⟩ := succeeds_decode.2 (fits_array.2 hfit)
    have hread : ofText text = .ok c := ofText_of_decode hd hc
    rw [decode_array_eq_object .text hfit.length] at hc
    exact ⟨c, hc, hread, loadsTo_ok (read_ok htext hread)⟩
  · intro hlist
    have hbad : ¬ Succeeds (ofText text) := by
      intro hgood
      have hfits : Fits d := by
        have h := (succeeds_ofText.1 hgood).2
        rwa [hd] at h
      by_cases harray : ∃ items, d = .array items
      · obtain ⟨items, rfl⟩ := harray
        exact hlist items rfl (fits_array.1 hfits)
      · exact not_fits_of_no_container hobject (not_exists.1 harray) hfits
    exact isMalformed_of_not_succeeds htext hbad

section ThemeFile

/-- A list with the plugins in the second place. -/
def themeText : String := "[null, \x7b\"theme\": \"dark\"\x7d]"

def themeItems : List Document := [.null, .object [(some "theme", .string "dark")]]

def themeConfig : Config := { plugins := .ofList [("theme", .string "dark")] }

/-- A list of the same two values the other way round. -/
def turnedText : String := "[\x7b\"theme\": \"dark\"\x7d, null]"

/-- The reader stops at the object that stands for the schema, and at the end of a lone null. -/
def themeWords : Wording := fun text _ ↦
  if text = turnedText then "invalid type: map, expected a string at line 1 column 1"
  else "invalid type: null, expected struct DocentConfig at line 1 column 4"

theorem ofText_themeText :
    Document.ofText Document.maxLevels themeText = (.array themeItems, true) := by cbv

theorem themeItems_fit : FitsInOrder themeItems where
  length := by decide
  fit p hp := by
    have hplaces : fields.zip themeItems = [(("$schema", .text), .null),
        (("plugins", .map .value), .object [(some "theme", .string "dark")])] := rfl
    have hvalue : Form.value.Fits (.string "dark") := succeeds_whole.1 ⟨.string "dark", rfl⟩
    rw [hplaces, List.mem_pair] at hp
    rcases hp with rfl | rfl
    · exact .inl rfl
    · exact ⟨_, rfl, List.forall_mem_singleton.2 ⟨"theme", rfl, hvalue⟩⟩

theorem reverse_themeItems_misfit : ¬ FitsInOrder themeItems.reverse := by
  intro hfit
  have hschema := hfit.fit (("$schema", .text), .object [(some "theme", .string "dark")])
    (List.mem_cons_self ..)
  simp [Form.Fits] at hschema

theorem theme_listed :
    LoadsTo themeWords "docent.json" (.bytes themeText.toUTF8) (.ok (some themeConfig)) themeConfig
      [] ∧
    IsMalformed themeWords "docent.json" (.bytes turnedText.toUTF8) turnedText ∧
    IsMalformed themeWords "docent.json" (.bytes "null".toUTF8) "null" := by
  have hturned : Document.ofText Document.maxLevels turnedText =
      (.array themeItems.reverse, true) := by cbv
  have hnull : Document.ofText Document.maxLevels "null" = (.null, true) := by cbv
  obtain ⟨hlisted, -⟩ := only_listed_fields_replace_object themeWords "docent.json"
    (FileContent.text?_toUTF8 themeText) ofText_themeText (by simp)
  obtain ⟨-, hmisfit⟩ := only_listed_fields_replace_object themeWords "docent.json"
    (FileContent.text?_toUTF8 turnedText) hturned (by simp)
  obtain ⟨-, hscalar⟩ := only_listed_fields_replace_object themeWords "docent.json"
    (FileContent.text?_toUTF8 "null") hnull (by simp)
  have hbad (items : List Document) (h : Document.array themeItems.reverse = .array items) :
      ¬ FitsInOrder items := by
    obtain rfl := Document.array.inj h
    exact reverse_themeItems_misfit
  obtain ⟨c, hc, -, hload⟩ := hlisted themeItems rfl themeItems_fit
  obtain rfl : themeConfig = c := Except.ok.inj hc
  exact ⟨hload, hmisfit hbad, hscalar (by simp)⟩

/-- A list can pass for a configuration. -/
theorem list_is_accepted : ¬ ∀ (wording : Wording) (path : String) (file : FileContent)
    (text : String) (d : Document), file.text? = some text →
    Document.ofText Document.maxLevels text = (d, true) → (∀ entries, d ≠ .object entries) →
    IsMalformed wording path file text := by
  intro h
  obtain ⟨e, he, -⟩ := h themeWords "docent.json" (.bytes themeText.toUTF8) themeText
    (.array themeItems) (FileContent.text?_toUTF8 themeText) ofText_themeText (by simp)
  have hread : ofText themeText = .ok themeConfig := ofText_of_decode ofText_themeText rfl
  rw [hread] at he
  cases he

end ThemeFile

end Showcase.Config
