import Showcase.Proofs.ConfigFields

namespace Showcase

open Decoder

namespace Config

theorem map_mapJson {α : Type} {decode : Decoder α} {toJson : α → Json} {m : OrderedMap α}
    (h : m.All fun a ↦ decode (.ofJson (toJson a)) = .ok a) :
    map decode (.ofJson (mapJson toJson m)) = .ok m := by
  have hentries : (m.entries.map fun e ↦ (e.1, toJson e.2)).mapM
      (fun e ↦ (e.1, ·) <$> decode (.ofJson e.2)) = .ok m.entries := by
    rw [mapM_eq_ok, List.forall₂_map_left_iff, List.forall₂_same]
    intro e he
    rw [h e he]
    rfl
  rw [mapJson, map_ofJson, OrderedMap.map, hentries]
  exact congrArg Except.ok m.ofList_entries

/-- No value in the configuration has two entries of one name. -/
structure NamesDistinct (c : Config) : Prop where
  plugins : c.plugins.All Json.NamesDistinct
  defaults : c.defaults.All fun m ↦ m.All Json.NamesDistinct
  enums : c.enums.All fun m ↦ m.All fun e ↦ e.All Json.NamesDistinct

theorem namesDistinct_take {f f' : Fields} {name : String} {d : Document}
    (h : take f name d = .ok f') (hf : (ofFields f).NamesDistinct) :
    (ofFields f').NamesDistinct := by
  obtain ⟨hplugins, hdefaults, henums⟩ := hf
  rcases take_eq_ok h with ⟨-, -, a, ha, rfl⟩ | ⟨-, -, a, ha, rfl⟩ | ⟨-, -, a, ha, rfl⟩ |
    ⟨-, -, a, ha, rfl⟩ | ⟨-, -, rfl⟩
  · exact ⟨hplugins, hdefaults, henums⟩
  · exact ⟨all_of_map _ (fun _ _ ↦ namesDistinct_of_whole) ha, hdefaults, henums⟩
  · exact ⟨hplugins, all_of_map _ (fun _ _ ↦ all_of_map _ fun _ _ ↦ namesDistinct_of_whole) ha,
      henums⟩
  · exact ⟨hplugins, hdefaults, all_of_map _
      (fun _ _ ↦ all_of_map _ fun _ _ ↦ all_of_map _ fun _ _ ↦ namesDistinct_of_whole) ha⟩
  · exact ⟨hplugins, hdefaults, henums⟩

theorem namesDistinct_of_entries {entries : List (Option String × Document)} {f : Fields}
    (h : entries.foldlM (takeEntry take) {} = .ok f) : (ofFields f).NamesDistinct :=
  invariant_foldlM (P := fun f ↦ (ofFields f).NamesDistinct) (fun _ _ _ _ ↦ namesDistinct_take) h
    ⟨nofun, nofun, nofun⟩

/-- Whatever was read, be it a list, repeats no name, even where its text does. -/
theorem namesDistinct_of_decode {source : Source} {d : Document} {c : Config}
    (h : decode source d = .ok c) : c.NamesDistinct := by
  cases d with
  | object entries =>
    rw [decode_object] at h
    obtain ⟨f, hf, rfl⟩ := map_eq_ok.1 h
    exact namesDistinct_of_entries hf
  | array items =>
    rw [decode_array] at h
    obtain ⟨f', hf', rfl⟩ := map_eq_ok.1 h
    obtain ⟨f, hf, hlength⟩ := bind_eq_ok.1 hf'
    split at hlength
    · obtain rfl := Except.ok.inj hlength
      exact namesDistinct_of_entries hf
    · cases hlength
  | null | bool | number | string | unreadable | broken =>
    simp only [decode] at h
    exact absurd ⟨c, h⟩ (not_succeeds_unexpected _ _)

/-- The two differ at most in the order in which components and props are listed. -/
structure Same (c c' : Config) : Prop where
  schema : c'.schema = c.schema
  plugins : c'.plugins = c.plugins
  defaults : ∀ n, Option.Rel (fun m m' ↦ ∀ p, m'.get? p = m.get? p)
    (c.defaults.get? n) (c'.defaults.get? n)
  enums : ∀ n, Option.Rel (fun m m' ↦ ∀ p, m'.get? p = m.get? p)
    (c.enums.get? n) (c'.enums.get? n)

theorem Same.refl (c : Config) : c.Same c where
  schema := rfl
  plugins := rfl
  defaults n := by cases c.defaults.get? n <;> simp
  enums n := by cases c.enums.get? n <;> simp

end Config

theorem OrderedMap.All.of_same {α : Type} {P : α → Prop} {m m' : OrderedMap (OrderedMap α)}
    (h : m.All fun m ↦ m.All P)
    (hsame : ∀ n, Option.Rel (fun m m' ↦ ∀ p, m'.get? p = m.get? p) (m.get? n) (m'.get? n)) :
    m'.All fun m ↦ m.All P := by
  rw [all_iff_get?] at h ⊢
  intro n v' hv'
  have hrel := hsame n
  rw [hv'] at hrel
  cases hv : m.get? n with
  | none => rw [hv] at hrel; cases hrel
  | some v =>
    rw [hv] at hrel
    cases hrel with
    | some hget =>
      have hall := all_iff_get?.1 (h n v hv)
      exact all_iff_get?.2 fun p a ha ↦ hall p a ((hget p).symm.trans ha)

namespace Config

theorem Same.namesDistinct {c c' : Config} (hsame : c.Same c') (h : c.NamesDistinct) :
    c'.NamesDistinct where
  plugins := hsame.plugins ▸ h.plugins
  defaults := h.defaults.of_same hsame.defaults
  enums := h.enums.of_same hsame.enums

section Write

variable {c : Config}

theorem decodePlugins_mapJson {m : OrderedMap Json} (h : m.All Json.NamesDistinct) :
    decodePlugins (.ofJson (mapJson id m)) = .ok m :=
  map_mapJson fun e he ↦ whole_ofJson (h e he)

theorem decodeDefaults_mapJson {m : OrderedMap (OrderedMap Json)}
    (h : m.All fun m ↦ m.All Json.NamesDistinct) :
    decodeDefaults (.ofJson (mapJson (mapJson id) m)) = .ok m :=
  map_mapJson fun e he ↦ decodePlugins_mapJson (h e he)

theorem decodeEnums_mapJson {m : OrderedMap (OrderedMap Enumeration)}
    (h : m.All fun m ↦ m.All fun e ↦ e.All Json.NamesDistinct) :
    decodeEnums (.ofJson (mapJson (mapJson (mapJson id)) m)) = .ok m :=
  map_mapJson fun e he ↦ decodeDefaults_mapJson (h e he)

theorem decode_toJson (source : Source) (h : c.NamesDistinct) :
    decode source (.ofJson c.toJson) = .ok c := by
  obtain ⟨schema, plugins, defaults, enums⟩ := c
  have hplugins := decodePlugins_mapJson h.plugins
  have hdefaults := decodeDefaults_mapJson h.defaults
  have henums := decodeEnums_mapJson h.enums
  rw [toJson, Document.ofJson, decode]
  -- A missing schema is left out when it is written.
  cases schema with
  | none =>
    simp only [Option.map_none, Option.toList_none, List.nil_append, Document.ofEntries,
      decodeFields, hplugins, hdefaults, henums]
    rfl
  | some s =>
    simp only [Option.map_some, Option.toList_some, List.cons_append, List.nil_append,
      Document.ofEntries, decodeFields, hplugins, hdefaults, henums]
    rfl

/-- The configuration comes back from the object it is written as and from every text that is read as
that object. The written text itself need not be one: a reader of texts that rounds numbers or limits
how deep values nest may read it as another value, or not at all. -/
structure ReadsBack (c : Config) : Prop where
  value : ofJson c.toJson = .ok c
  text : ∀ text, Document.ofText Document.maxLevels text = (.ofJson c.toJson, true) →
    ofText text = .ok c

theorem NamesDistinct.readsBack (h : c.NamesDistinct) : c.ReadsBack where
  value := decode_toJson .value h
  text text htext := by
    rw [ofText, ofText_eq_ok_iff, htext]
    exact ⟨rfl, decode_toJson .text h⟩

end Write

theorem decodeSchema_eq_ok {d : Document} {s : String} :
    decodeSchema d = .ok (some s) ↔ d = .string s := by
  constructor
  · exact fun h ↦ string_eq_ok.1 (nullable_eq_ok_some h)
  · rintro rfl
    rfl

/-- The schema is the text in the entry of that name; null counts as no entry. -/
theorem schema_of_decode {source : Source} {entries : List (Option String × Document)} {c : Config}
    (h : decode source (.object entries) = .ok c) (s : String) :
    c.schema = some s ↔ (some "$schema", .string s) ∈ entries := by
  rw [decode_object] at h
  obtain ⟨f, hf, rfl⟩ := map_eq_ok.1 h
  constructor
  · intro hs
    obtain ⟨d, hd, hread⟩ := readsField_schema.of_foldlM hf rfl (Option.join_eq_some_iff.1 hs)
    exact decodeSchema_eq_ok.1 hread ▸ hd
  · intro hs
    obtain ⟨-, a, ha, hget⟩ := (readsField_schema.foldlM hf).1 _ hs
    obtain rfl := Except.ok.inj ha
    exact Option.join_eq_some_iff.2 hget

theorem names_toJson (c : Config) : ∃ es, c.toJson = .object es ∧
    (es.map Prod.fst = fieldNames ∨ es.map Prod.fst = fieldNames.tail) ∧
    ∀ v, ("$schema", v) ∈ es ↔ ∃ s, c.schema = some s ∧ v = .string s := by
  refine ⟨_, rfl, ?_, fun v ↦ ?_⟩
  · cases c.schema with
    | none => exact .inr rfl
    | some s => exact .inl rfl
  · cases c.schema with
    | none => simp
    | some s => simp

/-- A configuration comes back from what it is written as, in whatever order its components and props
are listed, and so does one that was read from any document. What is written of it has the schema
only if that was a text, and no field that was not known. -/
theorem reads_back :
    (∀ c c' : Config, c.NamesDistinct → c.Same c' → c'.ReadsBack) ∧
    (∀ source d c c', decode source d = .ok c → c.Same c' → c'.ReadsBack) ∧
    ∀ source entries c c', decode source (.object entries) = .ok c → c.Same c' →
      ∃ es, c'.toJson = .object es ∧
        (es.map Prod.fst = fieldNames ∨ es.map Prod.fst = fieldNames.tail) ∧
        ("$schema" ∈ es.map Prod.fst ↔ ∃ s, (some "$schema", .string s) ∈ entries) ∧
        ∀ v, ("$schema", v) ∈ es ↔ ∃ s, (some "$schema", .string s) ∈ entries ∧ v = .string s := by
  refine ⟨fun c c' h hsame ↦ (hsame.namesDistinct h).readsBack,
    fun source d c c' h hsame ↦ (hsame.namesDistinct (namesDistinct_of_decode h)).readsBack, ?_⟩
  intro source entries c c' h hsame
  obtain ⟨es, hes, hnames, hschema⟩ := c'.names_toJson
  have hentry (v : Json) :
      ("$schema", v) ∈ es ↔ ∃ s, (some "$schema", .string s) ∈ entries ∧ v = .string s := by
    simp only [hschema, hsame.schema, schema_of_decode h]
  refine ⟨es, hes, hnames, ?_, hentry⟩
  simp [hentry]

section TagFirst

def tagFirst : Config where
  plugins := .ofList [("dark", .null)]
  defaults := .ofList [("Tag", .ofList [("text", .null)]),
    ("Card", .ofList [("title", .string "Hi"), ("wide", .bool false)])]
  enums := .ofList [("Tag", .ofList [("size", .ofList [("S", .string "sm"), ("L", .null)])])]

def cardFirst : Config :=
  { tagFirst with
    defaults := .ofList
      [("Card", .ofList [("wide", .bool false), ("title", .string "Hi")]),
        ("Tag", .ofList [("text", .null)])] }

def writtenTagFirst : Json := .object
  [("plugins", .object [("dark", .null)]),
    ("defaults", .object [("Tag", .object [("text", .null)]),
      ("Card", .object [("title", .string "Hi"), ("wide", .bool false)])]),
    ("enums", .object [("Tag", .object [("size", .object [("S", .string "sm"), ("L", .null)])])])]

theorem ofText_writtenTagFirst :
    Document.ofText Document.maxLevels writtenTagFirst.text = (.ofJson writtenTagFirst, true) := by
  cbv

/-- The schema is not a text and one field is unknown. -/
def tagEntries : List (String × Json) :=
  [("enums", .object [("Tag", .object [("size", .object [("S", .string "sm"), ("L", .null)])])]),
    ("theme", .string "night"),
    ("$schema", .null),
    ("defaults", .object [("Tag", .object [("text", .null)]),
      ("Card", .object [("title", .string "Hi"), ("wide", .bool false)])]),
    ("plugins", .object [("dark", .null)])]

theorem same_cardFirst : tagFirst.Same cardFirst where
  schema := rfl
  plugins := rfl
  defaults n := by
    by_cases hcard : n = "Card"
    · subst hcard
      refine .some fun p ↦ ?_
      simp only [OrderedMap.get?_ofList, List.reverse_cons, List.reverse_nil, List.nil_append,
        List.cons_append, lookup_cons_eq, List.lookup_nil]
      split_ifs <;> simp_all
    · by_cases htag : n = "Tag"
      · subst htag
        exact .some fun p ↦ rfl
      · simp [tagFirst, cardFirst, OrderedMap.get?_ofList, lookup_cons_eq, hcard, htag]
  enums := (Same.refl tagFirst).enums

theorem tagFirst_reads_back :
    ofJson (.object tagEntries) = .ok tagFirst ∧ tagFirst.NamesDistinct ∧
      tagFirst.Same cardFirst ∧ cardFirst.ReadsBack ∧
      ofText tagFirst.toJson.text = .ok tagFirst ∧
      ∃ es, cardFirst.toJson = .object es ∧ "$schema" ∉ es.map Prod.fst := by
  have hread : decode .value (.object (Document.ofEntries tagEntries)) = .ok tagFirst := rfl
  have hnames : tagFirst.NamesDistinct := namesDistinct_of_decode hread
  have hback : tagFirst.ReadsBack := reads_back.2.1 _ _ _ _ hread (.refl _)
  obtain ⟨es, hes, -, hschema, -⟩ := reads_back.2.2 .value _ _ _ hread same_cardFirst
  refine ⟨hread, hnames, same_cardFirst, reads_back.1 _ _ hnames same_cardFirst,
    hback.text _ ofText_writtenTagFirst, es, hes, ?_⟩
  rw [hschema]
  rintro ⟨s, hs⟩
  simp [tagEntries, Document.ofEntries, Document.ofJson] at hs

end TagFirst

end Config

end Showcase
