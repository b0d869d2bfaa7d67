import Showcase.Json.Shape
import Showcase.Proofs.OrderedMap

namespace Showcase

namespace Json

@[elab_as_elim] theorem inductionOn {P : Json → Prop} (v : Json) (null : P .null)
    (bool : ∀ b, P (.bool b)) (number : ∀ n, P (.number n)) (string : ∀ s, P (.string s))
    (array : ∀ items, (∀ v ∈ items, P v) → P (.array items))
    (object : ∀ entries, (∀ e ∈ entries, P e.2) → P (.object entries)) : P v :=
  Json.rec (motive_1 := P) (motive_2 := fun items ↦ ∀ v ∈ items, P v)
    (motive_3 := fun entries ↦ ∀ e ∈ entries, P e.2) (motive_4 := fun e ↦ P e.2)
    null bool number string array object
    (fun _ h ↦ absurd h List.not_mem_nil)
    (fun _ _ hv hvs w hw ↦ (List.mem_cons.1 hw).elim (fun h ↦ h ▸ hv) (hvs w))
    (fun _ h ↦ absurd h List.not_mem_nil)
    (fun _ _ he hes e' he' ↦ (List.mem_cons.1 he').elim (fun h ↦ h ▸ he) (hes e'))
    (fun _ _ h ↦ h) v

/-- No object in the value has two entries of one name. Only a text may repeat a name; a value
that has been read does not. -/
inductive NamesDistinct : Json → Prop
  | null : NamesDistinct .null
  | bool (b : Bool) : NamesDistinct (.bool b)
  | number (n : Number) : NamesDistinct (.number n)
  | string (s : String) : NamesDistinct (.string s)
  | array {items : List Json} (h : ∀ v ∈ items, NamesDistinct v) : NamesDistinct (.array items)
  | object {entries : List (String × Json)} (names : (entries.map Prod.fst).Nodup)
      (h : ∀ e ∈ entries, NamesDistinct e.2) : NamesDistinct (.object entries)

@[simp] theorem namesDistinct_array {items : List Json} :
    (array items).NamesDistinct ↔ ∀ v ∈ items, v.NamesDistinct :=
  ⟨fun | .array h => h, .array⟩

@[simp] theorem namesDistinct_object {entries : List (String × Json)} :
    (object entries).NamesDistinct ↔
      (entries.map Prod.fst).Nodup ∧ ∀ e ∈ entries, e.2.NamesDistinct :=
  ⟨fun | .object names h => ⟨names, h⟩, fun h ↦ .object h.1 h.2⟩

section Replace

variable {v v' : Json} (us ws : List Json) (es fs : List (String × Json)) {name : String}

theorem NamesDistinct.item (h : NamesDistinct (.array (us ++ v :: ws))) : v.NamesDistinct :=
  namesDistinct_array.1 h v (List.mem_append_right _ (List.mem_cons_self ..))

theorem NamesDistinct.entry (h : NamesDistinct (.object (es ++ (name, v) :: fs))) :
    v.NamesDistinct :=
  (namesDistinct_object.1 h).2 (name, v) (List.mem_append_right _ (List.mem_cons_self ..))

theorem NamesDistinct.replaceItem (h : NamesDistinct (.array (us ++ v :: ws)))
    (hv' : v'.NamesDistinct) : NamesDistinct (.array (us ++ v' :: ws)) := by
  rw [namesDistinct_array, List.forall_mem_append, List.forall_mem_cons] at h ⊢
  exact ⟨h.1, hv', h.2.2⟩

theorem NamesDistinct.replaceEntry (h : NamesDistinct (.object (es ++ (name, v) :: fs)))
    (hv' : v'.NamesDistinct) : NamesDistinct (.object (es ++ (name, v') :: fs)) := by
  rw [namesDistinct_object, List.forall_mem_append, List.forall_mem_cons] at h ⊢
  exact ⟨by simpa using h.1, h.2.1, hv', h.2.2.2⟩

end Replace

end Json

namespace Document

theorem ofItems_eq_map (items : List Json) : ofItems items = items.map ofJson := by
  induction items with
  | nil => rfl
  | cons v vs ih => rw [ofItems, ih, List.map_cons]

theorem ofEntries_eq_map (entries : List (String × Json)) :
    ofEntries entries = entries.map fun e ↦ (some e.1, ofJson e.2) := by
  induction entries with
  | nil => rfl
  | cons e es ih => rw [ofEntries, ih, List.map_cons]

theorem mem_ofEntries {entries : List (String × Json)} {name : String} {d : Document} :
    (some name, d) ∈ ofEntries entries ↔ ∃ v, (name, v) ∈ entries ∧ d = ofJson v := by
  simp [ofEntries_eq_map, eq_comm]

theorem itemsToJson?_ofItems {items : List Json} (h : ∀ v ∈ items, (ofJson v).toJson? = some v) :
    itemsToJson? (ofItems items) = some items := by
  induction items with
  | nil => rfl
  | cons v vs ih =>
    rw [ofItems, itemsToJson?, h v (List.mem_cons_self ..),
      ih fun w hw ↦ h w (List.mem_cons_of_mem _ hw)]
    rfl

theorem entriesToJson?_ofEntries {entries : List (String × Json)}
    (h : ∀ e ∈ entries, (ofJson e.2).toJson? = some e.2) :
    entriesToJson? (ofEntries entries) = some entries := by
  induction entries with
  | nil => rfl
  | cons e es ih =>
    rw [ofEntries, entriesToJson?, h e (List.mem_cons_self ..),
      ih fun e' he' ↦ h e' (List.mem_cons_of_mem _ he')]
    rfl

theorem toJson?_ofJson {v : Json} (h : v.NamesDistinct) : (ofJson v).toJson? = some v := by
  induction h with
  | null | bool | number | string => rfl
  | array h ih => rw [ofJson, toJson?, itemsToJson?_ofItems ih, Option.map_some]
  | object names h ih =>
    rw [ofJson, toJson?, entriesToJson?_ofEntries ih, Option.map_some, mergeEntries_of_nodup names]

theorem isIntact_ofJson (v : Json) : (ofJson v).isIntact = true := by
  induction v using Json.inductionOn with
  | null | bool | number | string => rfl
  | array items ih =>
    rw [ofJson, isIntact]
    induction items with
    | nil => rfl
    | cons v vs ihs =>
      rw [ofItems, itemsIntact, ih v (List.mem_cons_self ..),
        ihs fun w hw ↦ ih w (List.mem_cons_of_mem _ hw)]
      rfl
  | object entries ih =>
    rw [ofJson, isIntact]
    induction entries with
    | nil => rfl
    | cons e es ihs =>
      rw [ofEntries, entriesIntact, ih e (List.mem_cons_self ..),
        ihs fun e' he' ↦ ih e' (List.mem_cons_of_mem _ he')]
      rfl

@[elab_as_elim] theorem inductionOn {P : Document → Prop} (d : Document) (null : P .null)
    (bool : ∀ b, P (.bool b)) (number : ∀ n, P (.number n)) (string : ∀ s, P (.string s))
    (array : ∀ items, (∀ d ∈ items, P d) → P (.array items))
    (object : ∀ entries, (∀ e ∈ entries, P e.2) → P (.object entries))
    (unreadable : P .unreadable) (broken : P .broken) : P d :=
  Document.rec (motive_1 := P) (motive_2 := fun items ↦ ∀ d ∈ items, P d)
    (motive_3 := fun entries ↦ ∀ e ∈ entries, P e.2) (motive_4 := fun e ↦ P e.2)
    null bool number string array object unreadable broken
    (fun _ h ↦ absurd h List.not_mem_nil)
    (fun _ _ hd hds d' hd' ↦ (List.mem_cons.1 hd').elim (fun h ↦ h ▸ hd) (hds d'))
    (fun _ h ↦ absurd h List.not_mem_nil)
    (fun _ _ he hes e' he' ↦ (List.mem_cons.1 he').elim (fun h ↦ h ▸ he) (hes e'))
    (fun _ _ h ↦ h) d

theorem all_of_itemsToJson? {P : Json → Prop} {items : List Document} {vs : List Json}
    (hitems : ∀ d ∈ items, ∀ v, d.toJson? = some v → P v) (h : itemsToJson? items = some vs) :
    ∀ v ∈ vs, P v := by
  induction items generalizing vs with
  | nil =>
    obtain rfl := Option.some.inj h
    exact nofun
  | cons d ds ih =>
    rw [List.forall_mem_cons] at hitems
    obtain ⟨v, hv, hrest⟩ := Option.bind_eq_some_iff.1 h
    obtain ⟨ws, hws, hcons⟩ := Option.bind_eq_some_iff.1 hrest
    obtain rfl := Option.some.inj hcons
    exact List.forall_mem_cons.2 ⟨hitems.1 v hv, ih hitems.2 hws⟩

theorem all_of_entriesToJson? {P : Json → Prop} {entries : List (Option String × Document)}
    {es : List (String × Json)} (hentries : ∀ e ∈ entries, ∀ v, e.2.toJson? = some v → P v)
    (h : entriesToJson? entries = some es) : ∀ e ∈ es, P e.2 := by
  induction entries generalizing es with
  | nil =>
    obtain rfl := Option.some.inj h
    exact nofun
  | cons e entries ih =>
    rw [List.forall_mem_cons] at hentries
    obtain ⟨name, -, hrest⟩ := Option.bind_eq_some_iff.1 h
    obtain ⟨v, hv, hrest⟩ := Option.bind_eq_some_iff.1 hrest
    obtain ⟨fs, hfs, hcons⟩ := Option.bind_eq_some_iff.1 hrest
    obtain rfl := Option.some.inj hcons
    exact List.forall_mem_cons.2 ⟨hentries.1 v hv, ih hentries.2 hfs⟩

/-- A value that was read repeats no name, even where its text does. -/
theorem namesDistinct_of_toJson? {d : Document} {v : Json} (h : d.toJson? = some v) :
    v.NamesDistinct := by
  induction d using Document.inductionOn generalizing v with
  | null => obtain rfl := Option.some.inj h; exact .null
  | bool b => obtain rfl := Option.some.inj h; exact .bool b
  | number n => obtain rfl := Option.some.inj h; exact .number n
  | string s => obtain rfl := Option.some.inj h; exact .string s
  | array items ih =>
    obtain ⟨vs, hvs, rfl⟩ := Option.map_eq_some_iff.1 h
    exact .array (all_of_itemsToJson? (fun d hd v hv ↦ ih d hd hv) hvs)
  | object entries ih =>
    obtain ⟨es, hes, rfl⟩ := Option.map_eq_some_iff.1 h
    have hvalues := all_of_entriesToJson? (fun e he v hv ↦ ih e he hv) hes
    rw [← OrderedMap.entries_ofList]
    exact .object (OrderedMap.ofList es).keys_nodup (OrderedMap.all_ofList hvalues)
  | unreadable | broken => cases h

theorem itemsToJson?_eq_none {items : List Document} :
    itemsToJson? items = none ↔ ∃ d ∈ items, d.toJson? = none := by
  induction items with
  | nil => simp [itemsToJson?]
  | cons d ds ih =>
    rw [itemsToJson?, List.exists_mem_cons_iff, ← ih]
    cases d.toJson? with
    | none => simp
    | some v => cases itemsToJson? ds <;> simp

theorem entriesToJson?_eq_none {entries : List (Option String × Document)} :
    entriesToJson? entries = none ↔ ∃ e ∈ entries, e.1 = none ∨ e.2.toJson? = none := by
  induction entries with
  | nil => simp [entriesToJson?]
  | cons e es ih =>
    rw [entriesToJson?, List.exists_mem_cons_iff, ← ih]
    cases e.1 with
    | none => simp
    | some name =>
      cases e.2.toJson? with
      | none => simp
      | some v => cases entriesToJson? es <;> simp

/-- Somewhere in the value the text is not JSON or cannot be held. -/
inductive Spoilt : Document → Prop
  | unreadable : Spoilt .unreadable
  | broken : Spoilt .broken
  | item {items : List Document} {d : Document} (mem : d ∈ items) (spoilt : Spoilt d) :
    Spoilt (.array items)
  | name {entries : List (Option String × Document)} {e : Option String × Document}
    (mem : e ∈ entries) (nameless : e.1 = none) : Spoilt (.object entries)
  | entry {entries : List (Option String × Document)} {e : Option String × Document}
    (mem : e ∈ entries) (spoilt : Spoilt e.2) : Spoilt (.object entries)

theorem toJson?_eq_none {d : Document} : d.toJson? = none ↔ d.Spoilt := by
  induction d using Document.inductionOn with
  | null | bool | number | string => exact iff_of_false nofun nofun
  | unreadable => exact iff_of_true rfl .unreadable
  | broken => exact iff_of_true rfl .broken
  | array items ih =>
    rw [toJson?, Option.map_eq_none_iff, itemsToJson?_eq_none]
    constructor
    · rintro ⟨d, hd, hnone⟩
      exact .item hd ((ih d hd).1 hnone)
    · intro h
      cases h with
      | item hd hspoilt => exact ⟨_, hd, (ih _ hd).2 hspoilt⟩
  | object entries ih =>
    rw [toJson?, Option.map_eq_none_iff, entriesToJson?_eq_none]
    constructor
    · rintro ⟨e, he, hname | hnone⟩
      · exact .name he hname
      · exact .entry he ((ih e he).1 hnone)
    · intro h
      cases h with
      | name he hname => exact ⟨_, he, .inl hname⟩
      | entry he hspoilt => exact ⟨_, he, .inr ((ih _ he).2 hspoilt)⟩

end Document

namespace Decoder

theorem namesDistinct_of_whole {d : Document} {v : Json} (h : whole d = .ok v) :
    v.NamesDistinct := by
  rw [whole] at h
  cases hv : d.toJson? with
  | none => rw [hv] at h; cases h
  | some w =>
    rw [hv] at h
    obtain rfl := Except.ok.inj h
    exact Document.namesDistinct_of_toJson? hv

@[simp] theorem whole_ofJson {v : Json} (h : v.NamesDistinct) : whole (.ofJson v) = .ok v := by
  rw [whole, Document.toJson?_ofJson h, Option.elim_some]

@[simp] theorem skip_ofJson (v : Json) : skip (.ofJson v) = .ok () := by
  rw [skip, Document.isIntact_ofJson, if_pos rfl]

end Decoder

end Showcase
