import Mathlib.Data.List.Induction
import Mathlib.Data.List.Nodup
import Showcase.OrderedMap.Lemmas

namespace Showcase

variable {α : Type}

theorem eraseDups_concat [BEq α] [LawfulBEq α] [DecidableEq α] (l : List α) (a : α) :
    (l ++ [a]).eraseDups = if a ∈ l then l.eraseDups else l.eraseDups ++ [a] := by
  rw [List.eraseDups_append]
  by_cases h : a ∈ l <;> simp [h, List.removeAll, List.eraseDups_cons]

theorem head?_eraseDups [BEq α] (l : List α) : l.eraseDups.head? = l.head? := by
  cases l with
  | nil => rfl
  | cons a l => rw [List.eraseDups_cons, List.head?_cons, List.head?_cons]

theorem nodup_eraseDups [BEq α] [LawfulBEq α] [DecidableEq α] (l : List α) :
    l.eraseDups.Nodup := by
  induction l using List.reverseRecOn with
  | nil => exact List.nodup_nil
  | append_singleton l a ih =>
    rw [eraseDups_concat]
    split
    · exact ih
    · next h => exact List.nodup_append.2 ⟨ih, List.nodup_singleton a, by grind [List.mem_eraseDups]⟩

theorem entries_eq_map_lookup {es : List (String × α)} (h : (es.map Prod.fst).Nodup) (d : α) :
    es = (es.map Prod.fst).map fun k ↦ (k, (es.lookup k).getD d) := by
  induction es with
  | nil => rfl
  | cons e es ih =>
    rw [List.map_cons, List.nodup_cons] at h
    have hrest : ((es.map Prod.fst).map fun k ↦ (k, ((e :: es).lookup k).getD d)) = es := by
      refine (List.map_congr_left fun k hk ↦ ?_).trans (ih h.2).symm
      have hne : k ≠ e.1 := fun he ↦ h.1 (he ▸ hk)
      rw [lookup_cons_eq, if_neg hne]
    rw [List.map_cons, List.map_cons, hrest, lookup_cons_eq, if_pos rfl]
    rfl

theorem nodup_keys_const (names : List String) (value : α) :
    ((names.eraseDups.map fun k ↦ (k, value)).map Prod.fst).Nodup := by
  rw [List.map_map]
  exact (List.map_id _).symm ▸ nodup_eraseDups names

theorem filter_insertEntry (name : String) (value : α) (es : List (String × α)) :
    (insertEntry name value es).filter (·.1 ≠ name) = es.filter (·.1 ≠ name) := by
  induction es with
  | nil => simp [insertEntry]
  | cons e es ih =>
    by_cases hn : e.1 = name
    · simp [insertEntry, hn]
    · simpa [insertEntry, hn] using ih

theorem eq_or_mem_of_mem_insertEntry {name : String} {value : α} {es : List (String × α)}
    {e : String × α} (h : e ∈ insertEntry name value es) : e = (name, value) ∨ e ∈ es := by
  induction es with
  | nil => exact .inl (List.mem_singleton.1 h)
  | cons e' es ih =>
    rw [insertEntry] at h
    split at h
    · exact (List.mem_cons.1 h).imp_right (List.mem_cons_of_mem _)
    · rcases List.mem_cons.1 h with rfl | h
      · exact .inr (List.mem_cons_self ..)
      · exact (ih h).imp_right (List.mem_cons_of_mem _)

theorem insertEntry_append {name : String} {before : List (String × α)}
    (h : name ∉ before.map Prod.fst) (value : α) (after : List (String × α)) :
    insertEntry name value (before ++ after) = before ++ insertEntry name value after := by
  induction before with
  | nil => rfl
  | cons e before ih =>
    rw [List.map_cons, List.mem_cons, not_or] at h
    rw [List.cons_append, insertEntry, if_neg (Ne.symm h.1), ih h.2, List.cons_append]

namespace OrderedMap

/-- Every value in the map has the property. -/
def All (P : α → Prop) (m : OrderedMap α) : Prop := ∀ e ∈ m.entries, P e.2

theorem all_empty (P : α → Prop) : All P empty := nofun

theorem All.insert {P : α → Prop} {m : OrderedMap α} (h : m.All P) (name : String) {value : α}
    (hvalue : P value) : (m.insert name value).All P := by
  intro e he
  rcases eq_or_mem_of_mem_insertEntry he with rfl | he
  · exact hvalue
  · exact h e he

theorem all_ofList {P : α → Prop} {es : List (String × α)} (h : ∀ e ∈ es, P e.2) :
    (ofList es).All P := by
  suffices hfold : ∀ m : OrderedMap α, m.All P →
      (es.foldl (fun acc e ↦ acc.insert e.1 e.2) m).All P from hfold empty (all_empty P)
  induction es with
  | nil => exact fun m hm ↦ hm
  | cons e es ih =>
    rw [List.forall_mem_cons] at h
    exact fun m hm ↦ ih h.2 _ (hm.insert e.1 h.1)

theorem entries_eq_map_get? (m : OrderedMap α) (d : α) :
    m.entries = m.keys.map fun k ↦ (k, (m.get? k).getD d) :=
  entries_eq_map_lookup m.keys_nodup d

theorem mem_keys_iff_get? {m : OrderedMap α} {k : String} :
    k ∈ m.keys ↔ ∃ v, m.get? k = some v := by
  simp only [keys, get?]
  induction m.entries with
  | nil => simp
  | cons e es ih =>
    rw [List.map_cons, List.mem_cons, lookup_cons_eq, ih]
    by_cases h : k = e.1 <;> simp [h]

theorem get?_eq_none_iff {m : OrderedMap α} {k : String} : m.get? k = none ↔ k ∉ m.keys := by
  rw [mem_keys_iff_get?, not_exists, Option.eq_none_iff_forall_ne_some]

theorem contains_iff {m : OrderedMap α} {k : String} : m.contains k = true ↔ k ∈ m.keys := by
  rw [contains, Option.isSome_iff_exists, mem_keys_iff_get?]

theorem mem_entries_of_get? {m : OrderedMap α} {k : String} {v : α} (h : m.get? k = some v) :
    (k, v) ∈ m.entries := by
  obtain ⟨es, fs, hentries, -⟩ := List.lookup_eq_some_iff.1 h
  rw [hentries]
  exact List.mem_append_right es (List.mem_cons_self ..)

theorem get?_eq_some_iff {m : OrderedMap α} {k : String} {v : α} :
    m.get? k = some v ↔ (k, v) ∈ m.entries := by
  refine ⟨mem_entries_of_get?, fun h ↦ ?_⟩
  have hk : k ∈ m.keys := List.mem_map_of_mem h
  obtain ⟨w, hw⟩ := mem_keys_iff_get?.1 hk
  have hsame : (k, v) = (k, w) :=
    List.inj_on_of_nodup_map m.keys_nodup h (mem_entries_of_get? hw) rfl
  rw [hw, (Prod.mk.inj hsame).2]

theorem all_iff_get? {P : α → Prop} {m : OrderedMap α} :
    m.All P ↔ ∀ k v, m.get? k = some v → P v := by
  constructor
  · exact fun h k v hv ↦ h (k, v) (mem_entries_of_get? hv)
  · exact fun h e he ↦ h e.1 e.2 (get?_eq_some_iff.2 he)

/-- A map is what it says on each name and the order of its names. -/
theorem ext_get? [Inhabited α] {m n : OrderedMap α} (hkeys : n.keys = m.keys)
    (h : ∀ k, n.get? k = m.get? k) : n = m := by
  apply OrderedMap.ext
  rw [n.entries_eq_map_get? default, m.entries_eq_map_get? default, hkeys]
  simp only [h]

theorem ofList_concat (es : List (String × α)) (e : String × α) :
    ofList (es ++ [e]) = (ofList es).insert e.1 e.2 := by simp [ofList]

theorem keys_ofList (es : List (String × α)) :
    (ofList es).keys = (es.map Prod.fst).eraseDups := by
  induction es using List.reverseRecOn with
  | nil => rfl
  | append_singleton es e ih =>
    rw [ofList_concat, keys_insert, ih, List.map_append, List.map_singleton, eraseDups_concat]
    simp only [List.mem_eraseDups]

/-- The last value given to a name counts. -/
theorem get?_ofList (es : List (String × α)) (k : String) :
    (ofList es).get? k = es.reverse.lookup k := by
  induction es using List.reverseRecOn with
  | nil => rfl
  | append_singleton es e ih =>
    rw [ofList_concat, get?_insert, ih, List.reverse_concat, lookup_cons_eq]

theorem get?_ofList_eq_some_iff {es : List (String × α)} {k : String} {v : α} :
    (ofList es).get? k = some v ↔
      ∃ before after, es = before ++ (k, v) :: after ∧ k ∉ after.map Prod.fst := by
  rw [get?_ofList, List.lookup_eq_some_iff]
  constructor
  · rintro ⟨after, before, hes, hafter⟩
    refine ⟨before.reverse, after.reverse, by simpa using congrArg List.reverse hes, fun hk ↦ ?_⟩
    obtain ⟨e, he, rfl⟩ := List.mem_map.1 hk
    simpa using hafter e (List.mem_reverse.1 he)
  · rintro ⟨before, after, rfl, hafter⟩
    refine ⟨after.reverse, before.reverse, by simp, fun e he ↦ ?_⟩
    have hne : k ≠ e.1 := fun hk ↦ hafter (hk ▸ List.mem_map_of_mem (List.mem_reverse.1 he))
    simpa using hne

theorem entries_insert_of_notMem {m : OrderedMap α} {k : String} (h : k ∉ m.keys) (v : α) :
    (m.insert k v).entries = m.entries ++ [(k, v)] := insertEntry_of_notMem h

/-- A new value stands where the old one stood, and all the rest stays. -/
theorem entries_insert_of_get? {m : OrderedMap α} {k : String} {old : α} (h : m.get? k = some old)
    (v : α) : ∃ before after, m.entries = before ++ (k, old) :: after ∧
      (m.insert k v).entries = before ++ (k, v) :: after := by
  obtain ⟨before, after, hentries, hbefore⟩ := List.lookup_eq_some_iff.1 h
  have hnew : k ∉ before.map Prod.fst := by
    intro hk
    obtain ⟨e, he, rfl⟩ := List.mem_map.1 hk
    simpa using hbefore e he
  refine ⟨before, after, hentries, ?_⟩
  calc (m.insert k v).entries
    _ = insertEntry k v (before ++ (k, old) :: after) := congrArg (insertEntry k v) hentries
    _ = before ++ (k, v) :: after := by
      rw [insertEntry_append hnew, insertEntry, if_pos rfl]

/-- Names that all get one value are listed once each. -/
theorem entries_ofList_const (names : List String) (value : α) :
    (ofList (names.map fun k ↦ (k, value))).entries = names.eraseDups.map fun k ↦ (k, value) := by
  have hvalue (k : String) :
      ((ofList (names.map fun k ↦ (k, value))).get? k).getD value = value := by
    rw [get?_ofList, ← List.map_reverse]
    induction names.reverse with
    | nil => rfl
    | cons n ns ih =>
      rw [List.map_cons, lookup_cons_eq]
      split
      · rfl
      · exact ih
  rw [entries_eq_map_get? _ value, keys_ofList, List.map_map]
  simp only [hvalue, Function.comp_def, List.map_id']

end OrderedMap

end Showcase
