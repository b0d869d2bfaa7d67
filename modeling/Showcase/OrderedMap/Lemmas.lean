import Showcase.OrderedMap

namespace Showcase

variable {α β : Type} {name k : String} {value : α}

theorem lookup_cons_eq (e : String × α) (es : List (String × α)) :
    (e :: es).lookup k = if k = e.1 then some e.2 else es.lookup k := by
  rw [List.lookup_cons]
  by_cases h : k = e.1
  · simp [h]
  · simp [h, beq_eq_false_iff_ne.2 h]

theorem lookup_insertEntry (es : List (String × α)) :
    (insertEntry name value es).lookup k = if k = name then some value else es.lookup k := by
  induction es with
  | nil => simp [insertEntry, lookup_cons_eq]
  | cons e es ih =>
    by_cases hn : e.1 = name
    · subst hn
      simp only [insertEntry, if_true, lookup_cons_eq]
      split <;> rfl
    · simp only [insertEntry, hn, if_false, lookup_cons_eq, ih]
      by_cases h : k = e.1
      · simp [h, hn]
      · simp [h]

theorem insertEntry_of_notMem {es : List (String × α)} (h : name ∉ es.map Prod.fst) :
    insertEntry name value es = es ++ [(name, value)] := by
  induction es with
  | nil => rfl
  | cons e es ih =>
    rw [List.map_cons, List.mem_cons, not_or] at h
    simp [insertEntry, Ne.symm h.1, ih h.2]

theorem keys_insertEntry (es : List (String × α)) :
    (insertEntry name value es).map Prod.fst =
      if name ∈ es.map Prod.fst then es.map Prod.fst else es.map Prod.fst ++ [name] := by
  induction es with
  | nil => simp [insertEntry]
  | cons e es ih =>
    by_cases hn : e.1 = name
    · simp [insertEntry, hn]
    · simp only [insertEntry, hn, if_false, List.map_cons, ih, List.mem_cons, Ne.symm hn, false_or]
      split <;> simp

theorem foldl_insertEntry_of_nodup {es acc : List (String × α)}
    (h : ((acc ++ es).map Prod.fst).Nodup) :
    es.foldl (fun acc e ↦ insertEntry e.1 e.2 acc) acc = acc ++ es := by
  induction es generalizing acc with
  | nil => simp
  | cons e es ih =>
    have hacc : e.1 ∉ acc.map Prod.fst := by
      rw [List.map_append, List.map_cons, List.nodup_append] at h
      exact fun hm ↦ h.2.2 _ hm _ (List.mem_cons_self ..) rfl
    rw [List.foldl_cons, insertEntry_of_notMem hacc, ih (by simpa using h)]
    simp

theorem mergeEntries_of_nodup {es : List (String × α)} (h : (es.map Prod.fst).Nodup) :
    mergeEntries es = es := foldl_insertEntry_of_nodup h

namespace OrderedMap

variable (m n : OrderedMap α)

@[simp] theorem get?_insert : (m.insert name value).get? k =
    if k = name then some value else m.get? k := lookup_insertEntry m.entries

@[simp] theorem get?_empty : (empty : OrderedMap α).get? k = none := rfl

theorem keys_insert : (m.insert name value).keys =
    if name ∈ m.keys then m.keys else m.keys ++ [name] := keys_insertEntry m.entries

theorem entries_foldl_insert (es : List (String × α)) :
    (es.foldl (fun acc e ↦ acc.insert e.1 e.2) m).entries =
      es.foldl (fun acc e ↦ insertEntry e.1 e.2 acc) m.entries := by
  induction es generalizing m with
  | nil => rfl
  | cons e es ih => exact ih (m.insert e.1 e.2)

theorem entries_ofList (es : List (String × α)) : (ofList es).entries = mergeEntries es :=
  entries_foldl_insert empty es

theorem entries_ofList_of_nodup {es : List (String × α)} (h : (es.map Prod.fst).Nodup) :
    (ofList es).entries = es := by rw [entries_ofList, mergeEntries_of_nodup h]

@[simp] theorem ofList_entries : ofList m.entries = m := ext (entries_ofList_of_nodup m.keys_nodup)

@[simp] theorem keys_map (f : String → α → β) : (m.map f).keys = m.keys := by
  simp [keys, map, Function.comp_def]

theorem get?_map (f : String → α → β) : (m.map f).get? k = (m.get? k).map (f k) := by
  simp only [get?, map]
  induction m.entries with
  | nil => rfl
  | cons e es ih =>
    simp only [List.map_cons, lookup_cons_eq, ih]
    by_cases h : k = e.1 <;> simp [h]

theorem get?_foldl_insert (es : List (String × α)) (h : (es.map Prod.fst).Nodup) :
    (es.foldl (fun acc e ↦ acc.insert e.1 e.2) m).get? k = (es.lookup k).or (m.get? k) := by
  induction es generalizing m with
  | nil => rfl
  | cons e es ih =>
    rw [List.map_cons, List.nodup_cons] at h
    rw [List.foldl_cons, ih _ h.2, get?_insert]
    by_cases hk : k = e.1
    · subst hk
      have : es.lookup e.1 = none := by
        rw [List.lookup_eq_none_iff]
        intro p hp
        have hne : e.1 ≠ p.1 := fun he ↦ h.1 (he ▸ List.mem_map_of_mem hp)
        simpa using hne
      simp [lookup_cons_eq, this]
    · simp [lookup_cons_eq, hk]

/-- The map on top wins. -/
@[simp] theorem get?_overlay : (m.overlay n).get? k = (n.get? k).or (m.get? k) :=
  get?_foldl_insert m n.entries n.keys_nodup

theorem keys_foldl_insert (es : List (String × α)) (h : (es.map Prod.fst).Nodup) :
    (es.foldl (fun acc e ↦ acc.insert e.1 e.2) m).keys =
      m.keys ++ (es.map Prod.fst).filter (· ∉ m.keys) := by
  induction es generalizing m with
  | nil => simp
  | cons e es ih =>
    rw [List.map_cons, List.nodup_cons] at h
    rw [List.foldl_cons, ih _ h.2, keys_insert]
    by_cases hm : e.1 ∈ m.keys
    · simp [hm]
    · have : (es.map Prod.fst).filter (· ∉ m.keys ++ [e.1]) =
          (es.map Prod.fst).filter (· ∉ m.keys) := by
        refine List.filter_congr fun x hx ↦ ?_
        have hne : x ≠ e.1 := fun he ↦ h.1 (he ▸ hx)
        simp [hne]
      rw [if_neg hm, this]
      simp [hm]

/-- The map below keeps its places. -/
theorem keys_overlay : (m.overlay n).keys = m.keys ++ n.keys.filter (· ∉ m.keys) :=
  keys_foldl_insert m n.entries n.keys_nodup

end OrderedMap

end Showcase
