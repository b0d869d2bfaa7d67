namespace Showcase

variable {α β : Type}

/-- A name already listed keeps its place and takes the new value; a new one goes to the end. -/
def insertEntry (name : String) (value : α) : List (String × α) → List (String × α)
  | [] => [(name, value)]
  | e :: es => if e.1 = name then (name, value) :: es else e :: insertEntry name value es

theorem mem_keys_insertEntry {name k : String} {value : α} {es : List (String × α)} :
    k ∈ (insertEntry name value es).map Prod.fst ↔ k = name ∨ k ∈ es.map Prod.fst := by
  induction es with
  | nil => simp [insertEntry]
  | cons e es ih =>
    by_cases h : e.1 = name
    · simp [insertEntry, h]
    · simp only [insertEntry, h, if_false, List.map_cons, List.mem_cons, ih]
      grind

theorem nodup_insertEntry {es : List (String × α)} (h : (es.map Prod.fst).Nodup)
    (name : String) (value : α) : ((insertEntry name value es).map Prod.fst).Nodup := by
  induction es with
  | nil => simp [insertEntry]
  | cons e es ih =>
    rw [List.map_cons, List.nodup_cons] at h
    by_cases hn : e.1 = name
    · subst hn
      rw [insertEntry, if_pos rfl, List.map_cons, List.nodup_cons]
      exact h
    · simp only [insertEntry, hn, if_false, List.map_cons, List.nodup_cons]
      exact ⟨by grind [mem_keys_insertEntry], ih h.2⟩

/-- The last value given to each name, at the place where the name was first given. -/
def mergeEntries (es : List (String × α)) : List (String × α) :=
  es.foldl (fun acc e ↦ insertEntry e.1 e.2 acc) []

/-- Takes the name out and moves the last entry into its place. -/
def swapRemoveEntry (name : String) : List (String × α) → List (String × α)
  | [] => []
  | e :: es =>
    if e.1 = name then es.getLast?.toList ++ es.dropLast else e :: swapRemoveEntry name es

theorem getLast?_append_dropLast_perm (l : List α) : (l.getLast?.toList ++ l.dropLast).Perm l := by
  cases h : l.getLast? with
  | none => simp [List.getLast?_eq_none_iff.1 h]
  | some a =>
    obtain ⟨ys, rfl⟩ := List.getLast?_eq_some_iff.1 h
    simpa using (List.perm_append_singleton a ys).symm

theorem swapRemoveEntry_perm (name : String) (es : List (String × α)) :
    (swapRemoveEntry name es).Perm (es.eraseP (·.1 = name)) := by
  induction es with
  | nil => simp [swapRemoveEntry]
  | cons e es ih =>
    by_cases h : e.1 = name
    · simpa [swapRemoveEntry, h] using getLast?_append_dropLast_perm es
    · simpa [swapRemoveEntry, h] using ih

/-- A finite map that lists its names in the order in which they were first given. -/
structure OrderedMap (α : Type) where
  entries : List (String × α)
  keys_nodup : (entries.map Prod.fst).Nodup

namespace OrderedMap

def empty : OrderedMap α := ⟨[], .nil⟩

instance : EmptyCollection (OrderedMap α) := ⟨empty⟩

instance : Inhabited (OrderedMap α) := ⟨empty⟩

@[ext] theorem ext {a b : OrderedMap α} (h : a.entries = b.entries) : a = b := by
  cases a; cases b; simpa using h

def keys (m : OrderedMap α) : List String := m.entries.map Prod.fst

def get? (m : OrderedMap α) (name : String) : Option α := m.entries.lookup name

def contains (m : OrderedMap α) (name : String) : Bool := (m.get? name).isSome

def insert (m : OrderedMap α) (name : String) (value : α) : OrderedMap α :=
  ⟨insertEntry name value m.entries, nodup_insertEntry m.keys_nodup name value⟩

/-- Writes the second map over the first, entry by entry. -/
def overlay (m n : OrderedMap α) : OrderedMap α :=
  n.entries.foldl (fun acc e ↦ acc.insert e.1 e.2) m

def ofList (es : List (String × α)) : OrderedMap α :=
  es.foldl (fun acc e ↦ acc.insert e.1 e.2) empty

def map (f : String → α → β) (m : OrderedMap α) : OrderedMap β :=
  ⟨m.entries.map fun e ↦ (e.1, f e.1 e.2), by
    simpa [Function.comp_def] using m.keys_nodup⟩

def swapRemove (m : OrderedMap α) (name : String) : OrderedMap α :=
  ⟨swapRemoveEntry name m.entries,
    (((swapRemoveEntry_perm name m.entries).map Prod.fst).nodup_iff).2
      (m.keys_nodup.sublist (List.eraseP_sublist.map _))⟩

def sorted (m : OrderedMap α) : List (String × α) :=
  m.entries.mergeSort (fun a b ↦ decide (a.1 ≤ b.1))

end OrderedMap

end Showcase
