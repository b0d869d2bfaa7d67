import Showcase.Proofs.SelectChoices

namespace Showcase

namespace Enumeration

/-- The values are added one after the other. -/
def withChoices (e : Enumeration) (as : List Arg) : Enumeration := as.foldl withChoice e

variable {e : Enumeration} {as : List Arg} {a : Arg}

theorem withChoices_concat (e : Enumeration) (as : List Arg) (a : Arg) :
    e.withChoices (as ++ [a]) = (e.withChoices as).withChoice a := List.foldl_concat ..

/-- The entry is that of an argument before which no other had its label. -/
def IsFirst (as : List Arg) (x : String × Json) : Prop :=
  ∃ before a after, as = before ++ a :: after ∧ (∀ b ∈ before, b.label ≠ x.1) ∧
    a.label = x.1 ∧ x.2 = a.toJson

theorem IsFirst.concat {x : String × Json} (h : IsFirst as x) (a : Arg) :
    IsFirst (as ++ [a]) x := by
  obtain ⟨before, a', after, rfl, hbefore, ha'⟩ := h
  exact ⟨before, a', after ++ [a], by simp, hbefore, ha'⟩

/-- What the arguments add to the choices, in the order of the labels that are new. -/
structure Adds (e : Enumeration) (as : List Arg) (added : List (String × Json)) : Prop where
  entries : (e.withChoices as).entries = e.entries ++ added
  labels : added.map Prod.fst = (as.map Arg.label).eraseDups.filter (· ∉ e.keys)
  first : ∀ x ∈ added, IsFirst as x

theorem Adds.mem_keys_iff {added : List (String × Json)} (h : Adds e as added) {k : String} :
    k ∈ (e.withChoices as).keys ↔ k ∈ e.keys ∨ k ∈ as.map Arg.label := by
  have hkeys : (e.withChoices as).keys = e.keys ++ added.map Prod.fst := by
    rw [OrderedMap.keys, h.entries, List.map_append]
    rfl
  rw [hkeys, List.mem_append, h.labels, List.mem_filter, List.mem_eraseDups]
  by_cases hk : k ∈ e.keys <;> simp [hk]

theorem exists_adds (e : Enumeration) (as : List Arg) : ∃ added, Adds e as added := by
  induction as using List.reverseRecOn with
  | nil => exact ⟨[], by simp [withChoices], rfl, by simp⟩
  | append_singleton as a ih =>
    obtain ⟨added, h⟩ := ih
    have hold : ∀ x ∈ added, IsFirst (as ++ [a]) x := fun x hx ↦ (h.first x hx).concat a
    by_cases ha : a.label ∈ (e.withChoices as).keys
    · refine ⟨added, ?_, ?_, hold⟩
      · rw [withChoices_concat, withChoice_of_mem ha, h.entries]
      · rw [List.map_append, List.map_singleton, eraseDups_concat, h.labels]
        split
        · rfl
        · next hnew =>
          have hmem : a.label ∈ e.keys := (h.mem_keys_iff.1 ha).resolve_right hnew
          simp [hmem]
    · have hnew := mt h.mem_keys_iff.2 ha
      rw [not_or] at hnew
      refine ⟨added ++ [(a.label, a.toJson)], ?_, ?_, ?_⟩
      · rw [withChoices_concat, entries_withChoice_of_notMem ha, h.entries, List.append_assoc]
      · rw [List.map_append, List.map_append, List.map_singleton, List.map_singleton,
          eraseDups_concat, if_neg hnew.2, List.filter_append, h.labels]
        simp [hnew.1]
      · intro x hx
        rcases List.mem_append.1 hx with hx | hx
        · exact hold x hx
        · obtain rfl := List.mem_singleton.1 hx
          have hbefore : ∀ b ∈ as, b.label ≠ a.label := by
            intro b hb hlabel
            exact hnew.2 (hlabel ▸ List.mem_map_of_mem hb)
          exact ⟨as, a, [], rfl, hbefore, rfl, rfl⟩

theorem withChoices_of_mem (h : ∀ a ∈ as, a.label ∈ e.keys) : e.withChoices as = e := by
  induction as with
  | nil => rfl
  | cons a as ih =>
    rw [List.forall_mem_cons] at h
    rw [withChoices, List.foldl_cons, withChoice_of_mem h.1]
    exact ih h.2

end Enumeration

/-- Defaults that are added to the choices one after the other leave the choices as they are and come
after them, one entry for each new label, in the order in which the labels first occur and with the
value that is first given under the label. So no choice is overwritten or moved, every default has its
label among the choices, and adding a default again changes nothing. -/
theorem choices_added_once (e : Enumeration) (as : List Arg) :
    let full := e.withChoices as
    (∃ added, full.entries = e.entries ++ added ∧
      added.map Prod.fst = (as.map Arg.label).eraseDups.filter (· ∉ e.keys) ∧
      ∀ k v, (k, v) ∈ added → ∃ before a after, as = before ++ a :: after ∧
        (∀ b ∈ before, b.label ≠ k) ∧ a.label = k ∧ v = a.json?.getD .null) ∧
    (∀ k v, e.get? k = some v → full.get? k = some v) ∧
    (∀ a ∈ as, a.label ∈ full.keys ∧ full.withChoice a = full) ∧
    full.withChoices as = full := by
  intro full
  obtain ⟨added, h⟩ := e.exists_adds as
  have hlabels : ∀ a ∈ as, a.label ∈ full.keys :=
    fun a ha ↦ h.mem_keys_iff.2 (.inr (List.mem_map_of_mem ha))
  refine ⟨⟨added, h.entries, h.labels, fun k v hkv ↦ h.first _ hkv⟩, fun k v hk ↦ ?_,
    fun a ha ↦ ⟨hlabels a ha, Enumeration.withChoice_of_mem (hlabels a ha)⟩,
    Enumeration.withChoices_of_mem hlabels⟩
  rw [OrderedMap.get?_eq_some_iff, h.entries]
  exact List.mem_append_left _ (OrderedMap.get?_eq_some_iff.1 hk)

/-- Values that share their label with a text. -/
def lookalikes : List Arg :=
  [.json (.integer 2), .json (.string "2"), .json .null, .json (.string "null"), .undefined,
    .json (.string "undefined"), .placeholder ⟨.object [], .prop "size"⟩,
    .json (.string "\x7b\x7d")]

theorem lookalikes_added_once :
    let full := sizes.withChoices lookalikes
    (∃ added, full.entries = sizes.entries ++ added ∧
      added.map Prod.fst = ["null", "undefined", "\x7b\x7d"]) ∧
    full.get? "2" = some (.string "two") ∧
    (.undefined ∈ lookalikes ∧ full.withChoice .undefined = full) := by
  intro full
  obtain ⟨⟨added, hentries, hlabels, -⟩, hkept, hagain, -⟩ := choices_added_once sizes lookalikes
  have hmem : Arg.undefined ∈ lookalikes := by simp [lookalikes]
  exact ⟨⟨added, hentries, hlabels.trans (by decide)⟩, hkept "2" _ rfl, hmem,
    (hagain _ hmem).2⟩

end Showcase
