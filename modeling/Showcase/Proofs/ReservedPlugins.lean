import Mathlib.Data.List.TakeWhile
import Showcase.Proofs.ConfiguredProps

namespace Showcase

section SwapRemove

variable {α β : Type} {name : String}

theorem swapRemoveEntry_append {es fs : List (String × α)} (h : name ∉ es.map Prod.fst) :
    swapRemoveEntry name (es ++ fs) = es ++ swapRemoveEntry name fs := by
  induction es with
  | nil => rfl
  | cons e es ih =>
    rw [List.map_cons, List.mem_cons, not_or] at h
    rw [List.cons_append, swapRemoveEntry, if_neg (Ne.symm h.1), ih h.2, List.cons_append]

/-- Which entry is moved where depends on the names alone. -/
theorem swapRemoveEntry_map (f : String × α → String × β) (hf : ∀ e, (f e).1 = e.1)
    (es : List (String × α)) :
    swapRemoveEntry name (es.map f) = (swapRemoveEntry name es).map f := by
  induction es with
  | nil => rfl
  | cons e es ih =>
    rw [List.map_cons, swapRemoveEntry, swapRemoveEntry, hf]
    split
    · rw [List.getLast?_map, Option.toList_map, List.map_append, List.map_dropLast]
    · rw [ih, List.map_cons]

theorem eraseP_eq_filter {es : List (String × α)} (h : (es.map Prod.fst).Nodup) :
    es.eraseP (·.1 = name) = es.filter (·.1 ≠ name) := by
  induction es with
  | nil => rfl
  | cons e es ih =>
    rw [List.map_cons, List.nodup_cons] at h
    by_cases hn : e.1 = name
    · have hrest : es.filter (·.1 ≠ name) = es := by
        apply List.filter_eq_self.2
        intro e' he'
        have hne : e'.1 ≠ name := fun h' ↦ h.1 (hn ▸ h' ▸ List.mem_map_of_mem he')
        simpa using hne
      rw [List.eraseP_cons_of_pos (by simpa using hn), List.filter_cons_of_neg (by simpa using hn),
        hrest]
    · simp [hn, ih h.2]

end SwapRemove

namespace OrderedMap

variable {α β : Type} (m : OrderedMap α) (names : List String)

/-- The map without some names, which are taken out one after the other. -/
def without : OrderedMap α := names.foldl swapRemove m

theorem without_cons (name : String) :
    m.without (name :: names) = (m.swapRemove name).without names := rfl

theorem entries_swapRemove (name : String) :
    (m.swapRemove name).entries = swapRemoveEntry name m.entries := rfl

theorem entries_swapRemove_perm (name : String) :
    (m.swapRemove name).entries.Perm (m.entries.filter (·.1 ≠ name)) := by
  have h := swapRemoveEntry_perm name m.entries
  rwa [eraseP_eq_filter m.keys_nodup] at h

theorem entries_without_perm :
    (m.without names).entries.Perm (m.entries.filter (·.1 ∉ names)) := by
  induction names generalizing m with
  | nil => simp [without]
  | cons name names ih =>
    have hstep := (m.entries_swapRemove_perm name).filter (·.1 ∉ names)
    have hboth : (m.entries.filter (·.1 ≠ name)).filter (·.1 ∉ names) =
        m.entries.filter (·.1 ∉ name :: names) := by
      rw [List.filter_filter]
      apply List.filter_congr
      intro e _
      rw [← Bool.decide_and]
      exact decide_eq_decide.2 (by rw [List.mem_cons, not_or, and_comm])
    rw [without_cons, ← hboth]
    exact (ih (m.swapRemove name)).trans hstep

theorem get?_without (k : String) :
    (m.without names).get? k = if k ∈ names then none else m.get? k := by
  apply Option.ext
  intro v
  have hmem : (k, v) ∈ (m.without names).entries ↔ (k, v) ∈ m.entries ∧ k ∉ names := by
    rw [(m.entries_without_perm names).mem_iff]
    simp
  rw [get?_eq_some_iff, hmem]
  by_cases hk : k ∈ names
  · simp [hk]
  · simp [hk, get?_eq_some_iff]

theorem entries_without_front {before after : List (String × α)}
    (h : m.entries = before ++ after) (hbefore : ∀ e ∈ before, e.1 ∉ names) :
    ∃ moved, (m.without names).entries = before ++ moved := by
  induction names generalizing m after with
  | nil => exact ⟨after, h⟩
  | cons name names ih =>
    have hname : name ∉ before.map Prod.fst := by
      intro hmem
      obtain ⟨e, he, rfl⟩ := List.mem_map.1 hmem
      exact hbefore e he (List.mem_cons_self ..)
    have hstep : (m.swapRemove name).entries = before ++ swapRemoveEntry name after := by
      rw [entries_swapRemove, h, swapRemoveEntry_append hname]
    exact ih _ hstep fun e he hmem ↦ hbefore e he (List.mem_cons_of_mem _ hmem)

/-- Entries in front of all that is taken out stay where they are; the others may change places. -/
theorem entries_without_append {before after : List (String × α)}
    (h : m.entries = before ++ after) (hbefore : ∀ e ∈ before, e.1 ∉ names) :
    ∃ moved, (m.without names).entries = before ++ moved ∧
      moved.Perm (after.filter (·.1 ∉ names)) := by
  obtain ⟨moved, hmoved⟩ := m.entries_without_front names h hbefore
  refine ⟨moved, hmoved, ?_⟩
  have hkept : before.filter (·.1 ∉ names) = before :=
    List.filter_eq_self.2 fun e he ↦ by simpa using hbefore e he
  -- What is left as a whole is known up to order, and its front is the one of before.
  have hperm := m.entries_without_perm names
  rw [hmoved, h, List.filter_append, hkept] at hperm
  exact (List.perm_append_left_iff before).1 hperm

theorem map_without (f : String → α → β) :
    (m.map f).without names = (m.without names).map f := by
  induction names generalizing m with
  | nil => rfl
  | cons name names ih =>
    have hstep : (m.map f).swapRemove name = (m.swapRemove name).map f :=
      OrderedMap.ext (swapRemoveEntry_map (fun e ↦ (e.1, f e.1 e.2)) (fun _ ↦ rfl) m.entries)
    rw [without_cons, without_cons, hstep, ih]

variable {m} {n : OrderedMap α} {names}

theorem keys_without_congr (h : n.keys = m.keys) :
    (n.without names).keys = (m.without names).keys := by
  -- Maps with the same names are one map once their values are blotted out.
  have hentries (m : OrderedMap α) :
      (m.map fun _ _ ↦ ()).entries = m.keys.map fun k ↦ (k, ()) := by
    simp [map, keys]
  have hblank : (n.map fun _ _ ↦ ()) = m.map fun _ _ ↦ () := by
    apply OrderedMap.ext
    rw [hentries, hentries, h]
  have hrest := congrArg (fun m' ↦ (m'.without names).keys) hblank
  simpa only [map_without, keys_map] using hrest

/-- What is taken out leaves no trace of its value. -/
theorem without_congr [Inhabited α] (hkeys : n.keys = m.keys)
    (h : ∀ k, k ∉ names → n.get? k = m.get? k) : n.without names = m.without names := by
  apply ext_get? (keys_without_congr hkeys)
  intro k
  rw [get?_without, get?_without]
  split
  · rfl
  · next hk => exact h k hk

end OrderedMap

variable {σ : Type}

section Render

variable {env env' : Env σ}

theorem plugins_of_render {r : Record} {s : Session σ} {t : TemplateStory σ}
    (h : ((env.render r).perform s).1 = .template t) : t.plugins = storyPlugins env.plugins := by
  rw [Env.render] at h
  cases hstyle : r.style with
  | template =>
    rw [hstyle] at h
    rw [← Story.template.inj h]
  | function =>
    rw [hstyle] at h
    cases h

/-- No render takes anything away from the plugins that the next one starts from. -/
theorem plugins_of_renders {picks : List (StoryEntry σ)}
    (h : ∀ e ∈ picks, ∃ r, e.story = env.render r) {s : Session σ} {t : TemplateStory σ}
    (ht : .template t ∈ ((picks.mapM Entry.story).perform s).1) :
    t.plugins = storyPlugins env.plugins := by
  induction picks generalizing s with
  | nil => cases ht
  | cons e picks ih =>
    rw [List.forall_mem_cons] at h
    simp only [List.mapM_cons, Action.perform_bind, Action.perform_pure, List.mem_cons] at ht
    cases ht with
    | inl hfirst =>
      obtain ⟨r, hr⟩ := h.1
      rw [hr] at hfirst
      exact plugins_of_render hfirst.symm
    | inr hrest => exact ih h.2 hrest

theorem run_congr (h : ∀ r, env'.render r = env.render r) (files : Option Files)
    (registry : Stories σ) :
    Generation.run { env := env', files, registry } = Generation.run { env, files, registry } := by
  cases files with
  | none => rfl
  | some files =>
    have hvisit : visit env' files = visit env files := by
      funext acc file
      simp only [visit, register, h]
    rw [Generation.run, Generation.run]
    simp only [hvisit]

end Render

/-- A template story has the plugins of the caller but for those under a reserved key. The plugins
in front of the first reserved one stay where they are, the others may change places. All renders
start from the same plugins, so they show the same ones, and what the caller puts under a reserved
key makes no difference to any of them. -/
theorem reserved_plugins_left_out (g : Generation σ) :
    let free (e : String × Json) : Bool := e.1 ∉ reservedKeys
    let plugins := g.env.plugins
    (∀ r s, r.style = .template → ∃ t left, (g.env.render r).perform s = (.template t, left) ∧
      (∀ k, t.plugins.get? k = if k ∈ reservedKeys then none else plugins.get? k) ∧
      ∃ moved, t.plugins.entries = plugins.entries.takeWhile free ++ moved ∧
        moved.Perm ((plugins.entries.dropWhile free).filter free)) ∧
    (∀ (picks : List (StoryEntry σ)) (s : Session σ),
      (∀ e ∈ picks, ∃ kind s', e ∈ g.stories kind s') →
      ∀ t, .template t ∈ ((picks.mapM Entry.story).perform s).1 →
        t.plugins = storyPlugins plugins) ∧
    ∀ plugins' : OrderedMap Json, plugins'.keys = plugins.keys →
      (∀ k, k ∉ reservedKeys → plugins'.get? k = plugins.get? k) →
      (∀ r, (g.withPlugins plugins').env.render r = g.env.render r) ∧
        (g.withPlugins plugins').run = g.run := by
  intro free plugins
  refine ⟨fun r s h ↦ ?_, fun picks s h t ht ↦ ?_, fun plugins' hkeys hfree ↦ ?_⟩
  · obtain ⟨t, ht, -⟩ := perform_render g.env h s
    have hplugins : t.plugins = plugins.without reservedKeys :=
      plugins_of_render (congrArg Prod.fst ht)
    refine ⟨t, _, ht, fun k ↦ ?_, ?_⟩
    · rw [hplugins, OrderedMap.get?_without]
    · rw [hplugins]
      apply plugins.entries_without_append reservedKeys List.takeWhile_append_dropWhile.symm
      intro e he
      simpa [free] using List.mem_takeWhile_imp he
  · apply plugins_of_renders _ ht
    intro e he
    obtain ⟨kind, s', hmem⟩ := h e he
    rw [g.stories_eq] at hmem
    obtain ⟨r, -, rfl⟩ := List.mem_map.1 hmem
    exact ⟨r, rfl⟩
  · have hsame : storyPlugins plugins' = storyPlugins plugins :=
      OrderedMap.without_congr hkeys hfree
    have hrender : ∀ r, (g.withPlugins plugins').env.render r = g.env.render r :=
      fun r ↦ render_congr hsame fun _ _ ↦ rfl
    exact ⟨hrender, run_congr hrender g.files g.registry⟩

section Theme

def themePlugins (store props : Json) : OrderedMap Json := .ofList
  [("theme", .string "dark"), ("store", store), ("router", .string "hash"), ("props", props),
    ("locale", .string "en")]

def themedProfile (store props : Json) : Generation Nat :=
  Config.profileFiles.withPlugins (themePlugins store props)

theorem themed_profile_plugins :
    let g := themedProfile .null .null
    let story : StoryEntry Nat := ⟨"Profile", g.env.render Config.profileRecord⟩
    Config.profileRecord.style = .template ∧
    (∃ t left, (g.env.render Config.profileRecord).perform ⟨0, []⟩ = (.template t, left) ∧
      t.plugins.get? "store" = none ∧ t.plugins.get? "locale" = some (.string "en") ∧
      ∃ moved, t.plugins.entries = ("theme", .string "dark") :: moved ∧
        moved.Perm [("router", .string "hash"), ("locale", .string "en")]) ∧
    (story ∈ g.stories "forms" ⟨0, []⟩ ∧
      ∀ t, .template t ∈ (([story, story].mapM Entry.story).perform ⟨0, []⟩).1 →
        t.plugins = storyPlugins g.env.plugins) ∧
    (themedProfile (.integer 1) (.string "label")).run = g.run := by
  intro g story
  obtain ⟨hrender, hlater, hreserved⟩ := reserved_plugins_left_out g
  have hstory : story ∈ g.stories "forms" ⟨0, []⟩ := by
    have hfound : g.found "forms" = [Config.profileRecord] := Config.found_profileFiles
    rw [g.stories_eq, hfound]
    exact List.mem_singleton_self _
  have hagree : ∀ k, k ∉ reservedKeys → (themePlugins (.integer 1) (.string "label")).get? k =
      (themePlugins .null .null).get? k := by
    intro k hk
    have hstore : k ≠ "store" := by
      intro h
      exact hk (by rw [h]; decide)
    have hprops : k ≠ "props" := by
      intro h
      exact hk (by rw [h]; decide)
    simp [themePlugins, OrderedMap.ofList, hstore, hprops]
  refine ⟨rfl, ?_, ⟨hstory, fun t ht ↦ ?_⟩, ?_⟩
  · obtain ⟨t, left, ht, hget, moved, hmoved, hperm⟩ := hrender Config.profileRecord ⟨0, []⟩ rfl
    refine ⟨t, left, ht, ?_, ?_, moved, hmoved, hperm⟩
    · rw [hget, if_pos (by decide)]
    · rw [hget, if_neg (by decide)]
      rfl
  · apply hlater [story, story] ⟨0, []⟩ _ t ht
    intro e he
    simp only [List.mem_cons, List.not_mem_nil, or_false, or_self] at he
    exact ⟨"forms", ⟨0, []⟩, he ▸ hstory⟩
  · exact (hreserved (themePlugins (.integer 1) (.string "label")) rfl hagree).2

end Theme

end Showcase
