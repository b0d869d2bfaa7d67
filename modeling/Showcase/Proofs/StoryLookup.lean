import Showcase.Proofs.FileByFile

namespace Showcase

variable {σ : Type}

/-- The id of the story in a file, which its path alone decides. -/
def StoryId.ofPath (path : String) : StoryId :=
  ⟨(FileInfo.ofPath path).group, (FileInfo.ofPath path).name⟩

theorem Registry.story?_eq {α : Type} (r : Registry α) (kind name : String) :
    r.story? kind name = (r.storiesIn kind).find? (·.name = name) := by
  rw [Registry.story?, Registry.storiesIn]
  cases r.group? kind <;> rfl

namespace Finding

variable {path : String} {f : Finding} {r : Record}

theorem id_of_story {m : Option Module} (h : of path m = .story r) : r.id = .ofPath path := by
  cases m with
  | none => cases h
  | some m =>
    simp only [of] at h
    split at h <;> cases h
    rw [Record.id, StoryId.ofPath]

theorem eq_story (h : f.record? = some r) : f = .story r := by
  cases f <;> cases h
  rfl

theorem ids_eq (h : f.record? = some r) : f.ids = [r.id] := by rw [ids, h]; rfl

theorem ids_eq_nil (h : f.record? = none) : f.ids = [] := by rw [ids, h]; rfl

theorem stories_eq (env : Env σ) (kind : String) (h : f.record? = some r) :
    f.stories env kind = if r.group = kind then [⟨r.name, env.render r⟩] else [] := by
  rw [stories, h, Option.filter_some]
  by_cases hg : r.group = kind <;> simp [hg]

theorem stories_eq_nil (env : Env σ) (kind : String) (h : f.record? = none) :
    f.stories env kind = [] := by rw [stories, h]; rfl

end Finding

section Lookup

variable (env : Env σ) (load : String → Option Module) (keys : List String)

/-- The record that a file leads to, if a component is found in it. -/
def recordAt? (path : String) : Option Record := (Finding.of path (load path)).record?

def storyFiles : List String := keys.filter fun p ↦ (recordAt? load p).isSome

theorem ids_eq_map_ofPath : (keys.flatMap fun p ↦ (Finding.of p (load p)).ids) =
    (storyFiles load keys).map StoryId.ofPath := by
  induction keys with
  | nil => rfl
  | cons p keys ih =>
    rw [storyFiles] at ih ⊢
    rw [List.flatMap_cons, ih, List.filter_cons]
    cases h : recordAt? load p with
    | none => rw [Finding.ids_eq_nil h]; rfl
    | some r =>
      rw [Finding.ids_eq h, Finding.id_of_story (Finding.eq_story h)]
      rfl

def storyAt? (path : String) : Option (StoryEntry σ) :=
  (recordAt? load path).map fun r ↦ ⟨r.name, env.render r⟩

theorem find?_stories (id : StoryId) :
    (keys.flatMap fun p ↦ (Finding.of p (load p)).stories env id.group).find? (·.name = id.name) =
      ((storyFiles load keys).find? (StoryId.ofPath · = id)).bind (storyAt? env load) := by
  induction keys with
  | nil => rfl
  | cons p keys ih =>
    rw [storyFiles] at ih ⊢
    rw [List.flatMap_cons, List.find?_append, ih, List.filter_cons]
    cases h : recordAt? load p with
    | none => rw [Finding.stories_eq_nil env _ h]; rfl
    | some r =>
      have hid : StoryId.ofPath p = id ↔ r.group = id.group ∧ r.name = id.name := by
        rw [← Finding.id_of_story (Finding.eq_story h), Record.id, StoryId.mk.injEq]
      rw [Finding.stories_eq env _ h, Option.isSome_some, if_pos rfl, List.find?_cons]
      by_cases hp : StoryId.ofPath p = id
      · obtain ⟨hg, hn⟩ := hid.1 hp
        simp [hp, hg, hn, storyAt?, h]
      · have hfirst : (if r.group = id.group then [(⟨r.name, env.render r⟩ : StoryEntry σ)]
            else []).find? (·.name = id.name) = none := by
          split
          · next hg => simpa using fun hn ↦ hp (hid.2 ⟨hg, hn⟩)
          · rfl
        rw [hfirst]
        simp [hp]

theorem registered_generateOver (s : Session σ) :
    ((generateOver env load keys {}).perform s).1.report.registered =
      (storyFiles load keys).map StoryId.ofPath := by
  rw [← ids_eq_map_ofPath, perform_generateOver]

end Lookup

/-- The id of a story says in which file it was found up to the extension and all directories but
the last. The ids in a report are distinct if no two files with a component agree in this much, and
looking one up finds the story of the first file that has it. -/
theorem id_finds_first_story (env : Env σ) (load : String → Option Module) (keys : List String)
    (s : Session σ) :
    let run := ((generateOver env load keys {}).perform s).1
    run.report.registered = (storyFiles load keys).map StoryId.ofPath ∧
    (run.report.registered.Nodup ↔
      (storyFiles load keys).Pairwise fun p q ↦ StoryId.ofPath p ≠ StoryId.ofPath q) ∧
    (∀ id : StoryId, run.registry.story? id.group id.name =
      ((storyFiles load keys).find? (StoryId.ofPath · = id)).bind (storyAt? env load)) ∧
    ∀ p ∈ storyFiles load keys,
      (∀ q ∈ storyFiles load keys, StoryId.ofPath q = StoryId.ofPath p → q = p) →
      ∃ r, recordAt? load p = some r ∧ r.id = StoryId.ofPath p ∧
        run.registry.story? r.group r.name = some ⟨r.name, env.render r⟩ := by
  intro run
  have hids : run.report.registered = (storyFiles load keys).map StoryId.ofPath :=
    registered_generateOver env load keys s
  have hfind (id : StoryId) : run.registry.story? id.group id.name =
      ((storyFiles load keys).find? (StoryId.ofPath · = id)).bind (storyAt? env load) := by
    rw [← find?_stories, Registry.story?_eq]
    have hempty : Registry.storiesIn ({} : Stories σ) id.group = [] := rfl
    simp only [run, perform_generateOver, storiesIn_foldl_enter, hempty, List.nil_append]
  refine ⟨hids, ?_, hfind, fun p hp hself ↦ ?_⟩
  · rw [hids, List.Nodup, List.pairwise_map]
  · obtain ⟨r, hr⟩ := Option.isSome_iff_exists.1 (List.mem_filter.1 hp).2
    have hid : r.id = StoryId.ofPath p := Finding.id_of_story (Finding.eq_story hr)
    obtain ⟨q, hq⟩ : ∃ q, (storyFiles load keys).find? (StoryId.ofPath · = r.id) = some q :=
      Option.isSome_iff_exists.1 (List.find?_isSome.2 ⟨p, hp, by simp [hid]⟩)
    have hqid : StoryId.ofPath q = r.id := by simpa using List.find?_some hq
    obtain rfl := hself q (List.mem_of_find?_eq_some hq) (hqid.trans hid)
    refine ⟨r, hr, hid, ?_⟩
    have hstory := hfind r.id
    rw [hq, Option.bind_some, storyAt?, hr] at hstory
    exact hstory

def twinFiles : String → Option Module
  | "a/B.vue" => some (Module.withComponent {} "default"
      { own := { props := some (.ofList [("x", {})]) } })
  | "a/B.jsx" => some (Module.withComponent {} "default"
      { own := { props := some (.ofList [("y", {})]) } })
  | _ => none

/-- Files that differ in nothing but their extension share an id. -/
theorem twins_share_id : ¬ ∀ (env : Env Unit) (load : String → Option Module) (keys : List String)
    (s : Session Unit), keys.Nodup →
    let run := ((generateOver env load keys {}).perform s).1
    run.report.registered.Nodup ∧ ∀ p ∈ keys, ∀ r, Finding.of p (load p) = .story r →
      run.registry.story? r.group r.name = some ⟨r.name, env.render r⟩ := by
  intro h
  have hids := (h (Generation.new {} fun _ ↦ return .null).env twinFiles ["a/B.vue", "a/B.jsx"]
    ⟨(), []⟩ (by decide)).1
  have htwins : StoryId.ofPath "a/B.vue" = StoryId.ofPath "a/B.jsx" := by cbv
  have hfiles : storyFiles twinFiles ["a/B.vue", "a/B.jsx"] = ["a/B.vue", "a/B.jsx"] := by
    decide +kernel
  rw [registered_generateOver, hfiles, List.map_cons, List.nodup_cons, htwins] at hids
  exact hids.1 (List.mem_cons_self ..)

end Showcase
