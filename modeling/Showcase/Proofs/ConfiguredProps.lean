import Showcase.Proofs.RenderTrace
import Showcase.Proofs.StoryLookup
import Showcase.Proofs.StyleAgreement

namespace Showcase

variable {σ : Type}

theorem Enumeration.entries_withChoice (e : Enumeration) (a : Arg) :
    (e.withChoice a).entries = e.entries ∨
      (e.withChoice a).entries = e.entries ++ [(a.label, a.toJson)] := by
  by_cases h : a.label ∈ e.keys
  · exact .inl (by rw [withChoice_of_mem h])
  · exact .inr (entries_withChoice_of_notMem h)

namespace Generation

variable (g : Generation σ) (kind : String) (s : Session σ)

/-- The components found in the files, of those that go into one group. -/
def found : List Record :=
  (g.files.elim [] fun files ↦ files.keys.filterMap (recordAt? files.load)).filter (·.group = kind)

/-- The stories that a run adds to one group. -/
def stories : List (StoryEntry σ) :=
  Registry.addedIn g.registry (g.run.perform s).1.registry kind

theorem stories_eq : g.stories kind s =
    (g.found kind).map fun r ↦ ⟨r.name, g.env.render r⟩ := by
  obtain ⟨env, files, registry⟩ := g
  cases files with
  | none =>
    rw [stories, Registry.addedIn]
    exact List.drop_length
  | some files =>
    have hrun := perform_generateOver env files.load files.keys registry s
    rw [generateOver] at hrun
    rw [stories, Registry.addedIn, hrun, storiesIn_foldl_enter, List.drop_left, found,
      Option.elim_some, List.filter_filterMap, List.map_filterMap, List.filterMap_eq_flatMap_toList]
    rfl

end Generation

section Render

variable (env : Env σ) (r : Record) (s : Session σ)

theorem get?_resolutions {prop : String} (h : prop ∈ r.props.keys) : ∃ d s' input,
    ((env.resolutions r).perform s).1.get? prop = some input ∧
      input = ((env.resolution r prop d).perform s').1 := by
  have hkeys : prop ∈ ((env.resolutions r).perform s).1.keys := by
    rw [keys_resolutions]
    exact h
  obtain ⟨input, hinput⟩ := OrderedMap.mem_keys_iff_get?.1 hkeys
  obtain ⟨d, s', -, hd⟩ := resolution_of_get? env r hinput
  exact ⟨d, s', input, hinput, hd⟩

end Render

namespace Config

variable (c : Config) (g : Generation σ) (kind : String) (s : Session σ)

/-- The configurations have the same to say on every prop of a story. -/
def AgreesOn (c' : Config) (r : Record) : Prop :=
  ∀ p ∈ r.props.keys, c'.default? r.name p = c.default? r.name p ∧
    c'.choices? r.name p = c.choices? r.name p

theorem resolution_apply (r : Record) (prop : String) (d : Declaration) :
    (c.apply g).env.resolution r prop d =
      resolve g.env.host prop d ⟨c.default? r.name prop, c.choices? r.name prop⟩ := rfl

theorem render_apply_congr {c c' : Config} {g g' : Generation σ} {r : Record}
    (hhost : g'.env.host = g.env.host) (hplugins : g'.env.plugins = g.env.plugins)
    (hc : c'.plugins = c.plugins) (h : c.AgreesOn c' r) :
    (c'.apply g').env.render r = (c.apply g).env.render r := by
  refine render_congr ?_ fun e he ↦ ?_
  · simp only [apply, hplugins, hc]
  · obtain ⟨hdefault, hchoices⟩ := h e.1 (List.mem_map_of_mem he)
    rw [resolution_apply, resolution_apply, hhost, hdefault, hchoices]

/-- What a configuration says on a prop of a component decides how the prop is resolved: its default
comes before the declared one, and its choices make a select of the prop. -/
structure Decides (r : Record) (prop : String) (input : Resolution σ) : Prop where
  default : ∀ b, input.binding = some b →
    (∃ s, input.value = .control ((g.env.host.control b).perform s).1) ∧
      ∀ v, c.default? r.name prop = some v → b.default = .ofDefault prop v
  choices : ∀ e, c.choices? r.name prop = some e → input.kind = .select ∧
    ∃ b options, input.binding = some b ∧ b.control = .select ∧ b.options = some options ∧
      (options.entries = e.entries ∨
        options.entries = e.entries ++ [(b.default.label, b.default.toJson)])

theorem decides_resolution (r : Record) (prop : String) (d : Declaration) :
    c.Decides g r prop (((c.apply g).env.resolution r prop d).perform s).1 := by
  rw [resolution_apply]
  generalize ho : (⟨c.default? r.name prop, c.choices? r.name prop⟩ : Overrides) = o
  have hdefault : c.default? r.name prop = o.default := by rw [← ho]
  have hchoices : c.choices? r.name prop = o.choices := by rw [← ho]
  by_cases h : (kindUnder d o.choices).isBound = true
  · obtain ⟨given, s', hgiven, hresolve⟩ := perform_resolve_bound g.env.host prop d o s h
    rw [hresolve]
    constructor
    · rintro b ⟨⟩
      refine ⟨⟨s', rfl⟩, fun v hv ↦ ?_⟩
      rw [hgiven v (hdefault ▸ hv)]
      cases o.choices <;> rfl
    · intro e he
      rw [hchoices.symm.trans he]
      exact ⟨rfl, _, _, rfl, rfl, rfl, e.entries_withChoice _⟩
  · have hfree : (kindUnder d o.choices).isBound = false := Bool.not_eq_true _ ▸ h
    rw [perform_resolve_free g.env.host prop d o s hfree]
    refine ⟨nofun, fun e he ↦ absurd ?_ h⟩
    rw [hchoices.symm.trans he]
    rfl

/-- The stories generated under a configuration follow it in every prop of their components, files
and functions included, and take nothing else from it but the plugins: what it says on other
components and props, and which hooks were set before, makes no difference to a render. -/
theorem decides_configured_props :
    (c.apply g).stories kind s =
      (g.found kind).map (fun r ↦ ⟨r.name, (c.apply g).env.render r⟩) ∧
    (∀ r ∈ g.found kind, ∀ s, ∀ p ∈ r.props.keys, ∃ input,
      (((c.apply g).env.resolutions r).perform s).1.get? p = some input ∧
      (((c.apply g).env.render r).perform s).1.input? p = some input.value ∧
      c.Decides g r p input) ∧
    ∀ (c' : Config) (defaultHook : Hook σ Json) (choiceHook : Hook σ Enumeration)
      (s' : Session σ), c'.plugins = c.plugins →
      ∀ (i : Nat) (r : Record), (g.found kind)[i]? = some r → c.AgreesOn c' r →
        ((c'.apply ((g.withDefaultHook defaultHook).withChoiceHook choiceHook)).stories
          kind s')[i]? = ((c.apply g).stories kind s)[i]? := by
  have hstories : (c.apply g).stories kind s =
      (g.found kind).map (fun r ↦ ⟨r.name, (c.apply g).env.render r⟩) :=
    (c.apply g).stories_eq kind s
  refine ⟨hstories, fun r _ s p hp ↦ ?_, fun c' defaultHook choiceHook s' hc i r hr h ↦ ?_⟩
  · obtain ⟨d, s', input, hinput, hd⟩ := get?_resolutions (c.apply g).env r s hp
    refine ⟨input, hinput, ?_, ?_⟩
    · rw [input?_render, hinput]
      rfl
    · rw [hd]
      exact c.decides_resolution g s' r p d
  · let g' := (g.withDefaultHook defaultHook).withChoiceHook choiceHook
    have hstories' : (c'.apply g').stories kind s' =
        (g.found kind).map (fun r ↦ ⟨r.name, (c'.apply g').env.render r⟩) :=
      (c'.apply g').stories_eq kind s'
    have hrender : (c'.apply g').env.render r = (c.apply g).env.render r :=
      render_apply_congr rfl rfl hc h
    rw [hstories, hstories', List.getElem?_map, List.getElem?_map, hr, Option.map_some,
      Option.map_some, hrender]

def profileComponent : Component where
  own := { props := some (.ofList
    [("avatar", { type := some .file }), ("label", { default := some (.literal (.string "Name")) })]) }

def profileFiles : Generation Nat where
  env := { host := countingHost }
  files := some
    ⟨["forms/Profile.vue"], fun _ ↦ some (Module.withComponent {} "default" profileComponent)⟩
  registry := {}

def profileRecord : Record :=
  ⟨.template, "forms", "Profile", profileComponent,
    Module.withComponent {} "default" profileComponent⟩

def profileConfig : Config where
  defaults := .ofList [("Profile", .ofList [("label", .null)])]
  enums := .ofList [("Profile", .ofList [("avatar", .ofList [("none", .null)])])]

/-- Says more than `profileConfig`, but on nothing that a profile shows. -/
def widerConfig : Config where
  schema := some "schema.json"
  defaults := .ofList
    [("Profile", .ofList [("label", .null), ("title", .string "Dr.")]),
      ("Field", .ofList [("label", .string "Name")])]
  enums := .ofList [("Profile", .ofList [("avatar", .ofList [("none", .null)])])]

theorem found_profileFiles : profileFiles.found "forms" = [profileRecord] := rfl

theorem decides_profile :
    let shown (p : String) :=
      (((profileConfig.apply profileFiles).env.resolutions profileRecord).perform ⟨0, []⟩).1.get? p
    profileConfig.AgreesOn widerConfig profileRecord ∧
    (∃ input b, shown "label" = some input ∧ input.binding = some b ∧ b.default = .json .null) ∧
    (∃ input, shown "avatar" = some input ∧ input.kind = .select) ∧
    ∃ e, ((profileConfig.apply profileFiles).stories "forms" ⟨0, []⟩)[0]? = some e ∧
      ((widerConfig.apply profileFiles).stories "forms" ⟨0, []⟩)[0]? = some e := by
  intro shown
  have hfound : profileRecord ∈ profileFiles.found "forms" := by simp [found_profileFiles]
  have hkeys : profileRecord.props.keys = ["avatar", "label", "SLOT"] := by decide
  have hagrees : profileConfig.AgreesOn widerConfig profileRecord := by
    intro p hp
    rw [hkeys] at hp
    simp only [List.mem_cons, List.not_mem_nil, or_false] at hp
    rcases hp with rfl | rfl | rfl <;> exact ⟨rfl, rfl⟩
  obtain ⟨hstories, hprops, hwider⟩ :=
    decides_configured_props profileConfig profileFiles "forms" ⟨0, []⟩
  refine ⟨hagrees, ?_, ?_, ?_⟩
  · obtain ⟨input, hinput, -, hdecides⟩ :=
      hprops profileRecord hfound ⟨0, []⟩ "label" (by simp [hkeys])
    have hbound : ((shown "label").bind (·.binding)).isSome = true := by decide
    have hlabel : shown "label" = some input := hinput
    rw [hlabel, Option.bind_some, Option.isSome_iff_exists] at hbound
    obtain ⟨b, hb⟩ := hbound
    exact ⟨input, b, hinput, hb, (hdecides.default b hb).2 _ rfl⟩
  · obtain ⟨input, hinput, -, hdecides⟩ :=
      hprops profileRecord hfound ⟨0, []⟩ "avatar" (by simp [hkeys])
    exact ⟨input, hinput, (hdecides.choices _ rfl).1⟩
  · have hfirst : (profileFiles.found "forms")[0]? = some profileRecord := by
      rw [found_profileFiles]
      rfl
    have hsame : ((widerConfig.apply profileFiles).stories "forms" ⟨0, []⟩)[0]? =
        ((profileConfig.apply profileFiles).stories "forms" ⟨0, []⟩)[0]? :=
      hwider widerConfig profileFiles.env.defaultHook profileFiles.env.choiceHook ⟨0, []⟩ rfl 0
        profileRecord hfirst hagrees
    rw [hsame, hstories, List.getElem?_map, hfirst]
    exact ⟨_, rfl, rfl⟩

end Config

end Showcase
