import Showcase.Generation
import Showcase.Proofs.Action
import Showcase.Proofs.RegistryLog

namespace Showcase

variable {σ : Type}

@[simp] theorem FileInfo.file_ofPath (path : String) : (FileInfo.ofPath path).file = path := rfl

abbrev StoryEntry (σ : Type) := Entry (Action σ (Story σ))

/-- What one file comes to. -/
inductive Finding
  | story (r : Record)
  | notComponent (v : Json)
  | emptyExport
  | failed (e : FileError)

namespace Finding

def of (path : String) : Option Module → Finding
  | none => failed (.missingModule path)
  | some m =>
    match findExport (some m) (.ofPath path) with
    | .ok (_, .component c) =>
      story ⟨c.style, (FileInfo.ofPath path).group, (FileInfo.ofPath path).name, c, m⟩
    | .ok (_, .value v) => notComponent v
    | .ok (_, .empty) => emptyExport
    | .error e => failed e

@[simp] def event (path : String) : Finding → LogEvent
  | story r => .registered r.id
  | notComponent v => .notComponent path v
  | emptyExport => .emptyExport path
  | failed e => .noStory e

@[simp] def record? : Finding → Option Record
  | story r => some r
  | notComponent _ | emptyExport | failed _ => none

@[simp] def error? : Finding → Option FileError
  | failed e => some e
  | story _ | notComponent _ | emptyExport => none

def ids (f : Finding) : List StoryId := (f.record?.map Record.id).toList

def errors (f : Finding) : List FileError := f.error?.toList

def enter (env : Env σ) (f : Finding) (registry : Stories σ) : Stories σ :=
  f.record?.elim registry fun r ↦ register env r registry

def stories (env : Env σ) (kind : String) (f : Finding) : List (StoryEntry σ) :=
  ((f.record?.filter (·.group = kind)).map fun r ↦ ⟨r.name, env.render r⟩).toList

end Finding

section Visit

variable (env : Env σ) (acc : Outcome σ)

def Outcome.take (f : Finding) : Outcome σ :=
  { report := ⟨acc.report.registered ++ f.ids, acc.report.diagnostics ++ f.errors⟩
    registry := f.enter env acc.registry }

theorem perform_visit (files : Files) (path : String) (s : Session σ) :
    (visit env files acc path).perform s =
      (acc.take env (.of path (files.load path)),
        { s with log := s.log ++ [(Finding.of path (files.load path)).event path] }) := by
  simp only [visit, Record.find]
  cases files.load path with
  | none => simp [Finding.of, Outcome.take, Finding.ids, Finding.errors, Finding.enter]
  | some m =>
    simp only [Finding.of]
    rcases findExport (some m) (.ofPath path) with e | ⟨name, c | v | _⟩ <;>
      simp [Outcome.take, Finding.ids, Finding.errors, Finding.enter]

theorem perform_visits (files : Files) (keys : List String) (s : Session σ) :
    (keys.foldlM (visit env files) acc).perform s =
      (keys.foldl (fun acc p ↦ acc.take env (.of p (files.load p))) acc,
        { s with log := s.log ++ keys.map fun p ↦ (Finding.of p (files.load p)).event p }) := by
  induction keys generalizing acc s with
  | nil => simp
  | cons p keys ih => simp [perform_visit, ih]

theorem foldl_take (found : String → Finding) (keys : List String) :
    keys.foldl (fun acc p ↦ acc.take env (found p)) acc =
      { report := ⟨acc.report.registered ++ keys.flatMap fun p ↦ (found p).ids,
          acc.report.diagnostics ++ keys.flatMap fun p ↦ (found p).errors⟩
        registry := keys.foldl (fun registry p ↦ (found p).enter env registry) acc.registry } := by
  induction keys generalizing acc with
  | nil => simp
  | cons p keys ih =>
    rw [List.foldl_cons, ih]
    simp [Outcome.take]

end Visit

namespace Registry

variable {α : Type} (registry : Registry α) (kind : String)

def storiesIn : List (Entry α) := ((registry.group? kind).map (·.stories)).getD []

/-- One story, and nothing else, was added at the end of the group of a kind. -/
def AddsOne (after : Registry α) (e : Entry α) : Prop :=
  after.size = registry.size + 1 ∧
    ∀ k, after.storiesIn k = registry.storiesIn k ++ if k = kind then [e] else []

theorem addsOne_inGroup {f : Group α → Group α} {e : Entry α} (hk : ∀ g, (f g).kind = g.kind)
    (hs : ∀ g, (f g).stories = g.stories ++ [e]) :
    registry.AddsOne kind ⟨inGroup kind f registry.groups⟩ e := by
  constructor
  · rw [size_eq_sum, size_eq_sum]
    exact sum_inGroup (fun g ↦ by rw [hs, List.length_append]; rfl) _
  · intro k
    simp only [storiesIn, group?, find?_inGroup hk]
    by_cases h : k = kind
    · subst h
      cases registry.groups.find? (·.kind = k) <;> simp [hs]
    · simp [h]

end Registry

theorem register_addsOne (env : Env σ) (r : Record) (registry : Stories σ) :
    registry.AddsOne r.group (register env r registry) ⟨r.name, env.render r⟩ := by
  -- The decorator and the story go to the group in one change.
  have hg : register env r registry = ⟨inGroup r.group
      (Group.add r.name (env.render r) ∘ Group.addDecorator .withKnobs) registry.groups⟩ :=
    congrArg Registry.mk (inGroup_inGroup (Group.addDecorator_kind _) _)
  rw [hg]
  refine Registry.addsOne_inGroup _ _ (Group.addDecorator_kind _) fun g ↦ ?_
  simp [Group.add, Group.addDecorator_stories]

theorem storiesIn_enter (env : Env σ) (f : Finding) (registry : Stories σ) (kind : String) :
    (f.enter env registry).storiesIn kind = registry.storiesIn kind ++ f.stories env kind := by
  cases h : f.record? with
  | none =>
    rw [Finding.enter, h, Finding.stories, h]
    exact (List.append_nil _).symm
  | some r =>
    have hone := (register_addsOne env r registry).2 kind
    rw [Finding.enter, h, Option.elim_some, hone, Finding.stories, h]
    by_cases hk : r.group = kind
    · simp [hk, Option.filter]
    · simp [hk, Ne.symm hk, Option.filter]

theorem storiesIn_foldl_enter (env : Env σ) (found : String → Finding) (keys : List String)
    (registry : Stories σ) (kind : String) :
    (keys.foldl (fun registry p ↦ (found p).enter env registry) registry).storiesIn kind =
      registry.storiesIn kind ++ keys.flatMap fun p ↦ (found p).stories env kind := by
  induction keys generalizing registry with
  | nil => simp
  | cons p keys ih => rw [List.foldl_cons, ih, storiesIn_enter, List.flatMap_cons, List.append_assoc]

theorem Finding.mem_stories {env : Env σ} {kind : String} {f : Finding} {e : StoryEntry σ}
    (h : e ∈ f.stories env kind) : ∃ r, f = .story r ∧ e = ⟨r.name, env.render r⟩ := by
  cases f with
  | story r =>
    have hmem : e ∈ (((some r).filter (·.group = kind)).map fun r ↦ ⟨r.name, env.render r⟩) := by
      simpa [Finding.stories] using h
    obtain ⟨r', hr', rfl⟩ := Option.map_eq_some_iff.1 hmem
    obtain rfl := Option.some.inj (Option.filter_eq_some_iff.1 hr').1
    exact ⟨r, rfl, rfl⟩
  | notComponent v => cases h
  | emptyExport => cases h
  | failed e => cases h

theorem findExport_error {m : Option Module} {info : FileInfo} {e : FileError}
    (h : findExport m info = .error e) : e.file = info.file := by
  cases m with
  | none =>
    cases h
    rfl
  | some m =>
    simp only [findExport] at h
    split at h
    · cases h
    · cases h
      rfl

/-- A file leaves one event in the log, and one outcome: a story, an error that names it, or
nothing. -/
def Finding.Settled (env : Env σ) (registry : Stories σ) (path : String) (f : Finding) : Prop :=
  (∃ r, f.event path = .registered r.id ∧ (f.event path).level = .debug ∧
    f.ids = [r.id] ∧ f.errors = [] ∧
    registry.AddsOne r.group (f.enter env registry) ⟨r.name, env.render r⟩) ∨
  (((∃ v, f.event path = .notComponent path v) ∨ f.event path = .emptyExport path) ∧
    (f.event path).level = .debug ∧
    f.ids = [] ∧ f.errors = [] ∧ f.enter env registry = registry) ∨
  (∃ e, e.file = path ∧ f.event path = .noStory e ∧ (f.event path).level = .error ∧
    f.ids = [] ∧ f.errors = [e] ∧ f.enter env registry = registry)

theorem Finding.of_settled (env : Env σ) (registry : Stories σ) (path : String)
    (m : Option Module) : (Finding.of path m).Settled env registry path := by
  have hfailed (e : FileError) (he : e.file = path) :
      (Finding.failed e).Settled env registry path :=
    .inr (.inr ⟨e, he, rfl, rfl, rfl, rfl, rfl⟩)
  cases m with
  | none => exact hfailed _ rfl
  | some m =>
    simp only [Finding.of]
    split
    · exact .inl ⟨_, rfl, rfl, rfl, rfl, register_addsOne env _ registry⟩
    · exact .inr (.inl ⟨.inl ⟨_, rfl⟩, rfl, rfl, rfl, rfl⟩)
    · exact .inr (.inl ⟨.inr rfl, rfl, rfl, rfl, rfl⟩)
    · next h => exact hfailed _ (findExport_error h)

def FileTable.supply (files : FileTable) : String × Option Module → FileTable
  | (path, some m) => files.withModule path m
  | (path, none) => files.withMissing path

theorem FileTable.foldl_supply (calls : List (String × Option Module)) :
    calls.foldl FileTable.supply .empty = OrderedMap.ofList calls := by
  have hsupply (files : FileTable) (c : String × Option Module) :
      files.supply c = files.insert c.1 c.2 := by
    rcases c with ⟨path, _ | m⟩ <;> rfl
  simp only [OrderedMap.ofList, ← hsupply]

def Report.append (a b : Report) : Report :=
  ⟨a.registered ++ b.registered, a.diagnostics ++ b.diagnostics⟩

section Run

variable (env : Env σ) (load : String → Option Module) (keys : List String)
  (registry : Stories σ)

def generateOver : Action σ (Outcome σ) :=
  Generation.run { env, files := some ⟨keys, load⟩, registry }

theorem perform_generateOver (s : Session σ) :
    (generateOver env load keys registry).perform s =
      ({ report := ⟨keys.flatMap fun p ↦ (Finding.of p (load p)).ids,
          keys.flatMap fun p ↦ (Finding.of p (load p)).errors⟩
         registry := keys.foldl (fun registry p ↦ (Finding.of p (load p)).enter env registry)
          registry },
        { s with log := s.log ++ keys.map fun p ↦ (Finding.of p (load p)).event p }) := by
  rw [generateOver, Generation.run, perform_visits, foldl_take]
  rfl

theorem generateOver_append (xs ys : List String) :
    generateOver env load (xs ++ ys) registry = do
      let a ← generateOver env load xs registry
      let b ← generateOver env load ys a.registry
      return ⟨a.report.append b.report, b.registry⟩ := by
  ext1 s
  simp [perform_generateOver, Report.append]

theorem foldl_enter_filter {keep : String → Bool} {found : String → Finding}
    (h : ∀ p, keep p = false → (found p).record? = none) :
    (keys.filter keep).foldl (fun registry p ↦ (found p).enter env registry) registry =
      keys.foldl (fun registry p ↦ (found p).enter env registry) registry := by
  rw [List.foldl_filter]
  congr 1
  funext registry p
  cases hp : keep p
  · rw [Finding.enter, h p hp]
    rfl
  · rfl

theorem flatMap_ids_filter {keep : String → Bool} {found : String → Finding}
    (h : ∀ p, keep p = false → (found p).record? = none) :
    ((keys.filter keep).flatMap fun p ↦ (found p).ids) = keys.flatMap fun p ↦ (found p).ids := by
  induction keys with
  | nil => rfl
  | cons p keys ih =>
    cases hp : keep p
    · have hr : (found p).ids = [] := by rw [Finding.ids, h p hp]; rfl
      rw [List.filter_cons_of_neg (by simp [hp]), ih, List.flatMap_cons, hr, List.nil_append]
    · rw [List.filter_cons_of_pos hp, List.flatMap_cons, ih, List.flatMap_cons]

/-- A run treats the files one by one, in the order in which they are listed. What it reports, logs
and registers is put together from what each file comes to by its own path and module, so a run can
be cut in two anywhere, and a file that fails can be left out. A table of files lists every path it
was given once, with its last module. -/
theorem run_file_by_file (s : Session σ) :
    (generateOver env load keys registry).perform s =
      ({ report := ⟨keys.flatMap fun p ↦ (Finding.of p (load p)).ids,
          keys.flatMap fun p ↦ (Finding.of p (load p)).errors⟩
         registry := keys.foldl (fun registry p ↦ (Finding.of p (load p)).enter env registry)
          registry },
        { s with log := s.log ++ keys.map fun p ↦ (Finding.of p (load p)).event p }) ∧
    (∀ kind, ((generateOver env load keys registry).perform s).1.registry.storiesIn kind =
      registry.storiesIn kind ++ keys.flatMap fun p ↦ (Finding.of p (load p)).stories env kind) ∧
    (∀ path m before, (Finding.of path m).Settled env before path) ∧
    (∀ xs ys, generateOver env load (xs ++ ys) registry = do
      let a ← generateOver env load xs registry
      let b ← generateOver env load ys a.registry
      return ⟨a.report.append b.report, b.registry⟩) ∧
    (∀ dropped : String → Bool,
      let kept := keys.filter fun p ↦ !(dropped p && (Finding.of p (load p)).error?.isSome)
      let all := ((generateOver env load keys registry).perform s).1
      let rest := ((generateOver env load kept registry).perform s).1
      rest.registry = all.registry ∧ rest.report.registered = all.report.registered) ∧
    ∀ calls : List (String × Option Module),
      let files := (calls.foldl FileTable.supply .empty).toFiles
      files.keys = (calls.map Prod.fst).eraseDups ∧ files.keys.Nodup ∧
        ∀ path, files.load path = (calls.reverse.lookup path).join := by
  refine ⟨perform_generateOver env load keys registry s, fun kind ↦ ?_,
    fun path m before ↦ Finding.of_settled env before path m,
    generateOver_append env load registry, fun dropped ↦ ?_, fun calls ↦ ?_⟩
  · rw [perform_generateOver]
    exact storiesIn_foldl_enter env (fun p ↦ .of p (load p)) keys registry kind
  · have h (p : String)
        (hp : (!(dropped p && (Finding.of p (load p)).error?.isSome)) = false) :
        (Finding.of p (load p)).record? = none := by
      cases hf : Finding.of p (load p) <;> simp_all
    simp only [perform_generateOver]
    exact ⟨foldl_enter_filter env keys registry h, flatMap_ids_filter keys h⟩
  · rw [FileTable.foldl_supply]
    refine ⟨OrderedMap.keys_ofList calls, (OrderedMap.ofList calls).keys_nodup, fun path ↦ ?_⟩
    exact congrArg Option.join (OrderedMap.get?_ofList calls path)

end Run

end Showcase
