import Mathlib.Algebra.Ring.Nat
import Showcase.Proofs.OrderedMap
import Showcase.Registry

namespace Showcase

variable {α : Type}

section Groups

variable {f h : Group α → Group α} {kind k : String}

@[simp] theorem inGroup_nil : inGroup kind f [] = [f { kind }] := rfl

theorem inGroup_cons (g : Group α) (gs : List (Group α)) :
    inGroup kind f (g :: gs) = if g.kind = kind then f g :: gs else g :: inGroup kind f gs := by
  simp only [inGroup, openAt, List.findIdx?_cons]
  by_cases hg : g.kind = kind
  · simp [hg]
  · cases gs.findIdx? (·.kind = kind) <;> simp [hg]

theorem inGroup_inGroup (hf : ∀ g, (f g).kind = g.kind) (gs : List (Group α)) :
    inGroup kind h (inGroup kind f gs) = inGroup kind (h ∘ f) gs := by
  induction gs with
  | nil => simp [inGroup_cons, hf]
  | cons g gs ih => by_cases hk : g.kind = kind <;> simp [inGroup_cons, hk, hf, ih]

theorem inGroup_map {G : String → Group α} (hG : ∀ k, (G k).kind = k) {ks : List String}
    (hks : ks.Nodup) :
    inGroup kind f (ks.map G) =
      if kind ∈ ks then ks.map fun k ↦ if k = kind then f (G k) else G k
      else ks.map G ++ [f { kind }] := by
  induction ks with
  | nil => simp
  | cons k ks ih =>
    obtain ⟨hk, hks⟩ := List.nodup_cons.1 hks
    by_cases he : k = kind
    · subst he
      have hrest : (ks.map fun j ↦ if j = k then f (G j) else G j) = ks.map G := by
        refine List.map_congr_left fun j hj ↦ if_neg ?_
        rintro rfl
        exact hk hj
      simp [inGroup_cons, hG, hrest]
    · simp only [List.map_cons, inGroup_cons, hG, he, if_false, ih hks, List.mem_cons, Ne.symm he,
        false_or]
      split <;> rfl

theorem find?_inGroup (hf : ∀ g, (f g).kind = g.kind) (gs : List (Group α)) :
    (inGroup kind f gs).find? (·.kind = k) =
      if k = kind then some (f ((gs.find? (·.kind = kind)).getD { kind }))
      else gs.find? (·.kind = k) := by
  induction gs with
  | nil => by_cases hk : k = kind <;> simp [hf, hk, Ne.symm]
  | cons g gs ih =>
    by_cases hg : g.kind = kind
    · by_cases hk : k = kind
      · simp [inGroup_cons, hg, hf, hk]
      · simp [inGroup_cons, hg, hf, hk, Ne.symm hk]
    · by_cases hk : k = kind
      · subst hk
        simpa [inGroup_cons, hg] using ih
      · simp only [inGroup_cons, hg, if_false, List.find?_cons, ih, hk]

theorem find?_map_group {G : String → Group α} (hG : ∀ k, (G k).kind = k) (ks : List String) :
    (ks.map G).find? (·.kind = k) = if k ∈ ks then some (G k) else none := by
  induction ks with
  | nil => simp
  | cons j ks ih =>
    by_cases hj : j = k
    · simp [hj, hG]
    · simp only [List.map_cons, List.find?_cons, hG, hj, decide_false, ih, List.mem_cons,
        Ne.symm hj, false_or]

theorem sum_inGroup {n : Nat} (hf : ∀ g, (f g).stories.length = g.stories.length + n)
    (gs : List (Group α)) :
    ((inGroup kind f gs).map (·.stories.length)).sum = (gs.map (·.stories.length)).sum + n := by
  induction gs with
  | nil => simp [hf]
  | cons g gs ih =>
    by_cases hg : g.kind = kind
    · simp only [inGroup_cons, hg, if_true, List.map_cons, List.sum_cons, hf]
      omega
    · simp only [inGroup_cons, hg, if_false, List.map_cons, List.sum_cons, ih]
      omega

theorem Group.addDecorator_kind (d : Decorator) (g : Group α) :
    (g.addDecorator d).kind = g.kind := by
  rw [addDecorator]; split <;> rfl

theorem Group.addDecorator_stories (d : Decorator) (g : Group α) :
    (g.addDecorator d).stories = g.stories := by
  rw [addDecorator]; split <;> rfl

theorem Registry.size_eq_sum (r : Registry α) :
    r.size = (r.groups.map (·.stories.length)).sum := by
  rw [Registry.size, List.sum_eq_foldl, List.foldl_map]

end Groups

/-- A call on the handle of an open group. -/
inductive GroupCall (α : Type)
  | addDecorator (d : Decorator)
  | add (name : String) (story : α)

namespace GroupCall

def onRegistry (kind : String) (r : Registry α) : GroupCall α → Registry α
  | addDecorator d => r.addDecorator kind d
  | add name story => r.add kind name story

@[simp] def onGroup (g : Group α) : GroupCall α → Group α
  | addDecorator d => g.addDecorator d
  | add name story => g.add name story

@[simp] def decorator? : GroupCall α → Option Decorator
  | addDecorator d => some d
  | add _ _ => none

@[simp] def entry? : GroupCall α → Option (Entry α)
  | addDecorator _ => none
  | add name story => some ⟨name, story⟩

end GroupCall

/-- A group is opened, for the first time or again, and its handle used. -/
structure Visit (α : Type) where
  kind : String
  calls : List (GroupCall α)

def Registry.visit (r : Registry α) (v : Visit α) : Registry α :=
  v.calls.foldl (GroupCall.onRegistry v.kind) (r.openGroup v.kind)

def Registry.replay (log : List (Visit α)) : Registry α := log.foldl Registry.visit {}

section Log

variable (log : List (Visit α)) (kind : String)

def openedKinds : List String := (log.map (·.kind)).eraseDups

def callsUnder : List (GroupCall α) := (log.filter (·.kind = kind)).flatMap (·.calls)

def storiesUnder : List (Entry α) := (callsUnder log kind).filterMap GroupCall.entry?

def decoratorsUnder : List Decorator :=
  ((callsUnder log kind).filterMap GroupCall.decorator?).eraseDups

def groupUnder : Group α := ⟨kind, decoratorsUnder log kind, storiesUnder log kind⟩

end Log

theorem GroupCall.onGroup_kind (g : Group α) (c : GroupCall α) : (c.onGroup g).kind = g.kind := by
  cases c with
  | addDecorator d => exact Group.addDecorator_kind d g
  | add name story => rfl

theorem GroupCall.foldl_onGroup_kind (calls : List (GroupCall α)) (g : Group α) :
    (calls.foldl GroupCall.onGroup g).kind = g.kind := by
  induction calls generalizing g with
  | nil => rfl
  | cons c calls ih => exact (ih _).trans (onGroup_kind g c)

theorem GroupCall.onRegistry_groups (c : GroupCall α) (r : Registry α) (kind : String) :
    (c.onRegistry kind r).groups = inGroup kind c.onGroup r.groups := by cases c <;> rfl

theorem Registry.visit_groups (r : Registry α) (v : Visit α) :
    (r.visit v).groups = inGroup v.kind (v.calls.foldl GroupCall.onGroup) r.groups := by
  simp only [visit]
  induction v.calls using List.reverseRecOn with
  | nil => rfl
  | append_singleton calls c ih =>
    rw [List.foldl_concat, GroupCall.onRegistry_groups, ih,
      inGroup_inGroup (GroupCall.foldl_onGroup_kind calls)]
    congr 1
    funext g
    rw [List.foldl_concat, Function.comp_apply]

theorem GroupCall.foldl_onGroup_stories (calls : List (GroupCall α)) (g : Group α) :
    (calls.foldl GroupCall.onGroup g).stories = g.stories ++ calls.filterMap GroupCall.entry? := by
  induction calls generalizing g with
  | nil => simp
  | cons c calls ih =>
    cases c with
    | addDecorator d => simp [ih, Group.addDecorator_stories, List.filterMap_cons]
    | add name story => simp [ih, Group.add]

theorem GroupCall.foldl_onGroup_decorators (calls : List (GroupCall α)) (kind : String) :
    (calls.foldl GroupCall.onGroup { kind }).decorators =
      (calls.filterMap GroupCall.decorator?).eraseDups := by
  induction calls using List.reverseRecOn with
  | nil => rfl
  | append_singleton calls c ih =>
    rw [List.foldl_concat, List.filterMap_append]
    cases c with
    | addDecorator d =>
      have hone : [addDecorator (α := α) d].filterMap decorator? = [d] := rfl
      rw [hone, eraseDups_concat, onGroup, Group.addDecorator, ih]
      simp only [List.mem_eraseDups]
      split
      · exact ih
      · rfl
    | add name story =>
      have hone : [add name story].filterMap decorator? = [] := rfl
      rw [hone, List.append_nil]
      exact ih

theorem foldl_callsUnder (log : List (Visit α)) (kind : String) :
    (callsUnder log kind).foldl GroupCall.onGroup { kind } = groupUnder log kind := by
  ext1
  · exact GroupCall.foldl_onGroup_kind _ _
  · exact GroupCall.foldl_onGroup_decorators _ _
  · exact GroupCall.foldl_onGroup_stories _ _

theorem mem_openedKinds {log : List (Visit α)} {kind : String} :
    kind ∈ openedKinds log ↔ kind ∈ log.map (·.kind) := List.mem_eraseDups

theorem nodup_openedKinds (log : List (Visit α)) : (openedKinds log).Nodup := nodup_eraseDups _

theorem openedKinds_concat (log : List (Visit α)) (v : Visit α) :
    openedKinds (log ++ [v]) =
      if v.kind ∈ openedKinds log then openedKinds log else openedKinds log ++ [v.kind] := by
  simp only [mem_openedKinds]
  rw [openedKinds, List.map_append, List.map_singleton, eraseDups_concat, openedKinds]

theorem callsUnder_concat (log : List (Visit α)) (v : Visit α) (kind : String) :
    callsUnder (log ++ [v]) kind =
      callsUnder log kind ++ if v.kind = kind then v.calls else [] := by
  by_cases h : v.kind = kind <;> simp [callsUnder, h]

theorem callsUnder_of_notMem {log : List (Visit α)} {kind : String} (h : kind ∉ openedKinds log) :
    callsUnder log kind = [] := by
  rw [callsUnder, List.flatMap_eq_nil_iff]
  intro v hv
  obtain ⟨hv, hk⟩ := List.mem_filter.1 hv
  exact absurd (mem_openedKinds.2 (List.mem_map.2 ⟨v, hv, by simpa using hk⟩)) h

theorem groups_replay (log : List (Visit α)) :
    (Registry.replay log).groups = (openedKinds log).map (groupUnder log) := by
  induction log using List.reverseRecOn with
  | nil => rfl
  | append_singleton log v ih =>
    have hstep : (Registry.replay (log ++ [v])).groups =
        inGroup v.kind (v.calls.foldl GroupCall.onGroup) (Registry.replay log).groups := by
      rw [Registry.replay, List.foldl_concat, Registry.visit_groups, Registry.replay]
    have hgroup (k : String) : groupUnder (log ++ [v]) k =
        if k = v.kind then v.calls.foldl GroupCall.onGroup (groupUnder log k)
        else groupUnder log k := by
      simp only [← foldl_callsUnder, callsUnder_concat, List.foldl_append]
      by_cases hk : k = v.kind
      · simp [hk]
      · simp [hk, Ne.symm hk]
    -- Groups opened before keep their places; the visit is seen in the group of its kind only.
    rw [hstep, ih, inGroup_map (G := groupUnder log) (fun _ ↦ rfl) (nodup_openedKinds log),
      openedKinds_concat]
    split
    · exact List.map_congr_left fun k _ ↦ (hgroup k).symm
    · next hv =>
      have hnew : groupUnder log v.kind = { kind := v.kind } := by
        rw [← foldl_callsUnder, callsUnder_of_notMem hv]; rfl
      rw [List.map_append, List.map_singleton, hgroup, if_pos rfl, hnew]
      refine congrArg (· ++ _) (List.map_congr_left fun k hk ↦ ?_)
      rw [hgroup, if_neg]
      rintro rfl
      exact hv hk

theorem group?_replay (log : List (Visit α)) (kind : String) :
    (Registry.replay log).group? kind =
      if kind ∈ openedKinds log then some (groupUnder log kind) else none := by
  rw [Registry.group?, groups_replay, find?_map_group fun _ ↦ rfl]

theorem size_replay (log : List (Visit α)) :
    (Registry.replay log).size =
      ((log.flatMap (·.calls)).filterMap GroupCall.entry?).length := by
  induction log using List.reverseRecOn with
  | nil => rfl
  | append_singleton log v ih =>
    have hlen (g : Group α) : (v.calls.foldl GroupCall.onGroup g).stories.length =
        g.stories.length + (v.calls.filterMap GroupCall.entry?).length := by
      rw [GroupCall.foldl_onGroup_stories, List.length_append]
    rw [Registry.replay, List.foldl_concat, Registry.size_eq_sum, Registry.visit_groups,
      sum_inGroup hlen, ← Registry.size_eq_sum, ← Registry.replay, ih]
    simp

/-- A registry refines the plain log of the calls made on it: it lists the kinds as they were first
opened, a group has the stories and the distinct decorators given to it in the order of the calls,
and looking up a story finds the earliest of its name. -/
theorem registry_refines_log (log : List (Visit α)) :
    (Registry.replay log).groups.map (·.kind) = (log.map (·.kind)).eraseDups ∧
    ((Registry.replay log).groups.map (·.kind)).Nodup ∧
    (∀ g ∈ (Registry.replay log).groups,
      g.stories = storiesUnder log g.kind ∧ g.decorators = decoratorsUnder log g.kind) ∧
    (Registry.replay log).size =
      ((log.flatMap (·.calls)).filterMap GroupCall.entry?).length ∧
    (∀ kind, ((Registry.replay log).group? kind).isSome ↔ kind ∈ log.map (·.kind)) ∧
    (∀ kind g, (Registry.replay log).group? kind = some g →
      g ∈ (Registry.replay log).groups ∧ g.kind = kind) ∧
    ∀ kind name, (Registry.replay log).story? kind name =
      (storiesUnder log kind).find? (·.name = name) := by
  have hkinds : (Registry.replay log).groups.map (·.kind) = openedKinds log := by
    rw [groups_replay, List.map_map]
    exact List.map_id _
  refine ⟨hkinds, hkinds ▸ nodup_openedKinds log, ?_, size_replay log, ?_, ?_, ?_⟩
  · intro g hg
    rw [groups_replay] at hg
    obtain ⟨kind, -, rfl⟩ := List.mem_map.1 hg
    exact ⟨rfl, rfl⟩
  · intro kind
    rw [group?_replay, ← mem_openedKinds]
    split <;> simp_all
  · intro kind g hg
    exact ⟨List.mem_of_find?_eq_some hg, by simpa using List.find?_some hg⟩
  · intro kind name
    rw [Registry.story?, group?_replay]
    split
    · rfl
    · next h => rw [storiesUnder, callsUnder_of_notMem h]; rfl

end Showcase
