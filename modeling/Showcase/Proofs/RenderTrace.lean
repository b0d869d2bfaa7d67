import Showcase.Proofs.FileByFile
import Showcase.Proofs.Watch

namespace Showcase

variable {σ : Type}

/-- What is answered while a prop is resolved: by the hooks, and by a producer if one is called. -/
structure Answers where
  caller : Option Json := none
  choices : Option Enumeration := none
  produced : Json := .null

namespace DefaultSource

def producer? : DefaultSource → Option Nat
  | literal _ => none
  | producer id => some id

def valueFrom (produced : Json) : DefaultSource → Json
  | literal v => v
  | producer _ => produced

end DefaultSource

namespace Declaration

variable (d : Declaration) (x : Answers)

/-- The producer that is called: the declared one, unless the caller gives a default. -/
def called? : Option Nat :=
  if x.caller.isSome then none else d.default.bind DefaultSource.producer?

def given : Option Json := x.caller <|> d.default.map (DefaultSource.valueFrom x.produced)

end Declaration

section Calls

variable (prop : String) (d : Declaration) (x : Answers)

def producerCalls : List Call := ((d.called? x).map fun id ↦ .produce id x.produced).toList

/-- A prop that is bound reads its control, right after the producer of its default if one is
called; files and functions call nothing. -/
def boundCalls : List Call :=
  let kind := kindUnder d x.choices
  if kind.isBound then
    producerCalls d x ++ [.control (bindingOf prop kind x.choices (argOf prop kind (d.given x)))]
  else []

def propCalls : List Call :=
  [.defaultHook prop x.caller, .choiceHook prop x.choices] ++ boundCalls prop d x

theorem read?_propCalls : (propCalls prop d x).filterMap Call.read? =
    if (kindUnder d x.choices).isBound then [(prop, (kindUnder d x.choices).control)] else [] := by
  have hhooks : (propCalls prop d x).filterMap Call.read? =
      (boundCalls prop d x).filterMap Call.read? := rfl
  have hproducer : (producerCalls d x).filterMap Call.read? = [] := by
    rw [producerCalls]
    cases d.called? x <;> rfl
  rw [hhooks, boundCalls]
  split
  · rw [List.filterMap_append, hproducer, List.nil_append, List.filterMap_cons, Call.read?,
      bindingOf_name, bindingOf_control]
    rfl
  · rfl

theorem producer?_propCalls : (propCalls prop d x).filterMap Call.producer? =
    if (kindUnder d x.choices).isBound then (d.called? x).toList else [] := by
  have hhooks : (propCalls prop d x).filterMap Call.producer? =
      (boundCalls prop d x).filterMap Call.producer? := rfl
  rw [hhooks, boundCalls]
  split
  · rw [List.filterMap_append, producerCalls]
    cases d.called? x <;> rfl
  · rfl

end Calls

def renderCalls (es : List (String × Declaration)) (answers : String → Answers) : List Call :=
  es.flatMap fun e ↦ propCalls e.1 e.2 (answers e.1)

def kindsUnder (r : Record) (answers : String → Answers) : List (String × Kind) :=
  r.props.entries.map fun e ↦ (e.1, kindUnder e.2 (answers e.1).choices)

/-- The calls of one render: a control is read once for every prop that is bound, with the name and
the control of the prop, and a producer is called only for the default that such a prop needs. -/
structure RenderTrace (r : Record) (answers : String → Answers) (t : List Call) : Prop where
  calls : t = renderCalls r.props.entries answers
  reads : t.filterMap Call.read? =
    ((kindsUnder r answers).filter (·.2.isBound)).map fun k ↦ (k.1, k.2.control)
  producers : t.filterMap Call.producer? =
    (r.props.entries.filter fun e ↦ (kindUnder e.2 (answers e.1).choices).isBound).filterMap
      fun e ↦ e.2.called? (answers e.1)

theorem renderTrace_renderCalls (r : Record) (answers : String → Answers) :
    RenderTrace r answers (renderCalls r.props.entries answers) := by
  refine ⟨rfl, ?_, ?_⟩
  · rw [kindsUnder, renderCalls]
    induction r.props.entries with
    | nil => rfl
    | cons e es ih =>
      rw [List.flatMap_cons, List.filterMap_append, ih, read?_propCalls, List.map_cons,
        List.filter_cons]
      split <;> rfl
  · rw [renderCalls]
    induction r.props.entries with
    | nil => rfl
    | cons e es ih =>
      rw [List.flatMap_cons, List.filterMap_append, ih, producer?_propCalls, List.filter_cons]
      split
      · rw [List.filterMap_cons]
        cases e.2.called? (answers e.1) <;> rfl
      · rfl

section Leads

variable (env : Env σ) (s : Session (Watched σ))

theorem leads_givenDefault (d : Declaration) (caller : Option Json) (choices : Option Enumeration) :
    ∃ v, ((givenDefault env.watched.host d caller).perform s).1 = d.given ⟨caller, choices, v⟩ ∧
      Leads env s (producerCalls d ⟨caller, choices, v⟩)
        ((givenDefault env.watched.host d caller).perform s).2 := by
  obtain ⟨type, default⟩ := d
  cases caller with
  | some v => exact ⟨.null, rfl, .of_state_eq rfl⟩
  | none =>
    match default with
    | none => exact ⟨.null, rfl, .of_state_eq rfl⟩
    | some (.literal v) => exact ⟨.null, rfl, .of_state_eq rfl⟩
    | some (.producer id) => exact ⟨_, rfl, .produce env s id⟩

theorem leads_resolve (prop : String) (d : Declaration) (caller : Option Json)
    (choices : Option Enumeration) : ∃ v,
    Leads env s (boundCalls prop d ⟨caller, choices, v⟩)
      ((resolve env.watched.host prop d ⟨caller, choices⟩).perform s).2 := by
  rw [resolve_eq]
  simp only [Action.perform_bind, perform_inputKind]
  -- A failed call of the type is logged before anything else, and is no call on the host.
  have hlog : Leads env s [] { s with log := s.log ++ probesUnder d choices } := .of_state_eq rfl
  by_cases h : (kindUnder d choices).isBound
  · obtain ⟨v, hv, hgiven⟩ := leads_givenDefault env
      { s with log := s.log ++ probesUnder d choices } d caller choices
    refine ⟨v, ?_⟩
    rw [if_pos h, boundCalls, if_pos h, ← hv]
    simp only [Action.perform_bind, perform_bindProp]
    exact (hlog.trans hgiven).trans (.control env _ _)
  · refine ⟨.null, ?_⟩
    rw [if_neg h, boundCalls, if_neg h]
    exact hlog

theorem leads_resolution (r : Record) (prop : String) (d : Declaration) : ∃ x,
    Leads env s (propCalls prop d x) ((env.watched.resolution r prop d).perform s).2 := by
  let context : PropContext := ⟨r, prop, d⟩
  let caller := (env.watched.defaultHook context).perform s
  let choices := (env.watched.choiceHook context).perform caller.2
  have hhooks := (Leads.defaultHook env s context).trans (.choiceHook env caller.2 context)
  obtain ⟨v, hv⟩ := leads_resolve env choices.2 prop d caller.1 choices.1
  exact ⟨⟨caller.1, choices.1, v⟩, hhooks.trans hv⟩

theorem leads_resolutionsOf (r : Record) {es : List (String × Declaration)}
    (h : (es.map Prod.fst).Nodup) : ∃ answers,
    Leads env s (renderCalls es answers) ((env.watched.resolutionsOf r es).perform s).2 := by
  induction es generalizing s with
  | nil => exact ⟨fun _ ↦ {}, .of_state_eq rfl⟩
  | cons e es ih =>
    rw [List.map_cons, List.nodup_cons] at h
    obtain ⟨x, hx⟩ := leads_resolution env s r e.1 e.2
    obtain ⟨answers, hrest⟩ := ih ((env.watched.resolution r e.1 e.2).perform s).2 h.2
    -- Names are distinct, so the answers for this prop do not get in the way of the later ones.
    refine ⟨Function.update answers e.1 x, ?_⟩
    have hkeep : renderCalls es (Function.update answers e.1 x) = renderCalls es answers := by
      refine List.flatMap_congr fun e' he' ↦ ?_
      have hne : e'.1 ≠ e.1 := fun he ↦ h.1 (he ▸ List.mem_map_of_mem he')
      rw [Function.update_of_ne hne]
    have hcons : renderCalls (e :: es) (Function.update answers e.1 x) =
        propCalls e.1 e.2 x ++ renderCalls es answers := by
      rw [← hkeep, renderCalls, List.flatMap_cons, Function.update_self]
      rfl
    rw [hcons]
    exact hx.trans hrest

theorem leads_render (r : Record) : ∃ answers,
    Leads env s (renderCalls r.props.entries answers) ((env.watched.render r).perform s).2 := by
  obtain ⟨answers, h⟩ := leads_resolutionsOf env s r r.props.keys_nodup
  refine ⟨answers, ?_⟩
  rw [Env.render]
  cases r.style <;> exact h

theorem leads_renders {P : Record → Prop} {picks : List (StoryEntry (Watched σ))}
    (h : ∀ e ∈ picks, ∃ r, P r ∧ e = ⟨r.name, env.watched.render r⟩) : ∃ traces,
    List.Forall₂ (fun e t ↦ ∃ r, (P r ∧ e = ⟨r.name, env.watched.render r⟩) ∧
      ∃ answers, RenderTrace r answers t) picks traces ∧
    Leads env s traces.flatten ((picks.mapM Entry.story).perform s).2 := by
  induction picks generalizing s with
  | nil => exact ⟨[], .nil, .of_state_eq rfl⟩
  | cons e picks ih =>
    obtain ⟨r, hr, rfl⟩ := h e (List.mem_cons_self ..)
    obtain ⟨answers, hrender⟩ := leads_render env s r
    obtain ⟨traces, hall, hrest⟩ :=
      ih ((env.watched.render r).perform s).2 fun e he ↦ h e (List.mem_cons_of_mem _ he)
    refine ⟨_ :: traces, .cons ⟨r, ⟨hr, rfl⟩, answers, renderTrace_renderCalls r answers⟩ hall, ?_⟩
    rw [List.mapM_cons]
    exact hrender.trans hrest

end Leads

def Registry.addedIn {α : Type} (before after : Registry α) (kind : String) : List (Entry α) :=
  (after.storiesIn kind).drop (before.storiesIn kind).length

/-- A run asks nobody for anything. Afterwards its stories can be rendered in any order and as often
as one likes: each render makes the calls of its own props, the calls of all renders follow each
other, and a producer that counts its calls goes through its values over all of them. -/
theorem renders_in_order (env : Env σ) (load : String → Option Module) (keys : List String)
    (before : Stories (Watched σ)) (s : Session (Watched σ))
    (picks : List (StoryEntry (Watched σ)))
    (h : ∀ e ∈ picks, ∃ kind, e ∈ before.addedIn
      ((generateOver env.watched load keys before).perform s).1.registry kind) :
    let run := (generateOver env.watched load keys before).perform s
    run.2.state = s.state ∧ ∃ traces : List (List Call),
      List.Forall₂ (fun e t ↦ ∃ r, ((∃ p ∈ keys, Finding.of p (load p) = .story r) ∧
        e = ⟨r.name, env.watched.render r⟩) ∧ ∃ answers, RenderTrace r answers t) picks traces ∧
      ((picks.mapM Entry.story).perform run.2).2.state.calls = s.state.calls ++ traces.flatten ∧
      ∀ id count values, env.Counts id count values →
        answersOf id traces.flatten =
          (List.range' (count s.state.state) (answersOf id traces.flatten).length).map values := by
  intro run
  have hstate : run.2.state = s.state := by
    simp only [run, perform_generateOver]
  have hrecords : ∀ e ∈ picks, ∃ r, (∃ p ∈ keys, Finding.of p (load p) = .story r) ∧
      e = ⟨r.name, env.watched.render r⟩ := by
    intro e he
    obtain ⟨kind, hkind⟩ := h e he
    rw [Registry.addedIn, perform_generateOver, storiesIn_foldl_enter, List.drop_left] at hkind
    obtain ⟨p, hp, hmem⟩ := List.mem_flatMap.1 hkind
    obtain ⟨r, hr, he⟩ := Finding.mem_stories hmem
    exact ⟨r, ⟨p, hp, hr⟩, he⟩
  obtain ⟨traces, hall, hleads⟩ := leads_renders env run.2 hrecords
  refine ⟨hstate, traces, hall, ?_, fun id count values hc ↦ ?_⟩
  · rw [hleads.calls, hstate]
  · rw [← hstate]
    exact hleads.answers hc

/-- Every control answers with the number of reads before. -/
def tallyEnv : Env Nat where
  host := {
    produce := fun _ ↦ return .null
    control := fun _ s ↦ (.json (.integer s.state), { s with state := s.state + 1 })
    acknowledge := logAcknowledged }

def rangeModule : Module := Module.withComponent {} "default"
  { own := { props := some (.ofList
    [("from", { default := some (.producer 0), type := some (.label "number") }),
      ("to", { default := some (.producer 0), type := some (.label "number") })]) } }

theorem shared_producer_goes_on :
    let run := (generateOver (tallyEnv.counting fun _ n ↦ .integer n).watched
      (fun _ ↦ some rangeModule) ["forms/Range.vue"] {}).perform ⟨⟨⟨0, fun _ ↦ 0⟩, []⟩, []⟩
    let stories := run.1.registry.storiesIn "forms"
    (∀ e ∈ stories ++ stories, ∃ kind, e ∈ Registry.addedIn {} run.1.registry kind) ∧
      ∃ traces : List (List Call), traces.length = 2 ∧
        (traces.flatten.filterMap Call.read?).map Prod.fst =
          ["from", "to", "SLOT", "from", "to", "SLOT"] ∧
        answersOf 0 traces.flatten = [.integer 0, .integer 1, .integer 2, .integer 3] := by
  intro run stories
  have hpicks : ∀ e ∈ stories ++ stories, ∃ kind, e ∈ Registry.addedIn {} run.1.registry kind := by
    intro e he
    refine ⟨"forms", ?_⟩
    rw [List.mem_append, or_self] at he
    have hnew (after : Stories (Watched (Counting Nat))) :
        Registry.addedIn {} after "forms" = after.storiesIn "forms" := rfl
    rw [hnew]
    exact he
  obtain ⟨-, traces, hall, hcalls, hvalues⟩ := renders_in_order
    (tallyEnv.counting fun _ n ↦ .integer n) _ _ _ _ (stories ++ stories) hpicks
  rw [List.nil_append] at hcalls
  have hlength : (answersOf 0 traces.flatten).length = 4 := by
    rw [← hcalls]
    decide +kernel
  refine ⟨hpicks, traces, hall.length_eq.symm, ?_, ?_⟩
  · rw [← hcalls]
    decide +kernel
  · rw [hvalues 0 _ _ (Env.counts_counting _ _ 0), hlength]
    rfl

end Showcase
