import Showcase.Config
import Showcase.Proofs.TemplateProps

namespace Showcase

variable {σ : Type}

/-- What the hooks say on a prop. -/
def Env.overrides (env : Env σ) (r : Record) (prop : String) (d : Declaration) :
    Action σ Overrides := do
  let context : PropContext := ⟨r, prop, d⟩
  let default ← env.defaultHook context
  let choices ← env.choiceHook context
  return { default, choices }

/-- The parts of an input fit each other. It was resolved in the session `s` under the overrides `o`,
and what it read from its control, if anything, led to the session `left`. -/
structure Resolution.Coherent (host : Host σ) (prop : String) (d : Declaration) (o : Overrides)
    (s left : Session σ) (input : Resolution σ) : Prop where
  name : input.name = prop
  kind : input.kind = if o.choices.isSome then .select else d.kind
  emptyFile : input.value = .emptyFile ↔ input.kind = .file
  callback : (∃ c, input.value = .callback c) ↔ input.kind = .function
  sink : ∀ c, input.value = .callback c → c = ⟨prop, host.acknowledge⟩
  unbound : input.binding = none ↔ input.kind = .file ∨ input.kind = .function
  read : ∀ b, input.binding = some b → b.name = prop ∧ ∃ bound a,
    (bindProp host prop d input.kind o).perform
      { s with log := s.log ++ probesUnder d o.choices } = (b, bound) ∧
    (host.control b).perform bound = (a, left) ∧ input.value = .control a

section Coherent

variable (host : Host σ) (prop : String) (d : Declaration) (o : Overrides) (s : Session σ)

theorem coherent_resolve : ((resolve host prop d o).perform s).1.Coherent host prop d o s
    ((resolve host prop d o).perform s).2 := by
  cases hbound : (kindUnder d o.choices).isBound with
  | true =>
    have hkind := Kind.isBound_iff.1 hbound
    rw [perform_resolve_of_isBound host prop d o s hbound]
    have hname : ((bindProp host prop d (kindUnder d o.choices) o).perform
        { s with log := s.log ++ probesUnder d o.choices }).1.name = prop := by
      rw [perform_bindProp, bindingOf_name]
    constructor
    case name => rfl
    case kind => rfl
    case emptyFile => simp [hkind.1]
    case callback => simp [hkind.2]
    case sink => simp
    case unbound => simp [hkind.1, hkind.2]
    case read =>
      intro b hb
      rw [← Option.some.inj hb]
      exact ⟨hname, _, _, rfl, rfl, rfl⟩
  | false =>
    rw [perform_resolve_free host prop d o s hbound]
    have hkind : kindUnder d o.choices = .file ∨ kindUnder d o.choices = .function := by
      by_contra hneither
      rw [not_or, ← Kind.isBound_iff, hbound] at hneither
      cases hneither
    constructor
    case name => rfl
    case kind => rfl
    case emptyFile => rcases hkind with h | h <;> simp [freeInput, h]
    case callback => rcases hkind with h | h <;> simp [freeInput, h]
    case sink => rcases hkind with h | h <;> simp [freeInput, h, eq_comm]
    case unbound => simpa using hkind
    case read => simp

end Coherent

/-- Whichever render of a story a callback was taken from, it calls the sink with the name under which
it was found. -/
theorem callback_of_input? {env : Env σ} {r : Record} {s : Session σ} {prop : String}
    {c : Callback σ} (h : ((env.render r).perform s).1.input? prop = some (.callback c)) :
    c = ⟨prop, env.host.acknowledge⟩ := by
  obtain ⟨d, o, s', -, hvalue⟩ := resolve_of_input? env r h
  exact (coherent_resolve env.host prop d o s').sink c hvalue.symm

namespace LogEvent

/-- The prop and the error of an acknowledgment that failed. -/
def failure? : LogEvent → Option (String × SinkError)
  | acknowledgeFailed prop e => some (prop, e)
  | _ => none

theorem level_of_failure? {x : LogEvent} {f : String × SinkError} (h : x.failure? = some f) :
    x.level = .debug := by
  cases x <;> cases h
  rfl

end LogEvent

def failures (log : List LogEvent) : List (String × SinkError) := log.filterMap LogEvent.failure?

section Acknowledge

/-- An answer of the sink leaves a message in the log if it is a failure. -/
def Session.noting (s : Session σ) (prop : String) : Except SinkError Unit → Session σ
  | .ok _ => s
  | .error e => { s with log := s.log ++ [.acknowledgeFailed prop e] }

/-- What the sink receives and answers, call by call; whatever it answers, the next call goes on from
there. -/
inductive Acknowledges (sink : Sink σ) :
    Session σ → List (String × Except SinkError Unit) → Session σ → Prop
  | done (s : Session σ) : Acknowledges sink s [] s
  | call {prop : String} {answer : Except SinkError Unit} {s s' left : Session σ}
      {rest : List (String × Except SinkError Unit)} :
      (sink prop).perform s = (answer, s') → Acknowledges sink (s'.noting prop answer) rest left →
      Acknowledges sink s ((prop, answer) :: rest) left

theorem Callback.perform_call (c : Callback σ) (s : Session σ) :
    let answer := (c.acknowledge c.prop).perform s
    c.call.perform s = ((), answer.2.noting c.prop answer.1) := by
  simp only [call, Action.perform_bind]
  cases ((c.acknowledge c.prop).perform s).1 <;> rfl

variable {sink : Sink σ}

theorem acknowledges_calls {calls : List (String × Callback σ)}
    (h : ∀ c ∈ calls, c.2 = ⟨c.1, sink⟩) (s : Session σ) : ∃ answers left,
    (forM calls fun (c : String × Callback σ) ↦ c.2.call).perform s = ((), left) ∧
      answers.map Prod.fst = calls.map Prod.fst ∧ Acknowledges sink s answers left := by
  induction calls generalizing s with
  | nil => exact ⟨[], s, rfl, rfl, .done s⟩
  | cons c calls ih =>
    rw [List.forall_mem_cons] at h
    let answer := (sink c.1).perform s
    have hcall : c.2.call.perform s = ((), answer.2.noting c.1 answer.1) := by
      rw [h.1, Callback.perform_call]
    obtain ⟨answers, left, hrun, hnames, hrest⟩ := ih h.2 (answer.2.noting c.1 answer.1)
    refine ⟨(c.1, answer.1) :: answers, left, ?_, ?_, .call rfl hrest⟩
    · rw [List.forM_cons, Action.perform_bind, hcall, hrun]
    · rw [List.map_cons, List.map_cons, hnames]

def failedAnswers (answers : List (String × Except SinkError Unit)) : List (String × SinkError) :=
  answers.filterMap fun a ↦
    match a.2 with
    | .ok _ => none
    | .error e => some (a.1, e)

theorem failedAnswers_cons (a : String × Except SinkError Unit)
    (rest : List (String × Except SinkError Unit)) :
    failedAnswers (a :: rest) = failedAnswers [a] ++ failedAnswers rest := by
  rw [← List.singleton_append, failedAnswers, List.filterMap_append]
  rfl

/-- The sink itself writes no message of a failure, and takes none back. -/
def Sink.KeepsFailures (sink : Sink σ) : Prop :=
  ∀ prop s, failures ((sink prop).perform s).2.log = failures s.log

theorem failures_noting (s : Session σ) (prop : String) (answer : Except SinkError Unit) :
    failures (s.noting prop answer).log = failures s.log ++ failedAnswers [(prop, answer)] := by
  cases answer with
  | ok _ => simp [Session.noting, failedAnswers]
  | error e => simp [Session.noting, failedAnswers, failures, LogEvent.failure?]

theorem Acknowledges.failures_eq (h : sink.KeepsFailures) {s left : Session σ}
    {answers : List (String × Except SinkError Unit)} (hrun : Acknowledges sink s answers left) :
    failures left.log = failures s.log ++ failedAnswers answers := by
  induction hrun with
  | done s => simp [failedAnswers]
  | @call prop answer s s' left rest hcall hrest ih =>
    have hkeep := h prop s
    rw [hcall] at hkeep
    rw [ih, failures_noting, hkeep, failedAnswers_cons _ rest, List.append_assoc]

end Acknowledge

/-- Every prop is resolved in its turn to an input whose parts fit each other: choices from the hook
make a select of it, whatever its type is, a file is handed over empty, a function is a callback that
bears the name of the prop, and any other prop has a binding of its own name and the value that was
read for it. Callbacks may be called as often as one likes and in any order: the sink receives the
names of the props that are called, and a failure of it leads to a debug message and nothing else. -/
theorem rendered_props_coherent (env : Env σ) (r : Record) (s : Session σ) :
    let inputs := ((env.resolutions r).perform s).1
    inputs.keys = r.props.keys ∧
    (∀ prop input, (prop, input) ∈ inputs.entries → ∃ before d after,
      r.props.entries = before ++ (prop, d) :: after ∧
      let turn := ((env.resolutionsOf r before).perform s).2
      let left := ((env.resolutionsOf r (before ++ [(prop, d)])).perform s).2
      let asked := (env.overrides r prop d).perform turn
      input.Coherent env.host prop d asked.1 asked.2 left) ∧
    ∀ (calls : List (String × Callback σ)) (s' : Session σ),
      (∀ c ∈ calls, ∃ s, ((env.render r).perform s).1.input? c.1 = some (.callback c.2)) →
      ∃ answers left, (forM calls fun (c : String × Callback σ) ↦ c.2.call).perform s' = ((), left) ∧
        answers.map Prod.fst = calls.map Prod.fst ∧
        Acknowledges env.host.acknowledge s' answers left ∧
        (env.host.acknowledge.KeepsFailures →
          failures left.log = failures s'.log ++ failedAnswers answers) ∧
        ∀ x ∈ left.log, ∀ f, x.failure? = some f → x.level = .debug := by
  intro inputs
  refine ⟨keys_resolutions env r s, fun prop input hmem ↦ ?_, fun calls s' hcalls ↦ ?_⟩
  · rw [entries_resolutions] at hmem
    obtain ⟨before, d, after, hes, hinput⟩ := resolved_in_turn env r hmem
    refine ⟨before, d, after, hes, ?_⟩
    intro turn left asked
    have hresolve : (resolve env.host prop d asked.1).perform asked.2 = (input, left) := hinput
    have hcoherent := coherent_resolve env.host prop d asked.1 asked.2
    rwa [hresolve] at hcoherent
  · have hsink : ∀ c ∈ calls, c.2 = ⟨c.1, env.host.acknowledge⟩ := by
      intro c hc
      obtain ⟨s, hs⟩ := hcalls c hc
      exact callback_of_input? hs
    obtain ⟨answers, left, hrun, hnames, hacknowledges⟩ := acknowledges_calls hsink s'
    exact ⟨answers, left, hrun, hnames, hacknowledges, fun h ↦ hacknowledges.failures_eq h,
      fun x _ f hx ↦ LogEvent.level_of_failure? hx⟩

section Dialog

/-- The sink fails at every other call. -/
def flakyHost : Host Nat where
  produce _ := return .null
  control := echo
  acknowledge _ := fun s ↦
    (if s.state % 2 = 0 then .error .unavailable else .ok (), { s with state := s.state + 1 })

def dialogEnv : Env Nat where
  choiceHook p := return if p.prop = "upload" then some (.ofList [("none", .null)]) else none
  host := flakyHost

def dialog : Record where
  style := .template
  group := "forms"
  name := "Dialog"
  component := { own := { props := some (.ofList
    [("upload", { type := some .file }), ("avatar", { type := some .file }),
      ("onSave", { type := some (.constructor .function) }),
      ("onClose", { default := some (.producer 0) })]) } }
  module := {}

def dialogCalls : List (String × Callback Nat) :=
  ["onSave", "onClose", "onSave"].map fun prop ↦ (prop, ⟨prop, flakyHost.acknowledge⟩)

theorem dialog_coherent :
    let inputs := ((dialogEnv.resolutions dialog).perform ⟨0, []⟩).1
    inputs.keys = ["upload", "avatar", "onSave", "onClose", "SLOT"] ∧
    (∃ input, inputs.get? "upload" = some input ∧ input.kind = .select ∧
      ∃ b, input.binding = some b ∧ b.name = "upload") ∧
    (∃ input, inputs.get? "avatar" = some input ∧ input.kind = .file ∧
      input.value = .emptyFile ∧ input.binding = none) ∧
    (∀ c ∈ dialogCalls, ∃ s,
      ((dialogEnv.render dialog).perform s).1.input? c.1 = some (.callback c.2)) ∧
    ∃ answers left, (forM dialogCalls fun (c : String × Callback Nat) ↦ c.2.call).perform ⟨0, []⟩ =
        ((), left) ∧
      answers.map Prod.fst = ["onSave", "onClose", "onSave"] ∧
      failures left.log = failedAnswers answers ∧
      failures left.log = [("onSave", .unavailable), ("onSave", .unavailable)] := by
  intro inputs
  obtain ⟨hkeys, hcoherent, hcalls⟩ := rendered_props_coherent dialogEnv dialog ⟨0, []⟩
  have hstory : ∀ c ∈ dialogCalls, ∃ s,
      ((dialogEnv.render dialog).perform s).1.input? c.1 = some (.callback c.2) := by
    intro c hc
    refine ⟨⟨0, []⟩, ?_⟩
    simp only [dialogCalls, List.map_cons, List.map_nil, List.mem_cons, List.not_mem_nil,
      or_false] at hc
    rcases hc with rfl | rfl | rfl <;> rfl
  have hkeeps : dialogEnv.host.acknowledge.KeepsFailures := fun _ _ ↦ rfl
  obtain ⟨answers, left, hrun, hnames, -, hfailures, -⟩ := hcalls dialogCalls ⟨0, []⟩ hstory
  refine ⟨hkeys, ?_, ?_, hstory, answers, left, hrun, hnames, hfailures hkeeps, ?_⟩
  · obtain ⟨input, hinput⟩ : ∃ input, inputs.get? "upload" = some input :=
      OrderedMap.mem_keys_iff_get?.1 (by rw [hkeys]; decide)
    obtain ⟨before, d, after, -, h⟩ := hcoherent "upload" input (OrderedMap.mem_entries_of_get? hinput)
    have hkind : input.kind = .select := h.kind
    have hbound : input.binding ≠ none := by
      rw [ne_eq, h.unbound, hkind]
      simp
    obtain ⟨b, hb⟩ := Option.ne_none_iff_exists'.1 hbound
    exact ⟨input, hinput, hkind, b, hb, (h.read b hb).1⟩
  · obtain ⟨input, hinput⟩ : ∃ input, inputs.get? "avatar" = some input :=
      OrderedMap.mem_keys_iff_get?.1 (by rw [hkeys]; decide)
    obtain ⟨before, d, after, hes, h⟩ :=
      hcoherent "avatar" input (OrderedMap.mem_entries_of_get? hinput)
    have hd : dialog.props.get? "avatar" = some d := by
      rw [OrderedMap.get?_eq_some_iff, hes]
      simp
    obtain rfl : d = { type := some .file } := Option.some.inj (hd.symm.trans rfl)
    have hkind : input.kind = .file := h.kind
    exact ⟨input, hinput, hkind, h.emptyFile.2 hkind, h.unbound.2 (.inl hkind)⟩
  · have hleft : ((forM dialogCalls fun (c : String × Callback Nat) ↦ c.2.call).perform
        ⟨0, []⟩).2 = left := congrArg Prod.snd hrun
    rw [← hleft]
    rfl

end Dialog

end Showcase
