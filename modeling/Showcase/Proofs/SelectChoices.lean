import Showcase.Proofs.KindInference
import Showcase.Proofs.RenderTrace
import Showcase.Proofs.TemplateProps

namespace Showcase

variable {σ : Type}

namespace Enumeration

variable {e : Enumeration} {a : Arg}

/-- The default is added under its own label, if that is still free. -/
theorem mem_entries_withChoice {x : String × Json} : x ∈ (e.withChoice a).entries ↔
    x ∈ e.entries ∨ (a.label ∉ e.keys ∧ x = (a.label, a.toJson)) := by
  by_cases h : a.label ∈ e.keys
  · simp [withChoice_of_mem h, h]
  · simp [entries_withChoice_of_notMem h, h]

theorem label_mem_keys_withChoice : a.label ∈ (e.withChoice a).keys := by
  by_cases h : a.label ∈ e.keys
  · rwa [withChoice_of_mem h]
  · rw [OrderedMap.keys, entries_withChoice_of_notMem h]
    simp

end Enumeration

theorem Arg.toJson_of_json? {a : Arg} {v : Json} (h : a.json? = some v) : a.toJson = v := by
  rw [toJson, h, Option.getD_some]

/-- Choices go by their labels: the default of a select is added under its own label, as its value,
when that label is absent, and the choices stay as they are when it is taken. So the label of the
default is always there, but the default itself is offered only if the label was free or some choice
had its value before. Values may be compared in any way that finds each equal to itself. -/
theorem default_offered_iff (host : Host σ) (prop : String) (d : Declaration) (kind : Kind)
    (caller : Option Json) (e : Enumeration) (s : Session σ) :
    let b := ((bindProp host prop d kind ⟨caller, some e⟩).perform s).1
    ∃ options, b.options = some options ∧ b.default.label ∈ options.keys ∧
      (b.default.label ∈ e.keys → options = e) ∧
      (b.default.label ∉ e.keys →
        options.entries = e.entries ++ [(b.default.label, b.default.toJson)]) ∧
      ∀ v, b.default.json? = some v → ∀ same : Json → Json → Prop, (∀ v, same v v) →
        ((∃ x ∈ options.entries, same x.2 v) ↔
          b.default.label ∉ e.keys ∨ ∃ x ∈ e.entries, same x.2 v) := by
  intro b
  obtain ⟨default, hb⟩ : ∃ default, b = .select prop (e.withChoice default) default :=
    ⟨_, congrArg Prod.fst (perform_bindProp host prop d ⟨caller, some e⟩ s kind)⟩
  rw [hb]
  refine ⟨e.withChoice default, rfl, Enumeration.label_mem_keys_withChoice,
    Enumeration.withChoice_of_mem, Enumeration.entries_withChoice_of_notMem,
    fun v hv same hsame ↦ ?_⟩
  have hdefault : default.toJson = v := Arg.toJson_of_json? hv
  simp only [Enumeration.mem_entries_withChoice, hdefault, Binding.select]
  constructor
  · intro ⟨x, hx, hxv⟩
    rcases hx with hx | ⟨hfree, -⟩
    · exact .inr ⟨x, hx, hxv⟩
    · exact .inl hfree
  · intro h
    rcases h with hfree | ⟨x, hx, hxv⟩
    · exact ⟨(default.label, v), .inr ⟨hfree, rfl⟩, hsame v⟩
    · exact ⟨x, .inl hx, hxv⟩

section Sizes

/-- The label of a size is the text of a number, but its value is not that number. -/
def sizes : Enumeration := .ofList [("2", .string "two"), ("L", .integer 3)]

theorem no_size_is_two : ¬ ∃ x ∈ sizes.entries, x.2 = .integer 2 := by
  intro ⟨x, hx, hv⟩
  have hentries : sizes.entries = [("2", .string "two"), ("L", .integer 3)] := rfl
  rw [hentries, List.mem_pair] at hx
  rcases hx with rfl | rfl <;> simp [Json.integer] at hv

def sizeBinding (caller : Json) : Binding :=
  ((bindProp quietEnv.host "size" {} .select ⟨some caller, some sizes⟩).perform ⟨(), []⟩).1

theorem sizes_offer_three :
    (sizeBinding (.integer 2)).default.json? = some (.integer 2) ∧
    (sizeBinding (.integer 2)).options = some sizes ∧
    (¬ ∃ x ∈ sizes.entries, x.2 = .integer 2) ∧
    ∃ options, (sizeBinding (.integer 3)).options = some options ∧
      options.entries = sizes.entries ++ [("3", .integer 3)] ∧
      ∃ x ∈ options.entries, x.2 = .integer 3 := by
  obtain ⟨taken, htaken, -, hkept, -, htwo⟩ :=
    default_offered_iff quietEnv.host "size" {} .select (some (.integer 2)) sizes ⟨(), []⟩
  obtain ⟨options, hoptions, -, -, hadded, hthree⟩ :=
    default_offered_iff quietEnv.host "size" {} .select (some (.integer 3)) sizes ⟨(), []⟩
  obtain rfl : taken = sizes := hkept (by decide)
  refine ⟨rfl, htaken, fun hoffered ↦ ?_, options, hoptions, hadded (by decide), ?_⟩
  · rcases (htwo (.integer 2) rfl Eq fun _ ↦ rfl).1 hoffered with hfree | hother
    · exact hfree (by decide)
    · exact no_size_is_two hother
  · exact (hthree (.integer 3) rfl Eq fun _ ↦ rfl).2 (.inl (by decide))

/-- A label that is taken keeps the default out of the choices. -/
theorem taken_label_hides_default : ¬ ∀ (host : Host Unit) (prop : String) (d : Declaration)
    (kind : Kind) (caller : Option Json) (e : Enumeration) (s : Session Unit),
    let b := ((bindProp host prop d kind ⟨caller, some e⟩).perform s).1
    ∀ v, b.default.json? = some v → ∃ options, b.options = some options ∧
      ∃ x ∈ options.entries, x.2 = v := by
  intro h
  obtain ⟨options, hoptions, hoffered⟩ :=
    h quietEnv.host "size" {} .select (some (.integer 2)) sizes ⟨(), []⟩ (.integer 2) rfl
  obtain rfl : sizes = options := Option.some.inj hoptions
  exact no_size_is_two hoffered

end Sizes

namespace Kind

theorem control_eq_select {k : Kind} : k.control = .select ↔ k = .select := by
  cases k <;> simp [control]

theorem ofLabel_eq_select {text : String} : ofLabel text = .select ↔ text = "select" := by
  constructor
  · intro h
    unfold ofLabel at h
    split at h <;> cases h
    rfl
  · intro h
    subst h
    rfl

/-- No value that a type returns or that stands as a default is a choice. -/
theorem ofRuntime_ne_select (k : ValueKind) : ofRuntime k ≠ .select := by
  cases k <;> simp [ofRuntime]

end Kind

theorem Declaration.defaultKind_ne_select (d : Declaration) : d.defaultKind ≠ .select := by
  rw [defaultKind]
  cases d.default with
  | none => simp
  | some v => exact Kind.ofRuntime_ne_select v.valueKind

/-- Only its label can make a select of a prop for which the caller has no choices. -/
theorem Declaration.kind_eq_select {d : Declaration} :
    d.kind = .select ↔ d.type = some (.label "select") := by
  by_cases h : d.IsSettled
  · obtain ⟨t, k, ht, hk⟩ := h
    rw [kind_of_settles ht hk, ht]
    cases hk with
    | label text => simp [Kind.ofLabel_eq_select]
    | file => simp
    | call hcall => simp [Kind.ofRuntime_ne_select]
  · rw [kind_of_not_isSettled h]
    refine iff_of_false d.defaultKind_ne_select fun ht ↦ ?_
    exact h ⟨_, _, ht, .label "select"⟩

section Reads

variable {prop : String} {d : Declaration} {x : Answers} {b : Binding}

theorem control_notMem_producerCalls : Call.control b ∉ producerCalls d x := by
  rw [producerCalls]
  cases d.called? x <;> simp

theorem control_mem_boundCalls : Call.control b ∈ boundCalls prop d x ↔
    (kindUnder d x.choices).isBound = true ∧ b = bindingOf prop (kindUnder d x.choices) x.choices
      (argOf prop (kindUnder d x.choices) (d.given x)) := by
  rw [boundCalls]
  split
  · next h => simp [h, control_notMem_producerCalls]
  · next h => simp [h]

theorem kindUnder_eq_select {choices : Option Enumeration} :
    kindUnder d choices = .select ↔ choices.isSome = true ∨ d.type = some (.label "select") := by
  rw [kindUnder, ← Declaration.kind_eq_select]
  cases choices <;> simp

end Reads

/-- A control is read for each prop that is neither a file nor a function. What is read with choices is
a select; a select without choices is read for a prop that says so in its label when the caller has no
choices for it, and never otherwise. -/
theorem select_reads_iff (env : Env σ) (prop : String) (d : Declaration) (caller : Option Json)
    (choices : Option Enumeration) (s : Session (Watched σ)) :
    ∃ t, ((resolve env.watched.host prop d ⟨caller, choices⟩).perform s).2.state.calls =
        s.state.calls ++ t ∧
      ((∃ b, .control b ∈ t) ↔ choices.isSome = true ∨ (d.kind ≠ .file ∧ d.kind ≠ .function)) ∧
      ∀ b, .control b ∈ t →
        (b.options.isSome = true ↔ choices.isSome = true) ∧
        (b.options.isSome = true → b.control = .select) ∧
        (b.control = .select ∧ b.options = none ↔
          choices = none ∧ d.type = some (.label "select")) := by
  obtain ⟨v, hleads⟩ := leads_resolve env s prop d caller choices
  refine ⟨_, hleads.calls, ?_, fun b hb ↦ ?_⟩
  · simp only [control_mem_boundCalls, exists_and_left, exists_eq, and_true, kindUnder]
    cases choices with
    | none => simp [Kind.isBound_iff]
    | some e => simp [Kind.isBound]
  · obtain ⟨-, hb⟩ := control_mem_boundCalls.1 hb
    have hcontrol : b.control = .select ↔
        choices.isSome = true ∨ d.type = some (.label "select") := by
      rw [hb, bindingOf_control, Kind.control_eq_select, kindUnder_eq_select]
    have hsome : b.options.isSome = choices.isSome := by
      rw [hb, bindingOf_options, Option.isSome_map]
    have hnone : b.options = none ↔ choices = none := by
      rw [hb, bindingOf_options, Option.map_eq_none_iff]
    refine ⟨by rw [hsome], fun h ↦ hcontrol.2 (.inl (hsome ▸ h)), ?_⟩
    rw [hcontrol, hnone, and_comm]
    refine and_congr_right fun hno ↦ ?_
    simp [hno]

section Fruit

/-- A prop whose label makes a select of it. -/
def fruit : Declaration := { type := some (.label "select") }

def fruitReads (choices : Option Enumeration) : List Call :=
  ((resolve quietEnv.watched.host "fruit" fruit ⟨none, choices⟩).perform ⟨⟨(), []⟩, []⟩).2.state.calls

theorem fruit_reads :
    (∃ b, .control b ∈ fruitReads none ∧ b.control = .select ∧ b.options = none) ∧
    ∃ b, .control b ∈ fruitReads (some .empty) ∧ b.control = .select ∧ b.options.isSome = true := by
  obtain ⟨t, ht, hread, hselect⟩ := select_reads_iff quietEnv "fruit" fruit none none ⟨⟨(), []⟩, []⟩
  obtain ⟨u, hu, hread', hselect'⟩ :=
    select_reads_iff quietEnv "fruit" fruit none (some .empty) ⟨⟨(), []⟩, []⟩
  have hreads : fruitReads none = t := ht
  have hreads' : fruitReads (some .empty) = u := hu
  rw [hreads, hreads']
  obtain ⟨b, hb⟩ := hread.2 (.inr (by decide))
  obtain ⟨b', hb'⟩ := hread'.2 (.inl rfl)
  obtain ⟨hsome, hcontrol, -⟩ := hselect' b' hb'
  exact ⟨⟨b, hb, (hselect b hb).2.2.2 ⟨rfl, rfl⟩⟩, b', hb', hcontrol (hsome.2 rfl), hsome.2 rfl⟩

/-- A label can ask for a select that has no choices. -/
theorem labelled_select_lacks_choices : ¬ ∀ (env : Env Unit) (prop : String) (d : Declaration)
    (caller : Option Json) (choices : Option Enumeration) (log : List LogEvent) (b : Binding),
    .control b ∈
      ((resolve env.watched.host prop d ⟨caller, choices⟩).perform ⟨⟨(), []⟩, log⟩).2.state.calls →
    (b.control = .select ↔ b.options.isSome = true) := by
  intro h
  have hread : Call.control (.plain "fruit" .select (.json (.string "fruit"))) ∈ fruitReads none :=
    List.mem_singleton_self _
  have hchoices := (h quietEnv "fruit" fruit none none [] _ hread).1 rfl
  cases hchoices

end Fruit

end Showcase
