import Mathlib.Algebra.Ring.Nat
import Showcase.Proofs.PropLayers
import Showcase.Proofs.TemplateProps

namespace Showcase

variable {σ : Type}

/-- The line of a template that binds a prop to the variable of its name. -/
def attributeLine (prop : String) : String := "  :" ++ prop ++ "=\"" ++ prop ++ "\""

/-- A component with its attribute lines and the slot as its content. -/
def markup (name : String) (lines : List String) : String :=
  "<" ++ name ++ "\n" ++ "\n".intercalate lines ++ "\n>\x7b\x7b SLOT \x7d\x7d</" ++ name ++ ">"

section Length

variable (sep : String)

theorem length_intercalate (lines : List String) : (sep.intercalate lines).length =
    (lines.map String.length).sum + (lines.length - 1) * sep.length := by
  induction lines with
  | nil => simp
  | cons line lines ih =>
    cases lines with
    | nil => simp
    | cons line' lines =>
      have hcount : (line :: line' :: lines).length - 1 = (line' :: lines).length - 1 + 1 := rfl
      rw [String.intercalate_cons_cons, String.length_append, String.length_append, ih, hcount,
        Nat.succ_mul]
      simp only [List.map_cons, List.sum_cons]
      omega

theorem length_intercalate_lt (before after : List String) {line : String} (h : 0 < line.length) :
    (sep.intercalate (before ++ after)).length <
      (sep.intercalate (before ++ line :: after)).length := by
  have hseps : ((before ++ after).length - 1) * sep.length ≤
      ((before ++ line :: after).length - 1) * sep.length :=
    Nat.mul_le_mul_right _ (by simp only [List.length_append, List.length_cons]; omega)
  rw [length_intercalate, length_intercalate]
  simp only [List.map_append, List.map_cons, List.sum_append, List.sum_cons] at hseps ⊢
  omega

theorem length_markup (name : String) (lines : List String) :
    (markup name lines).length = 2 * name.length + ("\n".intercalate lines).length + 17 := by
  have htext : "\n>\x7b\x7b SLOT \x7d\x7d</".length = 14 := by decide
  simp only [markup, String.length_append, htext]
  have hends : "<".length = 1 ∧ "\n".length = 1 ∧ ">".length = 1 := by decide
  omega

end Length

theorem attributeLine_pos (prop : String) : 0 < (attributeLine prop).length := by
  have hstart : "  :".length = 3 := by decide
  simp only [attributeLine, String.length_append, hstart]
  omega

/-- Each further attribute line shows in the text. -/
theorem markup_ne_of_more_lines (name : String) (before after : List String) (prop : String) :
    markup name (before ++ attributeLine prop :: after) ≠ markup name (before ++ after) := by
  intro h
  have hlt := length_intercalate_lt "\n" before after (attributeLine_pos prop)
  have hlength := congrArg String.length h
  rw [length_markup, length_markup] at hlength
  omega

theorem filter_ne_of_mem {names : List String} (h : names.Nodup) {k : String} (hk : k ∈ names) :
    ∃ before after, names = before ++ k :: after ∧ names.filter (· ≠ k) = before ++ after := by
  obtain ⟨before, after, -, hnames, herase⟩ := List.exists_erase_eq hk
  refine ⟨before, after, hnames, ?_⟩
  rw [← herase, h.erase_eq_filter]
  exact List.filter_congr fun x _ ↦ Bool.eq_iff_iff.2 (by simp)

/-- A template has one attribute line for each prop that its component declares. One for the slot is
among them if some layer of the component declares a prop of that name, and only then: the lines of
all other props stay as they are, but the text is not the one that leaves the slot out. -/
theorem slot_bound_iff_declared (env : Env σ) {r : Record} (h : r.style = .template)
    (s : Session σ) :
    let names := r.component.props.keys
    let others := names.filter (· ≠ slotProp)
    ∃ t left, (env.render r).perform s = (.template t, left) ∧
      t.template = markup r.name (names.map attributeLine) ∧
      (slotProp ∈ names ↔ ∃ m ∈ r.component.layers, slotProp ∈ m.keys) ∧
      (t.template = markup r.name (others.map attributeLine) ↔ slotProp ∉ names) ∧
      (slotProp ∈ names → ∃ before after,
        names = before ++ slotProp :: after ∧ others = before ++ after) := by
  intro names others
  obtain ⟨t, ht, htext, -⟩ := perform_render env h s
  have hmarkup : t.template = markup r.name (names.map attributeLine) := htext
  have hsplit (hslot : slotProp ∈ names) : ∃ before after,
      names = before ++ slotProp :: after ∧ others = before ++ after :=
    filter_ne_of_mem r.component.props.keys_nodup hslot
  refine ⟨t, _, ht, hmarkup, ?_, ?_, hsplit⟩
  · simp only [names, Component.props_eq_stack, OrderedMap.mem_keys_stack]
  · rw [hmarkup]
    constructor
    · intro hsame hslot
      obtain ⟨before, after, hnames, hothers⟩ := hsplit hslot
      rw [hnames, hothers, List.map_append, List.map_cons, List.map_append] at hsame
      exact markup_ne_of_more_lines _ _ _ _ hsame
    · intro hslot
      have hothers : others = names := List.filter_eq_self.2 fun k hk ↦ by
        simpa using fun hks : k = slotProp ↦ hslot (hks ▸ hk)
      rw [hothers]

section Field

/-- The component of `slottedRecord` without its prop of the slot's name. -/
def plainRecord : Record :=
  { slottedRecord with component := { own := { props := some (.ofList [("label", {})]) } } }

theorem only_slotted_binds_slot :
    (∃ t left, (quietEnv.render slottedRecord).perform ⟨(), []⟩ = (.template t, left) ∧
      t.template = markup "Field" [attributeLine "SLOT", attributeLine "label"] ∧
      t.template ≠ markup "Field" [attributeLine "label"]) ∧
    ∃ t left, (quietEnv.render plainRecord).perform ⟨(), []⟩ = (.template t, left) ∧
      t.template = markup "Field" [attributeLine "label"] := by
  obtain ⟨t, left, ht, htext, -, hslot, -⟩ :=
    slot_bound_iff_declared quietEnv (r := slottedRecord) rfl ⟨(), []⟩
  obtain ⟨u, left', hu, -, -, hplain, -⟩ :=
    slot_bound_iff_declared quietEnv (r := plainRecord) rfl ⟨(), []⟩
  have hdeclared : slotProp ∈ slottedRecord.component.props.keys := by decide
  have hundeclared : slotProp ∉ plainRecord.component.props.keys := by decide
  exact ⟨⟨t, left, ht, htext, fun h ↦ hslot.1 h hdeclared⟩, u, left', hu, hplain.2 hundeclared⟩

/-- A component that has a prop of the slot's name gets an attribute for it. -/
theorem declared_slot_is_bound : ¬ ∀ (env : Env Unit) (r : Record) (s : Session Unit),
    r.style = .template → ∃ t left, (env.render r).perform s = (.template t, left) ∧
      t.template =
        markup r.name ((r.component.props.keys.filter (· ≠ slotProp)).map attributeLine) := by
  intro h
  obtain ⟨t, left, ht, htext⟩ := h quietEnv slottedRecord ⟨(), []⟩ rfl
  obtain ⟨t', ht', htext', -⟩ := perform_render quietEnv (r := slottedRecord) rfl ⟨(), []⟩
  obtain rfl : t' = t := Story.template.inj (congrArg Prod.fst (ht'.symm.trans ht))
  exact absurd (htext'.symm.trans htext) (by decide)

end Field

end Showcase
