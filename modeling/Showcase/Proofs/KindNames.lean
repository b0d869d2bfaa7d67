import Showcase.Proofs.KindInference

namespace Showcase

variable {σ : Type}

namespace Kind

variable {k k' : Kind} {label : String}

/-- A label is the name of the kind it stands for, and only text has a second label. -/
theorem name_ofLabel_iff : (ofLabel label).name = label ↔ label ≠ "string" := by
  constructor
  · intro h hstring
    rw [hstring] at h
    simp [ofLabel, name] at h
  · intro h
    unfold ofLabel
    split
    · exact absurd rfl h
    all_goals rfl

/-- What a value is at run time is a label too, so a type that is called makes no kind that could
not be declared. -/
theorem ofRuntime_eq_ofLabel (k : ValueKind) : ofRuntime k = ofLabel k.name := by
  cases k <;> rfl

/-- The kind is the one that its own name stands for. -/
def ReadsBack (k : Kind) : Prop := ofLabel k.name = k

theorem readsBack_ofLabel (label : String) : (ofLabel label).ReadsBack := by
  by_cases h : label = "string"
  · rw [h]
    rfl
  · rw [ReadsBack, name_ofLabel_iff.2 h]

theorem readsBack_of_dedicated (h : k.isOther = false) : k.ReadsBack := by
  cases k with
  | other label => cases h
  | _ => rfl

theorem ReadsBack.eq_of_name (hk : k.ReadsBack) (hk' : k'.ReadsBack) (h : k.name = k'.name) :
    k = k' :=
  calc
    k = ofLabel k.name := hk.symm
    _ = ofLabel k'.name := by rw [h]
    _ = k' := hk'

theorem ReadsBack.name_ne (h : (other label).ReadsBack) (hk : k.isOther = false) :
    k.name ≠ label := by
  intro hname
  have hsame : k = other label := (readsBack_of_dedicated hk).eq_of_name h hname
  rw [hsame] at hk
  cases hk

end Kind

namespace Declaration

/-- Each way to a kind ends at one that a label stands for. -/
theorem exists_kind_eq_ofLabel (d : Declaration) : ∃ label, d.kind = .ofLabel label := by
  by_cases h : d.IsSettled
  · obtain ⟨t, k, ht, hk⟩ := h
    rw [kind_of_settles ht hk]
    cases hk with
    | label text => exact ⟨text, rfl⟩
    | file => exact ⟨"file", rfl⟩
    | @call c v hcall => exact ⟨v.name, Kind.ofRuntime_eq_ofLabel v⟩
  · rw [kind_of_not_isSettled h, defaultKind]
    cases d.default with
    | none => exact ⟨"text", rfl⟩
    | some v => exact ⟨v.valueKind.name, Kind.ofRuntime_eq_ofLabel v.valueKind⟩

theorem readsBack_infer (d : Declaration) (s : Session σ) :
    ((d.infer : Action σ Kind).perform s).1.ReadsBack := by
  obtain ⟨label, h⟩ := d.exists_kind_eq_ofLabel
  rw [d.perform_infer, h]
  exact Kind.readsBack_ofLabel label

end Declaration

/-- The kind of a prop is told by its name, whether a label, a call or a default decided it: the name
read as a label gives the kind back, so no two inferred kinds share a name, and a free label is never
the name of another kind. Every kind that is read back so is the kind of some prop. A label names what
it stands for unless it is "string", which stands for text. -/
theorem name_tells_kind (d d' : Declaration) (s s' : Session σ) :
    let k := (d.infer.perform s).1
    let k' := (d'.infer.perform s').1
    Kind.ofLabel k.name = k ∧ (k.name = k'.name → k = k') ∧
    (∀ label, k = .other label →
      ∀ dedicated : Kind, dedicated.isOther = false → dedicated.name ≠ label) ∧
    (∀ kind : Kind, Kind.ofLabel kind.name = kind →
      ∃ e : Declaration, (e.infer.perform s).1 = kind) ∧
    ∀ label, (Kind.ofLabel label).name = label ↔ label ≠ "string" := by
  intro k k'
  have hk : k.ReadsBack := d.readsBack_infer s
  have hk' : k'.ReadsBack := d'.readsBack_infer s'
  refine ⟨hk, hk.eq_of_name hk', fun label hlabel dedicated hdedicated ↦ ?_, fun kind hkind ↦ ?_,
    fun label ↦ Kind.name_ofLabel_iff⟩
  · rw [hlabel] at hk
    exact hk.name_ne hdedicated
  · refine ⟨{ type := some (.label kind.name) }, ?_⟩
    rw [Declaration.perform_infer]
    exact (Declaration.kind_of_settles rfl (.label kind.name)).trans hkind

/-- A call that returns nothing and the label for that lead to one kind. -/
theorem undefined_told_by_name :
    let s : Session Unit := ⟨(), []⟩
    let called : Declaration := { type := some (.constructor (.custom "Nothing" (.ok .undefined))) }
    let labelled : Declaration := { type := some (.label "undefined") }
    (called.infer.perform s).1.name = (labelled.infer.perform s).1.name ∧
      (called.infer.perform s).1 = (labelled.infer.perform s).1 ∧
      (called.infer.perform s).1 = .other "undefined" ∧ Kind.function.isOther = false ∧
      Kind.function.name ≠ "undefined" ∧
      Kind.ofLabel Kind.file.name = .file ∧ ∃ e : Declaration, (e.infer.perform s).1 = .file := by
  intro s called labelled
  obtain ⟨-, hsame, hother, hinferred, -⟩ := name_tells_kind called labelled s s
  have hname : (called.infer.perform s).1.name = (labelled.infer.perform s).1.name := rfl
  have hcalled : (called.infer.perform s).1 = .other "undefined" := rfl
  exact ⟨hname, hsame hname, hcalled, rfl, hother _ hcalled .function rfl, rfl,
    hinferred .file rfl⟩

end Showcase
