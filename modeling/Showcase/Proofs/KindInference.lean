import Mathlib.Logic.Basic
import Showcase.Proofs.Resolution

namespace Showcase

variable {σ : Type}

namespace PropType

/-- The type says by itself what kind a prop is of. -/
inductive Settles : PropType → Kind → Prop
  | label (text : String) : Settles (.label text) (.ofLabel text)
  | file : Settles .file .file
  | call {c : Constructor} {k : ValueKind} (h : c.call = .ok k) :
      Settles (.constructor c) (.ofRuntime k)

/-- The type can be called bare, and the call fails. -/
inductive FailsWith : PropType → CallError → Prop
  | validator (name : String) : FailsWith (.validator name) (.validator name)
  | ofClass (name : String) : FailsWith (.constructor (.ofClass name)) (.needsNew name)
  | custom (name : String) (e : CallError) : FailsWith (.constructor (.custom name (.error e))) e

variable {t : PropType} {e : CallError}

theorem invoke?_eq_error_iff : t.invoke? = some (.error e) ↔ t.FailsWith e := by
  constructor
  · intro h
    cases t with
    | constructor c => cases c <;> cases h <;> constructor
    | validator name =>
      cases h
      exact .validator name
    | label _ | file | union _ => cases h
  · rintro (_ | _ | _) <;> rfl

/-- A union is never called, whatever its members are. -/
theorem settles_or (t : PropType) :
    (∃ k, t.Settles k) ∨ (∃ members, t = .union members) ∨ ∃ e, t.FailsWith e := by
  cases t with
  | label text => exact .inl ⟨_, .label text⟩
  | file => exact .inl ⟨_, .file⟩
  | constructor c =>
    cases h : c.call with
    | ok k => exact .inl ⟨_, .call h⟩
    | error e => exact .inr (.inr ⟨e, invoke?_eq_error_iff.1 (congrArg some h)⟩)
  | validator name => exact .inr (.inr ⟨_, .validator name⟩)
  | union members => exact .inr (.inl ⟨members, rfl⟩)

theorem FailsWith.not_settles (h : t.FailsWith e) (k : Kind) : ¬ t.Settles k := by
  rintro (_ | _ | hc) <;> cases h <;> cases hc

end PropType

namespace Declaration

def IsSettled (d : Declaration) : Prop := ∃ t k, d.type = some t ∧ t.Settles k

def ProbeFails (d : Declaration) (e : CallError) : Prop := ∃ t, d.type = some t ∧ t.FailsWith e

variable {d : Declaration} {e : CallError}

theorem isSettled_not_iff :
    ¬ d.IsSettled ↔
      d.type = none ∨ (∃ members, d.type = some (.union members)) ∨ ∃ e, d.ProbeFails e := by
  constructor
  · intro h
    cases ht : d.type with
    | none => exact .inl rfl
    | some t =>
      rcases t.settles_or with ⟨k, hk⟩ | ⟨members, rfl⟩ | ⟨e, he⟩
      · exact absurd ⟨t, k, ht, hk⟩ h
      · exact .inr (.inl ⟨members, rfl⟩)
      · exact .inr (.inr ⟨e, t, ht, he⟩)
  · rintro h ⟨t, k, ht, hk⟩
    rcases h with h | ⟨members, h⟩ | ⟨e, t', h, he⟩ <;> rw [ht] at h <;> cases h
    · cases hk
    · exact he.not_settles k hk

theorem kind_of_settles {t : PropType} {k : Kind} (ht : d.type = some t) (hk : t.Settles k) :
    d.kind = k := by
  rw [kind, ht]
  cases hk with
  | label text => rfl
  | file => rfl
  | call h => simp only [PropType.invoke?, h]

theorem kind_of_not_isSettled (h : ¬ d.IsSettled) : d.kind = d.defaultKind := by
  rw [kind]
  rcases isSettled_not_iff.1 h with h | ⟨members, h⟩ | ⟨e, t, h, he⟩ <;> rw [h]
  · rfl
  · cases he <;> rfl

theorem probeError?_eq_some_iff : d.probeError? = some e ↔ d.ProbeFails e := by
  rw [ProbeFails, ← exists_congr fun t ↦ and_congr_right' PropType.invoke?_eq_error_iff,
    ← Option.bind_eq_some_iff, probeError?]
  cases d.type.bind PropType.invoke? with
  | none => simp
  | some answer => cases answer <;> simp

end Declaration

/-- A type that names a kind, or whose call gives one, decides for any default. Any other type is
passed over as if it were not declared: the kind is then that of the default itself, a producer
being a function that nobody calls. Only a failed call of the type is logged. -/
theorem kind_by_type_or_default (d : Declaration) (s : Session σ) :
    (∀ t k, d.type = some t → t.Settles k →
      ∀ default, (({ d with default }.infer : Action σ Kind).perform s).1 = k) ∧
    (¬ d.IsSettled ↔
      d.type = none ∨ (∃ members, d.type = some (.union members)) ∨ ∃ e, d.ProbeFails e) ∧
    (¬ d.IsSettled →
      (d.infer.perform s).1 = ({ d with type := none }.infer.perform s).1 ∧
      (d.default = none → (d.infer.perform s).1 = .text) ∧
      (∀ v, d.default = some (.literal v) → (d.infer.perform s).1 = .ofRuntime (.ofJson v)) ∧
      ∀ id, d.default = some (.producer id) → (d.infer.perform s).1 = .function ∧
        ∀ host prop o, o.choices = none → ((resolve host prop d o).perform s).2.state = s.state) ∧
    ∃ es, (d.infer.perform s).2 = { s with log := s.log ++ es } ∧
      (∀ x ∈ es, x.level = .trace) ∧ (∀ e, d.ProbeFails e → es = [.probeFailed e]) ∧
      ((∀ e, ¬ d.ProbeFails e) → es = []) := by
  refine ⟨fun t k ht hk default ↦ ?_, d.isSettled_not_iff, fun h ↦ ?_, _, d.session_infer s, ?_⟩
  · rw [Declaration.perform_infer]
    exact Declaration.kind_of_settles ht hk
  · have hkind := d.kind_of_not_isSettled h
    rw [d.perform_infer, Declaration.perform_infer, hkind, Declaration.defaultKind]
    refine ⟨rfl, fun hnone ↦ by rw [hnone]; rfl, fun v hv ↦ by rw [hv]; rfl, fun id hid ↦ ?_⟩
    have hfunction : d.kind = .function := by rw [hkind, Declaration.defaultKind, hid]; rfl
    refine ⟨by rw [hid]; rfl, fun host prop o ho ↦ ?_⟩
    rw [perform_resolve_free host prop d o s (by rw [ho]; exact congrArg Kind.isBound hfunction)]
  · cases hprobe : d.probeError? with
    | none =>
      have hcalm (e : CallError) : ¬ d.ProbeFails e := by
        rw [← Declaration.probeError?_eq_some_iff, hprobe]
        simp
      exact ⟨by simp, fun e he ↦ absurd he (hcalm e), fun _ ↦ rfl⟩
    | some e =>
      have hfails := Declaration.probeError?_eq_some_iff.1 hprobe
      refine ⟨by simp [LogEvent.level], fun e' he' ↦ ?_, fun hcalm ↦ absurd hfails (hcalm e)⟩
      cases hprobe.symm.trans (Declaration.probeError?_eq_some_iff.2 he')
      rfl

theorem number_decides_broken_defers :
    let s : Session Unit := ⟨(), []⟩
    let number : Declaration :=
      { type := some (.constructor .number), default := some (.literal (.string "12")) }
    let broken : Declaration :=
      { type := some (.constructor (.custom "Broken" (.error (.failed "Broken" "boom"))))
        default := some (.producer 0) }
    (number.infer.perform s).1 = .number ∧
      ¬ broken.IsSettled ∧ (broken.infer.perform s).1 = .function ∧
      (broken.infer.perform s).2.log = [.probeFailed (.failed "Broken" "boom")] := by
  intro s number broken
  have hfails : broken.ProbeFails (.failed "Broken" "boom") := ⟨_, rfl, .custom ..⟩
  obtain ⟨-, hsplit, hopen, es, hes, -, hlogged, -⟩ := kind_by_type_or_default broken s
  have hbroken : ¬ broken.IsSettled := hsplit.2 (.inr (.inr ⟨_, hfails⟩))
  refine ⟨(kind_by_type_or_default number s).1 _ _ rfl (.call rfl) _, hbroken,
    ((hopen hbroken).2.2.2 0 rfl).1, ?_⟩
  rw [hes, hlogged _ hfails]
  rfl

end Showcase
