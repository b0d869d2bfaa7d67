import Mathlib.Data.List.Forall2
import Showcase.Proofs.JsonValue

namespace Showcase

section Succeeds

variable {ε α β : Type}

def Succeeds (r : Except ε α) : Prop := ∃ a, r = .ok a

@[simp] theorem succeeds_ok (a : α) : Succeeds (.ok a : Except ε α) := ⟨a, rfl⟩

@[simp] theorem not_succeeds_error (e : ε) : ¬ Succeeds (.error e : Except ε α) := by
  rintro ⟨a, h⟩
  cases h

@[simp] theorem succeeds_map (f : α → β) (r : Except ε α) : Succeeds (f <$> r) ↔ Succeeds r := by
  cases r with
  | error e => exact iff_of_false (not_succeeds_error e) (not_succeeds_error e)
  | ok a => exact iff_of_true (succeeds_ok (f a)) (succeeds_ok a)

theorem bind_eq_ok {r : Except ε α} {f : α → Except ε β} {b : β} :
    r >>= f = .ok b ↔ ∃ a, r = .ok a ∧ f a = .ok b := by
  cases r with
  | error e => exact iff_of_false nofun (by rintro ⟨a, h, -⟩; cases h)
  | ok a =>
    constructor
    · exact fun h ↦ ⟨a, rfl, h⟩
    · rintro ⟨a', h, hf⟩
      cases h
      exact hf

theorem succeeds_bind {r : Except ε α} {f : α → Except ε β} :
    Succeeds (r >>= f) ↔ ∃ a, r = .ok a ∧ Succeeds (f a) := by
  simp only [Succeeds, bind_eq_ok]
  rw [exists_comm]
  simp only [exists_and_left]

theorem not_succeeds_iff {r : Except ε α} : ¬ Succeeds r ↔ ∃ e, r = .error e := by
  cases r with
  | error e => exact iff_of_true (not_succeeds_error e) ⟨e, rfl⟩
  | ok a =>
    refine iff_of_false (not_not_intro (succeeds_ok a)) ?_
    rintro ⟨e, h⟩
    cases h

theorem map_eq_ok {f : α → β} {r : Except ε α} {b : β} :
    f <$> r = .ok b ↔ ∃ a, r = .ok a ∧ f a = b := by
  cases r with
  | error e => exact iff_of_false nofun (by rintro ⟨a, h, -⟩; cases h)
  | ok a =>
    constructor
    · exact fun h ↦ ⟨a, rfl, Except.ok.inj h⟩
    · rintro ⟨a', h, rfl⟩
      cases h
      rfl

theorem mapM_eq_ok {f : α → Except ε β} {xs : List α} {ys : List β} :
    xs.mapM f = .ok ys ↔ List.Forall₂ (fun x y ↦ f x = .ok y) xs ys := by
  induction xs generalizing ys with
  | nil =>
    rw [List.mapM_nil, List.forall₂_nil_left_iff]
    exact ⟨fun h ↦ (Except.ok.inj h).symm, fun h ↦ h ▸ rfl⟩
  | cons x xs ih =>
    rw [List.mapM_cons, List.forall₂_cons_left_iff]
    simp only [← ih]
    cases hx : f x with
    | error e => simp [bind, Except.bind]
    | ok y =>
      cases hxs : xs.mapM f with
      | error e => simp [bind, Except.bind]
      | ok zs => simp [bind, Except.bind, pure, Except.pure, eq_comm]

theorem succeeds_mapM {f : α → Except ε β} {xs : List α} :
    Succeeds (xs.mapM f) ↔ ∀ x ∈ xs, Succeeds (f x) := by
  induction xs with
  | nil => simp [pure, Except.pure]
  | cons x xs ih =>
    rw [List.mapM_cons, succeeds_bind, List.forall_mem_cons, ← ih]
    constructor
    · rintro ⟨y, hy, hys⟩
      obtain ⟨ys, hys, -⟩ := succeeds_bind.1 hys
      exact ⟨⟨y, hy⟩, ys, hys⟩
    · rintro ⟨⟨y, hy⟩, ys, hys⟩
      exact ⟨y, hy, succeeds_bind.2 ⟨ys, hys, succeeds_ok _⟩⟩

end Succeeds

section Replace

variable {ε α β : Type} {xs ys : List α} {x x' : α}

theorem mapM_replace {f : α → Except ε β} (h : f x' = f x) :
    (xs ++ x' :: ys).mapM f = (xs ++ x :: ys).mapM f := by
  simp only [List.mapM_append, List.mapM_cons, h]

theorem foldlM_replace {step : β → α → Except ε β} {b : β} (h : ∀ b, step b x' = step b x) :
    (xs ++ x' :: ys).foldlM step b = (xs ++ x :: ys).foldlM step b := by
  simp only [List.foldlM_append, List.foldlM_cons, h]

end Replace

namespace Decoder

variable {α β F : Type}

theorem nullable_of_ne_null (decode : Decoder α) {d : Document} (h : d ≠ .null) :
    nullable decode d = some <$> decode d := by
  cases d with
  | null => exact absurd rfl h
  | bool | number | string | array | object | unreadable | broken => rfl

theorem nullable_eq_ok_some {decode : Decoder α} {d : Document} {a : α}
    (h : nullable decode d = .ok (some a)) : decode d = .ok a := by
  by_cases hnull : d = .null
  · subst hnull
    cases h
  · rw [nullable_of_ne_null decode hnull] at h
    obtain ⟨a', ha', hsome⟩ := map_eq_ok.1 h
    exact Option.some.inj hsome ▸ ha'

theorem nullable_ofJson (decode : Decoder α) {v : Json} (h : v ≠ .null) :
    nullable decode (.ofJson v) = some <$> decode (.ofJson v) := by
  refine nullable_of_ne_null decode fun hnull ↦ ?_
  cases v with
  | null => exact h rfl
  | bool | number | string | array | object => cases hnull

theorem succeeds_nullable (decode : Decoder α) (v : Json) :
    Succeeds (nullable decode (.ofJson v)) ↔ v = .null ∨ Succeeds (decode (.ofJson v)) := by
  by_cases h : v = .null
  · subst h
    exact iff_of_true (succeeds_ok none) (.inl rfl)
  · rw [nullable_ofJson decode h, succeeds_map]
    exact (or_iff_right h).symm

theorem not_succeeds_unexpected (expected : String) (d : Document) :
    ¬ Succeeds (unexpected expected d : Except ReadError α) := by
  rw [unexpected]
  cases d.found? with
  | none => exact not_succeeds_error _
  | some found => exact not_succeeds_error _

theorem string_eq_ok {d : Document} {s : String} : string d = .ok s ↔ d = .string s := by
  cases d with
  | string t =>
    rw [string, Document.string.injEq]
    exact ⟨Except.ok.inj, congrArg _⟩
  | null | bool | number | array | object | unreadable | broken =>
    simp only [string]
    exact iff_of_false (fun h ↦ not_succeeds_unexpected _ _ ⟨s, h⟩) (by simp)

theorem succeeds_string (v : Json) : Succeeds (string (.ofJson v)) ↔ ∃ s, v = .string s := by
  cases v with
  | string s => exact iff_of_true (succeeds_ok s) ⟨s, rfl⟩
  | null | bool | number | array | object =>
    simp only [Document.ofJson, string]
    exact iff_of_false (not_succeeds_unexpected _ _) (by simp)

theorem mapEntries_ofEntries (decode : Decoder α) (m : OrderedMap α)
    (entries : List (String × Json)) :
    mapEntries decode m (Document.ofEntries entries) =
      (·.foldl (fun acc e ↦ acc.insert e.1 e.2) m) <$>
        entries.mapM fun e ↦ (e.1, ·) <$> decode (.ofJson e.2) := by
  induction entries generalizing m with
  | nil => rfl
  | cons e es ih =>
    rw [Document.ofEntries, mapEntries, List.mapM_cons]
    cases decode (.ofJson e.2) with
    | error x => rfl
    | ok a =>
      have hstep : (Except.ok a >>= fun v ↦
          mapEntries decode (m.insert e.1 v) (Document.ofEntries es)) =
            mapEntries decode (m.insert e.1 a) (Document.ofEntries es) := rfl
      rw [hstep, ih]
      cases es.mapM fun e ↦ (e.1, ·) <$> decode (.ofJson e.2) <;> rfl

theorem map_ofJson (decode : Decoder α) (entries : List (String × Json)) :
    map decode (.ofJson (.object entries)) =
      .ofList <$> entries.mapM fun e ↦ (e.1, ·) <$> decode (.ofJson e.2) :=
  mapEntries_ofEntries decode .empty entries

theorem succeeds_map_ofJson (decode : Decoder α) (v : Json) :
    Succeeds (map decode (.ofJson v)) ↔
      ∃ entries, v = .object entries ∧ ∀ e ∈ entries, Succeeds (decode (.ofJson e.2)) := by
  cases v with
  | object entries => simp [map_ofJson, succeeds_mapM]
  | null | bool | number | string | array =>
    simp only [Document.ofJson, map]
    exact iff_of_false (not_succeeds_unexpected _ _) (by simp)

/-- Reads a field that has not been met before. -/
def readField (name : String) (earlier : Option α) (decode : Decoder α) (put : α → F) :
    Decoder F := fun d ↦ do
  once name earlier
  let a ← decode d
  return put a

theorem readField_none (name : String) (decode : Decoder α) (put : α → F) (d : Document) :
    readField name none decode put d = put <$> decode d := by
  cases h : decode d <;> simp [readField, once, h] <;> rfl

theorem readField_eq_ok_iff {name : String} {earlier : Option α} {decode : Decoder α}
    {put : α → F} {d : Document} {f : F} : readField name earlier decode put d = .ok f ↔
      earlier = none ∧ ∃ a, decode d = .ok a ∧ f = put a := by
  cases earlier with
  | some a => exact iff_of_false nofun nofun
  | none =>
    rw [readField_none, map_eq_ok]
    simp [eq_comm]

theorem readField_eq_ok {name : String} {earlier : Option α} {decode : Decoder α} {put : α → F}
    {d : Document} {f : F} (h : readField name earlier decode put d = .ok f) : ∃ a, f = put a := by
  obtain ⟨-, a, -, hf⟩ := readField_eq_ok_iff.1 h
  exact ⟨a, hf⟩

theorem readField_congr {name : String} {earlier : Option α} {decode : Decoder α} {put : α → F}
    {d d' : Document} (h : decode d' = decode d) :
    readField name earlier decode put d' = readField name earlier decode put d := by
  rw [readField, readField, h]

/-- A reader that goes through the entries of an object one by one is a fold over them. -/
theorem foldlM_ofEntries {next : F → List (Option String × Document) → Except ReadError α}
    {take : F → String → Decoder F} {done : F → α} (hnil : ∀ f, next f [] = .ok (done f))
    (hcons : ∀ f name d es,
      next f ((some name, d) :: es) = take f name d >>= fun f' ↦ next f' es)
    (f : F) (entries : List (String × Json)) :
    next f (Document.ofEntries entries) =
      done <$> entries.foldlM (fun f e ↦ take f e.1 (.ofJson e.2)) f := by
  induction entries generalizing f with
  | nil => exact hnil f
  | cons e es ih =>
    rw [Document.ofEntries, hcons, List.foldlM_cons]
    cases take f e.1 (.ofJson e.2) with
    | error x => rfl
    | ok f' => exact ih f'

/-- The entries of an object with distinct names are read one by one, each without regard to the
others: a field is met only once. -/
theorem succeeds_foldlM (step : F → String × Json → Except ReadError F) (Met : F → String → Prop)
    {Good : String × Json → Prop} {entries : List (String × Json)}
    (hstep : ∀ f, ∀ e ∈ entries, ¬ Met f e.1 → (Succeeds (step f e) ↔ Good e))
    (hmet : ∀ f e f' name, step f e = .ok f' → Met f' name → Met f name ∨ name = e.1)
    (hnames : (entries.map Prod.fst).Nodup) {f : F} (hf : ∀ e ∈ entries, ¬ Met f e.1) :
    Succeeds (entries.foldlM step f) ↔ ∀ e ∈ entries, Good e := by
  induction entries generalizing f with
  | nil => exact iff_of_true (succeeds_ok f) (by simp)
  | cons e es ih =>
    rw [List.map_cons, List.nodup_cons] at hnames
    have hrest (f' : F) (h : step f e = .ok f') :
        Succeeds (es.foldlM step f') ↔ ∀ e ∈ es, Good e := by
      refine ih (fun f e' he' ↦ hstep f e' (List.mem_cons_of_mem _ he')) hnames.2 fun e' he' hm ↦ ?_
      rcases hmet f e f' e'.1 h hm with hm | hname
      · exact hf e' (List.mem_cons_of_mem _ he') hm
      · exact hnames.1 (hname ▸ List.mem_map_of_mem he')
    rw [List.foldlM_cons, succeeds_bind, List.forall_mem_cons,
      ← hstep f e (List.mem_cons_self ..) (hf e (List.mem_cons_self ..))]
    constructor
    · rintro ⟨f', hf', hes⟩
      exact ⟨⟨f', hf'⟩, (hrest f' hf').1 hes⟩
    · rintro ⟨⟨f', hf'⟩, hes⟩
      exact ⟨f', hf', (hrest f' hf').2 hes⟩

/-- A text is read if the value in it is and nothing follows it. -/
theorem ofText_eq_ok_iff {decode : Decoder α} {text : String} {a : α} :
    ofText decode text = .ok a ↔ (Document.ofText Document.maxLevels text).2 = true ∧
      decode (Document.ofText Document.maxLevels text).1 = .ok a := by
  rw [ofText]
  obtain ⟨d, complete⟩ := Document.ofText Document.maxLevels text
  rw [bind_eq_ok]
  cases complete with
  | false =>
    refine iff_of_false ?_ (by simp)
    intro ⟨v, _, hv⟩
    cases hv
  | true =>
    constructor
    · intro ⟨v, hv, hva⟩
      cases hva
      exact ⟨rfl, hv⟩
    · intro ⟨_, ha⟩
      exact ⟨a, ha, rfl⟩

end Decoder

end Showcase
