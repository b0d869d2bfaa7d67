import Showcase.Proofs.OrderedMap
import Showcase.Proofs.Reading

namespace Showcase

/-- An object whose names can be held and whose values are all of one form. -/
def Document.IsMap (P : Document → Prop) (d : Document) : Prop :=
  ∃ es, d = .object es ∧ ∀ e ∈ es, ∃ name, e.1 = some name ∧ P e.2

theorem Document.not_isMap {P : Document → Prop} {d : Document} :
    ¬ d.IsMap P ↔ (∀ es, d ≠ .object es) ∨
      ∃ es, d = .object es ∧ ∃ e ∈ es, e.1 = none ∨ ¬ P e.2 := by
  have hentry (e : Option String × Document) :
      (¬ ∃ name, e.1 = some name ∧ P e.2) ↔ e.1 = none ∨ ¬ P e.2 := by
    cases e.1 <;> simp
  cases d with
  | object es =>
    simp only [IsMap, object.injEq, exists_eq_left', ← hentry, not_forall, exists_prop]
    simp
  | null | bool | number | string | array | unreadable | broken => simp [IsMap]

namespace Decoder

variable {α β F : Type}

theorem succeeds_readField {name : String} {earlier : Option α} {decode : Decoder α}
    {put : α → F} {d : Document} :
    Succeeds (readField name earlier decode put d) ↔ earlier = none ∧ Succeeds (decode d) := by
  constructor
  · rintro ⟨f, hf⟩
    obtain ⟨hearlier, a, ha, -⟩ := readField_eq_ok_iff.1 hf
    exact ⟨hearlier, a, ha⟩
  · rintro ⟨hearlier, a, ha⟩
    exact ⟨put a, readField_eq_ok_iff.2 ⟨hearlier, a, ha, rfl⟩⟩

/-- Reads one entry by its name. -/
def takeEntry (take : F → String → Decoder F) (f : F) :
    Option String × Document → Except ReadError F
  | (none, _) => .error .malformed
  | (some name, d) => take f name d

theorem foldlM_entries {next : F → List (Option String × Document) → Except ReadError α}
    {take : F → String → Decoder F} {done : F → α} (hnil : ∀ f, next f [] = .ok (done f))
    (hnone : ∀ f d es, next f ((none, d) :: es) = .error .malformed)
    (hcons : ∀ f name d es,
      next f ((some name, d) :: es) = take f name d >>= fun f' ↦ next f' es)
    (f : F) (entries : List (Option String × Document)) :
    next f entries = done <$> entries.foldlM (takeEntry take) f := by
  induction entries generalizing f with
  | nil => exact hnil f
  | cons e es ih =>
    obtain ⟨name, d⟩ := e
    rw [List.foldlM_cons]
    cases name with
    | none => exact hnone f d es
    | some name =>
      rw [hcons, takeEntry]
      cases take f name d with
      | error x => rfl
      | ok f' => exact ih f'

section Fold

variable {take : F → String → Decoder F} {entries : List (Option String × Document)} {f f' : F}

theorem foldlM_cons_eq_ok {e : Option String × Document}
    (h : (e :: entries).foldlM (takeEntry take) f = .ok f') : ∃ name f₁,
      e.1 = some name ∧ take f name e.2 = .ok f₁ ∧
        entries.foldlM (takeEntry take) f₁ = .ok f' := by
  obtain ⟨name, d⟩ := e
  rw [List.foldlM_cons] at h
  cases name with
  | none => cases h
  | some name =>
    obtain ⟨f₁, hf₁, hes⟩ := bind_eq_ok.1 h
    exact ⟨name, f₁, rfl, hf₁, hes⟩

theorem invariant_foldlM {P : F → Prop}
    (hstep : ∀ f name d f', take f name d = .ok f' → P f → P f')
    (h : entries.foldlM (takeEntry take) f = .ok f') (hf : P f) : P f' := by
  induction entries generalizing f with
  | nil =>
    obtain rfl := Except.ok.inj h
    exact hf
  | cons e es ih =>
    obtain ⟨name, f₁, -, hf₁, hes⟩ := foldlM_cons_eq_ok h
    exact ih hes (hstep f name e.2 f₁ hf₁ hf)

/-- The field is read from the entry of its name, which may occur once, and from no other. -/
structure ReadsField (take : F → String → Decoder F) (name : String) (get : F → Option β)
    (decode : Decoder β) : Prop where
  own : ∀ f d f', take f name d = .ok f' → get f = none ∧ ∃ a, decode d = .ok a ∧ get f' = some a
  other : ∀ f n d f', n ≠ name → take f n d = .ok f' → get f' = get f

namespace ReadsField

variable {name : String} {get : F → Option β} {decode : Decoder β}

theorem of_readField {put : F → β → F}
    (hown : ∀ f, take f name = readField name (get f) decode (put f))
    (hput : ∀ f a, get (put f a) = some a)
    (hother : ∀ f n d f', n ≠ name → take f n d = .ok f' → get f' = get f) :
    ReadsField take name get decode where
  own f d f' h := by
    rw [hown] at h
    obtain ⟨hnone, a, ha, rfl⟩ := readField_eq_ok_iff.1 h
    exact ⟨hnone, a, ha, hput f a⟩
  other := hother

theorem foldlM (hfield : ReadsField take name get decode)
    (h : entries.foldlM (takeEntry take) f = .ok f') :
    (∀ d, (some name, d) ∈ entries →
      get f = none ∧ ∃ a, decode d = .ok a ∧ get f' = some a) ∧
    ((∀ d, (some name, d) ∉ entries) → get f' = get f) := by
  induction entries generalizing f with
  | nil =>
    obtain rfl := Except.ok.inj h
    exact ⟨fun d hd ↦ absurd hd List.not_mem_nil, fun _ ↦ rfl⟩
  | cons e es ih =>
    obtain ⟨n, f₁, hn, hf₁, hes⟩ := foldlM_cons_eq_ok h
    obtain ⟨hin, hout⟩ := ih hes
    by_cases hname : n = name
    · subst hname
      obtain ⟨hnone, a, ha, hsome⟩ := hfield.own f e.2 f₁ hf₁
      -- The field has been read, so no later entry has its name.
      have hlater (d : Document) : (some n, d) ∉ es := by
        intro hd
        rw [(hin d hd).1] at hsome
        cases hsome
      constructor
      · intro d hd
        rcases List.mem_cons.1 hd with rfl | hd
        · exact ⟨hnone, a, ha, (hout hlater).trans hsome⟩
        · exact absurd hd (hlater d)
      · intro habsent
        have he : (some n, e.2) = e := Prod.ext hn.symm rfl
        exact absurd (he ▸ List.mem_cons_self ..) (habsent e.2)
    · have hkeep : get f₁ = get f := hfield.other f n e.2 f₁ hname hf₁
      constructor
      · intro d hd
        rcases List.mem_cons.1 hd with rfl | hd
        · exact absurd (Option.some.inj hn.symm) hname
        · obtain ⟨hnone, hread⟩ := hin d hd
          exact ⟨hkeep.symm.trans hnone, hread⟩
      · exact fun habsent ↦
          (hout fun d hd ↦ habsent d (List.mem_cons_of_mem _ hd)).trans hkeep

theorem of_foldlM (hfield : ReadsField take name get decode)
    (h : entries.foldlM (takeEntry take) f = .ok f') (hf : get f = none) {a : β}
    (ha : get f' = some a) : ∃ d, (some name, d) ∈ entries ∧ decode d = .ok a := by
  obtain ⟨hin, hout⟩ := hfield.foldlM h
  by_cases hentry : ∃ d, (some name, d) ∈ entries
  · obtain ⟨d, hd⟩ := hentry
    obtain ⟨-, a', ha', hget⟩ := hin d hd
    obtain rfl := Option.some.inj (hget.symm.trans ha)
    exact ⟨d, hd, ha'⟩
  · rw [hout (not_exists.1 hentry), hf] at ha
    cases ha

end ReadsField

theorem nodup_filter_cons {known : String → Bool} {name : String} {names : List String} :
    ((name :: names).filter known).Nodup ↔
      (known name = true → name ∉ names) ∧ (names.filter known).Nodup := by
  rw [List.filter_cons]
  split
  · next hknown => simp [List.nodup_cons, List.mem_filter, hknown]
  · next hknown => simp [hknown]

/-- After the entry of a known name, the entries to come must not have that name. -/
theorem forall_entries_after {known : String → Bool} {Met : F → String → Prop}
    {Form : String → Document → Prop} {f f₁ : F} {name : String}
    (hmet : ∀ n, Met f₁ n ↔ Met f n ∨ (n = name ∧ known name = true)) :
    (∀ e ∈ entries, ∃ n, e.1 = some n ∧ ¬ Met f₁ n ∧ Form n e.2) ↔
      (∀ e ∈ entries, ∃ n, e.1 = some n ∧ ¬ Met f n ∧ Form n e.2) ∧
        (known name = true → name ∉ entries.filterMap Prod.fst) := by
  constructor
  · intro h
    refine ⟨fun e he ↦ ?_, fun hknown hmem ↦ ?_⟩
    · obtain ⟨n, hn, hnew, hform⟩ := h e he
      exact ⟨n, hn, fun hf ↦ hnew ((hmet n).2 (.inl hf)), hform⟩
    · obtain ⟨e, he, hname⟩ := List.mem_filterMap.1 hmem
      obtain ⟨n, hn, hnew, -⟩ := h e he
      obtain rfl := Option.some.inj (hn.symm.trans hname)
      exact hnew ((hmet n).2 (.inr ⟨rfl, hknown⟩))
  · rintro ⟨h, hlater⟩ e he
    obtain ⟨n, hn, hnew, hform⟩ := h e he
    refine ⟨n, hn, fun hf₁ ↦ ?_, hform⟩
    rcases (hmet n).1 hf₁ with hf | ⟨rfl, hknown⟩
    · exact hnew hf
    · exact hlater hknown (List.mem_filterMap.2 ⟨e, he, hn⟩)

/-- Entries are read one by one when each is of its form and no field is met for the second time. -/
theorem succeeds_foldlM_entries (known : String → Bool) (Met : F → String → Prop)
    {Form : String → Document → Prop}
    (htake : ∀ f name d, Succeeds (take f name d) ↔ ¬ Met f name ∧ Form name d)
    (hmet : ∀ f name d f' n, take f name d = .ok f' →
      (Met f' n ↔ Met f n ∨ (n = name ∧ known name = true))) :
    Succeeds (entries.foldlM (takeEntry take) f) ↔
      (∀ e ∈ entries, ∃ name, e.1 = some name ∧ ¬ Met f name ∧ Form name e.2) ∧
        ((entries.filterMap Prod.fst).filter known).Nodup := by
  induction entries generalizing f with
  | nil => exact iff_of_true (succeeds_ok f) ⟨by simp, List.nodup_nil⟩
  | cons e es ih =>
    obtain ⟨name, d⟩ := e
    rw [List.forall_mem_cons]
    cases name with
    | none => exact iff_of_false (not_succeeds_error _) (by simp)
    | some name =>
      have hnames : ((some name, d) :: es).filterMap Prod.fst = name :: es.filterMap Prod.fst := rfl
      rw [hnames, nodup_filter_cons, List.foldlM_cons, succeeds_bind]
      constructor
      · rintro ⟨f₁, hf₁, hes⟩
        obtain ⟨hnew, hform⟩ := (htake f name d).1 ⟨f₁, hf₁⟩
        obtain ⟨hrest, hnodup⟩ := ih.1 hes
        obtain ⟨hrest, hlater⟩ := (forall_entries_after fun n ↦ hmet f name d f₁ n hf₁).1 hrest
        exact ⟨⟨⟨name, rfl, hnew, hform⟩, hrest⟩, hlater, hnodup⟩
      · rintro ⟨⟨⟨name', hname, hnew, hform⟩, hrest⟩, hlater, hnodup⟩
        obtain rfl := Option.some.inj hname
        obtain ⟨f₁, hf₁⟩ := (htake f name d).2 ⟨hnew, hform⟩
        have hrest' := (forall_entries_after fun n ↦ hmet f name d f₁ n hf₁).2 ⟨hrest, hlater⟩
        exact ⟨f₁, hf₁, ih.2 ⟨hrest', hnodup⟩⟩

end Fold

section Map

variable (decode : Decoder α)

/-- Reads one entry of a map of values of one kind. -/
def takeValue (m : OrderedMap α) (name : String) : Decoder (OrderedMap α) :=
  fun d ↦ m.insert name <$> decode d

theorem takeValue_eq_ok {m m' : OrderedMap α} {name : String} {d : Document}
    (h : takeValue decode m name d = .ok m') :
    ∃ a, decode d = .ok a ∧ m' = m.insert name a := by
  obtain ⟨a, ha, rfl⟩ := map_eq_ok.1 h
  exact ⟨a, ha, rfl⟩

theorem map_object (entries : List (Option String × Document)) :
    map decode (.object entries) = entries.foldlM (takeEntry (takeValue decode)) .empty := by
  refine (foldlM_entries (fun m ↦ ?_) (fun m d es ↦ ?_) (fun m name d es ↦ ?_) OrderedMap.empty
    entries).trans (id_map _)
  · rw [mapEntries]
    rfl
  · rw [mapEntries]
  · rw [mapEntries, takeValue]
    cases decode d <;> rfl

/-- What is read of a list of entries: of each its name and its value. -/
def ReadsEntries (entries : List (Option String × Document)) (xs : List (String × α)) : Prop :=
  List.Forall₂ (fun e x ↦ e.1 = some x.1 ∧ decode e.2 = .ok x.2) entries xs

theorem foldlM_takeValue_eq_ok {entries : List (Option String × Document)} {m m' : OrderedMap α} :
    entries.foldlM (takeEntry (takeValue decode)) m = .ok m' ↔
      ∃ xs, ReadsEntries decode entries xs ∧ m' = xs.foldl (fun m x ↦ m.insert x.1 x.2) m := by
  induction entries generalizing m with
  | nil =>
    constructor
    · exact fun h ↦ ⟨[], .nil, (Except.ok.inj h).symm⟩
    · rintro ⟨xs, hxs, rfl⟩
      cases hxs
      rfl
  | cons e es ih =>
    constructor
    · intro h
      obtain ⟨name, m₁, hname, hm₁, hes⟩ := foldlM_cons_eq_ok h
      obtain ⟨a, ha, rfl⟩ := takeValue_eq_ok decode hm₁
      obtain ⟨xs, hxs, rfl⟩ := ih.1 hes
      exact ⟨(name, a) :: xs, .cons ⟨hname, ha⟩ hxs, rfl⟩
    · rintro ⟨xs, hxs, rfl⟩
      obtain ⟨name, d⟩ := e
      cases hxs with
      | @cons _ x _ xs hx hxs =>
        obtain ⟨rfl, ha⟩ := hx
        have hstep : takeEntry (takeValue decode) m (some x.1, d) = .ok (m.insert x.1 x.2) :=
          map_eq_ok.2 ⟨x.2, ha, rfl⟩
        rw [List.foldlM_cons]
        exact bind_eq_ok.2 ⟨_, hstep, ih.2 ⟨xs, hxs, rfl⟩⟩

theorem map_eq_ok_iff {d : Document} {m : OrderedMap α} : map decode d = .ok m ↔
    ∃ entries xs, d = .object entries ∧ ReadsEntries decode entries xs ∧ m = .ofList xs := by
  cases d with
  | object entries =>
    rw [map_object, foldlM_takeValue_eq_ok]
    simp [OrderedMap.ofList]
  | null | bool | number | string | array | unreadable | broken =>
    simp only [map]
    refine iff_of_false (fun h ↦ not_succeeds_unexpected _ _ ⟨m, h⟩) ?_
    rintro ⟨entries, xs, hentries, -⟩
    cases hentries

theorem succeeds_map_iff (d : Document) :
    Succeeds (map decode d) ↔ d.IsMap fun v ↦ Succeeds (decode v) := by
  cases d with
  | object entries =>
    -- A name may be repeated in a map, so none is ever met for the second time.
    have htake (m : OrderedMap α) (name : String) (d : Document) :
        Succeeds (takeValue decode m name d) ↔ ¬ False ∧ Succeeds (decode d) := by
      rw [takeValue, succeeds_map, not_false_eq_true, true_and]
    rw [map_object, succeeds_foldlM_entries (fun _ ↦ false) (fun _ _ ↦ False) htake (by simp)]
    simp [Document.IsMap]
  | null | bool | number | string | array | unreadable | broken =>
    simp only [map]
    exact iff_of_false (not_succeeds_unexpected _ _) (by rintro ⟨es, hes, -⟩; cases hes)

theorem all_of_map {P : α → Prop} (hdecode : ∀ d a, decode d = .ok a → P a) {d : Document}
    {m : OrderedMap α} (h : map decode d = .ok m) : m.All P := by
  obtain ⟨entries, rfl, -⟩ := (succeeds_map_iff decode d).1 ⟨m, h⟩
  rw [map_object] at h
  refine invariant_foldlM (fun m name d m' hm' hm ↦ ?_) h (OrderedMap.all_empty P)
  obtain ⟨a, ha, rfl⟩ := takeValue_eq_ok decode hm'
  exact hm.insert name (hdecode d a ha)

end Map

end Decoder

end Showcase
