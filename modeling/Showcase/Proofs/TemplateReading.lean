import Showcase.Proofs.PathParts
import Showcase.Proofs.SlotAttribute

namespace Showcase

section Cut

variable {α : Type} [DecidableEq α] {c : α} {l l' r r' : List α}

/-- Where a mark stands for the first time can be seen from the whole. -/
theorem cut_first (h : c ∉ l) (h' : c ∉ l') (heq : l ++ c :: r = l' ++ c :: r') :
    l = l' ∧ r = r' := by
  have hl : l = l' := by
    rw [← takeWhile_ne_append h r, heq, takeWhile_ne_append h' r']
  subst hl
  exact ⟨rfl, List.tail_eq_of_cons_eq (List.append_cancel_left heq)⟩

/-- So can be where it stands for the last time. -/
theorem cut_last (h : c ∉ r) (h' : c ∉ r') (heq : l ++ c :: r = l' ++ c :: r') :
    l = l' ∧ r = r' := by
  have hreverse := congrArg List.reverse heq
  rw [reverse_append_cons, reverse_append_cons] at hreverse
  obtain ⟨hr, hl⟩ := cut_first (by simpa using h) (by simpa using h') hreverse
  exact ⟨List.reverse_inj.1 hl, List.reverse_inj.1 hr⟩

end Cut

section Lines

variable {p q s t : String} {ps qs : List String}

theorem toList_attributeLine_append (p s : String) : (attributeLine p ++ s).toList =
    (' ' :: ' ' :: ':' :: (p.toList ++ ['='])) ++ '"' :: (p.toList ++ '"' :: s.toList) := by
  simp [attributeLine]

/-- A line is read up to its first quote, and then once more as far as the prop goes. -/
theorem attributeLine_append_inj (hp : '"' ∉ p.toList) (hq : '"' ∉ q.toList)
    (h : attributeLine p ++ s = attributeLine q ++ t) : p = q ∧ s = t := by
  have hlist := congrArg String.toList h
  rw [toList_attributeLine_append, toList_attributeLine_append] at hlist
  obtain ⟨hstart, hend⟩ := cut_first (by simpa using hp) (by simpa using hq) hlist
  obtain rfl : p = q := String.toList_inj.1 (by simpa using hstart)
  exact ⟨rfl, String.toList_inj.1 (by simpa using hend)⟩

theorem intercalate_attributeLine_cons (p : String) (ps : List String) :
    "\n".intercalate ((p :: ps).map attributeLine) = attributeLine p ++
      if ps = [] then "" else "\n" ++ "\n".intercalate (ps.map attributeLine) := by
  cases ps with
  | nil => simp
  | cons q ps => simp [String.append_assoc]

theorem intercalate_attributeLine_ne_empty (p : String) (ps : List String) :
    "\n".intercalate ((p :: ps).map attributeLine) ≠ "" := by
  intro h
  have hlength := congrArg String.length h
  rw [intercalate_attributeLine_cons, String.length_append] at hlength
  have hpos := attributeLine_pos p
  simp only [String.length_empty] at hlength
  omega

theorem intercalate_attributeLine_inj (hps : ∀ p ∈ ps, '"' ∉ p.toList)
    (hqs : ∀ q ∈ qs, '"' ∉ q.toList)
    (h : "\n".intercalate (ps.map attributeLine) = "\n".intercalate (qs.map attributeLine)) :
    ps = qs := by
  induction ps generalizing qs with
  | nil =>
    cases qs with
    | nil => rfl
    | cons q qs => exact absurd h.symm (intercalate_attributeLine_ne_empty q qs)
  | cons p ps ih =>
    cases qs with
    | nil => exact absurd h (intercalate_attributeLine_ne_empty p ps)
    | cons q qs =>
      rw [List.forall_mem_cons] at hps hqs
      rw [intercalate_attributeLine_cons, intercalate_attributeLine_cons] at h
      obtain ⟨rfl, hrest⟩ := attributeLine_append_inj hps.1 hqs.1 h
      have hsame : ps = qs := by
        rcases ps with _ | ⟨p', ps⟩ <;> rcases qs with _ | ⟨q', qs⟩
        · rfl
        · simp at hrest
        · simp at hrest
        · exact ih hps.2 hqs.2 (by simpa using hrest)
      rw [hsame]

end Lines

section Names

variable {name name' : String} {lines lines' props props' : List String}

theorem toList_markup (name : String) (lines : List String) : (markup name lines).toList =
    ('<' :: name.toList ++ '\n' :: ("\n".intercalate lines).toList ++
      "\n>\x7b\x7b SLOT \x7d\x7d<".toList) ++ '/' :: (name.toList ++ ['>']) := by
  simp [markup]

/-- The name is what stands behind the last slash, and so it is known where the lines begin. -/
theorem markup_inj (h : '/' ∉ name.toList) (h' : '/' ∉ name'.toList)
    (heq : markup name lines = markup name' lines') :
    name = name' ∧ "\n".intercalate lines = "\n".intercalate lines' := by
  have hlist := congrArg String.toList heq
  rw [toList_markup, toList_markup] at hlist
  obtain ⟨hstart, hend⟩ := cut_last (by simpa using h) (by simpa using h') hlist
  obtain rfl : name = name' := String.toList_inj.1 (List.append_cancel_right hend)
  exact ⟨rfl, String.toList_inj.1 (by simpa using hstart)⟩

theorem templateText_eq_markup (name : String) (props : List String) :
    templateText name props = markup name (props.map attributeLine) := rfl

/-- A template tells which component it shows and which props it binds in which order, as long as no
slash is in the name and no quote in the name of a prop; no file gives its component a name with a
slash. Anything else may stand in the names, even what looks like a part of the template. -/
theorem template_determines_names :
    (∀ path, '/' ∉ (FileInfo.ofPath path).name.toList) ∧
    ∀ name name' props props', '/' ∉ name.toList → '/' ∉ name'.toList →
      (∀ p ∈ props, '"' ∉ p.toList) → (∀ p ∈ props', '"' ∉ p.toList) →
      (templateText name props = templateText name' props' ↔ name = name' ∧ props = props') := by
  refine ⟨FileInfo.slash_notMem_name, fun name name' props props' h h' hprops hprops' ↦ ?_⟩
  constructor
  · intro heq
    rw [templateText_eq_markup, templateText_eq_markup] at heq
    obtain ⟨hname, hlines⟩ := markup_inj h h' heq
    exact ⟨hname, intercalate_attributeLine_inj hprops hprops' hlines⟩
  · rintro ⟨rfl, rfl⟩
    rfl

/-- The name of a prop that looks like the end of one line and the start of the next. -/
def lookalikeProp : String := "a=a\n  :b"

theorem lookalikes_tell_apart :
    let name := "Card\n>\x7b\x7b SLOT \x7d\x7d<"
    ('/' ∉ name.toList ∧ '/' ∉ "Card".toList ∧ (∀ p ∈ ["a", "b"], '"' ∉ p.toList) ∧
      (∀ p ∈ [lookalikeProp], '"' ∉ p.toList) ∧ ∀ p ∈ [""], '"' ∉ p.toList) ∧
    templateText name ["a", "b"] ≠ templateText name [lookalikeProp] ∧
    templateText name [] ≠ templateText name [""] ∧
    templateText name [] ≠ templateText "Card" [] := by
  intro name
  have hname : '/' ∉ name.toList := by decide
  have hplain : '/' ∉ "Card".toList := by decide
  have htwo : ∀ p ∈ ["a", "b"], '"' ∉ p.toList := by decide
  have hone : ∀ p ∈ [lookalikeProp], '"' ∉ p.toList := by decide
  have hempty : ∀ p ∈ [""], '"' ∉ p.toList := by decide
  have hnone : ∀ p ∈ ([] : List String), '"' ∉ p.toList := by simp
  have hread := template_determines_names.2
  refine ⟨⟨hname, hplain, htwo, hone, hempty⟩, fun h ↦ ?_, fun h ↦ ?_, fun h ↦ ?_⟩
  · exact absurd ((hread _ _ _ _ hname hname htwo hone).1 h).2 (by decide)
  · exact absurd ((hread _ _ _ _ hname hname hnone hempty).1 h).2 (by decide)
  · exact absurd ((hread _ _ _ _ hname hplain hnone hnone).1 h).1 (by decide)

end Names

end Showcase
