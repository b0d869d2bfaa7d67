import Mathlib.Tactic.SplitIfs
import Showcase.Module.Manifest
import Showcase.Proofs.EntryReading

namespace Showcase

open Decoder

namespace Options

/-- Reads one entry of an options object. -/
def take (source : Source) (seen : Fields) (name : String) : Decoder Fields :=
  if name = "props" then
    readField "props" seen.props PropMap.decode fun props ↦ { seen with props := some props }
  else if name = "mixins" then
    readField "mixins" seen.mixins (decodeMixins source) fun mixins ↦
      { seen with mixins := some mixins }
  else fun d ↦ do
    skip d
    return seen

def ofFields (f : Fields) : Options := { props := f.props.join, mixins := f.mixins.join }

theorem decodeFields_cons (source : Source) (seen : Fields) (name : String) (d : Document)
    (entries : List (Option String × Document)) :
    decodeFields source seen ((some name, d) :: entries) =
      take source seen name d >>= fun seen ↦ decodeFields source seen entries := by
  rw [take]
  split
  · next h => subst h; rw [decodeFields]; simp [readField]
  · split
    · next h => subst h; rw [decodeFields]; simp [readField]
    · next hprops hmixins =>
      rw [decodeFields]
      · simp
      · exact hprops
      · exact hmixins

theorem decodeFields_ofEntries (source : Source) (seen : Fields)
    (entries : List (String × Json)) :
    decodeFields source seen (Document.ofEntries entries) =
      ofFields <$> entries.foldlM (fun f e ↦ take source f e.1 (.ofJson e.2)) seen := by
  refine foldlM_ofEntries (fun f ↦ ?_) (decodeFields_cons source) seen entries
  rw [decodeFields]
  rfl

theorem decodeItems_ofItems (source : Source) (items : List Json) :
    decodeItems source (Document.ofItems items) =
      items.mapM fun o ↦ decode source (.ofJson o) := by
  induction items with
  | nil => rw [Document.ofItems, decodeItems]; rfl
  | cons o os ih => rw [Document.ofItems, decodeItems, ih, List.mapM_cons]

theorem decode_object (source : Source) (entries : List (String × Json)) :
    decode source (.ofJson (.object entries)) =
      ofFields <$> entries.foldlM (fun f e ↦ take source f e.1 (.ofJson e.2)) {} := by
  rw [Document.ofJson, decode, decodeFields_ofEntries]

theorem decode_single (source : Source) (p : Json) :
    decode source (.ofJson (.array [p])) = do
      let props ← PropMap.decode (.ofJson p)
      return { props } := by
  rw [Document.ofJson, Document.ofItems, Document.ofItems, decode]

theorem decode_pair (source : Source) (p m : Json) (rest : List Json) :
    decode source (.ofJson (.array (p :: m :: rest))) = (do
      let props ← PropMap.decode (.ofJson p)
      let mixins ← decodeMixins source (.ofJson m)
      if rest.isEmpty then return { props, mixins }
      else throw (source.overlong 2 (rest.length + 2))) := by
  rw [Document.ofJson, Document.ofItems, Document.ofItems, decode]
  simp only [Document.ofItems_eq_map, List.isEmpty_map, List.length_map]

theorem take_of_ne {source : Source} {seen : Fields} {name : String} (hprops : name ≠ "props")
    (hmixins : name ≠ "mixins") (v : Json) : take source seen name (.ofJson v) = .ok seen := by
  rw [take, if_neg hprops, if_neg hmixins, skip_ofJson]
  rfl

theorem decodeMixins_array (source : Source) (items : List Json) :
    decodeMixins source (.ofJson (.array items)) =
      some <$> items.mapM fun o ↦ decode source (.ofJson o) := by
  rw [Document.ofJson, decodeMixins, decodeItems_ofItems]

end Options

namespace Prototype

def take (seen : Option Prototype) (name : String) : Decoder (Option Prototype) :=
  if name = "isReactComponent" then readField "isReactComponent" seen marker some
  else fun d ↦ do
    skip d
    return seen

theorem decodeFields_cons (seen : Option Prototype) (name : String) (d : Document)
    (entries : List (Option String × Document)) :
    decodeFields seen ((some name, d) :: entries) =
      take seen name d >>= fun seen ↦ decodeFields seen entries := by
  rw [take]
  split
  · next h => subst h; rw [decodeFields]; simp [readField]
  · next h =>
    rw [decodeFields]
    · simp
    · exact h

theorem decodeFields_ofEntries (seen : Option Prototype) (entries : List (String × Json)) :
    decodeFields seen (Document.ofEntries entries) =
      (·.getD ⟨false⟩) <$> entries.foldlM (fun p e ↦ take p e.1 (.ofJson e.2)) seen := by
  refine foldlM_ofEntries (fun p ↦ ?_) decodeFields_cons seen entries
  rw [decodeFields]

end Prototype

namespace Component

def fieldNames : List String := ["options", "$options", "propTypes", "defaultProps", "prototype"]

/-- Reads one entry of a component, its own options apart. -/
def take (source : Source) (seen : Fields) (name : String) : Decoder Fields :=
  if name = "options" then
    readField "options" seen.options (nullable (Options.decode source)) fun options ↦
      { seen with options := some options }
  else if name = "$options" then
    readField "$options" seen.instanceOptions (nullable (Options.decode source)) fun options ↦
      { seen with instanceOptions := some options }
  else if name = "propTypes" then
    readField "propTypes" seen.propTypes (nullable decodePropTypes) fun types ↦
      { seen with propTypes := some types }
  else if name = "defaultProps" then
    readField "defaultProps" seen.defaultProps (map whole) fun defaults ↦
      { seen with defaultProps := some defaults }
  else if name = "prototype" then
    readField "prototype" seen.prototype (nullable (Prototype.decode source)) fun prototype ↦
      { seen with prototype := some prototype }
  else fun d ↦ do
    let _ ← whole d
    return seen

theorem take_of_notMem {source : Source} {seen : Fields} {name : String}
    (hname : name ∉ fieldNames) {v : Json} (hv : v.NamesDistinct) :
    take source seen name (.ofJson v) = .ok seen := by
  simp only [fieldNames, List.mem_cons, List.not_mem_nil, or_false, not_or] at hname
  obtain ⟨h₁, h₂, h₃, h₄, h₅⟩ := hname
  rw [take, if_neg h₁, if_neg h₂, if_neg h₃, if_neg h₄, if_neg h₅, whole_ofJson hv]
  rfl

theorem decodeFields_cons (source : Source) (seen : Fields) (name : String) (d : Document)
    (entries : List (Option String × Document)) :
    decodeFields source seen ((some name, d) :: entries) =
      take source seen name d >>= fun seen ↦ decodeFields source seen entries := by
  by_cases hname : name ∈ fieldNames
  · simp only [fieldNames, List.mem_cons, List.not_mem_nil, or_false] at hname
    rcases hname with rfl | rfl | rfl | rfl | rfl <;> rw [decodeFields] <;> simp [take, readField]
  · simp only [fieldNames, List.mem_cons, List.not_mem_nil, or_false, not_or] at hname
    obtain ⟨h₁, h₂, h₃, h₄, h₅⟩ := hname
    rw [take, if_neg h₁, if_neg h₂, if_neg h₃, if_neg h₄, if_neg h₅, decodeFields]
    · simp
    all_goals assumption

theorem decodeFields_ofEntries (source : Source) (seen : Fields)
    (entries : List (String × Json)) :
    decodeFields source seen (Document.ofEntries entries) =
      entries.foldlM (fun f e ↦ take source f e.1 (.ofJson e.2)) seen := by
  refine (foldlM_ofEntries (fun f ↦ ?_) (decodeFields_cons source) seen entries).trans (id_map _)
  rw [decodeFields]
  rfl

def ofFields (f : Fields) (own : Options) : Component where
  options := f.options.join
  instanceOptions := f.instanceOptions.join
  own := own
  propTypes := f.propTypes.join
  defaultProps := f.defaultProps.getD .empty
  prototype := f.prototype.join

theorem decode_object (source : Source) (entries : List (String × Json)) :
    decode source (.ofJson (.object entries)) = do
      let f ← entries.foldlM (fun f e ↦ take source f e.1 (.ofJson e.2)) {}
      let own ← Options.decode .setAside (.ofJson (.object entries))
      return ofFields f own := by
  rw [Document.ofJson, decode, decodeFields_ofEntries, Options.decode]
  rfl

section Entries

variable {source : Source} {f f' : Fields} {name : String} {d : Document}

theorem take_eq_ok (h : take source f name d = .ok f') :
    (name = "options" ∧ ∃ a, f' = { f with options := some a }) ∨
    (name = "$options" ∧ ∃ a, f' = { f with instanceOptions := some a }) ∨
    (name = "propTypes" ∧ ∃ a, f' = { f with propTypes := some a }) ∨
    (name = "defaultProps" ∧ ∃ a, f' = { f with defaultProps := some a }) ∨
    (name = "prototype" ∧ ∃ a, f' = { f with prototype := some a }) ∨
    (name ∉ fieldNames ∧ f' = f) := by
  rw [take] at h
  split_ifs at h with h₁ h₂ h₃ h₄ h₅
  · exact .inl ⟨h₁, readField_eq_ok h⟩
  · exact .inr (.inl ⟨h₂, readField_eq_ok h⟩)
  · exact .inr (.inr (.inl ⟨h₃, readField_eq_ok h⟩))
  · exact .inr (.inr (.inr (.inl ⟨h₄, readField_eq_ok h⟩)))
  · exact .inr (.inr (.inr (.inr (.inl ⟨h₅, readField_eq_ok h⟩))))
  · obtain ⟨v, -, hf⟩ := bind_eq_ok.1 h
    refine .inr (.inr (.inr (.inr (.inr ⟨?_, (Except.ok.inj hf).symm⟩))))
    simp [fieldNames, h₁, h₂, h₃, h₄, h₅]

/-- An entry of another name leaves a field as it is. -/
theorem fields_of_take (h : take source f name d = .ok f') :
    (name ≠ "propTypes" → f'.propTypes = f.propTypes) ∧
      (name ≠ "defaultProps" → f'.defaultProps = f.defaultProps) ∧
        (name ≠ "prototype" → f'.prototype = f.prototype) := by
  rcases take_eq_ok h with ⟨rfl, a, rfl⟩ | ⟨rfl, a, rfl⟩ | ⟨rfl, a, rfl⟩ | ⟨rfl, a, rfl⟩ |
    ⟨rfl, a, rfl⟩ | ⟨-, rfl⟩ <;> simp

theorem readsField_propTypes (source : Source) :
    ReadsField (take source) "propTypes" Fields.propTypes (nullable decodePropTypes) :=
  .of_readField (fun _ ↦ rfl) (fun _ _ ↦ rfl) fun _ _ _ _ hn h ↦ (fields_of_take h).1 hn

theorem readsField_defaultProps (source : Source) :
    ReadsField (take source) "defaultProps" Fields.defaultProps (map whole) :=
  .of_readField (fun _ ↦ rfl) (fun _ _ ↦ rfl) fun _ _ _ _ hn h ↦ (fields_of_take h).2.1 hn

theorem readsField_prototype (source : Source) :
    ReadsField (take source) "prototype" Fields.prototype (nullable (Prototype.decode source)) :=
  .of_readField (fun _ ↦ rfl) (fun _ _ ↦ rfl) fun _ _ _ _ hn h ↦ (fields_of_take h).2.2 hn

theorem decode_entries {entries : List (Option String × Document)} {c : Component}
    (h : decode source (.object entries) = .ok c) :
    ∃ f own, entries.foldlM (takeEntry (take source)) {} = .ok f ∧ c = ofFields f own := by
  have hfold : decodeFields source {} entries = entries.foldlM (takeEntry (take source)) {} := by
    refine (foldlM_entries (fun f ↦ ?_) (fun f d es ↦ ?_) (decodeFields_cons source) {}
      entries).trans (id_map _)
    · rw [decodeFields]
      rfl
    · rw [decodeFields]
  rw [decode, hfold] at h
  obtain ⟨f, hf, hrest⟩ := bind_eq_ok.1 h
  obtain ⟨own, -, hc⟩ := bind_eq_ok.1 hrest
  exact ⟨f, own, hf, (Except.ok.inj hc).symm⟩

end Entries

end Component

end Showcase
