import Mathlib.Tactic.SplitIfs
import Showcase.Config
import Showcase.Proofs.EntryReading

namespace Showcase.Config

open Decoder

def fieldNames : List String := ["$schema", "plugins", "defaults", "enums"]

/-- Reads one entry of a configuration. -/
def take (seen : Fields) (name : String) : Decoder Fields :=
  if name = "$schema" then
    readField "$schema" seen.schema decodeSchema fun schema ↦ { seen with schema := some schema }
  else if name = "plugins" then
    readField "plugins" seen.plugins decodePlugins fun plugins ↦
      { seen with plugins := some plugins }
  else if name = "defaults" then
    readField "defaults" seen.defaults decodeDefaults fun defaults ↦
      { seen with defaults := some defaults }
  else if name = "enums" then
    readField "enums" seen.enums decodeEnums fun enums ↦ { seen with enums := some enums }
  else fun d ↦ do
    skip d
    return seen

theorem decodeFields_cons (seen : Fields) (name : String) (d : Document)
    (entries : List (Option String × Document)) :
    decodeFields seen ((some name, d) :: entries) =
      take seen name d >>= fun seen ↦ decodeFields seen entries := by
  by_cases hname : name ∈ fieldNames
  · simp only [fieldNames, List.mem_cons, List.not_mem_nil, or_false] at hname
    rcases hname with rfl | rfl | rfl | rfl <;> rw [decodeFields] <;> simp [take, readField]
  · simp only [fieldNames, List.mem_cons, List.not_mem_nil, or_false, not_or] at hname
    obtain ⟨h₁, h₂, h₃, h₄⟩ := hname
    rw [take, if_neg h₁, if_neg h₂, if_neg h₃, if_neg h₄, decodeFields]
    · simp
    all_goals assumption

theorem decode_object (source : Source) (entries : List (Option String × Document)) :
    decode source (.object entries) = ofFields <$> entries.foldlM (takeEntry take) {} := by
  have hfold : decodeFields {} entries = entries.foldlM (takeEntry take) {} := by
    refine (foldlM_entries (fun f ↦ ?_) (fun f d es ↦ ?_) decodeFields_cons {} entries).trans
      (id_map _)
    · rw [decodeFields]
      rfl
    · rw [decodeFields]
  rw [decode, hfold]

section Fresh

variable {f : Fields}

theorem take_schema (h : f.schema = none) (d : Document) :
    take f "$schema" d = (fun a ↦ { f with schema := some a }) <$> decodeSchema d := by
  rw [take, if_pos rfl, h, readField_none]

theorem take_plugins (h : f.plugins = none) (d : Document) :
    take f "plugins" d = (fun a ↦ { f with plugins := some a }) <$> decodePlugins d := by
  rw [take, if_neg (by decide), if_pos rfl, h, readField_none]

theorem take_defaults (h : f.defaults = none) (d : Document) :
    take f "defaults" d = (fun a ↦ { f with defaults := some a }) <$> decodeDefaults d := by
  rw [take, if_neg (by decide), if_neg (by decide), if_pos rfl, h, readField_none]

theorem take_enums (h : f.enums = none) (d : Document) :
    take f "enums" d = (fun a ↦ { f with enums := some a }) <$> decodeEnums d := by
  rw [take, if_neg (by decide), if_neg (by decide), if_neg (by decide), if_pos rfl, h,
    readField_none]

end Fresh

/-- A list is read like an object whose entries have the names of the fields in their order. -/
theorem decode_array (source : Source) (items : List Document) :
    decode source (.array items) =
      ofFields <$> (((fieldNames.map some).zip items).foldlM (takeEntry take) {} >>= fun f ↦
        if items.length ≤ fieldNames.length then pure f
        else throw (source.overlong fieldNames.length items.length)) := by
  rw [decode]
  match items with
  | [] => rfl
  | [s] => simp [decodeItems, fieldNames, takeEntry, take_schema]
  | [s, p] => simp [decodeItems, fieldNames, takeEntry, take_schema, take_plugins]
  | [s, p, d] =>
    simp [decodeItems, fieldNames, takeEntry, take_schema, take_plugins, take_defaults]
  | s :: p :: d :: e :: rest =>
    have hrest (schema : Option String) (plugins : OrderedMap Json)
        (defaults : OrderedMap (OrderedMap Json)) (enums : OrderedMap (OrderedMap Enumeration)) :
        ofFields <$> (if rest.isEmpty then return ⟨schema, plugins, defaults, enums⟩
          else throw (source.overlong 4 (rest.length + 4)) : Except ReadError Fields) =
        ofFields <$> (if (s :: p :: d :: e :: rest).length ≤ 4
          then pure ⟨some schema, some plugins, some defaults, some enums⟩
          else throw (source.overlong 4 (s :: p :: d :: e :: rest).length)) := by
      cases rest <;> cases schema <;> rfl
    simp only [decodeItems, map_bind, hrest]
    simp [fieldNames, takeEntry, take_schema, take_plugins, take_defaults, take_enums]

/-- What reading one entry can do to the fields met so far. -/
theorem take_eq_ok {f f' : Fields} {name : String} {d : Document} (h : take f name d = .ok f') :
    (name = "$schema" ∧ f.schema = none ∧
      ∃ a, decodeSchema d = .ok a ∧ f' = { f with schema := some a }) ∨
    (name = "plugins" ∧ f.plugins = none ∧
      ∃ a, decodePlugins d = .ok a ∧ f' = { f with plugins := some a }) ∨
    (name = "defaults" ∧ f.defaults = none ∧
      ∃ a, decodeDefaults d = .ok a ∧ f' = { f with defaults := some a }) ∨
    (name = "enums" ∧ f.enums = none ∧
      ∃ a, decodeEnums d = .ok a ∧ f' = { f with enums := some a }) ∨
    (name ∉ fieldNames ∧ skip d = .ok () ∧ f' = f) := by
  rw [take] at h
  split_ifs at h with h₁ h₂ h₃ h₄
  · exact .inl ⟨h₁, readField_eq_ok_iff.1 h⟩
  · exact .inr (.inl ⟨h₂, readField_eq_ok_iff.1 h⟩)
  · exact .inr (.inr (.inl ⟨h₃, readField_eq_ok_iff.1 h⟩))
  · exact .inr (.inr (.inr (.inl ⟨h₄, readField_eq_ok_iff.1 h⟩)))
  · refine .inr (.inr (.inr (.inr ⟨by simp [fieldNames, h₁, h₂, h₃, h₄], ?_⟩)))
    obtain ⟨u, hu, hf⟩ := bind_eq_ok.1 h
    exact ⟨hu, (Except.ok.inj hf).symm⟩

theorem readsField_schema : ReadsField take "$schema" Fields.schema decodeSchema := by
  refine .of_readField (fun _ ↦ rfl) (fun _ _ ↦ rfl) fun f n d f' hn h ↦ ?_
  rcases take_eq_ok h with ⟨rfl, -⟩ | ⟨-, -, a, -, rfl⟩ | ⟨-, -, a, -, rfl⟩ |
    ⟨-, -, a, -, rfl⟩ | ⟨-, -, rfl⟩
  · exact absurd rfl hn
  all_goals rfl

end Showcase.Config
