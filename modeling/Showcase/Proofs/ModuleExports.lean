import Showcase.Module.Manifest
import Showcase.Proofs.EntryReading

namespace Showcase

/-- A call that gives a module one export. -/
inductive ExportCall
  | withExport (name : String) (e : Export)
  | withComponent (name : String) (c : Component)

namespace ExportCall

def onModule (m : Module) : ExportCall → Module
  | withExport name e => m.withExport name e
  | withComponent name c => m.withComponent name c

def given : ExportCall → String × Export
  | withExport name e => (name, e)
  | withComponent name c => (name, .component c)

end ExportCall

namespace Module

variable {start m : Module} {name : String}

def replay (start : Module) (calls : List ExportCall) : Module :=
  calls.foldl ExportCall.onModule start

theorem exports_onModule (m : Module) (c : ExportCall) :
    (c.onModule m).exports = m.exports.insert c.given.1 c.given.2 := by cases c <;> rfl

theorem exports_foldl_onModule (m : Module) (calls : List ExportCall) :
    (m.replay calls).exports =
      (calls.map ExportCall.given).foldl (fun acc e ↦ acc.insert e.1 e.2) m.exports := by
  induction calls generalizing m with
  | nil => rfl
  | cons c calls ih =>
    rw [List.map_cons, List.foldl_cons, ← exports_onModule]
    exact ih (c.onModule m)

/-- What a module holds is all that it was given, one after the other. -/
theorem exports_replay (start : Module) (calls : List ExportCall) :
    (start.replay calls).exports = .ofList (start.toList ++ calls.map ExportCall.given) := by
  rw [exports_foldl_onModule, OrderedMap.ofList, List.foldl_append]
  exact congrArg (List.foldl _ · _) start.exports.ofList_entries.symm

theorem replay_withExport (xs : List (String × Export)) :
    replay {} (xs.map fun x ↦ .withExport x.1 x.2) = ⟨.ofList xs⟩ := by
  have hgiven : (xs.map fun x ↦ ExportCall.withExport x.1 x.2).map ExportCall.given = xs := by
    rw [List.map_map]
    exact List.map_id xs
  have hexports := exports_replay {} (xs.map fun x ↦ .withExport x.1 x.2)
  rw [hgiven] at hexports
  exact congrArg mk hexports

theorem first?_eq_some_iff {x : String × Export} : m.first? = some x ↔
    (m.toList.map Prod.fst).head? = some x.1 ∧ m.get? x.1 = some x.2 := by
  rw [get?, OrderedMap.get?_eq_some_iff, first?, toList, List.head?_map, Option.map_eq_some_iff]
  constructor
  · intro h
    exact ⟨⟨x, h, rfl⟩, List.mem_of_head? h⟩
  · rintro ⟨⟨y, hy, hname⟩, hx⟩
    have hsame : y = x :=
      List.inj_on_of_nodup_map m.exports.keys_nodup (List.mem_of_head? hy) hx hname
    rw [hy, hsame]

theorem decode_eq_ok_iff {d : Document} : decode d = .ok m ↔ ∃ entries xs,
    d = .object entries ∧ Decoder.ReadsEntries Export.decode entries xs ∧
      m = replay {} (xs.map fun x ↦ .withExport x.1 x.2) := by
  have hmap : decode d = mk <$> Decoder.map Export.decode d := rfl
  rw [hmap, map_eq_ok]
  constructor
  · rintro ⟨exports, hexports, rfl⟩
    obtain ⟨entries, xs, rfl, hxs, rfl⟩ := (Decoder.map_eq_ok_iff _).1 hexports
    exact ⟨entries, xs, rfl, hxs, (replay_withExport xs).symm⟩
  · rintro ⟨entries, xs, rfl, hxs, rfl⟩
    exact ⟨.ofList xs, (Decoder.map_eq_ok_iff _).2 ⟨entries, xs, rfl, hxs, rfl⟩,
      (replay_withExport xs).symm⟩

/-- The module holds what it was given: each name once, at the place where it was first given, with
the export that was last given under it. -/
structure Holds (m : Module) (given : List (String × Export)) : Prop where
  names : m.toList.map Prod.fst = (given.map Prod.fst).eraseDups
  distinct : (m.toList.map Prod.fst).Nodup
  last : ∀ name e, m.get? name = some e ↔
    ∃ before after, given = before ++ (name, e) :: after ∧ name ∉ after.map Prod.fst
  missing : ∀ name, m.get? name = none ↔ name ∉ given.map Prod.fst
  entry : ∀ x, x ∈ m.toList ↔ m.get? x.1 = some x.2
  first : ∀ x, m.first? = some x ↔
    (given.map Prod.fst).head? = some x.1 ∧ m.get? x.1 = some x.2
  size : m.size = (given.map Prod.fst).eraseDups.length
  isEmpty : m.isEmpty = true ↔ given = []

theorem holds_of_exports {given : List (String × Export)} (h : m.exports = .ofList given) :
    m.Holds given := by
  have hnames : m.toList.map Prod.fst = (given.map Prod.fst).eraseDups := by
    rw [← OrderedMap.keys_ofList, ← h]
    rfl
  have hempty : m.toList = [] ↔ given = [] := by
    rw [← List.map_eq_nil_iff, hnames, ← List.head?_eq_none_iff, head?_eraseDups,
      List.head?_eq_none_iff, List.map_eq_nil_iff]
  constructor
  case names => exact hnames
  case distinct => exact hnames ▸ nodup_eraseDups _
  case last =>
    intro name e
    rw [get?, h, OrderedMap.get?_ofList_eq_some_iff]
  case missing =>
    intro name
    rw [get?, h, OrderedMap.get?_eq_none_iff, OrderedMap.keys_ofList, List.mem_eraseDups]
  case entry => exact fun x ↦ OrderedMap.get?_eq_some_iff.symm
  case first =>
    intro x
    rw [first?_eq_some_iff, hnames, head?_eraseDups]
  case size => rw [← hnames, List.length_map, size, toList]
  case isEmpty => rw [isEmpty, List.isEmpty_iff, ← hempty, toList]

theorem toList_onModule_of_get? {c : ExportCall} {old : Export} (h : m.get? c.given.1 = some old) :
    ∃ before after, m.toList = before ++ (c.given.1, old) :: after ∧
      (c.onModule m).toList = before ++ c.given :: after := by
  rw [toList, toList, exports_onModule]
  exact OrderedMap.entries_insert_of_get? h c.given.2

theorem toList_onModule_of_missing {c : ExportCall} (h : m.get? c.given.1 = none) :
    (c.onModule m).toList = m.toList ++ [c.given] := by
  rw [toList, toList, exports_onModule]
  exact OrderedMap.entries_insert_of_notMem (OrderedMap.get?_eq_none_iff.1 h) c.given.2

/-- A module is put together by its calls. It holds what it had and what it was given then. Another
export of a name takes the place of the one before, a new name goes to the end, and nothing else
moves. A module that is read from an object is the one that is given what the entries of the object
read as, one after the other. -/
theorem exports_follow_calls :
    (∀ (start : Module) (calls : List ExportCall),
      (start.replay calls).Holds (start.toList ++ calls.map ExportCall.given)) ∧
    (∀ (m : Module) (c : ExportCall),
      (∀ old, m.get? c.given.1 = some old → ∃ before after,
        m.toList = before ++ (c.given.1, old) :: after ∧
          (c.onModule m).toList = before ++ c.given :: after) ∧
      (m.get? c.given.1 = none → (c.onModule m).toList = m.toList ++ [c.given])) ∧
    ∀ d m, decode d = .ok m ↔ ∃ entries xs,
      d = .object entries ∧ Decoder.ReadsEntries Export.decode entries xs ∧
        m = replay {} (xs.map fun x ↦ .withExport x.1 x.2) := by
  refine ⟨fun start calls ↦ holds_of_exports (exports_replay start calls), fun m c ↦ ?_,
    fun d m ↦ decode_eq_ok_iff⟩
  exact ⟨fun old hold ↦ toList_onModule_of_get? hold, toList_onModule_of_missing⟩

section Gallery

/-- In the text the name of the gallery is given twice. -/
def galleryText : Document :=
  .object [(some "Gallery", .bool true), (some "limit", .number (.integer 0)),
    (some "Gallery", .object [])]

def gallery : Module := ⟨.ofList [("Gallery", .component {}), ("limit", .empty)]⟩

def galleryCalls : List ExportCall :=
  [.withExport "limit" (.value (.integer 4)), .withComponent "Tile" {}, .withExport "Gallery" .empty]

theorem gallery_follows_calls :
    decode galleryText = .ok gallery ∧
    gallery = replay {} [.withExport "Gallery" (.value (.bool true)), .withExport "limit" .empty,
      .withExport "Gallery" (.component {})] ∧
    (gallery.replay galleryCalls).toList.map Prod.fst = ["Gallery", "limit", "Tile"] ∧
    (gallery.get? "limit" = some .empty ∧ ∃ before after,
      gallery.toList = before ++ ("limit", .empty) :: after ∧
        (gallery.withComponent "limit" {}).toList = before ++ ("limit", .component {}) :: after) ∧
    gallery.get? "Tile" = none ∧
    (gallery.withExport "Tile" .empty).toList = gallery.toList ++ [("Tile", .empty)] := by
  obtain ⟨hholds, hmoves, hread⟩ := exports_follow_calls
  have hreplay : gallery = replay {} [.withExport "Gallery" (.value (.bool true)),
      .withExport "limit" .empty, .withExport "Gallery" (.component {})] := rfl
  have hentries : Decoder.ReadsEntries Export.decode
      [(some "Gallery", .bool true), (some "limit", .number (.integer 0)),
        (some "Gallery", .object [])]
      [("Gallery", .value (.bool true)), ("limit", .empty), ("Gallery", .component {})] :=
    .cons ⟨rfl, rfl⟩ (.cons ⟨rfl, rfl⟩ (.cons ⟨rfl, rfl⟩ .nil))
  exact ⟨(hread _ _).2 ⟨_, _, rfl, hentries, hreplay⟩, hreplay,
    (hholds gallery galleryCalls).names.trans (by decide),
    ⟨rfl, (hmoves gallery (.withComponent "limit" {})).1 .empty rfl⟩,
    rfl, (hmoves gallery (.withExport "Tile" .empty)).2 rfl⟩

end Gallery

end Module

end Showcase
