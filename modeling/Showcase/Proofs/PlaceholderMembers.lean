import Mathlib.Data.Nat.Digits.Defs
import Showcase.Placeholder
import Showcase.Proofs.JsonValue

namespace Showcase

section Position

variable {key : String} {ds : List Char} {i j : Nat}

def digitValue (c : Char) : Nat := c.toNat - '0'.toNat

def decimalValue (ds : List Char) : Nat := Nat.ofDigits 10 (ds.reverse.map digitValue)

/-- The key writes a number in decimal digits, perhaps with a plus sign and zeros before it. -/
def IsPosition (key : String) (i : Nat) : Prop :=
  ∃ ds, (key.toList = ds ∨ key.toList = '+' :: ds) ∧ ds ≠ [] ∧ (∀ c ∈ ds, c.isDigit = true) ∧
    i = decimalValue ds

def withoutPlus : List Char → List Char
  | '+' :: cs => cs
  | cs => cs

theorem withoutPlus_of_digits (h : ∀ c ∈ ds, c.isDigit = true) : withoutPlus ds = ds := by
  cases ds with
  | nil => rfl
  | cons c cs =>
    have hc : c ≠ '+' := by
      rintro rfl
      exact absurd (h '+' (List.mem_cons_self ..)) (by decide)
    exact withoutPlus.eq_2 _ fun cs' h ↦ hc (List.cons.inj h).1

theorem eq_withoutPlus_or (cs : List Char) :
    cs = withoutPlus cs ∨ cs = '+' :: withoutPlus cs := by
  fun_cases withoutPlus cs with
  | case1 cs => exact .inr rfl
  | case2 cs h => exact .inl rfl

theorem isPosition_iff : IsPosition key i ↔
    withoutPlus key.toList ≠ [] ∧ (∀ c ∈ withoutPlus key.toList, c.isDigit = true) ∧
      i = decimalValue (withoutPlus key.toList) := by
  constructor
  · rintro ⟨ds, hkey, hne, hdigits, rfl⟩
    have hds : withoutPlus key.toList = ds := by
      rcases hkey with hkey | hkey
      · rw [hkey, withoutPlus_of_digits hdigits]
      · rw [hkey, withoutPlus]
    rw [hds]
    exact ⟨hne, hdigits, rfl⟩
  · rintro ⟨hne, hdigits, hi⟩
    exact ⟨_, eq_withoutPlus_or key.toList, hne, hdigits, hi⟩

theorem foldl_digits (ds : List Char) :
    ds.foldl (fun n c ↦ 10 * n + (c.toNat - '0'.toNat)) 0 = decimalValue ds := by
  induction ds using List.reverseRecOn with
  | nil => rfl
  | append_singleton ds c ih =>
    rw [List.foldl_concat, ih, decimalValue, decimalValue, List.reverse_concat, List.map_cons,
      Nat.ofDigits_cons, digitValue]
    exact Nat.add_comm _ _

theorem listIndex?_eq (key : String) : listIndex? key =
    let ds := withoutPlus key.toList
    if ds.isEmpty || !ds.all Char.isDigit then none
    else if decimalValue ds < 2 ^ 64 then some (decimalValue ds) else none := by
  simp only [← foldl_digits]
  rfl

/-- Digits that make up a number beyond 64 bits are no index. -/
theorem listIndex?_eq_some_iff : listIndex? key = some i ↔ IsPosition key i ∧ i < 2 ^ 64 := by
  rw [listIndex?_eq, isPosition_iff]
  generalize withoutPlus key.toList = ds
  have hguard : (ds.isEmpty || !ds.all Char.isDigit) = true ↔
      ¬ (ds ≠ [] ∧ ∀ c ∈ ds, c.isDigit = true) := by
    rw [Bool.or_eq_true, Bool.not_eq_true', ← Bool.not_eq_true, List.all_eq_true, List.isEmpty_iff,
      Decidable.not_and_iff_not_or_not, not_not]
  by_cases h : (ds.isEmpty || !ds.all Char.isDigit) = true
  · rw [if_pos h]
    exact iff_of_false (by simp) fun hi ↦ hguard.1 h ⟨hi.1.1, hi.1.2.1⟩
  · obtain ⟨hne, hdigits⟩ := not_not.1 (mt hguard.2 h)
    rw [if_neg h, Option.ite_none_right_eq_some, Option.some.injEq]
    constructor
    · rintro ⟨hlt, rfl⟩
      exact ⟨⟨hne, hdigits, rfl⟩, hlt⟩
    · rintro ⟨⟨-, -, rfl⟩, hlt⟩
      exact ⟨hlt, rfl⟩

theorem IsPosition.unique (h : IsPosition key i) (h' : IsPosition key j) : i = j := by
  rw [(isPosition_iff.1 h).2.2, (isPosition_iff.1 h').2.2]

end Position

/-- What can be read of a value under a key: an entry of an object, or the item of a list whose
position the key writes. -/
inductive Json.HasMember : Json → String → Json → Prop
  | entry {entries : List (String × Json)} {key : String} {v : Json} (h : (key, v) ∈ entries) :
      HasMember (.object entries) key v
  | item {items : List Json} {key : String} {i : Nat} {v : Json} (hkey : IsPosition key i)
      (hitem : items[i]? = some v) : HasMember (.array items) key v

namespace Placeholder

variable {p : Placeholder} {key : String} {v w : Json}

theorem get_eq_value_iff : p.get key = .value v ↔ member? key p.value = some v := by
  rw [get]
  cases member? key p.value <;> simp

theorem get_eq_stub_iff {s : Stub} :
    p.get key = .stub s ↔ member? key p.value = none ∧ s = ⟨key, p.owner⟩ := by
  rw [get]
  cases member? key p.value <;> simp [eq_comm]

/-- The positions in a list of this length are all within the bound on an index. -/
theorem member?_eq_some_iff (h : v.NamesDistinct)
    (hlength : ∀ items, v = .array items → items.length ≤ 2 ^ 64) :
    member? key v = some w ↔ v.HasMember key w := by
  cases v with
  | object entries =>
    let m : OrderedMap Json := ⟨entries, (Json.namesDistinct_object.1 h).1⟩
    have hget : member? key (.object entries) = some w ↔ (key, w) ∈ entries :=
      OrderedMap.get?_eq_some_iff (m := m)
    rw [hget]
    refine ⟨.entry, fun hmember ↦ ?_⟩
    cases hmember with
    | entry hentry => exact hentry
  | array items =>
    rw [member?, Option.bind_eq_some_iff]
    constructor
    · rintro ⟨i, hi, hitem⟩
      exact .item (listIndex?_eq_some_iff.1 hi).1 hitem
    · intro hmember
      cases hmember with
      | item hkey hitem =>
        obtain ⟨hi, -⟩ := List.getElem?_eq_some_iff.1 hitem
        exact ⟨_, listIndex?_eq_some_iff.2 ⟨hkey, hi.trans_le (hlength items rfl)⟩, hitem⟩
  | null | bool | number | string =>
    refine iff_of_false (by simp [member?]) ?_
    intro hmember
    cases hmember

/-- A placeholder gives the member that its value has under a key, and a stub that knows the key and
its owner where there is none. A list is read at decimal numbers only, and a number beyond its end
is missing, however large it is. -/
theorem get_reads_member (p : Placeholder) (key : String) (h : p.value.NamesDistinct)
    (hlength : ∀ items, p.value = .array items → items.length ≤ 2 ^ 64) :
    (∀ v, p.get key = .value v ↔ p.value.HasMember key v) ∧
    (∀ s, p.get key = .stub s ↔
      (∀ v, ¬ p.value.HasMember key v) ∧ s.key = key ∧ s.owner = p.owner) ∧
    ∀ items i, p.value = .array items → IsPosition key i → items.length ≤ i →
      p.get key = .stub ⟨key, p.owner⟩ := by
  have hvalue (v : Json) : p.get key = .value v ↔ p.value.HasMember key v :=
    get_eq_value_iff.trans (member?_eq_some_iff h hlength)
  have hmissing : member? key p.value = none ↔ ∀ v, ¬ p.value.HasMember key v := by
    rw [Option.eq_none_iff_forall_ne_some]
    exact forall_congr' fun v ↦ not_congr (member?_eq_some_iff h hlength)
  refine ⟨hvalue, fun s ↦ ?_, fun items i hitems hkey hi ↦ ?_⟩
  · rw [get_eq_stub_iff, hmissing, Stub.mk.injEq]
  · refine get_eq_stub_iff.2 ⟨hmissing.2 fun v hv ↦ ?_, rfl⟩
    rw [hitems] at hv
    cases hv with
    | item hkey' hitem =>
      obtain rfl := hkey.unique hkey'
      rw [List.getElem?_eq_none hi] at hitem
      cases hitem

/-- The first two keys write the same number, the third one more than 64 bits can hold. -/
theorem flags_read_member :
    let p : Placeholder := ⟨.array [.null, .bool true], .prop "flags"⟩
    p.value.NamesDistinct ∧ (∀ items, p.value = .array items → items.length ≤ 2 ^ 64) ∧
    p.get "1" = .value (.bool true) ∧ p.get "+001" = .value (.bool true) ∧
    p.get "18446744073709551617" = .stub ⟨"18446744073709551617", .prop "flags"⟩ := by
  intro p
  have hdistinct : p.value.NamesDistinct :=
    .array (by simp [Json.NamesDistinct.null, Json.NamesDistinct.bool])
  have hlength : ∀ items, p.value = .array items → items.length ≤ 2 ^ 64 := by
    intro items hitems
    cases hitems
    decide
  have hplain : IsPosition "1" 1 := ⟨['1'], .inl rfl, by decide, by simp, rfl⟩
  have hsigned : IsPosition "+001" 1 :=
    ⟨['0', '0', '1'], .inr rfl, by decide, by simp, rfl⟩
  have hlarge : IsPosition "18446744073709551617" (2 ^ 64 + 1) :=
    ⟨"18446744073709551617".toList, .inl rfl, by decide, by simp, rfl⟩
  refine ⟨hdistinct, hlength, ?_, ?_, ?_⟩
  · exact ((get_reads_member p _ hdistinct hlength).1 _).2 (.item hplain rfl)
  · exact ((get_reads_member p _ hdistinct hlength).1 _).2 (.item hsigned rfl)
  · exact (get_reads_member p _ hdistinct hlength).2.2 _ _ rfl hlarge (by decide)

end Placeholder

end Showcase
