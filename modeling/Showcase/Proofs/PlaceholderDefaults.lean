import Showcase.Proofs.Resolution
import Showcase.Proofs.TemplateProps

namespace Showcase

variable {σ : Type}

/-- An object or a list that has no members, and so nothing to read. -/
def Json.IsEmptyStructure (v : Json) : Prop := v = .object [] ∨ v = .array []

theorem Json.isBare_iff {v : Json} : v.isBare = true ↔ v.IsEmptyStructure := by
  cases v <;> simp [isBare, IsEmptyStructure]

/-- In an empty structure every member is missing, whatever its key. -/
theorem Placeholder.get_of_empty {v : Json} (h : v.IsEmptyStructure) (owner : Owner)
    (key : String) : (Placeholder.mk v owner).get key = .stub ⟨key, owner⟩ := by
  rcases h with rfl | rfl
  · rfl
  · have hmissing : member? key (.array []) = none := by
      rw [member?]
      cases listIndex? key <;> rfl
    rw [get, hmissing, Option.elim_none]

/-- Where the default of a prop starts: with what the caller gives, else with what is declared, for
which a producer is called, else with what the kind falls back to. -/
inductive StartsFrom (host : Host σ) (prop : String) (d : Declaration) (kind : Kind)
    (s : Session σ) : Option Json → Option Json → Session σ → Prop
  | caller (v : Json) : StartsFrom host prop d kind s (some v) (some v) s
  | literal {v : Json} (h : d.default = some (.literal v)) :
      StartsFrom host prop d kind s none (some v) s
  | producer {id : Nat} (h : d.default = some (.producer id)) :
      StartsFrom host prop d kind s none (some ((host.produce id).perform s).1)
        ((host.produce id).perform s).2
  | fallback (h : d.default = none) : StartsFrom host prop d kind s none (kind.fallback? prop) s

section Start

variable {host : Host σ} {prop : String} {d : Declaration} {kind : Kind} {s left : Session σ}
  {caller start : Option Json}

theorem startsFrom_givenDefault (host : Host σ) (prop : String) (d : Declaration) (kind : Kind)
    (caller : Option Json) (s : Session σ) :
    StartsFrom host prop d kind s caller
      (((givenDefault host d caller).perform s).1 <|> kind.fallback? prop)
      ((givenDefault host d caller).perform s).2 := by
  obtain ⟨type, default⟩ := d
  cases caller with
  | some v => exact .caller v
  | none =>
    match default with
    | none => exact .fallback rfl
    | some (.literal v) => exact .literal rfl
    | some (.producer id) => exact .producer rfl

theorem StartsFrom.eq_none_iff (h : StartsFrom host prop d kind s caller start left) :
    start = none ↔ caller = none ∧ d.default = none ∧ kind.fallback? prop = none := by
  cases h with
  | caller v => simp
  | literal h => simp [h]
  | producer h => simp [h]
  | fallback h => simp [h]

end Start

namespace Arg

variable {prop : String} {v w : Json} {p : Placeholder}

theorem ofDefault_of_empty (h : v.IsEmptyStructure) :
    ofDefault prop v = .placeholder ⟨v, .prop prop⟩ := by
  rw [ofDefault, if_pos (Json.isBare_iff.2 h)]

theorem ofDefault_of_nonempty (h : ¬ v.IsEmptyStructure) : ofDefault prop v = .json v := by
  rw [ofDefault, if_neg (mt Json.isBare_iff.1 h)]

theorem ofDefault_ne_undefined : ofDefault prop v ≠ .undefined := by
  rw [ofDefault]
  split <;> simp

theorem ofDefault_eq_json_iff : ofDefault prop w = .json v ↔ w = v ∧ ¬ v.IsEmptyStructure := by
  by_cases hw : w.IsEmptyStructure
  · rw [ofDefault_of_empty hw]
    exact iff_of_false (by simp) fun h ↦ h.2 (h.1 ▸ hw)
  · rw [ofDefault_of_nonempty hw, json.injEq]
    exact (and_iff_left_of_imp fun h ↦ h ▸ hw).symm

theorem ofDefault_eq_placeholder_iff :
    ofDefault prop w = .placeholder p ↔ w.IsEmptyStructure ∧ p = ⟨w, .prop prop⟩ := by
  by_cases hw : w.IsEmptyStructure
  · rw [ofDefault_of_empty hw, placeholder.injEq]
    simp [hw, eq_comm]
  · rw [ofDefault_of_nonempty hw]
    simp [hw]

end Arg

section ArgOf

variable {prop : String} {kind : Kind} {given : Option Json}

theorem argOf_eq_undefined_iff :
    argOf prop kind given = .undefined ↔ (given <|> kind.fallback? prop) = none := by
  rw [argOf]
  cases given <|> kind.fallback? prop <;> simp [Arg.ofDefault_ne_undefined]

theorem argOf_eq_json_iff {v : Json} : argOf prop kind given = .json v ↔
    (given <|> kind.fallback? prop) = some v ∧ ¬ v.IsEmptyStructure := by
  rw [argOf]
  cases given <|> kind.fallback? prop <;> simp [Arg.ofDefault_eq_json_iff]

theorem argOf_eq_placeholder_iff {p : Placeholder} : argOf prop kind given = .placeholder p ↔
    ∃ v, (given <|> kind.fallback? prop) = some v ∧ v.IsEmptyStructure ∧ p = ⟨v, .prop prop⟩ := by
  rw [argOf]
  cases given <|> kind.fallback? prop <;> simp [Arg.ofDefault_eq_placeholder_iff]

end ArgOf

section Echo

/-- The echoing control library hands on what the default was resolved to. -/
theorem echoed_value {host : Host σ} (h : host.control = echo) {prop : String} {d : Declaration}
    {o : Overrides} {s : Session σ} {a : Arg}
    (ha : ((resolve host prop d o).perform s).1.value = .control a) :
    ∃ given, a = argOf prop (kindUnder d o.choices) given := by
  by_cases hbound : (kindUnder d o.choices).isBound = true
  · obtain ⟨given, s', -, hresolve⟩ := perform_resolve_bound host prop d o s hbound
    have hecho (b : Binding) : ((host.control b).perform s').1 = b.default := by
      rw [h]
      rfl
    rw [hresolve, hecho, bindingOf_default] at ha
    exact ⟨given, (Input.control.inj ha).symm⟩
  · rw [perform_resolve_free host prop d o s (Bool.not_eq_true _ ▸ hbound), freeInput] at ha
    split at ha <;> cases ha

theorem shown_of_echo {env : Env σ} (h : env.host.control = echo) {r : Record} {s : Session σ}
    {prop : String} {a : Arg}
    (ha : ((env.render r).perform s).1.input? prop = some (.control a)) :
    ∃ kind given, a = argOf prop kind given := by
  obtain ⟨d, o, s', -, hvalue⟩ := resolve_of_input? env r ha
  obtain ⟨given, ha⟩ := echoed_value h hvalue.symm
  exact ⟨_, given, ha⟩

end Echo

/-- The default of a prop starts with the first of what the caller gives, what is declared and what
the kind falls back to. A value without members is wrapped in a placeholder of the prop, of which
every member can be read as a stub, and any other value stays as it is; if there is nothing to start
with, the default is undefined. So where controls echo, no story shows a bare empty structure. -/
theorem empty_defaults_wrapped :
    (∀ (host : Host σ) (prop : String) (d : Declaration) (kind : Kind) (caller : Option Json)
      (s : Session σ), ∃ start left a, StartsFrom host prop d kind s caller start left ∧
        (defaultArg host prop d kind caller).perform s = (a, left) ∧
        (∀ v, a = .json v ↔ start = some v ∧ ¬ v.IsEmptyStructure) ∧
        (∀ p, a = .placeholder p ↔
          ∃ v, start = some v ∧ v.IsEmptyStructure ∧ p = ⟨v, .prop prop⟩) ∧
        (a = .undefined ↔ caller = none ∧ d.default = none ∧ kind.fallback? prop = none) ∧
        ∀ p, a = .placeholder p → ∀ key, ∃ stub, p.get key = .stub stub ∧ stub.key = key ∧
          stub.owner = .prop prop ∧ stub.text =
            "Proxy property \"" ++ key ++ "\" of prop \"" ++ prop ++ "\" by storybook automation") ∧
    ∀ env : Env σ, env.host.control = echo → ∀ r s prop v,
      ((env.render r).perform s).1.input? prop = some (.control (.json v)) →
      ¬ v.IsEmptyStructure := by
  constructor
  · intro host prop d kind caller s
    have hstart := startsFrom_givenDefault host prop d kind caller s
    refine ⟨_, _, _, hstart, perform_defaultArg host prop d s kind caller,
      fun v ↦ argOf_eq_json_iff, fun p ↦ argOf_eq_placeholder_iff,
      argOf_eq_undefined_iff.trans hstart.eq_none_iff, fun p hp key ↦ ?_⟩
    obtain ⟨v, -, hempty, rfl⟩ := argOf_eq_placeholder_iff.1 hp
    exact ⟨⟨key, .prop prop⟩, Placeholder.get_of_empty hempty _ key, rfl, rfl, rfl⟩
  · intro env henv r s prop v hv
    obtain ⟨kind, given, hjson⟩ := shown_of_echo henv hv
    exact (argOf_eq_json_iff.1 hjson.symm).2

section Account

/-- The producer makes an empty list. -/
def blankEnv : Env Unit where
  host := {
    produce := fun _ ↦ return .array []
    control := echo
    acknowledge := logAcknowledged }

def tags : Declaration := { type := some (.constructor .array), default := some (.producer 0) }

def account : Record where
  style := .template
  group := "forms"
  name := "Account"
  component := { own := { props := some (.ofList
    [("user", { type := some (.constructor .object) }), ("tags", tags)]) } }
  module := {}

theorem account_shows_placeholders :
    let shown (prop : String) := ((blankEnv.render account).perform ⟨(), []⟩).1.input? prop
    (∃ p left, (defaultArg blankEnv.host "tags" tags .array none).perform ⟨(), []⟩ =
      (.placeholder p, left) ∧ p.get "0" = .stub ⟨"0", .prop "tags"⟩) ∧
    blankEnv.host.control = echo ∧ (shown "user").isSome = true ∧
    ∀ prop v, shown prop = some (.control (.json v)) → ¬ v.IsEmptyStructure := by
  intro shown
  obtain ⟨hdefault, hstories⟩ := empty_defaults_wrapped (σ := Unit)
  obtain ⟨start, left, a, hstart, hrun, -, hplaceholder, -, hmembers⟩ :=
    hdefault blankEnv.host "tags" tags .array none ⟨(), []⟩
  have hempty : start = some (.array []) := by
    cases hstart with
    | literal h => cases h
    | producer h => rfl
    | fallback h => cases h
  have hp : a = .placeholder ⟨.array [], .prop "tags"⟩ :=
    (hplaceholder _).2 ⟨_, hempty, .inr rfl, rfl⟩
  obtain ⟨⟨key, owner⟩, hget, hkey, howner, -⟩ := hmembers _ hp "0"
  obtain rfl : key = "0" := hkey
  obtain rfl : owner = .prop "tags" := howner
  exact ⟨⟨_, left, hp ▸ hrun, hget⟩, rfl, by decide,
    hstories blankEnv rfl account ⟨(), []⟩⟩

end Account

end Showcase
