import Showcase.Proofs.Resolution

namespace Showcase

variable {σ α : Type}

/-- A call of a hook, a producer, a control or the sink, with the answer where it matters later. -/
inductive Call
  | defaultHook (prop : String) (answer : Option Json)
  | choiceHook (prop : String) (answer : Option Enumeration)
  | produce (id : Nat) (answer : Json)
  | control (b : Binding)
  | acknowledge (prop : String)

namespace Call

def read? : Call → Option (String × ControlKind)
  | control b => some (b.name, b.control)
  | defaultHook .. | choiceHook .. | produce .. | acknowledge _ => none

def producer? : Call → Option Nat
  | produce id _ => some id
  | defaultHook .. | choiceHook .. | control _ | acknowledge _ => none

def answerOf? (id : Nat) : Call → Option Json
  | produce i answer => if i = id then some answer else none
  | defaultHook .. | choiceHook .. | control _ | acknowledge _ => none

end Call

def answersOf (id : Nat) (t : List Call) : List Json := t.filterMap (Call.answerOf? id)

theorem answersOf_append (id : Nat) (t u : List Call) :
    answersOf id (t ++ u) = answersOf id t ++ answersOf id u := List.filterMap_append

theorem answersOf_singleton (id : Nat) (c : Call) :
    answersOf id [c] = (c.answerOf? id).toList := by
  rw [answersOf, List.filterMap_cons]
  cases c.answerOf? id <;> rfl

/-- A state with the calls made so far, oldest first. -/
structure Watched (σ : Type) where
  state : σ
  calls : List Call := []

def watch (act : Action σ α) (call : α → Call) : Action (Watched σ) α := fun s ↦
  let done := act.perform ⟨s.state.state, s.log⟩
  (done.1, ⟨⟨done.2.state, s.state.calls ++ [call done.1]⟩, done.2.log⟩)

def Env.watched (env : Env σ) : Env (Watched σ) where
  plugins := env.plugins
  defaultHook c := watch (env.defaultHook c) (.defaultHook c.prop)
  choiceHook c := watch (env.choiceHook c) (.choiceHook c.prop)
  host := {
    produce := fun id ↦ watch (env.host.produce id) (.produce id)
    control := fun b ↦ watch (env.host.control b) fun _ ↦ .control b
    acknowledge := fun prop ↦ watch (env.host.acknowledge prop) fun _ ↦ .acknowledge prop }

/-- A producer that counts its calls answers them with one value after the other. Its count is its
own: neither the other producers nor the controls nor the hooks touch it. -/
structure Env.Counts (env : Env σ) (id : Nat) (count : σ → Nat) (values : Nat → Json) : Prop where
  answer : ∀ s, ((env.host.produce id).perform s).1 = values (count s.state)
  next : ∀ s, count ((env.host.produce id).perform s).2.state = count s.state + 1
  other : ∀ i s, i ≠ id → count ((env.host.produce i).perform s).2.state = count s.state
  control : ∀ b s, count ((env.host.control b).perform s).2.state = count s.state
  defaultHook : ∀ c s, count ((env.defaultHook c).perform s).2.state = count s.state
  choiceHook : ∀ c s, count ((env.choiceHook c).perform s).2.state = count s.state

/-- The state of the controls and the hooks beside the number of calls of each producer. -/
structure Counting (σ : Type) where
  state : σ
  given : Nat → Nat := fun _ ↦ 0

def beside (act : Action σ α) : Action (Counting σ) α := fun s ↦
  let done := act.perform ⟨s.state.state, s.log⟩
  (done.1, ⟨{ s.state with state := done.2.state }, done.2.log⟩)

def Env.counting (env : Env σ) (values : Nat → Nat → Json) : Env (Counting σ) where
  plugins := env.plugins
  defaultHook c := beside (env.defaultHook c)
  choiceHook c := beside (env.choiceHook c)
  host := {
    produce := fun id s ↦ (values id (s.state.given id),
      ⟨{ s.state with given := Function.update s.state.given id (s.state.given id + 1) }, s.log⟩)
    control := fun b ↦ beside (env.host.control b)
    acknowledge := fun prop ↦ beside (env.host.acknowledge prop) }

theorem Env.counts_counting (env : Env σ) (values : Nat → Nat → Json) (id : Nat) :
    (env.counting values).Counts id (·.given id) (values id) where
  answer _ := rfl
  next _ := Function.update_self ..
  other _ _ h := Function.update_of_ne (Ne.symm h) ..
  control _ _ := rfl
  defaultHook _ _ := rfl
  choiceHook _ _ := rfl

/-- The calls `t` lead from one session to another, and every producer that counts its calls goes on
from where it was. -/
structure Leads (env : Env σ) (s : Session (Watched σ)) (t : List Call)
    (s' : Session (Watched σ)) : Prop where
  calls : s'.state.calls = s.state.calls ++ t
  count : ∀ {id count values}, env.Counts id count values →
    count s'.state.state = count s.state.state + (answersOf id t).length
  answers : ∀ {id count values}, env.Counts id count values →
    answersOf id t = (List.range' (count s.state.state) (answersOf id t).length).map values

namespace Leads

variable {env : Env σ} {s s' s'' : Session (Watched σ)} {t u : List Call}

theorem of_state_eq (h : s'.state = s.state) : Leads env s [] s' where
  calls := by rw [h, List.append_nil]
  count _ := by rw [h]; rfl
  answers _ := rfl

theorem trans (h : Leads env s t s') (h' : Leads env s' u s'') : Leads env s (t ++ u) s'' where
  calls := by rw [h'.calls, h.calls, List.append_assoc]
  count hc := by
    rw [h'.count hc, h.count hc, answersOf_append, List.length_append, Nat.add_assoc]
  answers hc := by
    rw [answersOf_append, List.length_append, ← List.range'_append_1, List.map_append,
      ← h.answers hc, ← h.count hc, ← h'.answers hc]

variable (env s)

theorem of_watch (act : Action σ α) (call : α → Call) (hcall : ∀ id a, (call a).answerOf? id = none)
    (hcount : ∀ {id count values}, env.Counts id count values →
      ∀ s, count (act.perform s).2.state = count s.state) :
    Leads env s [call ((watch act call).perform s).1] ((watch act call).perform s).2 where
  calls := rfl
  count {id _ _} hc := by
    rw [answersOf_singleton, hcall]
    exact hcount hc _
  answers {id _ _} hc := by
    rw [answersOf_singleton, hcall]
    rfl

theorem defaultHook (c : PropContext) :
    Leads env s [.defaultHook c.prop ((env.watched.defaultHook c).perform s).1]
      ((env.watched.defaultHook c).perform s).2 :=
  of_watch env s _ (.defaultHook c.prop) (fun _ _ ↦ rfl) fun hc ↦ hc.defaultHook c

theorem choiceHook (c : PropContext) :
    Leads env s [.choiceHook c.prop ((env.watched.choiceHook c).perform s).1]
      ((env.watched.choiceHook c).perform s).2 :=
  of_watch env s _ (.choiceHook c.prop) (fun _ _ ↦ rfl) fun hc ↦ hc.choiceHook c

theorem control (b : Binding) :
    Leads env s [.control b] ((env.watched.host.control b).perform s).2 :=
  of_watch env s _ (fun _ ↦ .control b) (fun _ _ ↦ rfl) fun hc ↦ hc.control b

theorem produce (id : Nat) :
    Leads env s [.produce id ((env.watched.host.produce id).perform s).1]
      ((env.watched.host.produce id).perform s).2 where
  calls := rfl
  count {i _ _} hc := by
    by_cases h : id = i
    · subst h
      rw [answersOf_singleton, Call.answerOf?, if_pos rfl]
      exact hc.next _
    · rw [answersOf_singleton, Call.answerOf?, if_neg h]
      exact hc.other id _ h
  answers {i _ values} hc := by
    by_cases h : id = i
    · subst h
      rw [answersOf_singleton, Call.answerOf?, if_pos rfl]
      exact congrArg (fun v ↦ [v]) (hc.answer _)
    · rw [answersOf_singleton, Call.answerOf?, if_neg h]
      rfl

end Leads

end Showcase
