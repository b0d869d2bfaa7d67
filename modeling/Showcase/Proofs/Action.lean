import Showcase.Session

namespace Showcase

variable {σ α β : Type}

namespace Action

def perform (act : Action σ α) (s : Session σ) : α × Session σ := act.run s

@[ext] theorem ext {act act' : Action σ α} (h : ∀ s, act.perform s = act'.perform s) :
    act = act' := StateT.ext h

@[simp] theorem perform_pure (a : α) (s : Session σ) :
    perform (pure a : Action σ α) s = (a, s) := rfl

@[simp] theorem perform_bind (act : Action σ α) (f : α → Action σ β) (s : Session σ) :
    perform (act >>= f) s = (f (act.perform s).1).perform (act.perform s).2 := rfl

@[simp] theorem perform_map (f : α → β) (act : Action σ α) (s : Session σ) :
    perform (f <$> act) s = (f (act.perform s).1, (act.perform s).2) := rfl

@[simp] theorem perform_logEvent (e : LogEvent) (s : Session σ) :
    perform (logEvent e) s = ((), { s with log := s.log ++ [e] }) := rfl

end Action

end Showcase
