import Showcase.Config
import Showcase.Proofs.Action
import Showcase.Proofs.PropLayers

namespace Showcase

namespace OrderedMap

variable {α : Type}

/-- Writing a map over another a second time changes neither a value nor a place. -/
theorem overlay_overlay_self [Inhabited α] (m n : OrderedMap α) :
    (m.overlay n).overlay n = m.overlay n := by
  apply ext_get?
  · have hnone : n.keys.filter (· ∉ (m.overlay n).keys) = [] := by
      apply List.filter_eq_nil_iff.2
      intro k hk
      by_cases hm : k ∈ m.keys <;> simp [keys_overlay, hk, hm]
    rw [keys_overlay, hnone, List.append_nil]
  · intro k
    rw [get?_overlay, get?_overlay]
    cases n.get? k <;> rfl

end OrderedMap

namespace Config

variable {σ : Type}

theorem apply_apply_self (c : Config) (g : Generation σ) : c.apply (c.apply g) = c.apply g := by
  have hplugins : (c.apply g).env.plugins.overlay c.plugins = (c.apply g).env.plugins :=
    OrderedMap.overlay_overlay_self g.env.plugins c.plugins
  calc c.apply (c.apply g)
    _ = (c.apply g).withPlugins ((c.apply g).env.plugins.overlay c.plugins) := rfl
    _ = (c.apply g).withPlugins (c.apply g).env.plugins := by rw [hplugins]
    _ = c.apply g := rfl

/-- Of two configurations the later one has the say on every plugin that both have, and it alone
answers the hooks; but a plugin stands where it was first named. Nothing else is touched, and a
configuration that is applied again changes nothing. -/
theorem later_config_decides (c₁ c₂ : Config) (g : Generation σ) :
    let both := c₂.apply (c₁.apply g)
    (∀ k, both.env.plugins.get? k =
      (c₂.plugins.get? k).or ((c₁.plugins.get? k).or (g.env.plugins.get? k))) ∧
    both.env.plugins.keys =
      (g.env.plugins.keys ++ c₁.plugins.keys ++ c₂.plugins.keys).eraseDups ∧
    (∀ (p : PropContext) (s : Session σ),
      (both.env.defaultHook p).perform s =
        ((c₂.defaults.get? p.record.name).bind (·.get? p.prop), s) ∧
      (both.env.choiceHook p).perform s =
        ((c₂.enums.get? p.record.name).bind (·.get? p.prop), s)) ∧
    both.files = g.files ∧ both.registry = g.registry ∧ both.env.host = g.env.host ∧
    c₁.apply (c₁.apply g) = c₁.apply g := by
  intro both
  have hplugins : both.env.plugins = (g.env.plugins.overlay c₁.plugins).overlay c₂.plugins := rfl
  refine ⟨fun k ↦ ?_, ?_, fun p s ↦ ⟨rfl, rfl⟩, rfl, rfl, rfl, c₁.apply_apply_self g⟩
  · rw [hplugins, OrderedMap.get?_overlay, OrderedMap.get?_overlay]
  · have hstack : both.env.plugins = .stack [g.env.plugins, c₁.plugins, c₂.plugins] := by
      rw [hplugins, OrderedMap.stack_cons]
      rfl
    rw [hstack, OrderedMap.keys_stack]
    simp

end Config

end Showcase
