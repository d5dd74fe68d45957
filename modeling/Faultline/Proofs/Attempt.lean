import Faultline.Injection.Effect

/-! # Trying faults

A fault is done to a flow in full, unless the flow refuses one of its steps; what was done up to
then can be taken back.
-/

namespace Faultline.Injection

open Exchange

/-- What a flow throws first when a fault is tried on it. -/
def firstThrown? (fault : Scenario.Fault) (r : Refusals) : Option Thrown :=
  ((answer? fault).bind fun _ => r.respond).or (if cuts fault then r.kill else none)

/-- A flow to which a fault has been done in full. -/
def effect (fault : Scenario.Fault) (flow : Flow) : Flow :=
  { flow with
    synthetic := (answer? fault).or flow.synthetic
    killed := cuts fault || flow.killed }

/-- A flow about which nothing is decided any more. -/
def cleared (flow : Flow) : Flow := { flow with synthetic := none, killed := false }

theorem cutIf_error (wanted : Bool) (flow : Flow) :
    (cutIf wanted flow).error = if wanted then flow.refusals.kill else none := by
  cases wanted with
  | false => rfl
  | true =>
      unfold cutIf Flow.kill
      cases flow.refusals.kill <;> rfl

theorem attempt_error (fault : Scenario.Fault) (flow : Flow) :
    (attempt fault flow).error = firstThrown? fault flow.refusals := by
  unfold attempt firstThrown?
  cases answer? fault with
  | none => exact cutIf_error ..
  | some s =>
      unfold Flow.respond
      cases refused : flow.refusals.respond with
      | some t => simp
      | none => simp [cutIf_error]

theorem attempt_effect {fault : Scenario.Fault} {flow : Flow}
    (h : firstThrown? fault flow.refusals = none) :
    (attempt fault flow).flow = effect fault flow := by
  obtain ⟨answering, cutting⟩ := Option.or_eq_none_iff.mp h
  have cut : ∀ f : Flow, f.refusals = flow.refusals →
      (cutIf (cuts fault) f).flow = { f with killed := cuts fault || f.killed } := by
    intro f same
    unfold cutIf Flow.kill
    cases wanted : cuts fault with
    | false => rfl
    | true =>
        rw [wanted, if_pos rfl] at cutting
        simp [same, cutting]
  unfold attempt effect
  cases answer : answer? fault with
  | none => exact cut flow rfl
  | some s =>
      simp only [answer, Option.bind_some] at answering
      simp only [Flow.respond, answering]
      exact cut _ rfl

/-- Whatever a fault does, it can be taken back. -/
theorem attempt_cleared (fault : Scenario.Fault) (flow : Flow) :
    cleared (attempt fault flow).flow = cleared flow ∧
      (attempt fault flow).flow.refusals = flow.refusals := by
  have cut : ∀ f : Flow, cleared (cutIf (cuts fault) f).flow = cleared f ∧
      (cutIf (cuts fault) f).flow.refusals = f.refusals := by
    intro f
    unfold cutIf Flow.kill
    split
    · cases f.refusals.kill <;> exact ⟨rfl, rfl⟩
    · exact ⟨rfl, rfl⟩
  unfold attempt
  cases answer? fault with
  | none => exact cut flow
  | some s =>
      unfold Flow.respond
      cases flow.refusals.respond with
      | some t => exact ⟨rfl, rfl⟩
      | none => exact cut { flow with synthetic := some s }

/-- Waiting throws nothing and does nothing to a flow. -/
theorem delay_does_nothing {fault : Scenario.Fault} {seconds : Number}
    (h : delaySeconds? fault = some seconds) (flow : Flow) :
    firstThrown? fault flow.refusals = none ∧ effect fault flow = flow := by
  cases fault with
  | delay => exact ⟨rfl, rfl⟩
  | expireLink | returnError | closeConnection => cases h

end Faultline.Injection
