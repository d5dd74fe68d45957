import Faultline.Proofs.Views

/-! # Changes of different scenarios commute

A command about one scenario writes under its name, and whether it is accepted is decided by the
templates alone. Commands about different scenarios can therefore change places: where each scenario
sees the same commands in the same order, nobody can tell afterwards in which order the commands
about different scenarios came (`changes_commute`).
-/

namespace Faultline

/-- A command about a single scenario. -/
inductive Change where
  | enable (name : String) (overrides : Scenario.Overrides)
  | disable (name : String)
  deriving DecidableEq

namespace Change

def name : Change → String
  | enable name _ | disable name => name

@[simp] theorem name_enable (name : String) (overrides : Scenario.Overrides) :
    (enable name overrides).name = name := rfl

@[simp] theorem name_disable (name : String) : (disable name).name = name := rfl

def command : Change → Command
  | enable name overrides => .enable name overrides
  | disable name => .disable name

def deed (c : Change) : Deed := .command c.command

def apply (s : State) (c : Change) : State := (c.deed.run s).now

end Change

/-- Whatever is done from now on, nobody can tell two states apart. -/
structure State.Indistinguishable (s t : State) : Prop where
  list : ∀ deeds, (t.after deeds).registry.list = (s.after deeds).registry.list
  status : ∀ deeds name,
    (t.after deeds).registry.status? name = (s.after deeds).registry.status? name
  history : ∀ deeds, (t.after deeds).history = (s.after deeds).history
  /-- All commands are accepted alike, and all claims take the same scenarios. -/
  results : ∀ deeds, t.results deeds = s.results deeds
  /-- Every request gets the same answer. -/
  answers : ∀ deeds (i : Control.Interface) g fresh r,
    (i.serve g fresh (t.after deeds) r).result = (i.serve g fresh (s.after deeds) r).result

theorem State.Indistinguishable.of_eq {s t : State} (same : s = t) : s.Indistinguishable t := by
  subst same
  exact ⟨fun _ => rfl, fun _ _ => rfl, fun _ => rfl, fun _ => rfl, fun _ _ _ _ _ => rfl⟩

/-! ## Writing under a name -/

namespace Scenario.Registry

@[simp] theorem has_put (r : Registry) (name other : String) (active : Option Config) :
    (r.put name active).has other = r.has other := by
  rw [has, slot?_put, Option.isSome_map, has]

@[simp] theorem configFor?_put (r : Registry) (name other : String) (active : Option Config)
    (overrides : Overrides) :
    (r.put name active).configFor? other overrides = r.configFor? other overrides := by
  rw [configFor?, slot?_put, configFor?]
  cases r.slot? other with
  | none => rfl
  | some s =>
      have template : (if s.template.name = name then { s with active } else s).template =
          s.template := by
        split <;> rfl
      simp only [Option.map_some, template]

theorem put_comm (r : Registry) {name other : String} (different : name ≠ other)
    (active reactive : Option Config) :
    (r.put name active).put other reactive = (r.put other reactive).put name active := by
  simp only [put, List.map_map]
  refine List.map_congr_left fun s _ => ?_
  by_cases here : s.template.name = name
  · simp [here, different]
  · by_cases there : s.template.name = other
    · simp [there, different.symm]
    · simp [here, there]

@[simp] theorem put_put (r : Registry) (name : String) (first second : Option Config) :
    (r.put name first).put name second = r.put name second := by
  simp only [put, List.map_map]
  refine List.map_congr_left fun s _ => ?_
  by_cases here : s.template.name = name
  · simp [here]
  · simp [here]

/-- There is nothing to write under a name that is not registered. -/
theorem put_unknown {r : Registry} {name : String} (h : r.has name = false)
    (active : Option Config) : r.put name active = r := by
  refine (List.map_congr_left fun s member => ?_).trans (List.map_id r)
  have elsewhere : s.template.name ≠ name := by
    intro here
    have absent : r.slot? name = none := by simpa [has] using h
    simpa [here] using List.find?_eq_none.mp absent s member
  rw [if_neg elsewhere, id]

end Scenario.Registry

/-! ## Two changes -/

/-- What a change writes under its name, and whether it clears the history. -/
abbrev Change.Effect := Option Scenario.Config × Bool

/-- The state after an effect under a name; without one nothing is changed. -/
def State.write (s : State) (name : String) : Option Change.Effect → State
  | none => s
  | some (active, clears) =>
    ⟨s.registry.put name active, if clears then s.history.clear else s.history⟩

theorem State.write_comm (s : State) {name other : String} (different : name ≠ other)
    (first second : Option Change.Effect) :
    (s.write name first).write other second = (s.write other second).write name first := by
  cases first with
  | none => rfl
  | some first =>
      cases second with
      | none => rfl
      | some second =>
          obtain ⟨active, clears⟩ := first
          obtain ⟨reactive, reclears⟩ := second
          simp only [write, s.registry.put_comm different, State.mk.injEq, true_and]
          cases clears <;> cases reclears <;> rfl

namespace Change

/-- The effect of a change, unless it is refused. -/
def effect? (r : Scenario.Registry) : Change → Option Effect
  | enable name overrides =>
    (r.configFor? name overrides).toOption.map fun c => (some c, c.operation = .download)
  | disable name => if r.has name then some (none, false) else none

@[simp] theorem effect?_write (c : Change) (s : State) (name : String) (effect : Option Effect) :
    c.effect? (s.write name effect).registry = c.effect? s.registry := by
  cases effect with
  | none => rfl
  | some effect => cases c <;> simp [effect?, State.write]

theorem apply_eq (s : State) (c : Change) :
    apply s c = s.write c.name (c.effect? s.registry) := by
  cases c with
  | enable name overrides =>
      rcases s.enable_cases name overrides with ⟨_, refused, _, same⟩ | ⟨_, config, _, written⟩
      · simp only [effect?, refused, Except.toOption]
        exact same
      · simp only [effect?, config, Except.toOption, Option.map_some, State.write,
          decide_eq_true_eq]
        exact written
  | disable name =>
      rcases s.disable_cases name with ⟨unknown, _, same⟩ | ⟨known, _, written⟩
      · simp only [effect?, unknown]
        exact same
      · simp only [effect?, known, if_true]
        exact written

/-- Changes of different scenarios can change places. -/
theorem apply_comm {a b : Change} (different : a.name ≠ b.name) (s : State) :
    apply (apply s a) b = apply (apply s b) a := by
  simp only [apply_eq, effect?_write, s.write_comm different]

theorem apply_disable (s : State) (name : String) :
    apply s (disable name) = { s with registry := s.registry.put name none } := by
  rw [apply_eq, effect?]
  cases known : s.registry.has name with
  | false =>
      rw [Scenario.Registry.put_unknown known]
      rfl
  | true => rfl

/-- Enabling again does what enabling would have done in the first place. -/
theorem apply_again {s : State} {name : String} {later : Scenario.Overrides} {c : Scenario.Config}
    (accepted : s.registry.configFor? name later = .ok c) (earlier : Scenario.Overrides) :
    apply (apply s (enable name earlier)) (enable name later) = apply s (enable name later) := by
  have effect : (enable name later).effect? s.registry =
      some (some c, decide (c.operation = .download)) := by
    rw [effect?, accepted]
    rfl
  simp only [apply_eq, effect?_write, effect]
  cases config : s.registry.configFor? name earlier with
  | error f => simp only [effect?, config, Except.toOption, Option.map_none, State.write]
  | ok d =>
      obtain ⟨slot, found, rfl⟩ := Scenario.Registry.configFor?_ok accepted
      obtain ⟨other, again, rfl⟩ := Scenario.Registry.configFor?_ok config
      obtain rfl := Option.some.inj (found.symm.trans again)
      -- Both configurations aim at what the template aims at, so the history is cleared by both
      -- or by neither.
      have aims : ∀ overrides, (slot.template.config.complete overrides).operation =
          slot.template.config.operation := fun _ => rfl
      simp only [effect?, config, Except.toOption, Option.map_some, State.write, name_enable, aims,
        Scenario.Registry.put_put, State.mk.injEq, true_and]
      split <;> rfl

/-! ## Many changes -/

theorem foldl_apply_comm {a : Change} {before : List Change}
    (apart : ∀ b ∈ before, b.name ≠ a.name) (s : State) :
    before.foldl apply (apply s a) = apply (before.foldl apply s) a := by
  induction before generalizing s with
  | nil => rfl
  | cons b rest ih =>
      obtain ⟨first, later⟩ := List.forall_mem_cons.mp apart
      rw [List.foldl_cons, List.foldl_cons, apply_comm first.symm, ih later]

/-- Nothing but the order of the changes of each single scenario matters. -/
theorem foldl_apply_congr {first second : List Change}
    (same : ∀ name, first.filter (·.name = name) = second.filter (·.name = name)) (s : State) :
    first.foldl apply s = second.foldl apply s := by
  induction first generalizing second s with
  | nil =>
      have empty : second = [] := by
        rw [List.eq_nil_iff_forall_not_mem]
        intro c member
        have kept : c ∈ second.filter (·.name = c.name) :=
          List.mem_filter.mpr ⟨member, decide_eq_true rfl⟩
        rw [← same c.name] at kept
        cases kept
      rw [empty]
  | cons a rest ih =>
      have own := same a.name
      rw [List.filter_cons_of_pos (by simp)] at own
      -- The first of the second list that concerns the scenario of `a` is `a`, and it can be
      -- brought to the front.
      obtain ⟨before, behind, rfl, apart, _, _⟩ := List.filter_eq_cons_iff.mp own.symm
      have apart : ∀ b ∈ before, b.name ≠ a.name := by simpa using apart
      have others : ∀ name, rest.filter (·.name = name) =
          (before ++ behind).filter (·.name = name) := by
        intro name
        have here := same name
        rw [List.filter_append] at here ⊢
        by_cases about : a.name = name
        · have none : before.filter (·.name = name) = [] := by
            simpa [List.filter_eq_nil_iff, ← about] using apart
          rw [List.filter_cons_of_pos (by simpa using about),
            List.filter_cons_of_pos (by simpa using about), none] at here
          rw [none]
          exact (List.cons.inj here).2
        · rwa [List.filter_cons_of_neg (by simpa using about),
            List.filter_cons_of_neg (by simpa using about)] at here
      rw [List.foldl_cons, ih others, List.foldl_append, foldl_apply_comm apart, List.foldl_append,
        List.foldl_cons]

theorem foldl_disable (s : State) (order : List String) :
    (order.map disable).foldl apply s =
      { s with registry := s.registry.map fun slot =>
          if slot.template.name ∈ order then { slot with active := none } else slot } := by
  induction order generalizing s with
  | nil => simp
  | cons name rest ih =>
      rw [List.map_cons, List.foldl_cons, apply_disable, ih]
      simp only [Scenario.Registry.put, List.map_map, State.mk.injEq, and_true]
      refine List.map_congr_left fun slot _ => ?_
      by_cases here : slot.template.name = name
      · simp [here]
      · simp [here]

theorem foldl_disable_all {s : State} {order : List String} (all : s.registry.names ⊆ order) :
    (order.map disable).foldl apply s = s.disableAll.now := by
  rw [foldl_disable, State.disableAll, Scenario.Registry.disableAll]
  simp only [State.mk.injEq, and_true]
  refine List.map_congr_left fun slot member => ?_
  rw [if_pos (all (List.mem_map.mpr ⟨slot, member, rfl⟩))]

theorem after_changes (s : State) (changes : List Change) :
    s.after (changes.map deed) = changes.foldl apply s := by
  induction changes generalizing s with
  | nil => rfl
  | cons c rest ih => exact ih (apply s c)

end Change

/-- Changes of different scenarios commute; disabling all scenarios comes to the same as disabling
    each of them, in any order; and of two times that a scenario is enabled only the second
    counts. -/
theorem changes_commute (s : State) :
    (∀ first second : List Change,
      (∀ name, first.filter (·.name = name) = second.filter (·.name = name)) →
      (s.after (first.map Change.deed)).Indistinguishable (s.after (second.map Change.deed))) ∧
    (∀ order, s.registry.names ⊆ order →
      (s.after [.command .disableAll]).Indistinguishable
        (s.after (order.map fun name => .command (.disable name)))) ∧
    ∀ name earlier later config, (s.enable name later).result = .ok config →
      (s.after [.command (.enable name later)]).Indistinguishable
        (s.after [.command (.enable name earlier), .command (.enable name later)]) := by
  refine ⟨?_, ?_, ?_⟩
  · intro first second same
    apply State.Indistinguishable.of_eq
    rw [Change.after_changes, Change.after_changes, Change.foldl_apply_congr same]
  · intro order all
    apply State.Indistinguishable.of_eq
    have deeds : order.map (fun name => Deed.command (.disable name)) =
        (order.map Change.disable).map Change.deed := by
      rw [List.map_map]
      rfl
    rw [deeds, Change.after_changes, Change.foldl_disable_all all]
    rfl
  · intro name earlier later config accepted
    apply State.Indistinguishable.of_eq
    rcases s.enable_cases name later with ⟨f, _, refused, _⟩ | ⟨c, effective, _, _⟩
    · rw [accepted] at refused
      cases refused
    · exact (Change.apply_again effective earlier).symm

def cutFirst : List Change :=
  [.enable "cut" .none, .disable "cut", .enable "slow" ⟨.given (.ofNat 3)⟩, .enable "cut" .none]

def slowFirst : List Change :=
  [.enable "slow" ⟨.given (.ofNat 3)⟩, .enable "cut" .none, .disable "cut", .enable "cut" .none]

theorem changes_commute_cut_and_slow :
    let s : State := ⟨sampleTemplates.map fun t => ⟨t, none⟩, ⟨4, [.download ⟨0⟩ ""], 0⟩⟩
    (∀ name, cutFirst.filter (·.name = name) = slowFirst.filter (·.name = name)) ∧
      s.results (cutFirst.map Change.deed) = List.replicate 4 (.inl (.ok ())) ∧
      (s.after (cutFirst.map Change.deed)).Indistinguishable
        (s.after (slowFirst.map Change.deed)) ∧
      (s.after (cutFirst.map Change.deed)).registry.enabledNames = ["slow", "cut"] ∧
      s.registry.names ⊆ ["cut", "slow"] ∧
      (s.after [.command .disableAll]).Indistinguishable
        (s.after [.command (.disable "cut"), .command (.disable "slow")]) ∧
      (s.enable "slow" .none).result =
        .ok ⟨"Holds downloads back", .download, .delay (.given (.ofNat 5))⟩ ∧
      (s.after [.command (.enable "slow" .none)]).Indistinguishable
        (s.after [.command (.enable "slow" ⟨.given (.ofNat 3)⟩), .command (.enable "slow" .none)]) := by
  intro s
  obtain ⟨reorder, each, again⟩ := changes_commute s
  have same : ∀ name,
      cutFirst.filter (·.name = name) = slowFirst.filter (·.name = name) := by
    intro name
    by_cases cut : "cut" = name
    · subst cut
      decide
    · simp [cutFirst, slowFirst, List.filter_cons, cut]
  have all : s.registry.names ⊆ ["cut", "slow"] := by decide
  have accepted : (s.enable "slow" .none).result =
      .ok ⟨"Holds downloads back", .download, .delay (.given (.ofNat 5))⟩ := by decide
  exact ⟨same, by decide +kernel, reorder _ _ same, by decide +kernel, all, each _ all, accepted,
    again _ _ _ _ accepted⟩

end Faultline
