import Faultline.Proofs.Commuting
import Faultline.Proofs.Documents

/-! # The order of enabling leaves no trace

A ledger keeps apart what a registry keeps together: the templates, and a table of what is enabled,
in the order in which it was enabled. The two are never at odds (`Ledger.Sound`), and the table is
only looked up by the names of templates. So a ledger does what the registry does that has in its
slots what the table has under their names (`Ledger.run_state`), and of ledgers with the same
registry nobody can tell the orders of their tables (`Ledger.order_unnoticed`).
-/

namespace Faultline

open Scenario (Config Enabled Overrides Registry Template)

/-- Templates in order of registration, and what is enabled in order of enabling. -/
structure Ledger where
  templates : List Template
  enabled : List (String × Config)
  history : Call.History

namespace Ledger

def template? (l : Ledger) (name : String) : Option Template := l.templates.find? (·.name == name)

def config? (l : Ledger) (name : String) : Option Config := l.enabled.lookup name

def list (l : Ledger) : List Scenario.Summary :=
  l.templates.map fun t => ⟨t.name, t.config.description, (l.config? t.name).isSome⟩

def status? (l : Ledger) (name : String) : Except Failure Scenario.Status :=
  match l.template? name with
  | none => .error (.noScenario name)
  | some t => .ok ⟨name, t.config.description, l.config? name⟩

def findFirst? (l : Ledger) (op : Operation) : Option Enabled :=
  l.templates.findSome? fun t =>
    ((l.config? t.name).filter (·.operation = op)).map (⟨t.name, ·⟩)

/-- The ledger without what is enabled under a name. -/
def strike (l : Ledger) (name : String) : Ledger :=
  { l with enabled := l.enabled.filter (·.1 != name) }

/-- The ledger with a configuration under the name of a template: in the place that the name has,
    or at the end. -/
def enter (l : Ledger) (t : Template) (c : Config) : Ledger :=
  { l with
    enabled := Members.set l.enabled t.name c
    history := if t.config.operation = .download then l.history.clear else l.history }

def command (l : Ledger) : Command → Ledger × Except Failure Unit
  | .enable name overrides =>
    match l.template? name with
    | none => (l, .error (.noScenario name))
    | some t =>
      match overrides.refusedBy? t.config.fault.action with
      | some reason => (l, .error (.rejected reason))
      | none => (l.enter t (t.config.complete overrides), .ok ())
  | .disable name =>
    match l.template? name with
    | none => (l, .error (.noScenario name))
    | some _ => (l.strike name, .ok ())
  | .disableAll => ({ l with enabled := [] }, .ok ())
  | .reset => ({ l with history := l.history.clear }, .ok ())

def claim (l : Ledger) (op : Operation) : Ledger × Option Enabled :=
  match l.findFirst? op with
  | none => (l, none)
  | some e => (l.strike e.name, some e)

def run (l : Ledger) : Deed → Ledger × Deed.Result
  | .command c => ((l.command c).1, .inl (l.command c).2)
  | .claim op => ((l.claim op).1, .inr (l.claim op).2)

def after (l : Ledger) : List Deed → Ledger
  | [] => l
  | d :: rest => (l.run d).1.after rest

def results (l : Ledger) : List Deed → List Deed.Result
  | [] => []
  | d :: rest => (l.run d).2 :: (l.run d).1.results rest

/-! ## The registry of a ledger -/

def registry (l : Ledger) : Registry := l.templates.map fun t => ⟨t, l.config? t.name⟩

def state (l : Ledger) : State := ⟨l.registry, l.history⟩

theorem list_registry (l : Ledger) : l.registry.list = l.list := by
  rw [registry, Registry.list, List.map_map]
  rfl

theorem slot?_registry (l : Ledger) (name : String) :
    l.registry.slot? name = (l.template? name).map fun t => ⟨t, l.config? t.name⟩ := by
  rw [Registry.slot?, registry, List.find?_map]
  rfl

theorem has_registry (l : Ledger) (name : String) :
    l.registry.has name = (l.template? name).isSome := by
  rw [Registry.has, slot?_registry, Option.isSome_map]

theorem status?_registry (l : Ledger) (name : String) :
    l.registry.status? name = l.status? name := by
  rw [Registry.status?, slot?_registry, status?]
  cases found : l.template? name with
  | none => rfl
  | some t =>
      have named : t.name = name := by simpa using List.find?_some found
      rw [Option.map_some, named]

theorem findFirst?_registry (l : Ledger) (op : Operation) :
    l.registry.findFirst? op = l.findFirst? op := by
  have scan : ∀ templates : List Template,
      Registry.findFirst? (templates.map fun t => ⟨t, l.config? t.name⟩) op =
        templates.findSome? fun t =>
          ((l.config? t.name).filter (·.operation = op)).map (⟨t.name, ·⟩) := by
    intro templates
    induction templates with
    | nil => rfl
    | cons t rest ih =>
        rw [List.map_cons, Registry.findFirst?, List.findSome?_cons]
        cases l.config? t.name with
        | none => exact ih
        | some c =>
            by_cases aims : c.operation = op
            · simp only [aims, if_true, Option.filter_some, decide_true, Option.map_some]
            · simp only [aims, if_false, Option.filter_some, decide_false, Bool.false_eq_true,
                Option.map_none]
              exact ih
  exact scan l.templates

theorem lookup_strike (table : List (String × Config)) (name other : String) :
    (table.filter (·.1 != name)).lookup other =
      if other = name then none else table.lookup other := by
  induction table with
  | nil => exact (ite_self none).symm
  | cons entry rest ih =>
      obtain ⟨first, d⟩ := entry
      by_cases here : first = name
      · rw [List.filter_cons_of_neg (by simpa using here), ih, Members.lookup_entry, here]
        split <;> rfl
      · rw [List.filter_cons_of_pos (by simpa using here), Members.lookup_entry, ih,
          Members.lookup_entry]
        by_cases same : other = first
        · rw [if_pos same, if_pos same, if_neg (same ▸ here)]
        · rw [if_neg same, if_neg same]

/-- Writing in the table under a name is writing in the registry under it. -/
theorem registry_put {l m : Ledger} {name : String} {active : Option Config}
    (templates : m.templates = l.templates)
    (written : ∀ other, m.config? other = if other = name then active else l.config? other) :
    m.registry = l.registry.put name active := by
  rw [registry, registry, Registry.put, List.map_map, templates]
  refine List.map_congr_left fun t _ => ?_
  rw [Function.comp_apply, written]
  split <;> rfl

theorem enter_state (l : Ledger) (t : Template) (c : Config) :
    (l.enter t c).state = ⟨l.registry.put t.name (some c),
      if t.config.operation = .download then l.history.clear else l.history⟩ := by
  have registry : (l.enter t c).registry = l.registry.put t.name (some c) :=
    registry_put rfl fun _ => Members.lookup_set ..
  rw [state, registry]
  rfl

theorem strike_state (l : Ledger) (name : String) :
    (l.strike name).state = ⟨l.registry.put name none, l.history⟩ := by
  have registry : (l.strike name).registry = l.registry.put name none :=
    registry_put rfl fun _ => lookup_strike ..
  rw [state, registry]
  rfl

/-! ## Deeds -/

theorem configFor?_registry (l : Ledger) (name : String) (overrides : Overrides) :
    l.registry.configFor? name overrides =
      match l.template? name with
      | none => .error (.noScenario name)
      | some t =>
        match overrides.refusedBy? t.config.fault.action with
        | some reason => .error (.rejected reason)
        | none => .ok (t.config.complete overrides) := by
  rw [Registry.configFor?, slot?_registry]
  cases l.template? name <;> rfl

theorem enable_state (l : Ledger) (name : String) (overrides : Overrides) :
    (l.command (.enable name overrides)).1.state = (l.state.enable name overrides).now ∧
      (l.command (.enable name overrides)).2 =
        (l.state.enable name overrides).result.map fun _ => () := by
  rcases l.state.enable_cases name overrides with
    ⟨f, refused, result, same⟩ | ⟨c, effective, result, written⟩
  · rw [result, same, command]
    rw [state, configFor?_registry] at refused
    cases found : l.template? name with
    | none =>
        rw [found] at refused
        obtain rfl := Except.error.inj refused
        exact ⟨rfl, rfl⟩
    | some t =>
        cases unsuited : overrides.refusedBy? t.config.fault.action with
        | none => simp [found, unsuited] at refused
        | some reason =>
            simp only [found, unsuited, Except.error.injEq] at refused
            subst refused
            dsimp only
            rw [unsuited]
            exact ⟨rfl, rfl⟩
  · rw [result, written, command]
    rw [state, configFor?_registry] at effective
    cases found : l.template? name with
    | none => simp [found] at effective
    | some t =>
        cases unsuited : overrides.refusedBy? t.config.fault.action with
        | some reason => simp [found, unsuited] at effective
        | none =>
            simp only [found, unsuited, Except.ok.injEq] at effective
            subst effective
            have named : t.name = name := by simpa using List.find?_some found
            simp only [unsuited, ← named]
            exact ⟨l.enter_state t (t.config.complete overrides), rfl⟩

theorem disable_state (l : Ledger) (name : String) :
    (l.command (.disable name)).1.state = (l.state.disable name).now ∧
      (l.command (.disable name)).2 = (l.state.disable name).result := by
  have known : l.state.registry.has name = (l.template? name).isSome := l.has_registry name
  rcases l.state.disable_cases name with ⟨unknown, result, same⟩ | ⟨registered, result, written⟩
  · rw [unknown, eq_comm, Option.isSome_eq_false_iff, Option.isNone_iff_eq_none] at known
    rw [command, known, result, same]
    exact ⟨rfl, rfl⟩
  · rw [registered, eq_comm, Option.isSome_iff_exists] at known
    obtain ⟨t, found⟩ := known
    rw [command, found, result, written]
    exact ⟨l.strike_state name, rfl⟩

theorem command_state (l : Ledger) (c : Command) :
    (l.command c).1.state = (c.run l.state).now ∧ (l.command c).2 = (c.run l.state).result := by
  cases c with
  | enable name overrides => exact l.enable_state name overrides
  | disable name => exact l.disable_state name
  | disableAll =>
      have emptied : registry { l with enabled := [] } = l.registry.disableAll := by
        rw [registry, registry, Registry.disableAll, List.map_map]
        rfl
      exact ⟨congrArg (State.mk · l.history) emptied, rfl⟩
  | reset => exact ⟨rfl, rfl⟩

theorem claim_state (l : Ledger) (op : Operation) :
    (l.claim op).1.state = (l.state.claim op).now ∧ (l.claim op).2 = (l.state.claim op).result := by
  have found : l.state.registry.findFirst? op = l.findFirst? op := l.findFirst?_registry op
  rcases l.state.claim_cases op with ⟨nobody, result, same⟩ | ⟨e, first, result, taken⟩
  · rw [found] at nobody
    rw [claim, nobody, result, same]
    exact ⟨rfl, rfl⟩
  · rw [found] at first
    rw [claim, first, result, taken]
    exact ⟨l.strike_state e.name, rfl⟩

/-- A ledger does what its registry does. -/
theorem run_state (l : Ledger) (d : Deed) :
    (l.run d).1.state = (d.run l.state).now ∧ (l.run d).2 = (d.run l.state).result := by
  cases d with
  | command c =>
      obtain ⟨now, result⟩ := l.command_state c
      exact ⟨now, congrArg Sum.inl result⟩
  | claim op =>
      obtain ⟨now, result⟩ := l.claim_state op
      exact ⟨now, congrArg Sum.inr result⟩

theorem after_state (l : Ledger) (deeds : List Deed) :
    (l.after deeds).state = l.state.after deeds ∧ l.results deeds = l.state.results deeds := by
  induction deeds generalizing l with
  | nil => exact ⟨rfl, rfl⟩
  | cons d rest ih =>
      obtain ⟨now, result⟩ := l.run_state d
      obtain ⟨after, results⟩ := ih (l.run d).1
      rw [now] at after results
      exact ⟨after, congrArg₂ List.cons result results⟩

/-! ## What the two tables have to do with one another -/

/-- The table has every name once, only names of templates, and under each a configuration that
    suits the template. -/
structure Sound (l : Ledger) : Prop where
  distinct : (l.templates.map (·.name)).Nodup
  keys : Members.Distinct l.enabled
  known : ∀ name ∈ l.enabled.map (·.1), ∃ t ∈ l.templates, t.name = name
  suits : ∀ t ∈ l.templates, ∀ c, l.config? t.name = some c → c.Suits t

namespace Sound

theorem empty {templates : List Template} (distinct : (templates.map (·.name)).Nodup)
    (history : Call.History) : Sound ⟨templates, [], history⟩ where
  distinct := distinct
  keys := List.nodup_nil
  known := by simp
  suits := by simp [config?]

variable {l : Ledger}

theorem enter (h : l.Sound) {t : Template} (member : t ∈ l.templates) {c : Config}
    (suits : c.Suits t) : (l.enter t c).Sound where
  distinct := h.distinct
  keys := h.keys.set t.name c
  known := by
    intro name written
    rcases Members.mem_keys_set.mp written with rfl | old
    · exact ⟨t, member, rfl⟩
    · exact h.known name old
  suits := by
    intro other among d found
    have looked : (l.enter t c).config? other.name = _ :=
      Members.lookup_set l.enabled t.name other.name c
    rw [looked] at found
    by_cases same : other.name = t.name
    · obtain rfl := List.inj_on_of_nodup_map h.distinct among member same
      rw [if_pos rfl] at found
      obtain rfl := Option.some.inj found
      exact suits
    · rw [if_neg same] at found
      exact h.suits other among d found

theorem strike (h : l.Sound) (name : String) : (l.strike name).Sound where
  distinct := h.distinct
  keys := List.Nodup.sublist (List.filter_sublist.map _) h.keys
  known := fun other left => h.known other ((List.filter_sublist.map _).subset left)
  suits := by
    intro t member c found
    have looked : (l.strike name).config? t.name = _ := lookup_strike l.enabled name t.name
    rw [looked] at found
    split at found
    · cases found
    · exact h.suits t member c found

theorem command (h : l.Sound) (c : Command) : (l.command c).1.Sound := by
  cases c with
  | enable name overrides =>
      unfold Ledger.command
      dsimp only
      split
      · exact h
      · rename_i t found
        split
        · exact h
        · exact h.enter (List.mem_of_find?_eq_some found) (t.suits_complete overrides)
  | disable name =>
      unfold Ledger.command
      dsimp only
      split
      · exact h
      · exact h.strike name
  | disableAll =>
      exact .empty h.distinct l.history
  | reset => exact ⟨h.distinct, h.keys, h.known, h.suits⟩

theorem run (h : l.Sound) (d : Deed) : (l.run d).1.Sound := by
  cases d with
  | command c => exact h.command c
  | claim op =>
      unfold Ledger.run Ledger.claim
      dsimp only
      split
      · exact h
      · exact h.strike _

theorem after (h : l.Sound) (deeds : List Deed) : (l.after deeds).Sound := by
  induction deeds generalizing l with
  | nil => exact h
  | cons d rest ih => exact ih (h.run d)

/-- The table is as long as the registry has scenarios enabled. -/
theorem length_enabled (h : l.Sound) : l.enabled.length = l.registry.enabledNames.length := by
  have shown : l.registry.enabledNames =
      (l.templates.filter fun t => (l.config? t.name).isSome).map (·.name) := by
    rw [Registry.enabledNames, registry, List.filter_map, List.map_map]
    rfl
  have perm : (l.enabled.map (·.1)).Perm l.registry.enabledNames := by
    rw [shown]
    refine (List.perm_ext_iff_of_nodup h.keys
      (h.distinct.sublist (List.filter_sublist.map _))).mpr fun name => ?_
    have looked : name ∈ l.enabled.map (·.1) ↔ (l.config? name).isSome := by
      rw [config?, List.lookup_isSome_iff, List.mem_map]
      simp only [beq_iff_eq]
      exact exists_congr fun _ => and_congr_right fun _ => eq_comm
    rw [looked]
    constructor
    · intro enabled
      obtain ⟨t, member, rfl⟩ := h.known name (looked.mpr enabled)
      exact List.mem_map.mpr ⟨t, List.mem_filter.mpr ⟨member, enabled⟩, rfl⟩
    · intro listed
      obtain ⟨t, kept, rfl⟩ := List.mem_map.mp listed
      exact (List.mem_filter.mp kept).2
  rw [← List.length_map, perm.length_eq]

end Sound

/-! ## The order of the table -/

/-- Of ledgers with the same registry nobody can tell which is which, whatever is done to them. -/
theorem order_unnoticed {l m : Ledger} (same : m.state = l.state) (deeds : List Deed) :
    (m.after deeds).list = (l.after deeds).list ∧
      (∀ name, (m.after deeds).status? name = (l.after deeds).status? name) ∧
      (∀ op, (m.after deeds).findFirst? op = (l.after deeds).findFirst? op) ∧
      (m.after deeds).history = (l.after deeds).history ∧ m.results deeds = l.results deeds := by
  obtain ⟨first, told⟩ := l.after_state deeds
  obtain ⟨second, retold⟩ := m.after_state deeds
  have still : (m.after deeds).state = (l.after deeds).state := by
    rw [first, second, same]
  have registry : (m.after deeds).registry = (l.after deeds).registry := congrArg State.registry still
  refine ⟨?_, ?_, ?_, congrArg State.history still, ?_⟩
  · rw [← list_registry, registry, list_registry]
  · intro name
    rw [← status?_registry, registry, status?_registry]
  · intro op
    rw [← findFirst?_registry, registry, findFirst?_registry]
  · rw [told, retold, same]

/-- Changes of different scenarios leave ledgers behind that differ in the order of their tables at
    most. -/
theorem after_reordered (l : Ledger) {first second : List Change}
    (same : ∀ name, first.filter (·.name = name) = second.filter (·.name = name)) :
    (l.after (second.map Change.deed)).state = (l.after (first.map Change.deed)).state := by
  rw [(l.after_state _).1, (l.after_state _).1, Change.after_changes, Change.after_changes,
    Change.foldl_apply_congr same]

example :
    let l : Ledger := ⟨sampleTemplates, [], ⟨4, [], 0⟩⟩
    ((l.after [.command (.enable "cut" .none), .command (.enable "slow" .none)]).enabled.map
        (·.1) = ["cut", "slow"]) ∧
      (l.after [.command (.enable "slow" .none), .command (.enable "cut" .none)]).enabled.map
        (·.1) = ["slow", "cut"] := by
  decide +kernel

end Ledger

end Faultline
