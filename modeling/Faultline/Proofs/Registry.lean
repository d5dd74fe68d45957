import Mathlib.Data.List.Nodup
import Faultline.Scenario.Registry

/-! # What registry operations do

Every operation writes the slot of one name, or all slots, and never a template. A registry is
therefore known from its templates and from the configuration under each name (`active?`): the
first part never changes, and of the second each operation is an update.
-/

namespace Faultline.Scenario.Registry

def templates (r : Registry) : List Template := r.map (·.template)

/-- Every enabled configuration is the template's own, completed on enabling. -/
def Completed (r : Registry) : Prop :=
  ∀ s ∈ r, ∀ c, s.active = some c → ∃ overrides, c = s.template.config.complete overrides

theorem names_templates (r : Registry) : r.names = r.templates.map (·.name) := by
  simp only [names, templates, List.map_map, Function.comp_def]

@[simp] theorem templates_put (r : Registry) (name : String) (active : Option Config) :
    (r.put name active).templates = r.templates := by
  simp only [templates, put, List.map_map]
  apply List.map_congr_left
  intro s _
  simp only [Function.comp_apply]
  split <;> rfl

@[simp] theorem templates_disableAll (r : Registry) : r.disableAll.templates = r.templates := by
  simp only [templates, disableAll, List.map_map, Function.comp_def]

/-! ## Slots by name -/

theorem slot?_name {r : Registry} {name : String} {s : Slot} (h : r.slot? name = some s) :
    s.template.name = name := by
  simpa using List.find?_some h

theorem slot?_of_mem {r : Registry} (distinct : r.names.Nodup) {s : Slot} (h : s ∈ r) :
    r.slot? s.template.name = some s := by
  induction r with
  | nil => simp at h
  | cons head rest ih =>
      obtain ⟨absent, distinctRest⟩ := List.nodup_cons.mp distinct
      rcases List.mem_cons.mp h with rfl | inRest
      · simp [slot?]
      · have different : head.template.name ≠ s.template.name := by
          intro same
          exact absent (List.mem_map.mpr ⟨s, inRest, same.symm⟩)
        have found := ih distinctRest inRest
        simp only [slot?] at found ⊢
        rw [List.find?_cons_of_neg (by simpa using different), found]

theorem slot?_put (r : Registry) (name other : String) (active : Option Config) :
    (r.put name active).slot? other =
      (r.slot? other).map fun s => if s.template.name = name then { s with active } else s := by
  induction r with
  | nil => rfl
  | cons head rest ih =>
      simp only [slot?, put, List.map_cons] at ih ⊢
      by_cases here : head.template.name = other
      · rw [List.find?_cons_of_pos (by split <;> simpa using here),
          List.find?_cons_of_pos (by simpa using here), Option.map_some]
      · rw [List.find?_cons_of_neg (by split <;> simpa using here),
          List.find?_cons_of_neg (by simpa using here), ih]

theorem slot?_disableAll (r : Registry) (name : String) :
    r.disableAll.slot? name = (r.slot? name).map fun s => { s with active := none } := by
  simp only [slot?, disableAll, List.find?_map]
  rfl

/-! ## Configurations by name -/

theorem active?_put_self {r : Registry} {name : String} (h : r.has name) (active : Option Config) :
    (r.put name active).active? name = active := by
  obtain ⟨s, found⟩ := Option.isSome_iff_exists.mp h
  simp [active?, slot?_put, found, slot?_name found]

theorem active?_put_other (r : Registry) {name other : String} (different : other ≠ name)
    (active : Option Config) : (r.put name active).active? other = r.active? other := by
  simp only [active?, slot?_put]
  cases found : r.slot? other with
  | none => rfl
  | some s =>
      have elsewhere : s.template.name ≠ name := by simpa only [slot?_name found] using different
      simp [elsewhere]

theorem active?_put {r : Registry} {name : String} (h : r.has name) (active : Option Config) :
    (r.put name active).active? = Function.update r.active? name active := by
  funext other
  by_cases same : other = name
  · rw [same, active?_put_self h, Function.update_self]
  · rw [active?_put_other r same, Function.update_of_ne same]

/-- Whatever the registry, no name is left enabled where one was emptied. -/
theorem active?_put_none (r : Registry) (name : String) :
    (r.put name none).active? name = none := by
  cases found : r.slot? name with
  | none => simp [active?, slot?_put, found]
  | some s => exact active?_put_self (by simp [has, found]) none

@[simp] theorem active?_disableAll (r : Registry) (name : String) :
    r.disableAll.active? name = none := by
  simp only [active?, slot?_disableAll, Option.bind_map]
  cases r.slot? name <;> rfl

theorem has_of_active? {r : Registry} {name : String} {c : Config}
    (h : r.active? name = some c) : r.has name := by
  cases found : r.slot? name with
  | none => simp [active?, found] at h
  | some s => simp [has, found]

theorem status?_of_template {r : Registry} (distinct : r.names.Nodup) {t : Template}
    (known : t ∈ r.templates) :
    r.status? t.name = .ok ⟨t.name, t.config.description, r.active? t.name⟩ := by
  obtain ⟨s, member, rfl⟩ := List.mem_map.mp known
  have found := slot?_of_mem distinct member
  simp [status?, active?, found]

/-! ## Enabling -/

/-- A scenario is enabled only if it is registered, and then with its own configuration completed
    by the overrides. -/
theorem configFor?_ok {r : Registry} {name : String} {overrides : Overrides} {c : Config}
    (h : r.configFor? name overrides = .ok c) :
    ∃ s, r.slot? name = some s ∧ c = s.template.config.complete overrides := by
  unfold configFor? at h
  cases found : r.slot? name with
  | none => simp [found] at h
  | some s =>
      simp only [found] at h
      split at h
      · simp at h
      · exact ⟨s, rfl, (Except.ok.inj h).symm⟩

theorem has_of_configFor? {r : Registry} {name : String} {overrides : Overrides} {c : Config}
    (h : r.configFor? name overrides = .ok c) : r.has name := by
  obtain ⟨s, found, _⟩ := configFor?_ok h
  simp [has, found]

theorem Completed.put {r : Registry} (h : r.Completed) {name : String} {active : Option Config}
    (suits : ∀ s ∈ r, s.template.name = name → ∀ c, active = some c →
      ∃ overrides, c = s.template.config.complete overrides) :
    (r.put name active).Completed := by
  intro s member c enabled
  obtain ⟨old, inOld, rfl⟩ := List.mem_map.mp member
  by_cases here : old.template.name = name
  · rw [if_pos here] at enabled ⊢
    exact suits old inOld here c enabled
  · rw [if_neg here] at enabled ⊢
    exact h old inOld c enabled

theorem Completed.put_none {r : Registry} (h : r.Completed) (name : String) :
    (r.put name none).Completed :=
  h.put fun _ _ _ _ absurd => by simp at absurd

theorem Completed.enable {r : Registry} (h : r.Completed) (distinct : r.names.Nodup)
    {name : String} {overrides : Overrides} {c : Config}
    (enabled : r.configFor? name overrides = .ok c) : (r.put name (some c)).Completed := by
  obtain ⟨s, found, rfl⟩ := configFor?_ok enabled
  apply h.put
  intro other member here c same
  have own : r.slot? name = some other := here ▸ slot?_of_mem distinct member
  obtain rfl := Option.some.inj (found.symm.trans own)
  exact ⟨overrides, (Option.some.inj same).symm⟩

theorem Completed.disableAll (r : Registry) : r.disableAll.Completed := by
  intro s member c enabled
  obtain ⟨_, _, rfl⟩ := List.mem_map.mp member
  simp at enabled

/-! ## Claiming -/

/-- The first enabled scenario is in a slot of its name, and aims at what was asked for. -/
theorem findFirst?_mem {r : Registry} {op : Operation} {e : Enabled}
    (h : r.findFirst? op = some e) :
    ∃ s ∈ r, s.template.name = e.name ∧ s.active = some e.config ∧ e.config.operation = op := by
  induction r with
  | nil => simp [findFirst?] at h
  | cons head rest ih =>
      have later : findFirst? rest op = some e →
          ∃ s ∈ head :: rest, s.template.name = e.name ∧ s.active = some e.config ∧
            e.config.operation = op := by
        intro inRest
        obtain ⟨s, member, facts⟩ := ih inRest
        exact ⟨s, List.mem_cons_of_mem _ member, facts⟩
      cases waiting : head.active with
      | none =>
          simp only [findFirst?, waiting] at h
          exact later h
      | some c =>
          simp only [findFirst?, waiting] at h
          split at h
          · rename_i aims
            obtain rfl := Option.some.inj h
            exact ⟨head, List.mem_cons_self, rfl, waiting, aims⟩
          · exact later h

theorem active?_findFirst? {r : Registry} (distinct : r.names.Nodup) {op : Operation} {e : Enabled}
    (h : r.findFirst? op = some e) : r.active? e.name = some e.config := by
  obtain ⟨s, member, named, waiting, _⟩ := findFirst?_mem h
  have found := slot?_of_mem distinct member
  rw [named] at found
  simp [active?, found, waiting]

/-! ## New registries -/

theorem firstRepeated?_none {seen names : List String} :
    firstRepeated? seen names = none ↔ names.Nodup ∧ ∀ name ∈ names, name ∉ seen := by
  induction names generalizing seen with
  | nil => simp [firstRepeated?]
  | cons name rest ih =>
      rw [firstRepeated?]
      split
      · rename_i repeated
        simp_all
      · rename_i new
        rw [ih]
        simp only [List.nodup_cons, List.mem_cons, not_or, forall_eq_or_imp]
        constructor
        · rintro ⟨distinct, apart⟩
          exact ⟨⟨fun member => (apart name member).1 rfl, distinct⟩, by simpa using new,
            fun other member => (apart other member).2⟩
        · rintro ⟨⟨absent, distinct⟩, _, apart⟩
          exact ⟨distinct, fun other member =>
            ⟨fun same => absent (same ▸ member), apart other member⟩⟩

theorem firstRepeated?_some {seen names : List String} {name : String} :
    firstRepeated? seen names = some name ↔
      ∃ earlier later, names = earlier ++ name :: later ∧ firstRepeated? seen earlier = none ∧
        (name ∈ seen ∨ name ∈ earlier) := by
  induction names generalizing seen with
  | nil => simp [firstRepeated?]
  | cons head rest ih =>
      rw [firstRepeated?]
      split
      · rename_i repeated
        constructor
        · intro same
          obtain rfl := Option.some.inj same
          exact ⟨[], rest, rfl, rfl, .inl (by simpa using repeated)⟩
        · rintro ⟨earlier, later, split, new, _⟩
          cases earlier with
          | nil => exact congrArg some (List.cons.inj split).1
          | cons other more =>
              obtain ⟨rfl, _⟩ := List.cons.inj split
              rw [firstRepeated?, if_pos repeated] at new
              cases new
      · rename_i new
        rw [ih]
        constructor
        · rintro ⟨earlier, later, rfl, distinct, known⟩
          refine ⟨head :: earlier, later, rfl, ?_, ?_⟩
          · rwa [firstRepeated?, if_neg new]
          · simpa [or_assoc, or_left_comm] using known
        · rintro ⟨earlier, later, split, distinct, known⟩
          cases earlier with
          | nil =>
              obtain ⟨rfl, _⟩ := List.cons.inj split
              have absent : head ∉ seen := by simpa using new
              simp [absent] at known
          | cons other more =>
              obtain ⟨rfl, rfl⟩ := List.cons.inj split
              rw [firstRepeated?, if_neg new] at distinct
              exact ⟨more, later, rfl, distinct, by simpa [or_assoc, or_left_comm] using known⟩

/-- A registry is made of exactly the lists in which no name occurs twice. -/
theorem ofTemplates?_ok {templates : List Template} {r : Registry} :
    ofTemplates? templates = .ok r ↔
      (templates.map (·.name)).Nodup ∧ r = templates.map fun t => ⟨t, none⟩ := by
  unfold ofTemplates?
  cases repeated : firstRepeated? [] (templates.map (·.name)) with
  | none =>
      have distinct := (firstRepeated?_none.mp repeated).1
      simp only [Except.ok.injEq, distinct, true_and]
      exact eq_comm
  | some name =>
      have double : ¬ (templates.map (·.name)).Nodup := by
        intro distinct
        have none := firstRepeated?_none.mpr ⟨distinct, fun _ _ => List.not_mem_nil⟩
        rw [repeated] at none
        cases none
      simp [double]

/-- Otherwise the first name that has occurred before is told. -/
theorem ofTemplates?_error {templates : List Template} {f : Failure} :
    ofTemplates? templates = .error f ↔
      ∃ earlier name later, templates.map (·.name) = earlier ++ name :: later ∧
        earlier.Nodup ∧ name ∈ earlier ∧ f = .duplicateScenario name := by
  unfold ofTemplates?
  cases repeated : firstRepeated? [] (templates.map (·.name)) with
  | none =>
      have distinct := (firstRepeated?_none.mp repeated).1
      simp only [reduceCtorEq, false_iff, not_exists]
      rintro earlier name later ⟨split, _, member, _⟩
      rw [split] at distinct
      exact (List.nodup_append.mp distinct).2.2 name member name List.mem_cons_self rfl
  | some first =>
      have told : ∀ name, first = name ↔ ∃ earlier later,
          templates.map (·.name) = earlier ++ name :: later ∧ earlier.Nodup ∧ name ∈ earlier := by
        intro name
        have found : firstRepeated? [] (templates.map (·.name)) = some name ↔ _ :=
          firstRepeated?_some
        rw [repeated, Option.some.injEq] at found
        simpa [firstRepeated?_none] using found
      constructor
      · intro same
        obtain rfl := Except.error.inj same
        obtain ⟨earlier, later, split, distinct, member⟩ := (told first).mp rfl
        exact ⟨earlier, first, later, split, distinct, member, rfl⟩
      · rintro ⟨earlier, name, later, split, distinct, member, rfl⟩
        rw [(told name).mpr ⟨earlier, later, split, distinct, member⟩]

section
variable (templates : List Template)

theorem templates_new : Registry.templates (templates.map fun t => ⟨t, none⟩) = templates := by
  simp only [Registry.templates, List.map_map, Function.comp_def, List.map_id']

theorem completed_new : Registry.Completed (templates.map fun t => ⟨t, none⟩) := by
  intro s member c enabled
  obtain ⟨_, _, rfl⟩ := List.mem_map.mp member
  simp at enabled

end

end Faultline.Scenario.Registry
