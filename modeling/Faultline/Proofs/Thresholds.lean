import Faultline.Proofs.Layers
import Faultline.Proofs.PropertyOrder

/-! # What comes out of the loggers of a service

The environment hushes a service's loggers altogether (`Environment.Hushes`), or the configuration
and the environment agree on one level (`Environment.Threshold`), and of all calls to the logger and
to those derived from it exactly the ones at or above that level come out, in their order
(`calls_filtered_by_level`). Where they come out as lines for people, no line is missing as long as
what is shown has texts (`entries_printed`).
-/

namespace Faultline

open Log

/-! ## The environment -/

namespace Environment

/-- The variables by which a test runner shows itself. -/
inductive Tests (env : Environment) : Prop
  | mode (h : env.lookup "NODE_ENV" = some "test")
  | runner (h : env.lookup "VITEST" = some "true")
  | worker (id : String) (h : env.lookup "JEST_WORKER_ID" = some id)

/-- Under test nothing is to be heard, unless a level is asked for. -/
structure Hushes (env : Environment) : Prop where
  tests : env.Tests
  unasked : env.lookup "LOG_LEVEL" = none ∨ env.lookup "LOG_LEVEL" = some ""

/-- The level from which on calls are heard: the configured one, or else the one that is asked for,
    if there is one of that name. -/
inductive Threshold (env : Environment) : (configured : Option Level) → Level → Prop
  | configured (l : Level) : Threshold env (some l) l
  | asked (l : Level) (named : env.lookup "LOG_LEVEL" = some l.name) : Threshold env none l
  | usual (unnamed : ∀ l : Level, env.lookup "LOG_LEVEL" ≠ some l.name) : Threshold env none .info

variable {env : Environment}

theorem isTest_iff : env.isTest = true ↔ env.Tests := by
  simp only [isTest, Bool.or_eq_true, beq_iff_eq, Option.isSome_iff_exists]
  constructor
  · rintro ((mode | runner) | ⟨id, worker⟩)
    · exact .mode mode
    · exact .runner runner
    · exact .worker id worker
  · rintro (mode | runner | ⟨id, worker⟩)
    · exact .inl (.inl mode)
    · exact .inl (.inr runner)
    · exact .inr ⟨id, worker⟩

theorem askedLevel?_eq_none :
    env.askedLevel? = none ↔ env.lookup "LOG_LEVEL" = none ∨ env.lookup "LOG_LEVEL" = some "" := by
  unfold askedLevel?
  cases env.lookup "LOG_LEVEL" with
  | none => simp
  | some text => simp

theorem isSilent_iff : env.isSilent = true ↔ env.Hushes := by
  rw [isSilent, Bool.and_eq_true, isTest_iff, Option.isNone_iff_eq_none, askedLevel?_eq_none]
  exact ⟨fun h => ⟨h.1, h.2⟩, fun h => ⟨h.tests, h.unasked⟩⟩

end Environment

theorem Log.Level.ofName?_eq_some {s : String} {l : Level} :
    Level.ofName? s = some l ↔ s = l.name := by
  constructor
  · intro found
    have same := List.find?_some found
    exact (beq_iff_eq.mp same).symm
  · rintro rfl
    cases l with
    | debug | info | warn | error | fatal => decide

theorem Log.Level.name_injective {l m : Level} (h : l.name = m.name) : l = m :=
  Option.some.inj ((ofName?_eq_some.mpr rfl).symm.trans (h ▸ ofName?_eq_some.mpr rfl))

namespace Environment

variable {env : Environment} {chosen : Option Level}

theorem Threshold.unique {l m : Level} (one : env.Threshold chosen l)
    (other : env.Threshold chosen m) : l = m := by
  cases one with
  | configured =>
      cases other with
      | configured => rfl
  | asked _ named =>
      cases other with
      | asked _ named' =>
          exact Level.name_injective (Option.some.inj (named.symm.trans named'))
      | usual unnamed => exact absurd named (unnamed l)
  | usual unnamed =>
      cases other with
      | asked _ named => exact absurd named (unnamed m)
      | usual => rfl

/-- The level that is asked for, as the settings take it. -/
theorem threshold_asked :
    env.Threshold none ((env.askedLevel?.bind Level.ofName?).getD .info) := by
  cases asked : env.askedLevel?.bind Level.ofName? with
  | some l =>
      obtain ⟨text, told, named⟩ := Option.bind_eq_some_iff.mp asked
      obtain rfl := Level.ofName?_eq_some.mp named
      exact .asked l (Option.filter_eq_some_iff.mp told).1
  | none =>
      refine .usual fun l named => ?_
      have written : l.name.isEmpty = false := by
        cases l with
        | debug | info | warn | error | fatal => decide
      have told : env.askedLevel? = some l.name :=
        Option.filter_eq_some_iff.mpr ⟨named, by simp [written]⟩
      rw [told, Option.bind_some, Level.ofName?_eq_some.mpr rfl] at asked
      cases asked

theorem exists_threshold (env : Environment) (chosen : Option Level) :
    ∃ t, env.Threshold chosen t := by
  cases chosen with
  | none => exact ⟨_, threshold_asked⟩
  | some l => exact ⟨l, .configured l⟩

end Environment

namespace Log

/-! ## Settings of a service -/

namespace Settings

variable {env : Environment} {config : Members} {chosen : Option Level}

theorem forService_hushed (hushed : env.Hushes) (config : Members) :
    (forService env config).silent = true := by
  simp [forService, Environment.isSilent_iff.mpr hushed]

theorem forService_heard (heard : ¬ env.Hushes) (config : Members) :
    (forService env config).silent = false := by
  simp [forService, mt Environment.isSilent_iff.mp heard, ofMembers, plain]

theorem forService_level {t : Level} (heard : ¬ env.Hushes)
    (configured : config.lookup "level" = chosen.map (Json.string ·.name))
    (threshold : env.Threshold chosen t) : (forService env config).level = some t := by
  have loud : env.isSilent = false := by
    simpa using mt Environment.isSilent_iff.mp heard
  simp only [forService, loud, ofMembers, configured, Environment.defaultLevel]
  cases chosen with
  | none => exact congrArg some (Environment.threshold_asked.unique threshold)
  | some l =>
      obtain rfl := (Environment.Threshold.configured l).unique threshold
      exact Level.ofName?_eq_some.mpr rfl

theorem forService_names (env : Environment) (config : Members) :
    (forService env config).service = config.lookup "service" ∧
      (forService env config).component = config.lookup "component" := by
  unfold forService
  dsimp only
  split <;> exact ⟨rfl, rfl⟩

end Settings

/-! ## Calls to derived loggers -/

/-- A call to a logger that is derived from a first one in some steps. -/
structure Utterance where
  steps : List Derivation
  call : Call

/-- The entry that is made of a call, whether or not it comes through. -/
def Utterance.entry (root : Logger) (u : Utterance) : Entry :=
  (root.derived u.steps).entry u.call.timestamp u.call.level u.call.message u.call.more
    u.call.error

namespace Logger

variable {root : Logger} {t : Level}

/-- The entries that come through when the calls are made one after the other. -/
def entries (root : Logger) (us : List Utterance) : List Entry :=
  us.filterMap fun u => (root.derived u.steps).passed? u.call

/-- What is put out when the calls are made one after the other, or fails to be. -/
def outputs (root : Logger) (handsOver : Bool) (us : List Utterance) :
    List (Except Failure Output) :=
  us.filterMap fun u =>
    match (root.derived u.steps).tell handsOver u.call with
    | .ok none => none
    | .ok (some o) => some (.ok o)
    | .error f => some (.error f)

theorem derived_settings (root : Logger) (steps : List Derivation) :
    (root.derived steps).settings = root.settings := by
  induction steps generalizing root with
  | nil => rfl
  | cons step rest ih =>
      rw [derived, List.foldl_cons, derive_eq]
      exact ih (root.child step.layer)

theorem passed?_derived (level : root.settings.level = some t)
    (heard : root.settings.silent = false) (u : Utterance) :
    (root.derived u.steps).passed? u.call =
      if t.rank ≤ u.call.level.rank then some (u.entry root) else none := by
  simp [passed?, log?, lets, derived_settings, level, heard, Utterance.entry]

theorem passed?_silent (silent : root.settings.silent = true) (u : Utterance) :
    (root.derived u.steps).passed? u.call = none := by
  simp [passed?, log?, derived_settings, silent]

/-- Calls below the threshold make no entry, and each of the others makes one. -/
theorem entries_eq (level : root.settings.level = some t) (heard : root.settings.silent = false)
    (us : List Utterance) :
    root.entries us = (us.filter (t.rank ≤ ·.call.level.rank)).map (·.entry root) := by
  simp only [entries, passed?_derived level heard]
  rw [← List.filterMap_eq_map, List.filterMap_filter]
  refine List.filterMap_congr fun u _ => ?_
  simp

theorem entries_silent (silent : root.settings.silent = true) (us : List Utterance) :
    root.entries us = [] := by
  simp [entries, passed?_silent silent]

theorem deliver_derived (root : Logger) (steps : List Derivation) (handsOver : Bool) (e : Entry) :
    (root.derived steps).deliver handsOver e = root.deliver handsOver e := by
  simp only [deliver, print, derived_settings]

/-- What is put out are the entries that come through. -/
theorem outputs_eq (root : Logger) (handsOver : Bool) (us : List Utterance) :
    root.outputs handsOver us = (root.entries us).map (root.deliver handsOver) := by
  rw [outputs, entries, List.map_filterMap]
  refine List.filterMap_congr fun u _ => ?_
  rw [tell]
  cases (root.derived u.steps).passed? u.call with
  | none => rfl
  | some e =>
      simp only [deliver_derived, Option.map_some]
      cases root.deliver handsOver e with
      | ok o => rfl
      | error f => rfl

/-! ## Printing -/

end Logger

/-- What an entry shows under a name can be shown: it has a text. -/
def Entry.Shows (e : Entry) (key : String) : Prop :=
  ∀ v, (e.context.lookup key).or (e.fallback.lookup key) = some v → v.text?.isSome

/-- What counts as false has a text. -/
theorem text?_of_isEmptyLike {v : Json} (empty : v.isEmptyLike = true) : v.text?.isSome := by
  cases v with
  | null | bool | number | string => simp [Json.text?]
  | array | object => cases empty

theorem Entry.shown_ok_iff {e : Entry} {key : String} (before behind : String) :
    (∃ text, e.shown key before behind = .ok text) ↔ e.Shows key := by
  unfold Entry.shown Entry.Shows
  cases (e.context.lookup key).or (e.fallback.lookup key) with
  | none => simp
  | some v =>
      cases empty : v.isEmptyLike with
      | true => simpa [empty] using text?_of_isEmptyLike empty
      | false =>
          cases told : v.text? with
          | none => simp [empty, textOf, told, Except.map]
          | some text => simp [empty, textOf, told, Except.map]

theorem Entry.pretty_ok_iff {e : Entry} :
    (∃ text, e.pretty = .ok text) ↔ e.Shows "correlationId" ∧ e.Shows "component" := by
  rw [← Entry.shown_ok_iff "[" "]", ← Entry.shown_ok_iff "(" ")"]
  unfold Entry.pretty
  cases e.shown "correlationId" "[" "]" with
  | error f => simp [bind, Except.bind]
  | ok first =>
      cases e.shown "component" "(" ")" with
      | error f => simp [bind, Except.bind]
      | ok second => simp [bind, Except.bind]

namespace Logger

variable {root : Logger} {t : Level}

/-- A line for people needs texts for what it shows, and a document is always written. -/
theorem deliver_printed_iff {e : Entry} :
    (∃ text, root.deliver false e = .ok (.printed e.level.stream text)) ↔
      (root.settings.pretty = true → e.Shows "correlationId" ∧ e.Shows "component") := by
  rw [← Entry.pretty_ok_iff]
  simp only [deliver, print, Bool.false_eq_true, if_false]
  cases root.settings.pretty with
  | false => simp [Except.map]
  | true =>
      cases e.pretty with
      | error f => simp [Except.map]
      | ok text => simp [Except.map]

end Logger

/-! ## Texts for what is shown -/

/-- The names of the members that a line for people shows. -/
def Entry.shownKeys : List String := ["correlationId", "component"]

/-- What is shown of these members has a text. -/
def HasTexts (ms : Members) : Prop := ∀ m ∈ ms, m.1 ∈ Entry.shownKeys → m.2.text?.isSome

namespace Context

/-- What is shown of an entry has a text, and so has what stands in for entries that are missing. -/
structure Tells (x : String × Option Json) : Prop where
  own : ∀ v, x.2 = some v → x.1 ∈ Entry.shownKeys → v.text?.isSome
  fallback : ∀ ms, x = (Logger.fallbackKey, some (.object ms)) → HasTexts ms

def IsShowable (c : Context) : Prop := ∀ x ∈ c, Tells x

variable {c m : Context} {key : String} {v : Option Json}

theorem IsShowable.overlay (below : c.IsShowable) (above : m.IsShowable) :
    IsShowable (Members.overlay c m) := by
  intro x listed
  rcases Members.mem_overlay listed with old | new
  · exact below x old
  · exact above x new

theorem IsShowable.set (h : c.IsShowable) (entry : Tells (key, v)) :
    IsShowable (Members.set c key v) := by
  intro x listed
  rcases Members.mem_set listed with rfl | old
  · exact entry
  · exact h x old

/-- A name that is neither shown nor stands in for others may say anything. -/
theorem tells_other (other : key ∉ Entry.shownKeys) (listed : key ≠ Logger.fallbackKey)
    (v : Option Json) : Tells (key, v) where
  own _ _ shown := absurd shown other
  fallback _ same := absurd (Prod.mk.inj same).1 listed

theorem tells_text (listed : key ≠ Logger.fallbackKey)
    (told : ∀ x, v = some x → x.text?.isSome) : Tells (key, v) where
  own x same _ := told x same
  fallback _ same := absurd (Prod.mk.inj same).1 listed

theorem isShowable_nil : IsShowable [] := List.forall_mem_nil _

theorem isShowable_correlation (id : String) : (Derivation.correlation id).layer.IsShowable := by
  refine List.forall_mem_singleton.mpr (tells_text (by decide) fun x same => ?_)
  obtain rfl := Option.some.inj same
  rfl

theorem mem_of_get? {x : Json} (h : c.get? key = some x) : (key, some x) ∈ c :=
  Members.mem_of_lookup (Option.join_eq_some_iff.mp h)

theorem IsShowable.make {settings : Settings} (h : c.IsShowable)
    (component : ∀ x, settings.component = some x → x.text?.isSome) :
    (Logger.make settings c).context.IsShowable := by
  have shown : "component" ∈ Entry.shownKeys := by decide
  have own : ∀ x, c.get? "component" = some x → x.text?.isSome := fun x found =>
    (h _ (mem_of_get? found)).own x rfl shown
  refine (h.set (tells_other (by decide) (by decide) _)).set (tells_text (by decide) ?_)
  intro x preferred
  unfold Logger.preferred at preferred
  split at preferred
  · rename_i y chosen
    split at preferred
    · exact own x preferred
    · exact component x (chosen.trans preferred)
  · exact own x preferred

/-- The members of a context are its entries with values. -/
theorem mem_members {x : Json} : (key, x) ∈ c.members ↔ (key, some x) ∈ c := by
  rw [members, (Members.inOrder_perm _).mem_iff, Members.ofFields, List.mem_filterMap]
  constructor
  · rintro ⟨⟨k, v⟩, listed, same⟩
    obtain ⟨y, rfl, told⟩ := Option.map_eq_some_iff.mp same
    obtain ⟨rfl, rfl⟩ := Prod.mk.inj told
    exact listed
  · intro listed
    exact ⟨_, listed, rfl⟩

end Context

/-- An entry shows what its context and the call bring along. -/
theorem Logger.entry_shows {l : Logger} {more : Context} (own : l.context.IsShowable)
    (above : more.IsShowable) (timestamp : String) (level : Level) (message : String)
    (error : Option Fault) {key : String} (shown : key ∈ Entry.shownKeys) :
    (l.entry timestamp level message more error).Shows key := by
  have all := own.overlay above
  intro v found
  simp only [entry] at found
  rcases Option.or_eq_some_iff.mp found with listed | ⟨_, standsIn⟩
  · have member := (List.mem_filter.mp (Members.mem_of_lookup listed)).1
    exact (all _ (Context.mem_members.mp member)).own v rfl shown
  · split at standsIn
    · cases standsIn
    split at standsIn
    · rename_i ms unlisted
      have member := Context.mem_members.mp (Members.mem_of_lookup unlisted)
      exact (all _ member).fallback ms rfl _ (Members.mem_of_lookup standsIn) shown
    · cases standsIn

/-- What is shown of what a call and the steps before it bring along has a text. -/
structure Utterance.IsShowable (u : Utterance) : Prop where
  steps : ∀ step ∈ u.steps, step.layer.IsShowable
  call : u.call.more.IsShowable

namespace Logger

variable {root : Logger} {t : Level}

theorem derived_showable (own : root.context.IsShowable)
    (component : ∀ x, root.settings.component = some x → x.text?.isSome) {steps : List Derivation}
    (layers : ∀ step ∈ steps, step.layer.IsShowable) : (root.derived steps).context.IsShowable := by
  induction steps generalizing root with
  | nil => exact own
  | cons step rest ih =>
      obtain ⟨first, later⟩ := List.forall_mem_cons.mp layers
      rw [derived, List.foldl_cons, derive_eq]
      exact ih ((own.overlay first).make component) component later

theorem mem_entries {us : List Utterance} {e : Entry} (h : e ∈ root.entries us) :
    ∃ u ∈ us, u.entry root = e := by
  obtain ⟨u, made, passed⟩ := List.mem_filterMap.mp h
  unfold passed? log? at passed
  split at passed
  · exact ⟨u, made, Option.some.inj passed⟩
  · cases passed

/-- Each entry makes a line if what is shown has a text. -/
theorem entries_printed (own : root.context.IsShowable)
    (component : ∀ x, root.settings.component = some x → x.text?.isSome) {us : List Utterance}
    (showable : ∀ u ∈ us, u.IsShowable) {e : Entry} (h : e ∈ root.entries us) :
    ∃ text, root.deliver false e = .ok (.printed e.level.stream text) := by
  obtain ⟨u, made, rfl⟩ := mem_entries h
  have context := derived_showable own component (showable u made).steps
  have shows : ∀ key ∈ Entry.shownKeys, (u.entry root).Shows key := fun key shown =>
    entry_shows context (showable u made).call _ _ _ _ shown
  exact deliver_printed_iff.mpr fun _ => ⟨shows _ (by decide), shows _ (by decide)⟩

/-! ## Other settings -/

/-- The logger with other settings. -/
def under (l : Logger) (settings : Settings) : Logger := ⟨settings, l.context⟩

theorem make_under {base settings : Settings} (service : settings.service = base.service)
    (component : settings.component = base.component) (c : Context) :
    (make base c).under settings = make settings c := by
  simp [make, under, service, component]

section
variable {settings : Settings} (service : settings.service = root.settings.service)
  (component : settings.component = root.settings.component)

include service component

theorem child_under (more : Context) :
    (root.under settings).child more = (root.child more).under settings :=
  (make_under service component _).symm

theorem derived_under (steps : List Derivation) :
    (root.under settings).derived steps = (root.derived steps).under settings := by
  induction steps generalizing root with
  | nil => rfl
  | cons step rest ih =>
      simp only [derived, List.foldl_cons, derive_eq, child_under service component]
      exact ih service component

/-- Settings that agree in the service and the component make the same entries. -/
theorem entry_under (u : Utterance) : u.entry (root.under settings) = u.entry root := by
  simp only [Utterance.entry, derived_under service component]
  rfl

end

/-- Behind a higher threshold there are those entries of a lower one that reach it. -/
theorem entries_raised {settings : Settings} {high : Level}
    (service : settings.service = root.settings.service)
    (component : settings.component = root.settings.component)
    (level : root.settings.level = some t) (heard : root.settings.silent = false)
    (level' : settings.level = some high) (heard' : settings.silent = false)
    (raised : t.rank ≤ high.rank) (us : List Utterance) :
    (root.under settings).entries us =
      (root.entries us).filter (high.rank ≤ ·.level.rank) := by
  have above : (root.under settings).entries us =
      (us.filter (high.rank ≤ ·.call.level.rank)).map (·.entry (root.under settings)) :=
    entries_eq level' heard' us
  rw [above, entries_eq level heard, List.filter_map, List.filter_filter]
  simp only [entry_under service component]
  refine congrArg _ (List.filter_congr fun u _ => ?_)
  have reaches : (u.entry root).level = u.call.level := rfl
  simp only [Function.comp_apply, reaches]
  grind

/-! ## Loggers of a service -/

/-- The logger of a service. -/
def ofService (env : Environment) (config : Members) (context : Context) : Logger :=
  make (Settings.forService env config) context

section
variable {env env' : Environment} {config config' : Members} {chosen chosen' : Option Level}
  {low high : Level}

theorem ofService_hushed (hushed : env.Hushes) (config : Members) (context : Context)
    (us : List Utterance) : (ofService env config context).entries us = [] :=
  entries_silent (Settings.forService_hushed hushed config) us

theorem ofService_raised (configured : config.lookup "level" = chosen.map (Json.string ·.name))
    (configured' : config'.lookup "level" = chosen'.map (Json.string ·.name))
    (service : config'.lookup "service" = config.lookup "service")
    (component : config'.lookup "component" = config.lookup "component")
    (alike : env'.Hushes ↔ env.Hushes) (one : env.Threshold chosen low)
    (other : env'.Threshold chosen' high) (raised : low.rank ≤ high.rank) (context : Context)
    (us : List Utterance) :
    (ofService env' config' context).entries us =
      ((ofService env config context).entries us).filter (high.rank ≤ ·.level.rank) := by
  by_cases hushed : env.Hushes
  · rw [ofService_hushed hushed, ofService_hushed (alike.mpr hushed)]
    rfl
  · have heard' := mt alike.mp hushed
    have names := Settings.forService_names env config
    have names' := Settings.forService_names env' config'
    have sameService := (names'.1.trans service).trans names.1.symm
    have sameComponent := (names'.2.trans component).trans names.2.symm
    have rest : (ofService env config context).under (Settings.forService env' config') =
        ofService env' config' context :=
      make_under sameService sameComponent context
    rw [← rest]
    exact entries_raised sameService sameComponent
      (Settings.forService_level hushed configured one) (Settings.forService_heard hushed config)
      (Settings.forService_level heard' configured' other)
      (Settings.forService_heard heard' config') raised us

end

/-- What comes out when calls are made to the logger of a service, or to loggers that are derived
    from it. -/
structure Filters (root : Logger) (env : Environment) (config : Members) (chosen : Option Level)
    (context : Context) (us : List Utterance) : Prop where
  /-- Under test nothing comes out, unless a level is asked for. -/
  hushed : env.Hushes → ∀ handsOver, root.outputs handsOver us = []
  /-- Each entry that comes through is put out once, in the order of the calls. -/
  put : ∀ handsOver, root.outputs handsOver us = (root.entries us).map (root.deliver handsOver)
  /-- Otherwise the entries of the calls at or above one threshold come through. -/
  through : ∃ t, (∀ l, env.Threshold chosen l ↔ l = t) ∧ (¬ env.Hushes →
    root.entries us = (us.filter (t.rank ≤ ·.call.level.rank)).map (·.entry root))
  /-- If there is a function that takes entries, it is handed each of them. -/
  handed : ∀ e, root.deliver true e = .ok (.handed e)
  /-- Or else a line is printed, unless it is one for people and something in it has no text. -/
  printed : ∀ e, (∃ text, root.deliver false e = .ok (.printed e.level.stream text)) ↔
    (root.settings.pretty = true → e.Shows "correlationId" ∧ e.Shows "component")
  /-- No line is missing if the identifiers and components that are given have texts. -/
  lines : context.IsShowable → (∀ x, config.lookup "component" = some x → x.text?.isSome) →
    (∀ u ∈ us, u.IsShowable) → ∀ e ∈ root.entries us,
      ∃ text, root.deliver false e = .ok (.printed e.level.stream text)
  /-- A higher threshold only takes entries away. -/
  raised : ∀ env' config' chosen', config'.lookup "level" = chosen'.map (Json.string ·.name) →
    config'.lookup "service" = config.lookup "service" →
    config'.lookup "component" = config.lookup "component" → (env'.Hushes ↔ env.Hushes) →
    ∀ low high, env.Threshold chosen low → env'.Threshold chosen' high → low.rank ≤ high.rank →
      (ofService env' config' context).entries us =
        (root.entries us).filter (high.rank ≤ ·.level.rank)

/-- Under test, unless a level is asked for, nothing comes out of a service's loggers. Otherwise
    exactly the entries of the calls at or above one threshold come out, in the order of the calls
    and each of them once. -/
theorem calls_filtered_by_level (env : Environment) (config : Members) (chosen : Option Level)
    (configured : config.lookup "level" = chosen.map (Json.string ·.name)) (context : Context)
    (us : List Utterance) :
    Filters (ofService env config context) env config chosen context us := by
  constructor
  case hushed =>
    intro hushed handsOver
    rw [outputs_eq, ofService_hushed hushed, List.map_nil]
  case put => exact fun handsOver => outputs_eq _ handsOver us
  case through =>
    obtain ⟨t, threshold⟩ := env.exists_threshold chosen
    refine ⟨t, fun l => ⟨fun other => other.unique threshold, fun same => same ▸ threshold⟩, ?_⟩
    intro heard
    have level := Settings.forService_level heard configured threshold
    exact entries_eq level (Settings.forService_heard heard config) us
  case handed => exact fun _ => rfl
  case printed => exact fun _ => deliver_printed_iff
  case lines =>
    intro own component showable e made
    have texts : ∀ x, (Settings.forService env config).component = some x → x.text?.isSome :=
      fun x set => component x ((Settings.forService_names env config).2.symm.trans set)
    exact entries_printed (own.make texts) texts showable made
  case raised =>
    intro env' config' chosen' configured' service component alike low high one other raised
    exact ofService_raised configured configured' service component alike one other raised context
      us

/-- Two calls of derived loggers, and one of the first logger between them. -/
def threeCalls : List Utterance :=
  [⟨[.child [("disk", some (.ofNat 1))], .correlation "r1"], ⟨"1", .error, "full", [], none⟩⟩,
    ⟨[], ⟨"2", .info, "up", [], none⟩⟩,
    ⟨[.correlation "r2"], ⟨"3", .fatal, "gone", [], none⟩⟩]

theorem threeCalls_showable : ∀ u ∈ threeCalls, u.IsShowable := by
  have disk : Context.IsShowable [("disk", some (.ofNat 1))] :=
    List.forall_mem_singleton.mpr (Context.tells_other (by decide) (by decide) _)
  have first : ∀ step ∈ [Derivation.child [("disk", some (.ofNat 1))], .correlation "r1"],
      step.layer.IsShowable :=
    List.forall_mem_cons.mpr
      ⟨disk, List.forall_mem_singleton.mpr (Context.isShowable_correlation _)⟩
  have last : ∀ step ∈ [Derivation.correlation "r2"], step.layer.IsShowable :=
    List.forall_mem_singleton.mpr (Context.isShowable_correlation _)
  refine List.forall_mem_cons.mpr ⟨⟨first, Context.isShowable_nil⟩, ?_⟩
  refine List.forall_mem_cons.mpr ⟨⟨List.forall_mem_nil _, Context.isShowable_nil⟩, ?_⟩
  exact List.forall_mem_singleton.mpr ⟨last, Context.isShowable_nil⟩

/-- Under test, `warn` is asked for and lets two of the calls through; `fatal` is configured and
    lets one of these through. -/
theorem calls_filtered_by_level_raised :
    let env : Environment := [("VITEST", "true"), ("LOG_LEVEL", "warn")]
    let config : Members := [("service", .string "proxy")]
    let strict : Members := [("service", .string "proxy"), ("level", .string "fatal")]
    let root := ofService env config []
    let stricter := ofService env strict []
    config.lookup "level" = (none : Option Level).map (Json.string ·.name) ∧
      strict.lookup "level" = (some Level.fatal).map (Json.string ·.name) ∧ ¬ env.Hushes ∧
      env.Threshold none .warn ∧ env.Threshold (some .fatal) .fatal ∧
      (root.entries threeCalls).map (·.message) = ["full", "gone"] ∧
      root.outputs true threeCalls = (root.entries threeCalls).map (root.deliver true) ∧
      (∀ u ∈ threeCalls, u.IsShowable) ∧
      (∀ e ∈ root.entries threeCalls,
        ∃ text, root.deliver false e = .ok (.printed e.level.stream text)) ∧
      stricter.entries threeCalls =
        (root.entries threeCalls).filter (Level.fatal.rank ≤ ·.level.rank) ∧
      (stricter.entries threeCalls).map (·.message) = ["gone"] := by
  intro env config strict root stricter
  have heard : ¬ env.Hushes := by
    rw [← Environment.isSilent_iff]
    decide
  have asked : env.Threshold none .warn := .asked .warn rfl
  have configured : env.Threshold (some .fatal) .fatal := .configured .fatal
  have filters := calls_filtered_by_level env config none rfl [] threeCalls
  obtain ⟨t, only, through⟩ := filters.through
  obtain rfl := (only .warn).mp asked
  have fewer := filters.raised env strict (some .fatal) rfl rfl rfl Iff.rfl .warn .fatal asked
    configured (by decide)
  have lines := filters.lines Context.isShowable_nil (fun _ set => nomatch set) threeCalls_showable
  refine ⟨rfl, rfl, heard, asked, configured, ?_, filters.put true, threeCalls_showable, lines,
    fewer, ?_⟩
  · rw [through heard]
    rfl
  · rw [fewer, through heard]
    rfl

end Logger

end Log

end Faultline
