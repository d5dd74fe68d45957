import Faultline.Log.Logger
import Faultline.Proofs.Documents

/-! # Layers of context

Members are laid on top of others one layer at a time or all at once (`Members.overlay_assoc`). A
logger settles its service and its component whenever it is derived, but in their places, so any
number of derivations make one child of the first logger (`Logger.Sound.derived_eq`).
-/

namespace Faultline

/-! ## Members on top of members -/

namespace Members

variable {α : Type} {ms middle top : List (String × α)} {key other : String} {v w : α}

theorem set_set (ms : List (String × α)) (key : String) (v w : α) :
    set (set ms key v) key w = set ms key w := by
  induction ms with
  | nil => simp [set]
  | cons m rest ih =>
      obtain ⟨k, x⟩ := m
      by_cases here : k = key
      · simp [set, here]
      · simp [set, here, ih]

/-- A member that is there already is set before or after another one. -/
theorem set_comm (listed : key ∈ ms.map (·.1)) (differ : key ≠ other) (v w : α) :
    set (set ms other w) key v = set (set ms key v) other w := by
  induction ms with
  | nil => cases listed
  | cons m rest ih =>
      obtain ⟨k, x⟩ := m
      by_cases here : k = key
      · subst here
        simp [set, differ]
      · have later : key ∈ rest.map (·.1) := by
          simpa [Ne.symm here] using listed
        by_cases there : k = other
        · subst there
          simp [set, here]
        · simp [set, here, there, ih later]

theorem set_eq_self (h : ms.lookup key = some v) : set ms key v = ms := by
  induction ms with
  | nil => cases h
  | cons m rest ih =>
      obtain ⟨k, x⟩ := m
      by_cases here : k = key
      · subst here
        rw [List.lookup_cons_self] at h
        rw [set, if_pos rfl, Option.some.inj h]
      · rw [List.lookup_cons, beq_eq_false_iff_ne.mpr (Ne.symm here)] at h
        rw [set, if_neg here, ih h]

theorem overlay_cons (ms rest : List (String × α)) (m : String × α) :
    overlay ms (m :: rest) = overlay (set ms m.1 m.2) rest := rfl

theorem mem_keys_overlay (listed : key ∈ ms.map (·.1)) : key ∈ (overlay ms top).map (·.1) := by
  induction top generalizing ms with
  | nil => exact listed
  | cons m rest ih =>
      rw [overlay_cons]
      exact ih (mem_keys_set.mpr (.inr listed))

theorem mem_overlay {m : String × α} (h : m ∈ overlay ms top) : m ∈ ms ∨ m ∈ top := by
  induction top generalizing ms with
  | nil => exact .inl h
  | cons first rest ih =>
      rcases ih h with below | later
      · rcases mem_set below with same | there
        · exact .inr (same ▸ List.mem_cons_self ..)
        · exact .inl there
      · exact .inr (List.mem_cons_of_mem _ later)

theorem Distinct.overlay (distinct : Distinct ms) (top : List (String × α)) :
    Distinct (overlay ms top) := by
  induction top generalizing ms with
  | nil => exact distinct
  | cons m rest ih => exact ih (distinct.set m.1 m.2)

theorem lookup_overlay (untouched : key ∉ top.map (·.1)) :
    (overlay ms top).lookup key = ms.lookup key := by
  induction top generalizing ms with
  | nil => rfl
  | cons m rest ih =>
      have first := List.ne_of_not_mem_cons untouched
      have others := List.not_mem_of_not_mem_cons untouched
      rw [overlay_cons, ih others, lookup_set, if_neg first]

/-- What a layer says nothing about is set under it or above it. -/
theorem overlay_set_below (listed : key ∈ ms.map (·.1)) (untouched : key ∉ top.map (·.1)) :
    overlay (set ms key v) top = set (overlay ms top) key v := by
  induction top generalizing ms with
  | nil => rfl
  | cons m rest ih =>
      have first := List.ne_of_not_mem_cons untouched
      have others := List.not_mem_of_not_mem_cons untouched
      rw [overlay_cons, overlay_cons, ← ih (mem_keys_set.mpr (.inr listed)) others,
        set_comm listed first]

/-- What is set above a layer overrides what was set under it. -/
theorem set_overlay_set (listed : key ∈ ms.map (·.1)) :
    set (overlay (set ms key v) top) key w = set (overlay ms top) key w := by
  induction top generalizing ms v with
  | nil => exact set_set ms key v w
  | cons m rest ih =>
      rw [overlay_cons, overlay_cons]
      by_cases here : key = m.1
      · rw [← here, set_set]
      · rw [← set_comm listed here]
        exact ih (mem_keys_set.mpr (.inr listed))

theorem overlay_set (distinct : Distinct top) (ms : List (String × α)) (key : String) (v : α) :
    overlay ms (set top key v) = set (overlay ms top) key v := by
  induction top generalizing ms with
  | nil => rfl
  | cons m rest ih =>
      obtain ⟨k, x⟩ := m
      obtain ⟨absent, others⟩ := List.nodup_cons.mp distinct
      by_cases here : k = key
      · subst here
        rw [set, if_pos rfl, overlay_cons, overlay_cons,
          ← overlay_set_below (mem_keys_set.mpr (.inl rfl)) absent, set_set]
      · rw [set, if_neg here, overlay_cons, overlay_cons, ih others]

/-- Two layers, one after the other, are one layer. -/
theorem overlay_assoc (distinct : Distinct middle) (ms top : List (String × α)) :
    overlay (overlay ms middle) top = overlay ms (overlay middle top) := by
  induction top generalizing middle with
  | nil => rfl
  | cons m rest ih =>
      rw [overlay_cons, overlay_cons, ← overlay_set distinct, ih (distinct.set m.1 m.2)]

end Members

namespace Log

/-! ## Settled names -/

namespace Context

open Members

variable {c d m : Context} {setting : Option Json} {key other : String}

/-- The context with what is preferred under a name put in its place. -/
def settle (c : Context) (setting : Option Json) (key : String) : Context :=
  set c key (Logger.preferred setting c key)

/-- What is preferred under a name is there already. -/
def Settled (setting : Option Json) (key : String) (c : Context) : Prop :=
  c.lookup key = some (Logger.preferred setting c key)

theorem preferred_congr (same : c.lookup key = d.lookup key) (setting : Option Json) :
    Logger.preferred setting c key = Logger.preferred setting d key := by
  simp only [Logger.preferred, get?, same]

/-- A setting decides on its own, or it leaves everything to the context. -/
theorem preferred_cases (setting : Option Json) (key : String) :
    (∃ v, ∀ c, Logger.preferred setting c key = some v) ∨
      ∀ c : Context, Logger.preferred setting c key = c.get? key := by
  cases setting with
  | none => exact .inr fun _ => rfl
  | some v =>
      cases empty : v.isEmptyLike with
      | false => exact .inl ⟨v, fun c => by simp [Logger.preferred, empty]⟩
      | true => exact .inr fun c => by simp [Logger.preferred, empty]

theorem Settled.settle (settled : Settled setting key c) : c.settle setting key = c :=
  set_eq_self settled

theorem Settled.listed (settled : Settled setting key c) : key ∈ c.map (·.1) :=
  List.mem_map.mpr ⟨_, mem_of_lookup settled, rfl⟩

theorem Settled.set (settled : Settled setting key c) (differ : key ≠ other) (v : Option Json) :
    Settled setting key (set c other v) := by
  have same : (Members.set c other v).lookup key = c.lookup key := by
    rw [lookup_set, if_neg differ]
  rw [Settled, same, preferred_congr same]
  exact settled

theorem Settled.overlay (settled : Settled setting key c) (untouched : key ∉ m.map (·.1)) :
    Settled setting key (overlay c m) := by
  have same : (Members.overlay c m).lookup key = c.lookup key := lookup_overlay untouched
  rw [Settled, same, preferred_congr same]
  exact settled

theorem settle_settled (c : Context) (setting : Option Json) (key : String) :
    Settled setting key (c.settle setting key) := by
  have there : (c.settle setting key).lookup key = some (Logger.preferred setting c key) := by
    rw [Context.settle, lookup_set, if_pos rfl]
  rw [Settled, there]
  rcases preferred_cases setting key with ⟨v, decides⟩ | leaves
  · rw [decides, decides]
  · rw [leaves (c.settle setting key), get?, there]
    rfl

theorem listed_settle (listed : other ∈ c.map (·.1)) (setting : Option Json) (key : String) :
    other ∈ (c.settle setting key).map (·.1) :=
  mem_keys_set.mpr (.inr listed)

/-- A name that is listed is settled before or after another one. -/
theorem settle_comm (listed : key ∈ c.map (·.1)) (differ : key ≠ other)
    (setting further : Option Json) :
    (c.settle further other).settle setting key = (c.settle setting key).settle further other := by
  have mine : (c.settle further other).lookup key = c.lookup key := by
    rw [Context.settle, lookup_set, if_neg differ]
  have its : (c.settle setting key).lookup other = c.lookup other := by
    rw [Context.settle, lookup_set, if_neg differ.symm]
  simp only [Context.settle] at mine its ⊢
  rw [preferred_congr mine, preferred_congr its]
  exact set_comm listed differ _ _

/-- What is settled above a layer need not have been settled under it. -/
theorem settle_overlay_settle (listed : key ∈ c.map (·.1)) (setting : Option Json) (m : Context) :
    Context.settle (overlay (c.settle setting key) m) setting key =
      Context.settle (overlay c m) setting key := by
  rcases preferred_cases setting key with ⟨v, decides⟩ | leaves
  · simp only [Context.settle, decides]
    exact set_overlay_set listed
  · obtain ⟨v, found⟩ := Option.isSome_iff_exists.mp (lookup_isSome.mpr listed)
    have settled : Settled setting key c := by
      rw [Settled, leaves, get?, found]
      rfl
    rw [settled.settle]

end Context

/-! ## Derived loggers -/

/-- What a step adds to the context. -/
def Derivation.layer : Derivation → Context
  | .child more => more
  | .correlation id => [("correlationId", some (.string id))]

/-- The layers of several steps, merged into one. -/
def Derivation.merged (steps : List Derivation) : Context :=
  steps.foldl (fun layer step => Members.overlay layer step.layer) []

namespace Logger

open Context

variable {l : Logger} {m : Context}

/-- A logger that has settled its service and its component. -/
structure Sound (l : Logger) : Prop where
  service : Settled l.settings.service "service" l.context
  component : Settled l.settings.component "component" l.context

theorem make_eq (settings : Settings) (c : Context) :
    make settings c =
      ⟨settings, (c.settle settings.service "service").settle settings.component "component"⟩ := by
  have same : (c.settle settings.service "service").lookup "component" = c.lookup "component" := by
    rw [settle, Members.lookup_set, if_neg (by decide)]
  rw [settle, preferred_congr same]
  rfl

theorem make_sound (settings : Settings) (c : Context) : (make settings c).Sound := by
  rw [make_eq]
  exact ⟨(settle_settled c _ _).set (by decide) _, settle_settled _ _ _⟩

theorem Sound.remade (sound : l.Sound) : make l.settings l.context = l := by
  rw [make_eq, sound.service.settle, sound.component.settle]

theorem derive_eq (l : Logger) (step : Derivation) : l.derive step = l.child step.layer := by
  cases step with
  | child more => rfl
  | correlation id => rfl

/-- Settling before a layer is laid on top changes nothing. -/
theorem make_overlay_make {c : Context} (service : "service" ∈ c.map (·.1))
    (component : "component" ∈ c.map (·.1)) (settings : Settings) (m : Context) :
    make settings (Members.overlay (make settings c).context m) =
      make settings (Members.overlay c m) := by
  have differ : "component" ≠ "service" := by decide
  have kept := listed_settle component settings.service "service"
  have still := listed_settle kept settings.component "component"
  simp only [make_eq, Logger.mk.injEq, true_and]
  rw [settle_comm (Members.mem_keys_overlay still) differ, settle_overlay_settle kept,
    ← settle_comm (Members.mem_keys_overlay kept) differ, settle_overlay_settle service]

theorem Sound.child_child (sound : l.Sound) (distinct : Members.Distinct m) (more : Context) :
    (l.child m).child more = l.child (Members.overlay m more) := by
  have service : "service" ∈ (Members.overlay l.context m).map (·.1) :=
    Members.mem_keys_overlay sound.service.listed
  have component : "component" ∈ (Members.overlay l.context m).map (·.1) :=
    Members.mem_keys_overlay sound.component.listed
  show make l.settings _ = make l.settings _
  rw [← Members.overlay_assoc distinct]
  exact make_overlay_make service component l.settings more

/-- Any number of steps are one child. -/
theorem Sound.derived_eq (sound : l.Sound) (steps : List Derivation) :
    l.derived steps = l.child (Derivation.merged steps) := by
  have onward : ∀ m, Members.Distinct m → (l.child m).derived steps =
      l.child (steps.foldl (fun layer step => Members.overlay layer step.layer) m) := by
    induction steps with
    | nil => exact fun _ _ => rfl
    | cons step rest ih =>
        intro m distinct
        rw [derived, List.foldl_cons, derive_eq, sound.child_child distinct]
        exact ih _ (distinct.overlay step.layer)
  have first : l.child [] = l := sound.remade
  rw [Derivation.merged, ← onward [] List.nodup_nil, first]

/-- A layer without a service and a component is laid on the context as it is. -/
theorem Sound.child_context (sound : l.Sound) (service : "service" ∉ m.map (·.1))
    (component : "component" ∉ m.map (·.1)) :
    l.child m = ⟨l.settings, Members.overlay l.context m⟩ := by
  have kept : Sound ⟨l.settings, Members.overlay l.context m⟩ :=
    ⟨sound.service.overlay service, sound.component.overlay component⟩
  exact kept.remade

/-- What a layer without a service and a component adds to every call can as well be added to each
    call by itself. -/
theorem Sound.tell_child (sound : l.Sound) (distinct : Members.Distinct m)
    (service : "service" ∉ m.map (·.1)) (component : "component" ∉ m.map (·.1)) (handsOver : Bool)
    (c : Call) :
    (l.child m).tell handsOver c =
      l.tell handsOver { c with more := Members.overlay m c.more } := by
  have merged := Members.overlay_assoc distinct l.context c.more
  rw [sound.child_context service component]
  simp only [tell, passed?, log?, lets, entry, merged]
  rfl

end Logger

/-! ## Programs -/

/-- What a program does with its loggers, which are numbered in the order in which it gets them. -/
inductive Deed where
  | derive (parent : Nat) (step : Derivation)
  | call (number : Nat) (c : Call)

namespace Deed

/-- The loggers after a deed. -/
def after (loggers : List Logger) : Deed → List Logger
  | derive parent step => loggers ++ (loggers[parent]?.map (·.derive step)).toList
  | call .. => loggers

/-- The call to one of the loggers that a deed is, if it is one. -/
def callTo? (number : Nat) : Deed → Option Call
  | derive .. => none
  | call other c => if other = number then some c else none

theorem after_getElem? {loggers : List Logger} {number : Nat} {l : Logger}
    (there : loggers[number]? = some l) (d : Deed) : (d.after loggers)[number]? = some l := by
  cases d with
  | derive parent step =>
      obtain ⟨inside, _⟩ := List.getElem?_eq_some_iff.mp there
      rw [after, List.getElem?_append_left inside, there]
  | call other c => exact there

end Deed

/-- What the calls to one of the loggers come to in the course of a program, in their order. -/
def said (handsOver : Bool) (number : Nat) :
    List Logger → List Deed → List (Except Failure (Option Output))
  | _, [] => []
  | loggers, d :: rest =>
    (loggers[number]?.bind fun l => (d.callTo? number).map (l.tell handsOver)).toList ++
      said handsOver number (d.after loggers) rest

/-- A logger says what it would say if it were the only one and nothing were derived from it. -/
theorem said_alone {loggers : List Logger} {number : Nat} {l : Logger}
    (there : loggers[number]? = some l) (handsOver : Bool) (deeds : List Deed) :
    said handsOver number loggers deeds =
      (deeds.filterMap (·.callTo? number)).map (l.tell handsOver) := by
  induction deeds generalizing loggers with
  | nil => rfl
  | cons d rest ih =>
      rw [said, ih (d.after_getElem? there), there, Option.bind_some, List.filterMap_cons]
      cases d.callTo? number with
      | none => rfl
      | some c => rfl

/-- What is said by the loggers that are derived from a logger, and by the logger itself. -/
structure Collapses (l : Logger) : Prop where
  /-- Of two layers the later one lies on top. -/
  two : ∀ first second, Members.Distinct first → ∀ handsOver c,
    ((l.child first).child second).tell handsOver c =
      (l.child (Members.overlay first second)).tell handsOver c
  /-- All steps together are one child. -/
  all : ∀ steps handsOver c, (l.derived steps).tell handsOver c =
    (l.child (Derivation.merged steps)).tell handsOver c
  correlation : ∀ id, l.withCorrelationId id = l.child [("correlationId", some (.string id))]
  /-- Of two correlation identifiers the later one counts. -/
  later : ∀ earlier last handsOver c,
    ((l.withCorrelationId earlier).withCorrelationId last).tell handsOver c =
      (l.withCorrelationId last).tell handsOver c
  /-- A layer without a service and a component can as well be added to each call. -/
  each : ∀ m, Members.Distinct m → "service" ∉ m.map (·.1) → "component" ∉ m.map (·.1) →
    ∀ handsOver c, (l.child m).tell handsOver c =
      l.tell handsOver { c with more := Members.overlay m c.more }
  /-- What is derived from the logger changes nothing in what it says later. -/
  undisturbed : ∀ loggers number, loggers[number]? = some l → ∀ handsOver deeds,
    said handsOver number loggers deeds =
      (deeds.filterMap (·.callTo? number)).map (l.tell handsOver)

/-- However a logger is derived from another one, it says what one child of that logger says, whose
    layer has all the layers in it. -/
theorem layers_collapse (settings : Settings) (context : Context) :
    Collapses (Logger.make settings context) := by
  have sound := Logger.make_sound settings context
  constructor
  case two =>
    intro first second distinct handsOver c
    rw [sound.child_child distinct]
  case all =>
    intro steps handsOver c
    rw [sound.derived_eq]
  case correlation => exact fun _ => rfl
  case later =>
    intro earlier last handsOver c
    have alone : Members.Distinct [("correlationId", some (Json.string earlier))] :=
      List.nodup_singleton _
    exact congrArg (·.tell handsOver c) (sound.child_child alone _)
  case each =>
    intro m distinct service component handsOver c
    exact sound.tell_child distinct service component handsOver c
  case undisturbed =>
    intro loggers number there handsOver deeds
    exact said_alone there handsOver deeds

/-- A service that is unset stays what the settings say, a name keeps its place without its value,
    and what is derived in between is not heard of. -/
theorem layers_collapse_unset :
    let settings := { Settings.plain with service := some (.string "proxy") }
    let l := Logger.make settings [("at", some (.ofNat 1))]
    let first : Context := [("service", none), ("who", some (.string "a"))]
    let second : Context := [("who", none), ("component", some .null), ("0", some (.bool true))]
    let who : Context := [("who", some (.string "b"))]
    let c : Call := ⟨"now", .info, "m", second, none⟩
    let deeds := [Deed.call 0 c, .derive 0 (.child who), .call 1 c, .call 0 c]
    Members.Distinct first ∧ Members.Distinct who ∧ "service" ∉ who.map (·.1) ∧
      "component" ∉ who.map (·.1) ∧ [l][0]? = some l ∧
      ((l.child first).child second).tell false c =
        (l.child (Members.overlay first second)).tell false c ∧
      (((l.child first).child second).tell false c).toOption = some (some (.printed "info"
        ("\x7b\"timestamp\":\"now\",\"level\":\"info\",\"message\":\"m\",\"meta\":" ++
          "\x7b\"0\":true,\"at\":1,\"service\":\"proxy\",\"component\":null\x7d\x7d"))) ∧
      (l.child who).tell true c = l.tell true { c with more := Members.overlay who c.more } ∧
      said true 0 [l] deeds = [l.tell true c, l.tell true c] := by
  intro settings l first second who c deeds
  have distinct : Members.Distinct first := by simp [Members.Distinct, first]
  have alone : Members.Distinct who := List.nodup_singleton _
  have service : "service" ∉ who.map (·.1) := by simp [who]
  have component : "component" ∉ who.map (·.1) := by simp [who]
  have collapses := layers_collapse settings [("at", some (.ofNat 1))]
  refine ⟨distinct, alone, service, component, rfl, collapses.two first second distinct false c, ?_,
    collapses.each who alone service component true c, collapses.undisturbed [l] 0 rfl true deeds⟩
  decide +kernel

end Log

end Faultline
