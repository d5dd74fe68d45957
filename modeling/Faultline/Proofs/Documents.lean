import Mathlib.Data.List.Nodup
import Faultline.Control.Body
import Faultline.Scenario.Basic

/-! # Documents that are read

Of two members of one name the later one counts, so no name occurs twice in an object that is read
(`read_distinct`). The overrides that a body gives are therefore known from a single member of it
(`ofBody?_given`).
-/

namespace Faultline

/-! ## Members -/

namespace Members

/-- No name occurs twice. -/
def Distinct {α : Type} (ms : List (String × α)) : Prop := (ms.map (·.1)).Nodup

theorem mem_keys_set {α : Type} {ms : List (String × α)} {key other : String} {v : α} :
    other ∈ (set ms key v).map (·.1) ↔ other = key ∨ other ∈ ms.map (·.1) := by
  induction ms with
  | nil => simp [set]
  | cons m rest ih =>
      obtain ⟨k, x⟩ := m
      by_cases here : k = key
      · simp [set, here]
      · simp only [set, here, if_false, List.map_cons, List.mem_cons, ih]
        exact or_left_comm

theorem mem_set {α : Type} {ms : List (String × α)} {m : String × α} {key : String} {v : α}
    (h : m ∈ set ms key v) : m = (key, v) ∨ m ∈ ms := by
  induction ms with
  | nil => exact .inl (List.mem_singleton.mp h)
  | cons first rest ih =>
      obtain ⟨k, x⟩ := first
      by_cases here : k = key
      · subst here
        simp only [set, if_true] at h
        exact (List.mem_cons.mp h).imp id (List.mem_cons_of_mem _)
      · simp only [set, here, if_false] at h
        rcases List.mem_cons.mp h with same | later
        · exact .inr (same ▸ List.mem_cons_self ..)
        · exact (ih later).imp id (List.mem_cons_of_mem _)

theorem Distinct.set {α : Type} {ms : List (String × α)} (h : Distinct ms) (key : String) (v : α) :
    Distinct (set ms key v) := by
  induction ms with
  | nil => exact List.nodup_singleton key
  | cons m rest ih =>
      obtain ⟨k, x⟩ := m
      obtain ⟨absent, distinct⟩ := List.nodup_cons.mp h
      by_cases here : k = key
      · simp only [Members.set, here, if_true]
        subst here
        exact List.nodup_cons.mpr ⟨absent, distinct⟩
      · simp only [Members.set, here, if_false]
        refine List.nodup_cons.mpr ⟨?_, ih distinct⟩
        intro inside
        rcases mem_keys_set.mp inside with same | later
        · exact here same
        · exact absent later

theorem lookup_entry {α : Type} (ms : List (String × α)) (key other : String) (v : α) :
    ((key, v) :: ms).lookup other = if other = key then some v else ms.lookup other := by
  rw [List.lookup_cons]
  by_cases same : other = key
  · rw [if_pos same, beq_iff_eq.mpr same]
  · rw [if_neg same, beq_eq_false_iff_ne.mpr same]

theorem lookup_isSome {α : Type} {ms : List (String × α)} {key : String} :
    (ms.lookup key).isSome = true ↔ key ∈ ms.map (·.1) := by
  simp only [List.lookup_isSome_iff, List.mem_map, beq_iff_eq]
  exact exists_congr fun m => and_congr_right fun _ => eq_comm

theorem mem_of_lookup {α : Type} {ms : List (String × α)} {key : String} {v : α}
    (h : ms.lookup key = some v) : (key, v) ∈ ms := by
  obtain ⟨before, after, written, _⟩ := List.lookup_eq_some_iff.mp h
  rw [written]
  exact List.mem_append_right _ (List.mem_cons_self ..)

theorem lookup_set {α : Type} (ms : List (String × α)) (key other : String) (v : α) :
    (set ms key v).lookup other = if other = key then some v else ms.lookup other := by
  induction ms with
  | nil => exact lookup_entry [] key other v
  | cons m rest ih =>
      obtain ⟨first, x⟩ := m
      rw [set]
      by_cases here : first = key
      · rw [if_pos here, lookup_entry, lookup_entry, here]
        split <;> rfl
      · rw [if_neg here, lookup_entry, ih, lookup_entry]
        by_cases same : other = first
        · rw [if_pos same, if_pos same, if_neg (same ▸ here)]
        · rw [if_neg same, if_neg same]

theorem mem_insertByIndex {α : Type} {n : Nat} {m : α} {x : Nat × α} {numbered : List (Nat × α)}
    (h : x ∈ insertByIndex n m numbered) : x = (n, m) ∨ x ∈ numbered := by
  induction numbered with
  | nil => exact .inl (List.mem_singleton.mp h)
  | cons y rest ih =>
      simp only [insertByIndex] at h
      split at h
      · exact List.mem_cons.mp h
      · rcases List.mem_cons.mp h with here | later
        · exact .inr (List.mem_cons.mpr (.inl here))
        · rcases ih later with new | old
          · exact .inl new
          · exact .inr (List.mem_cons_of_mem _ old)

/-- Members are listed as they were written unless some name is an array index. -/
theorem inOrder_cases {α : Type} (ms : List (String × α)) :
    inOrder ms = ms ∨ ∃ m ∈ inOrder ms, (index? m.1).isSome := by
  unfold inOrder
  dsimp only
  split
  · exact .inl rfl
  · rename_i indexed
    right
    obtain ⟨⟨n, m⟩, member⟩ := List.exists_mem_of_ne_nil _ (mt List.isEmpty_iff.mpr indexed)
    refine ⟨m, List.mem_append_left _ (List.mem_map.mpr ⟨_, member, rfl⟩), ?_⟩
    revert n m
    refine List.foldlRecOn (motive := fun numbered : List (Nat × String × α) =>
      ∀ n m, (n, m) ∈ numbered → (index? m.1).isSome) ms _ (fun _ _ => nofun) ?_
    intro numbered kept x _ n m member
    split at member
    · rename_i i found
      rcases mem_insertByIndex member with new | old
      · obtain ⟨_, rfl⟩ := Prod.mk.inj new
        exact Option.isSome_iff_exists.mpr ⟨i, found⟩
      · exact kept n m old
    · exact kept n m member

end Members

/-! ## Reading -/

namespace Json

/-- An object has no two members of one name. -/
def Distinct (v : Json) : Prop := ∀ ms, v = .object ms → Members.Distinct ms

theorem distinct_empty : Distinct .empty := by
  intro ms same
  obtain rfl := Json.object.inj same
  exact List.nodup_nil

/-- Scalars are no objects. -/
def Token.Plain : Token → Prop
  | .scalar v => v.Distinct
  | .openArray | .closeArray | .openObject | .closeObject | .colon | .comma | .text _ => True

theorem ofWord?_plain {w : List Char} {t : Token} (h : Token.ofWord? w = some t) : t.Plain := by
  unfold Token.ofWord? at h
  split at h
  · obtain rfl := Option.some.inj h
    exact nofun
  · split at h
    · obtain rfl := Option.some.inj h
      exact nofun
    · split at h
      · obtain rfl := Option.some.inj h
        exact nofun
      · obtain ⟨n, _, rfl⟩ := Option.map_eq_some_iff.mp h
        exact nofun

theorem ofMark?_plain {c : Char} {t : Token} (h : Token.ofMark? c = some t) : t.Plain := by
  cases t with
  | scalar v =>
      unfold Token.ofMark? at h
      repeat (split at h; · cases h)
      cases h
  | openArray | closeArray | openObject | closeObject | colon | comma | text => exact trivial

theorem between_plain {tokens : List Token} (h : ∀ t ∈ tokens, t.Plain) {c : Char} {k : Cutter}
    (step : Cutter.between tokens c = some k) : ∀ t ∈ k.tokens, t.Plain := by
  unfold Cutter.between at step
  split at step
  · obtain rfl := Option.some.inj step
    exact h
  · split at step
    · obtain rfl := Option.some.inj step
      exact h
    · split at step
      · rename_i mark
        obtain rfl := Option.some.inj step
        exact List.forall_mem_cons.mpr ⟨ofMark?_plain mark, h⟩
      · obtain rfl := Option.some.inj step
        exact h

theorem cutter_plain {k l : Cutter} (h : ∀ t ∈ k.tokens, t.Plain) {c : Char}
    (step : k.feed c = some l) : ∀ t ∈ l.tokens, t.Plain := by
  obtain ⟨tokens, doing, half⟩ := k
  cases doing with
  | between => exact between_plain h step
  | word rev =>
      simp only [Cutter.feed] at step
      split at step
      · split at step
        · rename_i word
          exact between_plain (List.forall_mem_cons.mpr ⟨ofWord?_plain word, h⟩) step
        · cases step
      · obtain rfl := Option.some.inj step
        exact h
  | quoted rev =>
      simp only [Cutter.feed] at step
      split at step
      · obtain rfl := Option.some.inj step
        exact h
      · split at step
        · obtain rfl := Option.some.inj step
          exact List.forall_mem_cons.mpr ⟨trivial, h⟩
        · split at step
          · cases step
          · obtain rfl := Option.some.inj step
            exact h
  | escaped rev =>
      simp only [Cutter.feed] at step
      split at step
      · obtain rfl := Option.some.inj step
        exact h
      · obtain ⟨_, _, rfl⟩ := Option.map_eq_some_iff.mp step
        exact h
  | numbered rev owed value =>
      simp only [Cutter.feed] at step
      split at step
      · cases step
      · split at step
        · obtain rfl := Option.some.inj step
          exact h
        · obtain rfl := Option.some.inj step
          exact h

/-- What holds of the state from which a list is read, and survives every step, holds at the end. -/
theorem foldlM_invariant {σ α : Type} {step : σ → α → Option σ} (holds : σ → Prop)
    (suits : α → Prop) (kept : ∀ s a t, holds s → suits a → step s a = some t → holds t)
    {s t : σ} {items : List α} (start : holds s) (suit : ∀ a ∈ items, suits a)
    (run : items.foldlM step s = some t) : holds t := by
  induction items generalizing s with
  | nil =>
      obtain rfl := Option.some.inj run
      exact start
  | cons a rest ih =>
      obtain ⟨suitsFirst, suitRest⟩ := List.forall_mem_cons.mp suit
      rw [List.foldlM_cons] at run
      obtain ⟨between, first, later⟩ := Option.bind_eq_some_iff.mp run
      exact ih (kept s a between start suitsFirst first) suitRest later

theorem ofText?_plain {s : List Char} {tokens : List Token} (h : Token.ofText? s = some tokens) :
    ∀ t ∈ tokens, t.Plain := by
  have cut : ∀ k, s.foldlM Cutter.feed ⟨[], .between, none⟩ = some k → ∀ t ∈ k.tokens, t.Plain :=
    fun k run => foldlM_invariant (fun k : Cutter => ∀ t ∈ k.tokens, t.Plain) (fun _ => True)
      (fun _ _ _ plain _ => cutter_plain plain) (List.forall_mem_nil _) (fun _ _ => trivial) run
  unfold Token.ofText? at h
  split at h
  · rename_i run
    obtain rfl := Option.some.inj h
    exact fun t member => cut _ run t (List.mem_reverse.mp member)
  · rename_i run
    obtain ⟨word, found, rfl⟩ := Option.map_eq_some_iff.mp h
    have all := List.forall_mem_cons.mpr ⟨ofWord?_plain found, cut _ run⟩
    exact fun t member => all t (List.mem_reverse.mp member)
  · cases h

/-- An object that is open has no two members of one name. -/
def Frame.Sound : Frame → Prop
  | .array _ => True
  | .object ms _ => Members.Distinct ms

/-- No object that is open or has been read has two members of one name. -/
structure Builder.Sound (b : Builder) : Prop where
  frames : ∀ f ∈ b.stack, f.Sound
  members : Members.Distinct b.members
  result : ∀ v, b.expecting = .nothing v → v.Distinct

namespace Builder

variable {stack : List Frame} {b c : Builder} {t : Token}

theorem place_sound (frames : ∀ f ∈ stack, f.Sound) {v : Json} (own : v.Distinct) :
    (place stack v).Sound := by
  cases stack with
  | nil =>
      refine ⟨nofun, List.nodup_nil, ?_⟩
      intro w same
      obtain rfl := Expecting.nothing.inj same
      exact own
  | cons f below =>
      obtain ⟨top, deeper⟩ := List.forall_mem_cons.mp frames
      cases f with
      | array rev => exact ⟨List.forall_mem_cons.mpr ⟨trivial, deeper⟩, List.nodup_nil, nofun⟩
      | object ms key =>
          exact ⟨List.forall_mem_cons.mpr ⟨top.set key v, deeper⟩, List.nodup_nil, nofun⟩

theorem value_sound (frames : ∀ f ∈ stack, f.Sound) (plain : t.Plain)
    (h : value stack t = some b) : b.Sound := by
  cases t with
  | scalar v =>
      obtain rfl := Option.some.inj h
      exact place_sound frames plain
  | text s =>
      obtain rfl := Option.some.inj h
      exact place_sound frames nofun
  | openArray =>
      obtain rfl := Option.some.inj h
      exact ⟨List.forall_mem_cons.mpr ⟨trivial, frames⟩, List.nodup_nil, nofun⟩
  | openObject =>
      obtain rfl := Option.some.inj h
      exact ⟨frames, List.nodup_nil, nofun⟩
  | closeArray | closeObject | colon | comma => cases h

/-- The end of an array, whether items came before it or not. -/
theorem closeArray_sound (h : b.Sound) (inside : b.expecting = .itemOrClose ∨
    b.expecting = .commaOrClose) (step : b.feed .closeArray = some c) : c.Sound := by
  obtain ⟨stack, expecting, members⟩ := b
  have closes : ∃ rev below, stack = .array rev :: below ∧
      place below (.array rev.reverse) = c := by
    rcases inside with rfl | rfl
    all_goals
      cases stack with
      | nil => cases step
      | cons f below =>
          cases f with
          | array rev => exact ⟨rev, below, rfl, Option.some.inj step⟩
          | object => cases step
  obtain ⟨rev, below, rfl, rfl⟩ := closes
  exact place_sound (List.forall_mem_cons.mp h.frames).2 nofun

/-- What comes after an item or a member, but for the end of an array. -/
theorem afterItem_sound (frames : ∀ f ∈ stack, f.Sound) {members : Members}
    (other : t ≠ .closeArray) (step : feed ⟨stack, .commaOrClose, members⟩ t = some c) :
    c.Sound := by
  cases stack with
  | nil => cases t <;> cases step
  | cons f below =>
      obtain ⟨top, deeper⟩ := List.forall_mem_cons.mp frames
      cases t with
      | comma =>
          cases f with
          | array rev =>
              obtain rfl := Option.some.inj step
              exact ⟨frames, List.nodup_nil, nofun⟩
          | object ms key =>
              obtain rfl := Option.some.inj step
              exact ⟨deeper, top, nofun⟩
      | closeObject =>
          cases f with
          | array rev => cases step
          | object ms key =>
              obtain rfl := Option.some.inj step
              refine place_sound deeper ?_
              intro other whole
              obtain rfl := Json.object.inj whole
              exact top
      | closeArray => exact absurd rfl other
      | scalar | text | openArray | openObject | colon => cases step

theorem feed_sound (h : b.Sound) (plain : t.Plain) (step : b.feed t = some c) : c.Sound := by
  obtain ⟨stack, expecting, members⟩ := b
  cases expecting with
  | value => exact value_sound h.frames plain step
  | itemOrClose =>
      cases t with
      | closeArray => exact closeArray_sound h (.inl rfl) step
      | scalar | text | openArray | openObject | closeObject | colon | comma =>
          exact value_sound h.frames plain step
  | keyOrClose =>
      cases t with
      | closeObject =>
          obtain rfl := Option.some.inj step
          exact place_sound h.frames distinct_empty
      | text s =>
          obtain rfl := Option.some.inj step
          exact ⟨h.frames, h.members, nofun⟩
      | scalar | openArray | closeArray | openObject | colon | comma => cases step
  | key =>
      cases t with
      | text s =>
          obtain rfl := Option.some.inj step
          exact ⟨h.frames, h.members, nofun⟩
      | scalar | openArray | closeArray | openObject | closeObject | colon | comma => cases step
  | colon key =>
      cases t with
      | colon =>
          obtain rfl := Option.some.inj step
          exact ⟨List.forall_mem_cons.mpr ⟨h.members, h.frames⟩, List.nodup_nil, nofun⟩
      | scalar | text | openArray | closeArray | openObject | closeObject | comma => cases step
  | commaOrClose =>
      by_cases ends : t = .closeArray
      · subst ends
        exact closeArray_sound h (.inr rfl) step
      · exact afterItem_sound h.frames ends step
  | nothing => cases t <;> cases step

end Builder

theorem read?_distinct {s : List Char} {v : Json} (h : Json.read? s = some v) : v.Distinct := by
  obtain ⟨tokens, cut, built⟩ := Option.bind_eq_some_iff.mp h
  have start : (⟨[], .value, []⟩ : Builder).Sound := ⟨nofun, List.nodup_nil, nofun⟩
  have sound : ∀ b, tokens.foldlM Builder.feed ⟨[], .value, []⟩ = some b → b.Sound :=
    fun b run => foldlM_invariant Builder.Sound Token.Plain
      (fun _ _ _ held plain step => Builder.feed_sound held plain step) start (ofText?_plain cut)
      run
  unfold ofTokens? at built
  split at built
  · rename_i run
    obtain rfl := Option.some.inj built
    exact (sound _ run).result _ rfl
  · cases built

end Json

namespace Control.Body

theorem ofText_distinct {text : List Char} {v : Json} (h : ofText text = .ok v) : v.Distinct := by
  unfold ofText at h
  split at h
  · obtain rfl := Except.ok.inj h
    exact Json.distinct_empty
  · dsimp only at h
    split at h
    · rename_i read
      obtain rfl := Except.ok.inj h
      exact Json.read?_distinct read
    · cases h

theorem ofBytes_distinct {charset : Charset} {bytes : ByteArray} {v : Json}
    (h : ofBytes charset bytes = .ok v) : v.Distinct := by
  cases charset with
  | utf8 => exact ofText_distinct h
  | utf7 =>
      simp only [ofBytes] at h
      split at h
      · exact ofText_distinct h
      · cases h
  | utf16 =>
      simp only [ofBytes] at h
      split at h
      · obtain rfl := Except.ok.inj h
        exact Json.distinct_empty
      · cases h

theorem read_distinct {headers : Headers} {bytes : ByteArray} {v : Json}
    (h : read headers bytes = .ok v) : v.Distinct := by
  have plainly : ∀ charset length, readPlain charset length bytes = .ok v → v.Distinct := by
    intro charset length plain
    unfold readPlain at plain
    rcases ite_eq_iff.mp plain with ⟨_, long⟩ | ⟨_, plain⟩
    · cases long
    · cases charset with
      | none => cases plain
      | some charset =>
          rcases ite_eq_iff.mp plain with ⟨_, long⟩ | ⟨_, plain⟩
          · cases long
          · rcases ite_eq_iff.mp plain with ⟨_, read⟩ | ⟨_, incomplete⟩
            · exact ofBytes_distinct read
            · cases incomplete
  unfold read at h
  dsimp only at h
  split at h
  · split at h
    · split at h
      · split at h
        · exact plainly _ _ h
        · split at h <;> cases h
      · cases h
    · obtain rfl := Except.ok.inj h
      exact Json.distinct_empty
  · obtain rfl := Except.ok.inj h
    exact Json.distinct_empty

end Control.Body

/-! ## Overrides -/

namespace Scenario.Overrides

theorem ofMembers?_keys {acc overrides : Overrides} {ms : Members}
    (h : ofMembers? acc ms = .ok overrides) : ∀ m ∈ ms, m.1 = Field.seconds.key := by
  induction ms generalizing acc with
  | nil => exact List.forall_mem_nil _
  | cons m rest ih =>
      obtain ⟨key, v⟩ := m
      simp only [ofMembers?] at h
      split at h
      · rename_i same
        refine List.forall_mem_cons.mpr ⟨same, ?_⟩
        split at h
        · split at h
          · exact ih h
          · cases h
        · cases h
      · cases h

/-- Overrides are read from members in any order, since there is only one that they can have. -/
theorem inOrder_of_accepted {overrides : Overrides} {ms : Members}
    (h : ofMembers? none (Members.inOrder ms) = .ok overrides) : Members.inOrder ms = ms := by
  rcases Members.inOrder_cases ms with same | ⟨m, member, indexed⟩
  · exact same
  · rw [ofMembers?_keys h m member] at indexed
    exact absurd indexed (by decide)

theorem ofMembers?_given {overrides : Overrides} {ms : Members} (distinct : Members.Distinct ms)
    (h : ofMembers? none ms = .ok overrides) :
    overrides.seconds.get? = (ms.lookup Field.seconds.key).bind Json.number? := by
  have keys := ofMembers?_keys h
  cases ms with
  | nil =>
      obtain rfl := Except.ok.inj h
      rfl
  | cons m rest =>
      obtain ⟨key, v⟩ := m
      obtain ⟨absent, _⟩ := List.nodup_cons.mp distinct
      obtain ⟨same, others⟩ := List.forall_mem_cons.mp keys
      have alone : rest = [] := by
        refine List.eq_nil_iff_forall_not_mem.mpr fun other member => absent ?_
        exact List.mem_map.mpr ⟨other, member, (others other member).trans same.symm⟩
      dsimp only at same
      subst alone same
      simp only [ofMembers?, if_true] at h
      split at h
      · split at h
        · obtain rfl := Except.ok.inj h
          rw [List.lookup_cons_self]
          rfl
        · cases h
      · cases h

/-- The overrides that a body gives are what it says about the duration. -/
theorem ofBody?_given {overrides : Overrides} {body : Json} (distinct : body.Distinct)
    (h : ofBody? (some body) = .ok overrides) :
    overrides.seconds.get? = (body.get? Field.seconds.key).bind Json.number? := by
  cases body with
  | null =>
      obtain rfl := Except.ok.inj h
      rfl
  | object ms =>
      have accepted : ofMembers? none (Members.inOrder ms) = .ok overrides := h
      rw [inOrder_of_accepted accepted] at accepted
      exact ofMembers?_given (distinct ms rfl) accepted
  | bool | number | string | array => cases h

end Scenario.Overrides

end Faultline
