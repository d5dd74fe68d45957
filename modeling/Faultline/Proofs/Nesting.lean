import Faultline.CriticalSection

/-! # Nested critical sections

What a body does is told without the section that it runs in (`SectionBody.Goes`): the moments at
which a body is in charge, and what the outermost one returns or throws in the end. A run in a
section goes the same way, is inside the section at each of these moments, and leaves the section
as deep as it was, with one more entry for each body that was entered
(`section_always_released`).
-/

namespace Faultline

/-! ## What bodies do by themselves -/

/-- What a run comes to whose body comes to `own`. -/
inductive SectionBody.Passes : (own result : Except Failure HostValue) → Prop
  | returned {v : HostValue} (plain : v.isPromiseLike = false) : Passes (.ok v) (.ok v)
  | promised {v : HostValue} (later : v.isPromiseLike = true) :
      Passes (.ok v) (.error .asynchronous)
  | failed {f : Failure} : Passes (.error f) (.error f)

/-- A moment at which a body is in charge. -/
inductive SectionBody.Moment where
  | entered
  /-- A body inside has completed, or its failure has been caught. -/
  | resumed
  deriving DecidableEq

mutual

/-- The moments in the course of a body, and what the body returns or throws in the end. -/
inductive SectionBody.Goes : SectionBody → List Moment → Except Failure HostValue → Prop
  | completes {inner : List SectionStep} {moments : List Moment} {last : HostValue}
      (inside : GoesThrough inner (.document .null) moments (.ok last)) (ending : SectionEnd) :
      Goes (.mk inner ending) (.entered :: moments) (CriticalSection.ended last ending)
  | breaks {inner : List SectionStep} {moments : List Moment} {f : Failure}
      (inside : GoesThrough inner (.document .null) moments (.error f)) (ending : SectionEnd) :
      Goes (.mk inner ending) (.entered :: moments) (.error f)

/-- The same for bodies that are run one after the other: they come to what the last one returned,
    or to the first failure that is not caught. -/
inductive SectionBody.GoesThrough :
    List SectionStep → HostValue → List Moment → Except Failure HostValue → Prop
  | done (last : HostValue) : GoesThrough [] last [] (.ok last)
  | returns {body : SectionBody} {moments later : List Moment}
      {own result : Except Failure HostValue} {v : HostValue} {rest : List SectionStep}
      (goes : Goes body moments own) (passes : Passes own (.ok v))
      (through : GoesThrough rest v later result) (catching : Option SectionCatch)
      (last : HostValue) :
      GoesThrough ((catching, body) :: rest) last (moments ++ .resumed :: later) result
  | catches {body : SectionBody} {moments later : List Moment}
      {own result : Except Failure HostValue} {f : Failure} {rest : List SectionStep}
      (goes : Goes body moments own) (passes : Passes own (.error f))
      {goOn : SectionCatch} (through : GoesThrough rest (goOn f) later result) (last : HostValue) :
      GoesThrough ((some goOn, body) :: rest) last (moments ++ .resumed :: later) result
  | propagates {body : SectionBody} {moments : List Moment} {own : Except Failure HostValue}
      {f : Failure} (goes : Goes body moments own) (passes : Passes own (.error f))
      (rest : List SectionStep) (last : HostValue) :
      GoesThrough ((none, body) :: rest) last moments (.error f)

end

namespace SectionBody

theorem passes_iff {own result : Except Failure HostValue} :
    Passes own result ↔ own.bind CriticalSection.checked = result := by
  constructor
  · intro passes
    cases passes with
    | returned plain => simp [Except.bind, CriticalSection.checked, plain]
    | promised later => simp [Except.bind, CriticalSection.checked, later]
    | failed => rfl
  · rintro rfl
    cases own with
    | error f => exact .failed
    | ok v =>
        cases later : v.isPromiseLike with
        | true => simpa [Except.bind, CriticalSection.checked, later] using Passes.promised later
        | false => simpa [Except.bind, CriticalSection.checked, later] using Passes.returned later

theorem Passes.unique {own first second : Except Failure HostValue} (one : Passes own first)
    (other : Passes own second) : first = second :=
  (passes_iff.mp one).symm.trans (passes_iff.mp other)

mutual

theorem exists_goes : (body : SectionBody) → ∃ moments own, body.Goes moments own
  | .mk inner ending => by
      obtain ⟨moments, result, inside⟩ := exists_goesThrough inner (.document .null)
      cases result with
      | ok last => exact ⟨_, _, .completes inside ending⟩
      | error f => exact ⟨_, _, .breaks inside ending⟩

theorem exists_goesThrough : (inner : List SectionStep) → (last : HostValue) →
    ∃ moments result, GoesThrough inner last moments result
  | [], last => ⟨_, _, .done last⟩
  | (catching, body) :: rest, last => by
      obtain ⟨moments, own, goes⟩ := exists_goes body
      have passes := passes_iff.mpr (Eq.refl (own.bind CriticalSection.checked))
      cases came : own.bind CriticalSection.checked with
      | ok v =>
          rw [came] at passes
          obtain ⟨later, result, through⟩ := exists_goesThrough rest v
          exact ⟨_, _, .returns goes passes through catching last⟩
      | error f =>
          rw [came] at passes
          cases catching with
          | some goOn =>
              obtain ⟨later, result, through⟩ := exists_goesThrough rest (goOn f)
              exact ⟨_, _, .catches goes passes through last⟩
          | none => exact ⟨_, _, .propagates goes passes rest last⟩

end

mutual

theorem Goes.unique {body : SectionBody} {moments others : List Moment}
    {own other : Except Failure HostValue} (one : body.Goes moments own)
    (two : body.Goes others other) : moments = others ∧ own = other := by
  cases one with
  | completes inside ending =>
      cases two with
      | completes inside' =>
          obtain ⟨rfl, same⟩ := inside.unique inside'
          obtain rfl := Except.ok.inj same
          exact ⟨rfl, rfl⟩
      | breaks inside' => cases (inside.unique inside').2
  | breaks inside ending =>
      cases two with
      | completes inside' => cases (inside.unique inside').2
      | breaks inside' =>
          obtain ⟨rfl, same⟩ := inside.unique inside'
          obtain rfl := Except.error.inj same
          exact ⟨rfl, rfl⟩

theorem GoesThrough.unique {inner : List SectionStep} {last : HostValue}
    {moments others : List Moment} {result other : Except Failure HostValue}
    (one : GoesThrough inner last moments result) (two : GoesThrough inner last others other) :
    moments = others ∧ result = other := by
  cases one with
  | done =>
      cases two with
      | done => exact ⟨rfl, rfl⟩
  | returns goes passes through =>
      cases two with
      | returns goes' passes' through' =>
          obtain ⟨rfl, rfl⟩ := goes.unique goes'
          obtain rfl := Except.ok.inj (passes.unique passes')
          obtain ⟨rfl, rfl⟩ := through.unique through'
          exact ⟨rfl, rfl⟩
      | catches goes' passes' | propagates goes' passes' =>
          obtain ⟨rfl, rfl⟩ := goes.unique goes'
          cases passes.unique passes'
  | catches goes passes through =>
      cases two with
      | returns goes' passes' =>
          obtain ⟨rfl, rfl⟩ := goes.unique goes'
          cases passes.unique passes'
      | catches goes' passes' through' =>
          obtain ⟨rfl, rfl⟩ := goes.unique goes'
          obtain rfl := Except.error.inj (passes.unique passes')
          obtain ⟨rfl, rfl⟩ := through.unique through'
          exact ⟨rfl, rfl⟩
  | propagates goes passes =>
      cases two with
      | returns goes' passes' =>
          obtain ⟨rfl, rfl⟩ := goes.unique goes'
          cases passes.unique passes'
      | propagates goes' passes' =>
          obtain ⟨rfl, rfl⟩ := goes.unique goes'
          obtain rfl := Except.error.inj (passes.unique passes')
          exact ⟨rfl, rfl⟩

end

end SectionBody

/-! ## Runs in a section -/

namespace CriticalSection

open SectionBody

variable {s : CriticalSection}

theorem enter_held (s : CriticalSection) : s.enter.isHeld = true := by
  simp [enter, isHeld]

/-- The section with `n` more entries, as deep as before. -/
def counting (s : CriticalSection) (n : Nat) : CriticalSection := ⟨s.depth, s.entries + n⟩

theorem counting_counting (s : CriticalSection) (m n : Nat) :
    (s.counting m).counting n = s.counting (m + n) := by
  simp [counting, Nat.add_assoc]

theorem enter_counting_leave (s : CriticalSection) (n : Nat) :
    (s.enter.counting n).leave = s.counting (n + 1) := by
  simp only [enter, counting, leave, Nat.add_sub_cancel, mk.injEq, true_and]
  omega

/-- A run that has the given moments, is inside the section at each of them and counts those at
    which a body is entered. -/
def course (s : CriticalSection) (moments : List Moment) (result : Except Failure HostValue) :
    Run :=
  ⟨result, s.counting (moments.count .entered), List.replicate moments.length true⟩

theorem course_result (moments : List Moment) (result : Except Failure HostValue) :
    (s.course moments result).result = result := rfl

theorem course_held (held : s.isHeld = true) (moments : List Moment)
    (result : Except Failure HostValue) : (s.course moments result).after.isHeld = true := held

/-- A course that goes on in the section that an earlier one leaves. -/
theorem course_resumed (held : s.isHeld = true) (moments later : List Moment)
    (before result : Except Failure HostValue) :
    let first := s.course moments before
    let more := first.after.course later result
    s.course (moments ++ .resumed :: later) result =
      { more with held := first.held ++ first.after.isHeld :: more.held } := by
  simp only [course_held held]
  simp [course, counting_counting, ← List.replicate_succ]

mutual

/-- A run in a section goes as its body does by itself. -/
theorem run_goes {body : SectionBody} {moments : List Moment} {own : Except Failure HostValue}
    (goes : body.Goes moments own) (s : CriticalSection) :
    s.run body = s.course moments (own.bind checked) := by
  cases goes with
  | completes inside ending =>
      have within := runAll_goes inside (enter_held s)
      simp [run, within, course, enter_counting_leave, enter_held, Except.bind,
        List.replicate_succ]
  | breaks inside ending =>
      have within := runAll_goes inside (enter_held s)
      simp [run, within, course, enter_counting_leave, enter_held, Except.bind,
        List.replicate_succ]

theorem runAll_goes {inner : List SectionStep} {last : HostValue} {moments : List Moment}
    {result : Except Failure HostValue} {s : CriticalSection}
    (through : GoesThrough inner last moments result) (held : s.isHeld = true) :
    s.runAll last inner = s.course moments result := by
  cases through with
  | done => rfl
  | @returns _ moments _ _ _ v _ goes passes later =>
      have first := run_goes goes s
      rw [passes_iff.mp passes] at first
      have next := runAll_goes later (course_held held moments (.ok v))
      simp only [runAll, first, course_result, next, course_resumed held moments _ (.ok v)]
  | @catches _ moments _ _ _ f _ goes passes _ later =>
      have first := run_goes goes s
      rw [passes_iff.mp passes] at first
      have next := runAll_goes later (course_held held moments (.error f))
      simp only [runAll, first, course_result, next, course_resumed held moments _ (.error f)]
  | propagates goes passes =>
      have first := run_goes goes s
      rw [passes_iff.mp passes] at first
      simp only [runAll, first]
      rfl

end

theorem bind_checked_ok_iff {own : Except Failure HostValue} {v : HostValue} :
    own.bind checked = .ok v ↔ own = .ok v ∧ v.isPromiseLike = false := by
  rw [← passes_iff]
  constructor
  · intro passes
    cases passes with
    | returned plain => exact ⟨rfl, plain⟩
  · rintro ⟨rfl, plain⟩
    exact .returned plain

theorem bind_checked_error_iff {own : Except Failure HostValue} {f : Failure} :
    own.bind checked = .error f ↔
      own = .error f ∨ (∃ v, own = .ok v ∧ v.isPromiseLike = true) ∧ f = .asynchronous := by
  rw [← passes_iff]
  constructor
  · intro passes
    cases passes with
    | promised later => exact .inr ⟨⟨_, rfl, later⟩, rfl⟩
    | failed => exact .inl rfl
  · rintro (rfl | ⟨⟨v, rfl, later⟩, rfl⟩)
    · exact .failed
    · exact .promised later

/-- However a body and the bodies inside it end, the section is held at each moment at which one of
    them is in charge. Afterwards it is as deep as it was, and has one more entry for each body that
    was entered. A run returns what its body returned, unless that is a promise, and fails
    otherwise, with the body's own failure if there is one. -/
theorem section_always_released (s : CriticalSection) (body : SectionBody) :
    ∃ moments own, (∀ others other, body.Goes others other ↔ others = moments ∧ other = own) ∧
      (s.run body).held = List.replicate moments.length true ∧
      (s.run body).after.depth = s.depth ∧
      (s.run body).after.entries = s.entries + moments.count .entered ∧
      (∀ v, (s.run body).result = .ok v ↔ own = .ok v ∧ v.isPromiseLike = false) ∧
      ∀ f, (s.run body).result = .error f ↔
        own = .error f ∨ (∃ v, own = .ok v ∧ v.isPromiseLike = true) ∧ f = .asynchronous := by
  obtain ⟨moments, own, goes⟩ := exists_goes body
  refine ⟨moments, own, ?_, ?_⟩
  · intro others other
    constructor
    · intro elsewhere
      exact elsewhere.unique goes
    · rintro ⟨rfl, rfl⟩
      exact goes
  · rw [run_goes goes s]
    exact ⟨rfl, rfl, rfl, fun _ => bind_checked_ok_iff, fun _ => bind_checked_error_iff⟩

/-- A promise inside is caught, the failure behind it is not, and the body after that is not
    entered. -/
def stumbling : SectionBody :=
  .nested [(true, .value (.special true)), (false, .nested [(false, .failure "lost")]),
    (false, .value .missing)]

example : fresh.run stumbling = ⟨.error (.ofMessage "lost"), ⟨0, 4⟩, List.replicate 5 true⟩ := rfl

end CriticalSection

end Faultline
