import Faultline.Injection.Event
import Faultline.Log.Line

/-! # Notices

What becomes known while something is done, in the order in which it happens.
-/

namespace Faultline

inductive Notice where
  /-- A line of the log. -/
  | logged (line : Log.Line)
  /-- A fault was injected. -/
  | injected (event : Injection.Event)
  /-- The decoder was given a payload of this many bytes. -/
  | decoding (bytes : Nat)
  deriving DecidableEq

/-- What was done: its result, what it was done to as it is now, and what became known. -/
structure Done (σ α : Type) where
  result : α
  now : σ
  notices : List Notice

namespace Notice

def line (component : String) (level : Log.Level) (message : String) (context : Members) : Notice :=
  .logged ⟨component, level, message, context, none, none⟩

def failureLine (component message : String) (failure : Failure) (context : Members) : Notice :=
  .logged ⟨component, .error, message, context, some (.ofFailure failure), none⟩

def inCourseOf (n : Notice) (correlation : String) : Notice :=
  match n with
  | logged l => .logged { l with correlation := some correlation }
  | n => n

def line? : Notice → Option Log.Line
  | logged l => some l
  | _ => none

def event? : Notice → Option Injection.Event
  | injected e => some e
  | _ => none

def decoded? : Notice → Option Nat
  | decoding n => some n
  | _ => none

end Notice

namespace Done

variable {σ α : Type}

def nothing (now : σ) (result : α) : Done σ α := ⟨result, now, []⟩

/-- Goes on with something else; the notices follow one another. -/
def andThen {β : Type} (d : Done σ α) (next : α → σ → Done σ β) : Done σ β :=
  let e := next d.result d.now
  ⟨e.result, e.now, d.notices ++ e.notices⟩

def map {β : Type} (f : α → β) (d : Done σ α) : Done σ β := ⟨f d.result, d.now, d.notices⟩

def events (d : Done σ α) : List Injection.Event := d.notices.filterMap Notice.event?

@[simp] theorem nothing_result (s : σ) (a : α) : (nothing s a).result = a := rfl
@[simp] theorem nothing_now (s : σ) (a : α) : (nothing s a).now = s := rfl
@[simp] theorem nothing_notices (s : σ) (a : α) : (nothing s a).notices = [] := rfl

section
variable {β : Type}

@[simp] theorem andThen_result (d : Done σ α) (next : α → σ → Done σ β) :
    (d.andThen next).result = (next d.result d.now).result := rfl

@[simp] theorem andThen_now (d : Done σ α) (next : α → σ → Done σ β) :
    (d.andThen next).now = (next d.result d.now).now := rfl

@[simp] theorem andThen_notices (d : Done σ α) (next : α → σ → Done σ β) :
    (d.andThen next).notices = d.notices ++ (next d.result d.now).notices := rfl

@[simp] theorem map_result (f : α → β) (d : Done σ α) : (d.map f).result = f d.result := rfl
@[simp] theorem map_now (f : α → β) (d : Done σ α) : (d.map f).now = d.now := rfl
@[simp] theorem map_notices (f : α → β) (d : Done σ α) : (d.map f).notices = d.notices := rfl

end

@[simp] theorem events_nothing (s : σ) (a : α) : (nothing s a).events = [] := rfl

@[simp] theorem events_andThen {β : Type} (d : Done σ α) (next : α → σ → Done σ β) :
    (d.andThen next).events = d.events ++ (next d.result d.now).events := by
  simp only [events, andThen_notices, List.filterMap_append]

@[simp] theorem events_map {β : Type} (f : α → β) (d : Done σ α) :
    (d.map f).events = d.events := rfl

end Done

end Faultline
