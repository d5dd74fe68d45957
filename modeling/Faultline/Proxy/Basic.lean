import Faultline.Exchange.Backend
import Faultline.Injection.Injector

/-! # The proxy

The proxy at one moment: the shared state, the clock, and every flow that has passed through it.
Flows that a delay holds back wait in the order in which they are due, and those due at one moment
in the order in which they came.
-/

namespace Faultline

open Exchange Injection

/-- What an exchange needs besides its flow. -/
structure Errand where
  /-- The request target as the client sent it. -/
  rawTarget : String
  route : Route
  backend : Backend

/-- Why a flow passes through the proxy. -/
inductive Purpose where
  /-- Only the request hook is run. -/
  | hook
  /-- Only a fault is injected. -/
  | injection
  /-- The request is answered or sent on after its hook. -/
  | exchange (errand : Errand)

/-- One flow on its way through the proxy. -/
structure Passage where
  flow : Flow
  purpose : Purpose
  /-- The scenario that was injected. -/
  scenario : Option String
  /-- What was thrown at whoever asked for an injection. -/
  rejection : Option Failure
  finished : Bool
  ending : Option Ending

/-- A flow that is held back. -/
structure Suspension where
  due : Instant
  /-- The place of the flow among the passages. -/
  passage : Nat
  claim : Claim

/-- The proxy at one moment. -/
structure Proxy where
  state : State
  clock : Instant
  /-- When the program was started. -/
  started : Instant
  decoder : Option Call.Decoder
  audience : Audience
  passages : List Passage
  suspended : List Suspension

namespace Proxy

def fresh (state : State) (decoder : Option Call.Decoder) (now : Instant) (logged : Bool) : Proxy :=
  ⟨state, now, now, decoder, ⟨logged, []⟩, [], []⟩

/-- Puts a suspension behind those that are due no later. -/
def enqueue (s : Suspension) : List Suspension → List Suspension
  | [] => [s]
  | t :: rest => if s.due.ms < t.due.ms then s :: t :: rest else t :: enqueue s rest

def modify (p : Proxy) (id : Nat) (f : Passage → Passage) : Proxy :=
  { p with passages := p.passages.modify id f }

def withState {α : Type} (p : Proxy) (act : State → Done State α) : Done Proxy α :=
  let d := act p.state
  ⟨d.result, { p with state := d.now }, d.notices⟩

end Proxy

end Faultline
