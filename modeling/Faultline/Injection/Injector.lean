import Faultline.Injection.Effect
import Faultline.Number.Rounding
import Faultline.State

/-! # Injecting faults

A request claims the first enabled scenario that aims at downloads, which is spent from then on.
What comes of the claim is settled later: at once, or when the delay is over. If the fault does not
come to bear, the flow is put back as it was, and the request goes on its way.
-/

namespace Faultline.Injection

open Exchange Scenario

def component : String := "fault-injector"

/-- Who is told of injected faults. -/
structure Audience where
  /-- Whether the server logs them. -/
  logged : Bool
  /-- The messages of the errors that listeners throw, in the order of the listeners. -/
  throwing : List String

/-- How an injection begins. -/
inductive Begun where
  /-- No scenario is waiting. -/
  | unclaimed
  /-- The fault was tried on the flow. -/
  | tried (claim : Claim) (attempt : Attempt)
  /-- The flow is held back. -/
  | held (claim : Claim) (seconds : Number)

/-- Claims a scenario for a flow and tries its fault. -/
def begin (s : State) (now : Instant) (flow : Flow) : Done State Begun :=
  let claimed := s.claim .download
  match claimed.result with
  | none => .nothing s .unclaimed
  | some enabled =>
    let url := flow.request.url
    let claim : Claim := ⟨enabled, now, url⟩
    let fault := enabled.config.fault
    let triggering := Notice.line component .info "Triggering scenario"
      [("scenario", .string enabled.name), ("action", .string fault.action.name),
        ("url", .string url)]
    match delaySeconds? fault with
    | none => ⟨.tried claim (attempt fault flow), claimed.now, claimed.notices ++ [triggering]⟩
    | some seconds =>
      { result := .held claim seconds
        now := claimed.now
        notices := claimed.notices ++
          [triggering, .line component .info "Delaying request"
            [("seconds", .number seconds), ("url", .string url)]] }

def dueAt (now : Instant) (seconds : Number) : Instant :=
  now.after ((seconds.timesNat 1000).truncate?.getD 0)

/-- Tells the audience of an event, until a listener throws. -/
def tell (audience : Audience) (event : Event) : Except Failure Unit × List Notice :=
  let listeners : Except Failure Unit :=
    match audience.throwing with
    | [] => .ok ()
    | message :: _ => .error (.ofMessage message)
  if audience.logged then
    match event.claim.time.text with
    | .error f => (.error f, [])
    | .ok stamp =>
      (listeners, [.line "server" .info "Injected fault"
        (("timestamp", .string stamp) :: event.facts), .injected event])
  else (listeners, [.injected event])

/-- Puts a flow back as it was, if it lets that be done. -/
def undo (flow : Flow) : Done Flow (Except Failure Unit) :=
  match flow.revert with
  | .ok flow => .nothing flow (.ok ())
  | .error t =>
    match t.wrap with
    | .error f => .nothing flow (.error f)
    | .ok f =>
      ⟨.ok (), flow,
        [.failureLine component "Could not revert flow" f [("url", .string flow.request.url)]]⟩

/-- Settles a claim whose fault was tried. The result is a failure only if a thrown value had no
    text or a listener threw. -/
def settle (audience : Audience) (claim : Claim) (a : Attempt) : Done Flow (Except Failure Unit) :=
  match a.error with
  | none =>
    let (told, notices) := tell audience ⟨claim, none⟩
    ⟨told, a.flow, notices⟩
  | some t =>
    match t.wrap with
    | .error f => .nothing a.flow (.error f)
    | .ok f =>
      let failed := Notice.failureLine component
        "Injection failed, forwarding request unmodified" f
        [("scenario", .string claim.scenario.name)]
      let undone := undo a.flow
      match undone.result with
      | .error f => ⟨.error f, undone.now, failed :: undone.notices⟩
      | .ok () =>
        let (told, notices) := tell audience ⟨claim, some f.message⟩
        ⟨told, undone.now, failed :: undone.notices ++ notices⟩

end Faultline.Injection
