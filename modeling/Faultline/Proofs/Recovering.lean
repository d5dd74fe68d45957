import Faultline.Proofs.Calendar
import Faultline.Proofs.Documents
import Faultline.Proofs.Listing
import Mathlib.Data.List.Forall2

/-! # What is written can be recovered

Records whose times have a written form have different documents
(`Call.Record.document_injective`), so whoever asks for the calls can tell any two histories apart
(`documents_lose_nothing`). Once every parameter of a configuration is given, the configuration is
read back from its document (`Scenario.Config.ofDocument?_complete`).
-/

namespace Faultline

/-! ## Records -/

namespace Call.Record

/-- A record that can be written, and its document. -/
def Writes (r : Record) (shown : Json) : Prop := r.time.inRange ∧ r.document = .ok shown

theorem document_injective {a b : Record} (ha : a.time.inRange) (hb : b.time.inRange)
    (same : a.document = b.document) : a = b := by
  simp only [document, Instant.text_written ha, Instant.text_written hb, Except.map,
    Except.ok.injEq] at same
  cases a with
  | thrift time method messageType sequenceId fields =>
      cases b with
      | thrift time' method' messageType' sequenceId' fields' =>
          simp only [Json.object.injEq, List.cons.injEq, Prod.mk.injEq, Json.string.injEq,
            Json.number.injEq, true_and, and_true] at same
          obtain ⟨stamp, rfl, rfl, rfl, rfl⟩ := same
          obtain rfl := Instant.write_injective ha hb (String.ofList_injective stamp)
          rfl
      -- The types differ.
      | download time' url' => simp at same
  | download time url =>
      cases b with
      | thrift time' method' messageType' sequenceId' fields' => simp at same
      | download time' url' =>
          simp only [Json.object.injEq, List.cons.injEq, Prod.mk.injEq, Json.string.injEq,
            true_and, and_true] at same
          obtain ⟨stamp, rfl⟩ := same
          obtain rfl := Instant.write_injective ha hb (String.ofList_injective stamp)
          rfl

theorem writes_biUnique : Relator.BiUnique Writes := by
  constructor
  · intro a b shown first second
    exact document_injective first.1 second.1 (first.2.trans second.2.symm)
  · intro r v w first second
    exact Except.ok.inj (first.2.symm.trans second.2)

theorem exists_writes {r : Record} (written : r.time.inRange) : ∃ shown, r.Writes shown := by
  obtain ⟨shown, document⟩ := document_ok written
  exact ⟨shown, written, document⟩

end Call.Record

/-! ## Listings -/

namespace Control

/-- Whoever asks for the calls is told these, and they are the documents of the records. -/
structure Lists (s : State) (calls : List Json) : Prop where
  each : List.Forall₂ Faultline.Call.Record.Writes s.history.records calls
  told : Tells s (callListing calls s.history.capacity)

theorem exists_lists {s : State} (written : ∀ r ∈ s.history.records, r.time.inRange) :
    ∃ calls, Lists s calls := by
  obtain ⟨calls, mapped, each⟩ := documents_ok written
  exact ⟨calls, (List.forall₂_and_left _ _).mpr ⟨written, each⟩, tells_calls mapped⟩

end Control

/-! ## Configurations -/

namespace Scenario

/-- The parameters that an action takes, as documents name them. -/
def Action.parameterKeys : Action → List String
  | .returnError => ["error_code", "error_message"]
  | .delay => [Overrides.Field.seconds.key]
  | .expireLink | .closeConnection => []

namespace Config

def commonKeys : List String := ["description", "operation", "action"]

/-- The fault that a document describes, with all the parameters of its action. -/
def readFault? (v : Json) : Action → Option Fault
  | .returnError => do
    let status ← (v.get? "error_code").bind Json.number?
    let message ← (v.get? "error_message").bind Json.string?
    some (.returnError (.given status) (.given message))
  | .delay => do
    let seconds ← (v.get? Overrides.Field.seconds.key).bind Json.number?
    some (.delay (.given seconds))
  | .expireLink => some .expireLink
  | .closeConnection => some .closeConnection

/-- Reads a configuration in which no parameter is left out. -/
def ofDocument? (v : Json) : Option Config := do
  let description ← (v.get? "description").bind Json.string?
  let operation ← ((v.get? "operation").bind Json.string?).bind Operation.ofName?
  let action ← ((v.get? "action").bind Json.string?).bind Action.ofName?
  let fault ← readFault? v action
  some ⟨description, operation, fault⟩

/-- Everything that a configuration says is in its document, and no parameter of another action. -/
structure IsShown (c : Config) : Prop where
  recovered : ofDocument? c.document = some c
  keys : ∀ key, (c.document.get? key).isSome = true ↔
    key ∈ commonKeys ++ c.fault.action.parameterKeys

theorem ofDocument?_complete (c : Config) (overrides : Overrides) :
    ofDocument? (c.complete overrides).document = some (c.complete overrides) := by
  obtain ⟨description, operation, fault⟩ := c
  cases operation <;> cases fault <;> rfl

/-- The members of a document are the common ones and then the parameters of the action. -/
theorem keys_complete (c : Config) (overrides : Overrides) :
    ((c.complete overrides).commonMembers ++ (c.complete overrides).parameters "error_code"
        "error_message" Overrides.Field.seconds.key).map (·.1) =
      commonKeys ++ (c.complete overrides).fault.action.parameterKeys := by
  obtain ⟨description, operation, fault⟩ := c
  cases fault <;> rfl

theorem complete_isShown (c : Config) (overrides : Overrides) :
    (c.complete overrides).IsShown := by
  refine ⟨ofDocument?_complete c overrides, ?_⟩
  intro key
  rw [← keys_complete]
  exact Members.lookup_isSome

theorem IsShown.injective {c d : Config} (hc : c.IsShown) (hd : d.IsShown)
    (same : c.document = d.document) : c = d :=
  Option.some.inj (hc.recovered.symm.trans (same ▸ hd.recovered))

end Config

end Scenario

/-! ## Nothing is lost -/

/-- Documents of records are the same, and so are listings of histories and documents of
    configurations, only if what they were made of is. -/
theorem documents_lose_nothing {a b : Call.Record} (ha : a.time.inRange) (hb : b.time.inRange)
    {s s' : State} (hs : ∀ r ∈ s.history.records, r.time.inRange)
    (hs' : ∀ r ∈ s'.history.records, r.time.inRange) (c d : Scenario.Config)
    (overrides overrides' : Scenario.Overrides) :
    (∃ v w, a.document = .ok v ∧ b.document = .ok w ∧ (v = w ↔ a = b)) ∧
      (∃ calls calls', Control.Lists s calls ∧ Control.Lists s' calls' ∧
        (calls = calls' ↔ s.history.records = s'.history.records)) ∧
      (c.complete overrides).IsShown ∧
      ((c.complete overrides).document = (d.complete overrides').document ↔
        c.complete overrides = d.complete overrides') := by
  refine ⟨?records, ?listings, ?shown, ?configs⟩
  case records =>
    obtain ⟨v, first⟩ := Call.Record.exists_writes ha
    obtain ⟨w, second⟩ := Call.Record.exists_writes hb
    have same := Relator.rel_eq Call.Record.writes_biUnique first second
    exact ⟨v, w, first.2, second.2, same.symm⟩
  case listings =>
    obtain ⟨calls, lists⟩ := Control.exists_lists hs
    obtain ⟨calls', lists'⟩ := Control.exists_lists hs'
    have same := Relator.rel_eq Call.Record.writes_biUnique.forall₂ lists.each lists'.each
    exact ⟨calls, calls', lists, lists', same.symm⟩
  case shown => exact c.complete_isShown overrides
  case configs =>
    have shown := c.complete_isShown overrides
    exact ⟨shown.injective (d.complete_isShown overrides'), congrArg Scenario.Config.document⟩

/-- A call at the first moment that can be written, in the year -271821. -/
def earlyCall : Call.Record := .thrift ⟨-8640000000000000⟩ "OpenSession" "CALL" (.ofNat 1) .empty

/-- A download at the last moment that can be written. -/
def lateDownload : Call.Record := .download ⟨8640000000000000⟩ "http://bucket.s3.amazonaws.com/part"

/-- A state that remembers these calls and no scenarios. -/
def remembering (records : List Call.Record) : State := ⟨[], ⟨2, records, 0⟩⟩

/-- A scenario that holds downloads back as long as it is told to. -/
def holding (seconds : Supplied Number) : Scenario.Config :=
  ⟨"Holds downloads back", .download, .delay seconds⟩

theorem documents_lose_nothing_at_the_limits :
    earlyCall.time.inRange ∧ lateDownload.time.inRange ∧
      (∀ r ∈ (remembering [earlyCall, lateDownload]).history.records, r.time.inRange) ∧
      (∀ r ∈ (remembering [lateDownload, earlyCall]).history.records, r.time.inRange) ∧
      (∃ v w, earlyCall.document = .ok v ∧ lateDownload.document = .ok w ∧ v ≠ w) ∧
      (∃ calls calls', Control.Lists (remembering [earlyCall, lateDownload]) calls ∧
        Control.Lists (remembering [lateDownload, earlyCall]) calls' ∧ calls ≠ calls') ∧
      ((holding .absent).complete .none).document ≠
        ((holding .absent).complete ⟨.given (.ofNat 6)⟩).document := by
  have early : earlyCall.time.inRange := by decide
  have late : lateDownload.time.inRange := by decide
  have written : ∀ r ∈ (remembering [earlyCall, lateDownload]).history.records,
      r.time.inRange := by
    simp [remembering, early, late]
  have turned : ∀ r ∈ (remembering [lateDownload, earlyCall]).history.records,
      r.time.inRange := by
    simp [remembering, early, late]
  obtain ⟨⟨v, w, first, second, records⟩, ⟨calls, calls', lists, lists', histories⟩, _, configs⟩ :=
    documents_lose_nothing early late written turned (holding .absent) (holding .absent) .none
      ⟨.given (.ofNat 6)⟩
  refine ⟨early, late, written, turned, ⟨v, w, first, second, ?_⟩,
    ⟨calls, calls', lists, lists', ?_⟩, ?_⟩
  · intro same
    exact absurd (records.mp same) (by decide)
  · intro same
    exact absurd (histories.mp same) (by decide)
  · intro same
    exact absurd (configs.mp same) (by decide)

end Faultline
