import Faultline.Proofs.RoundTrip

/-! # Whose fault it is

What is wrong with the body of a request is the client's fault, and the answer says what it is. The
one exception is a verification of an unknown kind: the answer quotes the kind, and a kind that has
no text cannot be quoted. It is answered as a fault of the program (`client_blamed_iff`).
-/

namespace Faultline

/-! ## Rejections -/

/-- A rejection in no words and under no code of its own. -/
def Rejection.IsPlain : Rejection → Prop
  | .missing _ | .format .. | .unknownField .. | .value .. | .several _ => True
  | .other .. => False

theorem Rejection.IsPlain.status {r : Rejection} (h : r.IsPlain) :
    (Failure.rejected r).status = 400 := by
  cases r with
  | missing | format | unknownField | value | several => rfl
  | other => exact absurd h id

/-- A check that rejects nothing but plainly. -/
def Plainly {α : Type} (checked : Except Rejection α) : Prop :=
  ∀ r, checked = .error r → r.IsPlain

namespace Plainly

variable {α β : Type}

theorem ok (a : α) : Plainly (.ok a) := nofun

theorem error {r : Rejection} (h : r.IsPlain) : Plainly (.error r : Except Rejection α) := by
  intro other same
  rwa [← Except.error.inj same]

theorem bind {checked : Except Rejection α} {next : α → Except Rejection β} (h : Plainly checked)
    (k : ∀ a, Plainly (next a)) : Plainly (checked >>= next) := by
  cases checked with
  | error r => exact error (h r rfl)
  | ok a => exact k a

theorem map {checked : Except Rejection α} (h : Plainly checked) (f : α → β) :
    Plainly (checked.map f) := by
  cases checked with
  | error r => exact error (h r rfl)
  | ok a => exact ok (f a)

end Plainly

/-! ## Verification requests -/

namespace Verification.Request

theorem require_plainly (ms : Members) (key : String) : Plainly (require ms key) := by
  unfold require
  split
  · exact .error trivial
  · exact .error trivial
  · exact .ok _

theorem readMethods_plainly (ms : Members) : Plainly (readMethods ms) := by
  refine (require_plainly ms "methods").bind fun v => ?_
  split
  · exact .ok _
  · exact .error trivial

theorem readMethod_plainly (ms : Members) : Plainly (readMethod ms) := by
  refine (require_plainly ms "method").bind fun v => ?_
  split
  · split
    · exact .error trivial
    · exact .ok _
  · exact .error trivial

theorem readCount_plainly (ms : Members) : Plainly (readCount ms) := by
  refine (require_plainly ms "count").bind fun v => ?_
  split
  · split
    · exact .ok _
    · exact .error trivial
  · exact .error trivial

theorem ofKind?_plainly {ms : Members} {name : String} {checked : Except Rejection Request}
    (h : ofKind? ms name = some checked) : Plainly checked := by
  unfold ofKind? at h
  split at h
  · obtain rfl := Option.some.inj h
    exact (readMethods_plainly ms).map _
  · split at h
    · obtain rfl := Option.some.inj h
      exact (readMethods_plainly ms).map _
    · split at h
      · obtain rfl := Option.some.inj h
        exact (readMethod_plainly ms).bind fun method =>
          (readCount_plainly ms).bind fun count => .ok _
      · split at h
        · obtain rfl := Option.some.inj h
          exact (readMethod_plainly ms).map _
        · cases h

theorem ofKind?_none {ms : Members} {name : String} (unknown : name ∉ kindNames) :
    ofKind? ms name = none := by
  simp only [kindNames, List.mem_cons, List.not_mem_nil, or_false, not_or] at unknown
  obtain ⟨exact_, contained, count, occurs⟩ := unknown
  simp only [ofKind?, exact_, contained, count, occurs, if_false]

/-- A kind is given that has no text. -/
def Unquotable (body : Json) : Prop := ∃ kind, body.get? "type" = some kind ∧ kind.text? = none

theorem unknownKind_quoted {kind : Json} {text : String} (quoted : kind.text? = some text) :
    unknownKind kind =
      .ok (.error (.value "verification type" (some kind) text kindNames)) := by
  simp only [unknownKind, Rejection.ofValue, textOf, quoted]
  rfl

theorem ofBody?_unquotable {body : Json} (h : Unquotable body) :
    ofBody? (some body) = .error .noText := by
  obtain ⟨kind, given, mute⟩ := h
  cases body with
  | object ms =>
      have found : ms.lookup "type" = some kind := given
      simp only [ofBody?, found]
      cases kind with
      | null | bool | number | string => cases mute
      | array items | object members =>
          simp only [unknownKind, Rejection.ofValue, textOf, mute]
          rfl
  | null | bool | number | string | array => cases given

/-- A kind that has a text, or none at all, is accepted or rejected plainly. -/
theorem ofBody?_quotable {body : Json} (h : ¬ Unquotable body) :
    ∃ checked, ofBody? (some body) = .ok checked ∧ Plainly checked := by
  cases body with
  | object ms =>
      have unknown : ∀ kind, ms.lookup "type" = some kind →
          ∃ checked, unknownKind kind = .ok checked ∧ Plainly checked := by
        intro kind found
        cases quoted : kind.text? with
        | none => exact absurd ⟨kind, found, quoted⟩ h
        | some text => exact ⟨_, unknownKind_quoted quoted, .error trivial⟩
      unfold ofBody?
      dsimp only
      split
      · exact ⟨_, rfl, .error trivial⟩
      · exact ⟨_, rfl, .error trivial⟩
      · exact ⟨_, rfl, .error trivial⟩
      · rename_i found
        split
        · rename_i known
          exact ⟨_, rfl, ofKind?_plainly known⟩
        · exact unknown _ found
      · rename_i found
        exact unknown _ found
  | null | bool | number | string | array => exact ⟨_, rfl, .error trivial⟩

/-- Whatever else a body says, it is no request if its kind is none of the four. -/
theorem ofBody?_other {body : Json}
    (other : ∀ name ∈ kindNames, body.get? "type" ≠ some (.string name)) (request : Request) :
    ofBody? (some body) ≠ .ok (.ok request) := by
  have unknown : ∀ kind, unknownKind kind ≠ .ok (.ok request) := by
    intro kind
    unfold unknownKind Rejection.ofValue
    cases textOf (some kind) <;> exact nofun
  cases body with
  | object ms =>
      unfold ofBody?
      dsimp only
      split
      · exact nofun
      · exact nofun
      · exact nofun
      · rename_i name _ found
        have alien : name ∉ kindNames := fun known => other name known found
        rw [ofKind?_none alien]
        exact unknown _
      · exact unknown _
  | null | bool | number | string | array => exact nofun

end Verification.Request

/-! ## Overrides -/

namespace Scenario

theorem Overrides.ofMembers?_plainly (acc : Overrides) (ms : Members) :
    Plainly (ofMembers? acc ms) := by
  induction ms generalizing acc with
  | nil => exact .ok acc
  | cons m rest ih =>
      simp only [ofMembers?]
      split
      · split
        · split
          · exact ih _
          · exact .error trivial
        · exact .error trivial
      · exact .error trivial

theorem Overrides.ofBody?_plainly (body : Option Json) : Plainly (ofBody? body) := by
  unfold ofBody?
  split
  · exact .ok _
  · exact .ok _
  · exact ofMembers?_plainly _ _
  · exact .error trivial

theorem Overrides.refusedBy?_plain {overrides : Overrides} {action : Action} {r : Rejection}
    (h : overrides.refusedBy? action = some r) : r.IsPlain := by
  unfold refusedBy? at h
  split at h
  · obtain rfl := Option.some.inj h
    trivial
  · cases h

/-- What can be wrong with the enabling of a scenario: it does not exist, or does not take the
    overrides. -/
theorem Registry.configFor?_error {r : Registry} {name : String} {overrides : Overrides}
    {f : Failure} (h : r.configFor? name overrides = .error f) :
    f.status = 400 ∨ f.status = 404 := by
  unfold configFor? at h
  split at h
  · obtain rfl := Except.error.inj h
    exact .inr rfl
  · dsimp only at h
    split at h
    · rename_i refused
      obtain rfl := Except.error.inj h
      exact .inl (Overrides.refusedBy?_plain refused).status
    · cases h

end Scenario

/-! ## Answers -/

namespace Control

/-- A reply of success, or a refusal that puts the blame on the client. -/
def Reply.IsFair (reply : Reply) : Prop :=
  reply.status = .ofNat 200 ∨ ∃ f, reply = .refusal f ∧ (f.status = 400 ∨ f.status = 404)

/-- The body that a call looks into. -/
def Call.body? : Call → Option Json
  | .enable _ body | .verify body => body
  | .list | .disable _ | .status _ | .disableAll | .calls | .reset | .health => none

/-- A verification of a kind that has no text. -/
def Call.Unquotable : Call → Prop
  | .verify (some body) => Verification.Request.Unquotable body
  | .verify none | .enable .. | .list | .disable _ | .status _ | .disableAll | .calls | .reset
  | .health => False

theorem enableScenario_fair (g : Setting) (s : State) (name : String) (body : Option Json) :
    ∃ reply, (enableScenario g s name body).result = .ok reply ∧ reply.IsFair := by
  unfold enableScenario
  dsimp only
  split
  · cases read : Scenario.Overrides.ofBody? body with
    | error reason =>
        have plain := Scenario.Overrides.ofBody?_plainly body reason read
        exact ⟨_, rfl, .inr ⟨_, rfl, .inl plain.status⟩⟩
    | ok overrides =>
        dsimp only
        rcases s.enable_cases name overrides with ⟨f, config, refused, _⟩ | ⟨c, _, done, _⟩
        · simp only [refused]
          exact ⟨_, rfl, .inr ⟨f, rfl, Scenario.Registry.configFor?_error config⟩⟩
        · simp only [done]
          exact ⟨_, rfl, .inl rfl⟩
  · exact ⟨_, rfl, .inr ⟨_, rfl, .inr rfl⟩⟩

theorem verifyCalls_unquotable (g : Setting) (s : State) {body : Json}
    (h : Verification.Request.Unquotable body) :
    (verifyCalls g s (some body)).result = .error .noText := by
  unfold verifyCalls
  dsimp only
  rw [Verification.Request.ofBody?_unquotable h]
  rfl

theorem verifyCalls_quotable {g : Setting} (sound : g.verifierFault = none) (s : State)
    {body : Json} (h : ¬ Verification.Request.Unquotable body) :
    ∃ reply, (verifyCalls g s (some body)).result = .ok reply ∧ reply.IsFair ∧
      ((∀ name ∈ Verification.kindNames, body.get? "type" ≠ some (.string name)) →
        reply.status = .ofNat 400) := by
  obtain ⟨checked, read, plainly⟩ := Verification.Request.ofBody?_quotable h
  unfold verifyCalls
  dsimp only
  rw [read]
  cases checked with
  | error reason =>
      have blamed := (plainly reason rfl).status
      exact ⟨_, rfl, .inr ⟨_, rfl, .inl blamed⟩, fun _ => congrArg Number.ofNat blamed⟩
  | ok request =>
      rw [sound]
      exact ⟨_, rfl, .inl rfl,
        fun other => absurd read (Verification.Request.ofBody?_other other request)⟩

/-- An answer of success, or one that puts the blame on the client and says why, and nothing
    else. -/
structure HttpResponse.BlamesClient (a : HttpResponse) : Prop where
  status : a.status = .ofNat 200 ∨ a.status = .ofNat 400 ∨ a.status = .ofNat 404
  told : a.status ≠ .ofNat 200 → ∃ message, a.content = .json (Reply.problem message)

theorem Reply.IsFair.blames {reply : Reply} (fair : reply.IsFair) {a : HttpResponse}
    (status : a.status = reply.status) (content : a.content = .json reply.body) :
    a.BlamesClient := by
  rcases fair with success | ⟨f, rfl, bad | missing⟩
  · exact ⟨.inl (status.trans success), fun failed => absurd (status.trans success) failed⟩
  · exact ⟨.inr (.inl (status.trans (congrArg Number.ofNat bad))), fun _ => ⟨_, content⟩⟩
  · exact ⟨.inr (.inr (status.trans (congrArg Number.ofNat missing))), fun _ => ⟨_, content⟩⟩

/-- Where an answer to a call puts the blame. -/
structure Call.Blames (c : Call) (a : HttpResponse) : Prop where
  /-- On the client alone, exactly if there is no kind without a text to be quoted. -/
  fairly : a.BlamesClient ↔ ¬ c.Unquotable
  unquotable : c.Unquotable → a.status = .ofNat 500 ∧
    a.content = .json (Reply.problem "Cannot convert object to primitive value")
  /-- A kind that is none of the four is a bad request. -/
  unknown : ∀ body, c = .verify (some body) → ¬ c.Unquotable →
    (∀ name ∈ Verification.kindNames, body.get? "type" ≠ some (.string name)) →
    a.status = .ofNat 400

/-- Whatever has the status and the document of the reply puts the blame where it belongs. -/
theorem answer_blames {g : Setting} (sound : g.verifierFault = none) (s : State) {body : Json}
    {c : Call} (carries : c.body? = some body) {a : HttpResponse}
    (status : a.status = (replyOf (answer g s c).result).status)
    (content : a.content = .json (replyOf (answer g s c).result).body) : c.Blames a := by
  have fair : ∀ reply, (answer g s c).result = .ok reply → reply.IsFair →
      a.BlamesClient ∧ a.status = reply.status := by
    intro reply answered just
    rw [answered] at status content
    exact ⟨just.blames status content, status⟩
  cases c with
  | enable name b =>
      obtain ⟨reply, answered, just⟩ := enableScenario_fair g s name b
      exact ⟨iff_of_true (fair reply answered just).1 id, fun absurd => absurd.elim, nofun⟩
  | verify b =>
      obtain rfl : b = some body := carries
      by_cases mute : Verification.Request.Unquotable body
      · rw [answer, verifyCalls_unquotable g s mute] at status content
        refine ⟨iff_of_false ?_ (fun quoted => quoted mute), fun _ => ⟨status, content⟩,
          fun _ _ quoted => absurd mute quoted⟩
        intro just
        have absurd := just.status
        rw [status] at absurd
        revert absurd
        decide
      · obtain ⟨reply, answered, just, unknown⟩ := verifyCalls_quotable sound s mute
        obtain ⟨blames, same⟩ := fair reply answered just
        refine ⟨iff_of_true blames mute, fun unquotable => absurd unquotable mute, ?_⟩
        rintro _ ⟨⟩ _ other
        exact same.trans (unknown other)
  | list | disable | status | disableAll | calls | reset | health => cases carries

end Control

/-- A verification, or the enabling of a scenario, is answered by what the client got wrong, if
    anything, exactly if the kind of a verification can be quoted; and then a kind that is none of
    the four is answered as a bad request. So it is for the call itself, as long as the verifier is
    in order, and for every POST that comes to it. -/
theorem client_blamed_iff (p : Proxy) {body : Json} {c : Control.Call}
    (carries : c.body? = some body) :
    (∀ g : Control.Setting, g.verifierFault = none →
      c.Blames (.ofReply [] (Control.replyOf (Control.answer g p.state c).result))) ∧
    ∀ (i : Control.Interface) (correlation : String) (r : Control.HttpRequest)
      (place : Control.Place), r.method = "POST" → r.Arrives i place body →
      Control.PostPath (some body) place.path c → c.Blames (p.asked i correlation r).result := by
  refine ⟨fun g sound => Control.answer_blames sound p.state carries rfl rfl, ?_⟩
  intro i correlation r place posted arrives written
  let g : Control.Setting := ⟨p.clock, p.started, correlation, none⟩
  obtain ⟨_, sent⟩ := i.serve_posted g correlation p.state arrives posted written
  exact Control.answer_blames (g := g) rfl p.state carries
    (congrArg Control.HttpResponse.status sent) (congrArg Control.HttpResponse.content sent)

/-- Asks for a verification by a document. -/
def verifying (document : String) : Control.HttpRequest :=
  ⟨"POST", "/thrift/calls/verify",
    [("content-type", "application/json"), ("content-length", document.toUTF8.size.repr)],
    document.toUTF8⟩

theorem verifying_written (body : Json) :
    Control.PostPath (some body) "/thrift/calls/verify".toList (.verify (some body)) :=
  ⟨⟨"verify".toList, by decide, "/thrift/calls".toList, ['/'], [], by decide +kernel, by decide,
    .inl rfl, .inl rfl⟩, rfl⟩

theorem verifying_arrives {document : String} {body : Json}
    (read : Control.Body.read (verifying document).headers (verifying document).body = .ok body) :
    (verifying document).Arrives sampleInterface ⟨"/thrift/calls/verify".toList, true⟩ body := by
  refine ⟨?_, read⟩
  show sampleInterface.place "POST" "/thrift/calls/verify" = _
  decide +kernel

/-- The kind is a list with an object in it: it can be quoted, and it is none of the four. -/
def listKind : Control.HttpRequest := verifying "\x7b\"type\":[null,\x7b\"valueOf\":1\x7d]\x7d"

theorem client_blamed_iff_list :
    ∃ p body place, Reachable sampleTemplates (.ofNat 4) p ∧ listKind.method = "POST" ∧
      listKind.Arrives sampleInterface place body ∧
      Control.PostPath (some body) place.path (.verify (some body)) ∧
      ¬ (Control.Call.verify (some body)).Unquotable ∧
      (p.asked sampleInterface "first" listKind).result.BlamesClient ∧
      (p.asked sampleInterface "first" listKind).result.status = .ofNat 400 := by
  let p := Proxy.serving sampleTemplates 4 none
  have reachable : Reachable sampleTemplates (.ofNat 4) p := .serving (by decide) (by decide) _ []
  let kind : Json := .array [.null, .object [("valueOf", .ofNat 1)]]
  have read : Control.Body.read listKind.headers listKind.body =
      .ok (.object [("type", kind)]) := by
    decide +kernel
  have arrives := verifying_arrives read
  have written := verifying_written (.object [("type", kind)])
  have quotable : ¬ (Control.Call.verify (some (.object [("type", kind)]))).Unquotable := by
    rintro ⟨other, given, mute⟩
    obtain rfl := Option.some.inj given
    cases mute
  obtain ⟨_, asked⟩ := client_blamed_iff p (c := .verify (some (.object [("type", kind)]))) rfl
  obtain ⟨blamed, _, bad⟩ := asked _ "first" listKind _ rfl arrives written
  refine ⟨p, _, _, reachable, rfl, arrives, written, quotable,
    blamed.mpr quotable, bad _ rfl quotable ?_⟩
  intro name _ given
  have text : kind = .string name := Option.some.inj given
  exact Json.noConfusion text

/-- The kind is an object that claims a text of its own. -/
def muteKind : Control.HttpRequest := verifying "\x7b\"type\":\x7b\"toString\":1\x7d\x7d"

/-- A client that names such a kind is told of a fault of the program, although nothing is wrong
    but what it has sent. -/
theorem client_not_blamed_for_mute_kind :
    ∃ p body place, Reachable sampleTemplates (.ofNat 4) p ∧ muteKind.method = "POST" ∧
      muteKind.Arrives sampleInterface place body ∧
      Control.PostPath (some body) place.path (.verify (some body)) ∧
      (body.get? "type").isSome ∧ (body.get? "type").bind Json.string? = none ∧
      (p.asked sampleInterface "first" muteKind).result.status = .ofNat 500 ∧
      ¬ (p.asked sampleInterface "first" muteKind).result.BlamesClient := by
  let p := Proxy.serving sampleTemplates 4 none
  have reachable : Reachable sampleTemplates (.ofNat 4) p := .serving (by decide) (by decide) _ []
  let body : Json := .object [("type", .object [("toString", .ofNat 1)])]
  have read : Control.Body.read muteKind.headers muteKind.body = .ok body := by decide +kernel
  have failed : (p.asked sampleInterface "first" muteKind).result.status = .ofNat 500 := by
    decide +kernel
  refine ⟨p, body, _, reachable, rfl, verifying_arrives read,
    verifying_written body, rfl, rfl, failed, ?_⟩
  intro just
  have absurd := just.status
  rw [failed] at absurd
  revert absurd
  decide

end Faultline
