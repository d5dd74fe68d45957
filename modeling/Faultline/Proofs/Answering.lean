import Faultline.Proofs.Command
import Faultline.Proofs.Routing

/-! # How requests are answered

A request that leads to a place and comes to a call is answered with the reply of the call
(`serve_called`), unless the client says that it has the document already; any other request is
answered without a look at the state. All of this holds for whatever transport requests come by.
-/

namespace Faultline

theorem Number.ofNat_ne {m n : Nat} (h : m ≠ n) : Number.ofNat m ≠ Number.ofNat n :=
  mt Number.ofNat_inj.mp h

namespace Control

/-! ## Requests that are turned away -/

theorem Refusal.status_ne (refusal : Refusal) : refusal.status ≠ 200 := by
  cases refusal <;> decide

theorem route_options {method : String} {path : List Char} {body : Option Json}
    {allowed told : List String} {entries : List Entry}
    (h : Group.route method path body allowed entries = .options told) : method = "OPTIONS" := by
  induction entries generalizing allowed with
  | nil =>
      simp only [Group.route] at h
      split at h
      · rename_i asked
        exact of_decide_eq_true (Bool.and_eq_true_iff.mp asked).1
      · cases h
  | cons e rest ih =>
      simp only [Group.route] at h
      split at h
      · exact ih h
      · cases h
      · split at h
        · cases h
        · exact ih h

theorem plan_options {method : String} {place : Place} {inner : List Char} {body : Option Json}
    {allowed : List String} (h : plan method place body = .options allowed inner) :
    method = "OPTIONS" := by
  have among : ∀ groups, planIn method place body groups = .options allowed inner →
      method = "OPTIONS" := by
    intro groups
    induction groups with
    | nil => exact fun absurd => by cases absurd
    | cons g rest ih =>
        intro found
        simp only [planIn] at found
        split at found
        · exact ih found
        · split at found
          · exact ih found
          · cases found
          · rename_i routed
            exact route_options routed
          · cases found
  unfold plan at h
  split at h
  · cases h
  · exact among groups h

/-! ## What is sent -/

theorem HttpRequest.isConditional_of_post {r : HttpRequest} (posted : r.method = "POST") :
    r.isConditional = false := by
  rw [isConditional, posted]
  rfl

/-- What is sent for a request without conditions is the answer, without its content if the method
    asks for none. -/
theorem Transport.sent_unconditional (t : Transport) {r : HttpRequest}
    (unconditional : r.isConditional = false) (a : HttpResponse) :
    t.sent r a = a.forMethod r.method := by
  have told : t.spares r a = false := by
    unfold spares
    split
    · rw [unconditional, Bool.false_and, Bool.false_and]
    · rfl
    · rfl
  rw [sent, told, if_neg Bool.false_ne_true]

theorem HttpResponse.forMethod_status (a : HttpResponse) (method : String) :
    (a.forMethod method).status = a.status := by
  unfold forMethod
  split <;> rfl

/-- What is sent is no success if the answer is none. -/
theorem Transport.sent_status_ne (t : Transport) (r : HttpRequest) {a : HttpResponse}
    (failure : a.status ≠ .ofNat 200) : (t.sent r a).status ≠ .ofNat 200 := by
  unfold sent
  split
  · exact Number.ofNat_ne (by decide)
  · rwa [HttpResponse.forMethod_status]

/-- The response to a request that reads: a document, or only word that the client has it. -/
def HttpResponse.Brings (i : Interface) (r : HttpRequest) (v : Json) (a : HttpResponse) : Prop :=
  if r.isConditional && i.knows r.headers v then a.status = .ofNat 304 ∧ a.content = .empty
  else a.status = .ofNat 200 ∧ a.content = .json v

theorem sent_brings (i : Interface) {r : HttpRequest} (asked : r.method = "GET")
    (headers : List (String × String)) (v : Json) :
    (i.sent r (.ofReply headers (.ok v))).Brings i r v := by
  have full : r.method ≠ "HEAD" := by
    rw [asked]
    decide
  have spared : i.spares r (.ofReply headers (.ok v)) =
      (r.isConditional && i.knows r.headers v) := by
    have success : (Number.ofNat 200).within 200 300 = true := by decide
    simp only [Transport.spares, HttpResponse.ofReply, Reply.ok, success, Bool.and_true]
  unfold HttpResponse.Brings Transport.sent
  rw [spared]
  split
  · exact ⟨rfl, rfl⟩
  · rw [HttpResponse.forMethod, if_neg full]
    exact ⟨rfl, rfl⟩

/-! ## Requests that come to a call -/

/-- The reply of a call, or the answer to what it leaves uncaught. -/
def replyOf : Except Failure Reply → Reply
  | .ok reply => reply
  | .error f => ⟨.ofNat 500, Reply.problem f.message⟩

theorem answerCall_response (g : Setting) (s : State) (headers : List (String × String))
    (method : String) (path inner : List Char) (c : Call) :
    (answerCall g s headers method path inner c).result.response =
      .ofReply headers (replyOf (answer g s c).result) := by
  simp only [answerCall]
  cases (answer g s c).result <;> rfl

namespace Interface

/-- The headers of the response to a request that is not merely a page's question. -/
def responseHeaders (i : Interface) (fresh : String) (r : HttpRequest) : List (String × String) :=
  let origin := r.headers.lookup "origin"
  let headers := if i.origins.any (Origin.allows · origin) then originHeaders origin else []
  let correlation := ((r.headers.lookup "x-correlation-id").filter (!·.isEmpty)).getD fresh
  if i.logged then headers ++ [("x-correlation-id", correlation)] else headers

variable (i : Interface) (g : Setting) (fresh : String) (s : State)

theorem draft_called (headers : List (String × String)) {r : HttpRequest} {place : Place}
    {body : Json} {c : Call} {inner : List Char} (read : i.read r.headers r.body = .ok body)
    (planned : plan r.method place (some body) = .call c inner) :
    (i.draft g s headers r place).now = (answer g s c).now ∧
      (i.draft g s headers r place).result.response =
        .ofReply headers (replyOf (answer g s c).result) := by
  simp only [draft, read, planned]
  refine ⟨?_, answerCall_response ..⟩
  unfold answerCall
  dsimp only
  split <;> rfl

/-- What is drafted for a request is the reply of a call, or an answer that needs no state and is a
    success only for a request that asks for the methods. -/
theorem draft_cases (headers : List (String × String)) (r : HttpRequest) (place : Place) :
    ((i.draft g s headers r place).now = s ∧
      (r.method ≠ "OPTIONS" →
        (i.draft g s headers r place).result.response.status ≠ .ofNat 200)) ∨
    (∃ body c inner, i.read r.headers r.body = .ok body ∧
      plan r.method place (some body) = .call c inner) := by
  cases read : i.read r.headers r.body with
  | error refusal =>
      simp only [draft, read]
      exact .inl ⟨rfl, fun _ => Number.ofNat_ne refusal.status_ne⟩
  | ok body =>
      cases planned : plan r.method place (some body) with
      | call c inner => exact .inr ⟨body, c, inner, rfl, planned⟩
      | options allowed inner =>
          simp only [draft, read, planned]
          exact .inl ⟨rfl, fun other => absurd (plan_options planned) other⟩
      | broken =>
          simp only [draft, read, planned]
          exact .inl ⟨rfl, fun _ => Number.ofNat_ne (by decide)⟩
      | unknown =>
          simp only [draft, read, planned]
          exact .inl ⟨rfl, fun _ => Number.ofNat_ne (by decide)⟩

/-- A request that only asks a page's question is answered at once; for any other that leads
    somewhere an answer is drafted and sent. -/
theorem serve_drafted {r : HttpRequest} {place : Place}
    (located : i.place r.method r.target = .ok place) :
    (r.method = "OPTIONS" ∧ (i.serve g fresh s r).now = s) ∨
    ((i.serve g fresh s r).now = (i.draft g s (i.responseHeaders fresh r) r place).now ∧
      (i.serve g fresh s r).result =
        i.sent r (i.draft g s (i.responseHeaders fresh r) r place).result.response) := by
  simp only [serve, located, serveAt]
  split
  · rename_i asked
    exact .inl ⟨of_decide_eq_true (Bool.and_eq_true_iff.mp asked).2, rfl⟩
  · exact .inr ⟨rfl, rfl⟩

/-- A request that does not ask for the methods comes to a call, or it fails and leaves the state as
    it was. -/
theorem serve_cases {r : HttpRequest} (regular : r.method ≠ "OPTIONS") :
    ((i.serve g fresh s r).now = s ∧ (i.serve g fresh s r).result.status ≠ .ofNat 200) ∨
    (∃ place body c inner, r.Arrives i place body ∧
      plan r.method place (some body) = .call c inner) := by
  cases located : i.place r.method r.target with
  | error page =>
      left
      simp only [serve, located]
      refine ⟨rfl, ?_⟩
      show ((nowhere page).forMethod r.method).status ≠ .ofNat 200
      rw [HttpResponse.forMethod_status]
      exact Number.ofNat_ne (by decide)
  | ok place =>
      rcases i.serve_drafted g fresh s located with ⟨asked, _⟩ | ⟨now, sent⟩
      · exact absurd asked regular
      · rcases i.draft_cases g s (i.responseHeaders fresh r) r place with
          ⟨same, failure⟩ | ⟨body, c, inner, read, planned⟩
        · refine .inl ⟨now.trans same, ?_⟩
          rw [sent]
          exact i.sent_status_ne r (failure regular)
        · exact .inr ⟨place, body, c, inner, ⟨located, read⟩, planned⟩

section
variable {r : HttpRequest} {place : Place} {body : Json} (arrives : r.Arrives i place body) {c : Call}
include arrives

/-- A request that comes to a call is answered with the reply of the call. -/
theorem serve_called {inner : List Char} (planned : plan r.method place (some body) = .call c inner)
    (regular : r.method ≠ "OPTIONS") :
    (i.serve g fresh s r).now = (answer g s c).now ∧
      (i.serve g fresh s r).result =
        i.sent r (.ofReply (i.responseHeaders fresh r) (replyOf (answer g s c).result)) := by
  rcases i.serve_drafted g fresh s arrives.located with ⟨asked, _⟩ | ⟨now, sent⟩
  · exact absurd asked regular
  · obtain ⟨drafted, told⟩ := i.draft_called g s (i.responseHeaders fresh r) arrives.read planned
    rw [told] at sent
    exact ⟨now.trans drafted, sent⟩

/-- A POST whose path is written for a call gets the whole reply. -/
theorem serve_posted (posted : r.method = "POST") (written : PostPath (some body) place.path c) :
    (i.serve g fresh s r).now = (answer g s c).now ∧
      (i.serve g fresh s r).result =
        .ofReply (i.responseHeaders fresh r) (replyOf (answer g s c).result) := by
  obtain ⟨inner, planned⟩ := plan_post written
  rw [← posted] at planned
  obtain ⟨now, sent⟩ := i.serve_called g fresh s arrives planned (by rw [posted]; decide)
  rw [i.sent_unconditional (HttpRequest.isConditional_of_post posted), posted] at sent
  exact ⟨now, sent⟩

/-- A GET for a call that is answered with a document brings the document. -/
theorem serve_brings {inner : List Char} (planned : plan r.method place (some body) = .call c inner)
    (asked : r.method = "GET") {v : Json} (replied : (answer g s c).result = .ok (.ok v)) :
    (i.serve g fresh s r).result.Brings i r v := by
  obtain ⟨_, sent⟩ := i.serve_called g fresh s arrives planned (by rw [asked]; decide)
  rw [sent, replied]
  exact sent_brings i asked _ v

end

end Interface

end Control

end Faultline
