import EventRelay.Proofs.Listener.Authority

/-!
# What the endpoints of operators answer

Behind the token each endpoint makes at most one call of the handshake and
tells what it came to. A request that is turned away on its way there, by its
path, its method or its size, is answered without the store.
-/

set_option autoImplicit false

namespace EventRelay

open EventRelay.Http

namespace Operator

def told {α : Type} (success : α → Response) : Except SetupError α → Response
  | .ok a => success a
  | .error e => (Refusal.ofSetup e).response

def toldStarted : Except SetupError SetupStarted → Response :=
  told fun started => .json 200 started.toJson

def toldRedirect : Except SetupError SetupStarted → Response :=
  told fun started => .found started.redirectUrl

def toldMapping : Except SetupError InstallationMapping → Response :=
  told fun mapping => .json 200 mapping.view.toJson

def toldDeleted : Except SetupError Unit → Response :=
  told fun _ => .json 200 (.object [("deleted", .bool true)])

def invalidInstallation : Response := (Refusal.badRequest "invalid installation_id").response

section

variable {σ : Type} [Store σ] {settings : ListenerSettings} {request : Request}

theorem callback_told (now : Timestamp) (request : Request) (s : σ) :
    callback now request s =
      (Setup.complete (request.query.value? "state") (installationParameter? request.query) now
        s).map toldMapping id := by
  unfold callback
  rcases Setup.complete (request.query.value? "state") (installationParameter? request.query) now
    s with ⟨_ | _, _⟩ <;> rfl

variable (hauth : isAuthorized settings request = true)

include hauth

theorem startFromBody_malformed {e : Json.Fault} (h : startShape.read request.body = .error e)
    (setup : SetupSettings) (fresh : SetupState) (now : Timestamp) (s : σ) :
    startFromBody settings setup fresh now request s = (invalidBody, s) := by
  simp only [startFromBody, hauth, h, Bool.not_true, Bool.false_eq_true, if_false]

theorem startFromBody_told {v : Json} (h : startShape.read request.body = .ok v)
    (setup : SetupSettings) (fresh : SetupState) (now : Timestamp) (s : σ) :
    startFromBody settings setup fresh now request s =
      (Setup.start setup (profileOfBody v) fresh now s).map toldStarted id := by
  simp only [startFromBody, hauth, h, Bool.not_true, Bool.false_eq_true, if_false]
  rcases Setup.start setup (profileOfBody v) fresh now s with ⟨_ | _, _⟩ <;> rfl

theorem startFromQuery_told (setup : SetupSettings) (fresh : SetupState) (now : Timestamp)
    (s : σ) :
    startFromQuery settings setup fresh now request s =
      (Setup.start setup (profileOfQuery settings.defaults request.query) fresh now s).map
        toldRedirect id := by
  simp only [startFromQuery, hauth, Bool.not_true, Bool.false_eq_true, if_false]
  rcases Setup.start setup (profileOfQuery settings.defaults request.query) fresh now s with
    ⟨_ | _, _⟩ <;> rfl

theorem delete_malformed {e : Json.Fault} (h : deleteShape.read request.body = .error e) (s : σ) :
    delete settings request s = (invalidBody, s) := by
  simp only [delete, hauth, h, Bool.not_true, Bool.false_eq_true, if_false]

theorem delete_invalid {v : Json} (h : deleteShape.read request.body = .ok v)
    (hid : InstallationId.ofInt? (v.integerAt ["installation_id"]) = none) (s : σ) :
    delete settings request s = (invalidInstallation, s) := by
  simp only [delete, hauth, h, hid, Bool.not_true, Bool.false_eq_true, if_false]
  rfl

theorem delete_told {v : Json} {installation : InstallationId}
    (h : deleteShape.read request.body = .ok v)
    (hid : InstallationId.ofInt? (v.integerAt ["installation_id"]) = some installation) (s : σ) :
    delete settings request s =
      (Setup.revoke installation (organizationAt "organization_id" v) s).map toldDeleted id := by
  simp only [delete, hauth, h, hid, Bool.not_true, Bool.false_eq_true, if_false]
  rcases Setup.revoke installation (organizationAt "organization_id" v) s with ⟨_ | _, _⟩ <;> rfl

end

end Operator

namespace Listener

variable {σ κ : Type} [Store σ]

def isOversized (endpoint : Endpoint) (request : Request) : Bool :=
  takesBody endpoint && decide (maxBodyOctets < request.body.length)

def oversized : Response := .plain 413 "Failed to buffer the request body: length limit exceeded"

def turnedAway? (routes : List (Route Endpoint)) (request : Request) : Option Response :=
  match Route.find? request.path routes with
  | none => some { status := 404 }
  | some route =>
    match route.action? request.method with
    | none => some { status := 405, allow := some route.allowed }
    | some endpoint => if isOversized endpoint request then some oversized else none

/-- What an endpoint answers, and the store after it. -/
def served (c : Config κ) (moment : Moment) (endpoint : Endpoint) (request : Request) (k : κ)
    {τ : Type} [Store τ] (t : τ) : Response × τ :=
  ((serve c moment endpoint request t k).1, (serve c moment endpoint request t k).2.1)

variable {routes : List (Route Endpoint)} {c : Config κ} {moment : Moment} {request : Request}
  {endpoint : Endpoint} {k : κ}

theorem turnedAway_cases {r : Response} (h : turnedAway? routes request = some r) :
    (Route.find? request.path routes = none ∧ r = { status := 404 }) ∨
    (∃ route, Route.find? request.path routes = some route ∧
      route.action? request.method = none ∧ r = { status := 405, allow := some route.allowed }) ∨
    ∃ endpoint, endpoint? routes request = some endpoint ∧
      isOversized endpoint request = true ∧ r = oversized := by
  unfold turnedAway? at h
  unfold endpoint?
  cases hroute : Route.find? request.path routes with
  | none =>
    rw [hroute] at h
    exact Or.inl ⟨rfl, (Option.some.inj h).symm⟩
  | some route =>
    simp only [hroute, Option.bind_some] at h ⊢
    cases haction : route.action? request.method with
    | none =>
      rw [haction] at h
      exact Or.inr (Or.inl ⟨route, rfl, haction, (Option.some.inj h).symm⟩)
    | some endpoint =>
      simp only [haction] at h
      cases hsize : isOversized endpoint request with
      | true =>
        rw [hsize, if_pos rfl] at h
        exact Or.inr (Or.inr ⟨endpoint, rfl, hsize, (Option.some.inj h).symm⟩)
      | false =>
        rw [hsize] at h
        cases h

theorem handle_turnedAway {r : Response} (h : turnedAway? routes request = some r) (s : σ) :
    handle routes c moment request s k = (r, s, k) := by
  rcases turnedAway_cases h with ⟨hroute, rfl⟩ | ⟨route, hroute, haction, rfl⟩ |
    ⟨endpoint, hendpoint, hsize, rfl⟩
  · simp only [handle, hroute]
  · simp only [handle, hroute, haction]
  · obtain ⟨route, hroute, haction⟩ := Option.bind_eq_some_iff.mp hendpoint
    simp only [handle, hroute, haction]
    exact if_pos hsize

theorem endpoint_of_let_in (h : turnedAway? routes request = none) :
    ∃ endpoint, endpoint? routes request = some endpoint ∧
      isOversized endpoint request = false := by
  unfold turnedAway? at h
  unfold endpoint?
  cases hroute : Route.find? request.path routes with
  | none => simp [hroute] at h
  | some route =>
    cases haction : route.action? request.method with
    | none => simp [hroute, haction] at h
    | some endpoint =>
      refine ⟨endpoint, haction, ?_⟩
      simpa [hroute, haction] using h

theorem serve_sink (h : endpoint ≠ .webhook) (s : σ) :
    (serve c moment endpoint request s k).2.2 = k := by
  cases endpoint with
  | webhook => exact absurd rfl h
  | _ => rfl

theorem handle_served (h : endpoint? routes request = some endpoint)
    (hsize : isOversized endpoint request = false) (hother : endpoint ≠ .webhook) (s : σ) :
    handle routes c moment request s k =
      (sent request (served c moment endpoint request k s).1,
        (served c moment endpoint request k s).2, k) := by
  rw [handle_of_endpoint h hsize, Prod.ext_iff, Prod.ext_iff]
  exact ⟨rfl, rfl, serve_sink hother s⟩

theorem served_startFromBody (s : σ) :
    served c moment .startFromBody request k s =
      Operator.startFromBody c.settings c.setup moment.fresh moment.now request s := by
  simp only [served, serve]

theorem served_startFromQuery (s : σ) :
    served c moment .startFromQuery request k s =
      Operator.startFromQuery c.settings c.setup moment.fresh moment.now request s := by
  simp only [served, serve]

theorem served_callback (s : σ) :
    served c moment .callback request k s = Operator.callback moment.now request s := by
  simp only [served, serve]

theorem served_delete (s : σ) :
    served c moment .delete request k s = Operator.delete c.settings request s := by
  simp only [served, serve]

theorem served_unauthorized (hauth : Operator.isAuthorized c.settings request = false)
    (h : needsToken endpoint = true) (s : σ) :
    served c moment endpoint request k s = (Operator.unauthorized, s) := by
  rw [served, serve_unauthorized hauth h]

end Listener

end EventRelay
