import EventRelay.Http.Route
import EventRelay.Listener.Endpoint

/-!
# The listener

Which requests are answered by whom. The paths of webhooks and of the
callback are configured; the others are fixed. A body beyond the limit is
refused before anything else is looked at.
-/

set_option autoImplicit false

namespace EventRelay.Listener

open EventRelay.Http

inductive Endpoint where
  | webhook
  | startFromBody
  | startFromQuery
  | callback
  | list
  | delete
  | health
  deriving DecidableEq, Repr

def startApiPath : String := "/api/setup/start"

def startPath : String := "/setup/start"

def mappingsPath : String := "/api/mappings"

def deletePath : String := "/api/mappings/delete"

def healthPath : String := "/healthz"

def maxBodyOctets : Nat := 1048576

/-- The configured paths may clash with the fixed ones; then there are no routes. -/
def routes? (webhookPath callbackPath : String) : Option (List (Route Endpoint)) :=
  Route.addAll
    [("POST", webhookPath, .webhook), ("POST", startApiPath, .startFromBody),
     ("GET", startPath, .startFromQuery), ("GET", callbackPath, .callback),
     ("GET", mappingsPath, .list), ("POST", deletePath, .delete), ("GET", healthPath, .health)] []

structure Config (κ : Type) where
  settings : ListenerSettings
  setup : SetupSettings
  sink : Sink κ

/-- The clock and the random values that one request may use. -/
structure Moment where
  now : Timestamp
  fresh : SetupState
  uuid : String

def takesBody : Endpoint → Bool
  | .webhook | .startFromBody | .delete => true
  | _ => false

variable {σ κ : Type} [Store σ]

/-- The answer of an endpoint, with the store and the sink after it. -/
def serve (c : Config κ) (moment : Moment) (endpoint : Endpoint) (request : Request)
    (s : σ) (k : κ) : Response × σ × κ :=
  match endpoint with
  | .webhook =>
    let (response, k) := Webhook.answer c.settings c.sink ⟨moment.now, moment.uuid⟩ request s k
    (response, s, k)
  | .startFromBody =>
    let (response, s) :=
      Operator.startFromBody c.settings c.setup moment.fresh moment.now request s
    (response, s, k)
  | .startFromQuery =>
    let (response, s) :=
      Operator.startFromQuery c.settings c.setup moment.fresh moment.now request s
    (response, s, k)
  | .callback =>
    let (response, s) := Operator.callback moment.now request s
    (response, s, k)
  | .list => (Operator.list c.settings request s, s, k)
  | .delete =>
    let (response, s) := Operator.delete c.settings request s
    (response, s, k)
  | .health => (.plain 200 "ok", s, k)

/-- The answer to a request. HEAD is answered like GET, without the text. -/
def handle (routes : List (Route Endpoint)) (c : Config κ) (moment : Moment) (request : Request)
    (s : σ) (k : κ) : Response × σ × κ :=
  match Route.find? request.path routes with
  | none => ({ status := 404 }, s, k)
  | some route =>
    match route.action? request.method with
    | none => ({ status := 405, allow := some route.allowed }, s, k)
    | some endpoint =>
      if takesBody endpoint && maxBodyOctets < request.body.length then
        (.plain 413 "Failed to buffer the request body: length limit exceeded", s, k)
      else
        let (response, s, k) := serve c moment endpoint request s k
        (if request.method = "HEAD" then response.withoutBody else response, s, k)

end EventRelay.Listener
