import EventRelay.Http.Message
import EventRelay.Listener.Access
import EventRelay.Provider.Convert
import EventRelay.Publish.Delivery
import EventRelay.Setup.Handshake

/-!
# What requests are answered

A delivery is authenticated before its body is looked at. It is ignored when
no complete credentials apply to it or nothing comes of it; otherwise its
events are published, and the store is only read. Operators start a setup, from
a body or from the query, complete it by a callback, and list and remove
mappings; all but the callback need the setup token. Every request that fails
is answered with a status, a code and a message. What went wrong inside the
store is not told.
-/

set_option autoImplicit false

namespace EventRelay

/-! ## Refusals -/

structure Refusal where
  status : Nat
  code : String
  message : String
  deriving DecidableEq, Repr

namespace Refusal

def badRequest (message : String) : Refusal := ⟨400, "bad_request", message⟩

def unauthorized (message : String) : Refusal := ⟨401, "unauthorized", message⟩

def notFound (message : String) : Refusal := ⟨404, "not_found", message⟩

def internal (message : String) : Refusal := ⟨500, "internal", message⟩

def ofSetup (e : SetupError) : Refusal :=
  match e with
  | .missingCredentials | .missingState | .invalidInstallationId => badRequest e.message
  | .unknownState | .mappingNotFound _ => notFound e.message
  | .expiredState => ⟨410, "expired", e.message⟩
  | .store _ => internal "installation store failure"

def ofRelay (e : RelayError) : Refusal :=
  match e with
  | .build _ => ⟨422, "invalid_event", e.message⟩
  | .publish _ => ⟨502, "publish_failed", "publish failed"⟩

def response (r : Refusal) : Http.Response :=
  .json r.status (.object [("code", .text r.code), ("message", .text r.message)])

end Refusal

end EventRelay

/-! ## Webhook deliveries -/

namespace EventRelay.Webhook

open EventRelay.Http EventRelay.Text

def headerText (headers : Headers) (name : String) : String :=
  ((headers.value? name).map trimmed).getD ""

def accepted (message : String) : Response := .plain 202 message

def ignored : Response := accepted "ignored"

variable {σ κ : Type} [Store σ]

/-- Answers a delivery that has been authenticated. -/
def deliver (settings : ListenerSettings) (sink : Sink κ) (stamp : Stamp) (request : Request)
    (s : σ) (k : κ) : Response × κ :=
  let p := settings.provider
  let deliveryId := DeliveryId.ofText? (headerText request.headers p.deliveryHeader)
  match PublishTarget.find (p.installationId? request.body) settings.defaults s with
  | .error _ => ((Refusal.internal "mapping resolution failed").response, k)
  | .ok target =>
    if !target.credentials.isComplete then (ignored, k)
    else
      match p.convert (headerText request.headers p.eventHeader) deliveryId request.body
          ⟨target.defaultEnvironment, settings.source⟩ with
      | .error _ => ((Refusal.badRequest ("invalid " ++ p.name ++ " payload")).response, k)
      | .ok [] => (ignored, k)
      | .ok events =>
        match relay sink target.credentials (fun _ => stamp) events k with
        | (.ok n, k) => (accepted ("published=" ++ naturalText n), k)
        | (.error e, k) => ((Refusal.ofRelay e).response, k)

def answer (settings : ListenerSettings) (sink : Sink κ) (stamp : Stamp) (request : Request)
    (s : σ) (k : κ) : Response × κ :=
  if Signature.verifies settings.provider request.headers request.body settings.webhookSecret then
    deliver settings sink stamp request s k
  else ((Refusal.unauthorized "invalid signature").response, k)

end EventRelay.Webhook

/-! ## Requests of operators -/

namespace EventRelay.Operator

open EventRelay.Http EventRelay.Text

variable {σ : Type} [Store σ]

def unauthorized : Response := (Refusal.unauthorized "unauthorized").response

def isAuthorized (settings : ListenerSettings) (request : Request) : Bool :=
  Authorization.grants settings.setupToken request.headers request.query

def invalidBody : Response := (Refusal.badRequest "invalid json payload").response

/-! ### Starting a setup -/

def startShape : Json.Shape :=
  .record [("organization_id", some .null, .optional .integer),
    ("organization_label", some (.text ""), .text), ("ddash_endpoint", some (.text ""), .text),
    ("ddash_auth_token", some (.text ""), .text),
    ("ddash_webhook_secret", some (.text ""), .text),
    ("default_environment", some (.text ""), .text)]

/-- The organization under a key; a number that is not positive counts as none. -/
def organizationAt (key : String) (v : Json) : Option OrganizationId :=
  match v.at? [key] with
  | some (.number (.integer n)) => OrganizationId.ofInt? n
  | _ => none

def profileOfBody (v : Json) : TenantProfile :=
  { organization := organizationAt "organization_id" v
    label := v.textAt ["organization_label"]
    credentials :=
      ⟨v.textAt ["ddash_endpoint"], v.textAt ["ddash_auth_token"],
        v.textAt ["ddash_webhook_secret"]⟩
    defaultEnvironment := v.textAt ["default_environment"] }

def parameter (q : Query) (name : String) : String := trimmed ((q.value? name).getD "")

/-- The profile that a query describes, with the process defaults for what it leaves blank. -/
def profileOfQuery (d : PublishDefaults) (q : Query) : TenantProfile :=
  let given (name fallback : String) : String := orFallback (trimmed fallback) (parameter q name)
  { organization := OrganizationId.read? (parameter q "organization_id")
    label := parameter q "organization"
    credentials :=
      ⟨given "ddash_endpoint" d.credentials.endpoint,
       given "ddash_auth_token" d.credentials.authToken,
       given "ddash_webhook_secret" d.credentials.webhookSecret⟩
    defaultEnvironment := given "default_environment" d.defaultEnvironment }

def startFromBody (settings : ListenerSettings) (setup : SetupSettings) (fresh : SetupState)
    (now : Timestamp) (request : Request) (s : σ) : Response × σ :=
  if !isAuthorized settings request then (unauthorized, s)
  else
    match startShape.read request.body with
    | .error _ => (invalidBody, s)
    | .ok v =>
      match Setup.start setup (profileOfBody v) fresh now s with
      | (.ok started, s) => (.json 200 started.toJson, s)
      | (.error e, s) => ((Refusal.ofSetup e).response, s)

def startFromQuery (settings : ListenerSettings) (setup : SetupSettings) (fresh : SetupState)
    (now : Timestamp) (request : Request) (s : σ) : Response × σ :=
  if !isAuthorized settings request then (unauthorized, s)
  else
    match Setup.start setup (profileOfQuery settings.defaults request.query) fresh now s with
    | (.ok started, s) => (.found started.redirectUrl, s)
    | (.error e, s) => ((Refusal.ofSetup e).response, s)

/-! ### The callback -/

def installationParameter? (q : Query) : Option String :=
  nonBlank? (firstNonBlank
    [parameter q "installation_id", parameter q "installationId", parameter q "project_id"])

def callback (now : Timestamp) (request : Request) (s : σ) : Response × σ :=
  match Setup.complete (request.query.value? "state") (installationParameter? request.query) now s
    with
  | (.ok mapping, s) => (.json 200 mapping.view.toJson, s)
  | (.error e, s) => ((Refusal.ofSetup e).response, s)

/-! ### Mappings -/

def list (settings : ListenerSettings) (request : Request) (s : σ) : Response :=
  if !isAuthorized settings request then unauthorized
  else
    match Store.listMappings ((request.query.value? "org_id").bind OrganizationId.read?) s with
    | .error _ => (Refusal.internal "failed to list mappings").response
    | .ok mappings =>
      .json 200 (.object [("mappings", .array (mappings.map fun m => m.view.toJson))])

def deleteShape : Json.Shape :=
  .record [("installation_id", none, .integer), ("organization_id", some .null, .optional .integer)]

def delete (settings : ListenerSettings) (request : Request) (s : σ) : Response × σ :=
  if !isAuthorized settings request then (unauthorized, s)
  else
    match deleteShape.read request.body with
    | .error _ => (invalidBody, s)
    | .ok v =>
      match InstallationId.ofInt? (v.integerAt ["installation_id"]) with
      | none => ((Refusal.badRequest "invalid installation_id").response, s)
      | some id =>
        match Setup.revoke id (organizationAt "organization_id" v) s with
        | (.ok (), s) => (.json 200 (.object [("deleted", .bool true)]), s)
        | (.error e, s) => ((Refusal.ofSetup e).response, s)

end EventRelay.Operator
