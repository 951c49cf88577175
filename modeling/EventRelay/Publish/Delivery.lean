import EventRelay.Crypto.Hmac
import EventRelay.Event.Envelope
import EventRelay.Http.Message
import EventRelay.Http.Url
import EventRelay.Tenant.Profile
import EventRelay.Text.Cut

/-!
# Publishing

One envelope is one signed request to the dashboard, never repeated. The
network is a parameter: what it makes of a request is given from outside. A
batch of events is built and published one by one, and the first fault ends
it. A sink is anything that takes bodies; what it remembers is its state.
-/

set_option autoImplicit false

/-! ## One request -/

namespace EventRelay

open EventRelay.Text

inductive PublishError where
  | missingConfiguration
  | transport (reason : String)
  | rejected (status : Nat) (body : String)
  deriving DecidableEq, Repr

def PublishError.message : PublishError → String
  | .missingConfiguration => "endpoint/token/secret are required"
  | .transport reason => "send request: " ++ reason
  | .rejected status body =>
    "webhook rejected: status=" ++ naturalText status ++ " body=" ++ body

namespace Publish

def sign (secret : String) (body : List UInt8) : String :=
  Hex.text (Hmac.mac (Utf8.octets secret) body)

def eventsPath : String := "/webhooks/cdevents"

def deliveryUrl (endpoint : String) : String :=
  let cs := trimChars endpoint.toList
  String.ofList (cs.reverse.dropWhile (· == '/')).reverse ++ eventsPath

structure Request where
  url : Url
  token : String
  signature : String
  body : List UInt8

inductive Outcome where
  | failed (reason : String)
  | answered (status : Nat) (reply : List UInt8)

abbrev Network (ω : Type) := Request → ω → Outcome × ω

def isHeaderOctet (b : UInt8) : Bool := b == 9 || (32 ≤ b && b != 127)

/-- The request for a body, or why there can be none. -/
def request (c : PublishCredentials) (body : List UInt8) : Except String Request :=
  match (Url.read? (deliveryUrl c.endpoint)).map Url.withoutUser with
  | none => .error "builder error"
  | some url =>
    let refused := "builder error for url (" ++ url.text ++ ")"
    let token := trimmed c.authToken
    if !url.hasHost then .error refused
    else if !(Utf8.octets token).all isHeaderOctet then .error "builder error"
    else if url.scheme ≠ "http" ∧ url.scheme ≠ "https" then .error refused
    else if !url.canBeRequested then .error refused
    else .ok ⟨url, token, sign (trimmed c.webhookSecret) body, body⟩

def maxRejectedOctets : Nat := 512

def keptReply (reply : List UInt8) : String :=
  String.ofList (Utf8.truncate maxRejectedOctets (trimChars (Utf8.decodeLossy reply)))

def verdict : Outcome → Except PublishError Unit
  | .failed reason => .error (.transport reason)
  | .answered status reply =>
    if status < 300 then .ok () else .error (.rejected status (keptReply reply))

/-- Publishes one body. Nothing is sent without complete credentials. -/
def publish {ω : Type} (network : Network ω) (c : PublishCredentials) (body : List UInt8) (w : ω) :
    Except PublishError Unit × ω :=
  if c.isComplete then
    match request c body with
    | .error reason => (.error (.transport reason), w)
    | .ok request =>
      let (outcome, w) := network request w
      (verdict outcome, w)
  else (.error .missingConfiguration, w)

def unreachable {ω : Type} : Network ω := fun request w =>
  (.failed ("error sending request for url (" ++ request.url.text ++ ")"), w)

end Publish

/-! ## Relaying a batch -/

structure Sink (σ : Type) where
  publish : PublishCredentials → List UInt8 → σ → Except PublishError Unit × σ

inductive RelayError where
  | build (cause : BuildError)
  | publish (cause : PublishError)
  deriving DecidableEq, Repr

def RelayError.message : RelayError → String
  | .build cause => "invalid event: " ++ cause.message
  | .publish cause => "publish failed: " ++ cause.message

/-- Relays the events after the first `done`; the stamp of each is that of its place. -/
def relayFrom {σ : Type} (sink : Sink σ) (credentials : PublishCredentials) (stamps : Nat → Stamp) :
    Nat → List CanonicalEvent → σ → Except RelayError Nat × σ
  | done, [], s => (.ok done, s)
  | done, e :: rest, s =>
    match e.envelope (stamps done) with
    | .error cause => (.error (.build cause), s)
    | .ok envelope =>
      match sink.publish credentials envelope.body s with
      | (.error cause, s) => (.error (.publish cause), s)
      | (.ok (), s) => relayFrom sink credentials stamps (done + 1) rest s

def relay {σ : Type} (sink : Sink σ) (credentials : PublishCredentials) (stamps : Nat → Stamp)
    (events : List CanonicalEvent) (s : σ) : Except RelayError Nat × σ :=
  relayFrom sink credentials stamps 0 events s

end EventRelay
