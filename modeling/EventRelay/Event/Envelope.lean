import EventRelay.Event.Canonical
import EventRelay.Text.Numeral
import EventRelay.Text.Quoted
import EventRelay.Time.Text

/-!
# Envelopes

The wire form of an event. A known kind gets an envelope of its own content;
an accepted custom type gets the general one; no other event has an envelope.
The clock and the random id are given from outside: sixteen random octets are
written as a version 4 UUID, six of whose bits say which form it is.
-/

set_option autoImplicit false

namespace EventRelay.Uuid

/-! ## Random ids -/

def marked (octets : List UInt8) : List UInt8 :=
  octets.mapIdx fun i b =>
    if i = 6 then (b &&& 0x0F) ||| 0x40 else if i = 8 then (b &&& 0x3F) ||| 0x80 else b

def groups : List Nat → List Char → List (List Char)
  | [], _ => []
  | n :: sizes, cs => cs.take n :: groups sizes (cs.drop n)

def text (octets : List UInt8) : String :=
  String.ofList (List.intercalate ['-'] (groups [8, 4, 4, 4, 12] (Hex.encode (marked octets))))

end EventRelay.Uuid

namespace EventRelay

open EventRelay.Text

inductive BuildError where
  | missingSubject
  | missingServiceOrEnvironment
  | missingEnvironment
  | unsupportedType (raw : String)
  deriving DecidableEq, Repr

def BuildError.message : BuildError → String
  | .missingSubject =>
    "subject is required (set subject-id, service, or environment based on event type)"
  | .missingServiceOrEnvironment => "service and environment are required for service events"
  | .missingEnvironment => "environment is required for environment events"
  | .unsupportedType raw => "unsupported event type " ++ quoted raw

structure Stamp where
  now : Timestamp
  uuid : String

inductive Content where
  | service (place : String) (artifact : Option String)
  | environment
  | general (place artifact runId url actor : String)
  deriving DecidableEq, Repr

structure Envelope where
  id : String
  source : String
  resolvedType : String
  timestamp : String
  chainId : Option String
  subjectId : String
  subjectType : String
  content : Content
  deriving DecidableEq, Repr

def specVersion : String := "0.5.0"

def defaultSource : String := "ci/pipeline"

/-! ## The wire form -/

def optionalMember (key : String) : Option String → List (String × Json)
  | some s => [(key, .text s)]
  | none => []

def reference (id : String) : Json := .object [("id", .text id)]

def Content.toJson : Content → Json
  | .service place artifact =>
    .object (("environment", reference place) :: optionalMember "artifactId" artifact)
  | .environment => .object []
  | .general place artifact runId url actor =>
    .object [("environment", reference place), ("artifactId", .text artifact),
      ("pipeline", .object [("runId", .text runId), ("url", .text url)]),
      ("actor", .object [("name", .text actor)])]

namespace Envelope

def contextJson (e : Envelope) : Json :=
  .object ([("specversion", .text specVersion), ("id", .text e.id), ("source", .text e.source),
    ("type", .text e.resolvedType), ("timestamp", .text e.timestamp)] ++
    optionalMember "chainId" e.chainId)

def subjectJson (e : Envelope) : Json :=
  .object [("id", .text e.subjectId), ("source", .text e.source), ("type", .text e.subjectType),
    ("content", e.content.toJson)]

def toJson (e : Envelope) : Json :=
  .object [("context", e.contextJson), ("subject", e.subjectJson)]

def body (e : Envelope) : List UInt8 := e.toJson.octets

end Envelope

/-! ## Building -/

namespace CanonicalEvent

/-- The given artifact; a service event without one is named by the time. -/
def resolvedArtifact (e : CanonicalEvent) (now : Timestamp) : String :=
  let artifact := trimmed e.artifact
  if artifact = "" ∧ startsWith "service." (EventType.normalize e.eventType) then
    artifactId (trimmed e.service) (integerText now.seconds)
  else artifact

def resolvedSubjectType (e : CanonicalEvent) : String :=
  orFallback (EventType.subject (EventType.normalize e.eventType)).name e.subjectType

/-- The given subject id or the one suggested, with the subject type before it unless it holds a
slash. None when there is neither. -/
def resolvedSubjectId? (e : CanonicalEvent) : Option String :=
  let subjectType := e.resolvedSubjectType
  let id := orFallback (inferSubjectId subjectType e.service e.environment) e.subjectId
  if id = "" then none
  else if id.toList.contains '/' then some id
  else some (subjectType ++ "/" ++ id)

def strictEnvelope (e : CanonicalEvent) (stamp : Stamp) (kind : EventKind) (subjectId : String) :
    Except BuildError Envelope :=
  let service := trimmed e.service
  let environment := trimmed e.environment
  let envelope (subjectType : String) (content : Content) : Envelope :=
    { id := stamp.uuid
      source := orFallback defaultSource e.source
      resolvedType := kind.longType
      timestamp := stamp.now.nanosText
      chainId := none
      subjectId := subjectId
      subjectType := subjectType
      content := content }
  if kind.isService then
    if service = "" ∨ environment = "" then .error .missingServiceOrEnvironment
    else
      .ok (envelope "service" (.service environment
        (if kind.carriesArtifact then some (e.resolvedArtifact stamp.now) else none)))
  else if environment = "" then .error .missingEnvironment
  else .ok (envelope "environment" .environment)

def generalEnvelope (e : CanonicalEvent) (stamp : Stamp) (subjectId : String) : Envelope :=
  { id := integerText stamp.now.unixNanos
    source := orFallback defaultSource e.source
    resolvedType := EventType.normalize e.eventType
    timestamp := stamp.now.nanosText
    chainId := nonBlank? e.chainId
    subjectId := subjectId
    subjectType := e.resolvedSubjectType
    content := .general (trimmed e.environment) (e.resolvedArtifact stamp.now)
      (trimmed e.pipelineRun) (trimmed e.pipelineUrl) (trimmed e.actorName) }

/-- The envelope of an event at a time. -/
def envelope (e : CanonicalEvent) (stamp : Stamp) : Except BuildError Envelope :=
  match e.resolvedSubjectId? with
  | none => .error .missingSubject
  | some subjectId =>
    match EventKind.ofShortKey? (EventType.normalize e.eventType) with
    | some kind => e.strictEnvelope stamp kind subjectId
    | none =>
      if EventType.isAcceptedCustom (EventType.normalize e.eventType) then
        .ok (e.generalEnvelope stamp subjectId)
      else .error (.unsupportedType e.eventType)

end CanonicalEvent

end EventRelay
