import EventRelay.Json.Shape
import EventRelay.Text.Lower

/-!
# Canonical events

Eight kinds of event have a short key and a long, versioned type. Every other
type is custom text, accepted only under one of four roots. A type names what
its subject is, by how it starts or by what it contains. The canonical event is
the record that every provider's deliveries are turned into; artifacts and
commits are named in it.
-/

set_option autoImplicit false

namespace EventRelay

/-! ## Event types -/

inductive EventKind where
  | serviceDeployed
  | serviceUpgraded
  | serviceRolledback
  | serviceRemoved
  | servicePublished
  | environmentCreated
  | environmentModified
  | environmentDeleted
  deriving DecidableEq, Repr

namespace EventKind

def all : List EventKind :=
  [.serviceDeployed, .serviceUpgraded, .serviceRolledback, .serviceRemoved, .servicePublished,
   .environmentCreated, .environmentModified, .environmentDeleted]

def name : EventKind → String
  | .serviceDeployed => "ServiceDeployed"
  | .serviceUpgraded => "ServiceUpgraded"
  | .serviceRolledback => "ServiceRolledback"
  | .serviceRemoved => "ServiceRemoved"
  | .servicePublished => "ServicePublished"
  | .environmentCreated => "EnvironmentCreated"
  | .environmentModified => "EnvironmentModified"
  | .environmentDeleted => "EnvironmentDeleted"

def shortKey : EventKind → String
  | .serviceDeployed => "service.deployed"
  | .serviceUpgraded => "service.upgraded"
  | .serviceRolledback => "service.rolledback"
  | .serviceRemoved => "service.removed"
  | .servicePublished => "service.published"
  | .environmentCreated => "environment.created"
  | .environmentModified => "environment.modified"
  | .environmentDeleted => "environment.deleted"

def longType (kind : EventKind) : String := "dev.cdevents." ++ kind.shortKey ++ ".0.3.0"

def ofShortKey? (key : String) : Option EventKind := all.find? fun kind => kind.shortKey == key

def isEnvironment : EventKind → Bool
  | .environmentCreated | .environmentModified | .environmentDeleted => true
  | _ => false

def isService (kind : EventKind) : Bool := !kind.isEnvironment

def carriesArtifact (kind : EventKind) : Bool := kind.isService && kind != .serviceRemoved

end EventKind

inductive SubjectType where
  | service
  | environment
  | pipeline
  | change
  | artifact
  | incident
  deriving DecidableEq, Repr

namespace SubjectType

def all : List SubjectType := [.service, .environment, .pipeline, .change, .artifact, .incident]

def name : SubjectType → String
  | .service => "service"
  | .environment => "environment"
  | .pipeline => "pipeline"
  | .change => "change"
  | .artifact => "artifact"
  | .incident => "incident"

end SubjectType

instance : Json.Schema EventKind where
  shape := .choice (EventKind.all.map EventKind.name)
  toJson kind := .text kind.name
  ofJson? v :=
    match v with
    | .text s => EventKind.all.find? fun kind => kind.name == s
    | _ => none

instance : Json.Schema SubjectType where
  shape := .choice (SubjectType.all.map SubjectType.name)
  toJson subject := .text subject.name
  ofJson? v :=
    match v with
    | .text s => SubjectType.all.find? fun subject => subject.name == s
    | _ => none

namespace EventType

open EventRelay.Text

def aliases : List (String × EventKind) :=
  ("", .serviceDeployed) :: EventKind.all.map fun kind => (kind.longType, kind)

/-- The type as looked up: trimmed, in lower case, and by its short key if it has one. A blank
type is a deployment. -/
def normalize (raw : String) : String :=
  let value := lower (trimmed raw)
  match aliases.lookup value with
  | some kind => kind.shortKey
  | none => value

def customRoots : List String :=
  ["dev.cdevents.pipeline.", "dev.cdevents.change.", "dev.cdevents.artifact.",
   "dev.cdevents.incident."]

def isAcceptedCustom (raw : String) : Bool :=
  let value := lower (trimmed raw)
  customRoots.any fun root => startsWith root value

def openings : List (String × SubjectType) :=
  [("service.", .service), ("environment.", .environment)]

def middles : List (String × SubjectType) :=
  [(".pipeline.", .pipeline), (".change.", .change), (".artifact.", .artifact),
   (".incident.", .incident)]

/-- What a type is about. Openings come before middles, and each list counts in its order. -/
def subject (type : String) : SubjectType :=
  match openings.find? fun rule => startsWith rule.1 type with
  | some rule => rule.2
  | none =>
    match middles.find? fun rule => contains rule.1 type with
    | some rule => rule.2
    | none => .service

end EventType

/-! ## The record -/

open EventRelay.Text

structure CanonicalEvent where
  eventType : String := ""
  source : String := ""
  service : String := ""
  environment : String := ""
  artifact : String := ""
  subjectId : String := ""
  subjectType : String := ""
  chainId : String := ""
  actorName : String := ""
  pipelineRun : String := ""
  pipelineUrl : String := ""
  deriving DecidableEq, Repr

namespace CanonicalEvent

def keys : List String :=
  ["type", "source", "service", "environment", "artifact", "subjectId", "subjectType", "chainId",
   "actorName", "pipelineRun", "pipelineURL"]

def values (e : CanonicalEvent) : List String :=
  [e.eventType, e.source, e.service, e.environment, e.artifact, e.subjectId, e.subjectType,
   e.chainId, e.actorName, e.pipelineRun, e.pipelineUrl]

def toJson (e : CanonicalEvent) : Json := .object (keys.zip (e.values.map Json.text))

def ofJson (v : Json) : CanonicalEvent :=
  { eventType := v.textAt ["type"]
    source := v.textAt ["source"]
    service := v.textAt ["service"]
    environment := v.textAt ["environment"]
    artifact := v.textAt ["artifact"]
    subjectId := v.textAt ["subjectId"]
    subjectType := v.textAt ["subjectType"]
    chainId := v.textAt ["chainId"]
    actorName := v.textAt ["actorName"]
    pipelineRun := v.textAt ["pipelineRun"]
    pipelineUrl := v.textAt ["pipelineURL"] }

end CanonicalEvent

instance : Json.Schema CanonicalEvent where
  shape := .record (CanonicalEvent.keys.map fun key => (key, none, .text))
  toJson := CanonicalEvent.toJson
  ofJson? v := some (CanonicalEvent.ofJson v)

def artifactId (service reference : String) : String :=
  "pkg:generic/" ++ service ++ "@" ++ reference

def shortSha (value : String) : String :=
  let cs := trimChars value.toList
  if cs.isEmpty then "unknown" else String.ofList (cs.take 12)

/-- The subject id that service and environment suggest; empty when they suggest none. A service
that holds a slash is a full id already. -/
def inferSubjectId (subjectType service environment : String) : String :=
  let subjectType := trimmed subjectType
  let service := trimmed service
  let environment := trimmed environment
  if service ≠ "" then
    if service.toList.contains '/' then service else subjectType ++ "/" ++ service
  else if subjectType = SubjectType.environment.name ∧ environment ≠ "" then
    "environment/" ++ environment
  else ""

end EventRelay
