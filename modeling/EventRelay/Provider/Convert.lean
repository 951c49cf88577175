import EventRelay.Event.Canonical
import EventRelay.Json.Reader
import EventRelay.Provider.Hook
import EventRelay.Tenant.Profile

/-!
# From deliveries to events

A delivery of a known kind becomes at most one canonical event. It becomes
none when its payload names no repository or project, or when it is a release
that is not published. Every text of the payload is taken trimmed.
-/

set_option autoImplicit false

namespace EventRelay

open EventRelay.Text

structure ConvertSettings where
  defaultEnvironment : String := ""
  source : String := ""
  deriving DecidableEq, Repr

structure Delivery where
  source : String
  environment : String
  chain : String
  deriving DecidableEq, Repr

structure ConvertError where
  event : String
  cause : Option Json.Mismatch

def ConvertError.message? (e : ConvertError) : Option String :=
  e.cause.map fun cause => "malformed " ++ e.event ++ " payload: " ++ cause.message

def defaultEnvironment : String := "production"

/-! ## Types of events -/

def deploymentStates : List (String × String) :=
  [("success", "service.deployed"), ("failure", "service.removed"), ("error", "service.removed"),
   ("inactive", "service.removed"), ("in_progress", "service.upgraded"),
   ("queued", "service.upgraded"), ("pending", "service.upgraded")]

def deploymentStatuses : List (String × String) :=
  [("success", "service.deployed"), ("failed", "service.removed"),
   ("canceled", "service.removed")]

def pipelineStarted : String := "dev.cdevents.pipeline.run.started.0.3.0"

def pipelineSucceeded : String := "dev.cdevents.pipeline.run.succeeded.0.3.0"

def pipelineFailed : String := "dev.cdevents.pipeline.run.failed.0.3.0"

def pipelineStatuses : List (String × String) :=
  [("success", pipelineSucceeded), ("failed", pipelineFailed), ("canceled", pipelineFailed)]

def changeType (suffix : String) : String := "dev.cdevents.change." ++ suffix ++ ".0.3.0"

namespace Hook

def trimmedAt (path : List String) (p : Json) : String := trimmed (p.textAt path)

def service : Hook → Json → String
  | .projectPush, p =>
    firstNonBlank [p.textAt ["project", "name"], p.textAt ["repository", "name"]]
  | .release, p | .deploymentStatus, p | .workflowRun, p | .push, p | .pullRequest, p =>
    trimmedAt ["repository", "name"] p
  | _, p => trimmedAt ["project", "name"] p

def isSkipped : Hook → Json → Bool
  | .release, p => trimmedAt ["action"] p != "published"
  | _, _ => false

def eventType : Hook → Json → String
  | .release, _ | .tagPush, _ => "service.published"
  | .deploymentStatus, p =>
    (deploymentStates.lookup (lower (trimmedAt ["deployment_status", "state"] p))).getD
      "service.upgraded"
  | .deployment, p =>
    (deploymentStatuses.lookup (lower (trimmedAt ["status"] p))).getD "service.upgraded"
  | .workflowRun, p =>
    if sameAscii (trimmedAt ["action"] p) "completed" then
      if sameAscii (trimmedAt ["workflow_run", "conclusion"] p) "success" then pipelineSucceeded
      else pipelineFailed
    else pipelineStarted
  | .pipeline, p =>
    (pipelineStatuses.lookup (lower (trimmedAt ["object_attributes", "status"] p))).getD
      pipelineStarted
  | .push, _ | .projectPush, _ => changeType "pushed"
  | .pullRequest, p =>
    let action := lower (trimmedAt ["action"] p)
    if action = "closed" ∧ p.flagAt ["pull_request", "merged"] then changeType "merged"
    else if action = "" then changeType "updated"
    else changeType action
  | .mergeRequest, p =>
    let action := lower (firstNonBlank
      [p.textAt ["object_attributes", "action"], p.textAt ["object_attributes", "state"]])
    if action = "merge" ∨ action = "merged" then changeType "merged"
    else if action = "" then changeType "updated"
    else changeType action

def tagOf (ref : String) : String :=
  match dropHead? "refs/tags/".toList ref.toList with
  | some rest => String.ofList rest
  | none => ref

def version : Hook → Json → String
  | .release, p =>
    let tag := trimmedAt ["release", "tag_name"] p
    if tag = "" then "latest" else tag
  | .tagPush, p =>
    let tag := tagOf (trimmedAt ["ref"] p)
    if tag = "" then "latest" else tag
  | .deploymentStatus, p => shortSha (p.textAt ["deployment", "sha"])
  | .workflowRun, p => shortSha (p.textAt ["workflow_run", "head_sha"])
  | .push, p | .projectPush, p => shortSha (p.textAt ["after"])
  | .pullRequest, p => shortSha (p.textAt ["pull_request", "head", "sha"])
  | .pipeline, p => shortSha (p.textAt ["object_attributes", "sha"])
  | .deployment, p => shortSha (firstNonBlank [p.textAt ["short_sha"], p.textAt ["sha"]])
  | .mergeRequest, p => shortSha (p.textAt ["object_attributes", "last_commit", "id"])

/-- The environment that the payload itself names; a pipeline's ref stands in for one. -/
def ownEnvironment : Hook → Json → String
  | .deploymentStatus, p =>
    firstNonBlank
      [p.textAt ["deployment_status", "environment"], p.textAt ["deployment", "environment"]]
  | .pipeline, p => trimmedAt ["object_attributes", "ref"] p
  | .deployment, p => trimmedAt ["environment"] p
  | _, _ => ""

def runId : Hook → Json → Option String
  | .workflowRun, p => some (integerText (p.integerAt ["workflow_run", "id"]))
  | .pipeline, p => some (integerText (p.integerAt ["object_attributes", "id"]))
  | _, _ => none

def changeName : Hook → Json → Option String
  | .push, p | .projectPush, p => some (shortSha (p.textAt ["after"]))
  | .pullRequest, p => some ("pr-" ++ integerText (p.integerAt ["pull_request", "number"]))
  | .mergeRequest, p => some ("mr-" ++ integerText (p.integerAt ["object_attributes", "iid"]))
  | _, _ => none

def actor : Hook → Json → String
  | .push, p => trimmedAt ["pusher", "name"] p
  | .projectPush, p | .tagPush, p => trimmedAt ["user_name"] p
  | .pipeline, p | .deployment, p | .mergeRequest, p => trimmedAt ["user", "name"] p
  | _, p => trimmedAt ["sender", "login"] p

def url : Hook → Json → String
  | .release, p => trimmedAt ["release", "html_url"] p
  | .deploymentStatus, p => trimmedAt ["deployment_status", "target_url"] p
  | .workflowRun, p => trimmedAt ["workflow_run", "html_url"] p
  | .tagPush, p => trimmedAt ["repository", "homepage"] p
  | .pipeline, p => trimmedAt ["object_attributes", "url"] p
  | _, _ => ""

/-- The event of a filled form about a service. Runs and changes name their subject, and changes
alone carry the chain. -/
def event (hook : Hook) (d : Delivery) (service : String) (p : Json) : CanonicalEvent :=
  let environment := hook.ownEnvironment p
  let base : CanonicalEvent :=
    { eventType := hook.eventType p
      source := d.source
      service := service
      environment := if environment = "" then d.environment else environment
      artifact := artifactId service (hook.version p)
      actorName := hook.actor p
      pipelineUrl := hook.url p }
  match hook.runId p, hook.changeName p with
  | some run, _ =>
    { base with
      subjectType := "pipeline", subjectId := "pipeline/" ++ service ++ "/" ++ run
      pipelineRun := run }
  | none, some change =>
    { base with subjectType := "change", subjectId := "change/" ++ change, chainId := d.chain }
  | none, none => base

def events (hook : Hook) (d : Delivery) (p : Json) : List CanonicalEvent :=
  let service := hook.service p
  if hook.isSkipped p ∨ service = "" then [] else [hook.event d service p]

end Hook

namespace Provider

/-- The events of one delivery. An event name that announces nothing known gives none, whatever
the payload. -/
def convert (p : Provider) (eventName : String) (deliveryId : Option DeliveryId)
    (payload : List UInt8) (settings : ConvertSettings) :
    Except ConvertError (List CanonicalEvent) :=
  let eventName := trimmed eventName
  match p.hook? eventName with
  | none => .ok []
  | some hook =>
    let delivery : Delivery :=
      { source := orFallback p.defaultSource settings.source
        environment := orFallback EventRelay.defaultEnvironment settings.defaultEnvironment
        chain := (deliveryId.map DeliveryId.text).getD "" }
    match Json.parse? payload with
    | none => .error ⟨eventName, none⟩
    | some v =>
      match hook.form.read v with
      | .error cause => .error ⟨eventName, some cause⟩
      | .ok filled => .ok (hook.events delivery filled)

def positiveId? : Option Json → Option InstallationId
  | some (.number (.integer n)) => if Json.fitsInt64 n then InstallationId.ofInt? n else none
  | some (.text s) => InstallationId.read? s
  | _ => none

/-- The installation or project that a payload belongs to. -/
def installationOf : Provider → Json → Option InstallationId
  | .github, v => positiveId? (v.at? ["installation", "id"])
  | .gitlab, v =>
    (positiveId? (v.at? ["project_id"])).or (positiveId? (v.at? ["project", "id"]))

def installationId? (p : Provider) (payload : List UInt8) : Option InstallationId :=
  (Json.parse? payload).bind p.installationOf

end Provider

end EventRelay
