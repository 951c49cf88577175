import EventRelay.Json.Form
import EventRelay.Text.Blank

/-!
# Hooks

The two kinds of sender whose deliveries are relayed, where each puts the name
of an event and the id of a delivery, and the ten kinds of delivery that are
understood, five for each provider, with the form of the payload that each one
reads.
-/

set_option autoImplicit false

namespace EventRelay

/-! ## Providers -/

inductive Provider where
  | github
  | gitlab
  deriving DecidableEq, Repr

namespace Provider

open EventRelay.Text

def name : Provider → String
  | .github => "github"
  | .gitlab => "gitlab"

def title : Provider → String
  | .github => "GitHub"
  | .gitlab => "GitLab"

def ofName? (raw : String) : Option Provider :=
  let value := lowerAscii (trimmed raw)
  if value = "github" then some .github else if value = "gitlab" then some .gitlab else none

def defaultSource : Provider → String
  | .github => "github/app"
  | .gitlab => "gitlab/webhook"

def eventHeader : Provider → String
  | .github => "x-github-event"
  | .gitlab => "x-gitlab-event"

def deliveryHeader : Provider → String
  | .github => "x-github-delivery"
  | .gitlab => "x-gitlab-event-uuid"

def defaultWebhookPath (p : Provider) : String := "/webhooks/" ++ p.name

end Provider

structure DeliveryId where
  text : String
  deriving DecidableEq, Repr

def DeliveryId.ofText? (raw : String) : Option DeliveryId := (Text.nonBlank? raw).map DeliveryId.mk

/-! ## Kinds of delivery -/

open EventRelay.Json

inductive Hook where
  | release
  | deploymentStatus
  | workflowRun
  | push
  | pullRequest
  | projectPush
  | tagPush
  | pipeline
  | deployment
  | mergeRequest
  deriving DecidableEq, Repr

namespace Hook

def ofProvider : Provider → List Hook
  | .github => [.release, .deploymentStatus, .workflowRun, .push, .pullRequest]
  | .gitlab => [.projectPush, .tagPush, .pipeline, .deployment, .mergeRequest]

def name : Hook → String
  | .release => "release"
  | .deploymentStatus => "deployment_status"
  | .workflowRun => "workflow_run"
  | .push => "push"
  | .pullRequest => "pull_request"
  | .projectPush => "Push Hook"
  | .tagPush => "Tag Push Hook"
  | .pipeline => "Pipeline Hook"
  | .deployment => "Deployment Hook"
  | .mergeRequest => "Merge Request Hook"

def repository : Form := .record "Repository" [("name", .text)]

def user : Form := .record "User" [("login", .text)]

def named : Form := .record "Named" [("name", .text)]

def members : Hook → List (String × Form)
  | .release =>
    [("action", .text), ("repository", repository),
     ("release", .record "Release" [("tag_name", .text), ("html_url", .text)]), ("sender", user)]
  | .deploymentStatus =>
    [("repository", repository),
     ("deployment", .record "Deployment" [("environment", .text), ("sha", .text)]),
     ("deployment_status", .record "DeploymentStatus"
       [("state", .text), ("environment", .text), ("target_url", .text)]),
     ("sender", user)]
  | .workflowRun =>
    [("action", .text), ("repository", repository),
     ("workflow_run", .record "WorkflowRun"
       [("id", .integer), ("conclusion", .text), ("html_url", .text), ("head_sha", .text)]),
     ("sender", user)]
  | .push =>
    [("after", .text), ("repository", repository), ("pusher", .record "Pusher" [("name", .text)])]
  | .pullRequest =>
    [("action", .text),
     ("pull_request", .record "PullRequest"
       [("number", .integer), ("merged", .flag), ("head", .record "Head" [("sha", .text)])]),
     ("repository", repository), ("sender", user)]
  | .projectPush =>
    [("after", .text), ("user_name", .text), ("project", named), ("repository", named)]
  | .tagPush =>
    [("ref", .text), ("user_name", .text), ("project", named),
     ("repository", .record "Homepage" [("homepage", .text)])]
  | .pipeline =>
    [("object_attributes", .record "PipelineAttributes"
       [("id", .integer), ("status", .text), ("url", .text), ("sha", .text), ("ref", .text)]),
     ("user", named), ("project", named)]
  | .deployment =>
    [("status", .text), ("environment", .text), ("sha", .text), ("short_sha", .text),
     ("user", named), ("project", named)]
  | .mergeRequest =>
    [("object_attributes", .record "MergeRequestAttributes"
       [("iid", .integer), ("action", .text), ("state", .text),
        ("last_commit", .record "Commit" [("id", .text)])]),
     ("user", named), ("project", named)]

def form (hook : Hook) : Form := .record "Payload" hook.members

end Hook

def Provider.hook? (p : Provider) (eventName : String) : Option Hook :=
  (Hook.ofProvider p).find? fun hook => hook.name == eventName

end EventRelay
