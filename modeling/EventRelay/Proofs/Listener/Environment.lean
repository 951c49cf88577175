import EventRelay.Proofs.Listener.Publication
import EventRelay.Proofs.Provider.Lineage
import EventRelay.Store.Memory

/-!
# The environment on the wire

What the dashboard is told about the environment of a delivery is the first
of four answers that is not blank: what the payload itself names, the default
of the enabled mapping, the default of the process, and a fixed one. Each is
trimmed where it is found, the mapping's with its fallback when the target is
looked up, and the last two when the delivery is converted.
-/

set_option autoImplicit false

namespace EventRelay

open EventRelay.Http EventRelay.Json EventRelay.Text EventRelay.Store

/-! ## Of an event -/

namespace CanonicalEvent

theorem Says.environment_eq {e : CanonicalEvent} {stamp : Stamp} {body : Json}
    (htype : EventType.Settled e.eventType) (hbody : e.Says stamp body) :
    body.at? ["subject", "content", "environment", "id"] =
      some (.text (trimmed e.environment)) := by
  obtain ⟨id, rfl⟩ := hbody.eq_messageRead htype
  obtain ⟨hnormal, hkept⟩ := htype
  rw [messageRead_content, EventKind.ofLongType?_shown hnormal]
  cases hkind : EventKind.ofShortKey? e.eventType with
  | none => rfl
  | some kind =>
    rw [hkind, Option.elim_some] at hkept
    simp only [contentRead, hkept, if_true]
    generalize (if kind = .serviceRemoved then none else some (e.serviceArtifact stamp.now)) = named
    cases named with
    | none => rfl
    | some artifact => rfl

end CanonicalEvent

namespace Hook

/-- Where a payload names the environment, in the order in which the places are looked at. -/
def environmentPaths : Hook → List (List String)
  | .deploymentStatus => [["deployment_status", "environment"], ["deployment", "environment"]]
  | .pipeline => [["object_attributes", "ref"]]
  | .deployment => [["environment"]]
  | _ => []

def environments (hook : Hook) (v : Json) : List String :=
  hook.environmentPaths.map fun path => v.textAt path

theorem ownEnvironment_eq (hook : Hook) (v : Json) :
    hook.ownEnvironment v = firstNonBlank (hook.environments v) := by
  cases hook with
  | deploymentStatus => rfl
  | pipeline | deployment =>
    rw [ownEnvironment, environments, environmentPaths, List.map_cons, List.map_nil,
      firstNonBlank_singleton, trimmedAt]
  | _ => rfl

theorem trimmed_environment_event (hook : Hook) (d : Delivery) (service : String) (v : Json) :
    trimmed (hook.event d service v).environment =
      firstNonBlank (hook.environments v ++ [d.environment]) := by
  rw [environment_event, firstNonBlank_append, firstNonBlank_singleton, ← ownEnvironment_eq]
  split
  · rfl
  · exact hook.trimmed_ownEnvironment v

end Hook

/-! ## Of a delivery -/

namespace Webhook

variable {σ : Type} [Store σ]

/-- The enabled mapping of the installation that a delivery belongs to. -/
def enabledMapping? (settings : ListenerSettings) (request : Request) (s : σ) :
    Option InstallationMapping :=
  (settings.provider.installationId? request.body).bind fun id =>
    (getMapping id s).toOption.filter InstallationMapping.enabled

/-- The environments that stand in for one that the payload does not name. -/
def defaultEnvironments (settings : ListenerSettings) (request : Request) (s : σ) : List String :=
  (enabledMapping? settings request s).toList.map (fun m => m.profile.defaultEnvironment) ++
    [settings.defaults.defaultEnvironment, "production"]

def reading? (settings : ListenerSettings) (request : Request) : Option (Hook × Json) :=
  settings.provider.reading? (headerText request.headers settings.provider.eventHeader) request.body

variable {settings : ListenerSettings} {request : Request} {s : σ}

theorem eq_of_target {t : PublishTarget} (htarget : target settings request s = .ok t) :
    t = (enabledMapping? settings request s).elim (.ofDefaults settings.defaults)
      (.ofMapping settings.defaults) := by
  unfold target PublishTarget.find at htarget
  unfold enabledMapping?
  cases hid : settings.provider.installationId? request.body with
  | none =>
    rw [hid] at htarget
    cases htarget
    rfl
  | some id =>
    rw [hid] at htarget
    simp only [Option.bind_some] at htarget ⊢
    cases hmapping : getMapping id s with
    | ok m =>
      rw [hmapping] at htarget
      cases htarget
      rw [Except.toOption, Option.filter_some]
      split <;> rfl
    | error e =>
      rw [hmapping] at htarget
      cases e with
      | notFound =>
        cases htarget
        rfl
      | _ => cases htarget

theorem environment_target {t : PublishTarget} (htarget : target settings request s = .ok t)
    (rest : List String) : firstNonBlank (t.defaultEnvironment :: rest) =
      firstNonBlank ((enabledMapping? settings request s).toList.map
          (fun m => m.profile.defaultEnvironment) ++
        settings.defaults.defaultEnvironment :: rest) := by
  rw [eq_of_target htarget]
  cases enabledMapping? settings request s with
  | none => rfl
  | some m =>
    simp only [Option.elim_some, PublishTarget.ofMapping, firstNonBlank_orFallback,
      Option.toList_some, List.map_cons, List.map_nil, List.cons_append, List.nil_append]

theorem environment_delivery_target {t : PublishTarget}
    (htarget : target settings request s = .ok t) (deliveryId : Option DeliveryId) :
    firstNonBlank [(settings.provider.delivery deliveryId
        ⟨t.defaultEnvironment, settings.source⟩).environment] =
      firstNonBlank (defaultEnvironments settings request s) := by
  rw [Provider.delivery, firstNonBlank_orFallback, environment_target htarget, defaultEnvironments,
    EventRelay.defaultEnvironment]

/-- What is published tells the environment that the payload, the enabled mapping of its
installation and the process name, in this order; it is never blank. -/
theorem published_environment {κ : Type} (settings : ListenerSettings) (sink : Sink κ)
    (stamp : Stamp) (request : Request) (s : σ) (k : κ) {call : Call}
    (hcall : call ∈ (answer settings sink.recorded stamp request s (k, [])).2.2) :
    ∃ hook v body, reading? settings request = some (hook, v) ∧ parse? call.body = some body ∧
      body.at? ["subject", "content", "environment", "id"] = some (.text
        (firstNonBlank (hook.environments v ++ defaultEnvironments settings request s))) ∧
      firstNonBlank (hook.environments v ++ defaultEnvironments settings request s) ≠ "" := by
  obtain ⟨course, htakes, hcalls⟩ := exists_recorded settings sink stamp request s k
  rw [hcalls] at hcall
  obtain ⟨t, event, env, htarget, hevents, henv, hbody⟩ := htakes.of_called sink k hcall
  rcases Provider.convert_emits hevents with hnone | ⟨hook, v, hreading, -, hevent⟩
  · cases hnone
  obtain rfl := List.singleton_inj.mp hevent
  have hsays : CanonicalEvent.Says _ stamp _ := ⟨env, henv, Envelope.parse?_body env⟩
  have hread := hsays.environment_eq (hook.settled_event _ _ v)
  rw [hook.trimmed_environment_event, firstNonBlank_append,
    environment_delivery_target htarget, ← firstNonBlank_append] at hread
  refine ⟨hook, v, _, hreading, ?_, hread, ?_⟩
  · rw [hbody]
    exact Envelope.parse?_body env
  · have hproduction : "production" ∈ defaultEnvironments settings request s :=
      List.mem_append_right _ (List.mem_cons_of_mem _ List.mem_cons_self)
    exact firstNonBlank_ne_empty (List.mem_append_right _ hproduction) (by decide)

def stagingSettings : ListenerSettings where
  provider := .gitlab
  webhookPath := "/webhooks/gitlab"
  webhookSecret := "hook"
  defaults := { defaultEnvironment := "process" }

def stagingProfile : TenantProfile where
  credentials := ⟨"https://tenant", "token", "secret"⟩
  defaultEnvironment := " staging "

def stagingStore : MemoryStore := (upsertMapping ⟨⟨7⟩, stagingProfile, true⟩ ({} : MemoryStore)).2

def blankDeployment : Request :=
  { method := "POST"
    path := "/webhooks/gitlab"
    query := []
    headers :=
      [("x-gitlab-token", "hook".toUTF8.toList),
        ("x-gitlab-event", "Deployment Hook".toUTF8.toList)]
    body := ("\x7b\"project_id\":7,\"project\":\x7b\"name\":\"orders\"\x7d," ++
      "\"environment\":\" \\t\",\"status\":\"success\"\x7d").toUTF8.toList }

def deploymentCalls : List Call :=
  (answer stagingSettings (⟨fun _ _ n => (.ok (), n + 1)⟩ : Sink Nat).recorded ⟨.epoch, "u"⟩
    blankDeployment stagingStore (0, [])).2.2

theorem blank_deployment_in_staging :
    ∃ call body, deploymentCalls = [call] ∧ parse? call.body = some body ∧
      body.at? ["subject", "content", "environment", "id"] = some (.text "staging") := by
  have hlength : deploymentCalls.length = 1 := by decide +kernel
  have hfirst : (reading? stagingSettings blankDeployment).map (fun r => firstNonBlank
      (r.1.environments r.2 ++ defaultEnvironments stagingSettings blankDeployment stagingStore)) =
        some "staging" := by
    decide +kernel
  obtain ⟨call, hcall⟩ := List.length_eq_one_iff.mp hlength
  have hmem : call ∈ deploymentCalls := by
    rw [hcall]
    exact List.mem_cons_self
  obtain ⟨hook, v, body, hreading, hbody, hread, -⟩ :=
    published_environment stagingSettings _ _ blankDeployment stagingStore 0 hmem
  rw [hreading, Option.map_some] at hfirst
  rw [Option.some.inj hfirst] at hread
  exact ⟨call, body, hcall, hbody, hread⟩

end Webhook

end EventRelay
