import EventRelay.Proofs.Json.Filling
import EventRelay.Proofs.Provider.Conversion

/-!
# What a delivery comes to

A delivery comes to nothing, to one event, or to an error. Which of these it
is depends on its name and its payload alone: the payload of a known name has
to fill the form of its hook, and it has to name a repository or project; a
release has to be published besides. The settings and the delivery id only
show inside the event.
-/

set_option autoImplicit false

namespace EventRelay

open EventRelay.Text

inductive Fate where
  | nothing
  | event
  | malformed
  deriving DecidableEq

def Fate.of : Except ConvertError (List CanonicalEvent) → Fate
  | .ok [] => .nothing
  | .ok (_ :: _) => .event
  | .error _ => .malformed

namespace Hook

variable {hook : Hook} {v : Json}

/-- Where a payload names its repository or project; the first name that is not blank counts. -/
def namePaths : Hook → List (List String)
  | .release | .deploymentStatus | .workflowRun | .push | .pullRequest => [["repository", "name"]]
  | .projectPush => [["project", "name"], ["repository", "name"]]
  | .tagPush | .pipeline | .deployment | .mergeRequest => [["project", "name"]]

def Silent (hook : Hook) (v : Json) : Prop :=
  (∀ path ∈ hook.namePaths, trimmed (v.textAt path) = "") ∨
    hook = .release ∧ trimmed (v.textAt ["action"]) ≠ "published"

instance (hook : Hook) (v : Json) : Decidable (hook.Silent v) :=
  inferInstanceAs (Decidable (_ ∨ _))

/-- What an event tells of the payload that it comes from, and of what stands in for it. -/
structure Tells (hook : Hook) (v : Json) (event : CanonicalEvent) : Prop where
  service : ∃ front path back, hook.namePaths = front ++ path :: back ∧
    (∀ earlier ∈ front, trimmed (v.textAt earlier) = "") ∧
    event.service = trimmed (v.textAt path)
  service_named : event.service ≠ ""
  source : trimmed event.source ≠ ""
  environment : trimmed event.environment ≠ ""
  eventType : EventType.IsDocumented event.eventType

theorem service_eq (hook : Hook) (v : Json) :
    hook.service v = firstNonBlank (hook.namePaths.map fun path => v.textAt path) := by
  cases hook with
  | projectPush => rfl
  | _ => exact (firstNonBlank_singleton _).symm

theorem service_eq_empty_iff :
    hook.service v = "" ↔ ∀ path ∈ hook.namePaths, trimmed (v.textAt path) = "" := by
  rw [service_eq, firstNonBlank_eq_empty_iff, List.forall_mem_map]

theorem isSkipped_iff :
    hook.isSkipped v = true ↔ hook = .release ∧ trimmed (v.textAt ["action"]) ≠ "published" := by
  cases hook <;> simp [isSkipped, trimmedAt]

theorem events_eq (hook : Hook) (d : Delivery) (v : Json) :
    hook.events d v = if hook.Silent v then [] else [hook.event d (hook.service v) v] := by
  have hsilent : (hook.isSkipped v = true ∨ hook.service v = "") ↔ hook.Silent v := by
    rw [isSkipped_iff, service_eq_empty_iff, or_comm]
    rfl
  simp only [events, hsilent]

theorem exists_path_of_service (h : hook.service v ≠ "") :
    ∃ front path back, hook.namePaths = front ++ path :: back ∧
      (∀ earlier ∈ front, trimmed (v.textAt earlier) = "") ∧
      hook.service v = trimmed (v.textAt path) := by
  rw [service_eq] at h ⊢
  generalize hook.namePaths = paths at h ⊢
  induction paths with
  | nil => exact absurd rfl h
  | cons path rest ih =>
    rw [List.map_cons, firstNonBlank] at h ⊢
    by_cases hpath : trimmed (v.textAt path) = ""
    · simp only [hpath, if_true] at h ⊢
      obtain ⟨front, found, back, rfl, hfront, hfound⟩ := ih h
      refine ⟨path :: front, found, back, rfl, ?_, hfound⟩
      exact List.forall_mem_cons.mpr ⟨hpath, hfront⟩
    · simp only [hpath, if_false]
      exact ⟨[], path, rest, rfl, List.forall_mem_nil _, rfl⟩

end Hook

namespace Provider

variable {p : Provider} {name : String} {payload : List UInt8} {hook : Hook} {raw v : Json}
  {fate : Fate}

theorem hook?_eq_some_iff :
    p.hook? name = some hook ↔ hook ∈ Hook.ofProvider p ∧ hook.name = name := by
  constructor
  · intro h
    exact ⟨List.mem_of_find?_eq_some h, name_of_hook? h⟩
  · rintro ⟨hmem, rfl⟩
    revert hmem
    cases p <;> cases hook <;> decide

theorem hook?_eq_none_iff :
    p.hook? name = none ↔ ∀ hook ∈ Hook.ofProvider p, hook.name ≠ name := by
  simp only [hook?, List.find?_eq_none, beq_iff_eq]

def Announces (p : Provider) (name : String) (hook : Hook) : Prop :=
  hook ∈ Hook.ofProvider p ∧ hook.name = trimmed name

def Decodes (hook : Hook) (payload : List UInt8) (v : Json) : Prop :=
  ∃ raw, Json.parse? payload = some raw ∧ hook.form.read raw = .ok v

/-- The fate of a delivery by its name and payload. -/
inductive Fated (p : Provider) (name : String) (payload : List UInt8) : Fate → Prop
  | unannounced (h : ∀ hook ∈ Hook.ofProvider p, hook.name ≠ trimmed name) :
      Fated p name payload .nothing
  | malformed {hook : Hook} (h : p.Announces name hook)
      (hpayload : ∀ raw, Json.parse? payload = some raw → ¬ hook.form.TakesPayload raw) :
      Fated p name payload .malformed
  | silent {hook : Hook} {v : Json} (h : p.Announces name hook) (hv : Decodes hook payload v)
      (hsilent : hook.Silent v) : Fated p name payload .nothing
  | heard {hook : Hook} {v : Json} (h : p.Announces name hook) (hv : Decodes hook payload v)
      (hheard : ¬ hook.Silent v) : Fated p name payload .event

section

variable (deliveryId : Option DeliveryId) (settings : ConvertSettings)

theorem convert_of_unannounced (h : ∀ hook ∈ Hook.ofProvider p, hook.name ≠ trimmed name) :
    p.convert name deliveryId payload settings = .ok [] := by
  simp only [convert, hook?_eq_none_iff.mpr h]

theorem convert_of_announced (h : p.Announces name hook) :
    p.convert name deliveryId payload settings =
      match Json.parse? payload with
      | none => .error ⟨trimmed name, none⟩
      | some raw =>
        match hook.form.read raw with
        | .error cause => .error ⟨trimmed name, some cause⟩
        | .ok v => .ok (hook.events (p.delivery deliveryId settings) v) := by
  simp only [convert, hook?_eq_some_iff.mpr h]
  rfl

theorem convert_of_decodes (h : p.Announces name hook) (hv : Decodes hook payload v) :
    p.convert name deliveryId payload settings = .ok (if hook.Silent v then [] else
      [hook.event (p.delivery deliveryId settings) (hook.service v) v]) := by
  obtain ⟨raw, hraw, hread⟩ := hv
  simp only [convert_of_announced deliveryId settings h, hraw, hread, Hook.events_eq]

theorem convert_of_malformed (h : p.Announces name hook)
    (hpayload : ∀ raw, Json.parse? payload = some raw → ¬ hook.form.TakesPayload raw) :
    ∃ cause, p.convert name deliveryId payload settings = .error ⟨trimmed name, cause⟩ := by
  rw [convert_of_announced deliveryId settings h]
  cases hraw : Json.parse? payload with
  | none => exact ⟨_, rfl⟩
  | some raw =>
    cases hread : hook.form.read raw with
    | error cause =>
      simp only [hread]
      exact ⟨_, rfl⟩
    | ok v => exact absurd ((Json.Form.read_ok_iff _ _ raw).mp ⟨v, hread⟩) (hpayload raw hraw)

theorem exists_fated (p : Provider) (name : String) (payload : List UInt8) :
    ∃ fate, p.Fated name payload fate := by
  cases hhook : p.hook? (trimmed name) with
  | none => exact ⟨_, .unannounced (hook?_eq_none_iff.mp hhook)⟩
  | some hook =>
    have hannounced : p.Announces name hook := hook?_eq_some_iff.mp hhook
    by_cases hdecodes : ∃ v, Decodes hook payload v
    · obtain ⟨v, hv⟩ := hdecodes
      by_cases hsilent : hook.Silent v
      · exact ⟨_, .silent hannounced hv hsilent⟩
      · exact ⟨_, .heard hannounced hv hsilent⟩
    · refine ⟨_, .malformed hannounced ?_⟩
      intro raw hraw htakes
      obtain ⟨v, hread⟩ := (Json.Form.read_ok_iff _ _ raw).mpr htakes
      exact hdecodes ⟨v, raw, hraw, hread⟩

theorem Fated.of_convert (h : p.Fated name payload fate) :
    Fate.of (p.convert name deliveryId payload settings) = fate := by
  cases h with
  | unannounced h =>
    rw [convert_of_unannounced deliveryId settings h]
    rfl
  | malformed h hpayload =>
    obtain ⟨cause, hconvert⟩ := convert_of_malformed deliveryId settings h hpayload
    rw [hconvert]
    rfl
  | silent h hv hsilent =>
    rw [convert_of_decodes deliveryId settings h hv, if_pos hsilent]
    rfl
  | heard h hv hheard =>
    rw [convert_of_decodes deliveryId settings h hv, if_neg hheard]
    rfl

theorem fated_iff :
    Fate.of (p.convert name deliveryId payload settings) = fate ↔ p.Fated name payload fate := by
  constructor
  · rintro rfl
    obtain ⟨fate, h⟩ := exists_fated p name payload
    rwa [h.of_convert deliveryId settings]
  · exact Fated.of_convert deliveryId settings

end

/-- Of a payload that is heard, the one event tells its name, its type, and a source and an
environment that are not blank. -/
theorem tells_event (deliveryId : Option DeliveryId) (settings : ConvertSettings)
    (hheard : ¬ hook.Silent v) :
    hook.Tells v (hook.event (p.delivery deliveryId settings) (hook.service v) v) := by
  have hservice : hook.service v ≠ "" := fun hblank =>
    hheard (Or.inl (Hook.service_eq_empty_iff.mp hblank))
  constructor
  case service =>
    rw [Hook.service_event]
    exact Hook.exists_path_of_service hservice
  case service_named => rwa [Hook.service_event]
  case source =>
    rw [Hook.source_event]
    exact p.source_delivery deliveryId settings
  case environment =>
    rw [Hook.environment_event]
    split
    · exact p.environment_delivery deliveryId settings
    · rwa [Hook.trimmed_ownEnvironment]
  case eventType =>
    rw [Hook.eventType_event]
    exact hook.eventType_documented v

/-- A delivery has the fate that its name and payload give it, whatever the settings and the
delivery id. An error names the event, and an answer with an event has no other. -/
theorem outcome_classified (p : Provider) (name : String) (deliveryId : Option DeliveryId)
    (payload : List UInt8) (settings : ConvertSettings) :
    (∀ fate, Fate.of (p.convert name deliveryId payload settings) = fate ↔
      p.Fated name payload fate) ∧
    (∀ e, p.convert name deliveryId payload settings = .error e → e.event = trimmed name) ∧
    ∀ events event, p.convert name deliveryId payload settings = .ok events → event ∈ events →
      events = [event] ∧
        ∃ hook v, p.Announces name hook ∧ Decodes hook payload v ∧ hook.Tells v event := by
  refine ⟨fun _ => fated_iff deliveryId settings, ?_, ?_⟩
  · intro e he
    obtain ⟨fate, h⟩ := exists_fated p name payload
    cases h with
    | unannounced h =>
      rw [convert_of_unannounced deliveryId settings h] at he
      cases he
    | malformed h hpayload =>
      obtain ⟨cause, hconvert⟩ := convert_of_malformed deliveryId settings h hpayload
      rw [hconvert] at he
      cases he
      rfl
    | silent h hv | heard h hv =>
      rw [convert_of_decodes deliveryId settings h hv] at he
      cases he
  · intro events event hevents hmem
    have hfate : Fate.of (p.convert name deliveryId payload settings) = .event := by
      rw [hevents]
      cases hmem <;> rfl
    cases (fated_iff deliveryId settings).mp hfate with
    | @heard hook v h hv hheard =>
      rw [convert_of_decodes deliveryId settings h hv, if_neg hheard] at hevents
      cases hevents
      obtain rfl := List.mem_singleton.mp hmem
      exact ⟨rfl, hook, v, h, hv, tells_event deliveryId settings hheard⟩

def namelessPush : List UInt8 :=
  ("\x7b\"project\":\x7b\"name\":\" \"\x7d," ++
    "\"repository\":\x7b\"name\":\" orders \"\x7d\x7d").toUTF8.toList

def namelessEvent : CanonicalEvent :=
  { eventType := "dev.cdevents.change.pushed.0.3.0"
    source := "gitlab/webhook"
    service := "orders"
    environment := "production"
    artifact := "pkg:generic/orders@unknown"
    subjectId := "change/unknown"
    subjectType := "change" }

theorem nameless_push_heard :
    gitlab.Fated " Push Hook" namelessPush .event ∧
      ∃ hook v, gitlab.Announces " Push Hook" hook ∧ Decodes hook namelessPush v ∧
        hook.Tells v namelessEvent := by
  have hconverted : (gitlab.convert " Push Hook" none namelessPush {}).toOption =
      some [namelessEvent] := by decide +kernel
  obtain ⟨hfate, -, hevent⟩ := outcome_classified gitlab " Push Hook" none namelessPush {}
  cases hevents : gitlab.convert " Push Hook" none namelessPush {} with
  | error e =>
    rw [hevents] at hconverted
    cases hconverted
  | ok events =>
    rw [hevents] at hconverted
    obtain rfl := Option.some.inj hconverted
    obtain ⟨-, htold⟩ := hevent _ _ hevents List.mem_cons_self
    refine ⟨(hfate _).mp ?_, htold⟩
    rw [hevents]
    rfl

end Provider

end EventRelay
