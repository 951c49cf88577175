import EventRelay.Proofs.Event.Building
import EventRelay.Provider.Convert

/-!
# What conversion emits

Every event that a delivery is turned into is of a settled type and names a
service and an environment, whatever the payload says; so it can be built.
A change takes its type from the payload, where an action may be any text:
it is in lower case before it becomes a part of the type.
-/

set_option autoImplicit false

namespace EventRelay

open EventRelay.Text

theorem trimmed_firstNonBlank (texts : List String) :
    trimmed (firstNonBlank texts) = firstNonBlank texts := by
  induction texts with
  | nil => decide
  | cons s rest ih =>
    unfold firstNonBlank
    simp only
    split
    · exact ih
    · exact trimmed_trimmed s

def fixedTypes : List String :=
  ["service.deployed", "service.upgraded", "service.removed", "service.published",
   pipelineStarted, pipelineSucceeded, pipelineFailed]

theorem settled_fixed : ∀ type ∈ fixedTypes, EventType.Settled type := by decide

theorem lookup_mem_fixed {table : List (String × String)} {fallback : String}
    (htable : ∀ pair ∈ table, pair.2 ∈ fixedTypes) (hfallback : fallback ∈ fixedTypes)
    (key : String) : (table.lookup key).getD fallback ∈ fixedTypes := by
  cases h : table.lookup key with
  | none => exact hfallback
  | some type =>
    obtain ⟨front, back, rfl, -⟩ := List.lookup_eq_some_iff.mp h
    exact htable (key, type) (List.mem_append_right front List.mem_cons_self)

/-- The types that events are documented to have. A change takes any suffix in lower case. -/
inductive EventType.IsDocumented : String → Prop
  | fixed {type : String} (h : type ∈ fixedTypes) : IsDocumented type
  | change {suffix : String} (hne : suffix ≠ "") (hlow : lower suffix = suffix) :
      IsDocumented ("dev.cdevents.change." ++ suffix ++ ".0.3.0")

theorem toList_changeType (suffix : String) :
    (changeType suffix).toList = "dev.cdevents.change.".toList ++ suffix.toList ++ ".0.3.0".toList := by
  unfold changeType
  simp only [String.toList_append]

theorem trimmed_changeType (suffix : String) : trimmed (changeType suffix) = changeType suffix := by
  have hhead : (changeType suffix).toList.head? = some 'd' := by
    simp [toList_changeType]
  have hlast : (changeType suffix).toList.getLast? = some '0' := by
    rw [toList_changeType, List.getLast?_append]
    rfl
  have htrim : Trim (changeType suffix).toList := by
    constructor
    · intro c hc
      rw [← Option.some.inj (hhead.symm.trans hc)]
      decide
    · intro c hc
      rw [← Option.some.inj (hlast.symm.trans hc)]
      decide
  rw [trimmed, htrim.trimChars, String.ofList_toList]

theorem startsWith_changeType (suffix : String) :
    startsWith "dev.cdevents.change." (changeType suffix) = true := by
  rw [startsWith, toList_changeType, List.append_assoc, List.isPrefixOf_iff_prefix]
  exact List.prefix_append _ _

theorem settled_changeType {suffix : String} (h : ∀ c ∈ suffix.toList, IsLow c) :
    EventType.Settled (changeType suffix) := by
  have hframe : ∀ c ∈ "dev.cdevents.change.".toList ++ ".0.3.0".toList, IsLow c :=
    isLow_of_all (by decide)
  have hroot : "dev.cdevents.change." ∈ EventType.customRoots := by decide
  refine EventType.settled_of_low hroot (startsWith_changeType suffix) (trimmed_changeType suffix)
    fun c hc => ?_
  rw [toList_changeType, List.append_assoc] at hc
  rcases List.mem_append.mp hc with hc | hc
  · exact hframe c (List.mem_append_left _ hc)
  · rcases List.mem_append.mp hc with hc | hc
    · exact h c hc
    · exact hframe c (List.mem_append_right _ hc)

theorem EventType.IsDocumented.settled {type : String} (h : IsDocumented type) : Settled type := by
  cases h with
  | fixed h => exact settled_fixed type h
  | @change suffix hne hlow =>
    refine settled_changeType fun c hc => ?_
    rw [← hlow] at hc
    exact isLow_of_mem_lower hc

namespace Hook

theorem eventType_documented (hook : Hook) (p : Json) :
    EventType.IsDocumented (hook.eventType p) := by
  have hchange : ∀ s : String, lower s ≠ "" → EventType.IsDocumented (changeType (lower s)) :=
    fun s hne => .change hne (lower_of_low fun _ hc => isLow_of_mem_lower hc)
  have hpushed : EventType.IsDocumented (changeType "pushed") := .change (by decide) (by decide)
  have hmerged : EventType.IsDocumented (changeType "merged") := .change (by decide) (by decide)
  have hupdated : EventType.IsDocumented (changeType "updated") := .change (by decide) (by decide)
  cases hook with
  | release | tagPush => exact .fixed (by simp only [eventType]; decide)
  | deploymentStatus | deployment | pipeline =>
    simp only [eventType]
    exact .fixed (lookup_mem_fixed (by decide) (by decide) _)
  | workflowRun =>
    simp only [eventType]
    split
    · split
      · exact .fixed (by decide)
      · exact .fixed (by decide)
    · exact .fixed (by decide)
  | push | projectPush => exact hpushed
  | pullRequest | mergeRequest =>
    simp only [eventType]
    split
    · exact hmerged
    · split
      · exact hupdated
      · rename_i hne
        exact hchange _ hne

theorem eventType_settled (hook : Hook) (p : Json) : EventType.Settled (hook.eventType p) :=
  (hook.eventType_documented p).settled

theorem trimmed_service (hook : Hook) (p : Json) : trimmed (hook.service p) = hook.service p := by
  cases hook with
  | projectPush => exact trimmed_firstNonBlank _
  | _ => exact trimmed_trimmed _

theorem trimmed_ownEnvironment (hook : Hook) (p : Json) :
    trimmed (hook.ownEnvironment p) = hook.ownEnvironment p := by
  cases hook with
  | deploymentStatus => exact trimmed_firstNonBlank _
  | pipeline | deployment => exact trimmed_trimmed _
  | _ =>
    simp only [ownEnvironment]
    decide

theorem eventType_event (hook : Hook) (d : Delivery) (service : String) (p : Json) :
    (hook.event d service p).eventType = hook.eventType p := by
  unfold event
  simp only
  split <;> rfl

theorem service_event (hook : Hook) (d : Delivery) (service : String) (p : Json) :
    (hook.event d service p).service = service := by
  unfold event
  simp only
  split <;> rfl

theorem source_event (hook : Hook) (d : Delivery) (service : String) (p : Json) :
    (hook.event d service p).source = d.source := by
  unfold event
  simp only
  split <;> rfl

theorem environment_event (hook : Hook) (d : Delivery) (service : String) (p : Json) :
    (hook.event d service p).environment =
      if hook.ownEnvironment p = "" then d.environment else hook.ownEnvironment p := by
  unfold event
  simp only
  split <;> rfl

/-- What is emitted can be built, as soon as the delivery brings an environment. -/
theorem envelope_event (hook : Hook) {d : Delivery} {p : Json} (hd : trimmed d.environment ≠ "")
    (hservice : hook.service p ≠ "") (stamp : Stamp) :
    ∃ env, (hook.event d (hook.service p) p).envelope stamp = .ok env ∧
      env.resolvedType = EventType.shown (hook.event d (hook.service p) p).eventType := by
  apply CanonicalEvent.envelope_of_settled
  · rw [eventType_event]
    exact hook.eventType_settled p
  · rwa [service_event, trimmed_service]
  · rw [environment_event]
    split
    · exact hd
    · rename_i hown
      rwa [trimmed_ownEnvironment]

end Hook

namespace Provider

theorem trimmed_orFallback_ne_empty {fallback : String} (h : trimmed fallback ≠ "") (s : String) :
    trimmed (orFallback fallback s) ≠ "" := by
  unfold orFallback
  simp only
  split
  · exact h
  · rwa [trimmed_trimmed]

def reading? (p : Provider) (name : String) (payload : List UInt8) : Option (Hook × Json) :=
  (p.hook? (trimmed name)).bind fun hook =>
    ((Json.parse? payload).bind fun v => (hook.form.read v).toOption).map fun filled =>
      (hook, filled)

def delivery (p : Provider) (deliveryId : Option DeliveryId) (settings : ConvertSettings) :
    Delivery where
  source := orFallback p.defaultSource settings.source
  environment := orFallback EventRelay.defaultEnvironment settings.defaultEnvironment
  chain := (deliveryId.map DeliveryId.text).getD ""

theorem environment_delivery (p : Provider) (deliveryId : Option DeliveryId)
    (settings : ConvertSettings) : trimmed (p.delivery deliveryId settings).environment ≠ "" :=
  trimmed_orFallback_ne_empty (by decide) settings.defaultEnvironment

theorem source_delivery (p : Provider) (deliveryId : Option DeliveryId)
    (settings : ConvertSettings) : trimmed (p.delivery deliveryId settings).source ≠ "" := by
  have hdefault : trimmed p.defaultSource ≠ "" := by cases p <;> decide
  exact trimmed_orFallback_ne_empty hdefault settings.source

variable {p : Provider} {name : String} {deliveryId : Option DeliveryId} {payload : List UInt8}
  {settings : ConvertSettings} {events : List CanonicalEvent}

theorem name_of_hook? {hook : Hook} (h : p.hook? name = some hook) : hook.name = name :=
  eq_of_beq (List.find?_some (p := fun hook : Hook => hook.name == name) h)

theorem hook?_of_reading? {hook : Hook} {v : Json} (h : p.reading? name payload = some (hook, v)) :
    p.hook? (trimmed name) = some hook := by
  obtain ⟨other, hother, hread⟩ := Option.bind_eq_some_iff.mp h
  obtain ⟨filled, -, hpair⟩ := Option.map_eq_some_iff.mp hread
  cases hpair
  exact hother

/-- A delivery is turned into no event, or into the one of its hook for a service that the payload
names. -/
theorem convert_emits (h : p.convert name deliveryId payload settings = .ok events) :
    events = [] ∨ ∃ hook v, p.reading? name payload = some (hook, v) ∧ hook.service v ≠ "" ∧
      events = [hook.event (p.delivery deliveryId settings) (hook.service v) v] := by
  unfold convert at h
  simp only at h
  split at h
  · cases h
    exact Or.inl rfl
  · rename_i hook hhook
    split at h
    · cases h
    · rename_i raw hraw
      split at h
      · cases h
      · rename_i v hread
        have hreading : p.reading? name payload = some (hook, v) := by
          simp only [reading?, hhook, hraw, hread, Option.bind_some, Except.toOption,
            Option.map_some]
        cases h
        unfold Hook.events
        simp only
        split
        · exact Or.inl rfl
        · rename_i hkept
          exact Or.inr ⟨hook, v, hreading, fun e => hkept (Or.inr e), rfl⟩

theorem convert_ok (h : p.convert name deliveryId payload settings = .ok events) :
    events = [] ∨ ∃ (hook : Hook) (d : Delivery) (v : Json), trimmed d.environment ≠ "" ∧
      hook.service v ≠ "" ∧ events = [hook.event d (hook.service v) v] := by
  rcases convert_emits h with hnone | ⟨hook, v, -, hservice, hevent⟩
  · exact Or.inl hnone
  · exact Or.inr ⟨hook, p.delivery deliveryId settings, v,
      p.environment_delivery deliveryId settings, hservice, hevent⟩

end Provider

end EventRelay
