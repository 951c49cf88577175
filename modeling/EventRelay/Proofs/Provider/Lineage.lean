import EventRelay.Proofs.Event.Wire
import EventRelay.Proofs.Provider.Conversion

/-!
# The lineage of a converted event

What is emitted for a delivery can be traced back to it. Its bodies differ in
id and time alone, whenever they are built; a change carries the id of its
delivery as its chain, and nothing else does; and the artifact that a body
names is that of the service at a tag or at the head of a commit id, never at
a time. The artifact is trimmed once more when it is built, so twelve
characters of a commit id may become fewer, but never none.
-/

set_option autoImplicit false

namespace EventRelay

open EventRelay.Json EventRelay.Text

/-! ## Building a settled event -/

namespace EventKind

theorem ofLongType?_shown {type : String} (h : EventType.normalize type = type) :
    ofLongType? (EventType.shown type) = ofShortKey? type := by
  unfold EventType.shown
  cases hkind : ofShortKey? type with
  | some kind => exact ofLongType?_longType kind
  | none =>
    rw [← h] at hkind
    have hnone := EventType.ofLongType?_normalize hkind
    rwa [h] at hnone

end EventKind

namespace CanonicalEvent

variable {e : CanonicalEvent} {stamp : Stamp} {env : Envelope}

theorem read_of_settled (htype : EventType.Settled e.eventType) (h : e.envelope stamp = .ok env) :
    ∃ id, parse? env.body = some (e.messageRead stamp (EventType.shown e.eventType) id) := by
  obtain ⟨hnormal, -⟩ := htype
  obtain ⟨id, -, ⟨kind, hkind, hstrict⟩ | ⟨hkind, haccepted, rfl⟩⟩ := envelope_ok h
  · obtain ⟨-, hsays⟩ := strictEnvelope_says hkind hstrict
    refine ⟨id, ?_⟩
    rw [← hnormal, EventType.shown, hkind]
    exact hsays
  · refine ⟨id, ?_⟩
    rw [← hnormal, EventType.shown, hkind]
    exact generalEnvelope_says hkind haccepted

theorem resolvedArtifact_of_named (h : trimmed e.artifact ≠ "") (now : Timestamp) :
    e.resolvedArtifact now = trimmed e.artifact := by
  have hnot : ¬ (trimmed e.artifact = "" ∧
      startsWith "service." (EventType.normalize e.eventType) = true) := fun hboth => h hboth.1
  simp only [resolvedArtifact, if_neg hnot]

theorem strictEnvelope_restamped (hartifact : trimmed e.artifact ≠ "") (stamp stamp' : Stamp)
    (kind : EventKind) (subjectId : String) :
    e.strictEnvelope stamp' kind subjectId = (e.strictEnvelope stamp kind subjectId).map fun env =>
      { env with id := stamp'.uuid, timestamp := stamp'.now.nanosText } := by
  simp only [strictEnvelope, resolvedArtifact_of_named hartifact]
  split
  · split <;> rfl
  · split <;> rfl

/-- Whenever an event that names its artifact is built, only the id and the time are others. -/
theorem envelope_restamped (hartifact : trimmed e.artifact ≠ "") (h : e.envelope stamp = .ok env)
    (stamp' : Stamp) : ∃ id, e.envelope stamp' =
      .ok { env with id := id, timestamp := stamp'.now.nanosText } := by
  obtain ⟨subjectId, hid, ⟨kind, hkind, hstrict⟩ | ⟨hkind, haccepted, rfl⟩⟩ := envelope_ok h
  · refine ⟨stamp'.uuid, ?_⟩
    simp only [envelope, hid, hkind]
    rw [strictEnvelope_restamped hartifact stamp stamp', hstrict]
    rfl
  · refine ⟨integerText stamp'.now.unixNanos, ?_⟩
    simp only [envelope, hid, hkind, haccepted, if_true, generalEnvelope,
      resolvedArtifact_of_named hartifact]

/-! ## Reading a body -/

theorem messageRead_content (type subjectId : String) (path : List String) :
    (e.messageRead stamp type subjectId).at? ("subject" :: "content" :: path) =
      (e.contentRead stamp.now (EventKind.ofLongType? type)).at? path := rfl

theorem messageRead_chain (type subjectId : String) :
    (e.messageRead stamp type subjectId).at? ["context", "chainId"] =
      (if (EventKind.ofLongType? type).isSome then none else nonBlank? e.chainId).map .text := by
  simp only [messageRead]
  generalize (if (EventKind.ofLongType? type).isSome then none else nonBlank? e.chainId) = chain
  cases chain with
  | none => rfl
  | some s => rfl

theorem contentRead_artifact (h : trimmed e.artifact ≠ "") {now : Timestamp}
    {kind? : Option EventKind} {a : Json}
    (ha : (e.contentRead now kind?).at? ["artifactId"] = some a) :
    a = .text (trimmed e.artifact) := by
  cases kind? with
  | none =>
    cases ha
    rfl
  | some kind =>
    simp only [contentRead, serviceArtifact, if_neg h] at ha
    split at ha
    · split at ha
      · cases ha
      · cases ha
        rfl
    · cases ha

end CanonicalEvent

/-! ## Tags and commits -/

theorem shortSha_trimmed (s : String) : shortSha (trimmed s) = shortSha s := by
  simp only [shortSha, trimmed, String.toList_ofList, trimChars_trimChars]

theorem shortSha_of_trim {s : String} (h : Trim s.toList) (hne : s.toList ≠ []) :
    shortSha s = String.ofList (s.toList.take 12) := by
  simp only [shortSha, h.trimChars, List.isEmpty_iff, hne, if_false]

theorem trimmed_artifactId {service version : String} (h : trimEnd version.toList ≠ []) :
    trimmed (artifactId service version) =
      artifactId service (String.ofList (trimEnd version.toList)) := by
  have hchars : (artifactId service version).toList =
      ("pkg:generic/" ++ service ++ "@").toList ++ version.toList := by
    rw [artifactId, String.toList_append]
  have hhead : (artifactId service version).toList.dropWhile isBlank =
      (artifactId service version).toList := by
    refine dropWhile_of_head _ fun c hc => ?_
    have hp : c = 'p' := by
      rw [hchars] at hc
      simpa using hc.symm
    rw [hp]
    rfl
  rw [trimmed, trimChars, hhead, hchars, trimEnd_append_of_ne_nil _ h, artifactId]
  rw [String.ofList_append, String.ofList_toList]

theorem artifactId_ne_empty (service ref : String) : artifactId service ref ≠ "" := by
  intro h
  simp [artifactId, String.append_eq_empty_iff] at h

namespace Hook

def tag? : Hook → Json → Option String
  | .release, v => some (trimmedAt ["release", "tag_name"] v)
  | .tagPush, v => some (tagOf (trimmedAt ["ref"] v))
  | _, _ => none

def commitPaths : Hook → List (List String)
  | .deploymentStatus => [["deployment", "sha"]]
  | .workflowRun => [["workflow_run", "head_sha"]]
  | .push | .projectPush => [["after"]]
  | .pullRequest => [["pull_request", "head", "sha"]]
  | .pipeline => [["object_attributes", "sha"]]
  | .deployment => [["short_sha"], ["sha"]]
  | .mergeRequest => [["object_attributes", "last_commit", "id"]]
  | .release | .tagPush => []

def commit (hook : Hook) (v : Json) : String :=
  firstNonBlank (hook.commitPaths.map fun path => v.textAt path)

theorem trim_commit (hook : Hook) (v : Json) : Trim (hook.commit v).toList := by
  rw [commit, ← trimmed_firstNonBlank]
  exact trim_trimmed _

/-- What stands for a delivery in the artifact: its tag, or else the head of its commit. -/
structure IsReference (hook : Hook) (v : Json) (ref : String) : Prop where
  nonempty : ref ≠ ""
  tag : ∀ tag, hook.tag? v = some tag → ref = if tag = "" then "latest" else tag
  unknown : hook.tag? v = none → hook.commit v = "" → ref = "unknown"
  short : hook.tag? v = none → hook.commit v ≠ "" →
    ref = trimmed (String.ofList ((hook.commit v).toList.take 12)) ∧
      ref.toList <+: (hook.commit v).toList ∧ ref.toList.length ≤ 12

theorem version_of_tag {hook : Hook} {v : Json} {tag : String} (h : hook.tag? v = some tag) :
    hook.version v = if tag = "" then "latest" else tag := by
  cases hook <;> simp only [tag?, Option.some.injEq, reduceCtorEq] at h
  · rw [← h, version]
  · rw [← h, version]

theorem trimEnd_tag {hook : Hook} {v : Json} {tag : String} (h : hook.tag? v = some tag) :
    trimEnd tag.toList = tag.toList := by
  cases hook <;> simp only [tag?, Option.some.injEq, reduceCtorEq] at h
  · rw [← h]
    exact trimEnd_of_last _ (trim_trimmed _).2
  · rw [← h, tagOf]
    split
    · rename_i rest hrest
      rw [String.toList_ofList]
      exact trimEnd_of_dropHead? (trim_trimmed _) hrest
    · exact trimEnd_of_last _ (trim_trimmed _).2

theorem version_of_commit {hook : Hook} {v : Json} (h : hook.tag? v = none) :
    hook.version v = shortSha (hook.commit v) := by
  have hone : ∀ path, shortSha (v.textAt path) = shortSha (firstNonBlank [v.textAt path]) :=
    fun path => by rw [firstNonBlank_singleton, shortSha_trimmed]
  cases hook with
  | release | tagPush => simp only [tag?, reduceCtorEq] at h
  | deployment => rw [version, commit, commitPaths, List.map_cons, List.map_cons, List.map_nil]
  | _ => rw [version, commit, commitPaths, List.map_cons, List.map_nil, hone]

namespace IsReference

variable {hook : Hook} {v : Json}

theorem of_tag {tag : String} (htag : hook.tag? v = some tag) :
    hook.IsReference v (if tag = "" then "latest" else tag) where
  nonempty := by
    split
    · decide
    · assumption
  tag other hother := by rw [Option.some.inj (htag.symm.trans hother)]
  unknown hnone := by cases htag.symm.trans hnone
  short hnone := by cases htag.symm.trans hnone

theorem of_blank (htag : hook.tag? v = none) (hblank : hook.commit v = "") :
    hook.IsReference v "unknown" where
  nonempty := by decide
  tag tag hsome := by cases htag.symm.trans hsome
  unknown _ _ := rfl
  short _ hnamed := absurd hblank hnamed

theorem of_commit (htag : hook.tag? v = none) (hnamed : hook.commit v ≠ "") :
    hook.IsReference v (String.ofList (trimEnd ((hook.commit v).toList.take 12))) := by
  have hcommit := trim_commit hook v
  have hne : (hook.commit v).toList ≠ [] := fun h => hnamed (String.toList_eq_nil_iff.mp h)
  constructor
  case nonempty =>
    intro h
    exact trimEnd_take_ne_nil hcommit hne (by decide) (String.ofList_inj.mp h)
  case tag =>
    intro tag hsome
    cases htag.symm.trans hsome
  case unknown => exact fun _ hblank => absurd hblank hnamed
  case short =>
    intro _ _
    rw [String.toList_ofList]
    refine ⟨?_, trimEnd_take_prefix _ 12, length_trimEnd_take _ 12⟩
    rw [trimmed, String.toList_ofList, trimChars_take hcommit]

end IsReference

/-- However the version ends, what is left of it after trimming is a reference. -/
theorem isReference_version (hook : Hook) (v : Json) :
    hook.IsReference v (String.ofList (trimEnd (hook.version v).toList)) := by
  cases htag : hook.tag? v with
  | some tag =>
    have hkept : trimEnd (hook.version v).toList = (hook.version v).toList := by
      rw [version_of_tag htag]
      split
      · decide
      · exact trimEnd_tag htag
    rw [hkept, String.ofList_toList, version_of_tag htag]
    exact .of_tag htag
  | none =>
    rw [version_of_commit htag]
    by_cases hblank : hook.commit v = ""
    · rw [hblank]
      exact .of_blank htag hblank
    · rw [shortSha_of_trim (trim_commit hook v) fun h => hblank (String.toList_eq_nil_iff.mp h),
        String.toList_ofList]
      exact .of_commit htag hblank

/-! ## What a hook puts into its event -/

def changeNames : List String := ["push", "pull_request", "Push Hook", "Merge Request Hook"]

theorem settled_event (hook : Hook) (d : Delivery) (service : String) (v : Json) :
    EventType.Settled (hook.event d service v).eventType := by
  rw [eventType_event]
  exact hook.eventType_settled v

theorem artifact_event (hook : Hook) (d : Delivery) (service : String) (v : Json) :
    (hook.event d service v).artifact = artifactId service (hook.version v) := by
  unfold event
  simp only
  split <;> rfl

theorem chainId_event (hook : Hook) (d : Delivery) (service : String) (v : Json) :
    (hook.event d service v).chainId = if hook.name ∈ changeNames then d.chain else "" := by
  cases hook <;> rfl

theorem ofShortKey?_change {hook : Hook} (h : hook.name ∈ changeNames) (v : Json) :
    EventKind.ofShortKey? (hook.eventType v) = none := by
  have hroot : "dev.cdevents.change." ∈ EventType.customRoots := by decide
  refine EventType.ofShortKey?_of_root hroot ?_
  cases hook with
  | push | projectPush => exact startsWith_changeType _
  | pullRequest | mergeRequest =>
    simp only [eventType]
    split
    · exact startsWith_changeType _
    · split
      · exact startsWith_changeType _
      · exact startsWith_changeType _
  | _ => exact absurd h (by decide)

/-- The artifact of a service that the payload names. -/
theorem trimmed_artifact_event (hook : Hook) (d : Delivery) (service : String) (v : Json) :
    trimmed (hook.event d service v).artifact =
      artifactId service (String.ofList (trimEnd (hook.version v).toList)) := by
  rw [artifact_event, trimmed_artifactId]
  intro hnil
  refine (isReference_version hook v).nonempty ?_
  rw [hnil]

theorem named_event (hook : Hook) (d : Delivery) (service : String) (v : Json) :
    trimmed (hook.event d service v).artifact ≠ "" := by
  rw [trimmed_artifact_event]
  exact artifactId_ne_empty _ _

end Hook

/-! ## Converted events -/

def Json.without (keys : List String) : Json → Json
  | .object members => .object (members.filter fun m => m.1 ∉ keys)
  | v => v

def Json.unstamped : Json → Json
  | .object members => .object (members.map fun m =>
      if m.1 = "context" then (m.1, m.2.without ["id", "timestamp"]) else m)
  | v => v

theorem unstamped_read (chainId : Option String) (id source timestamp type : String)
    (subject : Json) :
    (Json.object [("context", contextRead chainId id source timestamp type),
      ("subject", subject)]).unstamped =
      .object [("context", .object (optionalMember "chainId" chainId ++
        [("source", .text source), ("specversion", .text "0.5.0"), ("type", .text type)])),
        ("subject", subject)] := by
  cases chainId <;> rfl

/-- The body that is read when an event is built at a time. -/
def CanonicalEvent.Says (e : CanonicalEvent) (stamp : Stamp) (body : Json) : Prop :=
  ∃ env, e.envelope stamp = .ok env ∧ parse? env.body = some body

def deliveryChain? (name : String) (deliveryId : Option DeliveryId) : Option String :=
  if trimmed name ∈ Hook.changeNames then deliveryId.bind fun id => nonBlank? id.text else none

/-- How an event can be traced back to its delivery. -/
structure Traced (name : String) (deliveryId : Option DeliveryId) (hook : Hook) (v : Json)
    (event : CanonicalEvent) : Prop where
  built : ∀ stamp, ∃ body, event.Says stamp body
  clockless : ∀ now, event.resolvedArtifact now = trimmed event.artifact
  restamped : ∀ stamp stamp' env env', event.envelope stamp = .ok env →
    event.envelope stamp' = .ok env' →
    env' = { env with id := env'.id, timestamp := env'.timestamp }
  steady : ∀ stamp stamp' body body', event.Says stamp body → event.Says stamp' body' →
    body.unstamped = body'.unstamped
  chained : ∀ stamp body, event.Says stamp body →
    body.at? ["context", "chainId"] = (deliveryChain? name deliveryId).map .text
  artifact : ∀ stamp body a, event.Says stamp body →
    body.at? ["subject", "content", "artifactId"] = some a →
    ∃ ref, a = .text (artifactId (trimmed event.service) ref) ∧ hook.IsReference v ref

namespace CanonicalEvent

variable {e : CanonicalEvent} {stamp stamp' : Stamp} {body body' : Json}

theorem Says.eq_messageRead (htype : EventType.Settled e.eventType) (h : e.Says stamp body) :
    ∃ id, body = e.messageRead stamp (EventType.shown e.eventType) id := by
  obtain ⟨env, henv, hbody⟩ := h
  obtain ⟨id, hread⟩ := read_of_settled htype henv
  exact ⟨id, Option.some.inj (hbody.symm.trans hread)⟩

theorem restamped_of_named (h : trimmed e.artifact ≠ "") {env env' : Envelope}
    (henv : e.envelope stamp = .ok env) (henv' : e.envelope stamp' = .ok env') :
    env' = { env with id := env'.id, timestamp := env'.timestamp } := by
  obtain ⟨id, hagain⟩ := envelope_restamped h henv stamp'
  cases henv'.symm.trans hagain
  rfl

theorem Says.unstamped_eq (h : trimmed e.artifact ≠ "") (hbody : e.Says stamp body)
    (hbody' : e.Says stamp' body') : body.unstamped = body'.unstamped := by
  obtain ⟨env, henv, hread⟩ := hbody
  obtain ⟨env', henv', hread'⟩ := hbody'
  rw [Envelope.parse?_body] at hread hread'
  rw [← Option.some.inj hread, ← Option.some.inj hread', unstamped_read, unstamped_read,
    restamped_of_named h henv henv']

theorem Says.artifact_eq (htype : EventType.Settled e.eventType) (h : trimmed e.artifact ≠ "")
    (hbody : e.Says stamp body) {a : Json}
    (ha : body.at? ["subject", "content", "artifactId"] = some a) :
    a = .text (trimmed e.artifact) := by
  obtain ⟨id, rfl⟩ := hbody.eq_messageRead htype
  rw [messageRead_content] at ha
  exact contentRead_artifact h ha

theorem Says.chain_eq (htype : EventType.Settled e.eventType) (hbody : e.Says stamp body) :
    body.at? ["context", "chainId"] = (if (EventKind.ofShortKey? e.eventType).isSome then none
      else nonBlank? e.chainId).map .text := by
  obtain ⟨id, rfl⟩ := hbody.eq_messageRead htype
  rw [messageRead_chain, EventKind.ofLongType?_shown htype.1]

end CanonicalEvent

namespace Hook

variable {hook : Hook} {d : Delivery} {service : String} {v : Json}

theorem chain_event {stamp : Stamp} {body : Json}
    (hbody : (hook.event d service v).Says stamp body) :
    body.at? ["context", "chainId"] =
      (if hook.name ∈ changeNames then nonBlank? d.chain else none).map .text := by
  rw [hbody.chain_eq (hook.settled_event d service v), chainId_event, eventType_event]
  by_cases hchange : hook.name ∈ changeNames
  · rw [if_pos hchange, if_pos hchange, ofShortKey?_change hchange]
    rfl
  · rw [if_neg hchange, if_neg hchange]
    split <;> rfl

theorem artifact_of_event {stamp : Stamp} {body a : Json}
    (hbody : (hook.event d (hook.service v) v).Says stamp body)
    (ha : body.at? ["subject", "content", "artifactId"] = some a) :
    ∃ ref, a = .text (artifactId (trimmed (hook.service v)) ref) ∧ hook.IsReference v ref := by
  refine ⟨_, ?_, isReference_version hook v⟩
  rw [hbody.artifact_eq (hook.settled_event d _ v) (hook.named_event d _ v) ha,
    trimmed_artifact_event, trimmed_service]

end Hook

namespace Provider

variable {p : Provider} {name : String} {deliveryId : Option DeliveryId} {payload : List UInt8}
  {settings : ConvertSettings} {events : List CanonicalEvent} {event : CanonicalEvent}

theorem nonBlank?_chain (p : Provider) (deliveryId : Option DeliveryId)
    (settings : ConvertSettings) : nonBlank? (p.delivery deliveryId settings).chain =
      deliveryId.bind fun id => nonBlank? id.text := by
  cases deliveryId <;> rfl

/-- Every event of a delivery can be traced back to it. The event name is taken trimmed. -/
theorem converted_events_traced (h : p.convert name deliveryId payload settings = .ok events)
    (hevent : event ∈ events) :
    ∃ hook v, p.reading? name payload = some (hook, v) ∧ Traced name deliveryId hook v event := by
  rcases convert_emits h with rfl | ⟨hook, v, hreading, hservice, rfl⟩
  · cases hevent
  obtain rfl := List.mem_singleton.mp hevent
  have hname := name_of_hook? (hook?_of_reading? hreading)
  have hnamed := hook.named_event (p.delivery deliveryId settings) (hook.service v) v
  refine ⟨hook, v, hreading, ?_⟩
  constructor
  case built =>
    intro stamp
    obtain ⟨env, henv, -⟩ :=
      hook.envelope_event (p.environment_delivery deliveryId settings) hservice stamp
    exact ⟨_, env, henv, Envelope.parse?_body env⟩
  case clockless => exact CanonicalEvent.resolvedArtifact_of_named hnamed
  case restamped =>
    intro stamp stamp' env env' henv henv'
    exact CanonicalEvent.restamped_of_named hnamed henv henv'
  case steady =>
    intro stamp stamp' body body' hbody hbody'
    exact hbody.unstamped_eq hnamed hbody'
  case chained =>
    intro stamp body hbody
    rw [Hook.chain_event hbody, hname, nonBlank?_chain, deliveryChain?]
  case artifact =>
    intro stamp body a hbody ha
    rw [Hook.service_event]
    exact Hook.artifact_of_event hbody ha

def spacedRequest : List UInt8 :=
  ("\x7b\"action\":\"opened\",\"repository\":\x7b\"name\":\" orders \"\x7d," ++
    "\"pull_request\":\x7b\"number\":7," ++
    "\"head\":\x7b\"sha\":\"0123456789a bcdef\"\x7d\x7d\x7d").toUTF8.toList

def spacedEvent : CanonicalEvent :=
  { eventType := "dev.cdevents.change.opened.0.3.0"
    source := "github/app"
    service := "orders"
    environment := "production"
    artifact := "pkg:generic/orders@0123456789a "
    subjectId := "change/pr-7"
    subjectType := "change"
    chainId := " d-1 " }

theorem spaced_request_traced :
    ∃ hook v body, github.reading? "pull_request" spacedRequest = some (hook, v) ∧
      Traced "pull_request" (some ⟨" d-1 "⟩) hook v spacedEvent ∧
      spacedEvent.Says ⟨.epoch, "u"⟩ body ∧
      body.at? ["context", "chainId"] = some (.text "d-1") ∧
      body.at? ["subject", "content", "artifactId"] =
        some (.text "pkg:generic/orders@0123456789a") := by
  have hconverted : (github.convert "pull_request" (some ⟨" d-1 "⟩) spacedRequest {}).toOption =
      some [spacedEvent] := by decide +kernel
  cases hevents : github.convert "pull_request" (some ⟨" d-1 "⟩) spacedRequest {} with
  | error e =>
    rw [hevents] at hconverted
    cases hconverted
  | ok events =>
    rw [hevents] at hconverted
    obtain rfl := Option.some.inj hconverted
    obtain ⟨hook, v, hreading, htraced⟩ := converted_events_traced hevents List.mem_cons_self
    refine ⟨hook, v, _, hreading, htraced, ⟨_, rfl, Envelope.parse?_body _⟩, ?_, ?_⟩
    · rfl
    · rfl

end Provider

end EventRelay
