import EventRelay.Proofs.Event.Building
import EventRelay.Proofs.Json.RoundTrip

/-!
# What is read from the wire

A body that is read again is an object with a context and a subject, and the
texts in it are those of the event, whatever characters they hold. Which shape
it has is told by the type that its context shows. Members stand in the order
of their keys, as reading gives them.
-/

set_option autoImplicit false

namespace EventRelay

open EventRelay.Json EventRelay.Text

namespace Text

theorem head?_of_startsWith {root s : String} {c : Char} (hroot : root.toList.head? = some c)
    (h : startsWith root s = true) : s.toList.head? = some c := by
  obtain ⟨rest, hrest⟩ := List.isPrefixOf_iff_prefix.mp h
  rw [← hrest, List.head?_append, hroot]
  rfl

theorem head?_lower_trimmed {s : String} (h : s.toList.head? = some 's') {c : Char}
    (hc : (lower (trimmed s)).toList.head? = some c) : c = 's' := by
  have hkept : s.toList.dropWhile isBlank = s.toList := dropWhile_of_head _ fun d hd => by
    rw [h] at hd
    cases hd
    rfl
  rw [lower, trimmed, String.toList_ofList, String.toList_ofList, trimChars, hkept] at hc
  cases hcs : trimEnd s.toList with
  | nil =>
    rw [hcs] at hc
    cases hc
  | cons d ds =>
    have hd : (trimEnd s.toList).head? = some d := by
      rw [hcs]
      rfl
    have hds := head?_trimEnd hd
    rw [h] at hds
    obtain rfl := Option.some.inj hds
    rw [hcs] at hc
    exact (Option.some.inj hc).symm

end Text

/-! ## Kinds and the types they show -/

namespace EventKind

def ofLongType? (type : String) : Option EventKind := all.find? fun kind => kind.longType == type

theorem shortKey_ofShortKey? {key : String} {kind : EventKind} (h : ofShortKey? key = some kind) :
    kind.shortKey = key :=
  eq_of_beq (List.find?_some (p := fun kind : EventKind => kind.shortKey == key) h)

theorem ofShortKey?_shortKey (kind : EventKind) : ofShortKey? kind.shortKey = some kind := by
  cases kind <;> rfl

theorem ofLongType?_longType (kind : EventKind) : ofLongType? kind.longType = some kind := by
  cases kind <;> decide

theorem startsWith_shortKey {kind : EventKind} (h : kind.isService = true) :
    startsWith "service." kind.shortKey = true := by
  cases kind <;> first | rfl | cases h

end EventKind

namespace EventType

/-- No normalized type is the long type of a kind. -/
theorem ofLongType?_normalize {raw : String} (h : EventKind.ofShortKey? (normalize raw) = none) :
    EventKind.ofLongType? (normalize raw) = none := by
  unfold normalize at h ⊢
  simp only at h ⊢
  cases hlook : aliases.lookup (lower (trimmed raw)) with
  | some kind =>
    rw [hlook] at h
    simp only [EventKind.ofShortKey?_shortKey] at h
    cases h
  | none =>
    simp only
    refine List.find?_eq_none.mpr fun kind hkind heq => ?_
    have hmem : (kind.longType, kind) ∈ aliases :=
      List.mem_cons_of_mem _ (List.mem_map_of_mem hkind)
    have hne := List.lookup_eq_none_iff.mp hlook _ hmem
    rw [eq_of_beq heq] at hne
    simp at hne

theorem not_service_of_accepted {type : String} (h : isAcceptedCustom type = true) :
    startsWith "service." type = false := by
  refine Bool.eq_false_iff.mpr fun hservice => ?_
  have hroots : ∀ root ∈ customRoots, root.toList.head? = some 'd' := by decide
  obtain ⟨root, hroot, hstart⟩ := List.any_eq_true.mp h
  have hd := head?_of_startsWith (hroots root hroot) hstart
  have hs := head?_of_startsWith (c := 's') rfl hservice
  exact absurd (head?_lower_trimmed hs hd) (by decide)

end EventType

/-! ## What an event says -/

def contextRead (chainId : Option String) (id source timestamp type : String) : Json :=
  .object (optionalMember "chainId" chainId ++ [("id", .text id), ("source", .text source),
    ("specversion", .text "0.5.0"), ("timestamp", .text timestamp), ("type", .text type)])

def subjectRead (content : Json) (id source type : String) : Json :=
  .object [("content", content), ("id", .text id), ("source", .text source), ("type", .text type)]

namespace CanonicalEvent

def serviceArtifact (e : CanonicalEvent) (now : Timestamp) : String :=
  if trimmed e.artifact = "" then
    "pkg:generic/" ++ trimmed e.service ++ "@" ++ integerText now.seconds
  else trimmed e.artifact

/-- The content of an event of a kind, or of a custom one, as it is read. -/
def contentRead (e : CanonicalEvent) (now : Timestamp) : Option EventKind → Json
  | some kind =>
    if kind.isService then
      .object (optionalMember "artifactId"
        (if kind = .serviceRemoved then none else some (e.serviceArtifact now)) ++
        [("environment", .object [("id", .text (trimmed e.environment))])])
    else .object []
  | none =>
    .object [("actor", .object [("name", .text (trimmed e.actorName))]),
      ("artifactId", .text (trimmed e.artifact)),
      ("environment", .object [("id", .text (trimmed e.environment))]),
      ("pipeline", .object [("runId", .text (trimmed e.pipelineRun)),
        ("url", .text (trimmed e.pipelineUrl))])]

def subjectTypeRead (e : CanonicalEvent) : Option EventKind → String
  | some kind => if kind.isService then "service" else "environment"
  | none => e.resolvedSubjectType

/-- All that an event says under a type and a subject id. -/
def messageRead (e : CanonicalEvent) (stamp : Stamp) (type subjectId : String) : Json :=
  let kind? := EventKind.ofLongType? type
  let source := orFallback "ci/pipeline" e.source
  .object [
    ("context", contextRead (if kind?.isSome then none else nonBlank? e.chainId)
      (if kind?.isSome then stamp.uuid else integerText stamp.now.unixNanos) source
      stamp.now.nanosText type),
    ("subject", subjectRead (e.contentRead stamp.now kind?) subjectId source
      (e.subjectTypeRead kind?))]

end CanonicalEvent

/-! ## Envelopes -/

theorem Content.fits (content : Content) {depth : Nat} (h : 2 ≤ depth) :
    Fits depth content.toJson := by
  cases content with
  | service place artifact =>
    cases artifact <;>
      simp [Content.toJson, optionalMember, reference, Fits, FitsMembers] <;> omega
  | environment => simp [Content.toJson, Fits, FitsMembers]; omega
  | general => simp [Content.toJson, reference, Fits, FitsMembers]; omega

theorem Envelope.fits (env : Envelope) : Fits maxDepth env.toJson := by
  have hcontent : Fits 125 env.content.toJson := env.content.fits (by decide)
  cases hchain : env.chainId <;>
    simp [maxDepth, toJson, contextJson, subjectJson, optionalMember, hchain, Fits, FitsMembers,
      hcontent]

theorem Envelope.parse?_body (env : Envelope) :
    parse? env.body = some (.object [
      ("context", contextRead env.chainId env.id env.source env.timestamp env.resolvedType),
      ("subject", subjectRead (sorted env.content.toJson) env.subjectId env.source
        env.subjectType)]) := by
  rw [body, parse?_octets env.fits]
  rw [toJson, contextJson, subjectJson, contextRead, subjectRead]
  cases hchain : env.chainId <;> rfl

namespace CanonicalEvent

variable {e : CanonicalEvent} {stamp : Stamp} {env : Envelope} {subjectId : String}

theorem envelope_ok (h : e.envelope stamp = .ok env) :
    ∃ id, e.resolvedSubjectId? = some id ∧
      ((∃ kind, EventKind.ofShortKey? (EventType.normalize e.eventType) = some kind ∧
        e.strictEnvelope stamp kind id = .ok env) ∨
      (EventKind.ofShortKey? (EventType.normalize e.eventType) = none ∧
        EventType.isAcceptedCustom (EventType.normalize e.eventType) = true ∧
        env = e.generalEnvelope stamp id)) := by
  unfold envelope at h
  split at h
  · cases h
  rename_i id hid
  refine ⟨id, hid, ?_⟩
  split at h
  · rename_i kind hkind
    exact Or.inl ⟨kind, hkind, h⟩
  · rename_i hkind
    split at h
    · rename_i haccepted
      cases h
      exact Or.inr ⟨hkind, haccepted, rfl⟩
    · cases h

theorem resolvedArtifact_service
    (h : startsWith "service." (EventType.normalize e.eventType) = true) (now : Timestamp) :
    e.resolvedArtifact now = e.serviceArtifact now := by
  simp only [resolvedArtifact, serviceArtifact, h, and_true]
  rfl

theorem resolvedArtifact_other
    (h : startsWith "service." (EventType.normalize e.eventType) = false) (now : Timestamp) :
    e.resolvedArtifact now = trimmed e.artifact := by
  simp only [resolvedArtifact, h, Bool.false_eq_true, and_false, if_false]

theorem sorted_service (place : String) (artifact : Option String) :
    sorted (Content.service place artifact).toJson =
      .object (optionalMember "artifactId" artifact ++
        [("environment", .object [("id", .text place)])]) := by
  cases artifact <;> rfl

theorem sorted_general (place artifact runId url actor : String) :
    sorted (Content.general place artifact runId url actor).toJson =
      .object [("actor", .object [("name", .text actor)]), ("artifactId", .text artifact),
        ("environment", .object [("id", .text place)]),
        ("pipeline", .object [("runId", .text runId), ("url", .text url)])] := rfl

theorem strictEnvelope_says {kind : EventKind}
    (hkind : EventKind.ofShortKey? (EventType.normalize e.eventType) = some kind)
    (h : e.strictEnvelope stamp kind subjectId = .ok env) :
    env.resolvedType = kind.longType ∧
      parse? env.body = some (e.messageRead stamp kind.longType subjectId) := by
  have hkey := EventKind.shortKey_ofShortKey? hkind
  unfold strictEnvelope at h
  simp only at h
  split at h
  · rename_i hservice
    have hstart := EventKind.startsWith_shortKey hservice
    rw [hkey] at hstart
    have hartifact : (if kind.carriesArtifact then some (e.resolvedArtifact stamp.now) else none) =
        if kind = .serviceRemoved then none else some (e.serviceArtifact stamp.now) := by
      rw [resolvedArtifact_service hstart, EventKind.carriesArtifact, hservice, Bool.true_and]
      by_cases hremoved : kind = .serviceRemoved <;> simp [hremoved]
    split at h
    · cases h
    · cases h
      refine ⟨rfl, ?_⟩
      rw [Envelope.parse?_body]
      simp only [messageRead, EventKind.ofLongType?_longType, Option.isSome_some, if_true,
        contentRead, subjectTypeRead, hservice, sorted_service, hartifact]
      rfl
  · rename_i henvironment
    split at h
    · cases h
    · cases h
      refine ⟨rfl, ?_⟩
      rw [Envelope.parse?_body]
      simp only [messageRead, EventKind.ofLongType?_longType, Option.isSome_some, if_true,
        contentRead, subjectTypeRead, henvironment]
      rfl

theorem generalEnvelope_says
    (hkind : EventKind.ofShortKey? (EventType.normalize e.eventType) = none)
    (haccepted : EventType.isAcceptedCustom (EventType.normalize e.eventType) = true) :
    parse? (e.generalEnvelope stamp subjectId).body =
      some (e.messageRead stamp (EventType.normalize e.eventType) subjectId) := by
  have hartifact := resolvedArtifact_other (EventType.not_service_of_accepted haccepted) stamp.now
  rw [Envelope.parse?_body]
  simp only [generalEnvelope, messageRead, EventType.ofLongType?_normalize hkind,
    Option.isSome_none, Bool.false_eq_true, if_false, contentRead, subjectTypeRead, hartifact,
    sorted_general]
  rfl

/-- A body says what the event says, under the type that was resolved: the members are those of
that type, and each text is the one of the event. -/
theorem body_says_event (h : e.envelope stamp = .ok env) :
    env.resolvedType = EventType.shown (EventType.normalize e.eventType) ∧
      ∃ id, e.resolvedSubjectId? = some id ∧
        parse? env.body = some (e.messageRead stamp env.resolvedType id) := by
  obtain ⟨id, hid, ⟨kind, hkind, hstrict⟩ | ⟨hkind, haccepted, rfl⟩⟩ := envelope_ok h
  · obtain ⟨htype, hsays⟩ := strictEnvelope_says hkind hstrict
    rw [EventType.shown, hkind, htype]
    exact ⟨rfl, id, hid, hsays⟩
  · have htype : (e.generalEnvelope stamp id).resolvedType = EventType.normalize e.eventType := by
      rw [generalEnvelope]
    rw [EventType.shown, hkind, htype]
    exact ⟨rfl, id, hid, generalEnvelope_says hkind haccepted⟩

def forging : CanonicalEvent :=
  { eventType := "DEV.CDEvents.Pipeline.\"x\\"
    source := "\",\"source\":\"forged"
    service := " a\\ "
    environment := "\x7b\x7d\x00\x1f"
    chainId := "c\",\"id\":\"forged"
    actorName := "Ж\"\x7d,\"content\":\x7b\x7d" }

theorem forging_read_back :
    ∃ env, forging.envelope ⟨⟨5, 0, by decide⟩, "u"⟩ = .ok env ∧
      parse? env.body = some (.object [
        ("context", .object [("chainId", .text "c\",\"id\":\"forged"), ("id", .text "5000000000"),
          ("source", .text "\",\"source\":\"forged"), ("specversion", .text "0.5.0"),
          ("timestamp", .text "1970-01-01T00:00:05.000000000Z"),
          ("type", .text "dev.cdevents.pipeline.\"x\\")]),
        ("subject", .object [
          ("content", .object [
            ("actor", .object [("name", .text "Ж\"\x7d,\"content\":\x7b\x7d")]),
            ("artifactId", .text ""), ("environment", .object [("id", .text "\x7b\x7d\x00\x1f")]),
            ("pipeline", .object [("runId", .text ""), ("url", .text "")])]),
          ("id", .text "pipeline/a\\"), ("source", .text "\",\"source\":\"forged"),
          ("type", .text "pipeline")])]) := by
  have hid : forging.resolvedSubjectId? = some "pipeline/a\\" := by decide
  have hbuilt : (forging.envelope ⟨⟨5, 0, by decide⟩, "u"⟩).toOption.isSome = true := by decide
  cases henv : forging.envelope ⟨⟨5, 0, by decide⟩, "u"⟩ with
  | error e =>
    rw [henv] at hbuilt
    cases hbuilt
  | ok env =>
    obtain ⟨htype, id, hid', hsays⟩ := body_says_event henv
    obtain rfl := Option.some.inj (hid.symm.trans hid')
    have hshown : env.resolvedType = "dev.cdevents.pipeline.\"x\\" := htype.trans (by decide)
    rw [hshown] at hsays
    exact ⟨env, rfl, hsays.trans (by rfl)⟩

def declaring : CanonicalEvent :=
  { eventType := "service.deployed"
    source := "ci/test"
    service := "billing-api"
    environment := "staging"
    artifact := "pkg:generic/billing-api@1"
    subjectType := "custom" }

theorem declared_subject_type_not_sent :
    declaring.resolvedSubjectType = "custom" ∧
      ∃ env, declaring.envelope ⟨⟨1700000000, 0, by decide⟩, "u"⟩ = .ok env ∧
        (parse? env.body).map (Json.textAt ["subject", "type"]) = some "service" := by
  refine ⟨by decide, _, rfl, ?_⟩
  rw [Envelope.parse?_body]
  rfl

end CanonicalEvent

end EventRelay
