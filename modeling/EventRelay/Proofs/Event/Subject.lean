import EventRelay.Proofs.Event.Wire

/-!
# The subject of an envelope

The subject id that is sent always has a slash. An id or a service that has
none is a bare name, and so is an environment: the subject type of the event
is put before it. That type is also the one that the envelope declares,
unless the event is of a known kind and names another one than its kind has.
-/

set_option autoImplicit false

namespace EventRelay

open EventRelay.Json EventRelay.Text

namespace EventKind

def subjectType (kind : EventKind) : SubjectType :=
  if kind.isService then .service else .environment

theorem subject_shortKey (kind : EventKind) :
    EventType.subject kind.shortKey = kind.subjectType := by
  cases kind <;> decide

theorem ofShortKey?_eq_some_iff {type : String} {kind : EventKind} :
    ofShortKey? type = some kind ↔ type = kind.shortKey := by
  constructor
  · intro h
    exact (shortKey_ofShortKey? h).symm
  · rintro rfl
    exact ofShortKey?_shortKey kind

theorem shortKey_injective {kind other : EventKind} (h : kind.shortKey = other.shortKey) :
    kind = other := by
  have hkey := ofShortKey?_eq_some_iff.mpr h
  rw [ofShortKey?_shortKey] at hkey
  exact Option.some.inj hkey

end EventKind

namespace CanonicalEvent

variable {e : CanonicalEvent} {stamp : Stamp} {env : Envelope} {id name : String}

/-! ## Subject ids -/

def qualified (subjectType name : String) : String :=
  if '/' ∈ name.toList then name else subjectType ++ "/" ++ name

theorem slash_mem_typed (subjectType name : String) :
    '/' ∈ (subjectType ++ "/" ++ name).toList := by
  simp

theorem slash_mem_qualified (subjectType name : String) :
    '/' ∈ (qualified subjectType name).toList := by
  by_cases h : '/' ∈ name.toList
  · simp [qualified, h]
  · rw [qualified, if_neg h]
    exact slash_mem_typed subjectType name

theorem trimmed_name (subject : SubjectType) : trimmed subject.name = subject.name := by
  cases subject <;> decide

theorem trimmed_resolvedSubjectType (e : CanonicalEvent) :
    trimmed e.resolvedSubjectType = e.resolvedSubjectType := by
  unfold resolvedSubjectType orFallback
  simp only
  split
  · exact trimmed_name _
  · exact trimmed_trimmed _

theorem inferSubjectId_eq (e : CanonicalEvent) :
    inferSubjectId e.resolvedSubjectType e.service e.environment =
      if trimmed e.service ≠ "" then qualified e.resolvedSubjectType (trimmed e.service)
      else if e.resolvedSubjectType = "environment" ∧ trimmed e.environment ≠ "" then
        e.resolvedSubjectType ++ "/" ++ trimmed e.environment
      else "" := by
  simp only [inferSubjectId, trimmed_resolvedSubjectType, qualified, List.contains_iff_mem,
    SubjectType.name]
  by_cases hservice : trimmed e.service ≠ ""
  · rw [if_pos hservice, if_pos hservice]
  · rw [if_neg hservice, if_neg hservice]
    by_cases hplace : e.resolvedSubjectType = "environment" ∧ trimmed e.environment ≠ ""
    · rw [if_pos hplace, if_pos hplace, hplace.1]
      rfl
    · rw [if_neg hplace, if_neg hplace]

/-- The subject id comes from the given one, from the service or from the environment. -/
theorem resolvedSubjectId?_eq (e : CanonicalEvent) :
    e.resolvedSubjectId? =
      if trimmed e.subjectId ≠ "" then
        some (qualified e.resolvedSubjectType (trimmed e.subjectId))
      else if trimmed e.service ≠ "" then
        some (qualified e.resolvedSubjectType (trimmed e.service))
      else if e.resolvedSubjectType = "environment" ∧ trimmed e.environment ≠ "" then
        some (e.resolvedSubjectType ++ "/" ++ trimmed e.environment)
      else none := by
  have hslash : ∀ id : String, '/' ∈ id.toList →
      (if id = "" then none else if id.toList.contains '/' then some id
        else some (e.resolvedSubjectType ++ "/" ++ id)) = some id := by
    intro id hid
    have hne : id ≠ "" := by
      rintro rfl
      cases hid
    rw [if_neg hne, if_pos (List.contains_iff_mem.mpr hid)]
  by_cases hid : trimmed e.subjectId ≠ ""
  · simp [resolvedSubjectId?, orFallback, hid, qualified, apply_ite some]
  · rw [if_neg hid]
    simp only [resolvedSubjectId?, orFallback, not_not.mp hid, if_true, inferSubjectId_eq]
    by_cases hservice : trimmed e.service ≠ ""
    · rw [if_pos hservice, if_pos hservice, hslash _ (slash_mem_qualified _ _)]
    · rw [if_neg hservice, if_neg hservice]
      by_cases hplace : e.resolvedSubjectType = "environment" ∧ trimmed e.environment ≠ ""
      · rw [if_pos hplace, if_pos hplace, hslash _ (slash_mem_typed _ _)]
      · rw [if_neg hplace, if_neg hplace, if_pos rfl]

/-- Neither id, service nor environment tells what the event is about. An environment tells it
only when the subject is one. -/
def LacksSubject (e : CanonicalEvent) : Prop :=
  trimmed e.subjectId = "" ∧ trimmed e.service = "" ∧
    ¬ (e.resolvedSubjectType = "environment" ∧ trimmed e.environment ≠ "")

instance (e : CanonicalEvent) : Decidable e.LacksSubject := inferInstanceAs (Decidable (_ ∧ _))

theorem resolvedSubjectId?_eq_none_iff (e : CanonicalEvent) :
    e.resolvedSubjectId? = none ↔ e.LacksSubject := by
  rw [resolvedSubjectId?_eq, LacksSubject]
  by_cases hid : trimmed e.subjectId = ""
  · by_cases hservice : trimmed e.service = ""
    · simp [hid, hservice]
    · simp [hid, hservice]
  · simp [hid]

theorem slash_mem_of_resolved (h : e.resolvedSubjectId? = some id) : '/' ∈ id.toList := by
  rw [resolvedSubjectId?_eq] at h
  split at h
  · rw [← Option.some.inj h]
    exact slash_mem_qualified _ _
  split at h
  · rw [← Option.some.inj h]
    exact slash_mem_qualified _ _
  split at h
  · rw [← Option.some.inj h]
    exact slash_mem_typed _ _
  · cases h

/-- A name that the subject type is put before. -/
inductive Bare (e : CanonicalEvent) : String → Prop
  | given (hid : trimmed e.subjectId ≠ "") (hslash : '/' ∉ (trimmed e.subjectId).toList) :
      Bare e (trimmed e.subjectId)
  | service (hid : trimmed e.subjectId = "") (hservice : trimmed e.service ≠ "")
      (hslash : '/' ∉ (trimmed e.service).toList) : Bare e (trimmed e.service)
  | environment (hid : trimmed e.subjectId = "") (hservice : trimmed e.service = "") :
      Bare e (trimmed e.environment)

theorem Bare.resolved_eq (hbare : e.Bare name) (h : e.resolvedSubjectId? = some id) :
    id = e.resolvedSubjectType ++ "/" ++ name := by
  rw [resolvedSubjectId?_eq] at h
  cases hbare with
  | given hid hslash =>
    rw [if_pos hid, qualified, if_neg hslash] at h
    exact (Option.some.inj h).symm
  | service hid hservice hslash =>
    rw [if_neg (not_not.mpr hid), if_pos hservice, qualified, if_neg hslash] at h
    exact (Option.some.inj h).symm
  | environment hid hservice =>
    rw [if_neg (not_not.mpr hid), if_neg (not_not.mpr hservice)] at h
    split at h
    · exact (Option.some.inj h).symm
    · cases h

/-! ## Subject types -/

/-- The event is of a known kind. -/
def IsOf (e : CanonicalEvent) (kind : EventKind) : Prop :=
  EventType.normalize e.eventType = kind.shortKey

instance (e : CanonicalEvent) (kind : EventKind) : Decidable (e.IsOf kind) :=
  inferInstanceAs (Decidable (_ = _))

theorem IsOf.unique {kind other : EventKind} (h : e.IsOf kind) (hother : e.IsOf other) :
    kind = other := EventKind.shortKey_injective (h.symm.trans hother)

/-- If the event is of a known kind, it names no subject type but that of its kind. -/
def KeepsSubjectType (e : CanonicalEvent) : Prop :=
  ∀ kind, e.IsOf kind →
    trimmed e.subjectType = "" ∨ trimmed e.subjectType = kind.subjectType.name

theorem strictEnvelope_subject {kind : EventKind} (h : e.strictEnvelope stamp kind id = .ok env) :
    env.subjectId = id ∧ env.subjectType = kind.subjectType.name := by
  unfold strictEnvelope at h
  simp only at h
  split at h
  · rename_i hservice
    split at h
    · cases h
    · cases h
      exact ⟨rfl, by simp [EventKind.subjectType, hservice, SubjectType.name]⟩
  · rename_i henvironment
    split at h
    · cases h
    · cases h
      exact ⟨rfl, by simp [EventKind.subjectType, henvironment, SubjectType.name]⟩

theorem resolvedSubjectType_of_kind {kind : EventKind} (hkind : e.IsOf kind) :
    e.resolvedSubjectType =
      if trimmed e.subjectType = "" then kind.subjectType.name else trimmed e.subjectType := by
  rw [IsOf] at hkind
  rw [resolvedSubjectType, hkind, EventKind.subject_shortKey, orFallback]

theorem envelope_subject (h : e.envelope stamp = .ok env) :
    e.resolvedSubjectId? = some env.subjectId ∧
      (env.subjectType = e.resolvedSubjectType ↔ e.KeepsSubjectType) := by
  obtain ⟨id, hid, ⟨kind, hkind, hstrict⟩ | ⟨hnone, -, rfl⟩⟩ := envelope_ok h
  · obtain ⟨rfl, htype⟩ := strictEnvelope_subject hstrict
    have hkind := EventKind.ofShortKey?_eq_some_iff.mp hkind
    have hkeeps : e.KeepsSubjectType ↔
        trimmed e.subjectType = "" ∨ trimmed e.subjectType = kind.subjectType.name := by
      constructor
      · intro hall
        exact hall kind hkind
      · intro hone other hother
        rwa [IsOf.unique hother hkind]
    refine ⟨hid, ?_⟩
    rw [htype, resolvedSubjectType_of_kind hkind, hkeeps]
    by_cases hblank : trimmed e.subjectType = ""
    · simp [hblank]
    · rw [if_neg hblank, or_iff_right hblank]
      exact eq_comm
  · refine ⟨hid, iff_of_true rfl ?_⟩
    intro kind hkind
    rw [EventKind.ofShortKey?_eq_some_iff.mpr hkind] at hnone
    cases hnone

/-- The subject id that is sent has a slash. What the builder puts before a bare name is the
subject type of the event, and this is the type that the same body declares exactly if the event
keeps to that of its kind. -/
theorem bare_name_typed (h : e.envelope stamp = .ok env) :
    ∃ body, parse? env.body = some body ∧ '/' ∈ (body.textAt ["subject", "id"]).toList ∧
      ∀ name, e.Bare name →
        body.textAt ["subject", "id"] = e.resolvedSubjectType ++ "/" ++ name ∧
        (body.textAt ["subject", "id"] = body.textAt ["subject", "type"] ++ "/" ++ name ↔
          e.KeepsSubjectType) := by
  obtain ⟨hid, htype⟩ := envelope_subject h
  refine ⟨_, Envelope.parse?_body env, slash_mem_of_resolved hid, ?_⟩
  intro name hbare
  have hname := hbare.resolved_eq hid
  refine ⟨hname, ?_⟩
  change env.subjectId = env.subjectType ++ "/" ++ name ↔ e.KeepsSubjectType
  rw [hname, ← htype, String.append_left_inj, String.append_left_inj]
  exact eq_comm

def placed : CanonicalEvent :=
  { eventType := "dev.cdevents.pipeline.run.queued.0.3.0"
    environment := " qa "
    subjectType := " environment " }

theorem placed_typed :
    ∃ env body, placed.envelope ⟨.epoch, "u"⟩ = .ok env ∧ parse? env.body = some body ∧
      body.textAt ["subject", "id"] = "environment/qa" ∧
      body.textAt ["subject", "id"] = body.textAt ["subject", "type"] ++ "/" ++ "qa" := by
  have hbuilt : ∃ env, placed.envelope ⟨.epoch, "u"⟩ = .ok env := ⟨_, rfl⟩
  obtain ⟨env, henv⟩ := hbuilt
  obtain ⟨body, hbody, -, hnames⟩ := bare_name_typed henv
  have hbare : placed.Bare "qa" := .environment (by decide) (by decide)
  have hkeeps : placed.KeepsSubjectType := by
    intro kind hkind
    cases kind <;> exact absurd hkind (by decide)
  obtain ⟨hid, hagrees⟩ := hnames "qa" hbare
  exact ⟨env, body, henv, hbody, hid.trans (by decide), hagrees.mpr hkeeps⟩

def overriding : CanonicalEvent :=
  { eventType := "service.deployed"
    source := "ci/test"
    service := "billing-api"
    environment := "staging"
    artifact := "pkg:generic/billing-api@1"
    subjectType := "pipeline" }

theorem overriding_type_not_declared :
    overriding.Bare "billing-api" ∧
      ∃ env body, overriding.envelope ⟨⟨1700000000, 0, by decide⟩, "u"⟩ = .ok env ∧
        parse? env.body = some body ∧ body.textAt ["subject", "type"] = "service" ∧
        body.textAt ["subject", "id"] = "pipeline/billing-api" ∧
        body.textAt ["subject", "id"] ≠ body.textAt ["subject", "type"] ++ "/" ++ "billing-api" := by
  refine ⟨.service (by decide) (by decide) (by decide), _, _, rfl, Envelope.parse?_body _, ?_⟩
  decide

end CanonicalEvent

end EventRelay
