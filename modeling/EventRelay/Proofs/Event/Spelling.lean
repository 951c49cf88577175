import EventRelay.Proofs.Event.Verdict

/-!
# Spelling and padding

A kind is spelled by its short key or by its long type, in letters of any case
and with blanks around it, and a deployment by a blank type besides. An event
is built from its texts taken trimmed and from its type as it is looked up, so
that events which agree in these are built alike. Only the error about an
unsupported type quotes the type as it was given.
-/

set_option autoImplicit false

namespace EventRelay

open EventRelay.Text

namespace EventType

variable {raw other : String} {kind : EventKind}

/-- The ways to spell a kind. -/
def Spells (raw : String) (kind : EventKind) : Prop :=
  lower (trimmed raw) = kind.shortKey ∨ lower (trimmed raw) = kind.longType ∨
    trimmed raw = "" ∧ kind = .serviceDeployed

def Same (raw other : String) : Prop :=
  lower (trimmed raw) = lower (trimmed other) ∨ ∃ kind, Spells raw kind ∧ Spells other kind

theorem lookup_shortKey (kind : EventKind) : aliases.lookup kind.shortKey = none := by
  cases kind <;> decide

theorem lookup_longType (kind : EventKind) : aliases.lookup kind.longType = some kind := by
  cases kind <;> decide

theorem spells_of_lookup (h : aliases.lookup (lower (trimmed raw)) = some kind) :
    Spells raw kind := by
  obtain ⟨before, after, haliases, -⟩ := List.lookup_eq_some_iff.mp h
  have hmem : (lower (trimmed raw), kind) ∈ aliases := by
    rw [haliases]
    exact List.mem_append_right _ List.mem_cons_self
  rcases List.mem_cons.mp hmem with hblank | hlong
  · obtain ⟨hvalue, hkind⟩ := Prod.mk.inj hblank
    exact Or.inr (Or.inr ⟨lower_eq_empty_iff.mp hvalue, hkind⟩)
  · obtain ⟨found, -, hfound⟩ := List.mem_map.mp hlong
    obtain ⟨hvalue, rfl⟩ := Prod.mk.inj hfound
    exact Or.inr (Or.inl hvalue.symm)

/-- A type is looked up as the short key of a kind exactly if it spells that kind. -/
theorem normalize_eq_shortKey_iff : normalize raw = kind.shortKey ↔ Spells raw kind := by
  constructor
  · intro h
    cases hlookup : aliases.lookup (lower (trimmed raw)) with
    | none =>
      simp only [normalize, hlookup] at h
      exact Or.inl h
    | some found =>
      simp only [normalize, hlookup] at h
      rw [← EventKind.shortKey_injective h]
      exact spells_of_lookup hlookup
  · rintro (hshort | hlong | ⟨hblank, rfl⟩)
    · simp only [normalize, hshort, lookup_shortKey]
    · simp only [normalize, hlong, lookup_longType]
    · rw [normalize, hblank]
      decide

theorem normalize_of_unspelled (h : ∀ kind, ¬ Spells raw kind) :
    normalize raw = lower (trimmed raw) := by
  cases hlookup : aliases.lookup (lower (trimmed raw)) with
  | none => simp only [normalize, hlookup]
  | some kind => exact absurd (spells_of_lookup hlookup) (h kind)

theorem normalize_eq_iff : normalize raw = normalize other ↔ Same raw other := by
  constructor
  · intro h
    by_cases hspelled : ∃ kind, Spells raw kind
    · obtain ⟨kind, hraw⟩ := hspelled
      have hother : normalize other = kind.shortKey := h ▸ normalize_eq_shortKey_iff.mpr hraw
      exact Or.inr ⟨kind, hraw, normalize_eq_shortKey_iff.mp hother⟩
    · have hraw : ∀ kind, ¬ Spells raw kind := not_exists.mp hspelled
      have hother : ∀ kind, ¬ Spells other kind := fun kind hkind =>
        hraw kind (normalize_eq_shortKey_iff.mp (h.trans (normalize_eq_shortKey_iff.mpr hkind)))
      rw [normalize_of_unspelled hraw, normalize_of_unspelled hother] at h
      exact Or.inl h
  · rintro (hsame | ⟨kind, hraw, hother⟩)
    · simp only [normalize, hsame]
    · rw [normalize_eq_shortKey_iff.mpr hraw, normalize_eq_shortKey_iff.mpr hother]

end EventType

def BuildError.quoting (raw : String) : BuildError → BuildError
  | .unsupportedType _ => .unsupportedType raw
  | cause => cause

namespace CanonicalEvent

/-- Two events that agree in their texts taken trimmed and in their type as it is looked up. -/
structure Alike (e f : CanonicalEvent) : Prop where
  eventType : EventType.normalize e.eventType = EventType.normalize f.eventType
  source : trimmed e.source = trimmed f.source
  service : trimmed e.service = trimmed f.service
  environment : trimmed e.environment = trimmed f.environment
  artifact : trimmed e.artifact = trimmed f.artifact
  subjectId : trimmed e.subjectId = trimmed f.subjectId
  subjectType : trimmed e.subjectType = trimmed f.subjectType
  chainId : trimmed e.chainId = trimmed f.chainId
  actorName : trimmed e.actorName = trimmed f.actorName
  pipelineRun : trimmed e.pipelineRun = trimmed f.pipelineRun
  pipelineUrl : trimmed e.pipelineUrl = trimmed f.pipelineUrl

variable {e f : CanonicalEvent}

theorem resolvedArtifact_congr (h : e.Alike f) (now : Timestamp) :
    e.resolvedArtifact now = f.resolvedArtifact now := by
  simp only [resolvedArtifact, h.eventType, h.artifact, h.service]

theorem resolvedSubjectType_congr (h : e.Alike f) :
    e.resolvedSubjectType = f.resolvedSubjectType := by
  simp only [resolvedSubjectType, orFallback, h.eventType, h.subjectType]

theorem resolvedSubjectId?_congr (h : e.Alike f) :
    e.resolvedSubjectId? = f.resolvedSubjectId? := by
  rw [resolvedSubjectId?_eq, resolvedSubjectId?_eq, resolvedSubjectType_congr h, h.subjectId,
    h.service, h.environment]

theorem strictEnvelope_congr (h : e.Alike f) (stamp : Stamp) (kind : EventKind)
    (subjectId : String) :
    e.strictEnvelope stamp kind subjectId = f.strictEnvelope stamp kind subjectId := by
  simp only [strictEnvelope, orFallback, h.service, h.environment, h.source,
    resolvedArtifact_congr h]

theorem generalEnvelope_congr (h : e.Alike f) (stamp : Stamp) (subjectId : String) :
    e.generalEnvelope stamp subjectId = f.generalEnvelope stamp subjectId := by
  simp only [generalEnvelope, orFallback, nonBlank?, h.eventType, h.source, h.chainId,
    resolvedSubjectType_congr h, h.environment, resolvedArtifact_congr h, h.pipelineRun,
    h.pipelineUrl, h.actorName]

theorem strictEnvelope_quoting (e : CanonicalEvent) (stamp : Stamp) (kind : EventKind)
    (subjectId raw : String) :
    (e.strictEnvelope stamp kind subjectId).mapError (.quoting raw) =
      e.strictEnvelope stamp kind subjectId := by
  unfold strictEnvelope
  simp only
  split <;> split <;> rfl

/-- Alike events are built alike, and an error quotes the type of its own event. -/
theorem envelope_congr (h : e.Alike f) (stamp : Stamp) :
    (e.envelope stamp).mapError (.quoting f.eventType) = f.envelope stamp := by
  rw [envelope, envelope, resolvedSubjectId?_congr h, h.eventType]
  cases f.resolvedSubjectId? with
  | none => rfl
  | some subjectId =>
    simp only
    cases EventKind.ofShortKey? (EventType.normalize f.eventType) with
    | some kind => exact (e.strictEnvelope_quoting ..).trans (strictEnvelope_congr h ..)
    | none =>
      simp only
      split
      · rw [generalEnvelope_congr h]
        rfl
      · rfl

/-- Of two events that agree but for blanks around their texts and for the spelling of their type,
one has an envelope if the other has, and it is the same envelope. Else they have the same error,
each about the type as the event itself spells it. -/
theorem envelope_ignores_spelling (h : e.Alike f) (stamp : Stamp) :
    (∀ raw other, EventType.normalize raw = EventType.normalize other ↔
      EventType.Same raw other) ∧
    (∀ env, e.envelope stamp = .ok env ↔ f.envelope stamp = .ok env) ∧
    ∀ cause, e.envelope stamp = .error cause →
      f.envelope stamp = .error (cause.quoting f.eventType) := by
  have hequal := envelope_congr h stamp
  refine ⟨fun _ _ => EventType.normalize_eq_iff, fun env => ?_, fun cause hcause => ?_⟩
  · rw [← hequal]
    cases e.envelope stamp <;> simp [Except.mapError]
  · rw [← hequal, hcause]
    rfl

def terse : CanonicalEvent :=
  { service := "orders", environment := "qa" }

def padded : CanonicalEvent :=
  { eventType := " DEV.CDEVENTS.Service.Deployed.0.3.0\t"
    source := " ", service := "\norders", environment := " qa ", chainId := "\t" }

theorem padded_as_terse :
    terse.Alike padded ∧ ∃ env, terse.envelope ⟨.epoch, "u"⟩ = .ok env ∧
      padded.envelope ⟨.epoch, "u"⟩ = .ok env := by
  have halike : terse.Alike padded := by
    constructor <;> decide
  have hbuilt : ∃ env, terse.envelope ⟨.epoch, "u"⟩ = .ok env := ⟨_, rfl⟩
  obtain ⟨env, henv⟩ := hbuilt
  obtain ⟨-, hsame, -⟩ := envelope_ignores_spelling halike ⟨.epoch, "u"⟩
  exact ⟨halike, env, henv, (hsame env).mp henv⟩

end CanonicalEvent

end EventRelay
