import EventRelay.Proofs.Event.Subject

/-!
# The verdict on an event

Six outcomes are told by the type of an event as it is looked up, by its
subject type, and by its subject id, service and environment taken trimmed.
The checks are made one after another, and each verdict states what the
checks before it have passed: a subject is missed first, even of a type that
has no envelope. No two verdicts fit one event, so each is given exactly when
its conditions hold.
-/

set_option autoImplicit false

namespace EventRelay

open EventRelay.Json EventRelay.Text

namespace EventType

theorem lower_trimmed_shortKey (kind : EventKind) :
    lower (trimmed kind.shortKey) = kind.shortKey := by
  cases kind <;> decide

theorem lower_trimmed_normalize (raw : String) :
    lower (trimmed (normalize raw)) = normalize raw := by
  unfold normalize
  simp only
  split
  · exact lower_trimmed_shortKey _
  · rw [trimmed_lower_trimmed]
    exact lower_of_low fun _ hc => isLow_of_mem_lower hc

/-- A type that has been looked up is accepted by the root that it starts with as it is. -/
theorem isAcceptedCustom_normalize_iff (raw : String) :
    isAcceptedCustom (normalize raw) = true ↔
      ∃ root ∈ customRoots, startsWith root (normalize raw) = true := by
  rw [isAcceptedCustom, lower_trimmed_normalize]
  exact List.any_eq_true

end EventType

namespace CanonicalEvent

/-- What building an event comes to, and when: an error, or the type that is shown. -/
inductive Verdict (e : CanonicalEvent) : Except BuildError String → Prop
  | missingSubject (h : e.LacksSubject) : Verdict e (.error .missingSubject)
  | missingServiceOrEnvironment {kind : EventKind} (hsubject : ¬ e.LacksSubject)
      (htype : e.IsOf kind) (hkind : kind.isService = true)
      (h : trimmed e.service = "" ∨ trimmed e.environment = "") :
      Verdict e (.error .missingServiceOrEnvironment)
  | missingEnvironment {kind : EventKind} (hsubject : ¬ e.LacksSubject) (htype : e.IsOf kind)
      (hkind : kind.isEnvironment = true) (h : trimmed e.environment = "") :
      Verdict e (.error .missingEnvironment)
  | unsupported (hsubject : ¬ e.LacksSubject) (htype : ∀ kind, ¬ e.IsOf kind)
      (hroot : ∀ root ∈ EventType.customRoots,
        startsWith root (EventType.normalize e.eventType) = false) :
      Verdict e (.error (.unsupportedType e.eventType))
  | strict {kind : EventKind} (hsubject : ¬ e.LacksSubject) (htype : e.IsOf kind)
      (hservice : kind.isService = true → trimmed e.service ≠ "")
      (henvironment : trimmed e.environment ≠ "") : Verdict e (.ok kind.longType)
  | general {root : String} (hsubject : ¬ e.LacksSubject) (htype : ∀ kind, ¬ e.IsOf kind)
      (hroot : root ∈ EventType.customRoots)
      (hstart : startsWith root (EventType.normalize e.eventType) = true) :
      Verdict e (.ok (EventType.normalize e.eventType))

variable {e : CanonicalEvent} {stamp : Stamp} {env : Envelope}

/-- The verdict on a known kind, once the subject is told. -/
theorem strictEnvelope_verdict {kind : EventKind} {id : String} (hsubject : ¬ e.LacksSubject)
    (htype : e.IsOf kind) :
    e.Verdict ((e.strictEnvelope stamp kind id).map Envelope.resolvedType) := by
  unfold strictEnvelope
  simp only
  split
  · rename_i hservice
    split
    · rename_i hblank
      exact .missingServiceOrEnvironment hsubject htype hservice hblank
    · rename_i hfilled
      rw [not_or] at hfilled
      exact .strict hsubject htype (fun _ => hfilled.1) hfilled.2
  · rename_i hplace
    rw [EventKind.isService, Bool.not_eq_true', Bool.not_eq_false] at hplace
    split
    · rename_i hblank
      exact .missingEnvironment hsubject htype hplace hblank
    · rename_i hfilled
      refine .strict hsubject htype ?_ hfilled
      intro hservice
      rw [EventKind.isService, hplace] at hservice
      cases hservice

theorem envelope_verdict (e : CanonicalEvent) (stamp : Stamp) :
    e.Verdict ((e.envelope stamp).map Envelope.resolvedType) := by
  unfold envelope
  split
  · rename_i hnone
    exact .missingSubject (e.resolvedSubjectId?_eq_none_iff.mp hnone)
  · rename_i id hid
    have hsubject : ¬ e.LacksSubject := by
      rw [← resolvedSubjectId?_eq_none_iff, hid]
      exact Option.some_ne_none id
    split
    · rename_i kind hkind
      exact strictEnvelope_verdict hsubject (EventKind.ofShortKey?_eq_some_iff.mp hkind)
    · rename_i hnone
      have htype : ∀ kind, ¬ e.IsOf kind := by
        intro kind hkey
        rw [EventKind.ofShortKey?_eq_some_iff.mpr hkey] at hnone
        cases hnone
      split
      · rename_i haccepted
        obtain ⟨root, hroot, hstart⟩ := (EventType.isAcceptedCustom_normalize_iff _).mp haccepted
        simp only [Except.map, generalEnvelope]
        exact .general hsubject htype hroot hstart
      · rename_i hrefused
        refine .unsupported hsubject htype ?_
        intro root hroot
        apply Bool.eq_false_iff.mpr
        intro hstart
        exact hrefused ((EventType.isAcceptedCustom_normalize_iff _).mpr ⟨root, hroot, hstart⟩)

theorem exists_resolved (hsubject : ¬ e.LacksSubject) : ∃ id, e.resolvedSubjectId? = some id := by
  apply Option.ne_none_iff_exists'.mp
  rwa [ne_eq, resolvedSubjectId?_eq_none_iff]

theorem envelope_of_kind {kind : EventKind} (hsubject : ¬ e.LacksSubject) (htype : e.IsOf kind)
    (stamp : Stamp) : ∃ id, e.envelope stamp = e.strictEnvelope stamp kind id := by
  obtain ⟨id, hid⟩ := exists_resolved hsubject
  refine ⟨id, ?_⟩
  simp only [envelope, hid, EventKind.ofShortKey?_eq_some_iff.mpr htype]

theorem envelope_of_custom (hsubject : ¬ e.LacksSubject) (htype : ∀ kind, ¬ e.IsOf kind)
    (stamp : Stamp) : ∃ id, e.envelope stamp =
      if EventType.isAcceptedCustom (EventType.normalize e.eventType) then
        .ok (e.generalEnvelope stamp id)
      else .error (.unsupportedType e.eventType) := by
  obtain ⟨id, hid⟩ := exists_resolved hsubject
  have hnone : EventKind.ofShortKey? (EventType.normalize e.eventType) = none := by
    apply Option.eq_none_iff_forall_not_mem.mpr
    intro kind hkind
    exact htype kind (EventKind.ofShortKey?_eq_some_iff.mp hkind)
  refine ⟨id, ?_⟩
  simp only [envelope, hid, hnone]

/-- Whatever fits an event is what building it comes to, so the verdicts exclude each other. -/
theorem Verdict.envelope_eq {verdict : Except BuildError String} (h : e.Verdict verdict)
    (stamp : Stamp) : (e.envelope stamp).map Envelope.resolvedType = verdict := by
  cases h with
  | missingSubject h =>
    simp only [envelope, e.resolvedSubjectId?_eq_none_iff.mpr h]
    rfl
  | missingServiceOrEnvironment hsubject htype hkind h =>
    obtain ⟨id, heq⟩ := envelope_of_kind hsubject htype stamp
    simp only [heq, strictEnvelope, hkind, if_true, if_pos h]
    rfl
  | missingEnvironment hsubject htype hkind h =>
    obtain ⟨id, heq⟩ := envelope_of_kind hsubject htype stamp
    simp only [heq, strictEnvelope, EventKind.isService, hkind, h]
    rfl
  | unsupported hsubject htype hroot =>
    obtain ⟨id, heq⟩ := envelope_of_custom hsubject htype stamp
    have hrefused : ¬ EventType.isAcceptedCustom (EventType.normalize e.eventType) = true := by
      rw [EventType.isAcceptedCustom_normalize_iff]
      rintro ⟨root, hmem, hstart⟩
      rw [hroot root hmem] at hstart
      cases hstart
    rw [heq, if_neg hrefused]
    rfl
  | @strict kind hsubject htype hservice henvironment =>
    obtain ⟨id, heq⟩ := envelope_of_kind hsubject htype stamp
    by_cases hkind : kind.isService = true
    · have hfilled : ¬ (trimmed e.service = "" ∨ trimmed e.environment = "") :=
        not_or.mpr ⟨hservice hkind, henvironment⟩
      simp only [heq, strictEnvelope, hkind, if_true, if_neg hfilled]
      rfl
    · simp only [heq, strictEnvelope, hkind, if_neg henvironment]
      rfl
  | general hsubject htype hroot hstart =>
    obtain ⟨id, heq⟩ := envelope_of_custom hsubject htype stamp
    have haccepted : EventType.isAcceptedCustom (EventType.normalize e.eventType) = true :=
      (EventType.isAcceptedCustom_normalize_iff _).mpr ⟨_, hroot, hstart⟩
    rw [heq, if_pos haccepted]
    simp only [Except.map, generalEnvelope]

/-- An event comes to a verdict exactly if that verdict fits it. There is no other outcome: every
envelope that is built is written, and its body shows the type that was resolved. -/
theorem envelope_verdict_iff (e : CanonicalEvent) (stamp : Stamp) :
    (∀ verdict, (e.envelope stamp).map Envelope.resolvedType = verdict ↔ e.Verdict verdict) ∧
      ∀ env, e.envelope stamp = .ok env → ∃ body, parse? env.body = some body ∧
        body.textAt ["context", "type"] = env.resolvedType := by
  constructor
  · intro verdict
    constructor
    · rintro rfl
      exact e.envelope_verdict stamp
    · intro h
      exact h.envelope_eq stamp
  · intro env _
    refine ⟨_, Envelope.parse?_body env, ?_⟩
    cases hchain : env.chainId <;> rfl

def shouted : CanonicalEvent :=
  { eventType := " DEV.CDEVENTS.ENVIRONMENT.CREATED.0.3.0\t"
    environment := " qa "
    service := "\n" }

theorem shouted_verdict :
    ((shouted.envelope ⟨.epoch, "u"⟩).map Envelope.resolvedType =
        .ok "dev.cdevents.environment.created.0.3.0") ∧
      ∃ env body, shouted.envelope ⟨.epoch, "u"⟩ = .ok env ∧ parse? env.body = some body ∧
        body.textAt ["context", "type"] = env.resolvedType := by
  obtain ⟨hverdict, hwritten⟩ := envelope_verdict_iff shouted ⟨.epoch, "u"⟩
  have hfits : shouted.Verdict (.ok "dev.cdevents.environment.created.0.3.0") :=
    @Verdict.strict shouted .environmentCreated (by decide) (by decide) (by decide) (by decide)
  have hbuilt : ∃ env, shouted.envelope ⟨.epoch, "u"⟩ = .ok env := ⟨_, rfl⟩
  obtain ⟨env, henv⟩ := hbuilt
  obtain ⟨body, hbody⟩ := hwritten env henv
  exact ⟨(hverdict _).mpr hfits, env, body, henv, hbody⟩

end CanonicalEvent

end EventRelay
