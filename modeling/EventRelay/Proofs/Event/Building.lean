import EventRelay.Event.Envelope
import EventRelay.Proofs.Text.Lower
import EventRelay.Proofs.Text.Trim

/-!
# Events that can be built

A type is settled when normalization keeps it and it is a kind of service
event or an accepted custom type. Trimmed text in lower case under an
accepted root is settled, whatever follows the root. An event of a settled
type that names a service and an environment has an envelope at every time.
-/

set_option autoImplicit false

namespace EventRelay

open EventRelay.Text

namespace EventType

/-- The type that an envelope shows: a short key in its long form, any other type as it is. -/
def shown (type : String) : String :=
  match EventKind.ofShortKey? type with
  | some kind => kind.longType
  | none => type

def Settled (type : String) : Prop :=
  normalize type = type ∧
    (EventKind.ofShortKey? type).elim (isAcceptedCustom type) EventKind.isService = true

instance (type : String) : Decidable (Settled type) := inferInstanceAs (Decidable (_ ∧ _))

theorem not_startsWith_alias :
    ∀ root ∈ customRoots, ∀ pair ∈ aliases, startsWith root pair.1 = false := by
  decide

theorem not_startsWith_shortKey :
    ∀ root ∈ customRoots, ∀ kind ∈ EventKind.all, startsWith root kind.shortKey = false := by
  decide

theorem ofShortKey?_of_root {type root : String} (hroot : root ∈ customRoots)
    (hstart : startsWith root type = true) : EventKind.ofShortKey? type = none := by
  refine List.find?_eq_none.mpr fun kind hkind heq => ?_
  rw [← eq_of_beq heq, not_startsWith_shortKey root hroot kind hkind] at hstart
  cases hstart

theorem settled_of_low {type root : String} (hroot : root ∈ customRoots)
    (hstart : startsWith root type = true) (htrim : trimmed type = type)
    (hlow : ∀ c ∈ type.toList, IsLow c) : Settled type := by
  have hlower : lower (trimmed type) = type := by rw [htrim, lower_of_low hlow]
  have halias : aliases.lookup type = none := by
    refine List.lookup_eq_none_iff.mpr fun pair hpair => bne_iff_ne.mpr ?_
    rintro rfl
    rw [not_startsWith_alias root hroot pair hpair] at hstart
    cases hstart
  have hkey := ofShortKey?_of_root hroot hstart
  constructor
  · rw [normalize, hlower, halias]
  · rw [hkey, Option.elim_none, isAcceptedCustom, hlower]
    exact List.any_eq_true.mpr ⟨root, hroot, hstart⟩

end EventType

namespace CanonicalEvent

theorem orFallback_ne_empty {fallback : String} (h : fallback ≠ "") (s : String) :
    orFallback fallback s ≠ "" := by
  unfold orFallback
  simp only
  split
  · exact h
  · assumption

theorem inferSubjectId_ne_empty {service : String} (h : trimmed service ≠ "")
    (subjectType environment : String) : inferSubjectId subjectType service environment ≠ "" := by
  unfold inferSubjectId
  simp only [if_pos h]
  split
  · exact h
  · exact fun e => by simp [String.append_eq_empty_iff] at e

theorem exists_resolvedSubjectId {e : CanonicalEvent} (h : trimmed e.service ≠ "") :
    ∃ id, e.resolvedSubjectId? = some id := by
  have hid := orFallback_ne_empty
    (inferSubjectId_ne_empty h e.resolvedSubjectType e.environment) e.subjectId
  simp only [resolvedSubjectId?, if_neg hid]
  split
  · exact ⟨_, rfl⟩
  · exact ⟨_, rfl⟩

/-- The envelope of a settled event exists at every time and shows its type. -/
theorem envelope_of_settled {e : CanonicalEvent} (htype : EventType.Settled e.eventType)
    (hservice : trimmed e.service ≠ "") (henvironment : trimmed e.environment ≠ "")
    (stamp : Stamp) :
    ∃ env, e.envelope stamp = .ok env ∧ env.resolvedType = EventType.shown e.eventType := by
  obtain ⟨hnormal, haccepted⟩ := htype
  obtain ⟨id, hid⟩ := exists_resolvedSubjectId hservice
  cases hkind : EventKind.ofShortKey? e.eventType with
  | some kind =>
    rw [hkind, Option.elim_some] at haccepted
    have hneither : ¬ (trimmed e.service = "" ∨ trimmed e.environment = "") :=
      not_or.mpr ⟨hservice, henvironment⟩
    simp only [envelope, hid, hnormal, hkind, strictEnvelope, haccepted, if_true,
      if_neg hneither, EventType.shown]
    exact ⟨_, rfl, rfl⟩
  | none =>
    rw [hkind, Option.elim_none] at haccepted
    simp only [envelope, hid, hnormal, hkind, haccepted, if_true, EventType.shown]
    refine ⟨e.generalEnvelope stamp id, rfl, ?_⟩
    rw [generalEnvelope, hnormal]

end CanonicalEvent

end EventRelay
