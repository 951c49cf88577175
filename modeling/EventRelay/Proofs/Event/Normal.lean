import EventRelay.Proofs.Event.Spelling

/-!
# The normal form of a type

A type is in normal form when it is not empty, has no blank at either end, is
in lower case and is not the long type of a kind. Looking a type up leads to
this form and keeps exactly the types that are in it, so a second time it does
nothing. It never changes whether a type is accepted as a custom one.
-/

set_option autoImplicit false

namespace EventRelay.EventType

open EventRelay.Text

structure Normal (type : String) : Prop where
  nonempty : type ≠ ""
  trimmed : trimmed type = type
  low : lower type = type
  notLong : ∀ kind : EventKind, type ≠ kind.longType

variable {raw type : String}

theorem lookup_eq_none_iff :
    aliases.lookup type = none ↔ type ≠ "" ∧ ∀ kind : EventKind, type ≠ kind.longType := by
  constructor
  · intro h
    constructor
    · rintro rfl
      cases h
    · rintro kind rfl
      rw [lookup_longType] at h
      cases h
  · rintro ⟨hempty, hlong⟩
    refine List.lookup_eq_none_iff.mpr fun pair hpair => bne_iff_ne.mpr ?_
    rcases List.mem_cons.mp hpair with rfl | hpair
    · exact hempty
    · obtain ⟨kind, -, rfl⟩ := List.mem_map.mp hpair
      exact hlong kind

theorem lookup_normalize (raw : String) : aliases.lookup (normalize raw) = none := by
  cases hlookup : aliases.lookup (lower (trimmed raw)) with
  | none => simp only [normalize, hlookup]
  | some kind => simp only [normalize, hlookup, lookup_shortKey]

theorem lower_trimmed_eq_iff :
    lower (trimmed type) = type ↔ trimmed type = type ∧ lower type = type := by
  constructor
  · intro h
    have htrimmed : trimmed type = type := by
      calc trimmed type = trimmed (lower (trimmed type)) := by rw [h]
        _ = lower (trimmed type) := trimmed_lower_trimmed type
        _ = type := h
    rw [htrimmed] at h
    exact ⟨htrimmed, h⟩
  · rintro ⟨htrimmed, hlow⟩
    rw [htrimmed, hlow]

theorem normal_normalize (raw : String) : Normal (normalize raw) := by
  obtain ⟨htrimmed, hlow⟩ := lower_trimmed_eq_iff.mp (lower_trimmed_normalize raw)
  obtain ⟨hempty, hlong⟩ := lookup_eq_none_iff.mp (lookup_normalize raw)
  exact ⟨hempty, htrimmed, hlow, hlong⟩

theorem Normal.normalize_eq (h : Normal type) : normalize type = type := by
  have hlower := lower_trimmed_eq_iff.mpr ⟨h.trimmed, h.low⟩
  have hlookup := lookup_eq_none_iff.mpr ⟨h.nonempty, h.notLong⟩
  simp only [normalize, hlower, hlookup]

theorem normalize_eq_self_iff : normalize type = type ↔ Normal type := by
  constructor
  · intro h
    rw [← h]
    exact normal_normalize type
  · exact Normal.normalize_eq

theorem isAcceptedCustom_of_spells {kind : EventKind} (h : Spells raw kind) :
    isAcceptedCustom raw = false := by
  refine List.any_eq_false.mpr fun root hroot => Bool.eq_false_iff.mp ?_
  have hkind : kind ∈ EventKind.all := by cases kind <;> decide
  rcases h with hshort | hlong | ⟨hblank, rfl⟩
  · rw [hshort]
    exact not_startsWith_shortKey root hroot kind hkind
  · rw [hlong]
    exact not_startsWith_alias root hroot _ (List.mem_cons_of_mem _ (List.mem_map_of_mem hkind))
  · rw [hblank]
    exact not_startsWith_alias root hroot _ List.mem_cons_self

theorem isAcceptedCustom_normalize (raw : String) :
    isAcceptedCustom (normalize raw) = isAcceptedCustom raw := by
  by_cases hspelled : ∃ kind, Spells raw kind
  · obtain ⟨kind, hraw⟩ := hspelled
    have hshort : Spells (normalize raw) kind :=
      Or.inl (by rw [normalize_eq_shortKey_iff.mpr hraw, lower_trimmed_shortKey])
    rw [isAcceptedCustom_of_spells hraw, isAcceptedCustom_of_spells hshort]
  · have hvalue := normalize_of_unspelled (not_exists.mp hspelled)
    rw [isAcceptedCustom, lower_trimmed_normalize, hvalue]
    rfl

/-- Looking a type up gives its normal form. It keeps exactly the types that have that form, and
every type is accepted as a custom one exactly if its normal form is. -/
theorem normalize_gives_normal (raw : String) :
    Normal (normalize raw) ∧ normalize (normalize raw) = normalize raw ∧
      (normalize raw = raw ↔ Normal raw) ∧
      isAcceptedCustom (normalize raw) = isAcceptedCustom raw := by
  have hnormal := normal_normalize raw
  exact ⟨hnormal, hnormal.normalize_eq, normalize_eq_self_iff, isAcceptedCustom_normalize raw⟩

example : normalize " \u0130ΟΣ\u00a0" = "i\u0307ος" := by decide +kernel

end EventRelay.EventType
