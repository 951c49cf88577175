import EventRelay.Proofs.Event.Subject
import EventRelay.Proofs.Time.Order

/-!
# The clock of custom events

A custom event is numbered by the nanosecond that it is built in. The numbers
that 64 bits hold begin in 1677 and end in 2262, and from then on they stay at
the last one. They follow the order of instants except after a leap second:
it has no Unix second of its own, so its fractions are counted once more in
the second after it.
-/

set_option autoImplicit false

namespace EventRelay

open EventRelay.Json EventRelay.Text

namespace Timestamp

open Time

variable {t u : Timestamp}

def count (t : Timestamp) : Int := t.seconds * 1000000000 + t.nanos

def firstCounted : Timestamp := ⟨-9223372037, 145224192, by decide⟩

def lastCounted : Timestamp := ⟨9223372036, 854775807, by decide⟩

/-- A fraction of a leap second that is larger than the fraction of the next second at `u`. -/
def Overlaps (t u : Timestamp) : Prop :=
  u.seconds = t.seconds + 1 ∧ u.nanos + nanosPerSecond < t.nanos

instance (t u : Timestamp) : Decidable (t.Overlaps u) :=
  inferInstanceAs (Decidable (_ ∧ _))

theorem count_le_iff (h : t ≤ u) : t.count ≤ u.count ↔ ¬ t.Overlaps u := by
  have ht := t.representable.2.2
  rw [le_iff] at h
  simp only [nanosPerSecond] at ht
  simp only [count, Overlaps, nanosPerSecond]
  omega

theorem counted_iff (t : Timestamp) :
    firstCounted ≤ t ∧ t ≤ lastCounted ↔
      -9223372036854775808 ≤ t.count ∧ t.count ≤ 9223372036854775807 := by
  have ht := t.representable.2.2
  simp only [nanosPerSecond] at ht
  simp only [le_iff, firstCounted, lastCounted, count]
  omega

theorem unixNanos_counted (hfirst : firstCounted ≤ t) (hlast : t ≤ lastCounted) :
    t.unixNanos = t.count := if_pos ((counted_iff t).mp ⟨hfirst, hlast⟩)

theorem unixNanos_beyond (h : lastCounted ≤ t) : t.unixNanos = maxInt64 := by
  rcases eq_or_lt_of_le h with rfl | hbeyond
  · rfl
  · apply if_neg
    intro hfits
    exact absurd ((counted_iff t).mpr hfits).2 (not_le_of_gt hbeyond)

theorem unixNanos_le_max (t : Timestamp) : t.unixNanos ≤ maxInt64 := by
  simp only [unixNanos, maxInt64]
  split <;> omega

theorem count_lt_last (h : t < lastCounted) : t.count < lastCounted.count := by
  have ht := t.representable.2.2
  simp only [nanosPerSecond] at ht
  simp only [lt_iff, lastCounted, count] at h ⊢
  omega

theorem unixNanos_eq_max_iff (hfirst : firstCounted ≤ t) :
    t.unixNanos = maxInt64 ↔ lastCounted ≤ t := by
  constructor
  · intro h
    by_contra hlast
    have hbefore := lt_of_not_ge hlast
    rw [unixNanos_counted hfirst (le_of_lt hbefore)] at h
    exact absurd h (Int.ne_of_lt (count_lt_last hbefore))
  · exact unixNanos_beyond

theorem unixNanos_le_iff (hfirst : firstCounted ≤ t) (h : t ≤ u) :
    t.unixNanos ≤ u.unixNanos ↔ ¬ (t ≤ lastCounted ∧ t.Overlaps u) := by
  rcases le_total u lastCounted with hlast | hbeyond
  · rw [unixNanos_counted hfirst (h.trans hlast), unixNanos_counted (hfirst.trans h) hlast,
      count_le_iff h, and_iff_right (h.trans hlast)]
  · rw [unixNanos_beyond hbeyond]
    refine iff_of_true (unixNanos_le_max t) ?_
    rintro ⟨hlast, hnext, hlater⟩
    -- The last count is no leap second, and neither is the second before it.
    have ht := t.representable.2.2
    simp only [le_iff, lastCounted, nanosPerSecond] at *
    omega

end Timestamp

def Envelope.Numbered (env : Envelope) (n : Int) : Prop :=
  ∃ message, parse? env.body = some message ∧
    message.at? ["context", "id"] = some (.text (integerText n))

namespace CanonicalEvent

open Timestamp

variable {e : CanonicalEvent} {env : Envelope}

theorem custom_numbered (hcustom : ∀ kind, ¬ e.IsOf kind) {t : Timestamp} {uuid : String}
    (h : e.envelope ⟨t, uuid⟩ = .ok env) : env.Numbered t.unixNanos := by
  obtain ⟨id, -, ⟨kind, hkind, -⟩ | ⟨-, -, rfl⟩⟩ := envelope_ok h
  · exact absurd (EventKind.ofShortKey?_eq_some_iff.mp hkind) (hcustom kind)
  · refine ⟨_, Envelope.parse?_body _, ?_⟩
    cases (e.generalEnvelope ⟨t, uuid⟩ id).chainId <;> rfl

/-- From 1677 on the clock counts exactly until it reaches the last number in 2262, and stays there.
It goes back only from a fraction of a leap second to an instant in the next second, and so do the
ids of custom events. -/
theorem clock_keeps_order {t u : Timestamp} (hfirst : firstCounted ≤ t) (h : t ≤ u) :
    (t ≤ lastCounted → t.unixNanos = t.count) ∧
    (t.unixNanos = maxInt64 ↔ lastCounted ≤ t) ∧
    (t.unixNanos ≤ u.unixNanos ↔ ¬ (t ≤ lastCounted ∧ t.Overlaps u)) ∧
    ∀ (e e' : CanonicalEvent) (uuid uuid' : String) (env env' : Envelope),
      (∀ kind, ¬ e.IsOf kind) → (∀ kind, ¬ e'.IsOf kind) →
      e.envelope ⟨t, uuid⟩ = .ok env → e'.envelope ⟨u, uuid'⟩ = .ok env' →
      env.Numbered t.unixNanos ∧ env'.Numbered u.unixNanos := by
  refine ⟨unixNanos_counted hfirst, unixNanos_eq_max_iff hfirst, unixNanos_le_iff hfirst h, ?_⟩
  intro e e' uuid uuid' env env' hcustom hcustom' henv henv'
  exact ⟨custom_numbered hcustom henv, custom_numbered hcustom' henv'⟩

def queued : CanonicalEvent :=
  { eventType := "dev.cdevents.pipeline.run.queued.0.3.0"
    service := "billing" }

def leapHalf : Timestamp := ⟨1483228799, 1500000000, by decide⟩

def newYearLate : Timestamp := ⟨1483228800, 750000000, by decide⟩

theorem queued_twice_numbered :
    leapHalf.unixNanos ≤ newYearLate.unixNanos ∧
      ∃ env env', queued.envelope ⟨leapHalf, "u"⟩ = .ok env ∧
        queued.envelope ⟨newYearLate, "v"⟩ = .ok env' ∧
        env.Numbered 1483228800500000000 ∧ env'.Numbered 1483228800750000000 := by
  have hfirst : firstCounted ≤ leapHalf := by decide
  have hlater : leapHalf ≤ newYearLate := by decide
  have hcustom : ∀ kind, ¬ queued.IsOf kind := by
    intro kind
    cases kind <;> decide
  have hid : queued.resolvedSubjectId? = some "pipeline/billing" := by decide
  have hkind : EventKind.ofShortKey? (EventType.normalize queued.eventType) = none := by decide
  have haccepted : EventType.isAcceptedCustom (EventType.normalize queued.eventType) = true := by
    decide
  have hbuilt (stamp : Stamp) :
      queued.envelope stamp = .ok (queued.generalEnvelope stamp "pipeline/billing") := by
    simp only [envelope, hid, hkind, haccepted, if_true]
  obtain ⟨-, -, hordered, hids⟩ := clock_keeps_order hfirst hlater
  obtain ⟨hleap, hlate⟩ := hids _ _ _ _ _ _ hcustom hcustom
    (hbuilt ⟨leapHalf, "u"⟩) (hbuilt ⟨newYearLate, "v"⟩)
  exact ⟨hordered.mpr (by decide), _, _, hbuilt _, hbuilt _, hleap, hlate⟩

def newYear : Timestamp := ⟨1483228800, 0, by decide⟩

def year1600 : Timestamp := ⟨-11676096000, 0, by decide⟩

theorem clock_turns_back :
    (leapHalf ≤ newYear ∧ ¬ leapHalf.unixNanos ≤ newYear.unixNanos) ∧
      year1600 ≤ .epoch ∧ ¬ year1600.unixNanos ≤ Timestamp.epoch.unixNanos := by decide

end CanonicalEvent

end EventRelay
