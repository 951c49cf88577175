import EventRelay.Proofs.Store.Rows
import Mathlib.Data.List.Nodup

/-!
# Sweeping agrees with promotion

A sweep is to remove what promotion at the same instant would find expired,
and nothing else. Both go by the deadlines that a store keeps, but a store
sweeps at an instant cut to its grain. So they agree exactly when no deadline
lies between that cut and the instant. In memory none can lie there. Tables
sweep at whole seconds: an intent that is due at the very second in which they
are swept stays, although promotion finds it expired.
-/

set_option autoImplicit false

namespace EventRelay

open EventRelay.Store

namespace Store

variable {σ : Type} [Store σ]

def Lapsed (now : Timestamp) (id : InstallationId) (s : σ) (state : SetupState) : Prop :=
  (promoteIntent state id now s).1 = .ok .expired

def swept (now : Timestamp) (s : σ) : σ := (sweepExpired now s).2

/-- A sweep does to the intents what promotions at the same instant, for some installation, would
tell of them, and nothing else. -/
structure SweepAgrees (now : Timestamp) (id : InstallationId) (s : σ) : Prop where
  removed : ∀ state, Lapsed now id s state → getIntent state (swept now s) = .error .notFound
  kept : ∀ state, ¬ Lapsed now id s state → getIntent state (swept now s) = getIntent state s
  counted : ∃ states : List SetupState, states.Nodup ∧
    (∀ state, state ∈ states ↔ Lapsed now id s state) ∧
    (sweepExpired now s).1 = .ok states.length
  mapping : ∀ j, getMapping j (swept now s) = getMapping j s
  listed : ∀ organization,
    listMappings organization (swept now s) = listMappings organization s
  none_left : ∀ state, ¬ Lapsed now id (swept now s) state
  again : sweepExpired now (swept now s) = (.ok 0, swept now s)

end Store

/-! ## In memory -/

namespace MemoryStore

theorem promoteIntent_expired_iff (m : MemoryStore) (state : SetupState) (id : InstallationId)
    (now : Timestamp) :
    (m.promoteIntent state id now).1 = .ok .expired ↔
      ∃ i, m.intent? state = some i ∧ i.isExpired now = true := by
  cases hi : m.intent? state with
  | none => simp [promoteIntent_absent hi]
  | some i =>
    rw [promoteIntent_present hi]
    cases he : i.isExpired now <;> simp [he]

theorem Sound.intent?_eq_some_iff {m : MemoryStore} (h : m.Sound) {state : SetupState}
    {i : SetupIntent} : m.intent? state = some i ↔ i ∈ m.intents ∧ i.state = state := by
  constructor
  · exact mem_of_intent?
  · rintro ⟨hi, rfl⟩
    cases hj : m.intent? i.state with
    | none => exact absurd rfl (intent?_eq_none_iff.mp hj i hi)
    | some j =>
      obtain ⟨hjm, hjs⟩ := mem_of_intent? hj
      have hnodup : (m.intents.map SetupIntent.state).Nodup := List.pairwise_map.mpr h.distinct
      rw [List.inj_on_of_nodup_map hnodup hjm hi hjs]

theorem Sound.intent?_swept {m : MemoryStore} (h : m.Sound) (now : Timestamp)
    (state : SetupState) :
    (swept now m).intent? state = (m.intent? state).filter fun i => !i.isExpired now := by
  have hop : (Op.sweepExpired now).Proper := trivial
  have hswept : (swept now m).Sound := h.step hop
  refine Option.ext fun i => ?_
  rw [hswept.intent?_eq_some_iff, Option.filter_eq_some_iff, h.intent?_eq_some_iff]
  show i ∈ m.intents.filter (fun i => !i.isExpired now) ∧ i.state = state ↔ _
  rw [List.mem_filter, and_right_comm]

theorem sweepExpired_again (now : Timestamp) (m : MemoryStore) :
    (swept now m).sweepExpired now = (.ok 0, swept now m) := by
  have hcount : (m.intents.filter fun i => !i.isExpired now).countP
      (fun i => i.isExpired now) = 0 := by
    simp [List.countP_eq_zero]
  have hfilter : (m.intents.filter fun i => !i.isExpired now).filter
      (fun i => !i.isExpired now) = m.intents.filter fun i => !i.isExpired now := by
    simp
  simp only [sweepExpired, swept, Store.sweepExpired, hcount, hfilter]

end MemoryStore

/-! ## In every store that mirrors memory -/

namespace Store

open Mirror

section Mirrored

variable {σ : Type} [Store σ] [Mirror σ] {s : σ} {m : MemoryStore} {now : Timestamp}
  {id : InstallationId}

theorem swept_shows (hs : Shows s m) (now : Timestamp) :
    Shows (swept now s) (swept (grain σ now) m) := (sweepExpired_eq hs now).2

theorem lapsed_iff (hs : Shows s m) (hid : id.Proper) (state : SetupState) :
    Lapsed now id s state ↔ ∃ i, m.intent? state = some i ∧ i.isExpired now = true := by
  rw [Lapsed, (promoteIntent_eq hs state hid now).1, MemoryStore.promoteIntent_expired_iff]

/-- The intents that promotion would find expired are those that the cut instant finds expired. -/
def DecidesAlike (σ : Type) [Store σ] [Mirror σ] (now : Timestamp) (m : MemoryStore) : Prop :=
  ∀ i ∈ m.intents, i.isExpired now = i.isExpired (grain σ now)

section

variable (hs : Shows s m) (hid : id.Proper)

include hs hid

theorem getIntent_swept (halike : DecidesAlike σ now m) (state : SetupState) :
    (Lapsed now id s state → getIntent state (swept now s) = .error .notFound) ∧
      (¬ Lapsed now id s state → getIntent state (swept now s) = getIntent state s) := by
  rw [lapsed_iff hs hid, getIntent_eq (swept_shows hs now), getIntent_eq hs,
    (sound hs).intent?_swept]
  cases hi : m.intent? state with
  | none => simp
  | some i =>
    have he := halike i (MemoryStore.mem_of_intent? hi).1
    rw [Option.filter_some, ← he]
    cases hexpired : i.isExpired now <;> simp [hexpired, MemoryStore.orNotFound]

theorem counted_swept (halike : DecidesAlike σ now m) :
    ∃ states : List SetupState, states.Nodup ∧
      (∀ state, state ∈ states ↔ Lapsed now id s state) ∧
      (sweepExpired now s).1 = .ok states.length := by
  refine ⟨(m.intents.filter fun i => i.isExpired now).map SetupIntent.state, ?_, ?_, ?_⟩
  · exact List.pairwise_map.mpr ((sound hs).distinct.filter _)
  · intro state
    rw [lapsed_iff hs hid, List.mem_map]
    refine exists_congr fun i => ?_
    rw [List.mem_filter, (sound hs).intent?_eq_some_iff, and_right_comm]
  · rw [(sweepExpired_eq hs now).1, List.length_map, ← List.countP_eq_length_filter]
    exact congrArg Except.ok (List.countP_congr fun i hi => by rw [halike i hi])

theorem none_left_swept (halike : DecidesAlike σ now m) (state : SetupState) :
    ¬ Lapsed now id (swept now s) state := by
  rw [lapsed_iff (swept_shows hs now) hid, (sound hs).intent?_swept]
  rintro ⟨i, hi, he⟩
  obtain ⟨hold, hkept⟩ := Option.filter_eq_some_iff.mp hi
  rw [halike i (MemoryStore.mem_of_intent? hold).1] at he
  rw [he] at hkept
  cases hkept

theorem sweepAgrees_iff_decidesAlike : SweepAgrees now id s ↔ DecidesAlike σ now m := by
  have hs' := swept_shows hs now
  constructor
  · intro h i hi
    cases hcut : i.isExpired (grain σ now) with
    | true =>
      exact decide_eq_true ((of_decide_eq_true hcut).trans_le (grain_le now))
    | false =>
      by_contra hlate
      have hthere := (sound hs).intent?_eq_some_iff.mpr ⟨hi, rfl⟩
      have hgone := h.removed i.state
        ((lapsed_iff hs hid _).mpr ⟨i, hthere, Bool.not_eq_false _ ▸ hlate⟩)
      rw [getIntent_eq hs', (sound hs).intent?_swept, hthere, Option.filter_some, hcut] at hgone
      cases hgone
  · intro halike
    exact
      { removed := fun state => (getIntent_swept hs hid halike state).1
        kept := fun state => (getIntent_swept hs hid halike state).2
        counted := counted_swept hs hid halike
        mapping := fun j => by
          rw [getMapping_eq hs', getMapping_eq hs]
          rfl
        listed := fun organization => by
          rw [listMappings_eq hs', listMappings_eq hs]
          rfl
        none_left := none_left_swept hs hid halike
        again := by
          obtain ⟨hanswer, hshows⟩ := sweepExpired_eq hs' now
          rw [MemoryStore.sweepExpired_again] at hanswer hshows
          exact Prod.ext hanswer (unique hshows hs') }

end

end Mirrored

/-! ## In the two stores -/

/-- Among deadlines that are whole seconds, only that of the second itself can have passed at an
instant and not at its second. -/
theorem expired_within_second_iff {i : SetupIntent} (hi : i.expiresAt.wholeSecond = i.expiresAt)
    (now : Timestamp) :
    i.isExpired now = i.isExpired now.wholeSecond ↔
      ¬ (i.expiresAt = now.wholeSecond ∧ now.wholeSecond < now) := by
  have hlater : i.expiresAt < now.wholeSecond → i.expiresAt < now := fun h =>
    h.trans_le now.wholeSecond_le
  have hsecond : i.expiresAt < now → i.expiresAt ≤ now.wholeSecond := fun h => by
    rw [← hi]
    exact Timestamp.wholeSecond_mono h.le
  simp only [SetupIntent.isExpired, decide_eq_decide]
  constructor
  · rintro h ⟨heq, hlt⟩
    exact lt_irrefl _ (heq ▸ h.mp (heq ▸ hlt))
  · intro h
    refine ⟨fun hlt => (hsecond hlt).lt_of_ne fun heq => h ⟨heq, heq ▸ hlt⟩, hlater⟩

/-- In memory a sweep agrees with promotion. Tables sweep at an instant as at its whole second; so
they agree exactly when no intent that is kept is due at that second, unless it is the instant. -/
theorem sweep_agrees_with_promotion {ops : List Op} (hops : Proper ops) {id : InstallationId}
    (hid : id.Proper) (now : Timestamp) :
    SweepAgrees now id (after ops ({} : MemoryStore)) ∧
      sweepExpired now (after ops ({} : RowStore)) =
        sweepExpired now.wholeSecond (after ops ({} : RowStore)) ∧
      SweepAgrees now.wholeSecond id (after ops ({} : RowStore)) ∧
      (SweepAgrees now id (after ops ({} : RowStore)) ↔
        ∀ state i, getIntent state (after ops ({} : RowStore)) = .ok i →
          ¬ (i.expiresAt = now.wholeSecond ∧ now.wholeSecond < now)) := by
  have hmemory := after_shows memory_shows hops
  have hrows := after_shows RowStore.empty_shows hops
  refine ⟨?_, rfl, ?_, ?_⟩
  · exact (sweepAgrees_iff_decidesAlike hmemory hid).mpr fun _ _ => rfl
  · exact (sweepAgrees_iff_decidesAlike hrows hid).mpr fun _ _ => rfl
  · rw [sweepAgrees_iff_decidesAlike hrows hid]
    obtain ⟨hsound, hwhole⟩ := hrows.2
    constructor
    · intro halike state i hi
      have hmem := (MemoryStore.mem_of_intent? ((getIntent_ok_iff hrows).mp hi)).1
      exact (expired_within_second_iff (hwhole i hmem) now).mp (halike i hmem)
    · intro h i hmem
      refine (expired_within_second_iff (hwhole i hmem) now).mpr (h i.state i ?_)
      exact (getIntent_ok_iff hrows).mpr (hsound.intent?_eq_some_iff.mpr ⟨hmem, rfl⟩)

def dueAtFour : List Op := [.createIntent ⟨⟨"s"⟩, {}, ⟨4, 0, by decide⟩⟩]

theorem sweep_after_five :
    Proper dueAtFour ∧ InstallationId.Proper ⟨7⟩ ∧
      SweepAgrees ⟨5, 500000000, by decide⟩ ⟨7⟩ (after dueAtFour ({} : RowStore)) ∧
      (sweepExpired ⟨5, 500000000, by decide⟩ (after dueAtFour ({} : RowStore))).1 = .ok 1 := by
  have hops : Proper dueAtFour := by decide
  have hid : InstallationId.Proper ⟨7⟩ := by
    show (0 : Int) < 7
    decide
  refine ⟨hops, hid, ?_, by decide⟩
  obtain ⟨-, -, -, h⟩ := sweep_agrees_with_promotion hops hid ⟨5, 500000000, by decide⟩
  refine h.mpr fun state i hi => ?_
  have hmem := (MemoryStore.mem_of_intent?
    ((getIntent_ok_iff (after_shows RowStore.empty_shows hops)).mp hi)).1
  obtain rfl := List.mem_singleton.mp hmem
  decide

/-- Half a second after second four, promotion finds it expired, and a sweep leaves it there. -/
theorem sweep_within_second_misses :
    (promoteIntent ⟨"s"⟩ ⟨7⟩ ⟨4, 500000000, by decide⟩ (after dueAtFour ({} : RowStore))).1 =
        .ok .expired ∧
      sweepExpired ⟨4, 500000000, by decide⟩ (after dueAtFour ({} : RowStore)) =
        (.ok 0, after dueAtFour {}) ∧
      ¬ SweepAgrees ⟨4, 500000000, by decide⟩ ⟨7⟩ (after dueAtFour ({} : RowStore)) := by
  refine ⟨by decide, by decide, fun h => ?_⟩
  have hgone := h.removed ⟨"s"⟩ (by unfold Lapsed; decide)
  exact absurd hgone (by decide)

end Store

end EventRelay
