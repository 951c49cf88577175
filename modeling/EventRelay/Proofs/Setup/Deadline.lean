import EventRelay.Proofs.Setup.Handshake
import EventRelay.Proofs.Store.Rows

/-!
# The deadline of a setup

A setup that is started and left alone can be completed up to its deadline,
cut to the grain of the store, and not after. In memory that is the deadline
that was reported. Tables keep whole seconds, so there a setup whose reported
deadline has a fraction of a second ends before it: the promise is broken
exactly at the instants between the two.
-/

set_option autoImplicit false

namespace EventRelay

open EventRelay.Store

def Store.Op.time? : Op → Option Timestamp
  | .promoteIntent _ _ now | .sweepExpired now => some now
  | _ => none

def Store.Clocked (start : Timestamp) (ops : List Op) (stop : Timestamp) : Prop :=
  (start :: ops.filterMap Op.time? ++ [stop]).Pairwise (· ≤ ·)

theorem Store.Clocked.le_stop {start stop now : Timestamp} {ops : List Op}
    (h : Clocked start ops stop) {op : Op} (hop : op ∈ ops) (ht : op.time? = some now) :
    now ≤ stop := by
  refine (List.pairwise_append.mp h).2.2 now ?_ stop (List.mem_singleton_self stop)
  exact List.mem_cons_of_mem start (List.mem_filterMap.mpr ⟨op, hop, ht⟩)

namespace Setup

/-- The outcome at an instant is the mapping up to the deadline, and no mapping after it. -/
def Honours (deadline t : Timestamp) (x : InstallationMapping)
    (outcome : Except SetupError InstallationMapping) : Prop :=
  (t ≤ deadline → outcome = .ok x) ∧ (deadline < t → ∀ y, outcome ≠ .ok y)

theorem honours_of_iff {deadline t : Timestamp} {x : InstallationMapping}
    {outcome : Except SetupError InstallationMapping}
    (h : ∀ y, outcome = .ok y ↔ t ≤ deadline ∧ y = x) : Honours deadline t x outcome := by
  constructor
  · intro ht
    exact (h x).mpr ⟨ht, rfl⟩
  · intro ht y hy
    exact absurd ((h y).mp hy).1 (not_le.mpr ht)

/-- An earlier deadline that is honoured breaks the promise of a later one between the two. -/
theorem honours_later_iff {deadline later t : Timestamp} {x : InstallationMapping}
    {outcome : Except SetupError InstallationMapping} (hle : deadline ≤ later)
    (h : Honours deadline t x outcome) :
    Honours later t x outcome ↔ ¬ (deadline < t ∧ t ≤ later) := by
  constructor
  · rintro hl ⟨hlt, ht⟩
    exact h.2 hlt x (hl.1 ht)
  · intro hn
    constructor
    · intro ht
      exact h.1 (not_lt.mp fun hlt => hn ⟨hlt, ht⟩)
    · intro ht
      exact h.2 (lt_of_le_of_lt hle ht)

/-! ## In memory -/

theorem promote_iff {m : MemoryStore} {i : SetupIntent} {id : InstallationId} {t : Timestamp}
    (honly : ∀ j ∈ m.intents, j.state = i.state → j = i)
    (hkept : t ≤ i.expiresAt → m.intent? i.state = some i) (x : InstallationMapping) :
    (step (.promoteIntent i.state id t) m).1 = .promotion (.completed x) ↔
      t ≤ i.expiresAt ∧ x = i.mapping id := by
  have hexp : ∀ j : SetupIntent, j.isExpired t = true ↔ ¬ t ≤ j.expiresAt := fun j => by
    rw [SetupIntent.isExpired, decide_eq_true_iff, not_le]
  simp only [step, Store.promoteIntent]
  constructor
  · intro h
    cases hi : m.intent? i.state with
    | none =>
      rw [MemoryStore.promoteIntent_absent hi] at h
      cases h
    | some j =>
      obtain ⟨hj, hjs⟩ := MemoryStore.mem_of_intent? hi
      obtain rfl := honly j hj hjs
      rw [MemoryStore.promoteIntent_present hi] at h
      split at h
      · cases h
      · rename_i he
        cases h
        exact ⟨not_not.mp fun hn => he ((hexp j).mpr hn), rfl⟩
  · rintro ⟨ht, rfl⟩
    rw [MemoryStore.promoteIntent_present (hkept ht), if_neg fun he => (hexp i).mp he ht]
    rfl

theorem created_only {m : MemoryStore} {i : SetupIntent}
    (h : (step (.createIntent i) m).1 = .done) :
    (step (.createIntent i) m).2.intent? i.state = some i ∧
      ∀ j ∈ (step (.createIntent i) m).2.intents, j.state = i.state → j = i := by
  have hn := (MemoryStore.createIntent_answer i m).mp h
  have hi := MemoryStore.intents_step (.createIntent i) m
  simp only [if_pos hn] at hi
  rw [MemoryStore.intent?, hi]
  constructor
  · rw [List.find?_append, show m.intents.find? _ = none from hn]
    simp
  · intro j hj hs
    rcases List.mem_append.mp hj with hj | hj
    · exact absurd hs (MemoryStore.intent?_eq_none_iff.mp hn j hj)
    · exact List.mem_singleton.mp hj

/-! ## In every store that mirrors memory -/

section Mirrored

open Mirror

theorem untouched_cutAll (σ : Type) [Store σ] [Mirror σ] {ops : List Op} {state : SetupState}
    (h : ∀ op ∈ ops, ¬ op.touches state) : ∀ op ∈ cutAll σ ops, ¬ op.touches state := by
  intro op ho
  obtain ⟨o, hol, rfl⟩ := List.mem_map.mp ho
  rw [Op.cut_touches]
  exact h o hol

theorem sweep_le_stop {σ : Type} [Store σ] [Mirror σ] {begin stop n : Timestamp} {ops : List Op}
    (hclock : Clocked begin ops stop) (hn : .sweepExpired n ∈ cutAll σ ops) : n ≤ stop := by
  obtain ⟨o, hol, ho⟩ := List.mem_map.mp hn
  cases o <;> cases ho
  exact (grain_le _).trans (hclock.le_stop hol rfl)

variable {σ : Type} [Store σ] [Mirror σ] {s s' : σ} {m : MemoryStore} {settings : SetupSettings}
  {request : TenantProfile} {octets : Vector UInt8 16} {now t : Timestamp} {started : SetupStarted}
  {later : List Op} {raw : String} {id : InstallationId} (hs : Shows s m)
  (hrequest : request.Proper)
  (hstart : start settings request (.ofOctets octets) now s = (.ok started, s'))
  (hlater : Proper later) (halone : ∀ op ∈ later, ¬ op.touches (.ofOctets octets))
  (hclock : Clocked now later t) (hraw : InstallationId.read? raw = some id)

include hs hrequest hstart hlater halone hclock hraw

/-- A setup that was started and left alone completes up to its deadline at the store's grain. -/
theorem complete_iff (y : InstallationMapping) :
    (complete (some started.state.token) (some raw) t (after later s')).1 = .ok y ↔
      t ≤ grain σ started.expiresAt ∧ y = ⟨id, settings.normalProfile request, true⟩ := by
  obtain ⟨rfl, hcreate⟩ := start_ok hstart
  have hfresh := SetupState.ofOctets_proper octets
  have hop : (Op.createIntent (settings.intent request (.ofOctets octets) now)).Proper :=
    settings.intent_proper now hrequest hfresh
  have hid : (Op.promoteIntent (.ofOctets octets) id t).Proper := InstallationId.read?_proper hraw
  rw [complete_ok_iff hfresh hraw]
  have hm := (answer_iff hs hop (by simp)).mp (congrArg Prod.fst hcreate)
  have hs' := step_shows hs hop
  rw [hcreate] at hs'
  obtain ⟨hthere, honly⟩ := created_only hm
  have halone' := untouched_cutAll σ halone
  rw [answer_iff (after_shows hs' hlater) hid (by simp)]
  refine promote_iff (MemoryStore.only_after honly halone') (fun ht => ?_) y
  refine MemoryStore.intent?_after_kept hthere halone' fun n hn => ?_
  exact decide_eq_false (not_lt.mpr ((sweep_le_stop hclock hn).trans ht))

theorem honours_grain :
    Honours (grain σ started.expiresAt) t ⟨id, settings.normalProfile request, true⟩
      (complete (some started.state.token) (some raw) t (after later s')).1 :=
  honours_of_iff (complete_iff hs hrequest hstart hlater halone hclock hraw)

end Mirrored

/-! ## In the two stores -/

/-- In memory the reported deadline is honoured. Tables honour its whole second, and the reported
deadline at every instant but those after its whole second that do not pass it. -/
theorem reported_deadline_honoured {settings : SetupSettings} {request : TenantProfile}
    {octets : Vector UInt8 16} {now t : Timestamp} {before later : List Op} {raw : String}
    {id : InstallationId} (hbefore : Proper before) (hrequest : request.Proper)
    (hlater : Proper later) (halone : ∀ op ∈ later, ¬ op.touches (.ofOctets octets))
    (hclock : Clocked now later t) (hraw : InstallationId.read? raw = some id) :
    (∀ started s, start settings request (.ofOctets octets) now (after before ({} : MemoryStore)) =
        (.ok started, s) →
      Honours started.expiresAt t ⟨id, settings.normalProfile request, true⟩
        (complete (some started.state.token) (some raw) t (after later s)).1) ∧
    ∀ started s, start settings request (.ofOctets octets) now (after before ({} : RowStore)) =
        (.ok started, s) →
      Honours started.expiresAt.wholeSecond t ⟨id, settings.normalProfile request, true⟩
          (complete (some started.state.token) (some raw) t (after later s)).1 ∧
        (Honours started.expiresAt t ⟨id, settings.normalProfile request, true⟩
            (complete (some started.state.token) (some raw) t (after later s)).1 ↔
          ¬ (started.expiresAt.wholeSecond < t ∧ t ≤ started.expiresAt)) := by
  constructor
  · intro started s hstart
    have hs := Mirror.after_shows memory_shows hbefore
    exact honours_grain hs hrequest hstart hlater halone hclock hraw
  · intro started s hstart
    have hs := Mirror.after_shows RowStore.empty_shows hbefore
    have h := honours_grain hs hrequest hstart hlater halone hclock hraw
    exact ⟨h, honours_later_iff (Timestamp.wholeSecond_le started.expiresAt) h⟩

def halfPast : Timestamp := ⟨0, 500000000, by decide⟩

def halfPastTenant : TenantProfile := { credentials := ⟨"https://dash", "token", "secret"⟩ }

def halfPastStarted : SetupStarted :=
  ⟨.ofOctets (.replicate 16 0), "/setup/callback?state=00000000000000000000000000000000",
    ⟨900, 500000000, by decide⟩⟩

def halfPastMapping : InstallationMapping := ⟨⟨7⟩, halfPastTenant, true⟩

theorem half_past_deadline_honoured :
    Clocked halfPast [.sweepExpired halfPast] halfPastStarted.expiresAt ∧
      Honours halfPastStarted.expiresAt halfPastStarted.expiresAt halfPastMapping
        (complete (some halfPastStarted.state.token) (some "7") halfPastStarted.expiresAt
          (after [.sweepExpired halfPast]
            (start {} halfPastTenant (.ofOctets (.replicate 16 0)) halfPast
              ({} : MemoryStore)).2)).1 ∧
      Honours halfPastStarted.expiresAt.wholeSecond halfPastStarted.expiresAt halfPastMapping
        (complete (some halfPastStarted.state.token) (some "7") halfPastStarted.expiresAt
          (after [.sweepExpired halfPast]
            (start {} halfPastTenant (.ofOctets (.replicate 16 0)) halfPast
              ({} : RowStore)).2)).1 ∧
      ¬ Honours halfPastStarted.expiresAt halfPastStarted.expiresAt halfPastMapping
        (complete (some halfPastStarted.state.token) (some "7") halfPastStarted.expiresAt
          (after [.sweepExpired halfPast]
            (start {} halfPastTenant (.ofOctets (.replicate 16 0)) halfPast
              ({} : RowStore)).2)).1 := by
  have hclock : Clocked halfPast [.sweepExpired halfPast] halfPastStarted.expiresAt := by
    unfold Clocked
    decide
  obtain ⟨hmemory, hrows⟩ := @reported_deadline_honoured {} halfPastTenant (.replicate 16 0)
    halfPast halfPastStarted.expiresAt [] [.sweepExpired halfPast] "7" ⟨7⟩ (by decide) (by decide)
    (by decide) (by simp [Op.touches]) hclock (by decide)
  obtain ⟨hwhole, hexact⟩ := hrows halfPastStarted
    (start {} halfPastTenant (.ofOctets (.replicate 16 0)) halfPast ({} : RowStore)).2 (by decide)
  exact ⟨hclock, hmemory halfPastStarted _ (by decide), hwhole,
    fun h => hexact.mp h (by decide)⟩

/-- Tables refuse it at the very deadline that was reported. -/
theorem half_past_deadline_broken :
    (start {} halfPastTenant (.ofOctets (.replicate 16 0)) halfPast ({} : RowStore)).1 =
        .ok halfPastStarted ∧
      (complete (some halfPastStarted.state.token) (some "7") halfPastStarted.expiresAt
        (start {} halfPastTenant (.ofOctets (.replicate 16 0)) halfPast ({} : RowStore)).2).1 =
        .error .expiredState := by
  decide

end Setup

end EventRelay
