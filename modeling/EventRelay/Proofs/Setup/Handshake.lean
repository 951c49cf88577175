import EventRelay.Proofs.Store.Mirror
import EventRelay.Setup.Handshake

/-!
# The handshake as operations of the store

Starting a setup creates one intent, and completing it promotes one; nothing
else reaches the store. What a call comes to is told by the answer of that
operation, and in a store that mirrors memory by the intents and mappings
that are shown there.
-/

set_option autoImplicit false

namespace EventRelay

open EventRelay.Store

def SetupSettings.intent (settings : SetupSettings) (request : TenantProfile) (fresh : SetupState)
    (now : Timestamp) : SetupIntent :=
  ⟨fresh, settings.normalProfile request, now.plus settings.intentTtl⟩

theorem SetupSettings.intent_proper {settings : SetupSettings} {request : TenantProfile}
    {fresh : SetupState} (now : Timestamp) (hr : request.Proper) (hf : fresh.Proper) :
    (settings.intent request fresh now).Proper := ⟨hf, hr⟩

namespace Setup

variable {σ : Type} [Store σ] {s s' : σ}

theorem start_ok {settings : SetupSettings} {request : TenantProfile} {fresh : SetupState}
    {now : Timestamp} {started : SetupStarted}
    (h : start settings request fresh now s = (.ok started, s')) :
    started = ⟨fresh, settings.redirectUrl fresh, now.plus settings.intentTtl⟩ ∧
      step (.createIntent (settings.intent request fresh now)) s = (.done, s') := by
  unfold start at h
  simp only at h
  split at h
  · split at h
    · cases h
    · rename_i hc
      obtain ⟨hs, rfl⟩ := Prod.mk.inj h
      cases hs
      refine ⟨rfl, ?_⟩
      simp only [step, SetupSettings.intent, hc]
      rfl
  · cases h

theorem complete_ok_iff {state : SetupState} {raw : String} {id : InstallationId}
    (hs : state.Proper) (hraw : InstallationId.read? raw = some id) (t : Timestamp)
    (x : InstallationMapping) (s : σ) :
    (complete (some state.token) (some raw) t s).1 = .ok x ↔
      (step (.promoteIntent state id t) s).1 = .promotion (.completed x) := by
  have hst : (some state.token).bind SetupState.ofText? = some state := hs
  have hid : (some raw).bind InstallationId.read? = some id := hraw
  simp only [complete, hst, hid, step]
  rcases promoteIntent state id t s with ⟨⟨e⟩ | ⟨p⟩, next⟩
  · cases e <;> simp [Reply.of]
  · cases p <;> simp [Reply.of]

/-! ## In stores that mirror memory -/

section Mirrored

open Mirror

variable [Mirror σ] {m : MemoryStore}

theorem start_shows (hs : Shows s m) {settings : SetupSettings} {request : TenantProfile}
    {fresh : SetupState} (hr : request.Proper) (hf : fresh.Proper) (now : Timestamp) :
    (∃ started deadline, (start settings request fresh now s).1 = .ok started ∧
      started.state = fresh ∧ m.intent? fresh = none ∧
      Shows (start settings request fresh now s).2
        { m with intents := m.intents ++ [⟨fresh, settings.normalProfile request, deadline⟩] }) ∨
    (∃ e, (start settings request fresh now s).1 = .error e) ∧
      Shows (start settings request fresh now s).2 m := by
  have hi : (settings.intent request fresh now).Proper := SetupSettings.intent_proper now hr hf
  have hanswer : _ ↔ m.intent? fresh = none := createIntent_ok_iff hs hi
  have hshows := createIntent_shows hs hi
  unfold start
  simp only
  split
  · rw [SetupSettings.intent] at hanswer hshows
    split
    · rename_i e next hcreate
      rw [hcreate] at hanswer hshows
      have htaken : m.intent? fresh ≠ none := fun h => by cases hanswer.mpr h
      rw [if_neg htaken] at hshows
      exact Or.inr ⟨⟨_, rfl⟩, hshows⟩
    · rename_i next hcreate
      rw [hcreate] at hanswer hshows
      have hfree := hanswer.mp rfl
      rw [if_pos hfree] at hshows
      exact Or.inl ⟨_, _, rfl, rfl, hfree, hshows⟩
  · exact Or.inr ⟨⟨_, rfl⟩, hs⟩

/-- What completing a setup comes to: refused, it changes nothing; otherwise the intent goes, and
unless it has expired its mapping is put. -/
inductive Completion (m : MemoryStore) (state installation : Option String) (now : Timestamp) :
    Except SetupError InstallationMapping → MemoryStore → Prop where
  | refused {e : SetupError}
    (h : ∀ st id, state.bind SetupState.ofText? = some st →
      installation.bind InstallationId.read? = some id → m.intent? st = none) :
    Completion m state installation now (.error e) m
  | expired {st : SetupState} {id : InstallationId} {i : SetupIntent}
    (hstate : state.bind SetupState.ofText? = some st)
    (hid : installation.bind InstallationId.read? = some id) (hi : m.intent? st = some i)
    (hexpired : i.isExpired now = true) :
    Completion m state installation now (.error .expiredState) (m.withoutIntent st)
  | completed {st : SetupState} {id : InstallationId} {i : SetupIntent}
    (hstate : state.bind SetupState.ofText? = some st)
    (hid : installation.bind InstallationId.read? = some id) (hi : m.intent? st = some i)
    (hlive : i.isExpired now = false) :
    Completion m state installation now (.ok (i.mapping id))
      ((m.withoutIntent st).withMapping (i.mapping id))

theorem complete_shows (hs : Shows s m) (state installation : Option String) (now : Timestamp) :
    ∃ m', Completion m state installation now (complete state installation now s).1 m' ∧
      Shows (complete state installation now s).2 m' := by
  unfold complete
  cases hstate : state.bind SetupState.ofText? with
  | none => exact ⟨m, .intro (.refused fun st id hst _ => nomatch hstate.symm.trans hst) hs⟩
  | some st =>
    cases hid : installation.bind InstallationId.read? with
    | none => exact ⟨m, .intro (.refused fun st id _ h => nomatch hid.symm.trans h) hs⟩
    | some id =>
      obtain ⟨raw, -, hraw⟩ := Option.bind_eq_some_iff.mp hid
      obtain ⟨hanswer, hshows⟩ := promoteIntent_eq hs st (InstallationId.read?_proper hraw) now
      simp only
      rcases hpromote : promoteIntent st id now s with ⟨answer, next⟩
      rw [hpromote] at hanswer hshows
      cases hi : m.intent? st with
      | none =>
        rw [MemoryStore.promoteIntent_absent hi] at hanswer hshows
        cases hanswer
        refine ⟨m, .refused fun st' id' hst' _ => ?_, hshows⟩
        rwa [← Option.some.inj (hstate.symm.trans hst')]
      | some i =>
        rw [MemoryStore.promoteIntent_present hi] at hanswer hshows
        cases hexpired : i.isExpired now with
        | true =>
          rw [hexpired] at hanswer hshows
          cases hanswer
          exact ⟨_, .expired hstate hid hi hexpired, hshows⟩
        | false =>
          rw [hexpired] at hanswer hshows
          cases hanswer
          exact ⟨_, .completed hstate hid hi hexpired, hshows⟩

theorem revoke_shows (hs : Shows s m) (id : InstallationId) (organization : Option OrganizationId) :
    ((revoke id organization s).1 = .ok () ∧
      Shows (revoke id organization s).2 (m.withoutMapping id)) ∨
    (∃ e, (revoke id organization s).1 = .error e) ∧ Shows (revoke id organization s).2 m := by
  obtain ⟨hanswer, hshows⟩ := deleteMapping_eq hs id organization
  unfold revoke
  rcases hdelete : deleteMapping id organization s with ⟨answer, next⟩
  rw [hdelete] at hanswer hshows
  rcases MemoryStore.deleteMapping_cases id organization m with h | h
  · rw [h] at hanswer hshows
    cases hanswer
    exact Or.inl ⟨rfl, hshows⟩
  · rw [h] at hanswer hshows
    cases hanswer
    exact Or.inr ⟨⟨_, rfl⟩, hshows⟩

end Mirrored

end Setup

end EventRelay
