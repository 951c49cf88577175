import EventRelay.Proofs.Setup.Handshake
import EventRelay.Proofs.Store.Fault
import EventRelay.Store.Choice

/-!
# Calls that fail

A store is careful if its operations change nothing when they fail. In a
careful store the calls of the handshake change nothing either when they
fail, but for one: a callback that comes too late discards the intent that it
names. What a caller got wrong is told without the store, so that any other
store would have told the same.
-/

set_option autoImplicit false

namespace EventRelay

open EventRelay.Store

namespace Store

variable {σ : Type} [Store σ]

/-- From one store to the next the intent of a state goes, which has expired, and nothing else. -/
structure Discards (state : SetupState) (now : Timestamp) (s s' : σ) : Prop where
  expired : ∃ i, getIntent state s = .ok i ∧ i.isExpired now = true
  deleted : deleteIntent state s = (.ok (), s')
  gone : getIntent state s' = .error .notFound
  intents : ∀ other, other ≠ state → getIntent other s' = getIntent other s
  mapping : ∀ id, getMapping id s' = getMapping id s
  listed : ∀ organization, listMappings organization s' = listMappings organization s

/-- Operations that fail change nothing, and a promotion that comes too late only discards. -/
class Careful (σ : Type) [Store σ] : Prop where
  createIntent_error {i : SetupIntent} {s : σ} {e : StoreError} :
    (createIntent i s).1 = .error e → (createIntent i s).2 = s
  createIntent_taken {i j : SetupIntent} {s : σ} : getIntent i.state s = .ok j →
    ∃ reason, (createIntent i s).1 = .error (.backend reason)
  deleteMapping_error {id : InstallationId} {organization : Option OrganizationId} {s : σ}
    {e : StoreError} :
    (deleteMapping id organization s).1 = .error e → (deleteMapping id organization s).2 = s
  promoteIntent_error {state : SetupState} {id : InstallationId} {now : Timestamp} {s : σ}
    {e : StoreError} :
    (promoteIntent state id now s).1 = .error e → (promoteIntent state id now s).2 = s
  promoteIntent_expired {state : SetupState} {id : InstallationId} {now : Timestamp} {s : σ} :
    (promoteIntent state id now s).1 = .ok .expired →
      Discards state now s (promoteIntent state id now s).2

end Store

/-! ## Careful stores -/

namespace MemoryStore

theorem discards_withoutIntent {m : MemoryStore} {state : SetupState} {i : SetupIntent}
    {now : Timestamp} (hi : m.intent? state = some i) (hexpired : i.isExpired now = true) :
    Discards state now m (m.withoutIntent state) where
  expired := ⟨i, congrArg orNotFound hi, hexpired⟩
  deleted := rfl
  gone := by
    show orNotFound ((m.withoutIntent state).intent? state) = _
    rw [intent?_withoutIntent, if_pos rfl]
    rfl
  intents other hother := by
    show orNotFound ((m.withoutIntent state).intent? other) = _
    rw [intent?_withoutIntent, if_neg hother]
    rfl
  mapping _ := rfl
  listed _ := rfl

instance : Careful MemoryStore where
  createIntent_error {i s e} h := by
    change (s.createIntent i).1 = _ at h
    change (s.createIntent i).2 = _
    unfold createIntent at h ⊢
    cases hi : s.intent? i.state with
    | none =>
      rw [hi] at h
      cases h
    | some j => rfl
  createIntent_taken {i j s} h := by
    change orNotFound (s.intent? i.state) = _ at h
    cases hi : s.intent? i.state with
    | none =>
      rw [hi] at h
      cases h
    | some k =>
      show ∃ reason, (s.createIntent i).1 = _
      rw [createIntent, hi]
      exact ⟨_, rfl⟩
  deleteMapping_error {id organization s e} h := by
    change (s.deleteMapping id organization).1 = _ at h
    show (s.deleteMapping id organization).2 = _
    rcases deleteMapping_cases id organization s with hdelete | hdelete
    · rw [hdelete] at h
      cases h
    · rw [hdelete]
  promoteIntent_error {state id now s e} h := by
    change (s.promoteIntent state id now).1 = _ at h
    show (s.promoteIntent state id now).2 = _
    cases hi : s.intent? state with
    | none => rw [promoteIntent_absent hi]
    | some i =>
      rw [promoteIntent_present hi] at h
      cases hexpired : i.isExpired now <;> rw [hexpired] at h <;> cases h
  promoteIntent_expired {state id now s} h := by
    change (s.promoteIntent state id now).1 = _ at h
    show Discards state now s (s.promoteIntent state id now).2
    cases hi : s.intent? state with
    | none =>
      rw [promoteIntent_absent hi] at h
      cases h
    | some i =>
      rw [promoteIntent_present hi] at h ⊢
      cases hexpired : i.isExpired now with
      | true => exact discards_withoutIntent hi hexpired
      | false =>
        rw [hexpired] at h
        cases h

end MemoryStore

namespace RowStore

theorem intentRow?_withoutIntent (st state : SetupState) (s : RowStore) :
    (s.withoutIntent st).intentRow? state = if state = st then none else s.intentRow? state := by
  by_cases h : state = st
  · rw [if_pos h]
    simp [intentRow?, withoutIntent, h]
  · rw [if_neg h]
    have htoken : state.token ≠ st.token := mt SetupState.token_inj.mp h
    simp only [intentRow?, withoutIntent, List.find?_filter]
    congr 1
    funext r
    by_cases hr : r.state = state.token <;> simp [hr, htoken]

theorem getIntent_withoutIntent (st state : SetupState) (s : RowStore) :
    (s.withoutIntent st).getIntent state =
      if state = st then .error .notFound else s.getIntent state := by
  rw [getIntent, intentRow?_withoutIntent]
  by_cases h : state = st
  · rw [if_pos h, if_pos h]
  · rw [if_neg h, if_neg h, getIntent]

theorem discards_withoutIntent {s : RowStore} {state : SetupState} {i : SetupIntent}
    {now : Timestamp} (hi : s.getIntent state = .ok i) (hexpired : i.isExpired now = true) :
    Discards state now s (s.withoutIntent state) where
  expired := ⟨i, hi, hexpired⟩
  deleted := rfl
  gone := (getIntent_withoutIntent state state s).trans (if_pos rfl)
  intents other hother := (getIntent_withoutIntent state other s).trans (if_neg hother)
  mapping _ := rfl
  listed _ := rfl

instance : Careful RowStore where
  createIntent_error {i s e} h := by
    change (s.createIntent i).1 = _ at h
    change (s.createIntent i).2 = _
    unfold createIntent at h ⊢
    cases hi : s.intentRow? i.state with
    | none =>
      rw [hi] at h
      cases h
    | some j => rfl
  createIntent_taken {i j s} h := by
    change s.getIntent i.state = _ at h
    rw [getIntent] at h
    cases hi : s.intentRow? i.state with
    | none =>
      rw [hi] at h
      cases h
    | some row =>
      show ∃ reason, (s.createIntent i).1 = _
      rw [createIntent, hi]
      exact ⟨_, rfl⟩
  deleteMapping_error {id organization s e} h := by
    change (s.deleteMapping id organization).1 = _ at h
    change (s.deleteMapping id organization).2 = _
    unfold deleteMapping at h ⊢
    cases organization with
    | none => cases h
    | some o =>
      simp only at h ⊢
      split at h
      · cases h
      · rename_i hnone
        rw [if_neg hnone]
  promoteIntent_error {state id now _ _} :=
    transact_error (promotion_spared .empty state id now).before
  promoteIntent_expired {state id now s} h := by
    change (promoteIntent .empty state id now s).1 = _ at h
    show Discards state now s (promoteIntent .empty state id now s).2
    cases hi : s.getIntent state with
    | error e =>
      rw [promoteIntent_failed hi] at h
      cases h
    | ok i =>
      rw [promoteIntent_found hi] at h ⊢
      cases hexpired : i.isExpired now with
      | true => exact discards_withoutIntent hi hexpired
      | false =>
        rw [hexpired] at h
        cases h

end RowStore

namespace Database

variable {d : Database} {state : SetupState} {now : Timestamp}

theorem discards_hold {s : RowStore} (hselect : d.faults .selectIntent = none)
    (hdelete : d.faults .deleteIntent = none) (h : Discards state now d.rows s) :
    Discards state now d { d with rows := s } where
  expired := by
    obtain ⟨i, hi, hexpired⟩ := h.expired
    exact ⟨i, (Faults.query_spared hselect _).trans hi, hexpired⟩
  deleted := by
    show d.hold (d.faults.statement .deleteIntent (deleteIntent state) d.rows) = _
    rw [Faults.statement_spared hdelete, h.deleted]
    rfl
  gone := (Faults.query_spared hselect _).trans h.gone
  intents other hother := congrArg (d.faults.query .selectIntent) (h.intents other hother)
  mapping id := congrArg (d.faults.query .selectMapping) (h.mapping id)
  listed organization := congrArg (d.faults.query .selectMappings) (h.listed organization)

instance : Careful Database where
  createIntent_error {i d e} :=
    (d.createIntent_failsCleanly i).error fun h =>
      congrArg (Database.mk · d.faults) (Careful.createIntent_error h)
  createIntent_taken {i j d} h := by
    have hrows : getIntent i.state d.rows = .ok j := (Faults.query_ok h).2
    have houtcome := d.createIntent_failsCleanly i
    generalize createIntent i d = r at houtcome
    cases houtcome with
    | struck reason => exact ⟨reason, rfl⟩
    | spared => exact Careful.createIntent_taken hrows
  deleteMapping_error {id organization d e} :=
    (d.deleteMapping_failsCleanly id organization).error fun h =>
      congrArg (Database.mk · d.faults) (Careful.deleteMapping_error h)
  promoteIntent_error {state id now d e} :=
    (d.promoteIntent_failsCleanly state id now).error fun h =>
      congrArg (Database.mk · d.faults) (Careful.promoteIntent_error h)
  promoteIntent_expired {state id now d} h := by
    have hspared := (d.promoteIntent_failsCleanly state id now).spared_of_ok h
    obtain ⟨hselect, hdelete⟩ := RowStore.promoteIntent_ok h
    rw [hspared] at h ⊢
    exact discards_hold hselect hdelete (Careful.promoteIntent_expired h)

end Database

instance : Careful UnavailableStore where
  createIntent_error _ := rfl
  createIntent_taken h := nomatch h
  deleteMapping_error _ := rfl
  promoteIntent_error _ := rfl
  promoteIntent_expired h := nomatch h

/-! ## Calls of the handshake -/

def SetupError.IsInvalid (e : SetupError) : Prop :=
  e = .missingCredentials ∨ e = .missingState ∨ e = .invalidInstallationId

namespace Setup

def Blind {α : Type} (call : {τ : Type} → [Store τ] → τ → α × τ) (answer : α) : Prop :=
  ∀ (τ : Type) [Store τ] (t : τ), call t = (answer, t)

theorem Blind.eq {α τ : Type} [Store τ] {call : {τ : Type} → [Store τ] → τ → α × τ} {answer : α}
    (h : Blind call answer) (t : τ) : call t = (answer, t) := h τ t

variable {σ : Type} [Store σ]

/-- A call changes the store only if it succeeds or comes too late, and what the caller got wrong
is told without the store. -/
structure FailsSafely {α : Type} (call : {τ : Type} → [Store τ] → τ → Except SetupError α × τ)
    (s : σ) : Prop where
  kept : ∀ e, (call s).1 = .error e → e ≠ .expiredState → (call s).2 = s
  invalid : ∀ e, (call s).1 = .error e → e.IsInvalid → Blind call (.error e)

structure CallsFailSafely (settings : SetupSettings) (s : σ) : Prop where
  start : ∀ profile fresh now, FailsSafely (start settings profile fresh now) s
  complete : ∀ state installation now, FailsSafely (complete state installation now) s
  revoke : ∀ id organization, FailsSafely (revoke id organization) s
  expired : ∀ state installation now,
    (Setup.complete state installation now s).1 = .error .expiredState →
      ∃ st id, state.bind SetupState.ofText? = some st ∧
        installation.bind InstallationId.read? = some id ∧
        Discards st now s (Setup.complete state installation now s).2
  start_in_time : ∀ profile fresh now,
    (Setup.start settings profile fresh now s).1 ≠ .error .expiredState
  revoke_in_time : ∀ id organization,
    (Setup.revoke id organization s).1 ≠ .error .expiredState
  taken : ∀ profile fresh now i, getIntent fresh s = .ok i →
    ∃ e, (Setup.start settings profile fresh now s).1 = .error e

inductive StartOutcome (settings : SetupSettings) (profile : TenantProfile) (fresh : SetupState)
    (now : Timestamp) (s : σ) : Except SetupError SetupStarted × σ → Prop where
  | incomplete (h : Blind (start settings profile fresh now) (.error .missingCredentials)) :
    StartOutcome settings profile fresh now s (.error .missingCredentials, s)
  | failed {cause : StoreError} {s' : σ}
    (h : createIntent (settings.intent profile fresh now) s = (.error cause, s')) :
    StartOutcome settings profile fresh now s (.error (.store cause), s')
  | started {answer : SetupStarted} {s' : σ}
    (h : createIntent (settings.intent profile fresh now) s = (.ok (), s')) :
    StartOutcome settings profile fresh now s (.ok answer, s')

theorem start_outcome (settings : SetupSettings) (profile : TenantProfile) (fresh : SetupState)
    (now : Timestamp) (s : σ) :
    StartOutcome settings profile fresh now s (start settings profile fresh now s) := by
  cases hcomplete : (settings.normalProfile profile).credentials.isComplete with
  | false =>
    have hblind : Blind (start settings profile fresh now) (.error .missingCredentials) := by
      intro τ _ t
      simp only [start, hcomplete, Bool.false_eq_true, if_false]
    rw [hblind.eq s]
    exact .incomplete hblind
  | true =>
    simp only [start, hcomplete, if_true]
    rcases hcreate : createIntent (settings.intent profile fresh now) s with ⟨cause | _, next⟩ <;>
      rw [SetupSettings.intent] at hcreate <;> rw [hcreate]
    · exact .failed hcreate
    · exact .started hcreate

inductive CompleteOutcome (state installation : Option String) (now : Timestamp) (s : σ) :
    Except SetupError InstallationMapping × σ → Prop where
  | invalid {e : SetupError} (he : e.IsInvalid)
    (h : Blind (complete state installation now) (.error e)) :
    CompleteOutcome state installation now s (.error e, s)
  | failed {st : SetupState} {id : InstallationId} {cause : StoreError} {s' : σ} {e : SetupError}
    (h : promoteIntent st id now s = (.error cause, s'))
    (he : e = .unknownState ∨ e = .store cause) :
    CompleteOutcome state installation now s (.error e, s')
  | expired {st : SetupState} {id : InstallationId} {s' : σ}
    (hstate : state.bind SetupState.ofText? = some st)
    (hid : installation.bind InstallationId.read? = some id)
    (h : promoteIntent st id now s = (.ok .expired, s')) :
    CompleteOutcome state installation now s (.error .expiredState, s')
  | completed {st : SetupState} {id : InstallationId} {mapping : InstallationMapping} {s' : σ}
    (h : promoteIntent st id now s = (.ok (.completed mapping), s')) :
    CompleteOutcome state installation now s (.ok mapping, s')

theorem complete_outcome (state installation : Option String) (now : Timestamp) (s : σ) :
    CompleteOutcome state installation now s (complete state installation now s) := by
  cases hstate : state.bind SetupState.ofText? with
  | none =>
    have hblind : Blind (complete state installation now) (.error .missingState) := by
      intro τ _ t
      simp only [complete, hstate]
    rw [hblind.eq s]
    exact .invalid (Or.inr (Or.inl rfl)) hblind
  | some st =>
    cases hid : installation.bind InstallationId.read? with
    | none =>
      have hblind : Blind (complete state installation now) (.error .invalidInstallationId) := by
        intro τ _ t
        simp only [complete, hstate, hid]
      rw [hblind.eq s]
      exact .invalid (Or.inr (Or.inr rfl)) hblind
    | some id =>
      simp only [complete, hstate, hid]
      rcases hpromote : promoteIntent st id now s with ⟨cause | promotion, next⟩
      · cases cause with
        | notFound => exact .failed hpromote (Or.inl rfl)
        | backend reason => exact .failed hpromote (Or.inr rfl)
      · cases promotion with
        | completed mapping => exact .completed hpromote
        | expired => exact .expired hstate hid hpromote

inductive RevokeOutcome (id : InstallationId) (organization : Option OrganizationId) (s : σ) :
    Except SetupError Unit × σ → Prop where
  | failed {cause : StoreError} {s' : σ} {e : SetupError}
    (h : deleteMapping id organization s = (.error cause, s'))
    (he : e = .mappingNotFound id ∨ e = .store cause) :
    RevokeOutcome id organization s (.error e, s')
  | revoked {s' : σ} (h : deleteMapping id organization s = (.ok (), s')) :
    RevokeOutcome id organization s (.ok (), s')

theorem revoke_outcome (id : InstallationId) (organization : Option OrganizationId) (s : σ) :
    RevokeOutcome id organization s (revoke id organization s) := by
  unfold revoke
  rcases hdelete : deleteMapping id organization s with ⟨cause | _, next⟩
  · cases cause with
    | notFound => exact .failed hdelete (Or.inl rfl)
    | backend reason => exact .failed hdelete (Or.inr rfl)
  · exact .revoked hdelete

theorem start_in_time (settings : SetupSettings) (profile : TenantProfile) (fresh : SetupState)
    (now : Timestamp) (s : σ) : (start settings profile fresh now s).1 ≠ .error .expiredState := by
  intro he
  have houtcome := start_outcome settings profile fresh now s
  generalize start settings profile fresh now s = r at he houtcome
  cases houtcome <;> cases he

theorem revoke_in_time (id : InstallationId) (organization : Option OrganizationId) (s : σ) :
    (revoke id organization s).1 ≠ .error .expiredState := by
  intro he
  have houtcome := revoke_outcome id organization s
  generalize revoke id organization s = r at he houtcome
  cases houtcome with
  | failed _ hcause =>
    cases he
    rcases hcause with h | h <;> cases h
  | revoked => cases he

section Careful

variable [Careful σ] {s : σ}

theorem start_failsSafely (settings : SetupSettings) (profile : TenantProfile) (fresh : SetupState)
    (now : Timestamp) : FailsSafely (start settings profile fresh now) s := by
  have houtcome := start_outcome settings profile fresh now s
  constructor
  · intro e he _
    generalize start settings profile fresh now s = r at he houtcome
    cases houtcome with
    | incomplete => rfl
    | failed h =>
      have hsame := Careful.createIntent_error (congrArg Prod.fst h)
      rwa [h] at hsame
    | started => cases he
  · intro e he hinvalid
    generalize start settings profile fresh now s = r at he houtcome
    cases houtcome with
    | incomplete h =>
      cases he
      exact h
    | failed =>
      cases he
      rcases hinvalid with h | h | h <;> cases h
    | started => cases he

theorem complete_failsSafely (state installation : Option String) (now : Timestamp) :
    FailsSafely (complete state installation now) s := by
  have houtcome := complete_outcome state installation now s
  constructor
  · intro e he hlate
    generalize complete state installation now s = r at he houtcome
    cases houtcome with
    | invalid => rfl
    | failed h =>
      have hsame := Careful.promoteIntent_error (congrArg Prod.fst h)
      rwa [h] at hsame
    | expired =>
      cases he
      exact absurd rfl hlate
    | completed => cases he
  · intro e he hinvalid
    generalize complete state installation now s = r at he houtcome
    cases houtcome with
    | invalid _ h =>
      cases he
      exact h
    | failed _ hcause =>
      cases he
      rcases hcause with rfl | rfl <;> rcases hinvalid with h | h | h <;> cases h
    | expired =>
      cases he
      rcases hinvalid with h | h | h <;> cases h
    | completed => cases he

theorem complete_expired {state installation : Option String} {now : Timestamp}
    (hlate : (complete state installation now s).1 = .error .expiredState) :
    ∃ st id, state.bind SetupState.ofText? = some st ∧
      installation.bind InstallationId.read? = some id ∧
      Discards st now s (complete state installation now s).2 := by
  have houtcome := complete_outcome state installation now s
  generalize complete state installation now s = r at hlate houtcome
  cases houtcome with
  | invalid he =>
    cases hlate
    rcases he with h | h | h <;> cases h
  | failed _ he =>
    cases hlate
    rcases he with h | h <;> cases h
  | expired hstate hid h =>
    have hdiscards := Careful.promoteIntent_expired (congrArg Prod.fst h)
    rw [h] at hdiscards
    exact ⟨_, _, hstate, hid, hdiscards⟩
  | completed => cases hlate

theorem revoke_failsSafely (id : InstallationId) (organization : Option OrganizationId) :
    FailsSafely (revoke id organization) s := by
  have houtcome := revoke_outcome id organization s
  constructor
  · intro e he _
    generalize revoke id organization s = r at he houtcome
    cases houtcome with
    | failed h =>
      have hsame := Careful.deleteMapping_error (congrArg Prod.fst h)
      rwa [h] at hsame
    | revoked => cases he
  · intro e he hinvalid
    generalize revoke id organization s = r at he houtcome
    cases houtcome with
    | failed _ hcause =>
      cases he
      rcases hcause with rfl | rfl <;> rcases hinvalid with h | h | h <;> cases h
    | revoked => cases he

theorem start_taken (settings : SetupSettings) (profile : TenantProfile) {fresh : SetupState}
    (now : Timestamp) {i : SetupIntent} (hi : getIntent fresh s = .ok i) :
    ∃ e, (start settings profile fresh now s).1 = .error e := by
  have houtcome := start_outcome settings profile fresh now s
  generalize start settings profile fresh now s = r at houtcome
  cases houtcome with
  | incomplete | failed => exact ⟨_, rfl⟩
  | started h =>
    have htaken : getIntent (settings.intent profile fresh now).state s = .ok i := hi
    obtain ⟨reason, hreason⟩ := Careful.createIntent_taken htaken
    cases (congrArg Prod.fst h).symm.trans hreason

theorem callsFailSafely (settings : SetupSettings) (s : σ) : CallsFailSafely settings s where
  start := start_failsSafely settings
  complete := complete_failsSafely
  revoke := revoke_failsSafely
  expired _ _ _ := complete_expired
  start_in_time profile fresh now := Setup.start_in_time settings profile fresh now s
  revoke_in_time id organization := Setup.revoke_in_time id organization s
  taken profile _ now _ := start_taken settings profile now

end Careful

end Setup

end EventRelay
