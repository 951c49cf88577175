import EventRelay.Proofs.Listener.Answer
import EventRelay.Proofs.Setup.Failure

/-!
# Requests that fail

A request of an operator that is answered with an error leaves the store as
it was, but for one: a callback that comes too late is answered that its
intent has expired, and that intent is discarded. A request that is refused
as invalid, or for want of a token, is refused before the store is looked at,
so that it would have been over any other store.
-/

set_option autoImplicit false

namespace EventRelay

open EventRelay.Http EventRelay.Store EventRelay.Setup

namespace Operator

variable {σ : Type} [Store σ]

/-- What an answer that is an error does to the store. -/
structure Harmless (answer : {τ : Type} → [Store τ] → τ → Response × τ) (s : σ) : Prop where
  kept : 400 ≤ (answer s).1.status → (answer s).1.status ≠ 410 → (answer s).2 = s
  blind : (answer s).1.status ∈ [400, 401, 405, 413] → Blind answer (answer s).1

/-- An answer that no deadline decides. -/
structure Prompt (answer : {τ : Type} → [Store τ] → τ → Response × τ) (s : σ) : Prop
    extends Harmless answer s where
  in_time : (answer s).1.status ≠ 410

/-! ## Answers that tell what a call came to -/

theorem ofSetup_status (e : SetupError) :
    400 ≤ (Refusal.ofSetup e).status ∧
      ((Refusal.ofSetup e).status ∈ [400, 401, 405, 413] → e.IsInvalid) ∧
      ((Refusal.ofSetup e).status = 410 ↔ e = .expiredState) := by
  cases e <;> simp [Refusal.ofSetup, Refusal.badRequest, Refusal.notFound, Refusal.internal,
    SetupError.IsInvalid]

def Succeeds {α : Type} (success : α → Response) : Prop := ∀ a, (success a).status < 400

theorem found_succeeds : Succeeds fun started : SetupStarted => .found started.redirectUrl := by
  intro started
  simp only [Response.found]
  split <;> exact (by decide : 302 < 400)

theorem json_succeeds {α : Type} (v : α → Json) : Succeeds fun a => .json 200 (v a) :=
  fun _ => (by decide : 200 < 400)

section

variable {α : Type} {success : α → Response} (hsuccess : Succeeds success)

include hsuccess

theorem told_failed {r : Except SetupError α} (h : 400 ≤ (told success r).status) :
    ∃ e, r = .error e := by
  cases r with
  | ok a => exact absurd h (Nat.not_le.mpr (hsuccess a))
  | error e => exact ⟨e, rfl⟩

theorem told_expired {r : Except SetupError α} (h : (told success r).status = 410) :
    r = .error .expiredState := by
  obtain ⟨e, rfl⟩ := told_failed hsuccess (by omega : 400 ≤ (told success r).status)
  rw [(ofSetup_status e).2.2.mp h]

theorem told_invalid {r : Except SetupError α}
    (h : (told success r).status ∈ [400, 401, 405, 413]) : ∃ e, r = .error e ∧ e.IsInvalid := by
  have hfail : 400 ≤ (told success r).status := by
    simp only [List.mem_cons, List.not_mem_nil, or_false] at h
    omega
  obtain ⟨e, rfl⟩ := told_failed hsuccess hfail
  exact ⟨e, rfl, (ofSetup_status e).2.1 h⟩

end

section

variable {answer : {τ : Type} → [Store τ] → τ → Response × τ} {s : σ}

theorem prompt_of_blind {r : Response} (h : Blind answer r) (hr : r.status ≠ 410) :
    Prompt answer s where
  kept _ _ := by rw [h.eq s]
  blind _ τ _ t := by
    show answer t = _
    rw [h.eq s, h.eq t]
  in_time := by rwa [h.eq s]

variable {α : Type} {call : {τ : Type} → [Store τ] → τ → Except SetupError α × τ}
  {success : α → Response}

theorem harmless_of_call (hsuccess : Succeeds success) (hcall : FailsSafely call s)
    (h : ∀ (τ : Type) [Store τ] (t : τ), answer t = (call t).map (told success) id) :
    Harmless answer s where
  kept hfail hlate := by
    rw [h σ s] at hfail hlate ⊢
    obtain ⟨e, he⟩ := told_failed hsuccess hfail
    refine hcall.kept e he fun hexpired => hlate ?_
    show (told success (call s).1).status = 410
    rw [he]
    exact (ofSetup_status e).2.2.mpr hexpired
  blind hstatus := by
    rw [h σ s] at hstatus ⊢
    obtain ⟨e, he, hinvalid⟩ := told_invalid hsuccess hstatus
    have hblind := hcall.invalid e he hinvalid
    intro τ _ t
    show answer t = _
    rw [h τ t, hblind.eq t, hblind.eq s]
    rfl

theorem prompt_of_call (hsuccess : Succeeds success) (hcall : FailsSafely call s)
    (htime : (call s).1 ≠ .error .expiredState)
    (h : ∀ (τ : Type) [Store τ] (t : τ), answer t = (call t).map (told success) id) :
    Prompt answer s :=
  { harmless_of_call hsuccess hcall h with
    in_time := fun hstatus => by
      rw [h σ s] at hstatus
      exact htime (told_expired hsuccess hstatus) }

end

/-! ## The callback -/

section

variable [Careful σ] {now : Timestamp} {request : Request} {s : σ}

theorem callback_expired (h : (callback now request s).1.status = 410) :
    ∃ st id, (request.query.value? "state").bind SetupState.ofText? = some st ∧
      (installationParameter? request.query).bind InstallationId.read? = some id ∧
      Discards st now s (callback now request s).2 := by
  rw [callback_told] at h ⊢
  exact complete_expired (told_expired (json_succeeds _) h)

end

theorem list_status {settings : ListenerSettings} {request : Request}
    (hauth : isAuthorized settings request = true) (s : σ) :
    (list settings request s).status = 200 ∨ (list settings request s).status = 500 := by
  simp only [list, hauth, Bool.not_true, Bool.false_eq_true, if_false]
  split
  · exact Or.inr rfl
  · exact Or.inl rfl

end Operator

namespace Listener

open EventRelay.Operator

variable {σ κ : Type} [Store σ]

/-- What a request that fails does to the store. -/
structure FailsHarmlessly (routes : List (Route Endpoint)) (c : Config κ) (moment : Moment)
    (request : Request) (s : σ) (k : κ) : Prop where
  kept : 400 ≤ (handle routes c moment request s k).1.status →
    (handle routes c moment request s k).1.status ≠ 410 →
      (handle routes c moment request s k).2.1 = s
  expired : (handle routes c moment request s k).1.status = 410 →
    ∃ state id, Names routes request state id ∧
      Discards state moment.now s (handle routes c moment request s k).2.1
  blind : (handle routes c moment request s k).1.status ∈ [400, 401, 405, 413] →
    ∀ (τ : Type) [Store τ] (t : τ),
      handle routes c moment request t k = ((handle routes c moment request s k).1, t, k)
  malformed : ∀ shape, (endpoint? routes request, shape) ∈
      [(some .startFromBody, startShape), (some .delete, deleteShape)] →
    (∃ e, shape.read request.body = .error e) →
      (handle routes c moment request s k).1.status ∈ [400, 401, 413]

theorem sent_status (request : Request) (r : Response) : (sent request r).status = r.status := by
  unfold sent
  split <;> rfl

section

variable {routes : List (Route Endpoint)} {c : Config κ} {moment : Moment} {request : Request}
  {endpoint : Endpoint} {s : σ} {k : κ}

theorem served_malformed {shape : Json.Shape}
    (hshape : (endpoint, shape) ∈ [(.startFromBody, startShape), (.delete, deleteShape)])
    {e : Json.Fault} (he : shape.read request.body = .error e) :
    (served c moment endpoint request k s).1.status ∈ [400, 401, 413] := by
  cases hauth : isAuthorized c.settings request with
  | false =>
    have hneeds : needsToken endpoint = true := by
      rcases List.mem_pair.mp hshape with h | h <;> cases h <;> rfl
    rw [served_unauthorized hauth hneeds]
    exact (by decide : unauthorized.status ∈ [400, 401, 413])
  | true =>
    have hbody : (served c moment endpoint request k s).1 = invalidBody := by
      rcases List.mem_pair.mp hshape with h | h <;> cases h
      · rw [served_startFromBody, startFromBody_malformed hauth he]
      · rw [served_delete, delete_malformed hauth he]
    rw [hbody]
    decide

theorem turnedAway_status {r : Response} (h : turnedAway? routes request = some r) :
    r.status ∈ [404, 405, 413] ∧
      ((∃ endpoint, endpoint? routes request = some endpoint) → r.status = 413) := by
  rcases turnedAway_cases h with ⟨hroute, rfl⟩ | ⟨route, hroute, haction, rfl⟩ | ⟨_, _, _, rfl⟩
  · exact ⟨by decide, fun hsome => by simp [endpoint?, hroute] at hsome⟩
  · exact ⟨by simp, fun hsome => by simp [endpoint?, hroute, haction] at hsome⟩
  · exact ⟨by decide, fun _ => rfl⟩

theorem failsHarmlessly_of_turnedAway {r : Response} (h : turnedAway? routes request = some r) :
    FailsHarmlessly routes c moment request s k where
  kept _ _ := by rw [handle_turnedAway h]
  expired hlate := by
    rw [handle_turnedAway h] at hlate
    change r.status = 410 at hlate
    exact absurd (hlate ▸ (turnedAway_status h).1) (by decide)
  blind _ τ _ t := by rw [handle_turnedAway h, handle_turnedAway h]
  malformed shape hshape _ := by
    have hendpoint : ∃ endpoint, endpoint? routes request = some endpoint := by
      rcases List.mem_pair.mp hshape with hshape | hshape <;>
        exact ⟨_, congrArg Prod.fst hshape⟩
    rw [handle_turnedAway h]
    show r.status ∈ _
    rw [(turnedAway_status h).2 hendpoint]
    decide

variable [Careful σ]

theorem served_prompt (h : needsToken endpoint = true) :
    Prompt (served c moment endpoint request k) s := by
  cases hauth : isAuthorized c.settings request with
  | false =>
    have hblind : Blind (served c moment endpoint request k) unauthorized :=
      fun _ _ => served_unauthorized hauth h
    exact prompt_of_blind hblind (by decide)
  | true =>
    cases endpoint with
    | startFromBody =>
      cases hread : startShape.read request.body with
      | error e =>
        have hblind : Blind (served c moment .startFromBody request k) invalidBody :=
          fun _ _ t => (served_startFromBody t).trans (startFromBody_malformed hauth hread _ _ _ t)
        exact prompt_of_blind hblind (by decide)
      | ok v =>
        refine prompt_of_call (json_succeeds SetupStarted.toJson)
          (start_failsSafely c.setup (profileOfBody v) moment.fresh moment.now)
          (start_in_time _ _ _ _ s) fun _ _ t => ?_
        exact (served_startFromBody t).trans (startFromBody_told hauth hread _ _ _ t)
    | startFromQuery =>
      refine prompt_of_call found_succeeds
        (start_failsSafely c.setup (profileOfQuery c.settings.defaults request.query) moment.fresh
          moment.now) (start_in_time _ _ _ _ s) fun _ _ t => ?_
      exact (served_startFromQuery t).trans (startFromQuery_told hauth _ _ _ t)
    | list =>
      have hstatus := list_status hauth s
      refine ⟨⟨fun _ _ => rfl, fun hinvalid => ?_⟩, fun hlate => ?_⟩
      · change (list c.settings request s).status ∈ _ at hinvalid
        rcases hstatus with h | h <;> rw [h] at hinvalid <;> exact absurd hinvalid (by decide)
      · change (list c.settings request s).status = _ at hlate
        omega
    | delete =>
      cases hread : deleteShape.read request.body with
      | error e =>
        have hblind : Blind (served c moment .delete request k) invalidBody :=
          fun _ _ t => (served_delete t).trans (delete_malformed hauth hread t)
        exact prompt_of_blind hblind (by decide)
      | ok v =>
        cases hid : InstallationId.ofInt? (v.integerAt ["installation_id"]) with
        | none =>
          have hblind : Blind (served c moment .delete request k) invalidInstallation :=
            fun _ _ t => (served_delete t).trans (delete_invalid hauth hread hid t)
          exact prompt_of_blind hblind (by decide)
        | some id =>
          refine prompt_of_call (json_succeeds fun _ => .object [("deleted", .bool true)])
            (revoke_failsSafely id (organizationAt "organization_id" v))
            (revoke_in_time id _ s) fun _ _ t => ?_
          exact (served_delete t).trans (delete_told hauth hread hid t)
    | webhook | callback | health => cases h

theorem served_harmless (h : endpoint ≠ .webhook) :
    Harmless (served c moment endpoint request k) s := by
  cases endpoint with
  | webhook => exact absurd rfl h
  | startFromBody | startFromQuery | list | delete => exact (served_prompt rfl).toHarmless
  | callback =>
    exact harmless_of_call (json_succeeds _) (complete_failsSafely _ _ moment.now) fun _ _ t =>
      (served_callback t).trans (callback_told moment.now request t)
  | health =>
    have hblind : Blind (served c moment .health request k) (.plain 200 "ok") := fun _ _ _ => rfl
    exact (prompt_of_blind hblind (by decide)).toHarmless

theorem served_expired (h : endpoint ≠ .webhook)
    (hlate : (served c moment endpoint request k s).1.status = 410) :
    endpoint = .callback ∧ (callback moment.now request s).1.status = 410 := by
  cases endpoint with
  | webhook => exact absurd rfl h
  | startFromBody | startFromQuery | list | delete =>
    exact absurd hlate (served_prompt rfl).in_time
  | callback => exact ⟨rfl, hlate⟩
  | health => cases hlate

theorem failsHarmlessly_of_served (h : endpoint? routes request = some endpoint)
    (hsize : isOversized endpoint request = false) (hother : endpoint ≠ .webhook) :
    FailsHarmlessly routes c moment request s k := by
  have hharmless : Harmless (served c moment endpoint request k) s := served_harmless hother
  have hserved : ∀ (τ : Type) [Store τ] (t : τ), handle routes c moment request t k =
      (sent request (served c moment endpoint request k t).1,
        (served c moment endpoint request k t).2, k) :=
    fun _ _ => handle_served h hsize hother
  constructor
  · rw [hserved σ s]
    simp only [sent_status]
    exact hharmless.kept
  · rw [hserved σ s]
    simp only [sent_status]
    intro hlate
    obtain ⟨rfl, hcallback⟩ := served_expired hother hlate
    obtain ⟨st, id, hstate, hid, hdiscards⟩ := callback_expired hcallback
    rw [served_callback]
    exact ⟨st, id, ⟨h, hstate, hid⟩, hdiscards⟩
  · rw [hserved σ s]
    simp only [sent_status]
    intro hstatus τ _ t
    rw [hserved τ t, (hharmless.blind hstatus).eq t]
  · rw [hserved σ s]
    simp only [sent_status]
    rintro shape hshape ⟨e, he⟩
    rw [h] at hshape
    exact served_malformed (by simpa using hshape) he

theorem failsHarmlessly (hother : endpoint? routes request ≠ some .webhook) :
    FailsHarmlessly routes c moment request s k := by
  cases hway : turnedAway? routes request with
  | some r => exact failsHarmlessly_of_turnedAway hway
  | none =>
    obtain ⟨endpoint, h, hsize⟩ := endpoint_of_let_in hway
    exact failsHarmlessly_of_served h hsize fun he => hother (he ▸ h)

end

/-- Whatever a store holds, and whichever statements its database fails on, a call or a request of
an operator that fails leaves it as it was, but for an intent that a callback names too late. So
after a run in which statements fail now and then, tables are as after a run of the operations that
were spared. -/
theorem failure_leaves_store (routes : List (Route Endpoint)) (c : Config κ) (moment : Moment)
    {request : Request} (k : κ) (hother : endpoint? routes request ≠ some .webhook) :
    (∀ s : MemoryStore, CallsFailSafely c.setup s ∧ FailsHarmlessly routes c moment request s k) ∧
    (∀ s : RowStore, CallsFailSafely c.setup s ∧ FailsHarmlessly routes c moment request s k) ∧
    (∀ d : Database, CallsFailSafely c.setup d ∧ FailsHarmlessly routes c moment request d k) ∧
    (∀ acts s, ∃ spared, spared.Sublist (acts.map Prod.snd) ∧
      Database.rowsAfter acts s = after spared s) ∧
    ∀ s : UnavailableStore,
      CallsFailSafely c.setup s ∧ FailsHarmlessly routes c moment request s k :=
  ⟨fun s => ⟨callsFailSafely c.setup s, failsHarmlessly hother⟩,
    fun s => ⟨callsFailSafely c.setup s, failsHarmlessly hother⟩,
    fun d => ⟨callsFailSafely c.setup d, failsHarmlessly hother⟩,
    Database.exists_spared_run,
    fun s => ⟨callsFailSafely c.setup s, failsHarmlessly hother⟩⟩

def lateMoment : Moment := ⟨⟨10, 0, by decide⟩, ⟨"s"⟩, ""⟩

def completeProfile : TenantProfile := { credentials := ⟨"https://dash", "token", "secret"⟩ }

def strangerDatabase (failing : Statement) : Database where
  rows := after strangerOps {}
  faults q := if q = failing then some "database or disk is full" else none

/-- A callback that comes in time, whose mapping cannot be written or whose transaction cannot be
committed, fails and leaves the intent, which the transaction had deleted. One that comes too late
discards the intent. The removal without a token is refused over a store that is down as over any,
and a setup under a state that is taken does nothing. -/
theorem stranger_fails :
    (handle strangerRoutes strangerConfig strangerMoment strangerCallback
        (strangerDatabase .upsertMapping) 0).1.status = 500 ∧
    (RowStore.promotion (strangerDatabase .upsertMapping).faults ⟨"s"⟩ ⟨7⟩ strangerMoment.now
        ⟨after strangerOps {}, after strangerOps {}⟩).2.rows.intents = [] ∧
    (handle strangerRoutes strangerConfig strangerMoment strangerCallback
        (strangerDatabase .upsertMapping) 0).2.1 = strangerDatabase .upsertMapping ∧
    (Setup.complete (some "s") (some "7") strangerMoment.now (strangerDatabase .commit)).1 =
      .error (.store (.backend "database or disk is full")) ∧
    (Setup.complete (some "s") (some "7") strangerMoment.now (strangerDatabase .commit)).2 =
      strangerDatabase .commit ∧
    Discards ⟨"s"⟩ lateMoment.now (after strangerOps ({} : RowStore))
      (handle strangerRoutes strangerConfig lateMoment strangerCallback
        (after strangerOps ({} : RowStore)) 0).2.1 ∧
    handle strangerRoutes strangerConfig lateMoment strangerRemoval (⟨"down"⟩ : UnavailableStore) 0 =
      ((handle strangerRoutes strangerConfig lateMoment strangerRemoval
        (after strangerOps ({} : RowStore)) 0).1, ⟨"down"⟩, 0) ∧
    (Setup.start {} completeProfile ⟨"s"⟩ lateMoment.now (after strangerOps ({} : RowStore))).1 =
      .error (.store (.backend "UNIQUE constraint failed: setup_intents.state")) ∧
    (Setup.start {} completeProfile ⟨"s"⟩ lateMoment.now (after strangerOps ({} : RowStore))).2 =
      after strangerOps {} := by
  have hcallback : endpoint? strangerRoutes strangerCallback ≠ some .webhook := by decide +kernel
  have hremoval : endpoint? strangerRoutes strangerRemoval ≠ some .webhook := by decide +kernel
  obtain ⟨-, -, hfaulty, -⟩ :=
    failure_leaves_store strangerRoutes strangerConfig strangerMoment 0 hcallback
  obtain ⟨-, hrows, -⟩ := failure_leaves_store strangerRoutes strangerConfig lateMoment 0 hcallback
  obtain ⟨-, hdown, -⟩ := failure_leaves_store strangerRoutes strangerConfig lateMoment 0 hremoval
  obtain ⟨hcalls, hfails⟩ := hrows (after strangerOps {})
  have hfull : (handle strangerRoutes strangerConfig strangerMoment strangerCallback
      (strangerDatabase .upsertMapping) 0).1.status = 500 := by
    decide +kernel
  have hcommit : (Setup.complete (some "s") (some "7") strangerMoment.now
      (strangerDatabase .commit)).1 = .error (.store (.backend "database or disk is full")) := by
    decide +kernel
  have htaken : (Setup.start {} completeProfile ⟨"s"⟩ lateMoment.now
      (after strangerOps ({} : RowStore))).1 =
        .error (.store (.backend "UNIQUE constraint failed: setup_intents.state")) := by
    decide +kernel
  refine ⟨hfull, by decide +kernel, ?_, hcommit, ?_, ?_, ?_, htaken,
    (hcalls.start _ _ _).kept _ htaken nofun⟩
  · exact (hfaulty _).2.kept (by rw [hfull]; decide) (by rw [hfull]; decide)
  · exact ((hfaulty _).1.complete _ _ _).kept _ hcommit nofun
  · obtain ⟨state, id, ⟨-, hstate, -⟩, hdiscards⟩ := hfails.expired (by decide +kernel)
    have hs : some state = some ⟨"s"⟩ := hstate.symm.trans (by decide +kernel)
    rwa [Option.some.inj hs] at hdiscards
  · exact (hdown (after strangerOps {})).2.blind (by decide +kernel) UnavailableStore ⟨"down"⟩

end Listener

end EventRelay
