import EventRelay.Listener.Router
import EventRelay.Proofs.Setup.Handshake
import EventRelay.Proofs.Store.Rows
import EventRelay.Proofs.Text.Parts
import Mathlib

/-!
# What a request can do without the setup token

With a setup token configured, those who do not present it get one answer
from the endpoints of operators, before the store or the body is looked at.
What is left to them is the callback, and it changes the store only for one
who names the state of an intent: that intent goes, and at most the mapping
of the installation named with it is put. An empty store has no intents to
name, so without the token it stays empty.
-/

set_option autoImplicit false

namespace EventRelay

open EventRelay.Http EventRelay.Store EventRelay.Text

namespace Authorization

def IsBearer (token value : String) : Prop :=
  ∃ scheme rest, trimChars value.toList = scheme ++ ' ' :: rest ∧ ' ' ∉ scheme ∧
    sameAscii (String.ofList scheme) "bearer" = true ∧
    trimmed (String.ofList rest) = trimmed token

/-- The request brings the token, in its first authorization header or in its query. -/
def Presents (token : String) (request : Request) : Prop :=
  (∃ value, request.headers.value? "authorization" = some value ∧ IsBearer token value) ∨
    ∃ value, request.query.value? "setup_token" = some value ∧ trimmed value = trimmed token

theorem bearer?_iff (token value : String) :
    (∃ t, bearer? value = some t ∧ trimmed t = trimmed token) ↔ IsBearer token value := by
  constructor
  · rintro ⟨t, ht, heq⟩
    unfold bearer? at ht
    split at ht
    · rename_i scheme rest hsplit
      split at ht
      · rename_i hscheme
        cases ht
        rw [trimmed_trimmed] at heq
        obtain ⟨hvalue, hspace⟩ := splitFirst_eq_some_iff.mp hsplit
        exact ⟨scheme, rest, hvalue, hspace, hscheme, heq⟩
      · cases ht
    · cases ht
  · rintro ⟨scheme, rest, hvalue, hspace, hscheme, heq⟩
    have hsplit := splitFirst_eq_some_iff.mpr ⟨hvalue, hspace⟩
    refine ⟨trimmed (String.ofList rest), ?_, by rwa [trimmed_trimmed]⟩
    simp only [bearer?, hsplit, hscheme, if_true]

/-- A token that is not blank has to be brought. -/
theorem grants_iff {token : String} (h : trimmed token ≠ "") (request : Request) :
    grants (some token) request.headers request.query = true ↔ Presents token request := by
  have htoken : (some token).bind nonBlank? = some (trimmed token) := if_neg h
  have hany : ∀ o : Option String,
      o.toList.any (fun t => trimmed t == trimmed token) = true ↔
        ∃ t, o = some t ∧ trimmed t = trimmed token := by
    intro o
    cases o <;> simp
  rw [grants, htoken]
  simp only [presented, List.any_append, Bool.or_eq_true, hany, Presents, tokenParameter]
  refine or_congr_left ?_
  constructor
  · rintro ⟨t, ht, heq⟩
    obtain ⟨value, hvalue, hbearer⟩ := Option.bind_eq_some_iff.mp ht
    exact ⟨value, hvalue, (bearer?_iff token value).mp ⟨t, hbearer, heq⟩⟩
  · rintro ⟨value, hvalue, hbearer⟩
    obtain ⟨t, ht, heq⟩ := (bearer?_iff token value).mpr hbearer
    exact ⟨t, Option.bind_eq_some_iff.mpr ⟨value, hvalue, ht⟩, heq⟩

end Authorization

namespace Listener

variable {σ κ : Type} [Store σ]

def endpoint? (routes : List (Route Endpoint)) (request : Request) : Option Endpoint :=
  (Route.find? request.path routes).bind fun route => route.action? request.method

def needsToken : Endpoint → Bool
  | .startFromBody | .startFromQuery | .list | .delete => true
  | .webhook | .callback | .health => false

def sent (request : Request) (response : Response) : Response :=
  if request.method = "HEAD" then response.withoutBody else response

def Names (routes : List (Route Endpoint)) (request : Request) (state : SetupState)
    (id : InstallationId) : Prop :=
  endpoint? routes request = some .callback ∧
    (request.query.value? "state").bind SetupState.ofText? = some state ∧
    (Operator.installationParameter? request.query).bind InstallationId.read? = some id

/-- From one store to the next an intent goes, and at most the mapping that it makes for an
installation comes. -/
structure Redeemed (i : SetupIntent) (id : InstallationId) (s s' : σ) : Prop where
  gone : getIntent i.state s' = .error .notFound
  intents : ∀ state, state ≠ i.state → getIntent state s' = getIntent state s
  own : getMapping id s' = getMapping id s ∨ getMapping id s' = .ok (i.mapping id)
  mappings : ∀ j, j ≠ id → getMapping j s' = getMapping j s
  listed : ∀ organization,
    (listMappings organization s').map (List.filter fun x => x.installation != id) =
      (listMappings organization s).map (List.filter fun x => x.installation != id)

/-- All that a request without the token comes to. -/
structure Powerless (routes : List (Route Endpoint)) (c : Config κ) (moment : Moment)
    (request : Request) (s : σ) (k : κ) : Prop where
  kept : (¬ ∃ state id i, Names routes request state id ∧ getIntent state s = .ok i) →
    (handle routes c moment request s k).2.1 = s
  redeemed : ∀ state id i, Names routes request state id → getIntent state s = .ok i →
    i.state = state ∧ Redeemed i id s (handle routes c moment request s k).2.1
  denied : ∀ endpoint, endpoint? routes request = some endpoint → needsToken endpoint = true →
    request.body.length ≤ maxBodyOctets →
    handle routes c moment request s k = (sent request Operator.unauthorized, s, k) ∧
      (sent request Operator.unauthorized).status = 401

def afterAll (routes : List (Route Endpoint)) (c : Config κ) :
    List (Moment × Request) → σ → κ → σ × κ
  | [], s, k => (s, k)
  | (moment, request) :: rest, s, k =>
    let (_, s, k) := handle routes c moment request s k
    afterAll routes c rest s k

section

variable {routes : List (Route Endpoint)} {c : Config κ} {request : Request} {endpoint : Endpoint}

/-- A request changes the store only through the endpoint that it reaches. -/
theorem handle_store (routes : List (Route Endpoint)) (c : Config κ) (moment : Moment)
    (request : Request) (s : σ) (k : κ) :
    (handle routes c moment request s k).2.1 = s ∨ ∃ endpoint,
      endpoint? routes request = some endpoint ∧
        (handle routes c moment request s k).2.1 = (serve c moment endpoint request s k).2.1 := by
  unfold handle endpoint?
  cases Route.find? request.path routes with
  | none => exact Or.inl rfl
  | some route =>
    simp only [Option.bind_some]
    cases route.action? request.method with
    | none => exact Or.inl rfl
    | some endpoint =>
      simp only
      split
      · exact Or.inl rfl
      · exact Or.inr ⟨endpoint, rfl, rfl⟩

theorem handle_of_endpoint (h : endpoint? routes request = some endpoint)
    (hbody : (takesBody endpoint && decide (maxBodyOctets < request.body.length)) = false)
    (moment : Moment) (s : σ) (k : κ) :
    handle routes c moment request s k =
      (sent request (serve c moment endpoint request s k).1,
        (serve c moment endpoint request s k).2) := by
  obtain ⟨route, hroute, haction⟩ := Option.bind_eq_some_iff.mp h
  simp only [handle, hroute, haction, hbody, Bool.false_eq_true, if_false, sent]

theorem serve_unauthorized (hauth : Operator.isAuthorized c.settings request = false)
    (h : needsToken endpoint = true) (moment : Moment) (s : σ) (k : κ) :
    serve c moment endpoint request s k = (Operator.unauthorized, s, k) := by
  cases endpoint with
  | startFromBody | startFromQuery | list | delete =>
    simp only [serve, Operator.startFromBody, Operator.startFromQuery, Operator.list,
      Operator.delete, hauth, Bool.not_false, if_true]
  | webhook | callback | health => cases h

theorem serve_store (hauth : Operator.isAuthorized c.settings request = false)
    (h : endpoint ≠ .callback) (moment : Moment) (s : σ) (k : κ) :
    (serve c moment endpoint request s k).2.1 = s := by
  cases endpoint with
  | startFromBody | startFromQuery | list | delete =>
    rw [serve_unauthorized hauth rfl]
  | webhook | health => rfl
  | callback => exact absurd rfl h

theorem serve_callback (moment : Moment) (s : σ) (k : κ) :
    (serve c moment .callback request s k).2.1 =
      (Setup.complete (request.query.value? "state")
        (Operator.installationParameter? request.query) moment.now s).2 := by
  simp only [serve, Operator.callback]
  rcases Setup.complete (request.query.value? "state")
    (Operator.installationParameter? request.query) moment.now s with ⟨_ | _, _⟩ <;> rfl

end

section Mirrored

open Mirror

variable [Mirror σ] {s s' : σ} {m m' : MemoryStore} {i : SetupIntent} {id : InstallationId}

theorem redeemed_of_memory (hs : Shows s m) (hs' : Shows s' m')
    (hintents : ∀ state, m'.intent? state = (m.withoutIntent i.state).intent? state)
    (hown : m'.mapping? id = m.mapping? id ∨ m'.mapping? id = some (i.mapping id))
    (hothers : (m'.withoutMapping id).mappings = (m.withoutMapping id).mappings) :
    Redeemed i id s s' where
  gone := by
    rw [getIntent_eq hs', hintents, MemoryStore.intent?_withoutIntent, if_pos rfl]
    rfl
  intents state hstate := by
    rw [getIntent_eq hs', getIntent_eq hs, hintents, MemoryStore.intent?_withoutIntent,
      if_neg hstate]
  own := by
    rw [getMapping_eq hs', getMapping_eq hs]
    rcases hown with h | h
    · exact Or.inl (congrArg MemoryStore.orNotFound h)
    · exact Or.inr (congrArg MemoryStore.orNotFound h)
  mappings j hj := by
    have h' := MemoryStore.mapping?_withoutMapping id j m'
    have h := MemoryStore.mapping?_withoutMapping id j m
    rw [if_neg hj] at h h'
    rw [getMapping_eq hs', getMapping_eq hs, ← h, ← h', MemoryStore.mapping?,
      MemoryStore.mapping?, hothers]
  listed organization := by
    have hlist : (m'.withoutMapping id).listMappings organization =
        (m.withoutMapping id).listMappings organization := by
      simp only [MemoryStore.listMappings, hothers]
    rw [MemoryStore.listMappings_withoutMapping, MemoryStore.listMappings_withoutMapping] at hlist
    rw [listMappings_eq hs', listMappings_eq hs]
    exact congrArg Except.ok hlist

theorem redeemed_of_completion (hs : Shows s m) {state : SetupState}
    {token installation : Option String} {now : Timestamp}
    {answer : Except SetupError InstallationMapping} (hi : m.intent? state = some i)
    (hstate : token.bind SetupState.ofText? = some state)
    (hid : installation.bind InstallationId.read? = some id)
    (h : Setup.Completion m token installation now answer m') (hs' : Shows s' m') :
    Redeemed i id s s' := by
  obtain ⟨-, rfl⟩ := MemoryStore.mem_of_intent? hi
  cases h with
  | refused hnone => cases (hnone i.state id hstate hid).symm.trans hi
  | expired hstate' hid' hi' hexpired =>
    cases Option.some.inj (hstate'.symm.trans hstate)
    exact redeemed_of_memory hs hs' (fun _ => rfl) (Or.inl rfl) rfl
  | completed hstate' hid' hi' hlive =>
    cases Option.some.inj (hstate'.symm.trans hstate)
    cases Option.some.inj (hid'.symm.trans hid)
    cases Option.some.inj (hi'.symm.trans hi)
    refine redeemed_of_memory hs hs' (fun _ => rfl) (Or.inr ?_) ?_
    · exact (MemoryStore.mapping?_withMapping _ _ _).trans (if_pos rfl)
    · have hsame := congrArg MemoryStore.mappings
        (MemoryStore.withoutMapping_withMapping (i.mapping id) (m.withoutIntent i.state))
      exact hsame

variable {routes : List (Route Endpoint)} {c : Config κ} {request : Request}

/-- A callback that names no intent changes nothing. -/
theorem callback_kept (hs : Shows s m)
    (h : ¬ ∃ state id i, Names routes request state id ∧ getIntent state s = .ok i)
    (hcallback : endpoint? routes request = some .callback) (moment : Moment) (k : κ) :
    (serve c moment .callback request s k).2.1 = s := by
  rw [serve_callback]
  obtain ⟨m', hcompletion, hs'⟩ := Setup.complete_shows hs (request.query.value? "state")
    (Operator.installationParameter? request.query) moment.now
  generalize (Setup.complete _ _ moment.now s).1 = answer at hcompletion
  cases hcompletion with
  | refused _ => exact unique hs' hs
  | expired hstate hid hi _ | completed hstate hid hi _ =>
    exact absurd ⟨_, _, _, ⟨hcallback, hstate, hid⟩, (getIntent_ok_iff hs).mpr hi⟩ h

theorem powerless_of_shows (routes : List (Route Endpoint)) (hs : Shows s m)
    (hauth : Operator.isAuthorized c.settings request = false) (moment : Moment) (k : κ) :
    Powerless routes c moment request s k where
  kept h := by
    rcases handle_store routes c moment request s k with hkept | ⟨endpoint, hendpoint, hstore⟩
    · exact hkept
    · rw [hstore]
      by_cases hcallback : endpoint = .callback
      · subst hcallback
        exact callback_kept hs h hendpoint moment k
      · exact serve_store hauth hcallback moment s k
  redeemed state id i hnames hi := by
    obtain ⟨hcallback, hstate, hid⟩ := hnames
    have hshown := (getIntent_ok_iff hs).mp hi
    refine ⟨(MemoryStore.mem_of_intent? hshown).2, ?_⟩
    rw [handle_of_endpoint hcallback rfl moment s k, serve_callback]
    obtain ⟨m', hcompletion, hs'⟩ := Setup.complete_shows hs (request.query.value? "state")
      (Operator.installationParameter? request.query) moment.now
    exact redeemed_of_completion hs hshown hstate hid hcompletion hs'
  denied endpoint hendpoint hneeds hbody := by
    have hfits : (takesBody endpoint && decide (maxBodyOctets < request.body.length)) = false := by
      rw [decide_eq_false (Nat.not_lt.mpr hbody), Bool.and_false]
    rw [handle_of_endpoint hendpoint hfits moment s k, serve_unauthorized hauth hneeds]
    refine ⟨rfl, ?_⟩
    rw [sent]
    split <;> rfl

theorem afterAll_empty {empty : σ} (hs : Shows empty {}) {visits : List (Moment × Request)}
    (hauth : ∀ visit ∈ visits, Operator.isAuthorized c.settings visit.2 = false) (k : κ) :
    (afterAll routes c visits empty k).1 = empty := by
  induction visits generalizing k with
  | nil => rfl
  | cons visit rest ih =>
    obtain ⟨moment, request⟩ := visit
    have hkept : (handle routes c moment request empty k).2.1 = empty := by
      apply (powerless_of_shows routes hs (hauth _ List.mem_cons_self) moment k).kept
      rintro ⟨state, id, i, -, hi⟩
      cases (getIntent_ok_iff hs).mp hi
    rw [afterAll]
    simp only
    rw [hkept]
    exact ih (fun v hv => hauth v (List.mem_cons_of_mem _ hv)) _

end Mirrored

/-- With a setup token that is not blank, no request that does not bring it changes either store,
but for a callback that names an intent; and from an empty store none ever does. -/
theorem tokenless_powerless (routes : List (Route Endpoint)) (c : Config κ) {token : String}
    (htoken : c.settings.setupToken = some token) (hblank : trimmed token ≠ "") :
    (∀ ops moment request k, Proper ops → ¬ Authorization.Presents token request →
      Powerless routes c moment request (after ops ({} : MemoryStore)) k ∧
        Powerless routes c moment request (after ops ({} : RowStore)) k) ∧
    ∀ visits k, (∀ visit ∈ visits, ¬ Authorization.Presents token visit.2) →
      (afterAll routes c visits ({} : MemoryStore) k).1 = {} ∧
        (afterAll routes c visits ({} : RowStore) k).1 = {} := by
  have hauth : ∀ request, ¬ Authorization.Presents token request →
      Operator.isAuthorized c.settings request = false := by
    intro request hpresents
    rw [Operator.isAuthorized, htoken, Bool.eq_false_iff]
    exact mt (Authorization.grants_iff hblank request).mp hpresents
  constructor
  · intro ops moment request k hops hpresents
    have hrequest := hauth request hpresents
    exact ⟨powerless_of_shows routes (Mirror.after_shows memory_shows hops) hrequest moment k,
      powerless_of_shows routes (Mirror.after_shows RowStore.empty_shows hops) hrequest moment k⟩
  · intro visits k hvisits
    have hall : ∀ visit ∈ visits, Operator.isAuthorized c.settings visit.2 = false :=
      fun visit hvisit => hauth visit.2 (hvisits visit hvisit)
    exact ⟨afterAll_empty memory_shows hall k, afterAll_empty RowStore.empty_shows hall k⟩

def strangerConfig : Config Nat where
  settings :=
    { provider := .github
      webhookPath := "/webhooks/github"
      webhookSecret := "hook"
      setupToken := some " token " }
  setup := {}
  sink := ⟨fun _ _ n => (.ok (), n + 1)⟩

def strangerRoutes : List (Route Endpoint) :=
  (routes? "/webhooks/github" defaultCallbackPath).getD []

def strangerRemoval : Request :=
  { method := "POST"
    path := deletePath
    query := []
    headers := [("Authorization", "Basic token".toUTF8.toList)]
    body := "\x7b\"installation_id\":7\x7d".toUTF8.toList }

def strangerCallback : Request :=
  { method := "GET"
    path := defaultCallbackPath
    query := [("state", " s "), ("installation_id", "7")]
    headers := []
    body := [] }

def strangerMoment : Moment := ⟨⟨5, 0, by decide⟩, ⟨"t"⟩, ""⟩

def strangerOps : List Op :=
  [.createIntent ⟨⟨"s"⟩, {}, ⟨9, 0, by decide⟩⟩, .upsertMapping ⟨⟨8⟩, {}, true⟩]

theorem stranger_powerless :
    handle strangerRoutes strangerConfig strangerMoment strangerRemoval
        (after strangerOps ({} : RowStore)) 0 =
      (Operator.unauthorized, after strangerOps {}, 0) ∧
    Redeemed ⟨⟨"s"⟩, {}, ⟨9, 0, by decide⟩⟩ ⟨7⟩ (after strangerOps ({} : RowStore))
      (handle strangerRoutes strangerConfig strangerMoment strangerCallback
        (after strangerOps ({} : RowStore)) 0).2.1 ∧
    (afterAll strangerRoutes strangerConfig
      [(strangerMoment, strangerRemoval), (strangerMoment, strangerCallback)] ({} : RowStore) 0).1 =
      {} := by
  have hblank : trimmed " token " ≠ "" := by decide
  have hremoval : ¬ Authorization.Presents " token " strangerRemoval := by
    rw [← Authorization.grants_iff hblank]
    decide +kernel
  have hcallback : ¬ Authorization.Presents " token " strangerCallback := by
    rw [← Authorization.grants_iff hblank]
    decide +kernel
  have hops : Proper strangerOps := by decide
  obtain ⟨hone, hall⟩ := tokenless_powerless strangerRoutes strangerConfig rfl hblank
  refine ⟨?_, ?_, ?_⟩
  · have h := (hone strangerOps strangerMoment strangerRemoval 0 hops hremoval).2
    exact (h.denied .delete (by decide +kernel) rfl (by decide +kernel)).1
  · have h := (hone strangerOps strangerMoment strangerCallback 0 hops hcallback).2
    exact (h.redeemed ⟨"s"⟩ ⟨7⟩ _ ⟨by decide +kernel, by decide, by decide⟩ (by rfl)).2
  · refine (hall _ 0 fun visit hvisit => ?_).2
    rcases List.mem_pair.mp hvisit with rfl | rfl
    · exact hremoval
    · exact hcallback

end Listener

end EventRelay
