import EventRelay.Proofs.Listener.Answer
import EventRelay.Proofs.Store.Alike

/-!
# What operators see of secrets

Two runs of requests are made over stores and process defaults, and with
requests, that differ in nothing but mask-equal secrets. One step leads from
stores that are alike to stores that are alike and gives one answer, so that
the runs give the same answers throughout: of a secret nothing shows but
whether it is blank, short or long, and the four characters at either end of
a long one.
-/

set_option autoImplicit false

namespace EventRelay

open EventRelay.Http EventRelay.Store EventRelay.Text

/-! ## Calls of the handshake -/

theorem TenantProfile.Alike.normal {p q : TenantProfile} (h : p.Alike q)
    (settings : SetupSettings) : (settings.normalProfile p).Alike (settings.normalProfile q) where
  organization := h.organization
  label := by simp only [SetupSettings.normalProfile, h.label]
  credentials := h.credentials.trimmed
  defaultEnvironment := by simp only [SetupSettings.normalProfile, h.defaultEnvironment]

namespace Setup

variable {σ : Type} [Store σ] [Twins σ] {s t : σ}

theorem start_alike (h : Twins.Alike s t) {p q : TenantProfile} (hpq : p.Alike q)
    (settings : SetupSettings) (fresh : SetupState) (now : Timestamp) :
    SameAnswer Eq (start settings p fresh now s).1 (start settings q fresh now t).1 ∧
      Twins.Alike (start settings p fresh now s).2 (start settings q fresh now t).2 := by
  have hnormal := hpq.normal settings
  unfold start
  simp only [hnormal.credentials.isComplete]
  split
  · have hintent : SetupIntent.Alike
        ⟨fresh, settings.normalProfile p, now.plus settings.intentTtl⟩
        ⟨fresh, settings.normalProfile q, now.plus settings.intentTtl⟩ := ⟨rfl, hnormal, rfl⟩
    obtain ⟨hanswer, hstore⟩ := Twins.createIntent h hintent
    generalize createIntent _ s = x at hanswer hstore
    generalize createIntent _ t = y at hanswer hstore
    obtain ⟨_, _⟩ := x
    obtain ⟨_, _⟩ := y
    cases hanswer with
    | error e => exact ⟨.error _, hstore⟩
    | ok => exact ⟨.ok rfl, hstore⟩
  · exact ⟨.error _, h⟩

theorem complete_alike (h : Twins.Alike s t) (state installation : Option String)
    (now : Timestamp) :
    SameAnswer InstallationMapping.Alike (complete state installation now s).1
        (complete state installation now t).1 ∧
      Twins.Alike (complete state installation now s).2 (complete state installation now t).2 := by
  unfold complete
  cases state.bind SetupState.ofText? with
  | none => exact ⟨.error _, h⟩
  | some st =>
    cases installation.bind InstallationId.read? with
    | none => exact ⟨.error _, h⟩
    | some id =>
      obtain ⟨hanswer, hstore⟩ := Twins.promoteIntent st id now h
      simp only
      generalize promoteIntent st id now s = x at hanswer hstore
      generalize promoteIntent st id now t = y at hanswer hstore
      obtain ⟨a, _⟩ := x
      obtain ⟨b, _⟩ := y
      cases hanswer with
      | error e => cases e <;> exact ⟨.error _, hstore⟩
      | ok hpromotion =>
        cases hpromotion with
        | completed hmapping => exact ⟨.ok hmapping, hstore⟩
        | expired => exact ⟨.error _, hstore⟩

theorem revoke_alike (h : Twins.Alike s t) (id : InstallationId)
    (organization : Option OrganizationId) :
    SameAnswer Eq (revoke id organization s).1 (revoke id organization t).1 ∧
      Twins.Alike (revoke id organization s).2 (revoke id organization t).2 := by
  obtain ⟨hanswer, hstore⟩ := Twins.deleteMapping id organization h
  unfold revoke
  generalize deleteMapping id organization s = x at hanswer hstore
  generalize deleteMapping id organization t = y at hanswer hstore
  obtain ⟨_, _⟩ := x
  obtain ⟨_, _⟩ := y
  cases hanswer with
  | error e => cases e <;> exact ⟨.error _, hstore⟩
  | ok => exact ⟨.ok rfl, hstore⟩

end Setup

/-! ## Requests -/

def secretParameters : List String := ["ddash_auth_token", "ddash_webhook_secret"]

/-- Queries that differ in nothing but mask-equal secrets. -/
structure Query.Alike (q q' : Query) : Prop where
  secret : ∀ name ∈ secretParameters, Option.Rel MaskEqual (q.value? name) (q'.value? name)
  shown : ∀ name, name ∉ secretParameters → q.value? name = q'.value? name

theorem Query.Alike.refl (q : Query) : q.Alike q where
  secret name _ := by
    cases q.value? name with
    | none => exact .none
    | some a => exact .some (.refl a)
  shown _ _ := rfl

namespace Operator

theorem parameter_alike {q q' : Query} (h : q.Alike q') (name : String)
    (hname : name ∈ secretParameters) : MaskEqual (parameter q name) (parameter q' name) := by
  have hvalue := h.secret name hname
  unfold parameter
  generalize q.value? name = x at hvalue
  generalize q'.value? name = y at hvalue
  cases hvalue with
  | none => exact .refl _
  | some hab => exact hab.trimmed

theorem profileOfQuery_alike {d e : PublishDefaults} (h : d.Alike e) {q q' : Query}
    (hq : q.Alike q') : (profileOfQuery d q).Alike (profileOfQuery e q') := by
  have hshown : ∀ name, name ∉ secretParameters → parameter q name = parameter q' name := by
    intro name hname
    rw [parameter, parameter, hq.shown name hname]
  have hc := h.credentials
  have htoken := hc.authToken.trimmed.orFallback (parameter_alike hq "ddash_auth_token" (by decide))
  have hsecret := hc.webhookSecret.trimmed.orFallback
    (parameter_alike hq "ddash_webhook_secret" (by decide))
  constructor
  · simp only [profileOfQuery, hshown "organization_id" (by decide)]
  · simp only [profileOfQuery, hshown "organization" (by decide)]
  · simp only [profileOfQuery, hshown "ddash_endpoint" (by decide), hc.endpoint]
    exact .of_secrets _ htoken hsecret
  · simp only [profileOfQuery, hshown "default_environment" (by decide), h.defaultEnvironment]

end Operator

namespace Listener

open EventRelay.Operator

/-- Requests that differ in nothing but mask-equal secrets, be they parameters or texts in the body
that starts a setup. -/
structure RequestsAlike (routes : List (Route Endpoint)) (r r' : Request) : Prop where
  method : r.method = r'.method
  path : r.path = r'.path
  headers : r.headers = r'.headers
  query : r.query.Alike r'.query
  body : r.body = r'.body ∨ endpoint? routes r = some .startFromBody ∧
    r.body.length ≤ maxBodyOctets ∧ r'.body.length ≤ maxBodyOctets ∧
    ∃ v v', startShape.read r.body = .ok v ∧ startShape.read r'.body = .ok v' ∧
      (profileOfBody v).Alike (profileOfBody v')

/-- Listeners whose defaults differ in nothing but mask-equal secrets. What they need for webhooks
may differ as it likes. -/
structure ConfigsAlike {κ : Type} (c c' : Config κ) : Prop where
  setupToken : c.settings.setupToken = c'.settings.setupToken
  defaults : c.settings.defaults.Alike c'.settings.defaults
  setup : c.setup = c'.setup

variable {σ κ : Type} [Store σ] {routes : List (Route Endpoint)} {r r' : Request}
  {c c' : Config κ} {endpoint : Endpoint}

namespace RequestsAlike

theorem refl (routes : List (Route Endpoint)) (r : Request) : RequestsAlike routes r r where
  method := rfl
  path := rfl
  headers := rfl
  query := .refl r.query
  body := Or.inl rfl

variable (h : RequestsAlike routes r r')

include h

theorem endpoint? : Listener.endpoint? routes r = Listener.endpoint? routes r' := by
  rw [Listener.endpoint?, Listener.endpoint?, h.path, h.method]

theorem isOversized (endpoint : Endpoint) :
    Listener.isOversized endpoint r = Listener.isOversized endpoint r' := by
  rw [Listener.isOversized, Listener.isOversized]
  rcases h.body with hbody | ⟨-, hsize, hsize', -⟩
  · rw [hbody]
  · rw [decide_eq_false (Nat.not_lt.mpr hsize), decide_eq_false (Nat.not_lt.mpr hsize')]

theorem turnedAway? : Listener.turnedAway? routes r = Listener.turnedAway? routes r' := by
  simp only [Listener.turnedAway?, h.path, h.method, h.isOversized]

theorem isAuthorized (hc : ConfigsAlike c c') :
    Operator.isAuthorized c.settings r = Operator.isAuthorized c'.settings r' := by
  have htoken := h.query.shown Authorization.tokenParameter (by decide)
  simp only [Operator.isAuthorized, Authorization.grants, Authorization.presented, hc.setupToken,
    h.headers, htoken]

theorem sent (response : Response) : Listener.sent r response = Listener.sent r' response := by
  rw [Listener.sent, Listener.sent, h.method]

theorem startBody :
    (∃ e e', startShape.read r.body = .error e ∧ startShape.read r'.body = .error e') ∨
      ∃ v v', startShape.read r.body = .ok v ∧ startShape.read r'.body = .ok v' ∧
        (profileOfBody v).Alike (profileOfBody v') := by
  rcases h.body with hbody | ⟨-, -, -, hread⟩
  · rw [hbody]
    cases hread : startShape.read r'.body with
    | error e => exact Or.inl ⟨e, e, rfl, rfl⟩
    | ok v => exact Or.inr ⟨v, v, rfl, rfl, .refl _⟩
  · exact Or.inr hread

/-- Only the endpoint that starts a setup reads secrets in a body. -/
theorem body_eq (hendpoint : Listener.endpoint? routes r ≠ some .startFromBody) :
    r.body = r'.body := by
  rcases h.body with hbody | ⟨hstart, -⟩
  · exact hbody
  · exact absurd hstart hendpoint

end RequestsAlike

theorem views_alike {xs ys : List InstallationMapping}
    (h : List.Forall₂ InstallationMapping.Alike xs ys) :
    (xs.map fun m => m.view.toJson) = ys.map fun m => m.view.toJson := by
  induction h with
  | nil => rfl
  | cons hm hrest ih => rw [List.map_cons, List.map_cons, hm.view, ih]

variable [Twins σ] {s t : σ} {k k' : κ}

def Indistinct (x y : Response × σ) : Prop := x.1 = y.1 ∧ Twins.Alike x.2 y.2

theorem indistinct_of_call {α : Type} {R : α → α → Prop} {success : α → Response}
    (hsuccess : ∀ a b, R a b → success a = success b) {x y : Except SetupError α × σ}
    (h : SameAnswer R x.1 y.1 ∧ Twins.Alike x.2 y.2) :
    Indistinct (x.map (told success) id) (y.map (told success) id) := by
  obtain ⟨a, s⟩ := x
  obtain ⟨b, t⟩ := y
  obtain ⟨hanswer, hstore⟩ := h
  cases hanswer with
  | ok hab => exact ⟨hsuccess _ _ hab, hstore⟩
  | error e => exact ⟨rfl, hstore⟩

section

variable (h : RequestsAlike routes r r') (hs : Twins.Alike s t)

include h hs

theorem callback_alike (now : Timestamp) :
    Indistinct (callback now r s) (callback now r' t) := by
  have hstate := h.query.shown "state" (by decide)
  have hinstallation : installationParameter? r.query = installationParameter? r'.query := by
    simp only [installationParameter?, parameter, h.query.shown "installation_id" (by decide),
      h.query.shown "installationId" (by decide), h.query.shown "project_id" (by decide)]
  rw [callback_told, callback_told, hstate, hinstallation]
  refine indistinct_of_call (fun m n hmn => ?_) (Setup.complete_alike hs _ _ now)
  rw [hmn.view]

variable {settings settings' : ListenerSettings}
  (hauth : Operator.isAuthorized settings r = true)
  (hauth' : Operator.isAuthorized settings' r' = true)

include hauth hauth'

theorem startFromBody_alike (setup : SetupSettings) (fresh : SetupState) (now : Timestamp) :
    Indistinct (startFromBody settings setup fresh now r s)
      (startFromBody settings' setup fresh now r' t) := by
  rcases h.startBody with ⟨e, e', he, he'⟩ | ⟨v, v', hv, hv', hprofile⟩
  · rw [startFromBody_malformed hauth he, startFromBody_malformed hauth' he']
    exact ⟨rfl, hs⟩
  · rw [startFromBody_told hauth hv, startFromBody_told hauth' hv']
    exact indistinct_of_call (fun _ _ hab => by rw [hab])
      (Setup.start_alike hs hprofile setup fresh now)

theorem startFromQuery_alike (hdefaults : settings.defaults.Alike settings'.defaults)
    (setup : SetupSettings) (fresh : SetupState) (now : Timestamp) :
    Indistinct (startFromQuery settings setup fresh now r s)
      (startFromQuery settings' setup fresh now r' t) := by
  rw [startFromQuery_told hauth, startFromQuery_told hauth']
  exact indistinct_of_call (fun _ _ hab => by rw [hab])
    (Setup.start_alike hs (profileOfQuery_alike hdefaults h.query) setup fresh now)

theorem list_alike : list settings r s = list settings' r' t := by
  have hanswer := Twins.listMappings ((r'.query.value? "org_id").bind OrganizationId.read?) hs
  simp only [list, hauth, hauth', Bool.not_true, Bool.false_eq_true, if_false,
    h.query.shown "org_id" (by decide)]
  generalize listMappings _ s = x at hanswer
  generalize listMappings _ t = y at hanswer
  cases hanswer with
  | error e => rfl
  | ok hmappings => simp only [views_alike hmappings]

theorem delete_alike (hendpoint : endpoint? routes r = some .delete) :
    Indistinct (delete settings r s) (delete settings' r' t) := by
  have hbody : r.body = r'.body := h.body_eq fun hstart => by
    cases hstart.symm.trans hendpoint
  cases hread : deleteShape.read r'.body with
  | error e =>
    rw [delete_malformed hauth (hbody ▸ hread), delete_malformed hauth' hread]
    exact ⟨rfl, hs⟩
  | ok v =>
    cases hid : InstallationId.ofInt? (v.integerAt ["installation_id"]) with
    | none =>
      rw [delete_invalid hauth (hbody ▸ hread) hid, delete_invalid hauth' hread hid]
      exact ⟨rfl, hs⟩
    | some id =>
      rw [delete_told hauth (hbody ▸ hread) hid, delete_told hauth' hread hid]
      exact indistinct_of_call (fun _ _ _ => rfl) (Setup.revoke_alike hs id _)

end

section

variable (h : RequestsAlike routes r r') (hc : ConfigsAlike c c') (hs : Twins.Alike s t)

include h hc hs

theorem served_alike (hendpoint : endpoint? routes r = some endpoint) (hother : endpoint ≠ .webhook)
    (moment : Moment) (k k' : κ) :
    Indistinct (served c moment endpoint r k s) (served c' moment endpoint r' k' t) := by
  cases hauth : Operator.isAuthorized c'.settings r' with
  | false =>
    have hauth' := (h.isAuthorized hc).trans hauth
    cases endpoint with
    | webhook => exact absurd rfl hother
    | startFromBody | startFromQuery | list | delete =>
      rw [served_unauthorized hauth rfl, served_unauthorized hauth' rfl]
      exact ⟨rfl, hs⟩
    | callback =>
      rw [served_callback, served_callback]
      exact callback_alike h hs moment.now
    | health => exact ⟨rfl, hs⟩
  | true =>
    have hauth' := (h.isAuthorized hc).trans hauth
    cases endpoint with
    | webhook => exact absurd rfl hother
    | startFromBody =>
      rw [served_startFromBody, served_startFromBody, hc.setup]
      exact startFromBody_alike h hs hauth' hauth _ _ _
    | startFromQuery =>
      rw [served_startFromQuery, served_startFromQuery, hc.setup]
      exact startFromQuery_alike h hs hauth' hauth hc.defaults _ _ _
    | callback =>
      rw [served_callback, served_callback]
      exact callback_alike h hs moment.now
    | list => exact ⟨list_alike h hs hauth' hauth, hs⟩
    | delete =>
      rw [served_delete, served_delete]
      exact delete_alike h hs hauth' hauth hendpoint
    | health => exact ⟨rfl, hs⟩

theorem handle_alike (hother : endpoint? routes r ≠ some .webhook) (moment : Moment) (k k' : κ) :
    (handle routes c moment r s k).1 = (handle routes c' moment r' t k').1 ∧
      Twins.Alike (handle routes c moment r s k).2.1 (handle routes c' moment r' t k').2.1 := by
  cases hway : turnedAway? routes r with
  | some response =>
    rw [handle_turnedAway hway, handle_turnedAway (h.turnedAway?.symm.trans hway)]
    exact ⟨rfl, hs⟩
  | none =>
    obtain ⟨endpoint, hendpoint, hsize⟩ := endpoint_of_let_in hway
    have hne : endpoint ≠ .webhook := fun he => hother (he ▸ hendpoint)
    have hendpoint' := h.endpoint?.symm.trans hendpoint
    have hsize' := (h.isOversized endpoint).symm.trans hsize
    rw [handle_served hendpoint hsize hne, handle_served hendpoint' hsize' hne]
    obtain ⟨hanswer, hstore⟩ := served_alike h hc hs hendpoint hne moment k k'
    exact ⟨by rw [h.sent, hanswer], hstore⟩

end

/-! ## Runs -/

def answers (routes : List (Route Endpoint)) (c : Config κ) :
    List (Moment × Request) → σ → κ → List Response
  | [], _, _ => []
  | (moment, request) :: rest, s, k =>
    let (response, s, k) := handle routes c moment request s k
    response :: answers routes c rest s k

structure VisitsAlike (routes : List (Route Endpoint)) (v w : Moment × Request) : Prop where
  moment : v.1 = w.1
  request : RequestsAlike routes v.2 w.2
  operator : endpoint? routes v.2 ≠ some .webhook

theorem answers_alike (hc : ConfigsAlike c c') {visits visits' : List (Moment × Request)}
    (hvisits : List.Forall₂ (VisitsAlike routes) visits visits') (hs : Twins.Alike s t) :
    answers routes c visits s k = answers routes c' visits' t k' := by
  induction hvisits generalizing s t k k' with
  | nil => rfl
  | @cons v w visits visits' hvw _ ih =>
    obtain ⟨moment, r⟩ := v
    obtain ⟨_, r'⟩ := w
    obtain ⟨rfl, hrequest, hother⟩ := hvw
    obtain ⟨hanswer, hstore⟩ := handle_alike hrequest hc hs hother moment k k'
    simp only [answers, hanswer]
    exact congrArg _ (ih hstore)

/-- Operators cannot tell mask-equal secrets apart, whatever they ask for, nor can those who read
the listings. -/
theorem secrets_do_not_show (hc : ConfigsAlike c c') {visits visits' : List (Moment × Request)}
    (hvisits : List.Forall₂ (VisitsAlike routes) visits visits') (k k' : κ) :
    (∀ s t : MemoryStore, s.Alike t →
      answers routes c visits s k = answers routes c' visits' t k') ∧
    (∀ s t : RowStore, s.Alike t →
      answers routes c visits s k = answers routes c' visits' t k') ∧
    (∀ a b : PublishCredentials, a.Alike b → a.listing = b.listing) ∧
    (∀ p q : TenantProfile, p.Alike q → p.listing = q.listing) ∧
    ∀ l m : ListenerSettings, l.Alike m → l.listing = m.listing :=
  ⟨fun _ _ hs => answers_alike hc hvisits hs, fun _ _ hs => answers_alike hc hvisits hs,
    fun _ _ h => h.listing, fun _ _ h => h.listing, fun _ _ h => h.listing⟩

def tokenConfig (token : String) : Config Nat where
  settings :=
    { provider := .github
      webhookPath := "/webhooks/github"
      webhookSecret := token
      defaults := { credentials := ⟨"https://dash", token, token⟩ } }
  setup := {}
  sink := ⟨fun _ _ n => (.ok (), n + 1)⟩

def tokenStore (token : String) : MemoryStore :=
  { mappings := [⟨⟨3⟩, { credentials := ⟨"https://dash", token, token⟩ }, true⟩] }

def operatorVisit (method path : String) (query : Query) : Moment × Request :=
  (⟨⟨8, 0, by decide⟩, ⟨"t"⟩, ""⟩, ⟨method, path, query, [], []⟩)

def tokenTour (token : String) : List (Moment × Request) :=
  [operatorVisit "GET" startPath [("ddash_auth_token", token)],
    operatorVisit "GET" defaultCallbackPath [("state", "t"), ("installation_id", "7")],
    operatorVisit "GET" mappingsPath []]

theorem tokens_look_alike :
    MaskEqual "alpha-token-omega" " alpha by and by omega " ∧
    answers strangerRoutes (tokenConfig "alpha-token-omega") (tokenTour "alpha-token-omega")
        (tokenStore "alpha-token-omega") 0 =
      answers strangerRoutes (tokenConfig " alpha by and by omega ")
        (tokenTour " alpha by and by omega ") (tokenStore " alpha by and by omega ") 0 ∧
    (answers strangerRoutes (tokenConfig "alpha-token-omega") (tokenTour "alpha-token-omega")
      (tokenStore "alpha-token-omega") 0).map Response.status = [302, 200, 200] := by
  have htoken : MaskEqual "alpha-token-omega" " alpha by and by omega " :=
    maskEqual_iff.mpr (by decide +kernel)
  have hconfig : ConfigsAlike (tokenConfig "alpha-token-omega")
      (tokenConfig " alpha by and by omega ") := ⟨rfl, ⟨⟨rfl, htoken, htoken⟩, rfl⟩, rfl⟩
  have hquery : Query.Alike [("ddash_auth_token", "alpha-token-omega")]
      [("ddash_auth_token", " alpha by and by omega ")] := by
    constructor
    · intro name hname
      rcases List.mem_pair.mp hname with rfl | rfl
      · exact .some htoken
      · exact .none
    · intro name hname
      have hne : name ≠ "ddash_auth_token" := fun h => hname (h ▸ List.mem_cons_self)
      simp [Query.value?, hne]
  have htour : List.Forall₂ (VisitsAlike strangerRoutes) (tokenTour "alpha-token-omega")
      (tokenTour " alpha by and by omega ") :=
    .cons ⟨rfl, ⟨rfl, rfl, rfl, hquery, Or.inl rfl⟩, by decide +kernel⟩
      (.cons ⟨rfl, .refl _ _, by decide +kernel⟩ (.cons ⟨rfl, .refl _ _, by decide +kernel⟩ .nil))
  have hstore : (tokenStore "alpha-token-omega").Alike (tokenStore " alpha by and by omega ") :=
    ⟨.nil, .cons ⟨rfl, ⟨rfl, rfl, ⟨rfl, htoken, htoken⟩, rfl⟩, rfl⟩ .nil⟩
  exact ⟨htoken, (secrets_do_not_show hconfig htour 0 0).1 _ _ hstore, by decide +kernel⟩

end Listener

end EventRelay
