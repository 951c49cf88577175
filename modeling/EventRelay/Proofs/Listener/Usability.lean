import EventRelay.Proofs.Listener.Answer
import EventRelay.Proofs.Listener.Publication
import Mathlib

/-!
# Profiles that can be used

A profile reaches a store only through the start of a setup, which trims its
texts, fills its environment in and turns it away when one of its three
credentials is blank. The callback moves it to a mapping as it is. So over
every run of requests all that is kept can be used: the credentials of each
mapping are complete, and no delivery of a mapped installation is ignored for
want of them. Rows that were put into the tables by others are not covered.
-/

set_option autoImplicit false

namespace EventRelay

open EventRelay.Http EventRelay.Store EventRelay.Text

/-! ## Profiles -/

def Text.IsTrimmed (s : String) : Prop := trimmed s = s

theorem Text.isTrimmed_trimmed (s : String) : IsTrimmed (trimmed s) := trimmed_trimmed s

theorem Text.isTrimmed_orFallback {fallback : String} (h : IsTrimmed fallback) (s : String) :
    IsTrimmed (orFallback fallback s) := by
  unfold orFallback
  simp only
  split
  · exact h
  · exact isTrimmed_trimmed s

/-- Endpoint, token and secret are not blank, and nothing is to be trimmed off them. -/
def PublishCredentials.Usable (c : PublishCredentials) : Prop :=
  ∀ s ∈ [c.endpoint, c.authToken, c.webhookSecret], isBlankText s = false ∧ IsTrimmed s

structure TenantProfile.Usable (p : TenantProfile) : Prop where
  organization : ∀ o ∈ p.organization, 0 < o.number
  label : IsTrimmed p.label
  credentials : p.credentials.Usable
  defaultEnvironment : IsTrimmed p.defaultEnvironment

structure InstallationMapping.Usable (x : InstallationMapping) : Prop where
  installation : 0 < x.installation.number
  profile : x.profile.Usable
  enabled : x.enabled = true

namespace PublishCredentials

theorem isComplete_iff (c : PublishCredentials) :
    c.isComplete = true ↔
      ∀ s ∈ [c.endpoint, c.authToken, c.webhookSecret], isBlankText s = false := by
  simp [isComplete, and_assoc]

theorem Usable.isComplete {c : PublishCredentials} (h : c.Usable) : c.isComplete = true :=
  c.isComplete_iff.mpr fun s hs => (h s hs).1

theorem usable_trimmed {c : PublishCredentials} (h : c.trimmed.isComplete = true) :
    c.trimmed.Usable := by
  intro s hs
  refine ⟨c.trimmed.isComplete_iff.mp h s hs, ?_⟩
  have htrimmed : ∀ t ∈ [c.trimmed.endpoint, c.trimmed.authToken, c.trimmed.webhookSecret],
      IsTrimmed t := by
    simp only [List.forall_mem_cons]
    exact ⟨isTrimmed_trimmed _, isTrimmed_trimmed _, isTrimmed_trimmed _, nofun⟩
  exact htrimmed s hs

end PublishCredentials

theorem SetupSettings.normalProfile_usable {settings : SetupSettings} {p : TenantProfile}
    (hp : p.Proper) (h : (settings.normalProfile p).credentials.isComplete = true) :
    (settings.normalProfile p).Usable where
  organization := hp
  label := isTrimmed_trimmed p.label
  credentials := PublishCredentials.usable_trimmed h
  defaultEnvironment := isTrimmed_orFallback (isTrimmed_trimmed _) _

theorem Setup.start_complete {σ : Type} [Store σ] {s : σ} {settings : SetupSettings}
    {request : TenantProfile} {fresh : SetupState}
    {now : Timestamp} {started : SetupStarted}
    (h : (start settings request fresh now s).1 = .ok started) :
    (settings.normalProfile request).credentials.isComplete = true := by
  unfold start at h
  simp only at h
  split at h
  · assumption
  · cases h

theorem SetupIntent.mapping_usable {i : SetupIntent} {id : InstallationId}
    (hi : i.profile.Usable) (hid : id.Proper) : (i.mapping id).Usable := ⟨hid, hi, rfl⟩

/-! ## Stores -/

namespace MemoryStore

structure Usable (m : MemoryStore) : Prop where
  intents : ∀ i ∈ m.intents, i.profile.Usable
  mappings : ∀ x ∈ m.mappings, x.Usable

variable {m : MemoryStore}

theorem usable_empty : Usable {} where
  intents _ hi := absurd hi List.not_mem_nil
  mappings _ hx := absurd hx List.not_mem_nil

theorem Usable.withIntent (h : m.Usable) {i : SetupIntent} (hi : i.profile.Usable) :
    Usable { m with intents := m.intents ++ [i] } where
  intents j hj := by
    rcases List.mem_append.mp hj with hj | hj
    · exact h.intents j hj
    · rw [List.mem_singleton.mp hj]
      exact hi
  mappings := h.mappings

theorem Usable.withoutIntent (h : m.Usable) (state : SetupState) :
    (m.withoutIntent state).Usable where
  intents i hi := h.intents i (List.mem_filter.mp hi).1
  mappings := h.mappings

theorem Usable.withMapping (h : m.Usable) {x : InstallationMapping} (hx : x.Usable) :
    (m.withMapping x).Usable where
  intents := h.intents
  mappings y hy := by
    rcases Table.mem_put hy with rfl | hy
    · exact hx
    · exact h.mappings y hy

theorem Usable.withoutMapping (h : m.Usable) (id : InstallationId) :
    (m.withoutMapping id).Usable where
  intents := h.intents
  mappings y hy := h.mappings y (Table.mem_drop.mp hy).1

end MemoryStore

/-- Each row is that of a usable value, which is read back from it. -/
structure RowStore.Usable (s : RowStore) : Prop where
  intents : ∀ r ∈ s.intents, ∃ i, r = .ofIntent i ∧ r.intent = .ok i ∧ i.profile.Usable
  mappings : ∀ r ∈ s.mappings, ∃ x, r = .ofMapping x ∧ r.mapping = .ok x ∧ x.Usable

theorem RowStore.usable_of_shows {s : RowStore} {m : MemoryStore} (hs : Mirror.Shows s m)
    (h : m.Usable) : s.Usable := by
  obtain ⟨rfl, hsound, hwhole⟩ := hs
  constructor
  · intro r hr
    obtain ⟨i, hi, rfl⟩ := List.mem_map.mp hr
    refine ⟨i, rfl, ?_, h.intents i hi⟩
    rw [IntentRow.intent_ofIntent (hsound.intents i hi), hwhole i hi]
  · intro r hr
    obtain ⟨x, hx, rfl⟩ := List.mem_map.mp hr
    exact ⟨x, rfl, MappingRow.mapping_ofMapping (hsound.mappings x hx), h.mappings x hx⟩

section Mirrored

open Mirror

variable {σ : Type} [Store σ] [Mirror σ] {s : σ} {m : MemoryStore}

def ShowsUsable (s : σ) : Prop := ∃ m, Shows s m ∧ m.Usable

/-! ## The handshake -/

namespace Setup

theorem start_usable (hs : ShowsUsable s) (settings : SetupSettings) {request : TenantProfile}
    {fresh : SetupState} (hr : request.Proper) (hf : fresh.Proper) (now : Timestamp) :
    ShowsUsable (start settings request fresh now s).2 := by
  obtain ⟨m, hm, h⟩ := hs
  rcases @start_shows σ _ s _ m hm settings request fresh hr hf now with
    ⟨started, deadline, hok, -, -, hshows⟩ | ⟨-, hshows⟩
  · have hprofile := SetupSettings.normalProfile_usable hr (start_complete hok)
    exact ⟨_, hshows, h.withIntent hprofile⟩
  · exact ⟨m, hshows, h⟩

theorem complete_usable (hs : ShowsUsable s) (state installation : Option String)
    (now : Timestamp) : ShowsUsable (complete state installation now s).2 := by
  obtain ⟨m, hm, h⟩ := hs
  obtain ⟨m', hcompletion, hshows⟩ := complete_shows hm state installation now
  refine ⟨m', hshows, ?_⟩
  generalize (complete state installation now s).1 = answer at hcompletion
  cases hcompletion with
  | refused _ => exact h
  | expired _ _ _ _ => exact h.withoutIntent _
  | completed _ hid hi _ =>
    obtain ⟨raw, -, hraw⟩ := Option.bind_eq_some_iff.mp hid
    have hprofile := h.intents _ (MemoryStore.mem_of_intent? hi).1
    have hmapping := SetupIntent.mapping_usable hprofile (InstallationId.read?_proper hraw)
    exact (h.withoutIntent _).withMapping hmapping

theorem revoke_usable (hs : ShowsUsable s) (id : InstallationId)
    (organization : Option OrganizationId) : ShowsUsable (revoke id organization s).2 := by
  obtain ⟨m, hm, h⟩ := hs
  rcases revoke_shows hm id organization with ⟨-, hshows⟩ | ⟨-, hshows⟩
  · exact ⟨_, hshows, h.withoutMapping id⟩
  · exact ⟨m, hshows, h⟩

end Setup

/-! ## Requests -/

namespace Operator

theorem profileOfBody_proper (v : Json) : (profileOfBody v).Proper := by
  intro o ho
  simp only [profileOfBody, organizationAt] at ho
  split at ho
  · exact OrganizationId.ofInt?_proper ho
  · cases ho

theorem profileOfQuery_proper (d : PublishDefaults) (q : Query) : (profileOfQuery d q).Proper := by
  intro o ho
  simp only [profileOfQuery] at ho
  exact OrganizationId.read?_proper ho

variable (settings : ListenerSettings) (request : Request)

theorem startFromBody_usable (hs : ShowsUsable s) (setup : SetupSettings) {fresh : SetupState}
    (hf : fresh.Proper) (now : Timestamp) :
    ShowsUsable (startFromBody settings setup fresh now request s).2 := by
  cases hauth : isAuthorized settings request with
  | false =>
    simp only [startFromBody, hauth, Bool.not_false, if_true]
    exact hs
  | true =>
    cases hread : startShape.read request.body with
    | error e =>
      rw [startFromBody_malformed hauth hread]
      exact hs
    | ok v =>
      rw [startFromBody_told hauth hread, Prod.map_snd, id_eq]
      exact Setup.start_usable hs setup (profileOfBody_proper v) hf now

theorem startFromQuery_usable (hs : ShowsUsable s) (setup : SetupSettings) {fresh : SetupState}
    (hf : fresh.Proper) (now : Timestamp) :
    ShowsUsable (startFromQuery settings setup fresh now request s).2 := by
  cases hauth : isAuthorized settings request with
  | false =>
    simp only [startFromQuery, hauth, Bool.not_false, if_true]
    exact hs
  | true =>
    rw [startFromQuery_told hauth, Prod.map_snd, id_eq]
    exact Setup.start_usable hs setup (profileOfQuery_proper settings.defaults request.query) hf now

theorem delete_usable (hs : ShowsUsable s) : ShowsUsable (delete settings request s).2 := by
  cases hauth : isAuthorized settings request with
  | false =>
    simp only [delete, hauth, Bool.not_false, if_true]
    exact hs
  | true =>
    cases hread : deleteShape.read request.body with
    | error e =>
      rw [delete_malformed hauth hread]
      exact hs
    | ok v =>
      cases hid : InstallationId.ofInt? (v.integerAt ["installation_id"]) with
      | none =>
        rw [delete_invalid hauth hread hid]
        exact hs
      | some id =>
        rw [delete_told hauth hread hid, Prod.map_snd, id_eq]
        exact Setup.revoke_usable hs id _

end Operator

namespace Listener

variable {κ : Type} (routes : List (Route Endpoint)) (c : Config κ) {moment : Moment}

theorem served_usable (hs : ShowsUsable s) (hf : moment.fresh.Proper) (endpoint : Endpoint)
    (request : Request) (k : κ) : ShowsUsable (served c moment endpoint request k s).2 := by
  cases endpoint with
  | webhook | list | health => exact hs
  | startFromBody =>
    rw [served_startFromBody]
    exact Operator.startFromBody_usable c.settings request hs c.setup hf moment.now
  | startFromQuery =>
    rw [served_startFromQuery]
    exact Operator.startFromQuery_usable c.settings request hs c.setup hf moment.now
  | callback =>
    rw [served_callback, Operator.callback_told, Prod.map_snd, id_eq]
    exact Setup.complete_usable hs _ _ moment.now
  | delete =>
    rw [served_delete]
    exact Operator.delete_usable c.settings request hs

theorem handle_usable (hs : ShowsUsable s) (hf : moment.fresh.Proper) (request : Request)
    (k : κ) : ShowsUsable (handle routes c moment request s k).2.1 := by
  rcases handle_store routes c moment request s k with hstore | ⟨endpoint, -, hstore⟩
  · rw [hstore]
    exact hs
  · rw [hstore]
    exact served_usable c hs hf endpoint request k

theorem afterAll_usable (hs : ShowsUsable s) {visits : List (Moment × Request)}
    (hfresh : ∀ visit ∈ visits, visit.1.fresh.Proper) (k : κ) :
    ShowsUsable (afterAll routes c visits s k).1 := by
  induction visits generalizing s k with
  | nil => exact hs
  | cons visit rest ih =>
    have hstep := handle_usable routes c hs (hfresh visit List.mem_cons_self) visit.2 k
    exact ih hstep (fun v hv => hfresh v (List.mem_cons_of_mem visit hv)) _

end Listener

/-! ## Deliveries -/

def Lists (x : InstallationMapping) (s : σ) : Prop := ∃ xs, listMappings none s = .ok xs ∧ x ∈ xs

/-- Every mapping of the store serves the installation that it is of. -/
structure ServesMapped (s : σ) : Prop where
  target : ∀ x (d : PublishDefaults), Lists x s →
    ∃ t, PublishTarget.find (some x.installation) d s = .ok t ∧ t.mapped = true ∧
      t.credentials = x.profile.credentials ∧ t.credentials.isComplete = true
  delivery : ∀ x (settings : ListenerSettings) (request : Request), Lists x s →
    settings.provider.installationId? request.body = some x.installation →
    ∀ {κ : Type} (sink : Sink κ) (stamp : Stamp) (k : κ),
      (Webhook.answer settings sink stamp request s k).1 = Webhook.ignored →
      ∃ t, Webhook.target settings request s = .ok t ∧
        t.credentials = x.profile.credentials ∧ Webhook.events settings request t = .ok []

theorem find_of_lists (hs : ShowsUsable s) {x : InstallationMapping} (hx : Lists x s)
    (d : PublishDefaults) :
    PublishTarget.find (some x.installation) d s = .ok (.ofMapping d x) ∧ x.Usable := by
  obtain ⟨m, hm, h⟩ := hs
  obtain ⟨xs, hlist, hmem⟩ := hx
  rw [listMappings_eq hm] at hlist
  cases hlist
  have hmapping : m.mapping? x.installation = some x :=
    (sound hm).ascending.find?_eq_some_iff.mpr ⟨hmem, rfl⟩
  have husable := h.mappings x hmem
  refine ⟨?_, husable⟩
  simp only [PublishTarget.find, getMapping_eq hm, hmapping, MemoryStore.orNotFound,
    husable.enabled, if_true]

theorem servesMapped_of_showsUsable (hs : ShowsUsable s) : ServesMapped s where
  target x d hx := by
    obtain ⟨hfind, husable⟩ := find_of_lists hs hx d
    exact ⟨_, hfind, rfl, rfl, husable.profile.credentials.isComplete⟩
  delivery x settings request hx hid κ sink stamp k hanswer := by
    obtain ⟨hfind, husable⟩ := find_of_lists hs hx settings.defaults
    have htarget : Webhook.target settings request s = .ok (.ofMapping settings.defaults x) := by
      rw [Webhook.target, hid, hfind]
    refine ⟨_, htarget, rfl, ?_⟩
    obtain ⟨course, htakes, hrun⟩ := Webhook.exists_course settings stamp request s
    rw [hrun] at hanswer
    rcases htakes.of_ignored sink k hanswer with ⟨t, ht, hincomplete⟩ | ⟨t, ht, hevents⟩
    · cases ht.symm.trans htarget
      have hcomplete := husable.profile.credentials.isComplete
      cases hincomplete.symm.trans hcomplete
    · cases ht.symm.trans htarget
      exact hevents

end Mirrored

/-- Over every run of requests from an empty store of either kind, all that is kept can be used,
and the mappings serve their installations. Fresh states are proper, as those are that random
octets make. -/
theorem stored_profiles_usable {κ : Type} (routes : List (Route Listener.Endpoint))
    (c : Listener.Config κ) {visits : List (Listener.Moment × Request)}
    (hfresh : ∀ visit ∈ visits, visit.1.fresh.Proper) (k : κ) :
    (Listener.afterAll routes c visits ({} : MemoryStore) k).1.Usable ∧
      ServesMapped (Listener.afterAll routes c visits ({} : MemoryStore) k).1 ∧
      (Listener.afterAll routes c visits ({} : RowStore) k).1.Usable ∧
      ServesMapped (Listener.afterAll routes c visits ({} : RowStore) k).1 := by
  have hmemory : ShowsUsable ({} : MemoryStore) := ⟨{}, memory_shows, MemoryStore.usable_empty⟩
  have hrows : ShowsUsable ({} : RowStore) :=
    ⟨{}, RowStore.empty_shows, MemoryStore.usable_empty⟩
  have hmemory' := Listener.afterAll_usable routes c hmemory hfresh k
  have hrows' := Listener.afterAll_usable routes c hrows hfresh k
  obtain ⟨m, ⟨hshown, -⟩, husable⟩ := id hmemory'
  obtain ⟨n, hshows, husable'⟩ := id hrows'
  refine ⟨?_, servesMapped_of_showsUsable hmemory', RowStore.usable_of_shows hshows husable',
    servesMapped_of_showsUsable hrows'⟩
  rw [hshown]
  exact husable

def onboardingConfig : Listener.Config Nat where
  settings :=
    { provider := .github
      webhookPath := "/webhooks/github"
      webhookSecret := "hook"
      defaults := { credentials := ⟨"https://home", " home-token ", "home-secret"⟩ } }
  setup := {}
  sink := ⟨fun _ _ n => (.ok (), n + 1)⟩

def onboardingRoutes : List (Route Listener.Endpoint) :=
  (Listener.routes? "/webhooks/github" defaultCallbackPath).getD []

def onboardingVisit (path : String) (query : Query) : Listener.Moment × Request :=
  (⟨.epoch, ⟨"s"⟩, ""⟩,
    { method := "GET", path := path, query := query, headers := [], body := [] })

def onboarding : List (Listener.Moment × Request) :=
  [onboardingVisit "/setup/start"
      [("ddash_endpoint", " https://tenant "), ("ddash_auth_token", " "),
        ("ddash_webhook_secret", "tenant-secret")],
    onboardingVisit "/setup/callback" [("state", "s"), ("project_id", " 7 ")]]

def onboarded : RowStore :=
  (Listener.afterAll onboardingRoutes onboardingConfig onboarding ({} : RowStore) 0).1

theorem onboarded_usable :
    onboarded.Usable ∧ ∃ t, PublishTarget.find (some ⟨7⟩) {} onboarded = .ok t ∧
      t.mapped = true ∧ t.credentials = ⟨"https://tenant", "home-token", "tenant-secret"⟩ ∧
      t.credentials.isComplete = true := by
  have hfresh : ∀ visit ∈ onboarding, visit.1.fresh.Proper := by
    have hstate : SetupState.ofText? "s" = some ⟨"s"⟩ := by decide
    intro visit hvisit
    rcases List.mem_pair.mp hvisit with rfl | rfl <;> exact hstate
  obtain ⟨-, -, husable, hserves⟩ :=
    stored_profiles_usable onboardingRoutes onboardingConfig hfresh 0
  refine ⟨husable, ?_⟩
  have hlisted : Lists ⟨⟨7⟩,
      { credentials := ⟨"https://tenant", "home-token", "tenant-secret"⟩ }, true⟩ onboarded :=
    ⟨_, by rfl, List.mem_cons_self⟩
  exact hserves.target _ {} hlisted

end EventRelay
