import EventRelay.Proofs.Listener.Publication
import EventRelay.Proofs.Setup.Handshake
import EventRelay.Proofs.Store.Rows
import EventRelay.Store.Choice
import Mathlib

/-!
# Whose credentials a delivery is published with

Setups are started and completed, mappings are put and revoked, deliveries
come in; the history of a listener pairs each of these acts with its outcome.
What stands for an installation is what the last event about it told. A
delivery is published with the credentials of the enabled mapping that stands
for its own installation, taken whole, and otherwise with the defaults. What
is done about other installations does not matter to it.
-/

set_option autoImplicit false

namespace EventRelay.Routing

open EventRelay.Http EventRelay.Store EventRelay.Webhook

inductive Act where
  | start (request : TenantProfile) (octets : Vector UInt8 16) (now : Timestamp)
  | callback (query : Query) (now : Timestamp)
  | upsert (mapping : InstallationMapping)
  | revoke (id : InstallationId) (organization : Option OrganizationId)
  | delivery (request : Request) (stamp : Stamp)

inductive Outcome where
  | started (answer : Except SetupError SetupStarted)
  | completed (answer : Except SetupError InstallationMapping)
  | upserted (answer : Except StoreError Unit)
  | revoked (answer : Except SetupError Unit)
  | answered (response : Response) (calls : List Call)

def Act.Proper : Act → Prop
  | .start request _ _ => request.Proper
  | .upsert mapping => mapping.Proper
  | _ => True

instance : (act : Act) → Decidable act.Proper
  | .start request _ _ => inferInstanceAs (Decidable request.Proper)
  | .upsert mapping => inferInstanceAs (Decidable mapping.Proper)
  | .callback _ _ | .revoke _ _ | .delivery _ _ => isTrue trivial

def Act.Concerns (id : InstallationId) : Act → Prop
  | .upsert mapping => mapping.installation = id
  | .revoke i _ => i = id
  | .callback query _ =>
    (Operator.installationParameter? query).bind InstallationId.read? = some id
  | _ => False

section

variable {σ κ : Type} [Store σ]

def step (c : Listener.Config κ) (act : Act) (s : σ) (k : κ) : Outcome × σ × κ :=
  match act with
  | .start request octets now =>
    let (answer, s) := Setup.start c.setup request (.ofOctets octets) now s
    (.started answer, s, k)
  | .callback query now =>
    let (answer, s) :=
      Setup.complete (query.value? "state") (Operator.installationParameter? query) now s
    (.completed answer, s, k)
  | .upsert mapping =>
    let (answer, s) := upsertMapping mapping s
    (.upserted answer, s, k)
  | .revoke id organization =>
    let (answer, s) := Setup.revoke id organization s
    (.revoked answer, s, k)
  | .delivery request stamp =>
    let (response, k, calls) := answer c.settings c.sink.recorded stamp request s (k, [])
    (.answered response calls, s, k)

def after (c : Listener.Config κ) : List Act → σ → κ → σ × κ
  | [], s, k => (s, k)
  | act :: rest, s, k => after c rest (step c act s k).2.1 (step c act s k).2.2

def history (c : Listener.Config κ) : List Act → σ → κ → List (Act × Outcome)
  | [], _, _ => []
  | act :: rest, s, k =>
    (act, (step c act s k).1) :: history c rest (step c act s k).2.1 (step c act s k).2.2

end

/-! ## What a history tells -/

/-- What an event tells of an installation: its mapping, or that it has none. Only what succeeds
tells anything. -/
def told? (id : InstallationId) : Act × Outcome → Option (Option InstallationMapping)
  | (.upsert mapping, .upserted (.ok ())) =>
    if mapping.installation = id then some (some mapping) else none
  | (.callback _ _, .completed (.ok mapping)) =>
    if mapping.installation = id then some (some mapping) else none
  | (.revoke i _, .revoked (.ok ())) => if i = id then some none else none
  | _ => none

/-- The mapping that the last event about an installation leaves it with. -/
def standing? (id : InstallationId) (events : List (Act × Outcome)) : Option InstallationMapping :=
  (events.reverse.findSome? (told? id)).join

def startedUnder? (state : SetupState) : Act × Outcome → Option TenantProfile
  | (.start request _ _, .started (.ok started)) =>
    if started.state = state then some request else none
  | _ => none

def lastStarted? (state : SetupState) (events : List (Act × Outcome)) : Option TenantProfile :=
  events.reverse.findSome? (startedUnder? state)

/-- The mapping that applies to a delivery: the one that stands for its installation, if that is
enabled. -/
def applying? (id : Option InstallationId) (events : List (Act × Outcome)) :
    Option InstallationMapping :=
  (id.bind fun id => standing? id events).filter InstallationMapping.enabled

/-- The target of the mapping that applies, or else of the defaults. -/
def entitled (d : PublishDefaults) (mapping : Option InstallationMapping) : PublishTarget :=
  mapping.elim (.ofDefaults d) (.ofMapping d)

/-- The calls that a delivery makes, after a history. -/
structure Routed (settings : ListenerSettings) (request : Request) (events : List (Act × Outcome))
    (calls : List Call) : Prop where
  credentials : ∀ call ∈ calls, call.credentials =
    (applying? (settings.provider.installationId? request.body) events).elim
      settings.defaults.credentials fun mapping => mapping.profile.credentials
  called_iff : calls ≠ [] ↔ Sends settings request (entitled settings.defaults
    (applying? (settings.provider.installationId? request.body) events))

/-- What a listener that starts with an empty store keeps to. -/
structure Routes {σ κ : Type} [Store σ] (c : Listener.Config κ) (empty : σ) : Prop where
  routed : ∀ acts request stamp k k', (∀ act ∈ acts, act.Proper) →
    Routed c.settings request (history c acts empty k)
      (answer c.settings c.sink.recorded stamp request (after c acts empty k).1 (k', [])).2.2
  bound : ∀ acts query now k mapping, (∀ act ∈ acts, act.Proper) →
    (step c (.callback query now) (after c acts empty k).1 k).1 = .completed (.ok mapping) →
    ∃ state id request, (query.value? "state").bind SetupState.ofText? = some state ∧
      (Operator.installationParameter? query).bind InstallationId.read? = some id ∧
      lastStarted? state (history c acts empty k) = some request ∧
      mapping = ⟨id, c.setup.normalProfile request, true⟩
  silent : ∀ acts act id k k', (∀ act ∈ acts, act.Proper) → ¬ act.Concerns id →
    told? id (act, (step c act (after c acts empty k).1 k').1) = none
  isolated : ∀ acts acts' request stamp id k₁ k₂ k', (∀ act ∈ acts, act.Proper) →
    (∀ act ∈ acts', act.Proper) → c.settings.provider.installationId? request.body = some id →
    (history c acts empty k₁).filterMap (told? id) =
      (history c acts' empty k₂).filterMap (told? id) →
    answer c.settings c.sink.recorded stamp request (after c acts empty k₁).1 (k', []) =
      answer c.settings c.sink.recorded stamp request (after c acts' empty k₂).1 (k', [])

theorem standing?_concat (id : InstallationId) (events : List (Act × Outcome)) (e : Act × Outcome) :
    standing? id (events ++ [e]) = (told? id e).getD (standing? id events) :=
  join_findSome?_reverse_concat (told? id) events e

theorem lastStarted?_concat (state : SetupState) (events : List (Act × Outcome))
    (e : Act × Outcome) :
    lastStarted? state (events ++ [e]) = (startedUnder? state e).or (lastStarted? state events) :=
  findSome?_reverse_concat (startedUnder? state) events e

/-- What stands depends on nothing but what was told. -/
theorem standing?_congr {id : InstallationId} {events events' : List (Act × Outcome)}
    (h : events.filterMap (told? id) = events'.filterMap (told? id)) :
    standing? id events = standing? id events' := by
  have hhead : ∀ l : List (Act × Outcome), l.reverse.findSome? (told? id) =
      (l.filterMap (told? id)).reverse.head? := fun l => by
    rw [← List.head?_filterMap, List.filterMap_reverse]
  rw [standing?, standing?, hhead, hhead, h]

theorem credentials_entitled (d : PublishDefaults) (mapping : Option InstallationMapping) :
    (entitled d mapping).credentials =
      mapping.elim d.credentials fun mapping => mapping.profile.credentials := by
  cases mapping <;> rfl

/-! ## What the store remembers -/

/-- The store in memory holds what the history tells. -/
structure Remembers (setup : SetupSettings) (events : List (Act × Outcome)) (m : MemoryStore) :
    Prop where
  mappings : ∀ id, m.mapping? id = standing? id events
  intents : ∀ i ∈ m.intents, ∃ request,
    lastStarted? i.state events = some request ∧ i.profile = setup.normalProfile request

namespace Remembers

variable {setup : SetupSettings} {events : List (Act × Outcome)} {m m' : MemoryStore}
  {e : Act × Outcome}

theorem nothing (setup : SetupSettings) : Remembers setup [] {} where
  mappings _ := rfl
  intents _ hi := absurd hi List.not_mem_nil

theorem of_told (h : Remembers setup events m) (hstart : ∀ state, startedUnder? state e = none)
    (hintents : ∀ i ∈ m'.intents, i ∈ m.intents)
    (hmappings : ∀ id, m'.mapping? id = (told? id e).getD (m.mapping? id)) :
    Remembers setup (events ++ [e]) m' where
  mappings id := by
    rw [standing?_concat, hmappings id, h.mappings id]
  intents i hi := by
    rw [lastStarted?_concat, hstart i.state, Option.none_or]
    exact h.intents i (hintents i hi)

theorem unchanged (h : Remembers setup events m) (hstart : ∀ state, startedUnder? state e = none)
    (htold : ∀ id, told? id e = none) : Remembers setup (events ++ [e]) m := by
  apply h.of_told hstart (fun _ hi => hi)
  intro id
  rw [htold id, Option.getD_none]

theorem created (h : Remembers setup events m) {request : TenantProfile}
    {octets : Vector UInt8 16} {now deadline : Timestamp} {started : SetupStarted}
    (hfree : m.intent? started.state = none) :
    Remembers setup (events ++ [(.start request octets now, .started (.ok started))])
      { m with
        intents := m.intents ++ [⟨started.state, setup.normalProfile request, deadline⟩] } where
  mappings id := by
    rw [standing?_concat]
    exact h.mappings id
  intents i hi := by
    rw [lastStarted?_concat, startedUnder?]
    rcases List.mem_append.mp hi with hi | hi
    · have hother := MemoryStore.intent?_eq_none_iff.mp hfree i hi
      rw [if_neg (Ne.symm hother), Option.none_or]
      exact h.intents i hi
    · rw [List.mem_singleton.mp hi, if_pos rfl, Option.some_or]
      exact ⟨request, rfl, rfl⟩

end Remembers

section Mirrored

open Mirror

variable {σ κ : Type} [Store σ] [Mirror σ] {c : Listener.Config κ} {s : σ} {m : MemoryStore}
  {events : List (Act × Outcome)}

theorem start_remembers (hs : Shows s m) (h : Remembers c.setup events m)
    {request : TenantProfile} (hr : request.Proper) (octets : Vector UInt8 16) (now : Timestamp)
    (k : κ) :
    ∃ m', Shows (step c (.start request octets now) s k).2.1 m' ∧
      Remembers c.setup
        (events ++ [(.start request octets now, (step c (.start request octets now) s k).1)])
        m' := by
  simp only [step]
  rcases Setup.start_shows hs hr (SetupState.ofOctets_proper octets) now with
    ⟨started, deadline, hok, hstate, hfree, hshows⟩ | ⟨⟨e, herror⟩, hshows⟩
  · refine ⟨_, hshows, ?_⟩
    rw [hok, ← hstate]
    rw [← hstate] at hfree
    exact h.created hfree
  · refine ⟨m, hshows, ?_⟩
    rw [herror]
    exact h.unchanged (fun _ => rfl) fun _ => rfl

theorem callback_remembers (hs : Shows s m) (h : Remembers c.setup events m) (query : Query)
    (now : Timestamp) (k : κ) :
    ∃ m', Shows (step c (.callback query now) s k).2.1 m' ∧
      Remembers c.setup
        (events ++ [(.callback query now, (step c (.callback query now) s k).1)]) m' := by
  simp only [step]
  obtain ⟨m', hcompletion, hshows⟩ := Setup.complete_shows hs (query.value? "state")
    (Operator.installationParameter? query) now
  refine ⟨m', hshows, ?_⟩
  generalize (Setup.complete _ _ now s).1 = answer at hcompletion ⊢
  cases hcompletion with
  | refused _ => exact h.unchanged (fun _ => rfl) fun _ => rfl
  | expired _ _ _ _ =>
    exact h.of_told (fun _ => rfl) (fun i hi => (List.mem_filter.mp hi).1) fun _ => rfl
  | completed _ _ _ _ =>
    refine h.of_told (fun _ => rfl) (fun i hi => (List.mem_filter.mp hi).1) fun id => ?_
    rw [MemoryStore.mapping?_withMapping, told?]
    split <;> rfl

theorem upsert_remembers (hs : Shows s m) (h : Remembers c.setup events m)
    {mapping : InstallationMapping} (hm : mapping.Proper) (k : κ) :
    ∃ m', Shows (step c (.upsert mapping) s k).2.1 m' ∧
      Remembers c.setup (events ++ [(.upsert mapping, (step c (.upsert mapping) s k).1)]) m' := by
  obtain ⟨hanswer, hshows⟩ := upsertMapping_eq hs hm
  simp only [step]
  refine ⟨_, hshows, ?_⟩
  rw [hanswer]
  refine h.of_told (fun _ => rfl) (fun _ hi => hi) fun id => ?_
  rw [MemoryStore.mapping?_withMapping, told?]
  split <;> rfl

theorem revoke_remembers (hs : Shows s m) (h : Remembers c.setup events m) (id : InstallationId)
    (organization : Option OrganizationId) (k : κ) :
    ∃ m', Shows (step c (.revoke id organization) s k).2.1 m' ∧
      Remembers c.setup
        (events ++ [(.revoke id organization, (step c (.revoke id organization) s k).1)]) m' := by
  simp only [step]
  rcases Setup.revoke_shows hs id organization with ⟨hok, hshows⟩ | ⟨⟨e, herror⟩, hshows⟩
  · refine ⟨_, hshows, ?_⟩
    rw [hok]
    refine h.of_told (fun _ => rfl) (fun _ hi => hi) fun j => ?_
    rw [MemoryStore.mapping?_withoutMapping, told?]
    by_cases hj : id = j
    · rw [if_pos hj, if_pos hj.symm, Option.getD_some]
    · rw [if_neg hj, if_neg (Ne.symm hj), Option.getD_none]
  · refine ⟨m, hshows, ?_⟩
    rw [herror]
    exact h.unchanged (fun _ => rfl) fun _ => rfl

/-- Each act leaves the store with what the history then tells. -/
theorem step_remembers (hs : Shows s m) (h : Remembers c.setup events m) {act : Act}
    (hact : act.Proper) (k : κ) :
    ∃ m', Shows (step c act s k).2.1 m' ∧
      Remembers c.setup (events ++ [(act, (step c act s k).1)]) m' := by
  cases act with
  | start request octets now => exact start_remembers hs h hact octets now k
  | callback query now => exact callback_remembers hs h query now k
  | upsert mapping => exact upsert_remembers hs h hact k
  | revoke id organization => exact revoke_remembers hs h id organization k
  | delivery request stamp => exact ⟨m, hs, h.unchanged (fun _ => rfl) fun _ => rfl⟩

theorem after_remembers (hs : Shows s m) (h : Remembers c.setup events m) {acts : List Act}
    (hacts : ∀ act ∈ acts, act.Proper) (k : κ) :
    ∃ m', Shows (after c acts s k).1 m' ∧
      Remembers c.setup (events ++ history c acts s k) m' := by
  induction acts generalizing s k m events with
  | nil =>
    refine ⟨m, hs, ?_⟩
    rw [history, List.append_nil]
    exact h
  | cons act acts ih =>
    obtain ⟨m', hs', h'⟩ := step_remembers hs h (hacts act List.mem_cons_self) k
    rw [history, List.append_cons]
    exact ih hs' h' (fun a ha => hacts a (List.mem_cons_of_mem act ha)) _

theorem told?_of_other (hs : Shows s m) {act : Act} {id : InstallationId}
    (hother : ¬ act.Concerns id) (k : κ) : told? id (act, (step c act s k).1) = none := by
  cases act with
  | start _ _ _ | delivery _ _ => rfl
  | upsert mapping =>
    simp only [step]
    rcases (upsertMapping mapping s).1 with _ | ⟨⟩
    · rfl
    · exact if_neg hother
  | revoke i organization =>
    simp only [step]
    rcases (Setup.revoke i organization s).1 with _ | ⟨⟩
    · rfl
    · exact if_neg hother
  | callback query now =>
    obtain ⟨m', hcompletion, -⟩ := Setup.complete_shows hs (query.value? "state")
      (Operator.installationParameter? query) now
    simp only [step]
    generalize (Setup.complete _ _ now s).1 = answer at hcompletion ⊢
    cases hcompletion with
    | refused _ | expired _ _ _ _ => rfl
    | completed _ hid _ _ =>
      refine if_neg fun hsame => hother ?_
      rw [Act.Concerns, hid]
      exact congrArg some hsame

theorem bound_of_remembers (hs : Shows s m) (h : Remembers c.setup events m) {query : Query}
    {now : Timestamp} {k : κ} {mapping : InstallationMapping}
    (hok : (step c (.callback query now) s k).1 = .completed (.ok mapping)) :
    ∃ state id request, (query.value? "state").bind SetupState.ofText? = some state ∧
      (Operator.installationParameter? query).bind InstallationId.read? = some id ∧
      lastStarted? state events = some request ∧
      mapping = ⟨id, c.setup.normalProfile request, true⟩ := by
  obtain ⟨m', hcompletion, -⟩ := Setup.complete_shows hs (query.value? "state")
    (Operator.installationParameter? query) now
  have hanswer : (Setup.complete (query.value? "state") (Operator.installationParameter? query)
      now s).1 = .ok mapping := Outcome.completed.inj hok
  rw [hanswer] at hcompletion
  cases hcompletion with
  | @completed state id i hstate hid hi hlive =>
    obtain ⟨hmem, rfl⟩ := MemoryStore.mem_of_intent? hi
    obtain ⟨request, hrequest, hprofile⟩ := h.intents i hmem
    refine ⟨i.state, id, request, hstate, hid, hrequest, ?_⟩
    rw [SetupIntent.mapping, hprofile]

/-! ## From the store to the sink -/

theorem target_eq (hs : Shows s m) (h : Remembers c.setup events m) (request : Request) :
    target c.settings request s = .ok (entitled c.settings.defaults
      (applying? (c.settings.provider.installationId? request.body) events)) := by
  rw [target]
  cases hid : c.settings.provider.installationId? request.body with
  | none => rfl
  | some id =>
    simp only [PublishTarget.find, getMapping_eq hs, h.mappings id, applying?, Option.bind_some]
    cases standing? id events with
    | none => rfl
    | some mapping =>
      simp only [MemoryStore.orNotFound, Option.filter_some]
      split <;> rfl

end Mirrored

section

variable {σ : Type} [Store σ] {settings : ListenerSettings} {stamp : Stamp} {request : Request}
  {s : σ} {course : Course}

theorem answer_congr {κ : Type} {s' : σ}
    (h : target settings request s = target settings request s') (sink : Sink κ) (k : κ) :
    answer settings sink stamp request s k = answer settings sink stamp request s' k := by
  rw [answer_eq, answer_eq, h]

theorem routed_of_takes {κ : Type} {events : List (Act × Outcome)}
    (htarget : target settings request s = .ok (entitled settings.defaults
      (applying? (settings.provider.installationId? request.body) events)))
    (h : Takes settings stamp request s course) (sink : Sink κ) (k : κ) :
    Routed settings request events (course.calls sink k) where
  credentials call hcall := by
    rw [h.credentials htarget sink k call hcall]
    exact credentials_entitled _ _
  called_iff := by
    rw [h.called_iff sink k, htarget]
    constructor
    · rintro ⟨t, ht, hsends⟩
      cases ht
      exact hsends
    · intro hsends
      exact ⟨_, rfl, hsends⟩

/-- A store that cannot be read for the installation keeps the delivery from being published. -/
theorem quiet_of_fault {id : InstallationId} {reason : String}
    (hid : settings.provider.installationId? request.body = some id)
    (hfault : getMapping id s = .error (.backend reason))
    (h : Takes settings stamp request s course) {κ : Type} (sink : Sink κ) (k : κ) :
    course.calls sink k = [] := by
  have htarget : target settings request s = .error (.backend reason) := by
    simp only [target, hid, PublishTarget.find, hfault]
  by_contra hcalls
  obtain ⟨t, ht, -⟩ := (h.called_iff sink k).mp hcalls
  cases htarget.symm.trans ht

end

section Mirrored

open Mirror

variable {σ κ : Type} [Store σ] [Mirror σ]

theorem routes_of_shows {empty : σ} (h : Shows empty {}) (c : Listener.Config κ) :
    Routes c empty where
  routed acts request stamp k k' hacts := by
    obtain ⟨m, hs, hm⟩ := after_remembers h (.nothing c.setup) hacts k
    obtain ⟨course, htakes, hcalls⟩ :=
      exists_recorded c.settings c.sink stamp request (after c acts empty k).1 k'
    rw [hcalls]
    exact routed_of_takes (target_eq hs hm request) htakes c.sink k'
  bound acts query now k mapping hacts hok := by
    obtain ⟨m, hs, hm⟩ := after_remembers h (.nothing c.setup) hacts k
    exact bound_of_remembers hs hm hok
  silent acts act id k k' hacts hother := by
    obtain ⟨m, hs, -⟩ := after_remembers h (.nothing c.setup) hacts k
    exact told?_of_other hs hother k'
  isolated acts acts' request stamp id k₁ k₂ k' hacts hacts' hid htold := by
    obtain ⟨m₁, hs₁, hm₁⟩ := after_remembers h (.nothing c.setup) hacts k₁
    obtain ⟨m₂, hs₂, hm₂⟩ := after_remembers h (.nothing c.setup) hacts' k₂
    apply answer_congr
    rw [target_eq hs₁ hm₁ request, target_eq hs₂ hm₂ request, hid]
    simp only [applying?, Option.bind_some, List.nil_append, standing?_congr htold]

end Mirrored

/-- Over every run from an empty store of either kind, deliveries are published with the
credentials of their own installation, or with the defaults; and a store that cannot be read
publishes nothing. -/
theorem deliveries_routed {κ : Type} (c : Listener.Config κ) :
    Routes c ({} : MemoryStore) ∧ Routes c ({} : RowStore) ∧
      ∀ {σ : Type} [Store σ] (s : σ) (request : Request) (stamp : Stamp) (k : κ)
        (id : InstallationId) (reason : String),
        c.settings.provider.installationId? request.body = some id →
        getMapping id s = .error (.backend reason) →
        (answer c.settings c.sink.recorded stamp request s (k, [])).2.2 = [] := by
  refine ⟨routes_of_shows memory_shows c, routes_of_shows RowStore.empty_shows c, ?_⟩
  intro σ _ s request stamp k id reason hid hfault
  obtain ⟨course, htakes, hcalls⟩ := exists_recorded c.settings c.sink stamp request s k
  rw [hcalls]
  exact quiet_of_fault hid hfault htakes c.sink k

def relayConfig : Listener.Config Nat where
  settings :=
    { provider := .gitlab
      webhookPath := "/webhook/gitlab"
      webhookSecret := "hook"
      defaults := { credentials := ⟨"https://home", "home-token", "home-secret"⟩ } }
  setup := {}
  sink := ⟨fun _ _ n => (.ok (), n + 1)⟩

def tenant : TenantProfile := { credentials := ⟨"https://tenant", "tenant-token", "tenant-secret"⟩ }

def tenantActs : List Act :=
  [.start tenant (.replicate 16 0) .epoch,
    .callback [("state", "00000000000000000000000000000000"), ("installation_id", " 7 ")]
      ⟨900, 0, by decide⟩,
    .upsert ⟨⟨8⟩, { credentials := ⟨"https://other", "other-token", "other-secret"⟩ }, true⟩]

def tenantPush : Request :=
  { method := "POST"
    path := "/webhook/gitlab"
    query := []
    headers :=
      [("x-gitlab-token", "hook".toUTF8.toList), ("x-gitlab-event", "Push Hook".toUTF8.toList)]
    body :=
      "\x7b\"project_id\":\"7\",\"project\":\x7b\"name\":\"orders\"\x7d\x7d".toUTF8.toList }

def pushCalls {σ : Type} [Store σ] (s : σ) : List Call :=
  (answer relayConfig.settings relayConfig.sink.recorded ⟨⟨901, 0, by decide⟩, ""⟩ tenantPush s
    (0, [])).2.2

theorem tenant_push_routed :
    (∃ call, pushCalls (after relayConfig tenantActs ({} : RowStore) 0).1 = [call] ∧
      call.credentials = tenant.credentials) ∧
    pushCalls (UnavailableStore.mk "down") = [] := by
  obtain ⟨-, hrows, hfault⟩ := deliveries_routed relayConfig
  constructor
  · have hacts : ∀ act ∈ tenantActs, act.Proper := by decide
    have hrouted := hrows.routed tenantActs tenantPush ⟨⟨901, 0, by decide⟩, ""⟩ 0 0 hacts
    have happlies : applying? (relayConfig.settings.provider.installationId? tenantPush.body)
        (history relayConfig tenantActs ({} : RowStore) 0) = some ⟨⟨7⟩, tenant, true⟩ := by
      decide +kernel
    have hlength : (pushCalls (after relayConfig tenantActs ({} : RowStore) 0).1).length = 1 := by
      decide +kernel
    obtain ⟨call, hcall⟩ := List.length_eq_one_iff.mp hlength
    refine ⟨call, hcall, ?_⟩
    have hmem : call ∈ pushCalls (after relayConfig tenantActs ({} : RowStore) 0).1 := by
      rw [hcall]
      exact List.mem_cons_self
    rw [hrouted.credentials call hmem, happlies]
    rfl
  · have hid : relayConfig.settings.provider.installationId? tenantPush.body = some ⟨7⟩ := by
      decide +kernel
    exact hfault (UnavailableStore.mk "down") tenantPush ⟨⟨901, 0, by decide⟩, ""⟩ 0 ⟨7⟩ "down" hid
      rfl

end EventRelay.Routing
