import EventRelay.Listener.Router
import EventRelay.Proofs.Provider.Conversion
import EventRelay.Proofs.Publish.Batch
import Mathlib

/-!
# What a delivery publishes

A delivery takes one of six courses. Five end with an answer of their own,
and one hands a single body to the sink and answers by what becomes of it.
So the answer tells exactly whether and how the sink was called. The calls
are read off a sink that behaves alike and keeps a list of them.
-/

set_option autoImplicit false

namespace EventRelay

open EventRelay.Http EventRelay.Text

namespace Webhook

def invalidSignature : Response := (Refusal.unauthorized "invalid signature").response

def resolutionFailed : Response := (Refusal.internal "mapping resolution failed").response

def invalidPayload (p : Provider) : Response :=
  (Refusal.badRequest ("invalid " ++ p.name ++ " payload")).response

/-! ## Courses -/

inductive Course where
  | answer (response : Response)
  | publish (credentials : PublishCredentials) (body : List UInt8)

namespace Course

variable {κ : Type}

def run (sink : Sink κ) (k : κ) : Course → Response × κ
  | .answer response => (response, k)
  | .publish credentials body =>
    match sink.publish credentials body k with
    | (.ok (), k) => (accepted "published=1", k)
    | (.error e, k) => ((Refusal.ofRelay (.publish e)).response, k)

def calls (sink : Sink κ) (k : κ) : Course → List Call
  | .answer _ => []
  | .publish credentials body => [⟨credentials, body, (sink.publish credentials body k).1⟩]

theorem run_recorded (sink : Sink κ) (k : κ) (log : List Call) (course : Course) :
    course.run sink.recorded (k, log) =
      ((course.run sink k).1, (course.run sink k).2, log ++ course.calls sink k) := by
  cases course with
  | answer response => simp only [run, calls, List.append_nil]
  | publish credentials body =>
    rcases h : sink.publish credentials body k with ⟨_ | _, next⟩ <;>
      simp only [run, calls, Sink.recorded, h]

end Course

section

variable {σ : Type} [Store σ]

def isAuthentic (settings : ListenerSettings) (request : Request) : Bool :=
  Signature.verifies settings.provider request.headers request.body settings.webhookSecret

def target (settings : ListenerSettings) (request : Request) (s : σ) :
    Except StoreError PublishTarget :=
  PublishTarget.find (settings.provider.installationId? request.body) settings.defaults s

def events (settings : ListenerSettings) (request : Request) (target : PublishTarget) :
    Except ConvertError (List CanonicalEvent) :=
  settings.provider.convert (headerText request.headers settings.provider.eventHeader)
    (DeliveryId.ofText? (headerText request.headers settings.provider.deliveryHeader)) request.body
    ⟨target.defaultEnvironment, settings.source⟩

/-- The six courses. An event that conversion emits can be built, so there is none for an event
that cannot. -/
inductive Takes (settings : ListenerSettings) (stamp : Stamp) (request : Request) (s : σ) :
    Course → Prop where
  | refused (h : isAuthentic settings request = false) :
    Takes settings stamp request s (.answer invalidSignature)
  | unresolved {e : StoreError} (h : isAuthentic settings request = true)
    (htarget : target settings request s = .error e) :
    Takes settings stamp request s (.answer resolutionFailed)
  | incomplete {t : PublishTarget} (h : isAuthentic settings request = true)
    (htarget : target settings request s = .ok t) (hcomplete : t.credentials.isComplete = false) :
    Takes settings stamp request s (.answer ignored)
  | malformed {t : PublishTarget} {e : ConvertError} (h : isAuthentic settings request = true)
    (htarget : target settings request s = .ok t) (hcomplete : t.credentials.isComplete = true)
    (hevents : events settings request t = .error e) :
    Takes settings stamp request s (.answer (invalidPayload settings.provider))
  | eventless {t : PublishTarget} (h : isAuthentic settings request = true)
    (htarget : target settings request s = .ok t) (hcomplete : t.credentials.isComplete = true)
    (hevents : events settings request t = .ok []) :
    Takes settings stamp request s (.answer ignored)
  | published {t : PublishTarget} {event : CanonicalEvent} {env : Envelope}
    (h : isAuthentic settings request = true) (htarget : target settings request s = .ok t)
    (hcomplete : t.credentials.isComplete = true)
    (hevents : events settings request t = .ok [event]) (henv : event.envelope stamp = .ok env) :
    Takes settings stamp request s (.publish t.credentials env.body)

/-- With this target, a delivery is authentic, has complete credentials and turns into an event. -/
def Sends (settings : ListenerSettings) (request : Request) (t : PublishTarget) : Prop :=
  isAuthentic settings request = true ∧ t.credentials.isComplete = true ∧
    ∃ event, events settings request t = .ok [event]

theorem relay_one {κ : Type} (sink : Sink κ) (credentials : PublishCredentials) {stamp : Stamp}
    {event : CanonicalEvent} {env : Envelope} (henv : event.envelope stamp = .ok env) (k : κ) :
    relay sink credentials (fun _ => stamp) [event] k =
      match sink.publish credentials env.body k with
      | (.error cause, k) => (.error (.publish cause), k)
      | (.ok (), k) => (.ok 1, k) := by
  rcases hout : sink.publish credentials env.body k with ⟨_ | _, next⟩ <;>
    simp only [relay, relayFrom, henv, hout]

theorem answer_eq {κ : Type} (settings : ListenerSettings) (sink : Sink κ) (stamp : Stamp)
    (request : Request) (s : σ) (k : κ) :
    answer settings sink stamp request s k =
      if isAuthentic settings request then
        match target settings request s with
        | .error _ => (resolutionFailed, k)
        | .ok t =>
          if !t.credentials.isComplete then (ignored, k)
          else
            match events settings request t with
            | .error _ => (invalidPayload settings.provider, k)
            | .ok [] => (ignored, k)
            | .ok events =>
              match relay sink t.credentials (fun _ => stamp) events k with
              | (.ok n, k) => (accepted ("published=" ++ naturalText n), k)
              | (.error e, k) => ((Refusal.ofRelay e).response, k)
      else (invalidSignature, k) := rfl

/-- Every delivery takes one of the courses, whatever the sink. -/
theorem exists_course (settings : ListenerSettings) (stamp : Stamp) (request : Request) (s : σ) :
    ∃ course, Takes settings stamp request s course ∧
      ∀ {κ : Type} (sink : Sink κ) (k : κ),
        answer settings sink stamp request s k = course.run sink k := by
  cases hauth : isAuthentic settings request with
  | false =>
    refine ⟨_, .refused hauth, fun sink k => ?_⟩
    simp only [answer_eq, hauth, Bool.false_eq_true, if_false, Course.run]
  | true =>
    cases htarget : target settings request s with
    | error e =>
      refine ⟨_, .unresolved hauth htarget, fun sink k => ?_⟩
      simp only [answer_eq, hauth, htarget, if_true, Course.run]
    | ok t =>
      cases hcomplete : t.credentials.isComplete with
      | false =>
        refine ⟨_, .incomplete hauth htarget hcomplete, fun sink k => ?_⟩
        simp only [answer_eq, hauth, htarget, hcomplete, Bool.not_false, if_true, Course.run]
      | true =>
        cases hevents : events settings request t with
        | error e =>
          refine ⟨_, .malformed hauth htarget hcomplete hevents, fun sink k => ?_⟩
          simp only [answer_eq, hauth, htarget, hcomplete, hevents, Bool.not_true,
            Bool.false_eq_true, if_false, if_true, Course.run]
        | ok list =>
          rcases Provider.convert_ok hevents with rfl | ⟨hook, d, v, hd, hservice, rfl⟩
          · refine ⟨_, .eventless hauth htarget hcomplete hevents, fun sink k => ?_⟩
            simp only [answer_eq, hauth, htarget, hcomplete, hevents, Bool.not_true,
              Bool.false_eq_true, if_false, if_true, Course.run]
          · obtain ⟨env, henv, -⟩ := hook.envelope_event hd hservice stamp
            refine ⟨_, .published hauth htarget hcomplete hevents henv, fun sink k => ?_⟩
            simp only [answer_eq, hauth, htarget, hcomplete, hevents, Bool.not_true,
              Bool.false_eq_true, if_false, if_true, relay_one sink t.credentials henv, Course.run]
            rcases sink.publish t.credentials env.body k with ⟨_ | _, next⟩ <;> rfl

theorem exists_recorded {κ : Type} (settings : ListenerSettings) (sink : Sink κ) (stamp : Stamp)
    (request : Request) (s : σ) (k : κ) :
    ∃ course, Takes settings stamp request s course ∧
      (answer settings sink.recorded stamp request s (k, [])).2.2 = course.calls sink k := by
  obtain ⟨course, htakes, hanswer⟩ := exists_course settings stamp request s
  refine ⟨course, htakes, ?_⟩
  rw [hanswer, Course.run_recorded, List.nil_append]

/-! ## Answer and calls -/

/-- The answer of a delivery tells whether the sink was called, and with what success. -/
structure Agrees (settings : ListenerSettings) (request : Request) (response : Response)
    (calls : List Call) : Prop where
  atMostOne : calls.length ≤ 1
  published_iff : response.status = 202 ∧ response.body = "published=1" ↔
    ∃ call, calls = [call] ∧ call.outcome = .ok ()
  failed_iff : response.status = 502 ↔ ∃ call e, calls = [call] ∧ call.outcome = .error e
  status_mem : response.status ∈ [202, 400, 401, 500, 502]
  silent : response.status ∈ [400, 401, 500] ∨ response.status = 202 ∧ response.body = "ignored" →
    calls = []
  publishedOne : ∀ n, response.status = 202 → response.body = "published=" ++ naturalText n → n = 1
  refused_iff : response.status = 401 ↔ isAuthentic settings request = false
  refused_eq : response.status = 401 → response = invalidSignature

theorem naturalText_inj {m n : Nat} (h : naturalText m = naturalText n) : m = n := Nat.repr_inj.mp h

theorem ignored_not_published (text : String) : "ignored" ≠ "published=" ++ text := by
  intro h
  have hhead := congrArg (fun s : String => s.toList.head?) h
  simp at hhead

variable {settings : ListenerSettings} {stamp : Stamp} {request : Request} {s : σ}

/-- An answer without a call agrees with none, if it is none that a call leads to. -/
theorem agrees_answer (response : Response) (hstatus : response.status ∈ [202, 400, 401, 500])
    (haccepted : response.status = 202 → response.body = "ignored")
    (hrefused : response.status = 401 ↔ isAuthentic settings request = false)
    (hsame : response.status = 401 → response = invalidSignature) :
    Agrees settings request response [] where
  atMostOne := Nat.zero_le 1
  published_iff := by
    constructor
    · rintro ⟨hstatus, hbody⟩
      rw [haccepted hstatus] at hbody
      exact absurd hbody (by decide)
    · rintro ⟨call, hcall, -⟩
      cases hcall
  failed_iff := by
    constructor
    · intro h
      rw [h] at hstatus
      exact absurd hstatus (by decide)
    · rintro ⟨call, e, hcall, -⟩
      cases hcall
  status_mem := by
    simp only [List.mem_cons, List.not_mem_nil, or_false] at hstatus ⊢
    tauto
  silent _ := rfl
  publishedOne n hstatus hbody := by
    rw [haccepted hstatus] at hbody
    exact absurd hbody (ignored_not_published _)
  refused_iff := hrefused
  refused_eq := hsame

theorem agrees_authentic (response : Response) (h : isAuthentic settings request = true)
    (hstatus : response.status ∈ [202, 400, 500])
    (haccepted : response.status = 202 → response.body = "ignored") :
    Agrees settings request response [] := by
  have hrefused : response.status ≠ 401 := fun e => absurd (e ▸ hstatus) (by decide)
  refine agrees_answer response ?_ haccepted (iff_of_false hrefused (by rw [h]; decide)) fun e =>
    absurd e hrefused
  simp only [List.mem_cons, List.not_mem_nil, or_false] at hstatus ⊢
  tauto

theorem agrees_published (h : isAuthentic settings request = true) {call : Call}
    (hcall : call.outcome = .ok ()) :
    Agrees settings request (accepted "published=1") [call] where
  atMostOne := le_refl 1
  published_iff := iff_of_true ⟨rfl, rfl⟩ ⟨call, rfl, hcall⟩
  failed_iff := by
    constructor
    · intro h502
      exact absurd h502 (by decide)
    · rintro ⟨other, e, hother, he⟩
      cases hother
      cases hcall.symm.trans he
  status_mem := by decide
  silent hsilent := absurd hsilent (by decide)
  publishedOne n _ hbody := by
    have htext : "published=" ++ naturalText 1 = "published=" ++ naturalText n := hbody
    exact (naturalText_inj ((String.append_right_inj _).mp htext)).symm
  refused_iff := iff_of_false (by decide) (by rw [h]; decide)
  refused_eq h401 := absurd h401 (by decide)

theorem agrees_failed (h : isAuthentic settings request = true) {call : Call} {e : PublishError}
    (hcall : call.outcome = .error e) :
    Agrees settings request (Refusal.ofRelay (.publish e)).response [call] where
  atMostOne := le_refl 1
  published_iff := by
    constructor
    · rintro ⟨h202, -⟩
      cases h202
    · rintro ⟨other, hother, hok⟩
      cases hother
      cases hcall.symm.trans hok
  failed_iff := iff_of_true rfl ⟨call, e, rfl, hcall⟩
  status_mem := by
    show 502 ∈ _
    decide
  silent := by
    rintro (hfront | ⟨h202, -⟩)
    · exact absurd (show 502 ∈ [400, 401, 500] from hfront) (by decide)
    · cases h202
  publishedOne n h202 _ := by cases h202
  refused_iff := iff_of_false nofun (by rw [h]; decide)
  refused_eq := nofun

theorem Takes.agrees {course : Course} (h : Takes settings stamp request s course) {κ : Type}
    (sink : Sink κ) (k : κ) :
    Agrees settings request (course.run sink k).1 (course.calls sink k) := by
  cases h with
  | refused h =>
    exact agrees_answer invalidSignature (by decide) (by decide)
      (iff_of_true rfl h) fun _ => rfl
  | unresolved h => exact agrees_authentic resolutionFailed h (by decide) (by decide)
  | malformed h =>
    have hstatus : (invalidPayload settings.provider).status = 400 := rfl
    exact agrees_authentic (invalidPayload settings.provider) h
      (by rw [hstatus]; decide) fun e => absurd (hstatus.symm.trans e) (by decide)
  | incomplete h | eventless h =>
    exact agrees_authentic ignored h (by decide) (by decide)
  | @published t event env h =>
    rcases hout : sink.publish t.credentials env.body k with ⟨e | ⟨⟩, next⟩
    · simp only [Course.run, Course.calls, hout]
      exact agrees_failed h rfl
    · simp only [Course.run, Course.calls, hout]
      exact agrees_published h rfl

theorem Takes.called_iff {course : Course} (h : Takes settings stamp request s course) {κ : Type}
    (sink : Sink κ) (k : κ) :
    course.calls sink k ≠ [] ↔ ∃ t, target settings request s = .ok t ∧ Sends settings request t := by
  -- five courses make no call, each for a reason of its own
  cases h with
  | refused h =>
    refine iff_of_false (fun hcalls => hcalls rfl) ?_
    rintro ⟨t, -, hauth, -⟩
    cases h.symm.trans hauth
  | unresolved h htarget =>
    refine iff_of_false (fun hcalls => hcalls rfl) ?_
    rintro ⟨t, ht, -⟩
    cases htarget.symm.trans ht
  | incomplete h htarget hcomplete =>
    refine iff_of_false (fun hcalls => hcalls rfl) ?_
    rintro ⟨t, ht, -, ht', -⟩
    cases htarget.symm.trans ht
    cases hcomplete.symm.trans ht'
  | malformed h htarget hcomplete hevents | eventless h htarget hcomplete hevents =>
    refine iff_of_false (fun hcalls => hcalls rfl) ?_
    rintro ⟨t, ht, -, -, event, hevent⟩
    cases htarget.symm.trans ht
    cases hevents.symm.trans hevent
  | published h htarget hcomplete hevents henv =>
    exact iff_of_true (List.cons_ne_nil _ _) ⟨_, htarget, h, hcomplete, _, hevents⟩

theorem Takes.credentials {course : Course} (h : Takes settings stamp request s course)
    {t : PublishTarget} (htarget : target settings request s = .ok t) {κ : Type} (sink : Sink κ)
    (k : κ) : ∀ call ∈ course.calls sink k, call.credentials = t.credentials := by
  intro call hcall
  cases h with
  | published _ ht _ _ _ =>
    cases ht.symm.trans htarget
    rw [List.mem_singleton.mp hcall]
  | _ => cases hcall

theorem Takes.of_called {course : Course} (h : Takes settings stamp request s course) {κ : Type}
    (sink : Sink κ) (k : κ) {call : Call} (hcall : call ∈ course.calls sink k) :
    ∃ t event env, target settings request s = .ok t ∧ events settings request t = .ok [event] ∧
      event.envelope stamp = .ok env ∧ call.body = env.body := by
  cases h with
  | published _ htarget _ hevents henv =>
    refine ⟨_, _, _, htarget, hevents, henv, ?_⟩
    rw [List.mem_singleton.mp hcall]
  | _ => cases hcall

/-- A delivery is ignored for want of credentials or of events. -/
theorem Takes.of_ignored {course : Course} (h : Takes settings stamp request s course)
    {κ : Type} (sink : Sink κ) (k : κ) (hrun : (course.run sink k).1 = ignored) :
    (∃ t, target settings request s = .ok t ∧ t.credentials.isComplete = false) ∨
      ∃ t, target settings request s = .ok t ∧ events settings request t = .ok [] := by
  cases h with
  | incomplete _ htarget hcomplete => exact Or.inl ⟨_, htarget, hcomplete⟩
  | eventless _ htarget _ hevents => exact Or.inr ⟨_, htarget, hevents⟩
  | refused _ | unresolved _ _ | malformed _ _ _ _ => cases congrArg Response.status hrun
  | @published t event env =>
    simp only [Course.run] at hrun
    split at hrun
    · have hbody : (accepted "published=1").body = ignored.body := congrArg Response.body hrun
      exact absurd hbody (by decide)
    · cases congrArg Response.status hrun

/-- Every event that conversion emits can be built at every time. Its envelope shows the long form
of a short key and any other type as it is, such as one made of an action put in lower case. So no
delivery is answered by 422. -/
theorem emitted_events_build :
    (∀ (p : Provider) (name : String) (deliveryId : Option DeliveryId) (payload : List UInt8)
      (settings : ConvertSettings) (events : List CanonicalEvent),
      p.convert name deliveryId payload settings = .ok events →
      ∀ event ∈ events, ∀ stamp : Stamp, ∃ env, event.envelope stamp = .ok env ∧
        env.resolvedType = EventType.shown event.eventType) ∧
    (∀ action : String,
      EventType.normalize (changeType (lower action)) = changeType (lower action)) ∧
    ∀ {σ κ : Type} [Store σ] (settings : ListenerSettings) (sink : Sink κ) (stamp : Stamp)
      (request : Request) (s : σ) (k : κ),
      (answer settings sink stamp request s k).1.status ≠ 422 := by
  refine ⟨?_, fun action => ?_, ?_⟩
  · intro p name deliveryId payload settings events hconvert event hevent stamp
    rcases Provider.convert_ok hconvert with rfl | ⟨hook, d, v, hd, hservice, rfl⟩
    · cases hevent
    · rw [List.mem_singleton.mp hevent]
      exact hook.envelope_event hd hservice stamp
  · exact (settled_changeType fun _ hc => isLow_of_mem_lower hc).1
  · intro σ κ _ settings sink stamp request s k h422
    obtain ⟨course, htakes, hanswer⟩ := exists_course settings stamp request s
    have hmem := (htakes.agrees sink k).status_mem
    rw [← hanswer sink k, h422] at hmem
    exact absurd hmem (by decide)

def shouted : List UInt8 :=
  "\x7b\"action\":\"ΟΔΟΣ\",\"repository\":\x7b\"name\":\"orders\"\x7d\x7d".toUTF8.toList

theorem shouted_action_builds :
    ∃ event env, Provider.github.convert "pull_request" none shouted {} = .ok [event] ∧
      event.envelope ⟨⟨0, 0, by decide⟩, ""⟩ = .ok env ∧
      env.resolvedType = "dev.cdevents.change.οδος.0.3.0" := by
  have htype : (Provider.github.convert "pull_request" none shouted {}).toOption.map
      (List.map CanonicalEvent.eventType) = some ["dev.cdevents.change.οδος.0.3.0"] := by
    decide +kernel
  cases hconvert : Provider.github.convert "pull_request" none shouted {} with
  | error e =>
    rw [hconvert] at htype
    cases htype
  | ok events =>
    rw [hconvert] at htype
    obtain ⟨event, rfl, hevent⟩ := List.map_eq_singleton_iff.mp (Option.some.inj htype)
    obtain ⟨env, henv, hshown⟩ := emitted_events_build.1 .github "pull_request" none shouted {}
      [event] hconvert event List.mem_cons_self ⟨⟨0, 0, by decide⟩, ""⟩
    refine ⟨event, env, rfl, henv, ?_⟩
    rw [hshown, hevent]
    decide

/-- Whatever the store and the sink are, a delivery leaves the store as it is, calls the sink when
it is to be sent, and is answered by what became of the call. -/
theorem answer_tells_publication {κ : Type} (c : Listener.Config κ) (moment : Listener.Moment)
    (request : Request) (s : σ) (k : κ) :
    ∃ response next calls,
      Listener.serve c moment .webhook request s k = (response, s, next) ∧
      Listener.serve ⟨c.settings, c.setup, c.sink.recorded⟩ moment .webhook request s (k, []) =
        (response, s, next, calls) ∧
      Agrees c.settings request response calls ∧
      (calls ≠ [] ↔ ∃ t, target c.settings request s = .ok t ∧ Sends c.settings request t) := by
  obtain ⟨course, htakes, hanswer⟩ :=
    exists_course c.settings ⟨moment.now, moment.uuid⟩ request s
  refine ⟨(course.run c.sink k).1, (course.run c.sink k).2, course.calls c.sink k, ?_, ?_,
    htakes.agrees c.sink k, htakes.called_iff c.sink k⟩
  · simp only [Listener.serve, hanswer]
  · simp only [Listener.serve, hanswer, Course.run_recorded, List.nil_append]

end

end Webhook

end EventRelay
