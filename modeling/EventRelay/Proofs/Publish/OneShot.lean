import EventRelay.Proofs.Event.Wire
import EventRelay.Proofs.Text.Hex
import EventRelay.Settings.Program

/-!
# Publishing once

The publish command takes one of four courses. Credentials that are not
complete, an event that cannot be built and a request that cannot be made end
it before the network is reached; otherwise the network is asked once, and the
report says what became of that. The requests are read off a network that
behaves alike and keeps a list of them.
-/

set_option autoImplicit false

namespace EventRelay

open EventRelay.Text

theorem Envelope.type_read (env : Envelope) :
    ∃ message, Json.parse? env.body = some message ∧
      message.at? ["context", "type"] = some (.text env.resolvedType) := by
  refine ⟨_, env.parse?_body, ?_⟩
  cases env.chainId <;> rfl

namespace Publish

structure Exchange where
  request : Request
  outcome : Outcome

/-- The network that behaves alike and adds each request to a list. -/
def Network.recorded {ω : Type} (network : Network ω) : Network (ω × List Exchange) :=
  fun request w =>
    let (outcome, next) := network request w.1
    (outcome, next, w.2 ++ [⟨request, outcome⟩])

def Outcome.IsTaken (outcome : Outcome) : Prop :=
  ∃ status reply, outcome = .answered status reply ∧ status < 300

def Request.IsSigned (secret : String) (request : Request) : Prop :=
  Hex.Spells request.signature.toList (Hmac.mac (Utf8.octets secret) request.body) ∧
    ∀ c ∈ request.signature.toList, c ∈ "0123456789abcdef".toList

theorem verdict_ok_iff {outcome : Outcome} : verdict outcome = .ok () ↔ outcome.IsTaken := by
  cases outcome with
  | failed reason => simp [verdict, Outcome.IsTaken]
  | answered status reply =>
    simp only [verdict, Outcome.IsTaken, Outcome.answered.injEq]
    constructor
    · intro h
      split at h
      · rename_i hstatus
        exact ⟨status, reply, ⟨rfl, rfl⟩, hstatus⟩
      · cases h
    · rintro ⟨_, _, ⟨rfl, rfl⟩, hstatus⟩
      rw [if_pos hstatus]

theorem request_ok {c : PublishCredentials} {body : List UInt8} {r : Request}
    (h : request c body = .ok r) : r.body = body ∧ r.IsSigned (trimmed c.webhookSecret) := by
  unfold request at h
  split at h
  · cases h
  · simp only at h
    split_ifs at h
    cases h
    refine ⟨rfl, ?_, ?_⟩ <;> simp only [sign, Hex.text, String.toList_ofList]
    · exact Hex.spells_encode _
    · exact fun c hc => Hex.lower_of_mem_encode hc

theorem verdict_ne_missingConfiguration (outcome : Outcome) :
    verdict outcome ≠ .error .missingConfiguration := by
  cases outcome with
  | failed reason => simp [verdict]
  | answered status reply =>
    rw [verdict]
    split <;> simp

theorem publish_configured {ω : Type} (network : Network ω) {c : PublishCredentials}
    (h : c.isComplete = true) (body : List UInt8) (w : ω) :
    (publish network c body w).1 ≠ .error .missingConfiguration := by
  rw [publish, if_pos h]
  cases request c body with
  | error reason => simp
  | ok r => exact verdict_ne_missingConfiguration _

end Publish

namespace Settings.PublishArgs

def LacksCredentials (a : PublishArgs) : Prop :=
  trimmed a.endpoint = "" ∨ trimmed a.token = "" ∨ trimmed a.secret = ""

theorem isComplete_eq_false_iff (a : PublishArgs) :
    (credentials a.endpoint a.token a.secret).isComplete = false ↔ a.LacksCredentials := by
  have hblank (s : String) : isBlankText (trimmed s) = true ↔ trimmed s = "" := by
    rw [← trimmed_eq_empty_iff, trimmed_trimmed]
  simp only [credentials, PublishCredentials.trimmed, PublishCredentials.isComplete,
    Bool.and_eq_false_iff, Bool.not_eq_false', hblank, LacksCredentials, or_assoc]

theorem resolve_lacking {a : PublishArgs} (h : a.LacksCredentials) :
    a.resolve = .error .incompleteCredentials := by
  simp only [resolve, a.isComplete_eq_false_iff.mpr h, Bool.false_eq_true, if_false]

theorem resolve_complete {a : PublishArgs} (h : ¬ a.LacksCredentials) :
    (credentials a.endpoint a.token a.secret).isComplete = true ∧
      a.resolve =
        .ok ⟨credentials a.endpoint a.token a.secret, trimmedEvent a.event, a.timeout⟩ := by
  have hcomplete : (credentials a.endpoint a.token a.secret).isComplete = true :=
    eq_true_of_ne_false (mt a.isComplete_eq_false_iff.mp h)
  refine ⟨hcomplete, ?_⟩
  simp only [resolve, hcomplete, if_true]

end Settings.PublishArgs

namespace Program

open EventRelay.CommandLine EventRelay.Publish EventRelay.Settings

variable {ω : Type}

def Surroundings.recorded (around : Surroundings ω) : Surroundings (ω × List Exchange) where
  network := around.network.recorded
  stamp := around.stamp
  openDatabase := around.openDatabase
  bind := around.bind

def publishOnce (around : Surroundings ω) (a : PublishArgs) (w : ω) : Report × ω :=
  match a.resolve with
  | .error e => (failure e.message none, w)
  | .ok c => publish around c w

theorem run_publish {environment : Environment} {arguments rest : List String} {values : Values}
    (hcommand : readCommand ["serve", "publish"] arguments = .ok ("publish", rest))
    (hvalues : readValues publishFlags environment rest = .ok values) (around : Surroundings ω)
    (w : ω) :
    run around environment arguments w = publishOnce around (PublishArgs.ofValues values) w := by
  have hname : ("publish" : String) ≠ "serve" := by decide
  rw [run, Command.read, hcommand]
  simp only [if_neg hname, hvalues, publishOnce]
  cases (PublishArgs.ofValues values).resolve with
  | error e => rfl
  | ok c => rfl

/-- The report on an event whose request has been made. -/
def sentReport (a : PublishArgs) (env : Envelope) (outcome : Outcome) : Report :=
  match verdict outcome with
  | .error e => failure "publish event" (some e.message)
  | .ok () =>
    { exit := 0
      stdout := "Published " ++ env.resolvedType ++ " for service=" ++ trimmed a.event.service ++
        " env=" ++ trimmed a.event.environment ++ "\n" }

/-- What the command comes to: the report, the requests and the network after them. -/
inductive Course (around : Surroundings ω) (a : PublishArgs) (w : ω) :
    Report → List Exchange → ω → Prop where
  | incomplete (h : a.LacksCredentials) :
    Course around a w (failure ConfigError.incompleteCredentials.message none) [] w
  | unbuilt {e : BuildError} (henv : (trimmedEvent a.event).envelope around.stamp = .error e) :
    Course around a w (failure "build event" (some e.message)) [] w
  | unmade {env : Envelope} {reason : String}
    (henv : (trimmedEvent a.event).envelope around.stamp = .ok env)
    (hrequest : request (credentials a.endpoint a.token a.secret) env.body = .error reason) :
    Course around a w (failure "publish event" (some (PublishError.transport reason).message)) [] w
  | sent {env : Envelope} {r : Request} {outcome : Outcome} {next : ω}
    (hcomplete : ¬ a.LacksCredentials)
    (henv : (trimmedEvent a.event).envelope around.stamp = .ok env)
    (hrequest : request (credentials a.endpoint a.token a.secret) env.body = .ok r)
    (hnetwork : around.network r w = (outcome, next)) :
    Course around a w (sentReport a env outcome) [⟨r, outcome⟩] next

theorem exists_course (around : Surroundings ω) (a : PublishArgs) (w : ω) :
    ∃ report log next, Course around a w report log next ∧
      publishOnce around a w = (report, next) ∧
      publishOnce around.recorded a (w, []) = (report, next, log) := by
  by_cases hlacks : a.LacksCredentials
  · refine ⟨_, _, _, .incomplete hlacks, ?_, ?_⟩ <;>
      rw [publishOnce, PublishArgs.resolve_lacking hlacks]
  obtain ⟨hcomplete, hresolve⟩ := PublishArgs.resolve_complete hlacks
  cases henv : (trimmedEvent a.event).envelope around.stamp with
  | error e =>
    refine ⟨_, _, _, .unbuilt henv, ?_, ?_⟩ <;> rw [publishOnce, hresolve]
    · simp only [publish, henv]
    · simp only [publish, Surroundings.recorded, henv]
  | ok env =>
    cases hrequest : request (credentials a.endpoint a.token a.secret) env.body with
    | error reason =>
      refine ⟨_, _, _, .unmade henv hrequest, ?_, ?_⟩ <;> rw [publishOnce, hresolve]
      · simp only [publish, henv, Publish.publish, hcomplete, if_true, hrequest]
      · simp only [publish, Surroundings.recorded, henv, Publish.publish, hcomplete, if_true,
          hrequest]
    | ok r =>
      rcases hnetwork : around.network r w with ⟨outcome, next⟩
      refine ⟨_, _, _, .sent hlacks henv hrequest hnetwork, ?_, ?_⟩ <;>
        rw [publishOnce, hresolve]
      · simp only [publish, henv, Publish.publish, hcomplete, if_true, hrequest, hnetwork,
          sentReport]
        cases verdict outcome <;> rfl
      · simp only [publish, Surroundings.recorded, henv, Publish.publish, hcomplete, if_true,
          hrequest, Network.recorded, hnetwork, sentReport]
        cases verdict outcome <;> rfl

/-- What a report tells about the requests that were made. -/
structure Truthful (around : Surroundings ω) (a : PublishArgs) (report : Report)
    (log : List Exchange) : Prop where
  unsent : a.LacksCredentials ∨ (∃ e, (trimmedEvent a.event).envelope around.stamp = .error e) →
    log = []
  atMostOne : log.length ≤ 1
  sent : ∀ x ∈ log, (∃ env, (trimmedEvent a.event).envelope around.stamp = .ok env ∧
    x.request.body = env.body) ∧ x.request.IsSigned (trimmed a.secret)
  succeeds_iff : report.exit = 0 ↔ ∃ x ∈ log, x.outcome.IsTaken
  printed : report.exit = 0 → ∃ x ∈ log, ∃ message type,
    Json.parse? x.request.body = some message ∧
      message.at? ["context", "type"] = some (.text type) ∧
      report.stdout = "Published " ++ type ++ " for service=" ++ trimmed a.event.service ++
        " env=" ++ trimmed a.event.environment ++ "\n"
  failed : report.exit ≠ 0 → report.stdout = ""

theorem exit_sentReport_iff {a : PublishArgs} {env : Envelope} {outcome : Outcome} :
    (sentReport a env outcome).exit = 0 ↔ outcome.IsTaken := by
  rw [← verdict_ok_iff, sentReport]
  cases verdict outcome with
  | error e => simp [failure]
  | ok _ => simp

theorem truthful_unsent (around : Surroundings ω) (a : PublishArgs) (message : String)
    (cause : Option String) : Truthful around a (failure message cause) [] where
  unsent _ := rfl
  atMostOne := Nat.zero_le 1
  sent x hx := nomatch hx
  succeeds_iff := by simp [failure]
  printed h := nomatch h
  failed _ := rfl

theorem Course.truthful {around : Surroundings ω} {a : PublishArgs} {w next : ω} {report : Report}
    {log : List Exchange} (h : Course around a w report log next) :
    Truthful around a report log := by
  cases h with
  | incomplete | unbuilt | unmade => exact truthful_unsent around a _ _
  | @sent env r outcome _ hcomplete henv hrequest _ =>
    obtain ⟨hbody, hsigned⟩ := request_ok hrequest
    refine ⟨?_, le_rfl, ?_, ?_, ?_, ?_⟩
    · rintro (hlacks | ⟨e, he⟩)
      · exact absurd hlacks hcomplete
      · exact nomatch henv.symm.trans he
    · intro x hx
      obtain rfl := List.mem_singleton.mp hx
      refine ⟨⟨env, henv, hbody⟩, ?_⟩
      rwa [credentials, PublishCredentials.trimmed, trimmed_trimmed] at hsigned
    · rw [exit_sentReport_iff]
      simp
    · intro hexit
      have htaken := verdict_ok_iff.mpr (exit_sentReport_iff.mp hexit)
      obtain ⟨message, hmessage, htype⟩ := env.type_read
      refine ⟨_, List.mem_singleton_self _, message, env.resolvedType, ?_, htype, ?_⟩
      · rw [hbody]
        exact hmessage
      · rw [sentReport, htaken]
    · rw [Ne, exit_sentReport_iff, ← verdict_ok_iff, sentReport]
      intro huntaken
      cases hverdict : verdict outcome with
      | error e => rfl
      | ok _ => exact absurd hverdict huntaken

/-- Whatever the flags say and whatever the dashboard answers, the command makes at most one
request, which is the signed body of the event, and succeeds exactly if that was taken. Credentials
that were let through are never found missing when publishing. -/
theorem publishes_once_and_tells (around : Surroundings ω) (w : ω) :
    (∀ environment arguments rest values,
      readCommand ["serve", "publish"] arguments = .ok ("publish", rest) →
      readValues publishFlags environment rest = .ok values →
      run around environment arguments w = publishOnce around (PublishArgs.ofValues values) w) ∧
    ∀ a : PublishArgs,
      (∃ report log next, publishOnce around a w = (report, next) ∧
        publishOnce around.recorded a (w, []) = (report, next, log) ∧
        Truthful around a report log) ∧
      ∀ c, a.resolve = .ok c → ∀ body w,
        (Publish.publish around.network c.credentials body w).1 ≠ .error .missingConfiguration := by
  constructor
  · intro environment arguments rest values hcommand hvalues
    exact run_publish hcommand hvalues around w
  · intro a
    constructor
    · obtain ⟨report, log, next, hcourse, hrun, hrecorded⟩ := exists_course around a w
      exact ⟨report, log, next, hrun, hrecorded, hcourse.truthful⟩
    · intro c hresolve
      by_cases hlacks : a.LacksCredentials
      · exact nomatch (PublishArgs.resolve_lacking hlacks).symm.trans hresolve
      · obtain ⟨hcomplete, hresolve'⟩ := PublishArgs.resolve_complete hlacks
        obtain rfl := Except.ok.inj (hresolve'.symm.trans hresolve)
        exact publish_configured around.network hcomplete

def answering (status : Nat) : Surroundings Unit where
  network _ w := (.answered status [], w)
  stamp := ⟨.epoch, "u"⟩
  openDatabase _ := .ok ()
  bind _ := none

def paddedLine : List String :=
  ["--endpoint= http://dash/ ", "--token", "t", "--secret", " key ", "--service", " billing ",
    "--environment=prod"]

def paddedValues : Values :=
  [("endpoint", " http://dash/ "), ("token", "t"), ("secret", " key "), ("service", " billing "),
    ("environment", "prod")]

theorem padded_line_published :
    readCommand ["serve", "publish"] ("publish" :: paddedLine) = .ok ("publish", paddedLine) ∧
      readValues publishFlags [] paddedLine = .ok paddedValues ∧
      (run (answering 299) [] ("publish" :: paddedLine) ()).1 =
        { exit := 0
          stdout :=
            "Published dev.cdevents.service.deployed.0.3.0 for service=billing env=prod\n" } := by
  have hcommand : readCommand ["serve", "publish"] ("publish" :: paddedLine) =
      .ok ("publish", paddedLine) := by decide
  have hvalues : readValues publishFlags [] paddedLine = .ok paddedValues := by rfl
  refine ⟨hcommand, hvalues, ?_⟩
  rw [(publishes_once_and_tells (answering 299) ()).1 _ _ _ _ hcommand hvalues]
  decide +kernel

end Program

end EventRelay
