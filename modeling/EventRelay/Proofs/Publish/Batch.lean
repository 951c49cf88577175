import EventRelay.Publish.Delivery
import Mathlib

/-!
# What becomes of a batch

The events of a batch are built and published in turn. Those before the first
fault are delivered, the one at fault is attempted once if it can be built at
all, and whatever stands after it has no part in the run: neither the events
there nor the times at which they would have been built.
-/

set_option autoImplicit false

namespace EventRelay

structure Call where
  credentials : PublishCredentials
  body : List UInt8
  outcome : Except PublishError Unit

def Sink.recorded {κ : Type} (sink : Sink κ) : Sink (κ × List Call) where
  publish credentials body k :=
    let (outcome, next) := sink.publish credentials body k.1
    (outcome, next, k.2 ++ [⟨credentials, body, outcome⟩])

def Call.IsFor (call : Call) (credentials : PublishCredentials) (stamp : Stamp)
    (e : CanonicalEvent) : Prop :=
  call.credentials = credentials ∧ ∃ env, e.envelope stamp = .ok env ∧ call.body = env.body

namespace Batch

variable {κ : Type}

section

variable (sink : Sink κ) (credentials : PublishCredentials) (stamps : Nat → Stamp)

/-- Events that can all be built, from the given place on, and whose bodies the sink takes one
after the other: the calls that this makes and the states before and after them. -/
inductive Delivers : Nat → List CanonicalEvent → κ → List Call → κ → Prop where
  | none (n : Nat) (k : κ) : Delivers n [] k [] k
  | one {n : Nat} {e : CanonicalEvent} {env : Envelope} {rest : List CanonicalEvent}
    {k mid last : κ} {calls : List Call} (henv : e.envelope (stamps n) = .ok env)
    (htaken : sink.publish credentials env.body k = (.ok (), mid))
    (hrest : Delivers (n + 1) rest mid calls last) :
    Delivers n (e :: rest) k (⟨credentials, env.body, .ok ()⟩ :: calls) last

/-- An event at fault. It is never attempted if it cannot be built, and once if it can. -/
inductive Fails (n : Nat) (e : CanonicalEvent) (k : κ) : RelayError → List Call → κ → Prop where
  | unbuilt {cause : BuildError} (henv : e.envelope (stamps n) = .error cause) :
    Fails n e k (.build cause) [] k
  | untaken {env : Envelope} {cause : PublishError} {next : κ}
    (henv : e.envelope (stamps n) = .ok env)
    (huntaken : sink.publish credentials env.body k = (.error cause, next)) :
    Fails n e k (.publish cause) [⟨credentials, env.body, .error cause⟩] next

/-- A batch ends when all of it is delivered, or else at its first event at fault. -/
inductive Ends (n : Nat) (k : κ) :
    List CanonicalEvent → Except RelayError Nat → List Call → κ → Prop where
  | delivered {events : List CanonicalEvent} {calls : List Call} {next : κ}
    (hall : Delivers sink credentials stamps n events k calls next) :
    Ends n k events (.ok (n + events.length)) calls next
  | stopped {before after : List CanonicalEvent} {e : CanonicalEvent} {cause : RelayError}
    {calls attempt : List Call} {mid last : κ}
    (hbefore : Delivers sink credentials stamps n before k calls mid)
    (hfault : Fails sink credentials stamps (n + before.length) e mid cause attempt last) :
    Ends n k (before ++ e :: after) (.error cause) (calls ++ attempt) last

/-- The account of a batch: how it ended, which calls it made and what it left unread. -/
structure Accounts (events : List CanonicalEvent) (k : κ) (result : Except RelayError Nat)
    (calls : List Call) (next : κ) : Prop where
  ends : Ends sink credentials stamps 0 k events result calls next
  inOrder : ∀ (i : Nat) (call : Call), calls[i]? = some call →
    ∃ e, events[i]? = some e ∧ call.IsFor credentials (stamps i) e
  ok_iff : ∀ n, result = .ok n ↔
    n = events.length ∧ ∃ calls last, Delivers sink credentials stamps 0 events k calls last
  unread : ∀ before e after sent mid cause attempt last, events = before ++ e :: after →
    Delivers sink credentials stamps 0 before k sent mid →
    Fails sink credentials stamps before.length e mid cause attempt last →
    ∀ (others : List CanonicalEvent) (stamps' : Nat → Stamp),
      (∀ i ≤ before.length, stamps' i = stamps i) →
      relay sink.recorded credentials stamps' (before ++ e :: others) (k, []) =
        (result, next, calls)

end

variable {sink : Sink κ} {credentials : PublishCredentials} {stamps : Nat → Stamp} {n : Nat}
  {e : CanonicalEvent} {before events rest : List CanonicalEvent} {k mid next last : κ}
  {calls sent attempt : List Call} {cause : RelayError} {result : Except RelayError Nat}

/-! ## Running a batch -/

theorem publish_recorded {body : List UInt8} {outcome : Except PublishError Unit}
    (h : sink.publish credentials body k = (outcome, next)) (log : List Call) :
    sink.recorded.publish credentials body (k, log) =
      (outcome, next, log ++ [⟨credentials, body, outcome⟩]) := by
  simp only [Sink.recorded, h]

theorem relayFrom_delivered (h : Delivers sink credentials stamps n before k sent mid)
    (rest : List CanonicalEvent) (log : List Call) :
    relayFrom sink.recorded credentials stamps n (before ++ rest) (k, log) =
      relayFrom sink.recorded credentials stamps (n + before.length) rest (mid, log ++ sent) := by
  induction h generalizing log with
  | none n k => rw [List.nil_append, List.append_nil, List.length_nil, Nat.add_zero]
  | one henv htaken _ ih =>
    simp only [List.cons_append, relayFrom, henv, publish_recorded htaken]
    rw [ih, List.append_assoc, List.singleton_append, Nat.succ_add_eq_add_succ]
    rfl

theorem relayFrom_fails (h : Fails sink credentials stamps n e k cause attempt last)
    (rest : List CanonicalEvent) (log : List Call) :
    relayFrom sink.recorded credentials stamps n (e :: rest) (k, log) =
      (.error cause, last, log ++ attempt) := by
  cases h with
  | unbuilt henv => simp only [relayFrom, henv, List.append_nil]
  | untaken henv huntaken => simp only [relayFrom, henv, publish_recorded huntaken]

theorem Ends.relayFrom_eq (h : Ends sink credentials stamps n k events result calls next)
    (log : List Call) :
    relayFrom sink.recorded credentials stamps n events (k, log) = (result, next, log ++ calls) := by
  cases h with
  | delivered hall =>
    have hrun := relayFrom_delivered hall [] log
    rwa [List.append_nil] at hrun
  | stopped hbefore hfault =>
    rw [relayFrom_delivered hbefore, relayFrom_fails hfault, List.append_assoc]

theorem Ends.relay_eq (h : Ends sink credentials stamps 0 k events result calls next) :
    relay sink.recorded credentials stamps events (k, []) = (result, next, calls) :=
  h.relayFrom_eq []

/-- Delivering one more event in front of a batch changes nothing of how the batch ends. -/
theorem Ends.cons {env : Envelope} (henv : e.envelope (stamps n) = .ok env)
    (htaken : sink.publish credentials env.body k = (.ok (), mid))
    (h : Ends sink credentials stamps (n + 1) mid rest result calls next) :
    Ends sink credentials stamps n k (e :: rest) result
      (⟨credentials, env.body, .ok ()⟩ :: calls) next := by
  cases h with
  | delivered hall =>
    rw [Nat.succ_add_eq_add_succ]
    exact .delivered (.one henv htaken hall)
  | stopped hbefore hfault =>
    rw [Nat.succ_add_eq_add_succ] at hfault
    exact .stopped (.one henv htaken hbefore) hfault

theorem exists_ends (sink : Sink κ) (credentials : PublishCredentials) (stamps : Nat → Stamp)
    (n : Nat) (events : List CanonicalEvent) (k : κ) :
    ∃ result calls next, Ends sink credentials stamps n k events result calls next := by
  induction events generalizing n k with
  | nil => exact ⟨_, _, _, .delivered (.none n k)⟩
  | cons e rest ih =>
    cases henv : e.envelope (stamps n) with
    | error cause => exact ⟨_, _, _, .stopped (.none n k) (.unbuilt henv)⟩
    | ok env =>
      rcases hpublish : sink.publish credentials env.body k with ⟨cause | ⟨⟩, mid⟩
      · exact ⟨_, _, _, .stopped (.none n k) (.untaken henv hpublish)⟩
      · obtain ⟨result, calls, next, hends⟩ := ih (n + 1) mid
        exact ⟨result, _, next, hends.cons henv hpublish⟩

theorem relayFrom_recorded (sink : Sink κ) (credentials : PublishCredentials)
    (stamps : Nat → Stamp) (n : Nat) (events : List CanonicalEvent) (k : κ) (log : List Call) :
    Prod.map id Prod.fst (relayFrom sink.recorded credentials stamps n events (k, log)) =
      relayFrom sink credentials stamps n events k := by
  induction events generalizing n k log with
  | nil => rfl
  | cons e rest ih =>
    cases henv : e.envelope (stamps n) with
    | error cause => simp only [relayFrom, henv, Prod.map_apply, id_eq]
    | ok env =>
      rcases hpublish : sink.publish credentials env.body k with ⟨cause | ⟨⟩, mid⟩
      · simp only [relayFrom, henv, publish_recorded hpublish, hpublish, Prod.map_apply, id_eq]
      · simp only [relayFrom, henv, publish_recorded hpublish, hpublish]
        exact ih (n + 1) mid _

/-! ## The calls -/

theorem Delivers.length_eq (h : Delivers sink credentials stamps n events k calls next) :
    calls.length = events.length := by
  induction h with
  | none n k => rfl
  | one _ _ _ ih => rw [List.length_cons, List.length_cons, ih]

theorem Delivers.inOrder (h : Delivers sink credentials stamps n events k calls next) {i : Nat}
    {call : Call} (hcall : calls[i]? = some call) :
    ∃ e, events[i]? = some e ∧ call.IsFor credentials (stamps (n + i)) e := by
  induction h generalizing i with
  | none n k => cases hcall
  | @one n e env _ _ _ _ _ henv _ _ ih =>
    cases i with
    | zero =>
      cases hcall
      exact ⟨e, rfl, rfl, env, henv, rfl⟩
    | succ i =>
      rw [show n + (i + 1) = n + 1 + i from (Nat.succ_add_eq_add_succ n i).symm]
      exact ih hcall

theorem Fails.attempt_eq (h : Fails sink credentials stamps n e k cause attempt last) {i : Nat}
    {call : Call} (hcall : attempt[i]? = some call) :
    i = 0 ∧ call.IsFor credentials (stamps n) e := by
  cases h with
  | unbuilt henv => cases hcall
  | @untaken env _ _ henv _ =>
    cases i with
    | zero =>
      cases hcall
      exact ⟨rfl, rfl, env, henv, rfl⟩
    | succ i => cases hcall

theorem Ends.inOrder (h : Ends sink credentials stamps n k events result calls next) {i : Nat}
    {call : Call} (hcall : calls[i]? = some call) :
    ∃ e, events[i]? = some e ∧ call.IsFor credentials (stamps (n + i)) e := by
  cases h with
  | delivered hall => exact hall.inOrder hcall
  | @stopped before after e cause sent attempt mid last hbefore hfault =>
    rcases Nat.lt_or_ge i sent.length with hi | hi
    · rw [List.getElem?_append_left hi] at hcall
      obtain ⟨e', he', hfor⟩ := hbefore.inOrder hcall
      have hi' : i < before.length := hbefore.length_eq ▸ hi
      exact ⟨e', (List.getElem?_append_left hi').trans he', hfor⟩
    · -- past the events delivered there is the one attempt at most
      rw [List.getElem?_append_right hi, hbefore.length_eq] at hcall
      rw [hbefore.length_eq] at hi
      obtain ⟨hlast, hfor⟩ := hfault.attempt_eq hcall
      obtain rfl : i = before.length := Nat.le_antisymm (Nat.sub_eq_zero_iff_le.mp hlast) hi
      refine ⟨e, ?_, hfor⟩
      rw [List.getElem?_append_right le_rfl, Nat.sub_self, List.getElem?_cons_zero]

/-! ## The account -/

theorem Delivers.congr_stamps {stamps' : Nat → Stamp}
    (h : Delivers sink credentials stamps n events k calls next)
    (hsame : ∀ i < events.length, stamps' (n + i) = stamps (n + i)) :
    Delivers sink credentials stamps' n events k calls next := by
  induction h with
  | none n k => exact .none n k
  | one henv htaken _ ih =>
    refine .one ?_ htaken (ih fun i hi => ?_)
    · rw [← henv]
      exact congrArg _ (hsame 0 (Nat.zero_lt_succ _))
    · rw [Nat.succ_add_eq_add_succ]
      exact hsame (i + 1) (Nat.succ_lt_succ hi)

theorem Fails.congr_stamps {stamps' : Nat → Stamp}
    (h : Fails sink credentials stamps n e k cause attempt last)
    (hsame : stamps' n = stamps n) : Fails sink credentials stamps' n e k cause attempt last := by
  cases h with
  | unbuilt henv => exact .unbuilt (hsame ▸ henv)
  | untaken henv huntaken => exact .untaken (hsame ▸ henv) huntaken

theorem Ends.accounts (h : Ends sink credentials stamps 0 k events result calls next) :
    Accounts sink credentials stamps events k result calls next where
  ends := h
  inOrder i call hcall := by
    have hplace := h.inOrder hcall
    rwa [Nat.zero_add] at hplace
  ok_iff n := by
    constructor
    · rintro rfl
      cases h with
      | delivered hall => exact ⟨Nat.zero_add _, _, _, hall⟩
    · rintro ⟨rfl, others, last, hall⟩
      have hrun := (Ends.delivered hall).relay_eq.symm.trans h.relay_eq
      have hresult : Except.ok (0 + events.length) = result := congrArg Prod.fst hrun
      rw [← hresult, Nat.zero_add]
  unread := by
    rintro before e after sent mid cause attempt last rfl hbefore hfault others stamps' hsame
    rw [← Nat.zero_add before.length] at hfault
    have hrun := (Ends.stopped hbefore hfault).relay_eq.symm.trans h.relay_eq
    have hbefore' : Delivers sink credentials stamps' 0 before k sent mid :=
      hbefore.congr_stamps fun i hi => by
        rw [Nat.zero_add]
        exact hsame i hi.le
    have hfault' := hfault.congr_stamps (hsame _ (Nat.zero_add before.length).le)
    exact (Ends.stopped hbefore' hfault').relay_eq.trans hrun

/-- A batch delivers the events before its first fault, one after the other, and reads nothing
after it. -/
theorem stops_at_first_fault (sink : Sink κ) (credentials : PublishCredentials)
    (stamps : Nat → Stamp) (events : List CanonicalEvent) (k : κ) :
    ∃ result calls next, relay sink credentials stamps events k = (result, next) ∧
      relay sink.recorded credentials stamps events (k, []) = (result, next, calls) ∧
      Accounts sink credentials stamps events k result calls next := by
  obtain ⟨result, calls, next, hends⟩ := exists_ends sink credentials stamps 0 events k
  have hrecorded := hends.relay_eq
  refine ⟨result, calls, next, ?_, hrecorded, hends.accounts⟩
  exact (relayFrom_recorded sink credentials stamps 0 events k []).symm.trans
    (congrArg (Prod.map id Prod.fst) hrecorded)

def scarce : Sink Nat where
  publish _ _
    | 0 => (.error (.rejected 503 "unavailable"), 0)
    | left + 1 => (.ok (), left)

def deployed (service : String) : CanonicalEvent :=
  { eventType := "service.deployed", service := service, environment := "production" }

def midnight : Stamp := ⟨.epoch, ""⟩

theorem second_of_three_is_last :
    ∃ calls, Accounts scarce {} (fun _ => midnight) [deployed "a", deployed "b", deployed "c"] 1
        (.error (.publish (.rejected 503 "unavailable"))) calls 0 ∧
      calls.map Call.outcome = [.ok (), .error (.rejected 503 "unavailable")] := by
  obtain ⟨result, calls, next, -, hrecorded, haccounts⟩ :=
    stops_at_first_fault scarce {} (fun _ => midnight) [deployed "a", deployed "b", deployed "c"] 1
  obtain ⟨hresult, hnext, houtcomes⟩ : result = .error (.publish (.rejected 503 "unavailable")) ∧
      next = 0 ∧ calls.map Call.outcome = [.ok (), .error (.rejected 503 "unavailable")] := by
    have hrun : (relay scarce.recorded {} (fun _ => midnight)
        [deployed "a", deployed "b", deployed "c"] (1, [])).map id
          (Prod.map id (List.map Call.outcome)) = (.error (.publish (.rejected 503 "unavailable")),
            0, [.ok (), .error (.rejected 503 "unavailable")]) := by
      decide +kernel
    rw [hrecorded] at hrun
    exact ⟨congrArg Prod.fst hrun, congrArg (·.2.1) hrun, congrArg (·.2.2) hrun⟩
  rw [hresult, hnext] at haccounts
  exact ⟨calls, haccounts, houtcomes⟩

end Batch

end EventRelay
