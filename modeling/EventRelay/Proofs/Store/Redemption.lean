import EventRelay.Proofs.Store.Rows

/-!
# Intents are redeemed once

An intent that is not there stays away until it is created, and promotion
takes it away whatever comes of it. So between two creations at most one
promotion completes, with the profile of the creation; all later ones find
nothing. This is proved of the store in memory and holds of every store that
mirrors it. Each list of operations is one order in which clients may come.
-/

set_option autoImplicit false

namespace EventRelay.Store

def created? (state : SetupState) : Op × Reply → Option TenantProfile
  | (.createIntent i, .done) => if i.state = state then some i.profile else none
  | _ => none

def completes (state : SetupState) : Op × Reply → Bool
  | (.promoteIntent s _ _, .promotion (.completed _)) => s == state
  | _ => false

def latest? (state : SetupState) (events : List (Op × Reply)) : Option TenantProfile :=
  events.reverse.findSome? (created? state)

/-- The operation redeems or discards the intent of the state, deletes it, or sweeps it away. -/
def Spends {σ : Type} [Store σ] (state : SetupState) (op : Op) (s : σ) : Prop :=
  match op with
  | .promoteIntent st _ _ => st = state ∧ ∃ p, (step op s).1 = .promotion p
  | .deleteIntent st => st = state ∧ (step op s).1 = .done
  | .sweepExpired _ =>
    (∃ i, getIntent state s = .ok i) ∧ getIntent state (step op s).2 = .error .notFound
  | _ => False

/-- What a store that starts as `empty` keeps to about the intents of one state. -/
structure RedeemsOnce {σ : Type} [Store σ] (empty : σ) (state : SetupState) : Prop where
  once : ∀ ops rest, Proper ops → Proper rest →
    (∀ e ∈ record rest (after ops empty), created? state e = none) →
    (record rest (after ops empty)).countP (completes state) ≤ 1
  spent : ∀ ops op rest id now, Proper ops → op.Proper → Proper rest → id.Proper →
    Spends state op (after ops empty) →
    (∀ e ∈ record rest (step op (after ops empty)).2, created? state e = none) →
    step (.promoteIntent state id now) (after rest (step op (after ops empty)).2) =
      (.failed .notFound, after rest (step op (after ops empty)).2)
  completed : ∀ ops id now x, Proper ops → id.Proper →
    (step (.promoteIntent state id now) (after ops empty)).1 = .promotion (.completed x) →
    (∃ p, latest? state (record ops empty) = some p ∧ x = ⟨id, p, true⟩) ∧
      (step (.getMapping id) (step (.promoteIntent state id now) (after ops empty)).2).1 =
        .mapping x

theorem latest?_concat (state : SetupState) (events : List (Op × Reply)) (e : Op × Reply) :
    latest? state (events ++ [e]) = (created? state e).or (latest? state events) :=
  findSome?_reverse_concat (created? state) events e

/-! ## In memory -/

theorem created?_of_answer {state : SetupState} {i : SetupIntent} (h : i.state = state) :
    created? state (.createIntent i, .done) = some i.profile := if_pos h

theorem absent_step {m : MemoryStore} {state : SetupState} {op : Op}
    (h : m.intent? state = none) (hno : created? state (op, (step op m).1) = none) :
    (step op m).2.intent? state = none := by
  rw [MemoryStore.intent?_eq_none_iff] at h ⊢
  intro i hi hs
  rcases MemoryStore.mem_intents_step hi with hi | ⟨rfl, hdone⟩
  · exact h i hi hs
  · rw [hdone, created?_of_answer hs] at hno
    cases hno

theorem absent_after {m : MemoryStore} {state : SetupState} {ops : List Op}
    (h : m.intent? state = none) (hno : ∀ e ∈ record ops m, created? state e = none) :
    (after ops m).intent? state = none := by
  induction ops generalizing m with
  | nil => exact h
  | cons op ops ih =>
    rw [record_cons] at hno
    exact ih (absent_step h (hno _ List.mem_cons_self)) fun e he =>
      hno e (List.mem_cons_of_mem _ he)

theorem promoteIntent_spends (m : MemoryStore) (state : SetupState) (id : InstallationId)
    (now : Timestamp) : (step (.promoteIntent state id now) m).2.intent? state = none := by
  rw [MemoryStore.intent?, MemoryStore.intents_step]
  exact (MemoryStore.intent?_withoutIntent state state m).trans (if_pos rfl)

theorem deleteIntent_spends (m : MemoryStore) (state : SetupState) :
    (step (.deleteIntent state) m).2.intent? state = none :=
  (MemoryStore.intent?_withoutIntent state state m).trans (if_pos rfl)

theorem step_promoteIntent_absent {m : MemoryStore} {state : SetupState}
    (h : m.intent? state = none) (id : InstallationId) (now : Timestamp) :
    step (.promoteIntent state id now) m = (.failed .notFound, m) := by
  simp only [step, Store.promoteIntent, MemoryStore.promoteIntent_absent h]
  rfl

/-- A promotion completes only where the intent is, and leaves none. -/
theorem completes_step {m : MemoryStore} {state : SetupState} {op : Op}
    (h : completes state (op, (step op m).1) = true) :
    m.intent? state ≠ none ∧ (step op m).2.intent? state = none := by
  cases op with
  | promoteIntent s id now =>
    have hs : s = state := by
      unfold completes at h
      split at h
      · rename_i heq
        cases (Prod.mk.inj heq).1
        exact eq_of_beq h
      · cases h
    subst hs
    refine ⟨fun hn => ?_, promoteIntent_spends m s id now⟩
    rw [step_promoteIntent_absent hn] at h
    cases h
  | _ => cases h

theorem completes_le {m : MemoryStore} {state : SetupState} {ops : List Op}
    (hno : ∀ e ∈ record ops m, created? state e = none) :
    (record ops m).countP (completes state) ≤ if m.intent? state = none then 0 else 1 := by
  induction ops generalizing m with
  | nil => exact Nat.zero_le _
  | cons op ops ih =>
    rw [record_cons] at hno ⊢
    have hrest := ih fun e he => hno e (List.mem_cons_of_mem _ he)
    rw [List.countP_cons]
    by_cases hc : completes state (op, (step op m).1) = true
    · obtain ⟨hm, hn⟩ := completes_step hc
      rw [if_pos hn] at hrest
      rw [if_pos hc, if_neg hm]
      omega
    · rw [if_neg hc]
      by_cases hm : m.intent? state = none
      · rw [if_pos (absent_step hm (hno _ List.mem_cons_self))] at hrest
        rw [if_pos hm]
        exact hrest
      · rw [if_neg hm]
        split at hrest <;> omega

theorem latest_step {m : MemoryStore} {past : List (Op × Reply)} {op : Op}
    (h : ∀ i ∈ m.intents, latest? i.state past = some i.profile) :
    ∀ i ∈ (step op m).2.intents,
      latest? i.state (past ++ [(op, (step op m).1)]) = some i.profile := by
  intro i hi
  rw [latest?_concat]
  rcases MemoryStore.mem_intents_step hi with hold | ⟨rfl, hdone⟩
  · have hno : created? i.state (op, (step op m).1) = none := by
      unfold created?
      split
      · rename_i j heq
        cases (Prod.mk.inj heq).1
        have hj := (MemoryStore.createIntent_answer j m).mp (Prod.mk.inj heq).2
        exact if_neg (MemoryStore.intent?_eq_none_iff.mp hj i hold).symm
      · rfl
    rw [hno]
    exact h i hold
  · rw [hdone, created?_of_answer rfl]
    rfl

theorem latest_after {m : MemoryStore} {past : List (Op × Reply)} {ops : List Op}
    (h : ∀ i ∈ m.intents, latest? i.state past = some i.profile) :
    ∀ i ∈ (after ops m).intents,
      latest? i.state (past ++ record ops m) = some i.profile := by
  induction ops generalizing m past with
  | nil =>
    rw [show record [] m = [] from rfl, List.append_nil]
    exact h
  | cons op ops ih =>
    rw [record_cons, List.append_cons]
    exact ih (latest_step h)

theorem completed_step {m : MemoryStore} {state : SetupState} {id : InstallationId}
    {now : Timestamp} {x : InstallationMapping}
    (h : (step (.promoteIntent state id now) m).1 = .promotion (.completed x)) :
    ∃ i, m.intent? state = some i ∧ x = i.mapping id ∧
      (step (.getMapping id) (step (.promoteIntent state id now) m).2).1 = .mapping x := by
  cases hi : m.intent? state with
  | none =>
    rw [step_promoteIntent_absent hi] at h
    cases h
  | some i =>
    refine ⟨i, rfl, ?_⟩
    have hp := MemoryStore.promoteIntent_present hi id now
    simp only [step, Store.promoteIntent, Store.getMapping, hp] at h ⊢
    split at h
    · cases h
    · rename_i he
      cases h
      rw [if_neg he]
      have hmapping := (MemoryStore.mapping?_withMapping (i.mapping id) id
        (m.withoutIntent state)).trans (if_pos rfl)
      exact ⟨rfl, congrArg (fun found => Reply.of .mapping (MemoryStore.orNotFound found)) hmapping⟩

/-! ## In every store that mirrors memory -/

section Mirrored

open Mirror

variable {σ : Type} [Store σ] [Mirror σ] {s : σ} {m : MemoryStore}

theorem created?_plain (state : SetupState) (op : Op) (r : Reply) :
    created? state (op, r.plain) = created? state (op, r) := by
  cases r with
  | failed e => cases e <;> cases op <;> rfl
  | _ => rfl

theorem created?_cut (state : SetupState) (grain : Timestamp → Timestamp) (op : Op) (r : Reply) :
    created? state (op.cut grain, r) = created? state (op, r) := by
  cases op <;> cases r <;> rfl

theorem completes_map (state : SetupState) (h : Shows s m) {ops : List Op} (hops : Proper ops) :
    (record ops s).map (completes state) = (record (cutAll σ ops) m).map (completes state) := by
  apply record_map _ _ _ h hops
  · intro op r
    cases r with
    | failed e => cases e <;> cases op <;> rfl
    | _ => rfl
  · intro op r
    cases op <;> rfl

theorem not_created (state : SetupState) (h : Shows s m) {ops : List Op} (hops : Proper ops)
    (hno : ∀ e ∈ record ops s, created? state e = none) :
    ∀ e ∈ record (cutAll σ ops) m, created? state e = none := by
  intro e he
  have hmem := List.mem_map_of_mem (f := created? state) he
  rw [← record_map (created? state) (created?_plain state) (created?_cut state _) h hops] at hmem
  obtain ⟨e', he', heq⟩ := List.mem_map.mp hmem
  rw [← heq]
  exact hno e' he'

theorem latest?_eq (state : SetupState) (h : Shows s m) {ops : List Op} (hops : Proper ops) :
    latest? state (record ops s) = latest? state (record (cutAll σ ops) m) :=
  findSome?_record (created? state) (created?_plain state) (created?_cut state _) h hops

/-- After it, the store in memory has no intent of the state. -/
theorem Spends.absent {state : SetupState} {op : Op} (h : Shows s m) (hop : op.Proper)
    (hspend : Spends state op s) : (step (op.cut (grain σ)) m).2.intent? state = none := by
  cases op with
  | promoteIntent st id now =>
    obtain ⟨rfl, -⟩ := hspend
    exact promoteIntent_spends m st id now
  | deleteIntent st =>
    obtain ⟨rfl, -⟩ := hspend
    exact deleteIntent_spends m st
  | sweepExpired now =>
    have hg := hspend.2
    rw [getIntent_eq (step_shows h hop)] at hg
    cases hi : (step (Op.cut (grain σ) (.sweepExpired now)) m).2.intent? state with
    | none => rfl
    | some i =>
      rw [hi] at hg
      cases hg
  | _ => exact hspend.elim

theorem redeems_once_of_shows {empty : σ} (h : Shows empty {}) (state : SetupState) :
    RedeemsOnce empty state where
  once ops rest hops hrest hno := by
    have hs := after_shows h hops
    have hle := completes_le (not_created state hs hrest hno)
    have hcount : (record rest (after ops empty)).countP (completes state) =
        (record (cutAll σ rest) (after (cutAll σ ops) ({} : MemoryStore))).countP (completes state) := by
      have hmap := congrArg (List.countP id) (completes_map state hs hrest)
      rwa [List.countP_map, List.countP_map] at hmap
    rw [hcount]
    split at hle <;> omega
  spent ops op rest id now hops hop hrest hid hspend hno := by
    have hs := after_shows h hops
    have hs' := step_shows hs hop
    have hrest' := after_shows hs' hrest
    have hgone := absent_after (Spends.absent hs hop hspend) (not_created state hs' hrest hno)
    have hm := step_promoteIntent_absent hgone id now
    have hp : (Op.promoteIntent state id now).Proper := hid
    apply Prod.ext
    · exact (answer_iff hrest' hp (by simp)).mpr (congrArg Prod.fst hm)
    · have hnext := step_shows hrest' hp
      rw [show step (Op.cut (grain σ) (.promoteIntent state id now)) _ = _ from hm] at hnext
      exact unique hnext hrest'
  completed ops id now x hops hid hx := by
    have hs := after_shows h hops
    have hp : (Op.promoteIntent state id now).Proper := hid
    have hm := (answer_iff hs hp (by simp)).mp hx
    obtain ⟨i, hi, rfl, hget⟩ := completed_step hm
    obtain ⟨hmem, rfl⟩ := MemoryStore.mem_of_intent? hi
    constructor
    · refine ⟨i.profile, ?_, rfl⟩
      have hempty : ∀ j ∈ ({} : MemoryStore).intents, latest? j.state [] = some j.profile :=
        fun _ hj => absurd hj List.not_mem_nil
      rw [latest?_eq i.state h hops]
      exact latest_after hempty i hmem
    · have hget' : (Op.getMapping id).Proper := trivial
      exact (answer_iff (step_shows hs hp) hget' (by simp)).mpr hget

end Mirrored

/-- Either store redeems an intent at most once for each time that it was created. -/
theorem intents_redeemed_once (state : SetupState) :
    RedeemsOnce ({} : MemoryStore) state ∧ RedeemsOnce ({} : RowStore) state :=
  ⟨redeems_once_of_shows memory_shows state, redeems_once_of_shows RowStore.empty_shows state⟩

def rivals : List Op :=
  [.promoteIntent ⟨"s"⟩ ⟨7⟩ ⟨5, 250000000, by decide⟩,
    .promoteIntent ⟨"s"⟩ ⟨8⟩ ⟨5, 300000000, by decide⟩]

def firstIntent : List Op := [.createIntent ⟨⟨"s"⟩, {}, ⟨9, 500000000, by decide⟩⟩]

theorem rivals_redeem_once :
    Proper firstIntent ∧ Proper rivals ∧
      (record rivals (after firstIntent ({} : MemoryStore))).countP (completes ⟨"s"⟩) = 1 ∧
      (record rivals (after firstIntent ({} : RowStore))).countP (completes ⟨"s"⟩) = 1 := by
  have hfirst : Proper firstIntent := by decide
  have hrivals : Proper rivals := by decide
  obtain ⟨hmemory, hrows⟩ := intents_redeemed_once ⟨"s"⟩
  refine ⟨hfirst, hrivals, le_antisymm ?_ (by decide), le_antisymm ?_ (by decide)⟩
  · exact hmemory.once firstIntent rivals hfirst hrivals (by decide)
  · exact hrows.once firstIntent rivals hfirst hrivals (by decide)

end EventRelay.Store
