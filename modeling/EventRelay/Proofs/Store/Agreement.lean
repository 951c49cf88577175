import EventRelay.Proofs.Store.Rows

/-!
# The two stores agree

On every run of proper operations from empty tables, the answers are those of
the store in memory on the run whose deadlines and sweeps are cut to whole
seconds; promotion keeps its instant. The texts of failures are left out. The
only failure of tables is a state that is taken: no row that they wrote is
ever unreadable.
-/

set_option autoImplicit false

namespace EventRelay.RowStore

open EventRelay.Store

theorem rows_readable {s : RowStore} {m : MemoryStore} (h : Mirror.Shows s m) :
    (∀ r ∈ s.intents, ∃ i, r.intent = .ok i) ∧ ∀ r ∈ s.mappings, ∃ x, r.mapping = .ok x := by
  obtain ⟨rfl, hm, -⟩ := h
  constructor
  · intro r hr
    obtain ⟨i, hi, rfl⟩ := List.mem_map.mp hr
    exact ⟨_, IntentRow.intent_ofIntent (hm.intents i hi)⟩
  · intro r hr
    obtain ⟨x, hx, rfl⟩ := List.mem_map.mp hr
    exact ⟨x, MappingRow.mapping_ofMapping (hm.mappings x hx)⟩

theorem memory_failure {op : Op} {m : MemoryStore} {reason : String}
    (h : (step op m).1.plain = .failed (.backend reason)) : ∃ i, op = .createIntent i := by
  cases op with
  | createIntent i => exact ⟨i, rfl⟩
  | getIntent state =>
    simp only [step, Store.getIntent] at h
    cases hi : m.intent? state <;> rw [hi] at h <;> cases h
  | getMapping id =>
    simp only [step, Store.getMapping] at h
    cases hx : m.mapping? id <;> rw [hx] at h <;> cases h
  | deleteMapping id organization =>
    simp only [step, Store.deleteMapping, MemoryStore.deleteMapping] at h
    repeat' split at h
    all_goals cases h
  | promoteIntent state id now =>
    simp only [step, Store.promoteIntent, MemoryStore.promoteIntent] at h
    repeat' split at h
    all_goals cases h
  | _ => cases h

theorem createIntent_failure {i : SetupIntent} {s : RowStore} {reason : String}
    (h : (step (.createIntent i) s).1 = .failed (.backend reason)) :
    reason = "UNIQUE constraint failed: setup_intents.state" := by
  simp only [step, Store.createIntent, createIntent] at h
  split at h
  · cases h
    rfl
  · cases h

theorem step_failure {s : RowStore} {m : MemoryStore} {op : Op} (hs : Mirror.Shows s m)
    (hop : op.Proper) {reason : String} (h : (step op s).1 = .failed (.backend reason)) :
    (∃ i, op = .createIntent i) ∧ reason = "UNIQUE constraint failed: setup_intents.state" := by
  have ha := Mirror.step_answer hs hop
  rw [h] at ha
  obtain ⟨i, hi⟩ := memory_failure ha.symm
  cases op <;> cases hi
  exact ⟨⟨_, rfl⟩, createIntent_failure h⟩

theorem record_failure {s : RowStore} {m : MemoryStore} (hs : Mirror.Shows s m) {ops : List Op}
    (hops : Proper ops) {op : Op} {reason : String}
    (h : (op, Reply.failed (.backend reason)) ∈ record ops s) :
    (∃ i, op = .createIntent i) ∧ reason = "UNIQUE constraint failed: setup_intents.state" := by
  induction ops generalizing s m with
  | nil => cases h
  | cons o ops ih =>
    rw [record_cons] at h
    rcases List.mem_cons.mp h with he | h
    · cases (Prod.mk.inj he).1
      exact step_failure hs hops.head (Prod.mk.inj he).2.symm
    · exact ih (Mirror.step_shows hs hops.head) hops.tail h

/-- Run by run, tables answer as memory does at the grain of whole seconds. Reading never fails:
the one failure is that of creating an intent whose state is taken. -/
theorem rows_answer_as_memory {ops : List Op} (hops : Proper ops) :
    (run ops ({} : RowStore)).1.map Reply.plain =
        (run (ops.map (Op.cut Timestamp.wholeSecond)) ({} : MemoryStore)).1.map Reply.plain ∧
      (∀ op reason, (op, Reply.failed (.backend reason)) ∈ record ops ({} : RowStore) →
        (∃ i, op = .createIntent i) ∧ reason = "UNIQUE constraint failed: setup_intents.state") ∧
      (∀ r ∈ (after ops ({} : RowStore)).intents, ∃ i, r.intent = .ok i) ∧
      ∀ r ∈ (after ops ({} : RowStore)).mappings, ∃ x, r.mapping = .ok x :=
  ⟨Mirror.answers_plain empty_shows hops, fun _ _ h => record_failure empty_shows hops h,
    rows_readable (Mirror.after_shows empty_shows hops)⟩

def halfPastFive : SetupIntent := ⟨⟨"s"⟩, {}, ⟨5, 500000000, by decide⟩⟩

def fractions : List Op :=
  [.createIntent halfPastFive, .createIntent halfPastFive,
    .sweepExpired ⟨5, 900000000, by decide⟩,
    .promoteIntent ⟨"s"⟩ ⟨7⟩ ⟨5, 200000000, by decide⟩]

theorem fractions_answer_as_memory :
    Proper fractions ∧
      (run fractions ({} : RowStore)).1.map Reply.plain =
        (run (fractions.map (Op.cut Timestamp.wholeSecond)) ({} : MemoryStore)).1.map Reply.plain ∧
      (run fractions ({} : RowStore)).1.map Reply.plain =
        [.done, .failed (.backend ""), .swept 0, .promotion .expired] :=
  have hp : Proper fractions := by decide
  ⟨hp, (rows_answer_as_memory hp).1, by decide⟩

end EventRelay.RowStore
