import EventRelay.Proofs.Store.Run
import EventRelay.Store.Rows

/-!
# Statements that fail

A database may fail on any statement. An operation on its tables then fails for
the same reason and leaves every row as it was, or it does without that
statement and answers as ever. A statement by itself has no effect when it
fails, but a promotion has deleted its intent by the time it writes the mapping
and commits: what it did is undone by rolling back. A run in which statements
fail therefore leaves what the operations leave that were spared, so that what
holds after every run holds of a database that fails now and then.
-/

set_option autoImplicit false

namespace EventRelay

open EventRelay.Store

/-- An operation fails for the reason of a fault and has no effect, or it comes to what it comes to
when no statement fails. -/
inductive FailsCleanly {α σ : Type} (s : σ) (calm : Except StoreError α × σ) :
    Except StoreError α × σ → Prop where
  | struck (reason : String) : FailsCleanly s calm (.error (.backend reason), s)
  | spared : FailsCleanly s calm calm

theorem FailsCleanly.error {α σ : Type} {s : σ} {calm r : Except StoreError α × σ} {e : StoreError}
    (h : FailsCleanly s calm r) (hcalm : calm.1 = .error e → calm.2 = s) (hr : r.1 = .error e) :
    r.2 = s := by
  cases h with
  | struck reason => rfl
  | spared => exact hcalm hr

theorem FailsCleanly.spared_of_ok {α σ : Type} {s : σ} {calm r : Except StoreError α × σ} {a : α}
    (h : FailsCleanly s calm r) (hr : r.1 = .ok a) : r = calm := by
  cases h with
  | struck reason => cases hr
  | spared => rfl

theorem Faults.statement_failsCleanly {α σ : Type} (faults : Faults) (q : Statement) (s : σ)
    {effect calm : σ → Except StoreError α × σ} (h : FailsCleanly s (calm s) (effect s)) :
    FailsCleanly s (calm s) (faults.statement q effect s) := by
  unfold statement
  cases faults q with
  | some reason => exact .struck reason
  | none => exact h

theorem Faults.statement_spared {α σ : Type} {faults : Faults} {q : Statement}
    (h : faults q = none) (effect : σ → Except StoreError α × σ) (s : σ) :
    faults.statement q effect s = effect s := by
  rw [statement, h]

theorem Faults.query_spared {α : Type} {faults : Faults} {q : Statement} (h : faults q = none)
    (answer : Except StoreError α) : faults.query q answer = answer := by
  rw [query, h]

theorem Faults.statement_ok {α σ : Type} {faults : Faults} {q : Statement}
    {effect : σ → Except StoreError α × σ} {s : σ} {a : α}
    (h : (faults.statement q effect s).1 = .ok a) : faults q = none ∧ (effect s).1 = .ok a := by
  unfold statement at h
  cases hq : faults q with
  | some reason =>
    rw [hq] at h
    cases h
  | none =>
    rw [hq] at h
    exact ⟨rfl, h⟩

theorem Faults.query_ok {α : Type} {faults : Faults} {q : Statement} {answer : Except StoreError α}
    {a : α} (h : faults.query q answer = .ok a) : faults q = none ∧ answer = .ok a := by
  unfold query at h
  cases hq : faults q with
  | some reason =>
    rw [hq] at h
    cases h
  | none =>
    rw [hq] at h
    exact ⟨rfl, h⟩

theorem Faults.query_cases {α : Type} (faults : Faults) (q : Statement)
    (answer : Except StoreError α) :
    (∃ reason, faults.query q answer = .error (.backend reason)) ∨
      faults.query q answer = answer := by
  unfold query
  cases faults q with
  | some reason => exact Or.inl ⟨reason, rfl⟩
  | none => exact Or.inr rfl

/-! ## Transactions -/

namespace RowStore

variable {α β : Type}

/-- If statements fail, it is for the reason of a fault, or as they do without one; and they do not
touch what their transaction began with. -/
structure Spared (m calm : Within α) : Prop where
  before : ∀ t, (m t).2.before = t.before
  cases : ∀ t, (∃ reason, (m t).1 = .error (.backend reason)) ∨ m t = calm t

namespace Spared

theorem pure (a : α) : Spared (Pure.pure a) (Pure.pure a) :=
  ⟨fun _ => rfl, fun _ => Or.inr rfl⟩

theorem bind {m calm : Within α} {next calmNext : α → Within β} (h : Spared m calm)
    (hnext : ∀ a, Spared (next a) (calmNext a)) : Spared (m >>= next) (calm >>= calmNext) where
  before t := by
    have ht := h.before t
    rw [bind_apply]
    rcases hm : m t with ⟨e | a, t'⟩ <;> rw [hm] at ht
    · exact ht
    · exact ((hnext a).before t').trans ht
  cases t := by
    rw [bind_apply, bind_apply]
    rcases h.cases t with ⟨reason, hfail⟩ | hsame
    · rcases hm : m t with ⟨e | a, t'⟩ <;> rw [hm] at hfail <;> cases hfail
      exact Or.inl ⟨reason, rfl⟩
    · rw [← hsame]
      rcases m t with ⟨e | a, t'⟩
      · exact Or.inr rfl
      · exact (hnext a).cases t'

theorem select (faults : Faults) (q : Statement) (read : RowStore → Except StoreError α) :
    Spared (RowStore.select faults q read) (RowStore.select .empty q read) where
  before _ := rfl
  cases t := by
    rcases faults.query_cases q (read t.rows) with hfail | hsame
    · exact Or.inl hfail
    · exact Or.inr (congrArg (·, t) hsame)

theorem execute (faults : Faults) (q : Statement) (change : RowStore → RowStore) :
    Spared (RowStore.execute faults q change) (RowStore.execute .empty q change) where
  before t := by
    unfold RowStore.execute Faults.statement
    cases faults q <;> rfl
  cases t := by
    unfold RowStore.execute Faults.statement
    cases faults q with
    | some reason => exact Or.inl ⟨reason, rfl⟩
    | none => exact Or.inr rfl

end Spared

theorem promotion_spared (faults : Faults) (state : SetupState) (id : InstallationId)
    (now : Timestamp) :
    Spared (promotion faults state id now) (promotion .empty state id now) := by
  refine .bind (.select faults _ _) fun intent => .bind (.execute faults _ _) fun _ => ?_
  split
  · exact .pure _
  · exact .bind (.execute faults _ _) fun _ => .pure _

/-- However a transaction fails, its rows are those that it began with. -/
theorem conclude_error {faults : Faults} {r : Except StoreError α × Transaction} {e : StoreError}
    (h : (conclude faults r).1 = .error e) : (conclude faults r).2 = r.2.before := by
  rcases r with ⟨e | a, t⟩
  · rfl
  · unfold conclude at h ⊢
    cases hcommit : faults .commit with
    | some reason => rfl
    | none =>
      rw [hcommit] at h
      cases h

theorem conclude_cases (faults : Faults) (r : Except StoreError α × Transaction) :
    (∃ reason, (conclude faults r).1 = .error (.backend reason)) ∨
      conclude faults r = conclude .empty r := by
  rcases r with ⟨e | a, t⟩
  · exact Or.inr rfl
  · unfold conclude
    cases faults .commit with
    | some reason => exact Or.inl ⟨reason, rfl⟩
    | none => exact Or.inr rfl

theorem transact_error {faults : Faults} {body : Within α} {s : RowStore} {e : StoreError}
    (hbody : ∀ t, (body t).2.before = t.before) (h : (transact faults body s).1 = .error e) :
    (transact faults body s).2 = s := by
  unfold transact Faults.statement at h ⊢
  cases hbegin : faults .begin with
  | some reason => rfl
  | none =>
    rw [hbegin] at h
    -- the body may have changed the rows that its statements see, but not those to go back to
    exact (conclude_error h).trans (hbody ⟨s, s⟩)

theorem transact_cases (faults : Faults) {body calm : Within α} (h : Spared body calm)
    (s : RowStore) :
    (∃ reason, (transact faults body s).1 = .error (.backend reason)) ∨
      transact faults body s = transact .empty calm s := by
  unfold transact Faults.statement
  cases faults .begin with
  | some reason => exact Or.inl ⟨reason, rfl⟩
  | none =>
    show (∃ reason, (conclude faults (body ⟨s, s⟩)).1 = .error (.backend reason)) ∨
      conclude faults (body ⟨s, s⟩) = conclude .empty (calm ⟨s, s⟩)
    rcases h.cases ⟨s, s⟩ with ⟨reason, hfail⟩ | hsame
    · rcases hrun : body ⟨s, s⟩ with ⟨e | a, t⟩ <;> rw [hrun] at hfail <;> cases hfail
      exact Or.inl ⟨reason, rfl⟩
    · rw [hsame]
      exact conclude_cases faults _

theorem transact_failsCleanly (faults : Faults) {body calm : Within α} (h : Spared body calm)
    (s : RowStore) : FailsCleanly s (transact .empty calm s) (transact faults body s) := by
  rcases transact_cases faults h s with ⟨reason, hfail⟩ | hsame
  · have hundone := transact_error h.before hfail
    generalize transact faults body s = r at hfail hundone
    obtain ⟨answer, s'⟩ := r
    cases hfail
    cases hundone
    exact .struck reason
  · rw [hsame]
    exact .spared

theorem bind_ok {m : Within α} {next : α → Within β} {t : Transaction} {b : β}
    (h : ((m >>= next) t).1 = .ok b) : ∃ a t', m t = (.ok a, t') ∧ (next a t').1 = .ok b := by
  rw [bind_apply] at h
  rcases hm : m t with ⟨e | a, t'⟩ <;> rw [hm] at h
  · cases h
  · exact ⟨a, t', rfl, h⟩

theorem transact_ok {faults : Faults} {body : Within α} {s : RowStore} {a : α}
    (h : (transact faults body s).1 = .ok a) : (body ⟨s, s⟩).1 = .ok a := by
  have hconclude := (Faults.statement_ok h).2
  rcases hrun : body ⟨s, s⟩ with ⟨e | b, t⟩ <;> rw [hrun] at hconclude
  · cases hconclude
  · unfold conclude at hconclude
    cases hcommit : faults .commit <;> rw [hcommit] at hconclude <;> cases hconclude
    rfl

theorem promoteIntent_ok {faults : Faults} {state : SetupState} {id : InstallationId}
    {now : Timestamp} {s : RowStore} {p : Promotion}
    (h : (promoteIntent faults state id now s).1 = .ok p) :
    faults .selectIntent = none ∧ faults .deleteIntent = none := by
  obtain ⟨i, t, hselect, h⟩ := bind_ok (transact_ok h)
  obtain ⟨_, t, hdelete, -⟩ := bind_ok h
  exact ⟨(Faults.query_ok (congrArg Prod.fst hselect)).1,
    (Faults.statement_ok (congrArg Prod.fst hdelete)).1⟩

theorem promoteIntent_failsCleanly (faults : Faults) (state : SetupState) (id : InstallationId)
    (now : Timestamp) (s : RowStore) :
    FailsCleanly s (promoteIntent .empty state id now s) (promoteIntent faults state id now s) :=
  transact_failsCleanly faults (promotion_spared faults state id now) s

end RowStore

/-! ## Operations -/

theorem FailsCleanly.hold {α : Type} {d : Database}
    {calm r : Except StoreError α × RowStore} (h : FailsCleanly d.rows calm r) :
    FailsCleanly d (d.hold calm) (d.hold r) := by
  cases h with
  | struck reason => exact .struck reason
  | spared => exact .spared

namespace Database

section

variable (d : Database)

theorem createIntent_failsCleanly (i : SetupIntent) :
    FailsCleanly d (d.hold (createIntent i d.rows)) (createIntent i d) :=
  (d.faults.statement_failsCleanly .insertIntent d.rows .spared).hold

theorem deleteIntent_failsCleanly (state : SetupState) :
    FailsCleanly d (d.hold (deleteIntent state d.rows)) (deleteIntent state d) :=
  (d.faults.statement_failsCleanly .deleteIntent d.rows .spared).hold

theorem upsertMapping_failsCleanly (m : InstallationMapping) :
    FailsCleanly d (d.hold (upsertMapping m d.rows)) (upsertMapping m d) :=
  (d.faults.statement_failsCleanly .upsertMapping d.rows .spared).hold

theorem deleteMapping_failsCleanly (id : InstallationId) (organization : Option OrganizationId) :
    FailsCleanly d (d.hold (deleteMapping id organization d.rows))
      (deleteMapping id organization d) :=
  (d.faults.statement_failsCleanly .deleteMapping d.rows .spared).hold

theorem promoteIntent_failsCleanly (state : SetupState) (id : InstallationId) (now : Timestamp) :
    FailsCleanly d (d.hold (promoteIntent state id now d.rows)) (promoteIntent state id now d) :=
  (RowStore.promoteIntent_failsCleanly d.faults state id now d.rows).hold

theorem sweepExpired_failsCleanly (now : Timestamp) :
    FailsCleanly d (d.hold (sweepExpired now d.rows)) (sweepExpired now d) :=
  (d.faults.statement_failsCleanly .sweepIntents d.rows .spared).hold

end

/-- What a step comes to if a statement of it may fail. -/
inductive Stepped (d : Database) (op : Op) : Reply × Database → Prop where
  | struck (reason : String) : Stepped d op (.failed (.backend reason), d)
  | spared : Stepped d op (d.hold (step op d.rows))

theorem Stepped.of_failsCleanly {α : Type} {d : Database} {op : Op} {reply : α → Reply}
    {calm : Except StoreError α × RowStore} {r : Except StoreError α × Database}
    (hcalm : step op d.rows = calm.map (.of reply) id) (h : FailsCleanly d (d.hold calm) r) :
    Stepped d op (r.map (.of reply) id) := by
  cases h with
  | struck reason => exact .struck reason
  | spared =>
    have hspared : Stepped d op (d.hold (step op d.rows)) := .spared
    rwa [hcalm] at hspared

theorem Stepped.of_query {α : Type} {d : Database} {op : Op} {reply : α → Reply} {q : Statement}
    {calm : Except StoreError α} (hcalm : step op d.rows = (.of reply calm, d.rows)) :
    Stepped d op (.of reply (d.faults.query q calm), d) := by
  rcases d.faults.query_cases q calm with ⟨reason, h⟩ | h <;> rw [h]
  · exact .struck reason
  · have hspared : Stepped d op (d.hold (step op d.rows)) := .spared
    rwa [hcalm] at hspared

/-- Whatever fails, a step leaves every row, or it is the step of tables that never fail. -/
theorem step_stepped (op : Op) (d : Database) : Stepped d op (step op d) := by
  cases op with
  | createIntent i => exact .of_failsCleanly rfl (d.createIntent_failsCleanly i)
  | getIntent state => exact .of_query rfl
  | deleteIntent state => exact .of_failsCleanly rfl (d.deleteIntent_failsCleanly state)
  | upsertMapping m => exact .of_failsCleanly rfl (d.upsertMapping_failsCleanly m)
  | getMapping id => exact .of_query rfl
  | listMappings organization => exact .of_query rfl
  | deleteMapping id organization =>
    exact .of_failsCleanly rfl (d.deleteMapping_failsCleanly id organization)
  | promoteIntent state id now =>
    exact .of_failsCleanly rfl (d.promoteIntent_failsCleanly state id now)
  | sweepExpired now => exact .of_failsCleanly rfl (d.sweepExpired_failsCleanly now)

def rowsAfter : List (Faults × Op) → RowStore → RowStore
  | [], s => s
  | (faults, op) :: rest, s => rowsAfter rest (step op (⟨s, faults⟩ : Database)).2.rows

/-- A run with faults leaves the rows that the operations leave that were spared. -/
theorem exists_spared_run (acts : List (Faults × Op)) (s : RowStore) :
    ∃ spared, spared.Sublist (acts.map Prod.snd) ∧ rowsAfter acts s = after spared s := by
  induction acts generalizing s with
  | nil => exact ⟨[], .slnil, rfl⟩
  | cons act acts ih =>
    obtain ⟨faults, op⟩ := act
    have hstep := step_stepped op ⟨s, faults⟩
    unfold rowsAfter
    generalize step op (⟨s, faults⟩ : Database) = r at hstep
    -- an operation that was struck drops out of the run
    cases hstep with
    | struck reason =>
      obtain ⟨spared, hsub, hrows⟩ := ih s
      exact ⟨spared, hsub.cons op, hrows⟩
    | spared =>
      obtain ⟨spared, hsub, hrows⟩ := ih (step op s).2
      exact ⟨op :: spared, hsub.cons_cons op, hrows⟩

end Database

end EventRelay
