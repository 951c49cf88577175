import EventRelay.Proofs.Store.Run
import EventRelay.Proofs.Time.Order
import EventRelay.Store.Memory

/-!
# What operations do to the store in memory

The intents and the mappings after each operation, and what every operation
keeps: no state has two intents, mappings ascend by installation, and all
that is kept is proper. An intent comes only from its creation, and it stays
until an operation names its state or a sweep finds it expired.
-/

set_option autoImplicit false

namespace EventRelay

open EventRelay.Store

def Store.Op.touches (state : SetupState) : Op → Prop
  | .createIntent intent => intent.state = state
  | .deleteIntent s => s = state
  | .promoteIntent s _ _ => s = state
  | _ => False

namespace MemoryStore

theorem mem_of_intent? {m : MemoryStore} {state : SetupState} {i : SetupIntent}
    (h : m.intent? state = some i) : i ∈ m.intents ∧ i.state = state :=
  ⟨List.mem_of_find?_eq_some h, by simpa using List.find?_some h⟩

theorem intent?_eq_none_iff {m : MemoryStore} {state : SetupState} :
    m.intent? state = none ↔ ∀ i ∈ m.intents, i.state ≠ state := by
  simp [intent?, List.find?_eq_none]

/-! ## Each operation -/

theorem intents_step (op : Op) (m : MemoryStore) :
    (step op m).2.intents =
      match op with
      | .createIntent i => if m.intent? i.state = none then m.intents ++ [i] else m.intents
      | .deleteIntent state | .promoteIntent state _ _ =>
        m.intents.filter fun i => i.state != state
      | .sweepExpired now => m.intents.filter fun i => !i.isExpired now
      | _ => m.intents := by
  cases op with
  | createIntent i =>
    simp only [step, Store.createIntent, createIntent]
    cases h : m.intent? i.state <;> rfl
  | promoteIntent state id now =>
    simp only [step, Store.promoteIntent, promoteIntent]
    cases h : m.intent? state with
    | none =>
      refine (List.filter_eq_self.mpr fun i hi => ?_).symm
      simpa using intent?_eq_none_iff.mp h i hi
    | some i =>
      simp only
      split <;> rfl
  | deleteMapping id organization =>
    simp only [step, Store.deleteMapping, deleteMapping]
    repeat' split
    all_goals rfl
  | _ => rfl

theorem mappings_step (op : Op) (m : MemoryStore) :
    (step op m).2.mappings =
      match op with
      | .upsertMapping x => Table.put key x m.mappings
      | .deleteMapping id organization => (m.deleteMapping id organization).2.mappings
      | .promoteIntent state id now => (m.promoteIntent state id now).2.mappings
      | _ => m.mappings := by
  cases op with
  | createIntent i =>
    simp only [step, Store.createIntent, createIntent]
    cases h : m.intent? i.state <;> rfl
  | _ => rfl

theorem createIntent_answer (i : SetupIntent) (m : MemoryStore) :
    (step (.createIntent i) m).1 = .done ↔ m.intent? i.state = none := by
  simp only [step, Store.createIntent, createIntent]
  cases h : m.intent? i.state with
  | none => exact iff_of_true rfl rfl
  | some i => exact iff_of_false nofun nofun

theorem createIntent_state (i : SetupIntent) (m : MemoryStore) :
    (m.createIntent i).2 =
      if m.intent? i.state = none then { m with intents := m.intents ++ [i] } else m := by
  unfold createIntent
  cases m.intent? i.state <;> simp

theorem promoteIntent_absent {m : MemoryStore} {state : SetupState} (h : m.intent? state = none)
    (id : InstallationId) (now : Timestamp) :
    m.promoteIntent state id now = (.error .notFound, m) := by
  rw [promoteIntent, h]

theorem promoteIntent_present {m : MemoryStore} {state : SetupState} {i : SetupIntent}
    (h : m.intent? state = some i) (id : InstallationId) (now : Timestamp) :
    m.promoteIntent state id now =
      if i.isExpired now then (.ok .expired, m.withoutIntent state)
      else (.ok (.completed (i.mapping id)), (m.withoutIntent state).withMapping (i.mapping id)) := by
  rw [promoteIntent, h]

theorem mapping?_withMapping (x : InstallationMapping) (j : InstallationId) (m : MemoryStore) :
    (m.withMapping x).mapping? j = if x.installation = j then some x else m.mapping? j := by
  have hj : key x = j.number ↔ x.installation = j := InstallationId.number_inj
  simp only [mapping?, withMapping, Table.find?_put, hj]

theorem intent?_withoutIntent (st state : SetupState) (m : MemoryStore) :
    (m.withoutIntent st).intent? state = if state = st then none else m.intent? state := by
  by_cases h : state = st
  · rw [if_pos h]
    simp [intent?, withoutIntent, h]
  · rw [if_neg h]
    simp only [intent?, withoutIntent, List.find?_filter]
    congr 1
    funext i
    by_cases hi : i.state = state <;> simp [hi, h]

theorem mapping?_withoutMapping (i j : InstallationId) (m : MemoryStore) :
    (m.withoutMapping i).mapping? j = if j = i then none else m.mapping? j := by
  have hij : j.number = i.number ↔ j = i := InstallationId.number_inj
  simp only [mapping?, withoutMapping, Table.find?_drop, hij]

theorem listMappings_withoutMapping (id : InstallationId) (organization : Option OrganizationId)
    (m : MemoryStore) :
    (m.withoutMapping id).listMappings organization =
      (m.listMappings organization).filter fun x => x.installation != id := by
  have hrows : (m.withoutMapping id).mappings =
      m.mappings.filter fun x => x.installation != id := by
    refine List.filter_congr fun x _ => ?_
    rw [Bool.eq_iff_iff, bne_iff_ne, bne_iff_ne, key, ne_eq, InstallationId.number_inj]
  cases organization with
  | none => exact hrows
  | some o =>
    simp only [listMappings, hrows, List.filter_filter]
    exact List.filter_congr fun x _ => Bool.and_comm _ _

theorem withoutMapping_withMapping (x : InstallationMapping) (m : MemoryStore) :
    (m.withMapping x).withoutMapping x.installation = m.withoutMapping x.installation :=
  congrArg (MemoryStore.mk m.intents) (Table.drop_put key x m.mappings)

theorem deleteMapping_owned {m : MemoryStore} {id : InstallationId} {x : InstallationMapping}
    {o : OrganizationId} (h : m.mapping? id = some x) (ho : x.profile.organization = some o) :
    m.deleteMapping id (some o) = (.ok (), m.withoutMapping id) := by
  have howned : isOwnedBy o x = true := by rw [isOwnedBy, ho, beq_self_eq_true]
  simp only [deleteMapping, h, howned, if_true]

theorem deleteMapping_refused {m : MemoryStore} {id : InstallationId} {o : OrganizationId}
    (h : ∀ x, m.mapping? id = some x → x.profile.organization ≠ some o) :
    m.deleteMapping id (some o) = (.error .notFound, m) := by
  cases hx : m.mapping? id with
  | none => simp only [deleteMapping, hx]
  | some x =>
    have hother : isOwnedBy o x = false := beq_false_of_ne (h x hx)
    simp only [deleteMapping, hx, hother, Bool.false_eq_true, if_false]

theorem orNotFound_fine {α : Type} (a : Option α) (reason : String) :
    orNotFound a ≠ .error (.backend reason) := by
  cases a <;> simp [orNotFound]

theorem deleteMapping_cases (id : InstallationId) (organization : Option OrganizationId)
    (m : MemoryStore) :
    m.deleteMapping id organization = (.ok (), m.withoutMapping id) ∨
      m.deleteMapping id organization = (.error .notFound, m) := by
  simp only [deleteMapping]
  repeat' split
  all_goals simp

theorem deleteMapping_fine (id : InstallationId) (organization : Option OrganizationId)
    (m : MemoryStore) (reason : String) :
    (m.deleteMapping id organization).1 ≠ .error (.backend reason) := by
  rcases m.deleteMapping_cases id organization with h | h <;> simp [h]

theorem promoteIntent_fine (state : SetupState) (id : InstallationId) (now : Timestamp)
    (m : MemoryStore) (reason : String) :
    (m.promoteIntent state id now).1 ≠ .error (.backend reason) := by
  simp only [promoteIntent]
  repeat' split
  all_goals simp

/-! ## What a step keeps -/

theorem mem_intents_step {op : Op} {m : MemoryStore} {i : SetupIntent}
    (h : i ∈ (step op m).2.intents) :
    i ∈ m.intents ∨ op = .createIntent i ∧ (step op m).1 = .done := by
  rw [intents_step] at h
  cases op with
  | createIntent j =>
    simp only at h
    split at h
    · rename_i hn
      rcases List.mem_append.mp h with h | h
      · exact Or.inl h
      · cases List.mem_singleton.mp h
        exact Or.inr ⟨rfl, (createIntent_answer i m).mpr hn⟩
    · exact Or.inl h
  | deleteIntent state => exact Or.inl (List.mem_filter.mp h).1
  | promoteIntent state id now => exact Or.inl (List.mem_filter.mp h).1
  | sweepExpired now => exact Or.inl (List.mem_filter.mp h).1
  | _ => exact Or.inl h

theorem find?_filter_of_find? {α : Type} {p q : α → Bool} {a : α} {l : List α}
    (h : l.find? p = some a) (ha : q a = true) : (l.filter q).find? p = some a := by
  induction l with
  | nil => cases h
  | cons b l ih =>
    by_cases hb : p b = true
    · rw [List.find?_cons_of_pos hb] at h
      cases h
      rw [List.filter_cons_of_pos ha, List.find?_cons_of_pos hb]
    · rw [List.find?_cons_of_neg hb] at h
      by_cases hq : q b = true
      · rw [List.filter_cons_of_pos hq, List.find?_cons_of_neg hb, ih h]
      · rw [List.filter_cons_of_neg hq, ih h]

theorem intent?_step_kept {op : Op} {m : MemoryStore} {state : SetupState} {i : SetupIntent}
    (h : m.intent? state = some i) (hop : ¬ op.touches state)
    (hsweep : ∀ now, op = .sweepExpired now → i.isExpired now = false) :
    (step op m).2.intent? state = some i := by
  have hi := (mem_of_intent? h).2
  unfold intent?
  rw [intents_step]
  cases op with
  | createIntent j =>
    simp only
    split
    · rw [List.find?_append, show m.intents.find? _ = some i from h]
      rfl
    · exact h
  | deleteIntent s => exact find?_filter_of_find? h (by simpa [hi] using fun e => hop e.symm)
  | promoteIntent s id now =>
    exact find?_filter_of_find? h (by simpa [hi] using fun e => hop e.symm)
  | sweepExpired now => exact find?_filter_of_find? h (by simp [hsweep now rfl])
  | _ => exact h

theorem intent?_after_kept {ops : List Op} {m : MemoryStore} {state : SetupState} {i : SetupIntent}
    (h : m.intent? state = some i) (hops : ∀ op ∈ ops, ¬ op.touches state)
    (hsweep : ∀ now, .sweepExpired now ∈ ops → i.isExpired now = false) :
    (after ops m).intent? state = some i := by
  induction ops generalizing m with
  | nil => exact h
  | cons op ops ih =>
    have hstep := intent?_step_kept h (hops op List.mem_cons_self) fun now e =>
      hsweep now (e ▸ List.mem_cons_self)
    exact ih hstep (fun o ho => hops o (List.mem_cons_of_mem op ho)) fun now hn =>
      hsweep now (List.mem_cons_of_mem op hn)

theorem only_after {ops : List Op} {m : MemoryStore} {state : SetupState} {i : SetupIntent}
    (h : ∀ j ∈ m.intents, j.state = state → j = i) (hops : ∀ op ∈ ops, ¬ op.touches state) :
    ∀ j ∈ (after ops m).intents, j.state = state → j = i := by
  induction ops generalizing m with
  | nil => exact h
  | cons op ops ih =>
    refine ih (fun j hj hs => ?_) fun o ho => hops o (List.mem_cons_of_mem op ho)
    rcases mem_intents_step hj with hj | ⟨rfl, -⟩
    · exact h j hj hs
    · exact absurd hs (hops _ List.mem_cons_self)

/-! ## Sound stores -/

structure Sound (m : MemoryStore) : Prop where
  distinct : m.intents.Pairwise fun a b => a.state ≠ b.state
  ascending : Table.Ascending key m.mappings
  intents : ∀ i ∈ m.intents, i.Proper
  mappings : ∀ x ∈ m.mappings, x.Proper

theorem sound_empty : Sound {} := by
  constructor <;> simp [Table.Ascending]

theorem Sound.mapping?_proper {m : MemoryStore} (h : m.Sound) {id : InstallationId}
    {x : InstallationMapping} (hx : m.mapping? id = some x) : id.Proper := by
  obtain ⟨hmem, hkey⟩ := h.ascending.find?_eq_some_iff.mp hx
  rw [← InstallationId.number_inj.mp hkey]
  exact (h.mappings x hmem).1

theorem Sound.intents_step {m : MemoryStore} (h : m.Sound) {op : Op} (hop : op.Proper) :
    ((step op m).2.intents.Pairwise fun a b => a.state ≠ b.state) ∧
      ∀ i ∈ (step op m).2.intents, i.Proper := by
  constructor
  · rw [MemoryStore.intents_step]
    cases op with
    | createIntent i =>
      simp only
      split
      · rename_i hn
        refine List.pairwise_append.mpr ⟨h.distinct, List.pairwise_singleton _ _, fun a ha b hb => ?_⟩
        rw [List.mem_singleton.mp hb]
        exact intent?_eq_none_iff.mp hn a ha
      · exact h.distinct
    | deleteIntent state => exact h.distinct.filter _
    | promoteIntent state id now => exact h.distinct.filter _
    | sweepExpired now => exact h.distinct.filter _
    | _ => exact h.distinct
  · intro i hi
    rcases mem_intents_step hi with hi | ⟨rfl, -⟩
    · exact h.intents i hi
    · exact hop

theorem Sound.withMapping {m : MemoryStore} (h : m.Sound) {x : InstallationMapping}
    (hx : x.Proper) :
    Table.Ascending key (m.withMapping x).mappings ∧ ∀ y ∈ (m.withMapping x).mappings, y.Proper := by
  refine ⟨h.ascending.put x, fun y hy => ?_⟩
  rcases Table.mem_put hy with rfl | hy
  · exact hx
  · exact h.mappings y hy

theorem Sound.withoutMapping {m : MemoryStore} (h : m.Sound) (id : InstallationId) :
    Table.Ascending key (m.withoutMapping id).mappings ∧
      ∀ y ∈ (m.withoutMapping id).mappings, y.Proper :=
  ⟨h.ascending.drop _, fun y hy => h.mappings y (Table.mem_drop.mp hy).1⟩

theorem Sound.mappings_step {m : MemoryStore} (h : m.Sound) {op : Op} (hop : op.Proper) :
    Table.Ascending key (step op m).2.mappings ∧ ∀ x ∈ (step op m).2.mappings, x.Proper := by
  have same := And.intro h.ascending h.mappings
  rw [MemoryStore.mappings_step]
  cases op with
  | upsertMapping x => exact h.withMapping hop
  | deleteMapping id organization =>
    rcases m.deleteMapping_cases id organization with hdelete | hdelete <;> simp only [hdelete]
    · exact h.withoutMapping id
    · exact same
  | promoteIntent state id now =>
    simp only
    cases hi : m.intent? state with
    | none =>
      rw [promoteIntent_absent hi]
      exact same
    | some i =>
      rw [promoteIntent_present hi]
      split
      · exact same
      · exact h.withMapping (SetupIntent.mapping_proper (h.intents i (mem_of_intent? hi).1) hop)
  | _ => exact same

theorem Sound.step {m : MemoryStore} (h : m.Sound) {op : Op} (hop : op.Proper) :
    (step op m).2.Sound :=
  ⟨(h.intents_step hop).1, (h.mappings_step hop).1, (h.intents_step hop).2, (h.mappings_step hop).2⟩

end MemoryStore

end EventRelay
