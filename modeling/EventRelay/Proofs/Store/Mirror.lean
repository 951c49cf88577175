import EventRelay.Proofs.Store.Memory

/-!
# Stores that mirror the store in memory

Each state of such a store shows one state of the store in memory, and a
proper operation gives the same answer and leads to what it leads to there.
Deadlines, and the instants of sweeps, may be cut to a grain before they
count; the texts of failures may differ. What holds of every run in memory
can so be carried over to every store that mirrors it.
-/

set_option autoImplicit false

namespace EventRelay.Store

def Op.cut (grain : Timestamp → Timestamp) : Op → Op
  | .createIntent i => .createIntent { i with expiresAt := grain i.expiresAt }
  | .sweepExpired now => .sweepExpired (grain now)
  | op => op

def Reply.plain : Reply → Reply
  | .failed (.backend _) => .failed (.backend "")
  | reply => reply

theorem Reply.plain_plain (r : Reply) : r.plain.plain = r.plain := by
  cases r with
  | failed e => cases e <;> rfl
  | _ => rfl

theorem Reply.of_injective {α : Type} {f : α → Reply} (hf : ∀ a b, f a = f b → a = b)
    (hn : ∀ a e, f a ≠ .failed e) {a b : Except StoreError α} (h : of f a = of f b) : a = b := by
  cases a with
  | ok a =>
    cases b with
    | ok b => rw [hf a b h]
    | error e => exact absurd h (hn a e)
  | error e =>
    cases b with
    | ok b => exact absurd h.symm (hn b e)
    | error e' => rw [Reply.failed.inj h]

theorem Reply.eq_of_plain {r r' : Reply} (h : r.plain = r'.plain)
    (hr : ∀ reason, r' ≠ .failed (.backend reason)) : r = r' := by
  cases r' with
  | failed e =>
    cases e with
    | notFound =>
      cases r with
      | failed e => cases e <;> cases h; rfl
      | _ => cases h
    | backend reason => exact absurd rfl (hr reason)
  | _ =>
    cases r with
    | failed e => cases e <;> cases h
    | _ => exact h

class Mirror (σ : Type) [Store σ] where
  grain : Timestamp → Timestamp
  Shows : σ → MemoryStore → Prop
  grain_le (t : Timestamp) : grain t ≤ t
  sound {s : σ} {m : MemoryStore} : Shows s m → m.Sound
  unique {s s' : σ} {m : MemoryStore} : Shows s m → Shows s' m → s = s'
  step_answer {s : σ} {m : MemoryStore} {op : Op} : Shows s m → op.Proper →
    (step op s).1.plain = (step (op.cut grain) m).1.plain
  step_shows {s : σ} {m : MemoryStore} {op : Op} : Shows s m → op.Proper →
    Shows (step op s).2 (step (op.cut grain) m).2

theorem Op.cut_id (op : Op) : op.cut id = op := by
  cases op <;> rfl

theorem Op.cut_proper {grain : Timestamp → Timestamp} {op : Op} (h : op.Proper) :
    (op.cut grain).Proper := by
  cases op <;> exact h

theorem Op.cut_touches (grain : Timestamp → Timestamp) (op : Op) (state : SetupState) :
    (op.cut grain).touches state ↔ op.touches state := by
  cases op <;> exact Iff.rfl

instance : Mirror MemoryStore where
  grain := id
  Shows s m := s = m ∧ m.Sound
  grain_le := le_refl
  sound h := h.2
  unique h h' := h.1.trans h'.1.symm
  step_answer h _ := by rw [Op.cut_id, h.1]
  step_shows h hop := ⟨by rw [Op.cut_id, h.1], h.2.step (Op.cut_proper hop)⟩

namespace Mirror

variable {σ : Type} [Store σ] [Mirror σ] {s : σ} {m : MemoryStore}

/-- The run in memory that a run shows. -/
def cutAll (σ : Type) [Store σ] [Mirror σ] (ops : List Op) : List Op :=
  ops.map (Op.cut (grain σ))

theorem after_shows (h : Shows s m) {ops : List Op} (hops : Proper ops) :
    Shows (after ops s) (after (cutAll σ ops) m) := by
  induction ops generalizing s m with
  | nil => exact h
  | cons op ops ih => exact ih (step_shows h hops.head) hops.tail

/-- What does not depend on deadlines and texts is read alike off both records. -/
theorem record_map {β : Type} (f : Op × Reply → β) (hplain : ∀ op r, f (op, r.plain) = f (op, r))
    (hcut : ∀ op r, f (op.cut (grain σ), r) = f (op, r)) (h : Shows s m) {ops : List Op}
    (hops : Proper ops) : (record ops s).map f = (record (cutAll σ ops) m).map f := by
  induction ops generalizing s m with
  | nil => rfl
  | cons op ops ih =>
    have hf : f (op, (step op s).1) =
        f (op.cut (grain σ), (step (op.cut (grain σ)) m).1) := by
      rw [hcut, ← hplain, step_answer h hops.head, hplain]
    rw [cutAll, List.map_cons, record_cons, record_cons, List.map_cons, List.map_cons, hf,
      ih (step_shows h hops.head) hops.tail]
    rfl

theorem findSome?_record {β : Type} (f : Op × Reply → Option β)
    (hplain : ∀ op r, f (op, r.plain) = f (op, r))
    (hcut : ∀ op r, f (op.cut (grain σ), r) = f (op, r)) (h : Shows s m) {ops : List Op}
    (hops : Proper ops) :
    (record ops s).reverse.findSome? f = (record (cutAll σ ops) m).reverse.findSome? f := by
  have hmap : ∀ events : List (Op × Reply),
      events.reverse.findSome? f = (events.map f).reverse.findSome? id := by
    intro events
    rw [← List.map_reverse, List.findSome?_map]
    rfl
  rw [hmap, hmap, record_map f hplain hcut h hops]

theorem answers_plain (h : Shows s m) {ops : List Op} (hops : Proper ops) :
    (run ops s).1.map Reply.plain = (run (cutAll σ ops) m).1.map Reply.plain := by
  rw [run_answers, run_answers, List.map_map, List.map_map]
  exact record_map (Reply.plain ∘ Prod.snd) (fun _ r => Reply.plain_plain r) (fun _ _ => rfl) h hops

/-- Answers that are no failure of the store are the same to the letter. -/
theorem answer_iff (h : Shows s m) {op : Op} (hop : op.Proper) {r : Reply}
    (hr : ∀ reason, r ≠ .failed (.backend reason)) :
    (step op s).1 = r ↔ (step (op.cut (grain σ)) m).1 = r := by
  have ha := step_answer h hop
  constructor
  · intro e
    exact Reply.eq_of_plain (by rw [← ha, e]) hr
  · intro e
    exact Reply.eq_of_plain (by rw [ha, e]) hr

theorem eq_of_answers {α : Type} {reply : α → Reply} (hinj : ∀ a b, reply a = reply b → a = b)
    (hreply : ∀ a e, reply a ≠ .failed e) (h : Shows s m) {op : Op} (hop : op.Proper)
    {a b : Except StoreError α} (ha : (step op s).1 = .of reply a)
    (hb : (step (op.cut (grain σ)) m).1 = .of reply b)
    (hfine : ∀ reason, b ≠ .error (.backend reason)) : a = b := by
  have hr : ∀ reason, Reply.of reply b ≠ .failed (.backend reason) := by
    intro reason he
    cases b with
    | ok b => exact hreply b _ he
    | error e => exact hfine reason (congrArg Except.error (Reply.failed.inj he))
  exact Reply.of_injective hinj hreply (ha.symm.trans ((answer_iff h hop hr).mpr hb))

theorem getIntent_eq (h : Shows s m) (state : SetupState) :
    getIntent state s = MemoryStore.orNotFound (m.intent? state) := by
  have hop : (Op.getIntent state).Proper := trivial
  exact eq_of_answers (fun _ _ => Reply.intent.inj) (fun _ _ e => by cases e) h hop rfl rfl
    (MemoryStore.orNotFound_fine _)

theorem getIntent_ok_iff (h : Shows s m) {state : SetupState} {i : SetupIntent} :
    getIntent state s = .ok i ↔ m.intent? state = some i := by
  rw [getIntent_eq h]
  cases m.intent? state <;> simp [MemoryStore.orNotFound]

theorem getMapping_eq (h : Shows s m) (id : InstallationId) :
    getMapping id s = MemoryStore.orNotFound (m.mapping? id) := by
  have hop : (Op.getMapping id).Proper := trivial
  exact eq_of_answers (fun _ _ => Reply.mapping.inj) (fun _ _ e => by cases e) h hop rfl rfl
    (MemoryStore.orNotFound_fine _)

theorem listMappings_eq (h : Shows s m) (organization : Option OrganizationId) :
    listMappings organization s = .ok (m.listMappings organization) := by
  have hop : (Op.listMappings organization).Proper := trivial
  exact eq_of_answers (fun _ _ => Reply.mappings.inj) (fun _ _ e => by cases e) h hop rfl rfl nofun

theorem deleteMapping_eq (h : Shows s m) (id : InstallationId)
    (organization : Option OrganizationId) :
    (deleteMapping id organization s).1 = (m.deleteMapping id organization).1 ∧
      Shows (deleteMapping id organization s).2 (m.deleteMapping id organization).2 := by
  have hop : (Op.deleteMapping id organization).Proper := trivial
  have hanswer := eq_of_answers (fun _ _ _ => rfl) (fun _ _ e => by cases e) h hop rfl rfl
    (MemoryStore.deleteMapping_fine id organization m)
  exact ⟨hanswer, step_shows h hop⟩

theorem upsertMapping_eq (h : Shows s m) {x : InstallationMapping} (hx : x.Proper) :
    (upsertMapping x s).1 = .ok () ∧ Shows (upsertMapping x s).2 (m.withMapping x) := by
  have hop : (Op.upsertMapping x).Proper := hx
  have hanswer := eq_of_answers (b := .ok ()) (fun _ _ _ => rfl) (fun _ _ e => by cases e) h hop
    rfl rfl nofun
  exact ⟨hanswer, step_shows h hop⟩

theorem promoteIntent_eq (h : Shows s m) (state : SetupState) {id : InstallationId}
    (hid : id.Proper) (now : Timestamp) :
    (promoteIntent state id now s).1 = (m.promoteIntent state id now).1 ∧
      Shows (promoteIntent state id now s).2 (m.promoteIntent state id now).2 := by
  have hop : (Op.promoteIntent state id now).Proper := hid
  have hanswer := eq_of_answers (fun _ _ => Reply.promotion.inj) (fun _ _ e => by cases e) h hop
    rfl rfl (MemoryStore.promoteIntent_fine state id now m)
  exact ⟨hanswer, step_shows h hop⟩

theorem sweepExpired_eq (h : Shows s m) (now : Timestamp) :
    (sweepExpired now s).1 = (m.sweepExpired (grain σ now)).1 ∧
      Shows (sweepExpired now s).2 (m.sweepExpired (grain σ now)).2 := by
  have hop : (Op.sweepExpired now).Proper := trivial
  have hanswer := eq_of_answers (b := (m.sweepExpired (grain σ now)).1)
    (fun _ _ => Reply.swept.inj) (fun _ _ e => by cases e) h hop rfl rfl nofun
  exact ⟨hanswer, step_shows h hop⟩

theorem createIntent_ok_iff (h : Shows s m) {i : SetupIntent} (hi : i.Proper) :
    (createIntent i s).1 = .ok () ↔ m.intent? i.state = none := by
  have hop : (Op.createIntent i).Proper := hi
  have hdone : (step (.createIntent i) s).1 = .done ↔ (createIntent i s).1 = .ok () := by
    show Reply.of (fun _ => .done) (createIntent i s).1 = .done ↔ _
    cases (createIntent i s).1 <;> simp [Reply.of]
  rw [← hdone, answer_iff h hop (by simp)]
  exact MemoryStore.createIntent_answer _ m

theorem createIntent_shows (h : Shows s m) {i : SetupIntent} (hi : i.Proper) :
    Shows (createIntent i s).2
      (if m.intent? i.state = none then
        { m with intents := m.intents ++ [{ i with expiresAt := grain σ i.expiresAt }] }
      else m) := by
  have hop : (Op.createIntent i).Proper := hi
  have hshows : Shows (createIntent i s).2
      (m.createIntent { i with expiresAt := grain σ i.expiresAt }).2 := step_shows h hop
  rwa [MemoryStore.createIntent_state] at hshows

end Mirror

theorem memory_shows : Mirror.Shows ({} : MemoryStore) {} := ⟨rfl, MemoryStore.sound_empty⟩

end EventRelay.Store
