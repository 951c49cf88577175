import EventRelay.Proofs.Store.Rows

/-!
# The table of mappings

What a store finds for an installation is what the last event about it told:
the mapping that was put or that a promotion completed, or none once it has
been deleted. A listing shows these mappings in the order of their
installations, and that of an organization those that it owns. A deletion
within an organization takes a mapping of its own, alone, or nothing.
-/

set_option autoImplicit false

namespace EventRelay

open EventRelay.Store

section

variable {σ : Type} [Store σ]

def OrganizationId.Owns (o : OrganizationId) (id : InstallationId) (s : σ) : Prop :=
  ∃ x, getMapping id s = .ok x ∧ x.profile.organization = some o

/-- From one store to the next the mapping of an installation goes, and nothing else does. -/
structure InstallationId.GoesAlone (id : InstallationId) (s s' : σ) : Prop where
  gone : getMapping id s' = .error .notFound
  others : ∀ j, j ≠ id → getMapping j s' = getMapping j s
  listed : ∀ organization, listMappings organization s' =
    (listMappings organization s).map (List.filter fun x => x.installation != id)
  intents : ∀ state, getIntent state s' = getIntent state s

end

namespace Store

/-- What an event tells of an installation: its mapping, or that it has none. A promotion tells
something only when it completes, and a deletion only when it succeeds. -/
def told? (id : InstallationId) : Op × Reply → Option (Option InstallationMapping)
  | (.upsertMapping x, _) => if x.installation = id then some (some x) else none
  | (.promoteIntent _ i _, .promotion (.completed x)) => if i = id then some (some x) else none
  | (.deleteMapping i _, .done) => if i = id then some none else none
  | _ => none

def standing? (id : InstallationId) (events : List (Op × Reply)) : Option InstallationMapping :=
  (events.reverse.findSome? (told? id)).join

section

variable {σ : Type} [Store σ]

/-- A deletion may take the mapping if it names no organization but the owner of the mapping. -/
def Permits (id : InstallationId) (organization : Option OrganizationId) (s : σ) : Prop :=
  ∀ o ∈ organization, o.Owns id s

/-- What a store keeps to about its mappings, after some events. -/
structure KeepsMappings (events : List (Op × Reply)) (s : σ) : Prop where
  found : ∀ id, getMapping id s = (standing? id events).elim (.error .notFound) .ok
  own : ∀ id x, getMapping id s = .ok x → x.installation = id
  listed : ∃ all, listMappings none s = .ok all ∧
    (all.Pairwise fun a b => a.installation.number < b.installation.number) ∧
    (∀ x, x ∈ all ↔ ∃ id, getMapping id s = .ok x) ∧
    ∀ o, listMappings (some o) s = .ok (all.filter fun x => x.profile.organization = some o)
  deleted : ∀ id organization, Permits id organization s →
    (deleteMapping id organization s).1 = .ok () ∧
      id.GoesAlone s (deleteMapping id organization s).2
  refused : ∀ id organization, ¬ Permits id organization s →
    deleteMapping id organization s = (.error .notFound, s)

end

theorem standing?_concat (id : InstallationId) (events : List (Op × Reply)) (e : Op × Reply) :
    standing? id (events ++ [e]) = (told? id e).getD (standing? id events) :=
  join_findSome?_reverse_concat (told? id) events e

/-! ## In memory -/

theorem mapping?_step (op : Op) (m : MemoryStore) (id : InstallationId) :
    (step op m).2.mapping? id = (told? id (op, (step op m).1)).getD (m.mapping? id) := by
  cases op with
  | createIntent i =>
    simp only [step, Store.createIntent, MemoryStore.createIntent]
    cases m.intent? i.state <;> rfl
  | upsertMapping x =>
    refine (MemoryStore.mapping?_withMapping x id m).trans ?_
    show _ = (if x.installation = id then some (some x) else none).getD _
    split <;> rfl
  | deleteMapping i organization =>
    simp only [step, Store.deleteMapping]
    rcases m.deleteMapping_cases i organization with hdelete | hdelete
    · simp only [hdelete, Prod.map_fst, Prod.map_snd, Reply.of, told?, id_eq,
        MemoryStore.mapping?_withoutMapping]
      by_cases hi : i = id
      · simp [hi]
      · simp [hi, Ne.symm hi]
    · simp only [hdelete]
      rfl
  | promoteIntent state i now =>
    simp only [step, Store.promoteIntent]
    cases hi : m.intent? state with
    | none =>
      rw [MemoryStore.promoteIntent_absent hi]
      rfl
    | some intent =>
      rw [MemoryStore.promoteIntent_present hi]
      split
      · rfl
      · refine (MemoryStore.mapping?_withMapping (intent.mapping i) id _).trans ?_
        show (if i = id then some (intent.mapping i) else m.mapping? id) =
          (if i = id then some (some (intent.mapping i)) else none).getD (m.mapping? id)
        split <;> rfl
  | _ => rfl

theorem mapping?_after {ops : List Op} {m : MemoryStore} {past : List (Op × Reply)}
    {id : InstallationId} (h : m.mapping? id = standing? id past) :
    (after ops m).mapping? id = standing? id (past ++ record ops m) := by
  induction ops generalizing m past with
  | nil =>
    rw [show record [] m = [] from rfl, List.append_nil]
    exact h
  | cons op ops ih =>
    have hstep : (step op m).2.mapping? id = standing? id (past ++ [(op, (step op m).1)]) := by
      rw [standing?_concat, mapping?_step, h]
    rw [record_cons, List.append_cons]
    exact ih hstep

/-! ## In every store that mirrors memory -/

section Mirrored

open Mirror

variable {σ : Type} [Store σ] [Mirror σ] {s s' : σ} {m : MemoryStore} {o : OrganizationId}
  {id : InstallationId}

theorem getMapping_ok_iff (hs : Shows s m) {x : InstallationMapping} :
    getMapping id s = .ok x ↔ m.mapping? id = some x := by
  rw [getMapping_eq hs]
  cases m.mapping? id <;> simp [MemoryStore.orNotFound]

theorem owns_iff (hs : Shows s m) :
    o.Owns id s ↔ ∃ x, m.mapping? id = some x ∧ x.profile.organization = some o := by
  simp only [OrganizationId.Owns, getMapping_ok_iff hs]

theorem owns_proper (hs : Shows s m) (h : o.Owns id s) : id.Proper ∧ o.Proper := by
  obtain ⟨x, hx, ho⟩ := (owns_iff hs).mp h
  have hsound := sound hs
  have hmem := (hsound.ascending.find?_eq_some_iff.mp hx).1
  exact ⟨hsound.mapping?_proper hx, (hsound.mappings x hmem).2 o ho⟩

theorem goesAlone_of_shows (hs : Shows s m) (hs' : Shows s' (m.withoutMapping id)) :
    id.GoesAlone s s' where
  gone := by
    rw [getMapping_eq hs', MemoryStore.mapping?_withoutMapping, if_pos rfl]
    rfl
  others j hj := by
    rw [getMapping_eq hs', getMapping_eq hs, MemoryStore.mapping?_withoutMapping, if_neg hj]
  listed organization := by
    rw [listMappings_eq hs', listMappings_eq hs, MemoryStore.listMappings_withoutMapping]
    rfl
  intents state := by
    rw [getIntent_eq hs', getIntent_eq hs]
    rfl

theorem deleteMapping_permitted (hs : Shows s m) {organization : Option OrganizationId}
    (h : Permits id organization s) :
    (deleteMapping id organization s).1 = .ok () ∧
      id.GoesAlone s (deleteMapping id organization s).2 := by
  have hm : m.deleteMapping id organization = (.ok (), m.withoutMapping id) := by
    cases organization with
    | none => rfl
    | some o =>
      obtain ⟨x, hx, ho⟩ := (owns_iff hs).mp (h o rfl)
      exact MemoryStore.deleteMapping_owned hx ho
  obtain ⟨hanswer, hshows⟩ := deleteMapping_eq hs id organization
  rw [hm] at hanswer hshows
  exact ⟨hanswer, goesAlone_of_shows hs hshows⟩

theorem deleteMapping_unpermitted (hs : Shows s m) {organization : Option OrganizationId}
    (h : ¬ Permits id organization s) :
    deleteMapping id organization s = (.error .notFound, s) := by
  obtain ⟨o, ho, hother⟩ : ∃ o, organization = some o ∧ ¬ o.Owns id s := by
    simpa [Permits] using h
  subst ho
  have hm : m.deleteMapping id (some o) = (.error .notFound, m) := by
    apply MemoryStore.deleteMapping_refused
    intro x hx hxo
    exact hother ((owns_iff hs).mpr ⟨x, hx, hxo⟩)
  obtain ⟨hanswer, hshows⟩ := deleteMapping_eq hs id (some o)
  rw [hm] at hanswer hshows
  exact Prod.ext hanswer (unique hshows hs)

/-- The listing of all mappings is the table itself. -/
theorem listMappings_table (hs : Shows s m) :
    listMappings none s = .ok m.mappings ∧
      (m.mappings.Pairwise fun a b => a.installation.number < b.installation.number) ∧
      (∀ x, x ∈ m.mappings ↔ ∃ id, getMapping id s = .ok x) ∧
      ∀ o, listMappings (some o) s =
        .ok (m.mappings.filter fun x => x.profile.organization = some o) := by
  have hascending := (sound hs).ascending
  refine ⟨listMappings_eq hs none, hascending, ?_, ?_⟩
  · intro x
    simp only [getMapping_ok_iff hs, MemoryStore.mapping?, hascending.find?_eq_some_iff]
    constructor
    · intro hx
      exact ⟨x.installation, hx, rfl⟩
    · rintro ⟨id, hx, -⟩
      exact hx
  · intro o
    rw [listMappings_eq hs]
    refine congrArg Except.ok (List.filter_congr fun x _ => ?_)
    rw [MemoryStore.isOwnedBy, Bool.eq_iff_iff, beq_iff_eq, decide_eq_true_eq]

theorem told?_plain (id : InstallationId) (op : Op) (r : Reply) :
    told? id (op, r.plain) = told? id (op, r) := by
  cases r with
  | failed e => cases e <;> cases op <;> rfl
  | _ => rfl

theorem told?_cut (id : InstallationId) (grain : Timestamp → Timestamp) (op : Op) (r : Reply) :
    told? id (op.cut grain, r) = told? id (op, r) := by
  cases op <;> rfl

theorem keepsMappings_of_shows {empty : σ} (h : Shows empty {}) {ops : List Op}
    (hops : Proper ops) : KeepsMappings (record ops empty) (after ops empty) := by
  have hs := after_shows h hops
  constructor
  case found =>
    intro id
    have hempty : ({} : MemoryStore).mapping? id = standing? id [] := rfl
    rw [getMapping_eq hs, mapping?_after hempty, List.nil_append, standing?, standing?,
      findSome?_record (told? id) (told?_plain id) (told?_cut id _) h hops]
    cases (List.findSome? (told? id) _).join <;> rfl
  case own =>
    intro id x hx
    have hfound := (getMapping_ok_iff hs).mp hx
    exact InstallationId.number_inj.mp ((sound hs).ascending.find?_eq_some_iff.mp hfound).2
  case listed => exact ⟨_, listMappings_table hs⟩
  case deleted => exact fun _ _ => deleteMapping_permitted hs
  case refused => exact fun _ _ => deleteMapping_unpermitted hs

end Mirrored

/-- After every run, both stores keep to the laws of the table. -/
theorem mappings_kept {ops : List Op} (hops : Proper ops) :
    KeepsMappings (record ops ({} : MemoryStore)) (after ops ({} : MemoryStore)) ∧
      KeepsMappings (record ops ({} : RowStore)) (after ops ({} : RowStore)) :=
  ⟨keepsMappings_of_shows memory_shows hops, keepsMappings_of_shows RowStore.empty_shows hops⟩

def handedOver : List Op :=
  [.upsertMapping ⟨⟨7⟩, { organization := some ⟨1⟩ }, true⟩,
    .createIntent ⟨⟨"s"⟩, { organization := some ⟨2⟩ }, ⟨12, 500000000, by decide⟩⟩,
    .upsertMapping ⟨⟨3⟩, { organization := some ⟨1⟩ }, true⟩,
    .promoteIntent ⟨"s"⟩ ⟨7⟩ ⟨12, 0, by decide⟩,
    .deleteMapping ⟨7⟩ (some ⟨1⟩),
    .deleteMapping ⟨3⟩ (some ⟨1⟩)]

theorem handed_over_kept :
    Proper handedOver ∧
      getMapping ⟨7⟩ (after handedOver ({} : RowStore)) =
        .ok ⟨⟨7⟩, { organization := some ⟨2⟩ }, true⟩ ∧
      getMapping ⟨3⟩ (after handedOver ({} : RowStore)) = .error .notFound := by
  have hops : Proper handedOver := by decide
  have hkept := (mappings_kept hops).2
  refine ⟨hops, (hkept.found ⟨7⟩).trans ?_, (hkept.found ⟨3⟩).trans ?_⟩
  · decide
  · decide

end Store

end EventRelay
