import EventRelay.Proofs.Store.Mirror
import EventRelay.Store.Rows

/-!
# The store in tables mirrors the store in memory

Proper values come back from their rows, an intent with its deadline cut to
the whole second. Tables written from a sound store therefore answer as that
store does, at the grain of whole seconds, and none of their rows is ever
unreadable. Rows that were put there by others are not covered.
-/

set_option autoImplicit false

namespace EventRelay

open EventRelay.Store

theorem ProfileRow.profile_ofProfile {p : TenantProfile} (h : p.Proper) :
    (ofProfile p).profile = p := by
  have ho : (p.organization.map OrganizationId.number).bind OrganizationId.ofInt? =
      p.organization := by
    cases hp : p.organization with
    | none => rfl
    | some o => exact OrganizationId.ofInt?_number (h o hp)
  rw [ProfileRow.profile, ofProfile, ho]

theorem IntentRow.intent_ofIntent {i : SetupIntent} (h : i.Proper) :
    (ofIntent i).intent = .ok { i with expiresAt := i.expiresAt.wholeSecond } := by
  have hs : SetupState.ofText? i.state.token = some i.state := h.1
  simp only [IntentRow.intent, ofIntent, hs, Timestamp.ofSeconds?_seconds,
    ProfileRow.profile_ofProfile h.2]

theorem MappingRow.mapping_ofMapping {x : InstallationMapping} (h : x.Proper) :
    (ofMapping x).mapping = .ok x := by
  have he : ((if x.enabled then 1 else 0 : Int) != 0) = x.enabled := by
    cases x.enabled <;> rfl
  simp only [MappingRow.mapping, ofMapping, InstallationId.ofInt?_number h.1,
    ProfileRow.profile_ofProfile h.2, he]

namespace RowStore

def ofMemory (m : MemoryStore) : RowStore :=
  ⟨m.intents.map IntentRow.ofIntent, m.mappings.map MappingRow.ofMapping⟩

def Whole (m : MemoryStore) : Prop := ∀ i ∈ m.intents, i.expiresAt.wholeSecond = i.expiresAt

/-! ## Intents -/

theorem intentRow?_ofMemory (state : SetupState) (m : MemoryStore) :
    (ofMemory m).intentRow? state = (m.intent? state).map IntentRow.ofIntent := by
  have hp : (fun r : IntentRow => r.state == state.token) ∘ IntentRow.ofIntent =
      fun i => i.state == state := by
    funext i
    exact Bool.eq_iff_iff.mpr (by simp [IntentRow.ofIntent, SetupState.token_inj])
  simp only [intentRow?, ofMemory, List.find?_map, hp, MemoryStore.intent?]

theorem withoutIntent_ofMemory (state : SetupState) (m : MemoryStore) :
    (ofMemory m).withoutIntent state = ofMemory (m.withoutIntent state) := by
  have hp : (fun r : IntentRow => r.state != state.token) ∘ IntentRow.ofIntent =
      fun i => i.state != state := by
    funext i
    exact Bool.eq_iff_iff.mpr (by simp [IntentRow.ofIntent, SetupState.token_inj])
  simp only [withoutIntent, MemoryStore.withoutIntent, ofMemory, List.filter_map, hp]

theorem createIntent_ofMemory (i : SetupIntent) (m : MemoryStore) :
    ((step (.createIntent i) (ofMemory m)).1.plain =
      (step (Op.cut Timestamp.wholeSecond (.createIntent i)) m).1.plain) ∧
    (step (.createIntent i) (ofMemory m)).2 =
      ofMemory (step (Op.cut Timestamp.wholeSecond (.createIntent i)) m).2 := by
  simp only [step, Op.cut, Store.createIntent, createIntent, MemoryStore.createIntent,
    intentRow?_ofMemory]
  cases m.intent? i.state with
  | none => exact ⟨rfl, by simp [ofMemory, IntentRow.ofIntent, Timestamp.wholeSecond]⟩
  | some j => exact ⟨rfl, rfl⟩

theorem getIntent_ofMemory {m : MemoryStore} (hm : m.Sound) (hw : Whole m) (state : SetupState) :
    (ofMemory m).getIntent state = MemoryStore.orNotFound (m.intent? state) := by
  rw [getIntent, intentRow?_ofMemory]
  cases h : m.intent? state with
  | none => rfl
  | some i =>
    have hi := (MemoryStore.mem_of_intent? h).1
    simp only [Option.map_some, IntentRow.intent_ofIntent (hm.intents i hi), hw i hi,
      MemoryStore.orNotFound]

/-! ## Mappings -/

theorem withMapping_ofMemory (x : InstallationMapping) (m : MemoryStore) :
    (ofMemory m).withMapping x = ofMemory (m.withMapping x) :=
  congrArg (RowStore.mk _) (Table.put_map MappingRow.ofMapping MappingRow.installation x m.mappings)

theorem getMapping_ofMemory {m : MemoryStore} (hm : m.Sound) (id : InstallationId) :
    (ofMemory m).getMapping id = MemoryStore.orNotFound (m.mapping? id) := by
  have hf : Table.find? MappingRow.installation id.number (ofMemory m).mappings =
      (m.mapping? id).map MappingRow.ofMapping := Table.find?_map _ _ _ _
  rw [getMapping, hf]
  cases h : m.mapping? id with
  | none => rfl
  | some x =>
    have hx := (hm.ascending.find?_eq_some_iff.mp h).1
    exact MappingRow.mapping_ofMapping (hm.mappings x hx)

theorem readRows_ofMapping {xs : List InstallationMapping} (h : ∀ x ∈ xs, x.Proper) :
    readRows (xs.map MappingRow.ofMapping) = .ok xs := by
  induction xs with
  | nil => rfl
  | cons x xs ih =>
    rw [List.map_cons, readRows, MappingRow.mapping_ofMapping (h x List.mem_cons_self)]
    simp only [ih fun y hy => h y (List.mem_cons_of_mem x hy)]
    rfl

theorem isOwnedBy_ofMapping (o : OrganizationId) (x : InstallationMapping) :
    isOwnedBy o (MappingRow.ofMapping x) = MemoryStore.isOwnedBy o x := by
  unfold isOwnedBy MemoryStore.isOwnedBy MappingRow.ofMapping ProfileRow.ofProfile
  cases x.profile.organization with
  | none => rfl
  | some owner =>
    cases o
    cases owner
    simp

theorem listMappings_ofMemory {m : MemoryStore} (hm : m.Sound)
    (organization : Option OrganizationId) :
    (ofMemory m).listMappings organization = .ok (m.listMappings organization) := by
  cases organization with
  | none => exact readRows_ofMapping hm.mappings
  | some o =>
    have hp : isOwnedBy o ∘ MappingRow.ofMapping = MemoryStore.isOwnedBy o :=
      funext (isOwnedBy_ofMapping o)
    rw [listMappings, ofMemory, List.filter_map, hp]
    exact readRows_ofMapping fun x hx => hm.mappings x (List.mem_filter.mp hx).1

/-- An owner and an installation together match the row that the installation alone finds. -/
theorem deleteMapping_ofMemory {m : MemoryStore} (hm : m.Sound) (id : InstallationId)
    (organization : Option OrganizationId) :
    (ofMemory m).deleteMapping id organization =
      ((m.deleteMapping id organization).1, ofMemory (m.deleteMapping id organization).2) := by
  cases organization with
  | none =>
    exact congrArg (fun rows => (Except.ok (), RowStore.mk _ rows))
      (Table.drop_map MappingRow.ofMapping MappingRow.installation id.number m.mappings)
  | some o =>
    have hp : ((fun r : MappingRow => r.installation == id.number && isOwnedBy o r) ∘
        MappingRow.ofMapping) = fun x => MemoryStore.key x == id.number && MemoryStore.isOwnedBy o x :=
      funext fun x => by rw [Function.comp_apply, isOwnedBy_ofMapping]; rfl
    have hn : ((fun r : MappingRow => !(r.installation == id.number && isOwnedBy o r)) ∘
        MappingRow.ofMapping) =
          fun x => !(MemoryStore.key x == id.number && MemoryStore.isOwnedBy o x) :=
      funext fun x => congrArg not (congrFun hp x)
    simp only [deleteMapping, MemoryStore.deleteMapping, ofMemory, List.any_map, List.filter_map,
      hp, hn, hm.ascending.any_key_and]
    cases hx : m.mapping? id with
    | none =>
      rw [show Table.find? MemoryStore.key id.number m.mappings = none from hx]
      rfl
    | some x =>
      have hf : Table.find? MemoryStore.key id.number m.mappings = some x := hx
      rw [hf]
      simp only [Option.any_some]
      split
      · rename_i ho
        rw [hm.ascending.filter_key_and (by rw [hf]; exact ho)]
        rfl
      · rfl

/-! ## Promotion and sweeps -/

theorem promoteIntent_ofMemory {m : MemoryStore} (hm : m.Sound) (hw : Whole m)
    (state : SetupState) (id : InstallationId) (now : Timestamp) :
    promoteIntent .empty state id now (ofMemory m) =
      ((m.promoteIntent state id now).1, ofMemory (m.promoteIntent state id now).2) := by
  have hget := getIntent_ofMemory hm hw state
  cases h : m.intent? state with
  | none =>
    rw [h] at hget
    rw [promoteIntent_failed hget, MemoryStore.promoteIntent_absent h]
  | some i =>
    rw [h] at hget
    rw [promoteIntent_found hget, MemoryStore.promoteIntent_present h]
    simp only [withoutIntent_ofMemory, withMapping_ofMemory]
    split <;> rfl

theorem sweepExpired_ofMemory {m : MemoryStore} (hw : Whole m) (now : Timestamp) :
    (ofMemory m).sweepExpired now =
      ((m.sweepExpired now.wholeSecond).1, ofMemory (m.sweepExpired now.wholeSecond).2) := by
  have hpast : ∀ i ∈ m.intents,
      isPast now (IntentRow.ofIntent i) = i.isExpired now.wholeSecond := by
    intro i hi
    have hlt := Timestamp.wholeSecond_lt_iff i.expiresAt now
    rw [hw i hi] at hlt
    exact decide_eq_decide.mpr hlt.symm
  have hcount : (m.intents.map IntentRow.ofIntent).countP (isPast now) =
      m.intents.countP fun i => i.isExpired now.wholeSecond := by
    rw [List.countP_map]
    exact List.countP_congr fun i hi => by rw [Function.comp_apply, hpast i hi]
  have hrest : (m.intents.map IntentRow.ofIntent).filter (fun r => !isPast now r) =
      (m.intents.filter fun i => !i.isExpired now.wholeSecond).map IntentRow.ofIntent := by
    rw [List.filter_map]
    exact congrArg _ (List.filter_congr fun i hi => by rw [Function.comp_apply, hpast i hi])
  simp only [sweepExpired, MemoryStore.sweepExpired, ofMemory, hcount, hrest]

/-! ## Every operation -/

theorem step_ofMemory {m : MemoryStore} (hm : m.Sound) (hw : Whole m) (op : Op) :
    (step op (ofMemory m)).1.plain = (step (op.cut Timestamp.wholeSecond) m).1.plain ∧
      (step op (ofMemory m)).2 = ofMemory (step (op.cut Timestamp.wholeSecond) m).2 := by
  cases op with
  | createIntent i => exact createIntent_ofMemory i m
  | getIntent state =>
    have h := getIntent_ofMemory hm hw state
    exact ⟨congrArg (fun r => (Reply.of Reply.intent r).plain) h, rfl⟩
  | deleteIntent state => exact ⟨rfl, withoutIntent_ofMemory state m⟩
  | upsertMapping x => exact ⟨rfl, withMapping_ofMemory x m⟩
  | getMapping id =>
    have h := getMapping_ofMemory hm id
    exact ⟨congrArg (fun r => (Reply.of Reply.mapping r).plain) h, rfl⟩
  | listMappings organization =>
    have h := listMappings_ofMemory hm organization
    exact ⟨congrArg (fun r => (Reply.of Reply.mappings r).plain) h, rfl⟩
  | deleteMapping id organization =>
    have h := deleteMapping_ofMemory hm id organization
    exact ⟨congrArg (fun r => (Reply.of (fun _ => Reply.done) r).plain) (congrArg Prod.fst h),
      congrArg Prod.snd h⟩
  | promoteIntent state id now =>
    have h := promoteIntent_ofMemory hm hw state id now
    exact ⟨congrArg (fun r => (Reply.of Reply.promotion r).plain) (congrArg Prod.fst h),
      congrArg Prod.snd h⟩
  | sweepExpired now =>
    have h := sweepExpired_ofMemory hw now
    exact ⟨congrArg (fun r => (Reply.of Reply.swept r).plain) (congrArg Prod.fst h),
      congrArg Prod.snd h⟩

theorem Whole.step {m : MemoryStore} (hw : Whole m) (op : Op) :
    Whole (step (op.cut Timestamp.wholeSecond) m).2 := by
  intro i hi
  rcases MemoryStore.mem_intents_step hi with hi | ⟨hop, -⟩
  · exact hw i hi
  · cases op <;> cases hop
    rfl

instance : Mirror RowStore where
  grain := Timestamp.wholeSecond
  Shows s m := s = ofMemory m ∧ m.Sound ∧ Whole m
  grain_le := Timestamp.wholeSecond_le
  sound h := h.2.1
  unique h h' := h.1.trans h'.1.symm
  step_answer h _ := h.1 ▸ (step_ofMemory h.2.1 h.2.2 _).1
  step_shows h hop :=
    ⟨h.1 ▸ (step_ofMemory h.2.1 h.2.2 _).2, h.2.1.step (Op.cut_proper hop), h.2.2.step _⟩

theorem empty_shows : Mirror.Shows ({} : RowStore) {} :=
  ⟨rfl, MemoryStore.sound_empty, fun _ hi => absurd hi List.not_mem_nil⟩

end RowStore

end EventRelay
