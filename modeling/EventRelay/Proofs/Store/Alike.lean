import EventRelay.Proofs.Tenant.Mask
import EventRelay.Store.Memory
import EventRelay.Store.Rows
import Mathlib.Data.List.Forall2

/-!
# Stores that are alike

Two states of a store are alike when they hold the same but for mask-equal
secrets. Operations that are given the same but for mask-equal secrets lead
from states that are alike to states that are alike, and answer alike: no
operation tells such secrets apart.
-/

set_option autoImplicit false

namespace EventRelay

open EventRelay.Text

/-! ## Lists that are alike -/

section Lists

variable {α : Type} {R : α → α → Prop} {s t : List α}

theorem find?_alike {p : α → Bool} (hp : ∀ a b, R a b → p a = p b) (h : List.Forall₂ R s t) :
    Option.Rel R (s.find? p) (t.find? p) := by
  induction h with
  | nil => exact .none
  | @cons a b s t hab hst ih =>
    rw [List.find?_cons, List.find?_cons, hp a b hab]
    cases p b with
    | true => exact .some hab
    | false => exact ih

theorem any_alike {p : α → Bool} (hp : ∀ a b, R a b → p a = p b) (h : List.Forall₂ R s t) :
    s.any p = t.any p := by
  induction h with
  | nil => rfl
  | @cons a b s t hab hst ih => rw [List.any_cons, List.any_cons, hp a b hab, ih]

theorem filter_alike {p : α → Bool} (hp : ∀ a b, R a b → p a = p b) (h : List.Forall₂ R s t) :
    List.Forall₂ R (s.filter p) (t.filter p) :=
  List.rel_filter (fun a b hab => iff_of_eq (congrArg (· = true) (hp a b hab))) h

theorem put_alike {key : α → Int} (hkey : ∀ a b, R a b → key a = key b) {a b : α} (hab : R a b)
    (h : List.Forall₂ R s t) : List.Forall₂ R (Table.put key a s) (Table.put key b t) := by
  induction h with
  | nil => exact .cons hab .nil
  | @cons x y s t hxy hst ih =>
    rw [Table.put, Table.put, hkey a b hab, hkey x y hxy]
    split
    · exact .cons hab (.cons hxy hst)
    · split
      · exact .cons hab hst
      · exact .cons hxy ih

end Lists

/-! ## Answers that are alike -/

namespace Store

inductive SameAnswer {ε α : Type} (R : α → α → Prop) : Except ε α → Except ε α → Prop where
  | ok {a b : α} (h : R a b) : SameAnswer R (.ok a) (.ok b)
  | error (e : ε) : SameAnswer R (.error e) (.error e)

inductive PromotionAlike : Promotion → Promotion → Prop where
  | completed {m n : InstallationMapping} (h : m.Alike n) :
    PromotionAlike (.completed m) (.completed n)
  | expired : PromotionAlike .expired .expired

/-- A store that does not tell mask-equal secrets apart. -/
class Twins (σ : Type) [Store σ] where
  Alike : σ → σ → Prop
  createIntent {s t : σ} {i j : SetupIntent} : Alike s t → i.Alike j →
    SameAnswer Eq (createIntent i s).1 (createIntent j t).1 ∧
      Alike (Store.createIntent i s).2 (Store.createIntent j t).2
  listMappings {s t : σ} (organization : Option OrganizationId) : Alike s t →
    SameAnswer (List.Forall₂ InstallationMapping.Alike) (listMappings organization s)
      (listMappings organization t)
  deleteMapping {s t : σ} (id : InstallationId) (organization : Option OrganizationId) :
    Alike s t →
      SameAnswer Eq (deleteMapping id organization s).1 (deleteMapping id organization t).1 ∧
      Alike (Store.deleteMapping id organization s).2 (Store.deleteMapping id organization t).2
  promoteIntent {s t : σ} (state : SetupState) (id : InstallationId) (now : Timestamp) :
    Alike s t → SameAnswer PromotionAlike (promoteIntent state id now s).1
        (promoteIntent state id now t).1 ∧
      Alike (Store.promoteIntent state id now s).2 (Store.promoteIntent state id now t).2

end Store

open EventRelay.Store

/-! ## In memory -/

namespace MemoryStore

structure Alike (s t : MemoryStore) : Prop where
  intents : List.Forall₂ SetupIntent.Alike s.intents t.intents
  mappings : List.Forall₂ InstallationMapping.Alike s.mappings t.mappings

variable {s t : MemoryStore}

theorem key_alike (m n : InstallationMapping) (h : m.Alike n) : key m = key n :=
  congrArg InstallationId.number h.installation

theorem isOwnedBy_alike (o : OrganizationId) (m n : InstallationMapping) (h : m.Alike n) :
    isOwnedBy o m = isOwnedBy o n := by
  rw [isOwnedBy, isOwnedBy, h.profile.organization]

namespace Alike

variable (h : s.Alike t)

include h

theorem intent? (state : SetupState) :
    Option.Rel SetupIntent.Alike (s.intent? state) (t.intent? state) :=
  find?_alike (fun i j hij => by rw [hij.state]) h.intents

theorem mapping? (id : InstallationId) :
    Option.Rel InstallationMapping.Alike (s.mapping? id) (t.mapping? id) :=
  find?_alike (fun m n hmn => by rw [key_alike m n hmn]) h.mappings

theorem withoutIntent (state : SetupState) :
    (s.withoutIntent state).Alike (t.withoutIntent state) where
  intents := filter_alike (fun i j hij => by rw [hij.state]) h.intents
  mappings := h.mappings

theorem withMapping {m n : InstallationMapping} (hmn : m.Alike n) :
    (s.withMapping m).Alike (t.withMapping n) where
  intents := h.intents
  mappings := put_alike key_alike hmn h.mappings

theorem withoutMapping (id : InstallationId) :
    (s.withoutMapping id).Alike (t.withoutMapping id) where
  intents := h.intents
  mappings := filter_alike (fun m n hmn => by rw [key_alike m n hmn]) h.mappings

theorem createIntent {i j : SetupIntent} (hij : i.Alike j) :
    SameAnswer Eq (s.createIntent i).1 (t.createIntent j).1 ∧
      (s.createIntent i).2.Alike (t.createIntent j).2 := by
  have hfound := h.intent? i.state
  unfold MemoryStore.createIntent
  rw [← hij.state]
  cases hs : s.intent? i.state <;> cases ht : t.intent? i.state <;> rw [hs, ht] at hfound
  · exact ⟨.ok rfl, List.rel_append h.intents (.cons hij .nil), h.mappings⟩
  · cases hfound
  · cases hfound
  · exact ⟨.error _, h⟩

theorem listMappings (organization : Option OrganizationId) :
    List.Forall₂ InstallationMapping.Alike (s.listMappings organization)
      (t.listMappings organization) := by
  cases organization with
  | none => exact h.mappings
  | some o => exact filter_alike (isOwnedBy_alike o) h.mappings

theorem deleteMapping (id : InstallationId) (organization : Option OrganizationId) :
    SameAnswer Eq (s.deleteMapping id organization).1 (t.deleteMapping id organization).1 ∧
      (s.deleteMapping id organization).2.Alike (t.deleteMapping id organization).2 := by
  cases organization with
  | none => exact ⟨.ok rfl, h.withoutMapping id⟩
  | some o =>
    have hfound := h.mapping? id
    simp only [MemoryStore.deleteMapping]
    generalize s.mapping? id = x at hfound
    generalize t.mapping? id = y at hfound
    cases hfound with
    | none => exact ⟨.error _, h⟩
    | @some m n hmn =>
      simp only [isOwnedBy_alike o m n hmn]
      split
      · exact ⟨.ok rfl, h.withoutMapping id⟩
      · exact ⟨.error _, h⟩

theorem promoteIntent (state : SetupState) (id : InstallationId) (now : Timestamp) :
    SameAnswer PromotionAlike (s.promoteIntent state id now).1 (t.promoteIntent state id now).1 ∧
      (s.promoteIntent state id now).2.Alike (t.promoteIntent state id now).2 := by
  have hfound := h.intent? state
  unfold MemoryStore.promoteIntent
  generalize s.intent? state = x at hfound
  generalize t.intent? state = y at hfound
  cases hfound with
  | none => exact ⟨.error _, h⟩
  | @some i j hij =>
    simp only [hij.isExpired now]
    split
    · exact ⟨.ok .expired, h.withoutIntent state⟩
    · exact ⟨.ok (.completed (hij.mapping id)),
        (h.withoutIntent state).withMapping (hij.mapping id)⟩

end Alike

instance : Twins MemoryStore where
  Alike := Alike
  createIntent h hij := Alike.createIntent h hij
  listMappings organization h := .ok (h.listMappings organization)
  deleteMapping id organization h := h.deleteMapping id organization
  promoteIntent state id now h := h.promoteIntent state id now

end MemoryStore

/-! ## In tables -/

structure ProfileRow.Alike (r r' : ProfileRow) : Prop where
  organization : r.organization = r'.organization
  label : r.label = r'.label
  endpoint : r.endpoint = r'.endpoint
  authToken : MaskEqual r.authToken r'.authToken
  webhookSecret : MaskEqual r.webhookSecret r'.webhookSecret
  defaultEnvironment : r.defaultEnvironment = r'.defaultEnvironment

structure IntentRow.Alike (r r' : IntentRow) : Prop where
  state : r.state = r'.state
  profile : r.profile.Alike r'.profile
  expiresAt : r.expiresAt = r'.expiresAt

structure MappingRow.Alike (r r' : MappingRow) : Prop where
  installation : r.installation = r'.installation
  profile : r.profile.Alike r'.profile
  enabled : r.enabled = r'.enabled

theorem TenantProfile.Alike.row {p q : TenantProfile} (h : p.Alike q) :
    (ProfileRow.ofProfile p).Alike (ProfileRow.ofProfile q) where
  organization := congrArg (Option.map OrganizationId.number) h.organization
  label := h.label
  endpoint := h.credentials.endpoint
  authToken := h.credentials.authToken
  webhookSecret := h.credentials.webhookSecret
  defaultEnvironment := h.defaultEnvironment

theorem ProfileRow.Alike.profile {r r' : ProfileRow} (h : r.Alike r') :
    r.profile.Alike r'.profile where
  organization := congrArg (fun o => o.bind OrganizationId.ofInt?) h.organization
  label := h.label
  credentials := ⟨h.endpoint, h.authToken, h.webhookSecret⟩
  defaultEnvironment := h.defaultEnvironment

theorem SetupIntent.Alike.row {i j : SetupIntent} (h : i.Alike j) :
    (IntentRow.ofIntent i).Alike (IntentRow.ofIntent j) where
  state := congrArg SetupState.token h.state
  profile := h.profile.row
  expiresAt := congrArg Timestamp.seconds h.expiresAt

theorem InstallationMapping.Alike.row {m n : InstallationMapping} (h : m.Alike n) :
    (MappingRow.ofMapping m).Alike (MappingRow.ofMapping n) where
  installation := congrArg InstallationId.number h.installation
  profile := h.profile.row
  enabled := congrArg (fun enabled : Bool => if enabled then (1 : Int) else 0) h.enabled

theorem IntentRow.Alike.intent {r r' : IntentRow} (h : r.Alike r') :
    SameAnswer SetupIntent.Alike r.intent r'.intent := by
  unfold IntentRow.intent
  rw [h.state, h.expiresAt]
  split
  · exact .error _
  · exact .error _
  · exact .ok ⟨rfl, h.profile.profile, rfl⟩

theorem MappingRow.Alike.mapping {r r' : MappingRow} (h : r.Alike r') :
    SameAnswer InstallationMapping.Alike r.mapping r'.mapping := by
  unfold MappingRow.mapping
  rw [h.installation, h.enabled]
  split
  · exact .error _
  · exact .ok ⟨rfl, h.profile.profile, rfl⟩

namespace RowStore

structure Alike (s t : RowStore) : Prop where
  intents : List.Forall₂ IntentRow.Alike s.intents t.intents
  mappings : List.Forall₂ MappingRow.Alike s.mappings t.mappings

theorem readRows_alike {rows rows' : List MappingRow}
    (h : List.Forall₂ MappingRow.Alike rows rows') :
    SameAnswer (List.Forall₂ InstallationMapping.Alike) (readRows rows) (readRows rows') := by
  induction h with
  | nil => exact .ok .nil
  | @cons r r' rows rows' hr hrows ih =>
    have hm := hr.mapping
    unfold readRows
    generalize r.mapping = x at hm
    generalize r'.mapping = y at hm
    cases hm with
    | error e => exact .error e
    | ok hm =>
      simp only
      generalize readRows rows = x at ih
      generalize readRows rows' = y at ih
      cases ih with
      | error e => exact .error e
      | ok hrest => exact .ok (.cons hm hrest)

theorem isOwnedBy_alike (o : OrganizationId) (r r' : MappingRow) (h : r.Alike r') :
    isOwnedBy o r = isOwnedBy o r' := by
  rw [isOwnedBy, isOwnedBy, h.profile.organization]

namespace Alike

variable {s t : RowStore} (h : s.Alike t)

include h

theorem withoutIntent (state : SetupState) :
    (s.withoutIntent state).Alike (t.withoutIntent state) where
  intents := filter_alike (fun i j hij => by rw [hij.state]) h.intents
  mappings := h.mappings

theorem withMapping {m n : InstallationMapping} (hmn : m.Alike n) :
    (s.withMapping m).Alike (t.withMapping n) where
  intents := h.intents
  mappings := put_alike (fun _ _ hr => hr.installation) hmn.row h.mappings

theorem intentRow? (state : SetupState) :
    Option.Rel IntentRow.Alike (s.intentRow? state) (t.intentRow? state) :=
  find?_alike (fun i j hij => by rw [hij.state]) h.intents

theorem getIntent (state : SetupState) :
    SameAnswer SetupIntent.Alike (s.getIntent state) (t.getIntent state) := by
  have hfound := h.intentRow? state
  unfold RowStore.getIntent
  generalize s.intentRow? state = x at hfound
  generalize t.intentRow? state = y at hfound
  cases hfound with
  | none => exact .error _
  | some hrow => exact hrow.intent

theorem createIntent {i j : SetupIntent} (hij : i.Alike j) :
    SameAnswer Eq (s.createIntent i).1 (t.createIntent j).1 ∧
      (s.createIntent i).2.Alike (t.createIntent j).2 := by
  have hfound := h.intentRow? i.state
  unfold RowStore.createIntent
  rw [← hij.state]
  cases hs : s.intentRow? i.state <;> cases ht : t.intentRow? i.state <;> rw [hs, ht] at hfound
  · exact ⟨.ok rfl, List.rel_append h.intents (.cons hij.row .nil), h.mappings⟩
  · cases hfound
  · cases hfound
  · exact ⟨.error _, h⟩

theorem listMappings (organization : Option OrganizationId) :
    SameAnswer (List.Forall₂ InstallationMapping.Alike) (s.listMappings organization)
      (t.listMappings organization) := by
  cases organization with
  | none => exact readRows_alike h.mappings
  | some o => exact readRows_alike (filter_alike (isOwnedBy_alike o) h.mappings)

theorem deleteMapping (id : InstallationId) (organization : Option OrganizationId) :
    SameAnswer Eq (s.deleteMapping id organization).1 (t.deleteMapping id organization).1 ∧
      (s.deleteMapping id organization).2.Alike (t.deleteMapping id organization).2 := by
  cases organization with
  | none =>
    exact ⟨.ok rfl, h.intents,
      filter_alike (fun r r' hr => by rw [hr.installation]) h.mappings⟩
  | some o =>
    have hmatch : ∀ r r' : MappingRow, r.Alike r' →
        (r.installation == id.number && isOwnedBy o r) =
          (r'.installation == id.number && isOwnedBy o r') := by
      intro r r' hr
      rw [hr.installation, isOwnedBy_alike o r r' hr]
    simp only [RowStore.deleteMapping, any_alike hmatch h.mappings]
    split
    · exact ⟨.ok rfl, h.intents,
        filter_alike (fun r r' hr => by rw [hmatch r r' hr]) h.mappings⟩
    · exact ⟨.error _, h⟩

theorem promoteIntent (state : SetupState) (id : InstallationId) (now : Timestamp) :
    SameAnswer PromotionAlike (promoteIntent .empty state id now s).1
        (promoteIntent .empty state id now t).1 ∧
      (promoteIntent .empty state id now s).2.Alike (promoteIntent .empty state id now t).2 := by
  have hfound := h.getIntent state
  cases hs : s.getIntent state <;> cases ht : t.getIntent state <;> rw [hs, ht] at hfound
  · rw [promoteIntent_failed hs, promoteIntent_failed ht]
    cases hfound
    exact ⟨.error _, h⟩
  · cases hfound
  · cases hfound
  · rw [promoteIntent_found hs, promoteIntent_found ht]
    cases hfound with
    | ok hij =>
      rw [hij.isExpired now]
      split
      · exact ⟨.ok .expired, h.withoutIntent state⟩
      · exact ⟨.ok (.completed (hij.mapping id)),
          (h.withoutIntent state).withMapping (hij.mapping id)⟩

end Alike

instance : Twins RowStore where
  Alike := Alike
  createIntent h hij := Alike.createIntent h hij
  listMappings organization h := h.listMappings organization
  deleteMapping id organization h := h.deleteMapping id organization
  promoteIntent state id now h := h.promoteIntent state id now

end RowStore

end EventRelay
