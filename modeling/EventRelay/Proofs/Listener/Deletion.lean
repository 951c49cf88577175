import EventRelay.Listener.Router
import EventRelay.Proofs.Store.Mappings
import Mathlib

/-!
# Removal within an organization

An operator who removes a mapping may name an organization, and then the
mapping must be its own. This holds of every organization that can be. A
number that no organization has counts as none, so a request that names one
is not held to any organization: the mapping goes, whoever owns it.
-/

set_option autoImplicit false

namespace EventRelay

open EventRelay.Http EventRelay.Store

def Http.Response.IsSuccess (r : Response) : Prop := 200 ≤ r.status ∧ r.status < 300

namespace Operator

section

variable {σ : Type} [Store σ]

/-- What removal within an organization promises: a mapping of its own goes, alone; otherwise the
request fails and the store is the same. -/
structure Guarded (o : OrganizationId) (id : InstallationId) (s : σ) (answer : Response × σ) :
    Prop where
  own : o.Owns id s → answer.1.IsSuccess ∧ id.GoesAlone s answer.2
  other : ¬ o.Owns id s → ¬ answer.1.IsSuccess ∧ answer.2 = s

/-- What removal comes to for any two numbers. -/
structure Removal (o : OrganizationId) (id : InstallationId) (s : σ) (answer : Response × σ) :
    Prop where
  guarded : Guarded o id s answer ↔ (id.Proper → o.Proper)
  unguarded : id.Proper → ¬ o.Proper → answer.1.IsSuccess ∧ id.GoesAlone s answer.2

def noSuchMapping (id : InstallationId) : Response :=
  (Refusal.ofSetup (.mappingNotFound id)).response

def removed : Response := .json 200 (.object [("deleted", .bool true)])

theorem noSuchMapping_fails (id : InstallationId) : ¬ (noSuchMapping id).IsSuccess := by
  simp [noSuchMapping, Refusal.ofSetup, Refusal.notFound, Refusal.response, Response.json,
    Response.IsSuccess]

theorem removed_succeeds : removed.IsSuccess := by
  simp [removed, Response.json, Response.IsSuccess]

theorem organizationAt_eq {key : String} {v : Json} {o : Int}
    (h : v.at? [key] = some (.number (.integer o))) :
    organizationAt key v = OrganizationId.ofInt? o := by
  rw [organizationAt, h]

section

variable {settings : ListenerSettings} {request : Request} {v : Json} {s : σ}

theorem delete_improper (hauth : isAuthorized settings request = true)
    (hread : deleteShape.read request.body = .ok v)
    (hid : ¬ InstallationId.Proper ⟨v.integerAt ["installation_id"]⟩) :
    delete settings request s = ((Refusal.badRequest "invalid installation_id").response, s) := by
  have hnone : InstallationId.ofInt? (v.integerAt ["installation_id"]) = none := if_neg hid
  simp only [delete, hauth, hread, hnone, Bool.not_true, Bool.false_eq_true, if_false]

theorem delete_proper (hauth : isAuthorized settings request = true)
    (hread : deleteShape.read request.body = .ok v) {id : InstallationId}
    (hn : v.integerAt ["installation_id"] = id.number) (hid : id.Proper) {s' : σ}
    {r : Except StoreError Unit}
    (h : deleteMapping id (organizationAt "organization_id" v) s = (r, s')) :
    (r = .ok () → delete settings request s = (removed, s')) ∧
      (r = .error .notFound → delete settings request s = (noSuchMapping id, s')) := by
  have hsome : InstallationId.ofInt? (v.integerAt ["installation_id"]) = some id := by
    rw [hn, InstallationId.ofInt?_number hid]
  constructor
  · rintro rfl
    simp only [delete, hauth, hread, hsome, Setup.revoke, h, Bool.not_true, Bool.false_eq_true,
      if_false, removed]
  · rintro rfl
    simp only [delete, hauth, hread, hsome, Setup.revoke, h, Bool.not_true, Bool.false_eq_true,
      if_false, noSuchMapping]

end

end

section Mirrored

open Mirror

variable {σ : Type} [Store σ] [Mirror σ] {s : σ} {m : MemoryStore} {o : OrganizationId}
  {id : InstallationId} {settings : ListenerSettings} {request : Request} {v : Json}
  (hs : Shows s m) (hauth : isAuthorized settings request = true)
  (hread : deleteShape.read request.body = .ok v)
  (hn : v.integerAt ["installation_id"] = id.number)
  (ho : v.at? ["organization_id"] = some (.number (.integer o.number)))

include hs hauth hread hn

theorem delete_permitted (hid : id.Proper)
    (h : Permits id (organizationAt "organization_id" v) s) :
    (delete settings request s).1.IsSuccess ∧ id.GoesAlone s (delete settings request s).2 := by
  obtain ⟨hanswer, halone⟩ := deleteMapping_permitted hs h
  obtain ⟨hok, -⟩ := delete_proper hauth hread hn hid
    (rfl : deleteMapping id (organizationAt "organization_id" v) s = _)
  rw [hok hanswer]
  exact ⟨removed_succeeds, halone⟩

theorem delete_unpermitted (hid : id.Proper)
    (h : ¬ Permits id (organizationAt "organization_id" v) s) :
    ¬ (delete settings request s).1.IsSuccess ∧ (delete settings request s).2 = s := by
  obtain ⟨-, hnone⟩ := delete_proper hauth hread hn hid (deleteMapping_unpermitted hs h)
  rw [hnone rfl]
  exact ⟨noSuchMapping_fails id, rfl⟩

include ho

theorem delete_own (h : o.Owns id s) :
    (delete settings request s).1.IsSuccess ∧ id.GoesAlone s (delete settings request s).2 := by
  obtain ⟨hid, hop⟩ := owns_proper hs h
  apply delete_permitted hs hauth hread hn hid
  rw [organizationAt_eq ho, OrganizationId.ofInt?_number hop]
  rintro owner ⟨⟩
  exact h

/-- An organization that can be is refused what it does not own. -/
theorem delete_other (hop : id.Proper → o.Proper) (h : ¬ o.Owns id s) :
    ¬ (delete settings request s).1.IsSuccess ∧ (delete settings request s).2 = s := by
  by_cases hid : id.Proper
  · apply delete_unpermitted hs hauth hread hn hid
    rw [organizationAt_eq ho, OrganizationId.ofInt?_number (hop hid)]
    intro hpermits
    exact h (hpermits o rfl)
  · have hid' : ¬ InstallationId.Proper ⟨v.integerAt ["installation_id"]⟩ := by
      rwa [hn]
    rw [delete_improper hauth hread hid']
    refine ⟨?_, rfl⟩
    simp [Refusal.badRequest, Refusal.response, Response.json, Response.IsSuccess]

/-- A number that no organization has is dropped, and the removal is held to none. -/
theorem delete_unguarded (hid : id.Proper) (hop : ¬ o.Proper) :
    (delete settings request s).1.IsSuccess ∧ id.GoesAlone s (delete settings request s).2 := by
  have hdropped : OrganizationId.ofInt? o.number = none := if_neg hop
  apply delete_permitted hs hauth hread hn hid
  rw [organizationAt_eq ho, hdropped]
  rintro owner ⟨⟩

theorem removal_of_shows : Removal o id s (delete settings request s) where
  guarded := by
    constructor
    · intro hg hid
      by_contra hop
      have hother : ¬ o.Owns id s := fun h => hop (owns_proper hs h).2
      exact (hg.other hother).1 (delete_unguarded hs hauth hread hn ho hid hop).1
    · intro hop
      exact ⟨delete_own hs hauth hread hn ho, delete_other hs hauth hread hn ho hop⟩
  unguarded := delete_unguarded hs hauth hread hn ho

end Mirrored

/-- In every state that either store can reach, a removal is held to the organization that it names
exactly when that organization can be, or the installation cannot. -/
theorem named_organization_guards_iff {ops : List Op} (hops : Proper ops)
    {settings : ListenerSettings} {request : Request} {v : Json} {id : InstallationId}
    {o : OrganizationId} (hauth : isAuthorized settings request = true)
    (hread : deleteShape.read request.body = .ok v)
    (hn : v.integerAt ["installation_id"] = id.number)
    (ho : v.at? ["organization_id"] = some (.number (.integer o.number))) :
    Removal o id (after ops ({} : MemoryStore)) (delete settings request (after ops {})) ∧
      Removal o id (after ops ({} : RowStore)) (delete settings request (after ops {})) := by
  have hmemory := Mirror.after_shows memory_shows hops
  have hrows := Mirror.after_shows RowStore.empty_shows hops
  exact ⟨removal_of_shows hmemory hauth hread hn ho, removal_of_shows hrows hauth hread hn ho⟩

theorem read_numbers {body : List UInt8} {installation organization : Json.Numeral} {n o : Int}
    (hdoc : Json.Document.read body =
      ⟨.object [("installation_id".toUTF8.toList, .number installation),
        ("organization_id".toUTF8.toList, .number organization)] .closed, true⟩)
    (hn : Json.Shape.scanInteger (.number installation) = .ok (Json.integer n))
    (ho : Json.Shape.scanInteger (.number organization) = .ok (Json.integer o)) :
    deleteShape.read body =
      .ok (.object [("installation_id", Json.integer n), ("organization_id", Json.integer o)]) := by
  have hinstallation : Json.readText "installation_id".toUTF8.toList = some "installation_id" := by
    cbv
  have horganization : Json.readText "organization_id".toUTF8.toList = some "organization_id" := by
    cbv
  simp only [Json.Shape.read, hdoc, deleteShape, Json.Shape.scan, Json.Shape.scanMembers,
    hinstallation, horganization, Json.Shape.scanField, hn, ho]
  simp [Json.Shape.settle, List.lookup_cons, Except.map]

def ownedBySeven : List Op := [.upsertMapping ⟨⟨1⟩, { organization := some ⟨7⟩ }, true⟩]

def guardedSettings : ListenerSettings :=
  { provider := .github
    webhookPath := "/webhook/github"
    webhookSecret := "secret"
    setupToken := some "token" }

def removalWithin (organization : String) : Request :=
  { method := "POST"
    path := Listener.deletePath
    query := []
    headers := [("authorization", "Bearer token".toUTF8.toList)]
    body :=
      ("\x7b\"installation_id\":1,\"organization_id\":" ++ organization ++ "\x7d").toUTF8.toList }

theorem removalWithin_authorized (organization : String) :
    isAuthorized guardedSettings (removalWithin organization) = true := by
  show Authorization.grants (some "token") [("authorization", "Bearer token".toUTF8.toList)] [] =
    true
  cbv

theorem eight_is_refused :
    ¬ (delete guardedSettings (removalWithin "8") (after ownedBySeven ({} : RowStore))).1.IsSuccess ∧
      (delete guardedSettings (removalWithin "8") (after ownedBySeven ({} : RowStore))).2 =
        after ownedBySeven {} := by
  have hops : Proper ownedBySeven := by decide
  have hdoc : Json.Document.read (removalWithin "8").body =
      ⟨.object [("installation_id".toUTF8.toList, .number ⟨false, [1], none, none⟩),
        ("organization_id".toUTF8.toList, .number ⟨false, [8], none, none⟩)] .closed, true⟩ := by
    cbv
  have h := @named_organization_guards_iff ownedBySeven hops guardedSettings (removalWithin "8") _
    ⟨1⟩ ⟨8⟩ (removalWithin_authorized "8") (read_numbers hdoc rfl rfl) rfl rfl
  have hguard : (⟨1⟩ : InstallationId).Proper → (⟨8⟩ : OrganizationId).Proper := by
    intro _
    show (0 : Int) < 8
    decide
  refine (h.2.guarded.mpr hguard).other ?_
  rintro ⟨x, hx, ho⟩
  cases hx
  cases ho

/-- Within organization 0, the mapping that organization 7 owns is gone. -/
theorem zero_is_no_guard :
    (⟨7⟩ : OrganizationId).Owns ⟨1⟩ (after ownedBySeven ({} : RowStore)) ∧
      isAuthorized guardedSettings (removalWithin "0") = true ∧
      delete guardedSettings (removalWithin "0") (after ownedBySeven ({} : RowStore)) =
        (removed, {}) := by
  have hauth := removalWithin_authorized "0"
  have hdoc : Json.Document.read (removalWithin "0").body =
      ⟨.object [("installation_id".toUTF8.toList, .number ⟨false, [1], none, none⟩),
        ("organization_id".toUTF8.toList, .number ⟨false, [0], none, none⟩)] .closed, true⟩ := by
    cbv
  have hread := read_numbers hdoc rfl rfl
  refine ⟨⟨_, rfl, rfl⟩, hauth, ?_⟩
  rw [delete, hauth, hread]
  rfl

end Operator

end EventRelay
