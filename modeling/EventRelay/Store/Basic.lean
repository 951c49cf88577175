import EventRelay.Tenant.Mapping

/-!
# Stores

What a store of setup intents and installation mappings does. Reading leaves
a store as it is; every other operation gives its answer with the store that
follows. Operations and answers are also data, so that a run of them can be
spoken of.
-/

set_option autoImplicit false

namespace EventRelay

inductive StoreError where
  | notFound
  | backend (reason : String)
  deriving DecidableEq, Repr

def StoreError.message : StoreError → String
  | .notFound => "not found"
  | .backend reason => "storage failure: " ++ reason

inductive Promotion where
  | completed (mapping : InstallationMapping)
  | expired
  deriving DecidableEq, Repr

class Store (σ : Type) where
  createIntent : SetupIntent → σ → Except StoreError Unit × σ
  getIntent : SetupState → σ → Except StoreError SetupIntent
  deleteIntent : SetupState → σ → Except StoreError Unit × σ
  upsertMapping : InstallationMapping → σ → Except StoreError Unit × σ
  getMapping : InstallationId → σ → Except StoreError InstallationMapping
  listMappings : Option OrganizationId → σ → Except StoreError (List InstallationMapping)
  /-- Removes a mapping. With an organization it must be there and be owned by it. -/
  deleteMapping : InstallationId → Option OrganizationId → σ → Except StoreError Unit × σ
  /-- Redeems an intent for an installation, or discards it when it has expired. -/
  promoteIntent : SetupState → InstallationId → Timestamp → σ → Except StoreError Promotion × σ
  /-- Removes the intents that have expired; the answer is their number. -/
  sweepExpired : Timestamp → σ → Except StoreError Nat × σ

namespace Store

inductive Op where
  | createIntent (intent : SetupIntent)
  | getIntent (state : SetupState)
  | deleteIntent (state : SetupState)
  | upsertMapping (mapping : InstallationMapping)
  | getMapping (id : InstallationId)
  | listMappings (organization : Option OrganizationId)
  | deleteMapping (id : InstallationId) (organization : Option OrganizationId)
  | promoteIntent (state : SetupState) (id : InstallationId) (now : Timestamp)
  | sweepExpired (now : Timestamp)
  deriving DecidableEq

inductive Reply where
  | done
  | intent (intent : SetupIntent)
  | mapping (mapping : InstallationMapping)
  | mappings (mappings : List InstallationMapping)
  | promotion (promotion : Promotion)
  | swept (count : Nat)
  | failed (error : StoreError)
  deriving DecidableEq

def Reply.of {α : Type} (reply : α → Reply) : Except StoreError α → Reply
  | .ok a => reply a
  | .error e => .failed e

variable {σ : Type} [Store σ]

def step (op : Op) (s : σ) : Reply × σ :=
  match op with
  | .createIntent intent => (createIntent intent s).map (.of fun _ => .done) id
  | .getIntent state => (.of .intent (getIntent state s), s)
  | .deleteIntent state => (deleteIntent state s).map (.of fun _ => .done) id
  | .upsertMapping mapping => (upsertMapping mapping s).map (.of fun _ => .done) id
  | .getMapping id => (.of .mapping (getMapping id s), s)
  | .listMappings organization => (.of .mappings (listMappings organization s), s)
  | .deleteMapping i organization => (deleteMapping i organization s).map (.of fun _ => .done) id
  | .promoteIntent state i now => (promoteIntent state i now s).map (.of .promotion) id
  | .sweepExpired now => (sweepExpired now s).map (.of .swept) id

def run : List Op → σ → List Reply × σ
  | [], s => ([], s)
  | op :: rest, s =>
    let (reply, s) := step op s
    let (replies, s) := run rest s
    (reply :: replies, s)

end Store

end EventRelay
