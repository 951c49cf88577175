import EventRelay.Store.Basic
import EventRelay.Store.Table

/-!
# The store in memory

Intents and mappings are kept as they are given, to the nanosecond.
-/

set_option autoImplicit false

namespace EventRelay

structure MemoryStore where
  intents : List SetupIntent := []
  mappings : List InstallationMapping := []
  deriving DecidableEq

namespace MemoryStore

def key (m : InstallationMapping) : Int := m.installation.number

def intent? (state : SetupState) (s : MemoryStore) : Option SetupIntent :=
  s.intents.find? fun i => i.state == state

def mapping? (id : InstallationId) (s : MemoryStore) : Option InstallationMapping :=
  Table.find? key id.number s.mappings

def withoutIntent (state : SetupState) (s : MemoryStore) : MemoryStore :=
  { s with intents := s.intents.filter fun i => i.state != state }

def withMapping (m : InstallationMapping) (s : MemoryStore) : MemoryStore :=
  { s with mappings := Table.put key m s.mappings }

def withoutMapping (id : InstallationId) (s : MemoryStore) : MemoryStore :=
  { s with mappings := Table.drop key id.number s.mappings }

def orNotFound {α : Type} : Option α → Except StoreError α
  | some a => .ok a
  | none => .error .notFound

def isOwnedBy (organization : OrganizationId) (m : InstallationMapping) : Bool :=
  m.profile.organization == some organization

def createIntent (intent : SetupIntent) (s : MemoryStore) : Except StoreError Unit × MemoryStore :=
  match s.intent? intent.state with
  | some _ => (.error (.backend ("setup state " ++ intent.state.token ++ " already exists")), s)
  | none => (.ok (), { s with intents := s.intents ++ [intent] })

def listMappings (organization : Option OrganizationId) (s : MemoryStore) :
    List InstallationMapping :=
  match organization with
  | none => s.mappings
  | some o => s.mappings.filter (isOwnedBy o)

def deleteMapping (id : InstallationId) (organization : Option OrganizationId) (s : MemoryStore) :
    Except StoreError Unit × MemoryStore :=
  match organization with
  | none => (.ok (), s.withoutMapping id)
  | some o =>
    match s.mapping? id with
    | some m =>
      if isOwnedBy o m then (.ok (), s.withoutMapping id) else (.error .notFound, s)
    | none => (.error .notFound, s)

def promoteIntent (state : SetupState) (id : InstallationId) (now : Timestamp) (s : MemoryStore) :
    Except StoreError Promotion × MemoryStore :=
  match s.intent? state with
  | none => (.error .notFound, s)
  | some intent =>
    if intent.isExpired now then (.ok .expired, s.withoutIntent state)
    else
      let mapping := intent.mapping id
      (.ok (.completed mapping), (s.withoutIntent state).withMapping mapping)

def sweepExpired (now : Timestamp) (s : MemoryStore) : Except StoreError Nat × MemoryStore :=
  (.ok (s.intents.countP fun i => i.isExpired now),
    { s with intents := s.intents.filter fun i => !i.isExpired now })

instance : Store MemoryStore where
  createIntent := createIntent
  getIntent state s := orNotFound (s.intent? state)
  deleteIntent state s := (.ok (), s.withoutIntent state)
  upsertMapping m s := (.ok (), s.withMapping m)
  getMapping id s := orNotFound (s.mapping? id)
  listMappings organization s := .ok (s.listMappings organization)
  deleteMapping := deleteMapping
  promoteIntent := promoteIntent
  sweepExpired := sweepExpired

end MemoryStore

end EventRelay
