import EventRelay.Store.Basic
import EventRelay.Store.Table

/-!
# The store in tables

Intents and mappings are kept as rows of texts and whole numbers: a deadline
as its whole second, a flag as a number. Rows may have come from elsewhere,
so reading one can fail: its state may be blank, its installation not
positive, its deadline out of range.
-/

set_option autoImplicit false

namespace EventRelay

open EventRelay.Text

structure ProfileRow where
  organization : Option Int
  label : String
  endpoint : String
  authToken : String
  webhookSecret : String
  defaultEnvironment : String
  deriving DecidableEq, Repr

structure IntentRow where
  state : String
  profile : ProfileRow
  expiresAt : Int
  deriving DecidableEq, Repr

structure MappingRow where
  installation : Int
  profile : ProfileRow
  enabled : Int
  deriving DecidableEq, Repr

namespace ProfileRow

def ofProfile (p : TenantProfile) : ProfileRow :=
  { organization := p.organization.map OrganizationId.number
    label := p.label
    endpoint := p.credentials.endpoint
    authToken := p.credentials.authToken
    webhookSecret := p.credentials.webhookSecret
    defaultEnvironment := p.defaultEnvironment }

/-- An owner that is not positive counts as none. -/
def profile (r : ProfileRow) : TenantProfile :=
  { organization := r.organization.bind OrganizationId.ofInt?
    label := r.label
    credentials := ⟨r.endpoint, r.authToken, r.webhookSecret⟩
    defaultEnvironment := r.defaultEnvironment }

end ProfileRow

def IntentRow.ofIntent (i : SetupIntent) : IntentRow :=
  ⟨i.state.token, .ofProfile i.profile, i.expiresAt.seconds⟩

def IntentRow.intent (r : IntentRow) : Except StoreError SetupIntent :=
  match SetupState.ofText? r.state, Timestamp.ofSeconds? r.expiresAt with
  | none, _ => .error (.backend "stored setup state is blank")
  | some _, none =>
    .error (.backend ("stored expiry " ++ integerText r.expiresAt ++ " is out of range"))
  | some state, some expiresAt => .ok ⟨state, r.profile.profile, expiresAt⟩

def MappingRow.ofMapping (m : InstallationMapping) : MappingRow :=
  ⟨m.installation.number, .ofProfile m.profile, if m.enabled then 1 else 0⟩

def MappingRow.mapping (r : MappingRow) : Except StoreError InstallationMapping :=
  match InstallationId.ofInt? r.installation with
  | none =>
    .error (.backend
      ("stored installation id " ++ integerText r.installation ++ " is not positive"))
  | some id => .ok ⟨id, r.profile.profile, r.enabled != 0⟩

inductive Statement where
  | begin
  | commit
  | insertIntent
  | selectIntent
  | deleteIntent
  | sweepIntents
  | upsertMapping
  | selectMapping
  | selectMappings
  | deleteMapping
  deriving DecidableEq, Repr

/-- The statements that the database fails on, with the reasons. -/
abbrev Faults := Statement → Option String

namespace Faults

def empty : Faults := fun _ => none

def statement {α σ : Type} (faults : Faults) (q : Statement) (effect : σ → Except StoreError α × σ)
    (s : σ) : Except StoreError α × σ :=
  match faults q with
  | some reason => (.error (.backend reason), s)
  | none => effect s

def query {α : Type} (faults : Faults) (q : Statement) (answer : Except StoreError α) :
    Except StoreError α :=
  match faults q with
  | some reason => .error (.backend reason)
  | none => answer

end Faults

structure RowStore where
  intents : List IntentRow := []
  mappings : List MappingRow := []
  deriving DecidableEq, Repr

namespace RowStore

def intentRow? (state : SetupState) (s : RowStore) : Option IntentRow :=
  s.intents.find? fun r => r.state == state.token

def withoutIntent (state : SetupState) (s : RowStore) : RowStore :=
  { s with intents := s.intents.filter fun r => r.state != state.token }

def withMapping (m : InstallationMapping) (s : RowStore) : RowStore :=
  { s with mappings := Table.put MappingRow.installation (.ofMapping m) s.mappings }

def createIntent (intent : SetupIntent) (s : RowStore) : Except StoreError Unit × RowStore :=
  match s.intentRow? intent.state with
  | some _ => (.error (.backend "UNIQUE constraint failed: setup_intents.state"), s)
  | none => (.ok (), { s with intents := s.intents ++ [.ofIntent intent] })

def getIntent (state : SetupState) (s : RowStore) : Except StoreError SetupIntent :=
  match s.intentRow? state with
  | none => .error .notFound
  | some row => row.intent

def getMapping (id : InstallationId) (s : RowStore) : Except StoreError InstallationMapping :=
  match Table.find? MappingRow.installation id.number s.mappings with
  | none => .error .notFound
  | some row => row.mapping

def readRows : List MappingRow → Except StoreError (List InstallationMapping)
  | [] => .ok []
  | row :: rest =>
    match row.mapping with
    | .error e => .error e
    | .ok m => (readRows rest).map (m :: ·)

def isOwnedBy (organization : OrganizationId) (r : MappingRow) : Bool :=
  r.profile.organization == some organization.number

def listMappings (organization : Option OrganizationId) (s : RowStore) :
    Except StoreError (List InstallationMapping) :=
  match organization with
  | none => readRows s.mappings
  | some o => readRows (s.mappings.filter (isOwnedBy o))

def deleteMapping (id : InstallationId) (organization : Option OrganizationId) (s : RowStore) :
    Except StoreError Unit × RowStore :=
  match organization with
  | none => (.ok (), { s with mappings := Table.drop MappingRow.installation id.number s.mappings })
  | some o =>
    let matching (r : MappingRow) : Bool := r.installation == id.number && isOwnedBy o r
    if s.mappings.any matching then
      (.ok (), { s with mappings := s.mappings.filter fun r => !matching r })
    else (.error .notFound, s)

structure Transaction where
  rows : RowStore
  before : RowStore

/-- Statements of a transaction. One that fails is the last; what was done before it stays done
within the transaction. -/
abbrev Within (α : Type) : Type := ExceptT StoreError (StateM Transaction) α

theorem bind_apply {α β : Type} (m : Within α) (next : α → Within β) (t : Transaction) :
    (m >>= next) t =
      match m t with
      | (.ok a, t) => next a t
      | (.error e, t) => (.error e, t) := by
  simp only [bind, ExceptT.bind, ExceptT.mk, StateT.bind, ExceptT.bindCont]
  rcases m t with ⟨_ | _, _⟩ <;> rfl

def select {α : Type} (faults : Faults) (q : Statement)
    (read : RowStore → Except StoreError α) : Within α :=
  fun t => (faults.query q (read t.rows), t)

def execute (faults : Faults) (q : Statement) (change : RowStore → RowStore) : Within Unit :=
  faults.statement q fun t => (.ok (), { t with rows := change t.rows })

def rollback (t : Transaction) : RowStore := t.before

/-- Ends a transaction. Unless its statements succeeded, and so does the commit, it is undone. -/
def conclude {α : Type} (faults : Faults) :
    Except StoreError α × Transaction → Except StoreError α × RowStore
  | (.error e, t) => (.error e, rollback t)
  | (.ok a, t) =>
    match faults .commit with
    | some reason => (.error (.backend reason), rollback t)
    | none => (.ok a, t.rows)

def transact {α : Type} (faults : Faults) (body : Within α) :
    RowStore → Except StoreError α × RowStore :=
  faults.statement .begin fun s => conclude faults (body ⟨s, s⟩)

/-- The intent is deleted before it is known whether a mapping can be written. -/
def promotion (faults : Faults) (state : SetupState) (id : InstallationId) (now : Timestamp) :
    Within Promotion := do
  let intent ← select faults .selectIntent (getIntent state)
  execute faults .deleteIntent (withoutIntent state)
  if intent.isExpired now then
    return .expired
  let mapping := intent.mapping id
  execute faults .upsertMapping (withMapping mapping)
  return .completed mapping

def promoteIntent (faults : Faults) (state : SetupState) (id : InstallationId) (now : Timestamp) :
    RowStore → Except StoreError Promotion × RowStore :=
  transact faults (promotion faults state id now)

theorem promoteIntent_failed {s : RowStore} {state : SetupState} {e : StoreError}
    (h : s.getIntent state = .error e) (id : InstallationId) (now : Timestamp) :
    promoteIntent .empty state id now s = (.error e, s) := by
  have hselect : select .empty .selectIntent (getIntent state) ⟨s, s⟩ = (.error e, ⟨s, s⟩) :=
    congrArg (·, Transaction.mk s s) h
  show conclude .empty (promotion .empty state id now ⟨s, s⟩) = _
  simp only [promotion, bind_apply, hselect]
  rfl

theorem promoteIntent_found {s : RowStore} {state : SetupState} {i : SetupIntent}
    (h : s.getIntent state = .ok i) (id : InstallationId) (now : Timestamp) :
    promoteIntent .empty state id now s =
      if i.isExpired now then (.ok .expired, s.withoutIntent state)
      else (.ok (.completed (i.mapping id)), (s.withoutIntent state).withMapping (i.mapping id)) := by
  have hselect : select .empty .selectIntent (getIntent state) ⟨s, s⟩ = (.ok i, ⟨s, s⟩) :=
    congrArg (·, Transaction.mk s s) h
  show conclude .empty (promotion .empty state id now ⟨s, s⟩) = _
  simp only [promotion, bind_apply, hselect]
  cases i.isExpired now <;> rfl

/-- Whole seconds decide: an intent goes once the second after its deadline has begun. -/
def isPast (now : Timestamp) (r : IntentRow) : Bool := r.expiresAt < now.seconds

def sweepExpired (now : Timestamp) (s : RowStore) : Except StoreError Nat × RowStore :=
  (.ok (s.intents.countP (isPast now)),
    { s with intents := s.intents.filter fun r => !isPast now r })

/-- Opening the tables again discards what has expired. -/
def reopen (now : Timestamp) (s : RowStore) : RowStore := (s.sweepExpired now).2

instance : Store RowStore where
  createIntent := createIntent
  getIntent := getIntent
  deleteIntent state s := (.ok (), s.withoutIntent state)
  upsertMapping m s := (.ok (), s.withMapping m)
  getMapping := getMapping
  listMappings := listMappings
  deleteMapping := deleteMapping
  promoteIntent := promoteIntent .empty
  sweepExpired := sweepExpired

end RowStore

structure Database where
  rows : RowStore
  faults : Faults

namespace Database

def hold {α : Type} (d : Database) (r : α × RowStore) : α × Database :=
  (r.1, { d with rows := r.2 })

instance : Store Database where
  createIntent intent d :=
    d.hold (d.faults.statement .insertIntent (Store.createIntent intent) d.rows)
  getIntent state d := d.faults.query .selectIntent (Store.getIntent state d.rows)
  deleteIntent state d :=
    d.hold (d.faults.statement .deleteIntent (Store.deleteIntent state) d.rows)
  upsertMapping m d := d.hold (d.faults.statement .upsertMapping (Store.upsertMapping m) d.rows)
  getMapping id d := d.faults.query .selectMapping (Store.getMapping id d.rows)
  listMappings organization d :=
    d.faults.query .selectMappings (Store.listMappings organization d.rows)
  deleteMapping id organization d :=
    d.hold (d.faults.statement .deleteMapping (Store.deleteMapping id organization) d.rows)
  promoteIntent state id now d := d.hold (RowStore.promoteIntent d.faults state id now d.rows)
  sweepExpired now d := d.hold (d.faults.statement .sweepIntents (Store.sweepExpired now) d.rows)

end Database

end EventRelay
