import EventRelay.Store.Basic
import EventRelay.Store.Memory
import EventRelay.Store.Rows

/-!
# A store of any kind

The store that a process was started with: in memory, in tables, or one that is
down and fails every operation for one reason. Each operation is that of the
kind at hand.
-/

set_option autoImplicit false

namespace EventRelay

/-! ## The store that is down -/

structure UnavailableStore where
  reason : String
  deriving DecidableEq, Repr

namespace UnavailableStore

def fail {α : Type} (s : UnavailableStore) : Except StoreError α := .error (.backend s.reason)

instance : Store UnavailableStore where
  createIntent _ s := (s.fail, s)
  getIntent _ s := s.fail
  deleteIntent _ s := (s.fail, s)
  upsertMapping _ s := (s.fail, s)
  getMapping _ s := s.fail
  listMappings _ s := s.fail
  deleteMapping _ _ s := (s.fail, s)
  promoteIntent _ _ _ s := (s.fail, s)
  sweepExpired _ s := (s.fail, s)

end UnavailableStore

/-! ## Any store -/

inductive AnyStore where
  | memory (s : MemoryStore)
  | rows (s : RowStore)
  | unavailable (s : UnavailableStore)

namespace AnyStore

def wrap {α σ : Type} (kind : σ → AnyStore) (r : Except StoreError α × σ) :
    Except StoreError α × AnyStore :=
  (r.1, kind r.2)

def change {α : Type} (op : {σ : Type} → [Store σ] → σ → Except StoreError α × σ) :
    AnyStore → Except StoreError α × AnyStore
  | .memory s => wrap .memory (op s)
  | .rows s => wrap .rows (op s)
  | .unavailable s => wrap .unavailable (op s)

def look {α : Type} (op : {σ : Type} → [Store σ] → σ → Except StoreError α) :
    AnyStore → Except StoreError α
  | .memory s => op s
  | .rows s => op s
  | .unavailable s => op s

instance : Store AnyStore where
  createIntent intent := change (Store.createIntent intent)
  getIntent state := look (Store.getIntent state)
  deleteIntent state := change (Store.deleteIntent state)
  upsertMapping m := change (Store.upsertMapping m)
  getMapping id := look (Store.getMapping id)
  listMappings organization := look (Store.listMappings organization)
  deleteMapping id organization := change (Store.deleteMapping id organization)
  promoteIntent state id now := change (Store.promoteIntent state id now)
  sweepExpired now := change (Store.sweepExpired now)

end AnyStore

end EventRelay
