import EventRelay.Proofs.Tenant.Proper
import EventRelay.Store.Basic

/-!
# Runs of a store

A run is a list of operations in the order in which a store takes them; it
does not matter who sent which. Its record pairs each operation with its
answer. Operations are proper when what they write is.
-/

set_option autoImplicit false

namespace EventRelay.Store

variable {σ : Type} [Store σ]

theorem findSome?_reverse_concat {α β : Type} (f : α → Option β) (events : List α) (e : α) :
    (events ++ [e]).reverse.findSome? f = (f e).or (events.reverse.findSome? f) := by
  rw [List.reverse_append, List.reverse_singleton, List.singleton_append, List.findSome?_cons]
  cases f e <;> rfl

theorem join_findSome?_reverse_concat {α β : Type} (f : α → Option (Option β)) (events : List α)
    (e : α) : ((events ++ [e]).reverse.findSome? f).join =
      (f e).getD (events.reverse.findSome? f).join := by
  rw [findSome?_reverse_concat]
  cases f e <;> rfl

def after (ops : List Op) (s : σ) : σ := (run ops s).2

def record (ops : List Op) (s : σ) : List (Op × Reply) := ops.zip (run ops s).1

theorem record_cons (op : Op) (rest : List Op) (s : σ) :
    record (op :: rest) s = (op, (step op s).1) :: record rest (step op s).2 := rfl

theorem run_answers (ops : List Op) (s : σ) : (run ops s).1 = (record ops s).map Prod.snd := by
  induction ops generalizing s with
  | nil => rfl
  | cons op ops ih =>
    rw [record_cons, List.map_cons, ← ih]
    rfl

/-- What the operation writes is proper. -/
def Op.Proper : Op → Prop
  | .createIntent intent => intent.Proper
  | .upsertMapping mapping => mapping.Proper
  | .promoteIntent _ id _ => id.Proper
  | _ => True

instance : (op : Op) → Decidable op.Proper
  | .createIntent intent => inferInstanceAs (Decidable intent.Proper)
  | .upsertMapping mapping => inferInstanceAs (Decidable mapping.Proper)
  | .promoteIntent _ id _ => inferInstanceAs (Decidable (0 < id.number))
  | .getIntent _ | .deleteIntent _ | .getMapping _ | .listMappings _ | .deleteMapping _ _
  | .sweepExpired _ => isTrue trivial

def Proper (ops : List Op) : Prop := ∀ op ∈ ops, op.Proper

instance (ops : List Op) : Decidable (Proper ops) :=
  inferInstanceAs (Decidable (∀ op ∈ ops, op.Proper))

theorem Proper.head {op : Op} {rest : List Op} (h : Proper (op :: rest)) : op.Proper :=
  h op List.mem_cons_self

theorem Proper.tail {op : Op} {rest : List Op} (h : Proper (op :: rest)) : Proper rest :=
  fun o ho => h o (List.mem_cons_of_mem op ho)

end EventRelay.Store
