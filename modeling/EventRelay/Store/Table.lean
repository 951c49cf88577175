/-!
# Tables with a numeric key

Rows in the ascending order of their keys, one row for each key. What is found
after a change is told by `find?_put` and `find?_drop`; changes keep the order.
-/

set_option autoImplicit false

namespace EventRelay.Table

variable {α : Type}

def find? (key : α → Int) (k : Int) (rows : List α) : Option α := rows.find? fun r => key r == k

def put (key : α → Int) (row : α) : List α → List α
  | [] => [row]
  | r :: rest =>
    if key row < key r then row :: r :: rest
    else if key r = key row then row :: rest
    else r :: put key row rest

def drop (key : α → Int) (k : Int) (rows : List α) : List α := rows.filter fun r => key r != k

/-- The order of the rows, which leaves one row for each key. -/
def Ascending (key : α → Int) (rows : List α) : Prop := rows.Pairwise fun a b => key a < key b

theorem find?_cons (key : α → Int) (k : Int) (row : α) (rows : List α) :
    find? key k (row :: rows) = if key row = k then some row else find? key k rows := by
  by_cases h : key row = k <;> simp [find?, h]

theorem find?_put (key : α → Int) (k : Int) (row : α) (rows : List α) :
    find? key k (put key row rows) = if key row = k then some row else find? key k rows := by
  induction rows with
  | nil => exact find?_cons key k row []
  | cons r rest ih =>
    unfold put
    split
    · rw [find?_cons]
    · split
      · rename_i h
        simp only [find?_cons, h]
        split <;> rfl
      · rename_i h
        simp only [find?_cons, ih]
        split
        · rename_i hk
          rw [if_neg fun e => h (hk.trans e.symm)]
        · rfl

theorem find?_drop (key : α → Int) (j k : Int) (rows : List α) :
    find? key k (drop key j rows) = if k = j then none else find? key k rows := by
  induction rows with
  | nil => simp [find?, drop]
  | cons r rest ih =>
    by_cases h : key r = j
    · rw [show drop key j (r :: rest) = drop key j rest by simp [drop, h], ih, find?_cons, h]
      split
      · rfl
      · rename_i hk
        rw [if_neg fun e => hk e.symm]
    · rw [show drop key j (r :: rest) = r :: drop key j rest by simp [drop, h], find?_cons, ih,
        find?_cons]
      split
      · rename_i hk
        rw [if_neg fun e => h (hk.trans e)]
      · rfl

theorem drop_put (key : α → Int) (row : α) (rows : List α) :
    drop key (key row) (put key row rows) = drop key (key row) rows := by
  induction rows with
  | nil => simp [put, drop]
  | cons r rest ih =>
    unfold put
    split
    · simp [drop]
    · split
      · rename_i h
        simp [drop, h]
      · simp only [drop, List.filter_cons] at ih ⊢
        rw [ih]

theorem mem_put {key : α → Int} {row r : α} {rows : List α} (h : r ∈ put key row rows) :
    r = row ∨ r ∈ rows := by
  induction rows with
  | nil => simpa [put] using h
  | cons s rest ih =>
    unfold put at h
    split at h
    · simpa using h
    · split at h
      · rcases List.mem_cons.mp h with h | h
        · exact Or.inl h
        · exact Or.inr (List.mem_cons_of_mem _ h)
      · rcases List.mem_cons.mp h with h | h
        · exact Or.inr (h ▸ List.mem_cons_self)
        · exact (ih h).imp id (List.mem_cons_of_mem _)

theorem Ascending.put {key : α → Int} {rows : List α} (row : α) (h : Ascending key rows) :
    Ascending key (Table.put key row rows) := by
  induction rows with
  | nil => exact List.pairwise_singleton _ _
  | cons r rest ih =>
    obtain ⟨hr, hrest⟩ := List.pairwise_cons.mp h
    unfold Table.put
    split
    · rename_i hlt
      refine List.pairwise_cons.mpr ⟨fun a ha => ?_, h⟩
      rcases List.mem_cons.mp ha with e | ha
      · exact e ▸ hlt
      · exact Int.lt_trans hlt (hr a ha)
    · split
      · rename_i e
        exact List.pairwise_cons.mpr ⟨fun a ha => e ▸ hr a ha, hrest⟩
      · rename_i hlt hne
        refine List.pairwise_cons.mpr ⟨fun a ha => ?_, ih hrest⟩
        rcases mem_put ha with e | ha
        · rw [e]
          omega
        · exact hr a ha

theorem mem_drop {key : α → Int} {k : Int} {r : α} {rows : List α} :
    r ∈ drop key k rows ↔ r ∈ rows ∧ key r ≠ k := by
  simp [drop]

theorem Ascending.find?_eq_some_iff {key : α → Int} {k : Int} {r : α} {rows : List α}
    (h : Ascending key rows) : find? key k rows = some r ↔ r ∈ rows ∧ key r = k := by
  induction rows with
  | nil => simp [find?]
  | cons s rest ih =>
    obtain ⟨hs, hrest⟩ := List.pairwise_cons.mp h
    rw [find?_cons, List.mem_cons]
    split
    · rename_i hk
      constructor
      · intro e
        cases e
        exact ⟨Or.inl rfl, hk⟩
      · rintro ⟨rfl | hr, hkr⟩
        · rfl
        · have := hs r hr
          omega
    · rename_i hk
      rw [ih hrest]
      constructor
      · exact fun ⟨hr, hkr⟩ => ⟨Or.inr hr, hkr⟩
      · rintro ⟨rfl | hr, hkr⟩
        · exact absurd hkr hk
        · exact ⟨hr, hkr⟩

/-- A test beside the key is put to the one row with that key. -/
theorem Ascending.any_key_and {key : α → Int} {k : Int} {rows : List α} (h : Ascending key rows)
    (p : α → Bool) : (rows.any fun r => key r == k && p r) = (find? key k rows).any p := by
  refine Bool.eq_iff_iff.mpr ?_
  simp only [List.any_eq_true, Bool.and_eq_true, beq_iff_eq, Option.any_eq_true]
  constructor
  · rintro ⟨r, hr, hk, hp⟩
    exact ⟨r, h.find?_eq_some_iff.mpr ⟨hr, hk⟩, hp⟩
  · rintro ⟨r, hf, hp⟩
    obtain ⟨hr, hk⟩ := h.find?_eq_some_iff.mp hf
    exact ⟨r, hr, hk, hp⟩

theorem Ascending.filter_key_and {key : α → Int} {k : Int} {rows : List α}
    (h : Ascending key rows) {p : α → Bool} (hp : (find? key k rows).any p = true) :
    (rows.filter fun r => !(key r == k && p r)) = drop key k rows := by
  obtain ⟨x, hf, hx⟩ := (Option.any_eq_true _ _).mp hp
  refine List.filter_congr fun r hr => ?_
  by_cases hk : key r = k
  · have hrx := h.find?_eq_some_iff.mpr ⟨hr, hk⟩
    rw [hf] at hrx
    cases hrx
    simp [hk, hx]
  · simp [hk, bne]

theorem find?_map {β : Type} (f : β → α) (key : α → Int) (k : Int) (rows : List β) :
    find? key k (rows.map f) = (find? (key ∘ f) k rows).map f := by
  rw [find?, List.find?_map]
  rfl

theorem put_map {β : Type} (f : β → α) (key : α → Int) (row : β) (rows : List β) :
    put key (f row) (rows.map f) = (put (key ∘ f) row rows).map f := by
  induction rows with
  | nil => rfl
  | cons r rest ih =>
    simp only [List.map_cons, put, ih, Function.comp_apply]
    split
    · rfl
    · split <;> rfl

theorem drop_map {β : Type} (f : β → α) (key : α → Int) (k : Int) (rows : List β) :
    drop key k (rows.map f) = (drop (key ∘ f) k rows).map f := List.filter_map

theorem Ascending.drop {key : α → Int} {rows : List α} (k : Int) (h : Ascending key rows) :
    Ascending key (Table.drop key k rows) := h.filter _

end EventRelay.Table
