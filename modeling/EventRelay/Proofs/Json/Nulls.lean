import EventRelay.Json.Reader
import Mathlib

/-!
# Null members

Dropping nulls takes the null members out of every object, at every depth, and
nothing else: null items of arrays stay. What is left has none to drop. The
keys of a parsed object ascend, so that a key is looked up in what is left as
it was before, a null under it apart.
-/

set_option autoImplicit false

namespace EventRelay.Json

mutual

/-- The second value is left of the first when the null members of objects are taken out. -/
inductive Leaves : Json → Json → Prop
  | null : Leaves .null .null
  | bool (b : Bool) : Leaves (.bool b) (.bool b)
  | number (n : Number) : Leaves (.number n) (.number n)
  | text (s : String) : Leaves (.text s) (.text s)
  | array {items kept : List Json} (h : LeavesItems items kept) :
      Leaves (.array items) (.array kept)
  | object {members kept : List (String × Json)} (h : LeavesMembers members kept) :
      Leaves (.object members) (.object kept)

inductive LeavesItems : List Json → List Json → Prop
  | nil : LeavesItems [] []
  | cons {v w : Json} {rest kept : List Json} (hv : Leaves v w) (h : LeavesItems rest kept) :
      LeavesItems (v :: rest) (w :: kept)

inductive LeavesMembers : List (String × Json) → List (String × Json) → Prop
  | nil : LeavesMembers [] []
  | drop (key : String) {rest kept : List (String × Json)} (h : LeavesMembers rest kept) :
      LeavesMembers ((key, .null) :: rest) kept
  | keep (key : String) {v w : Json} {rest kept : List (String × Json)} (hsome : v ≠ .null)
      (hv : Leaves v w) (h : LeavesMembers rest kept) :
      LeavesMembers ((key, v) :: rest) ((key, w) :: kept)

end

theorem isNull_iff (v : Json) : v.isNull = true ↔ v = .null := by
  cases v <;> simp [isNull]

theorem dropNullsMembers_null (key : String) (rest : List (String × Json)) :
    dropNullsMembers ((key, .null) :: rest) = dropNullsMembers rest := rfl

theorem dropNullsMembers_cons (key : String) {v : Json} (h : v ≠ .null)
    (rest : List (String × Json)) :
    dropNullsMembers ((key, v) :: rest) = (key, dropNulls v) :: dropNullsMembers rest :=
  if_neg fun hnull => h ((isNull_iff v).mp hnull)

theorem dropNulls_eq_null_iff (v : Json) : dropNulls v = .null ↔ v = .null := by
  cases v <;> simp [dropNulls]

/-! ## What is left -/

mutual

theorem leaves_dropNulls (v : Json) : Leaves v (dropNulls v) := by
  match v with
  | .null => exact .null
  | .bool b => exact .bool b
  | .number n => exact .number n
  | .text s => exact .text s
  | .array items => exact .array (leaves_dropNullsItems items)
  | .object members => exact .object (leaves_dropNullsMembers members)

theorem leaves_dropNullsItems (items : List Json) : LeavesItems items (dropNullsItems items) := by
  match items with
  | [] => exact .nil
  | v :: rest => exact .cons (leaves_dropNulls v) (leaves_dropNullsItems rest)

theorem leaves_dropNullsMembers (members : List (String × Json)) :
    LeavesMembers members (dropNullsMembers members) := by
  match members with
  | [] => exact .nil
  | (key, v) :: rest =>
    by_cases hnull : v = .null
    · subst hnull
      exact .drop key (leaves_dropNullsMembers rest)
    · rw [dropNullsMembers_cons key hnull]
      exact .keep key hnull (leaves_dropNulls v) (leaves_dropNullsMembers rest)

end

mutual

theorem Leaves.eq {v w : Json} (h : Leaves v w) : dropNulls v = w := by
  match h with
  | .null | .bool _ | .number _ | .text _ => rfl
  | .array h => rw [dropNulls, h.eq]
  | .object h => rw [dropNulls, h.eq]

theorem LeavesItems.eq {items kept : List Json} (h : LeavesItems items kept) :
    dropNullsItems items = kept := by
  match h with
  | .nil => rfl
  | .cons hv h => rw [dropNullsItems, hv.eq, h.eq]

theorem LeavesMembers.eq {members kept : List (String × Json)} (h : LeavesMembers members kept) :
    dropNullsMembers members = kept := by
  match h with
  | .nil => rfl
  | .drop key h => rw [dropNullsMembers_null, h.eq]
  | .keep key hsome hv h => rw [dropNullsMembers_cons key hsome, hv.eq, h.eq]

end

/-- Dropping nulls leaves what is left, and leaves nothing else. -/
theorem leaves_iff (v w : Json) : Leaves v w ↔ dropNulls v = w := by
  constructor
  · exact Leaves.eq
  · rintro rfl
    exact leaves_dropNulls v

mutual

theorem dropNulls_idem (v : Json) : dropNulls (dropNulls v) = dropNulls v := by
  match v with
  | .null | .bool _ | .number _ | .text _ => rfl
  | .array items => simp only [dropNulls, dropNullsItems_idem items]
  | .object members => simp only [dropNulls, dropNullsMembers_idem members]

theorem dropNullsItems_idem (items : List Json) :
    dropNullsItems (dropNullsItems items) = dropNullsItems items := by
  match items with
  | [] => rfl
  | v :: rest => simp only [dropNullsItems, dropNulls_idem v, dropNullsItems_idem rest]

theorem dropNullsMembers_idem (members : List (String × Json)) :
    dropNullsMembers (dropNullsMembers members) = dropNullsMembers members := by
  match members with
  | [] => rfl
  | (key, v) :: rest =>
    by_cases hnull : v = .null
    · rw [hnull, dropNullsMembers_null, dropNullsMembers_idem rest]
    · have hleft : dropNulls v ≠ .null := (dropNulls_eq_null_iff v).not.mpr hnull
      rw [dropNullsMembers_cons key hnull, dropNullsMembers_cons key hleft, dropNulls_idem v,
        dropNullsMembers_idem rest]

end

/-! ## The order of members -/

inductive Ordered : Json → Prop
  | null : Ordered .null
  | bool (b : Bool) : Ordered (.bool b)
  | number (n : Number) : Ordered (.number n)
  | text (s : String) : Ordered (.text s)
  | array {items : List Json} (h : ∀ v ∈ items, Ordered v) : Ordered (.array items)
  | object {members : List (String × Json)} (hkeys : members.Pairwise fun a b => a.1 < b.1)
      (h : ∀ m ∈ members, Ordered m.2) : Ordered (.object members)

theorem mem_insertMember {key : String} {v : Json} {members : List (String × Json)}
    {m : String × Json} (h : m ∈ insertMember key v members) : m = (key, v) ∨ m ∈ members := by
  induction members with
  | nil => exact Or.inl (List.mem_singleton.mp h)
  | cons first rest ih =>
    rw [insertMember] at h
    split at h
    · exact List.mem_cons.mp h
    · split at h
      · rcases List.mem_cons.mp h with rfl | h
        · exact Or.inl rfl
        · exact Or.inr (List.mem_cons_of_mem _ h)
      · rcases List.mem_cons.mp h with rfl | h
        · exact Or.inr List.mem_cons_self
        · exact (ih h).imp id (List.mem_cons_of_mem _)

theorem pairwise_insertMember (key : String) (v : Json) {members : List (String × Json)}
    (h : members.Pairwise fun a b => a.1 < b.1) :
    (insertMember key v members).Pairwise fun a b => a.1 < b.1 := by
  induction members with
  | nil => exact List.pairwise_singleton _ _
  | cons first rest ih =>
    obtain ⟨hfirst, hrest⟩ := List.pairwise_cons.mp h
    rw [insertMember]
    split
    · rename_i hbefore
      refine List.pairwise_cons.mpr ⟨?_, h⟩
      rintro m hm
      rcases List.mem_cons.mp hm with rfl | hm
      · exact hbefore
      · exact hbefore.trans (hfirst m hm)
    · split
      · rename_i hsame
        subst hsame
        exact List.pairwise_cons.mpr ⟨hfirst, hrest⟩
      · rename_i hnotBefore hnotSame
        refine List.pairwise_cons.mpr ⟨?_, ih hrest⟩
        intro m hm
        rcases mem_insertMember hm with rfl | hm
        · exact lt_of_le_of_ne (not_lt.mp hnotBefore) hnotSame
        · exact hfirst m hm

mutual

theorem ordered_value (o : Outline) (depth : Nat) {v : Json} (h : o.value? depth = some v) :
    Ordered v := by
  match o with
  | .null =>
    cases h
    exact .null
  | .bool b =>
    cases h
    exact .bool b
  | .number n =>
    obtain ⟨n, -, rfl⟩ := Option.map_eq_some_iff.mp h
    exact .number n
  | .text raw =>
    obtain ⟨s, -, rfl⟩ := Option.map_eq_some_iff.mp h
    exact .text s
  | .array items .closed =>
    rw [Outline.value?] at h
    split at h
    · cases h
    · exact ordered_itemValues items _ (List.forall_mem_nil _) h
  | .object members .closed =>
    rw [Outline.value?] at h
    split at h
    · cases h
    · exact ordered_memberValues members _ .nil (List.forall_mem_nil _) h
  | .array _ .broken | .array _ .stray | .object _ .broken | .object _ .stray | .fault => cases h

theorem ordered_itemValues (items : List Outline) (depth : Nat) {done : List Json} {v : Json}
    (hdone : ∀ w ∈ done, Ordered w) (h : itemValues depth items done = some v) : Ordered v := by
  match items with
  | [] =>
    cases h
    exact .array fun w hw => hdone w (List.mem_reverse.mp hw)
  | o :: rest =>
    rw [itemValues] at h
    split at h
    · rename_i w hw
      exact ordered_itemValues rest depth
        (List.forall_mem_cons.mpr ⟨ordered_value o depth hw, hdone⟩) h
    · cases h

theorem ordered_memberValues (members : List (List UInt8 × Outline)) (depth : Nat)
    {done : List (String × Json)} {v : Json} (hkeys : done.Pairwise fun a b => a.1 < b.1)
    (hdone : ∀ m ∈ done, Ordered m.2) (h : memberValues depth members done = some v) :
    Ordered v := by
  match members with
  | [] =>
    cases h
    exact .object hkeys hdone
  | (raw, o) :: rest =>
    rw [memberValues] at h
    split at h
    · rename_i key w hkey hw
      refine ordered_memberValues rest depth (pairwise_insertMember key w hkeys) ?_ h
      intro m hm
      rcases mem_insertMember hm with rfl | hm
      · exact ordered_value o depth hw
      · exact hdone m hm
    · cases h

end

theorem ordered_of_parse? {bytes : List UInt8} {v : Json} (h : parse? bytes = some v) :
    Ordered v := by
  rw [parse?] at h
  split at h
  · exact ordered_value _ _ h
  · cases h

/-! ## Looking up in what is left -/

theorem Ordered.of_lookup {key : String} {v : Json} {members : List (String × Json)}
    (h : Ordered (.object members)) (hv : members.lookup key = some v) : Ordered v := by
  cases h with
  | object _ hmembers =>
    obtain ⟨before, after, rfl, -⟩ := List.lookup_eq_some_iff.mp hv
    exact hmembers (key, v) (List.mem_append_right _ List.mem_cons_self)

theorem lookup_dropNullsMembers (key : String) {members : List (String × Json)}
    (h : members.Pairwise fun a b => a.1 < b.1) :
    (dropNullsMembers members).lookup key =
      ((members.lookup key).filter fun v => !v.isNull).map dropNulls := by
  induction members with
  | nil => rfl
  | cons first rest ih =>
    obtain ⟨k, v⟩ := first
    obtain ⟨hfirst, hrest⟩ := List.pairwise_cons.mp h
    by_cases hkey : key = k
    · subst hkey
      rw [List.lookup_cons_self]
      by_cases hnull : v = .null
      · -- a second member with this key would come to light
        have hlast : rest.lookup key = none := List.lookup_eq_none_iff.mpr fun m hm =>
          bne_iff_ne.mpr (hfirst m hm).ne
        rw [hnull, dropNullsMembers_null, ih hrest, hlast]
        rfl
      · have hsome : v.isNull = false := eq_false_of_ne_true fun h => hnull ((isNull_iff v).mp h)
        rw [dropNullsMembers_cons key hnull, List.lookup_cons_self, Option.filter_some, hsome]
        rfl
    · have hother : (key == k) = false := beq_false_of_ne hkey
      rw [List.lookup_cons, hother, ← ih hrest]
      by_cases hnull : v = .null
      · rw [hnull, dropNullsMembers_null]
      · rw [dropNullsMembers_cons k hnull, List.lookup_cons, hother]

end EventRelay.Json
