import EventRelay.Json.Form
import EventRelay.Proofs.Json.Nulls

/-!
# What fills a form

A form takes a value of its own type. A record takes an object whose members
the forms of the fields take one by one, as far as they are not null, and an
array that has no more items than the record has fields. The reader gives a
filled form for exactly these payloads, a null payload being an empty object.
-/

set_option autoImplicit false

namespace EventRelay.Json

namespace Form

/-- The values that a form takes. Members that the form does not name are not looked at; the
items of an array stand for the first fields in their order, and none of them may be null. -/
inductive Takes : Form → Json → Prop
  | text (s : String) : Takes .text (.text s)
  | flag (b : Bool) : Takes .flag (.bool b)
  | integer {n : Int} (h : fitsInt64 n = true) : Takes .integer (.number (.integer n))
  | object {name : String} {fields : List (String × Form)} {members : List (String × Json)}
      (h : ∀ m ∈ members, ∀ form, fields.lookup m.1 = some form → m.2 ≠ .null → Takes form m.2) :
      Takes (.record name fields) (.object members)
  | array {name : String} {fields : List (String × Form)} {items : List Json}
      (hlength : items.length ≤ fields.length)
      (h : ∀ pair ∈ items.zip fields, Takes pair.2.2 pair.1) :
      Takes (.record name fields) (.array items)

def TakesPayload (form : Form) (payload : Json) : Prop :=
  payload = .null ∨ ∃ members, payload = .object members ∧ form.Takes payload

theorem fillScalar_ok_iff (v : Json) (form : Form) (hobject : ∀ members, v ≠ .object members)
    (harray : ∀ items, v ≠ .array items) :
    (∃ w, fillScalar v form = .ok w) ↔ form.Takes v := by
  constructor
  · rintro ⟨w, h⟩
    unfold fillScalar at h
    split at h
    · exact .text _
    · exact .flag _
    · split at h
      · rename_i hfits
        exact .integer hfits
      · cases h
    · cases h
  · intro h
    cases h with
    | text s => exact ⟨_, rfl⟩
    | flag b => exact ⟨_, rfl⟩
    | integer h => exact ⟨_, if_pos h⟩
    | object h => exact absurd rfl (hobject _)
    | array hlength h => exact absurd rfl (harray _)

theorem length_dropNullsItems (items : List Json) :
    (dropNullsItems items).length = items.length := by
  induction items with
  | nil => rfl
  | cons v rest ih => rw [dropNullsItems, List.length_cons, ih, List.length_cons]

theorem exists_map_ok_iff {ε α β : Type} (f : α → β) (x : Except ε α) :
    (∃ b, x.map f = .ok b) ↔ ∃ a, x = .ok a := by
  cases x <;> simp [Except.map]

/-! The three readers are defined together, and so their domains are told together. -/

mutual

theorem fill_ok_iff (v : Json) (form : Form) :
    (∃ w, fill (dropNulls v) form = .ok w) ↔ form.Takes v := by
  match v with
  | .null | .bool _ | .number _ | .text _ => exact fillScalar_ok_iff _ form nofun nofun
  | .object members =>
    cases form with
    | record name fields =>
      rw [dropNulls, fill, isRecord, if_pos rfl, exists_map_ok_iff, Form.fields,
        fillMembers_ok_iff members fields]
      constructor
      · exact .object
      · rintro ⟨⟩
        assumption
    | _ =>
      refine iff_of_false ?_ nofun
      rintro ⟨w, h⟩
      cases h
  | .array items =>
    cases form with
    | record name fields =>
      have hitems := fillItems_ok_iff items fields
      rw [dropNulls, fill, isRecord, if_pos rfl, Form.fields, length_dropNullsItems]
      cases hfill : fillItems (dropNullsItems items) fields with
      | error e =>
        rw [hfill] at hitems
        refine iff_of_false nofun ?_
        rintro ⟨⟩
        obtain ⟨_, h⟩ := hitems.mpr (by assumption)
        cases h
      | ok given =>
        have htakes := hitems.mp ⟨given, hfill⟩
        by_cases hlength : fields.length < items.length
        · simp only [if_pos hlength]
          refine iff_of_false nofun ?_
          rintro ⟨⟩
          omega
        · simp only [if_neg hlength]
          exact iff_of_true ⟨_, rfl⟩ (.array (by omega) htakes)
    | _ =>
      refine iff_of_false ?_ nofun
      rintro ⟨w, h⟩
      cases h

theorem fillMembers_ok_iff (members : List (String × Json)) (fields : List (String × Form)) :
    (∃ given, fillMembers (dropNullsMembers members) fields = .ok given) ↔
      ∀ m ∈ members, ∀ form, fields.lookup m.1 = some form → m.2 ≠ .null → form.Takes m.2 := by
  match members with
  | [] => exact iff_of_true ⟨_, rfl⟩ nofun
  | (key, v) :: rest =>
    rw [List.forall_mem_cons, ← fillMembers_ok_iff rest fields]
    by_cases hnull : v = .null
    · rw [hnull, dropNullsMembers_null]
      exact (and_iff_right fun _ _ hv => absurd rfl hv).symm
    · rw [dropNullsMembers_cons key hnull, fillMembers]
      cases hfield : fields.lookup key with
      | none => exact (and_iff_right fun _ h => by cases h).symm
      | some form =>
        have hv := fill_ok_iff v form
        simp only
        cases hfill : fill (dropNulls v) form with
        | error e =>
          rw [hfill] at hv
          refine iff_of_false nofun ?_
          rintro ⟨htakes, -⟩
          obtain ⟨_, h⟩ := hv.mpr (htakes form rfl hnull)
          cases h
        | ok w =>
          simp only [exists_map_ok_iff]
          refine (and_iff_right ?_).symm
          intro other hother _
          rw [← Option.some.inj hother]
          exact hv.mp ⟨w, hfill⟩

theorem fillItems_ok_iff (items : List Json) (fields : List (String × Form)) :
    (∃ given, fillItems (dropNullsItems items) fields = .ok given) ↔
      ∀ pair ∈ items.zip fields, pair.2.2.Takes pair.1 := by
  match items, fields with
  | [], _ => exact iff_of_true ⟨_, rfl⟩ nofun
  | _ :: _, [] => exact iff_of_true ⟨_, rfl⟩ nofun
  | v :: rest, (key, form) :: fields =>
    rw [List.zip_cons_cons, List.forall_mem_cons, ← fillItems_ok_iff rest fields,
      ← fill_ok_iff v form, dropNullsItems, fillItems]
    cases hfill : fill (dropNulls v) form with
    | error e =>
      refine iff_of_false nofun ?_
      rintro ⟨⟨_, h⟩, -⟩
      cases h
    | ok w =>
      simp only [exists_map_ok_iff]
      exact (and_iff_right ⟨w, rfl⟩).symm

end

/-- The reader fills a form from the payloads that the form takes, and from no others. -/
theorem read_ok_iff (name : String) (fields : List (String × Form)) (payload : Json) :
    (∃ v, (Form.record name fields).read payload = .ok v) ↔
      (Form.record name fields).TakesPayload payload := by
  rw [TakesPayload]
  cases payload with
  | null => exact iff_of_true ⟨_, rfl⟩ (Or.inl rfl)
  | object members =>
    rw [read, fill_ok_iff]
    constructor
    · intro h
      exact Or.inr ⟨members, rfl, h⟩
    · rintro (h | ⟨_, -, h⟩)
      · cases h
      · exact h
  | _ =>
    refine iff_of_false ?_ ?_
    · rintro ⟨v, h⟩
      cases h
    · rintro (h | ⟨_, h, -⟩) <;> cases h

end Form

end EventRelay.Json
