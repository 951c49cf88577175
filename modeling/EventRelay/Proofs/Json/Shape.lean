import EventRelay.Json.Shape
import EventRelay.Proofs.Json.RoundTrip
import Mathlib.Data.List.Nodup

/-!
# The values of a shape

A shape has values of its own, and of a record these have every field, once
and in order. Whatever document is read by a shape, it is one of these values
that comes out; and what is written of one of them is read as that value.
-/

set_option autoImplicit false

namespace EventRelay.Json.Shape

abbrev Fields := List (String × Option Json × Shape)

mutual

/-- The values of a shape. -/
def Suits : Shape → Json → Prop
  | .text, v => ∃ s, v = .text s
  | .integer, v => ∃ n, v = Json.integer n ∧ fitsInt64 n = true
  | .flag, v => ∃ b, v = .bool b
  | .matching holds, v => ∃ s, v = .text s ∧ holds s = true
  | .choice names, v => ∃ s, v = .text s ∧ names.contains s = true
  | .optional inner, v => v = .null ∨ Suits inner v
  | .record fields, v => ∃ members, v = .object members ∧ SuitFields fields members

def SuitFields : List (String × Option Json × Shape) → List (String × Json) → Prop
  | [], members => members = []
  | (key, _, shape) :: rest, members =>
    ∃ v more, members = (key, v) :: more ∧ Suits shape v ∧ SuitFields rest more

end

mutual

def Sound : Shape → Prop
  | .text => True
  | .integer => True
  | .flag => True
  | .matching _ => True
  | .choice _ => True
  | .optional inner => Sound inner
  | .record fields => (fields.map Prod.fst).Nodup ∧ SoundFields fields

def SoundFields : List (String × Option Json × Shape) → Prop
  | [] => True
  | (_, fallback, shape) :: rest =>
    Sound shape ∧ (∀ w ∈ fallback, Suits shape w) ∧ SoundFields rest

end

@[simp]
theorem suits_text (s : String) : Suits .text (.text s) := by
  rw [Suits]
  exact ⟨s, rfl⟩

@[simp]
theorem suits_flag (b : Bool) : Suits .flag (.bool b) := by
  rw [Suits]
  exact ⟨b, rfl⟩

@[simp]
theorem suits_integer_iff {n : Int} : Suits .integer (Json.integer n) ↔ fitsInt64 n = true := by
  rw [Suits]
  constructor
  · rintro ⟨m, hm, hfits⟩
    cases hm
    exact hfits
  · exact fun h => ⟨n, rfl, h⟩

@[simp]
theorem suits_matching_iff {holds : String → Bool} {s : String} :
    Suits (.matching holds) (.text s) ↔ holds s = true := by
  rw [Suits]
  constructor
  · rintro ⟨t, ht, hholds⟩
    cases ht
    exact hholds
  · exact fun h => ⟨s, rfl, h⟩

@[simp]
theorem suits_record_iff {fields : Fields} {members : List (String × Json)} :
    Suits (.record fields) (.object members) ↔ SuitFields fields members := by
  rw [Suits]
  constructor
  · rintro ⟨others, hothers, h⟩
    cases hothers
    exact h
  · exact fun h => ⟨members, rfl, h⟩

@[simp]
theorem suitFields_nil : SuitFields [] [] := by
  rw [SuitFields]

@[simp]
theorem suitFields_cons_iff {key : String} {fallback : Option Json} {shape : Shape} {rest : Fields}
    {m : String × Json} {more : List (String × Json)} :
    SuitFields ((key, fallback, shape) :: rest) (m :: more) ↔
      m.1 = key ∧ Suits shape m.2 ∧ SuitFields rest more := by
  rw [SuitFields]
  constructor
  · rintro ⟨v, others, h, hv, hmore⟩
    cases h
    exact ⟨rfl, hv, hmore⟩
  · rintro ⟨rfl, hv, hmore⟩
    exact ⟨m.2, more, rfl, hv, hmore⟩

theorem exists_of_suits_record {first second : String} {fallback fallback' : Option Json}
    {shape shape' : Shape} {rest : Fields} {v : Json}
    (h : Suits (.record ((first, fallback, shape) :: (second, fallback', shape') :: rest)) v) :
    ∃ a b more, v = .object ((first, a) :: (second, b) :: more) ∧ Suits shape a ∧
      Suits shape' b := by
  rw [Suits] at h
  obtain ⟨members, rfl, h⟩ := h
  rw [SuitFields] at h
  obtain ⟨a, others, rfl, ha, h⟩ := h
  rw [SuitFields] at h
  obtain ⟨b, more, rfl, hb, -⟩ := h
  exact ⟨a, b, more, rfl, ha, hb⟩

theorem SuitFields.keys {fields : Fields} {members : List (String × Json)}
    (h : SuitFields fields members) : members.map Prod.fst = fields.map Prod.fst := by
  induction fields generalizing members with
  | nil =>
    rw [SuitFields] at h
    rw [h]
    rfl
  | cons field rest ih =>
    obtain ⟨key, fallback, shape⟩ := field
    rw [SuitFields] at h
    obtain ⟨v, more, rfl, -, hmore⟩ := h
    rw [List.map_cons, List.map_cons, ih hmore]

theorem lookup_of_mem {members : List (String × Json)} (hkeys : (members.map Prod.fst).Nodup)
    {m : String × Json} (hm : m ∈ members) : members.lookup m.1 = some m.2 := by
  induction members with
  | nil => cases hm
  | cons first rest ih =>
    obtain ⟨key, v⟩ := first
    rw [List.map_cons, List.nodup_cons] at hkeys
    rcases List.mem_cons.mp hm with rfl | hrest
    · exact List.lookup_cons_self
    · have hne : (m.1 == key) = false := by
        rw [beq_eq_false_iff_ne]
        rintro rfl
        exact hkeys.1 (List.mem_map.mpr ⟨m, hrest, rfl⟩)
      rw [List.lookup_cons, hne]
      exact ih hkeys.2 hrest

/-! ## Fields -/

theorem scanField_eq {fields : Fields} (hnames : (fields.map Prod.fst).Nodup)
    {field : String × Option Json × Shape} (hfield : field ∈ fields) (o : Outline) :
    scanField fields field.1 o = some (scan field.2.2 o) := by
  induction fields with
  | nil => cases hfield
  | cons first rest ih =>
    obtain ⟨name, fallback, shape⟩ := first
    rw [List.map_cons, List.nodup_cons] at hnames
    rw [scanField]
    rcases List.mem_cons.mp hfield with rfl | hrest
    · exact if_pos rfl
    · have hne : name ≠ field.1 := by
        rintro rfl
        exact hnames.1 (List.mem_map.mpr ⟨field, hrest, rfl⟩)
      rw [if_neg hne]
      exact ih hnames.2 hrest

theorem exists_of_scanField {fields : Fields} {key : String} {o : Outline}
    {outcome : Except Fault Json} (h : scanField fields key o = some outcome) :
    ∃ field ∈ fields, field.1 = key ∧ scan field.2.2 o = outcome := by
  induction fields with
  | nil =>
    rw [scanField] at h
    cases h
  | cons first rest ih =>
    obtain ⟨name, fallback, shape⟩ := first
    rw [scanField] at h
    split at h
    · rename_i hname
      exact ⟨_, List.mem_cons_self, hname, Option.some.inj h⟩
    · obtain ⟨field, hfield, hrest⟩ := ih h
      exact ⟨field, List.mem_cons_of_mem _ hfield, hrest⟩

/-! ## Reading what was written -/

theorem settle_given {fields : Fields} {given members : List (String × Json)}
    (hsuit : SuitFields fields members)
    (hgiven : ∀ m ∈ members, given.lookup m.1 = some m.2) : settle fields given = .ok members := by
  induction fields generalizing members with
  | nil =>
    rw [SuitFields] at hsuit
    rw [hsuit]
    rfl
  | cons field rest ih =>
    obtain ⟨key, fallback, shape⟩ := field
    rw [SuitFields] at hsuit
    obtain ⟨v, more, rfl, -, hmore⟩ := hsuit
    have hv : given.lookup key = some v := hgiven _ List.mem_cons_self
    have hrest := ih hmore fun m hm => hgiven m (List.mem_cons_of_mem _ hm)
    rw [settle, hv, hrest]
    rfl

/-- The members come out as they were written; those read so far stand before them, last first. -/
theorem scanMembers_outline {fields : Fields} (hnames : (fields.map Prod.fst).Nodup)
    (hscan : ∀ field ∈ fields, ∀ v, Suits field.2.2 v → scan field.2.2 (outline v) = .ok v)
    {rest : Fields} (hrest : rest ⊆ fields) (hdistinct : (rest.map Prod.fst).Nodup)
    {members given : List (String × Json)} (hsuit : SuitFields rest members)
    (hnew : ∀ m ∈ members, given.lookup m.1 = none) :
    scanMembers fields (outlineMembers members) .closed given =
      settle fields (members.reverse ++ given) := by
  induction rest generalizing members given with
  | nil =>
    rw [SuitFields] at hsuit
    rw [hsuit, outlineMembers, scanMembers, if_pos rfl]
    rfl
  | cons field rest ih =>
    have hfield := hrest List.mem_cons_self
    obtain ⟨key, fallback, shape⟩ := field
    rw [SuitFields] at hsuit
    obtain ⟨v, more, rfl, hv, hmore⟩ := hsuit
    rw [List.map_cons, List.nodup_cons] at hdistinct
    have hkey : given.lookup key = none := hnew _ List.mem_cons_self
    have hread : scanField fields key (outline v) = some (.ok v) :=
      (scanField_eq hnames hfield (outline v)).trans (congrArg some (hscan _ hfield v hv))
    rw [outlineMembers, scanMembers, rawText, readText_encode]
    simp only [hread, hkey, Option.isSome_none, Bool.false_eq_true, if_false]
    rw [ih (fun f hf => hrest (List.mem_cons_of_mem _ hf)) hdistinct.2 hmore ?_,
      List.reverse_cons, List.append_assoc, List.singleton_append]
    intro m hm
    have hne : (m.1 == key) = false := by
      rw [beq_eq_false_iff_ne]
      rintro rfl
      exact hdistinct.1 (hmore.keys ▸ List.mem_map_of_mem hm)
    rw [List.lookup_cons, hne]
    exact hnew m (List.mem_cons_of_mem _ hm)

theorem scanString_text {accept : String → Bool} {s : String} (h : accept s = true) :
    scanString accept (.text (rawText s)) = .ok (.text s) := by
  rw [scanString, rawText, readText_encode]
  exact if_pos h

def IsInt64 (n : Int) : Prop := -9223372036854775808 ≤ n ∧ n ≤ 9223372036854775807

theorem fitsInt64_iff {n : Int} : fitsInt64 n = true ↔ IsInt64 n := by
  rw [fitsInt64, Bool.and_eq_true, decide_eq_true_iff, decide_eq_true_iff]
  rfl

theorem exists_of_suits_integer {v : Json} (h : Suits .integer v) :
    ∃ n, v = Json.integer n ∧ IsInt64 n := by
  rw [Suits] at h
  obtain ⟨n, rfl, hn⟩ := h
  exact ⟨n, rfl, fitsInt64_iff.mp hn⟩

theorem fitsNumber_of_fitsInt64 {n : Int} (h : fitsInt64 n = true) : FitsNumber n := by
  obtain ⟨hlow, hhigh⟩ := fitsInt64_iff.mp h
  rw [FitsNumber, Text.maxInt64, Text.maxUInt64]
  omega

theorem outline_eq_null {v : Json} (h : outline v = .null) : v = .null := by
  cases v with
  | null => rfl
  | number n => cases n <;> cases h
  | _ => cases h

/-! A shape and the fields of a record are told together, as they are defined. -/

mutual

theorem scan_outline (shape : Shape) (hsound : Sound shape) (v : Json) (h : Suits shape v) :
    scan shape (outline v) = .ok v := by
  match shape with
  | .text =>
    rw [Suits] at h
    obtain ⟨s, rfl⟩ := h
    rw [outline, scan]
    exact scanString_text rfl
  | .integer =>
    rw [Suits] at h
    obtain ⟨n, rfl, hn⟩ := h
    rw [Json.integer, outline, scan, scanInteger,
      integerNumeral_value (fitsNumber_of_fitsInt64 hn)]
    exact if_pos hn
  | .flag =>
    rw [Suits] at h
    obtain ⟨b, rfl⟩ := h
    rw [outline, scan]
    rfl
  | .matching holds =>
    rw [Suits] at h
    obtain ⟨s, rfl, hs⟩ := h
    rw [outline, scan]
    exact scanString_text hs
  | .choice names =>
    rw [Suits] at h
    obtain ⟨s, rfl, hs⟩ := h
    rw [outline, scan, scanChoice]
    exact scanString_text hs
  | .optional inner =>
    rw [Suits] at h
    rw [Sound] at hsound
    by_cases hnull : v = .null
    · rw [hnull, outline, scan]
    · rw [scan]
      · exact scan_outline inner hsound v (h.resolve_left hnull)
      · exact fun ho => hnull (outline_eq_null ho)
  | .record fields =>
    rw [Suits] at h
    rw [Sound] at hsound
    obtain ⟨members, rfl, hmembers⟩ := h
    have hkeys : (members.reverse.map Prod.fst).Nodup := by
      rw [List.map_reverse, List.nodup_reverse, hmembers.keys]
      exact hsound.1
    rw [outline, scan, scanMembers_outline hsound.1 (scan_outline_fields fields hsound.2)
      (List.Subset.refl fields) hsound.1 hmembers (fun _ _ => rfl), List.append_nil,
      settle_given hmembers fun m hm => lookup_of_mem hkeys (List.mem_reverse.mpr hm)]
    rfl

theorem scan_outline_fields (fields : Fields)
    (hsound : SoundFields fields) : ∀ field ∈ fields, ∀ v, Suits field.2.2 v →
      scan field.2.2 (outline v) = .ok v := by
  match fields with
  | [] => exact fun _ h => nomatch h
  | (key, fallback, shape) :: rest =>
    rw [SoundFields] at hsound
    rw [List.forall_mem_cons]
    exact ⟨scan_outline shape hsound.1, scan_outline_fields rest hsound.2.2⟩

end

mutual

theorem fits_of_suits (shape : Shape) (v : Json) (h : Suits shape v) :
    ∃ least, ∀ depth, least ≤ depth → Fits depth v := by
  match shape with
  | .text =>
    rw [Suits] at h
    obtain ⟨s, rfl⟩ := h
    exact ⟨0, fun _ _ => trivial⟩
  | .matching _ | .choice _ =>
    rw [Suits] at h
    obtain ⟨s, rfl, -⟩ := h
    exact ⟨0, fun _ _ => trivial⟩
  | .integer =>
    rw [Suits] at h
    obtain ⟨n, rfl, hn⟩ := h
    exact ⟨0, fun _ _ => fitsNumber_of_fitsInt64 hn⟩
  | .flag =>
    rw [Suits] at h
    obtain ⟨b, rfl⟩ := h
    exact ⟨0, fun _ _ => trivial⟩
  | .optional inner =>
    rw [Suits] at h
    rcases h with rfl | h
    · exact ⟨0, fun _ _ => trivial⟩
    · exact fits_of_suits inner v h
  | .record fields =>
    rw [Suits] at h
    obtain ⟨members, rfl, hmembers⟩ := h
    obtain ⟨least, hleast⟩ := fitsMembers_of_suits fields members hmembers
    refine ⟨least + 1, fun depth hdepth => ?_⟩
    show 0 < depth ∧ FitsMembers (depth - 1) members
    exact ⟨by omega, hleast (depth - 1) (by omega)⟩

theorem fitsMembers_of_suits (fields : Fields)
    (members : List (String × Json)) (h : SuitFields fields members) :
    ∃ least, ∀ depth, least ≤ depth → FitsMembers depth members := by
  match fields with
  | [] =>
    rw [SuitFields] at h
    rw [h]
    exact ⟨0, fun _ _ => trivial⟩
  | (key, fallback, shape) :: rest =>
    rw [SuitFields] at h
    obtain ⟨v, more, rfl, hv, hmore⟩ := h
    obtain ⟨least, hleast⟩ := fits_of_suits shape v hv
    obtain ⟨least', hleast'⟩ := fitsMembers_of_suits rest more hmore
    refine ⟨max least least', fun depth hdepth => ?_⟩
    show Fits depth v ∧ FitsMembers depth more
    exact ⟨hleast depth (by omega), hleast' depth (by omega)⟩

end

/-- What is written of a value of a shape is read by the shape as that value. -/
theorem read_octets {shape : Shape} (hsound : Sound shape) {v : Json} (h : Suits shape v) :
    shape.read v.octets = .ok v := by
  obtain ⟨depth, hdepth⟩ := fits_of_suits shape v h
  rw [read, Json.read_octets (hdepth depth (Nat.le_refl depth))]
  simp only [scan_outline shape hsound v h, if_true]

/-! ## What comes out -/

theorem exists_of_map_ok {α β : Type} {f : α → β} {x : Except Fault α} {b : β}
    (h : x.map f = .ok b) : ∃ a, x = .ok a ∧ f a = b := by
  cases x with
  | error e => cases h
  | ok a => exact ⟨a, rfl, Except.ok.inj h⟩

theorem suits_of_scanString {accept : String → Bool} {o : Outline} {v : Json}
    (h : scanString accept o = .ok v) : ∃ s, v = .text s ∧ accept s = true := by
  unfold scanString at h
  split at h
  · split at h
    · cases h
    · rename_i s _
      split at h
      · rename_i haccept
        cases h
        exact ⟨s, rfl, haccept⟩
      · cases h
  · cases h

theorem suits_of_scanInteger {o : Outline} {v : Json} (h : scanInteger o = .ok v) :
    ∃ n, v = Json.integer n ∧ fitsInt64 n = true := by
  unfold scanInteger at h
  split at h
  · split at h
    · cases h
    · rename_i n _
      split at h
      · rename_i hfits
        cases h
        exact ⟨n, rfl, hfits⟩
      · cases h
    · cases h
  · cases h

theorem suits_of_scanFlag {o : Outline} {v : Json} (h : scanFlag o = .ok v) :
    ∃ b, v = .bool b := by
  unfold scanFlag at h
  split at h
  · cases h
    exact ⟨_, rfl⟩
  · cases h

theorem suits_of_scanChoice {names : List String} {o : Outline} {v : Json}
    (h : scanChoice names o = .ok v) : ∃ s, v = .text s ∧ names.contains s = true := by
  unfold scanChoice at h
  split at h
  · exact suits_of_scanString h
  · split at h
    · cases h
    · rename_i hname
      split at h
      · split at h
        · cases h
          exact suits_of_scanString hname
        · cases h
      · cases h
  · cases h
  · cases h

theorem suits_of_absent {fallback : Option Json} {shape : Shape}
    (hfallback : ∀ w ∈ fallback, Suits shape w) {v : Json} (h : absent fallback shape = some v) :
    Suits shape v := by
  unfold absent at h
  split at h
  · cases h
    cases fallback with
    | none =>
      rw [Suits]
      exact Or.inl rfl
    | some w => exact hfallback w rfl
  · exact hfallback v h

theorem suits_of_settle {fields : Fields} {given members : List (String × Json)}
    (hgiven : ∀ field ∈ fields, ∀ v, given.lookup field.1 = some v → Suits field.2.2 v)
    (hfallback : ∀ field ∈ fields, ∀ w ∈ field.2.1, Suits field.2.2 w)
    (h : settle fields given = .ok members) : SuitFields fields members := by
  induction fields generalizing members with
  | nil =>
    cases h
    rw [SuitFields]
  | cons field rest ih =>
    obtain ⟨key, fallback, shape⟩ := field
    rw [settle] at h
    split at h
    · cases h
    · rename_i v hv
      have hsuit : Suits shape v := by
        rcases Option.or_eq_some_iff.mp hv with hv | ⟨-, hv⟩
        · exact hgiven _ List.mem_cons_self v hv
        · exact suits_of_absent (hfallback _ List.mem_cons_self) hv
      obtain ⟨more, hrest, rfl⟩ := exists_of_map_ok h
      rw [SuitFields]
      exact ⟨v, more, rfl, hsuit, ih (fun f hf => hgiven f (List.mem_cons_of_mem _ hf))
        (fun f hf => hfallback f (List.mem_cons_of_mem _ hf)) hrest⟩

/-- What has been read so far suits the fields that it was read for. -/
def Given (fields : Fields) (given : List (String × Json)) : Prop :=
  ∀ field ∈ fields, ∀ v, given.lookup field.1 = some v → Suits field.2.2 v

theorem Given.nil (fields : Fields) : Given fields [] := by
  intro field _ v h
  cases h

theorem eq_of_name {fields : Fields} (hnames : (fields.map Prod.fst).Nodup)
    {f g : String × Option Json × Shape} (hf : f ∈ fields) (hg : g ∈ fields) (h : f.1 = g.1) :
    f = g := List.inj_on_of_nodup_map hnames hf hg h

theorem Given.cons {fields : Fields} (hnames : (fields.map Prod.fst).Nodup)
    {given : List (String × Json)} (h : Given fields given)
    {field : String × Option Json × Shape} (hfield : field ∈ fields) {v : Json}
    (hv : Suits field.2.2 v) : Given fields ((field.1, v) :: given) := by
  intro other hother w hw
  rw [List.lookup_cons] at hw
  split at hw
  · rename_i hname
    cases hw
    rw [eq_of_name hnames hother hfield (beq_iff_eq.mp hname)]
    exact hv
  · exact h other hother w hw

theorem suits_of_scanMembers {fields : Fields} (hnames : (fields.map Prod.fst).Nodup)
    (hscan : ∀ field ∈ fields, ∀ o v, scan field.2.2 o = .ok v → Suits field.2.2 v)
    (hfallback : ∀ field ∈ fields, ∀ w ∈ field.2.1, Suits field.2.2 w)
    {read : List (List UInt8 × Outline)} {ending : Ending} {given members : List (String × Json)}
    (hgiven : Given fields given) (h : scanMembers fields read ending given = .ok members) :
    SuitFields fields members := by
  induction read generalizing given with
  | nil =>
    rw [scanMembers] at h
    split at h
    · exact suits_of_settle hgiven hfallback h
    · cases h
  | cons member read ih =>
    obtain ⟨raw, o⟩ := member
    rw [scanMembers] at h
    split at h
    · cases h
    · rename_i key _
      split at h
      · split at h
        · exact ih hgiven h
        · cases h
      · rename_i outcome hfield
        obtain ⟨field, hmem, rfl, houtcome⟩ := exists_of_scanField hfield
        split at h
        · cases h
        · split at h
          · cases h
          · exact ih (hgiven.cons hnames hmem (hscan field hmem o _ houtcome)) h

theorem suits_of_settleRest {fields : Fields} {members : List (String × Json)}
    (hfallback : ∀ field ∈ fields, ∀ w ∈ field.2.1, Suits field.2.2 w)
    (h : settleRest fields = .ok members) : SuitFields fields members := by
  induction fields generalizing members with
  | nil =>
    cases h
    rw [SuitFields]
  | cons field rest ih =>
    obtain ⟨key, fallback, shape⟩ := field
    cases fallback with
    | none => cases h
    | some w =>
      rw [settleRest] at h
      obtain ⟨more, hrest, rfl⟩ := exists_of_map_ok h
      rw [SuitFields]
      exact ⟨w, more, rfl, hfallback _ List.mem_cons_self w rfl,
        ih (fun f hf => hfallback f (List.mem_cons_of_mem _ hf)) hrest⟩

theorem suits_of_scanItems {fields : Fields}
    (hscan : ∀ field ∈ fields, ∀ o v, scan field.2.2 o = .ok v → Suits field.2.2 v)
    (hfallback : ∀ field ∈ fields, ∀ w ∈ field.2.1, Suits field.2.2 w) {items : List Outline}
    {ending : Ending} {members : List (String × Json)}
    (h : scanItems fields items ending = .ok members) : SuitFields fields members := by
  induction fields generalizing items members with
  | nil =>
    cases items with
    | nil =>
      rw [scanItems] at h
      split at h
      · cases h
        rw [SuitFields]
      · cases h
    | cons o items =>
      rw [scanItems] at h
      cases h
  | cons field rest ih =>
    obtain ⟨key, fallback, shape⟩ := field
    cases items with
    | nil =>
      rw [scanItems] at h
      split at h
      · exact suits_of_settleRest hfallback h
      · cases h
    | cons o items =>
      rw [scanItems] at h
      split at h
      · cases h
      · rename_i w hw
        obtain ⟨more, hrest, rfl⟩ := exists_of_map_ok h
        rw [SuitFields]
        exact ⟨w, more, rfl, hscan _ List.mem_cons_self o w hw,
          ih (fun f hf => hscan f (List.mem_cons_of_mem _ hf))
            (fun f hf => hfallback f (List.mem_cons_of_mem _ hf)) hrest⟩

theorem SoundFields.fallback {fields : Fields} (h : SoundFields fields) :
    ∀ field ∈ fields, ∀ w ∈ field.2.1, Suits field.2.2 w := by
  induction fields with
  | nil => exact fun _ hf => nomatch hf
  | cons field rest ih =>
    obtain ⟨key, fallback, shape⟩ := field
    rw [SoundFields] at h
    rw [List.forall_mem_cons]
    exact ⟨h.2.1, ih h.2.2⟩

mutual

theorem suits_of_scan (shape : Shape) (hsound : Sound shape) (o : Outline) (v : Json)
    (h : scan shape o = .ok v) : Suits shape v := by
  match shape with
  | .text =>
    rw [scan] at h
    rw [Suits]
    obtain ⟨s, hs, -⟩ := suits_of_scanString h
    exact ⟨s, hs⟩
  | .integer =>
    rw [scan] at h
    rw [Suits]
    exact suits_of_scanInteger h
  | .flag =>
    rw [scan] at h
    rw [Suits]
    exact suits_of_scanFlag h
  | .matching holds =>
    rw [scan] at h
    rw [Suits]
    exact suits_of_scanString h
  | .choice names =>
    rw [scan] at h
    rw [Suits]
    exact suits_of_scanChoice h
  | .optional inner =>
    rw [Sound] at hsound
    rw [Suits]
    by_cases hnull : o = .null
    · rw [hnull, scan] at h
      cases h
      exact Or.inl rfl
    · rw [scan] at h
      · exact Or.inr (suits_of_scan inner hsound o v h)
      · exact hnull
  | .record fields =>
    rw [Sound] at hsound
    have hscan := suits_of_scan_fields fields hsound.2
    have hfallback := SoundFields.fallback hsound.2
    rw [Suits]
    cases o with
    | object members ending =>
      rw [scan] at h
      obtain ⟨given, hmembers, rfl⟩ := exists_of_map_ok h
      exact ⟨given, rfl, suits_of_scanMembers hsound.1 hscan hfallback (.nil fields) hmembers⟩
    | array items ending =>
      rw [scan] at h
      obtain ⟨given, hitems, rfl⟩ := exists_of_map_ok h
      exact ⟨given, rfl, suits_of_scanItems hscan hfallback hitems⟩
    | _ =>
      rw [scan] at h
      · cases h
      all_goals nofun

theorem suits_of_scan_fields (fields : Fields)
    (hsound : SoundFields fields) : ∀ field ∈ fields, ∀ o v, scan field.2.2 o = .ok v →
      Suits field.2.2 v := by
  match fields with
  | [] => exact fun _ h => nomatch h
  | (key, fallback, shape) :: rest =>
    rw [SoundFields] at hsound
    rw [List.forall_mem_cons]
    exact ⟨suits_of_scan shape hsound.1, suits_of_scan_fields rest hsound.2.2⟩

end

theorem suits_of_read {shape : Shape} (hsound : Sound shape) {bytes : List UInt8} {v : Json}
    (h : shape.read bytes = .ok v) : Suits shape v := by
  unfold read at h
  simp only at h
  split at h
  · cases h
  · rename_i w hscan
    split at h
    · cases h
      exact suits_of_scan shape hsound _ _ hscan
    · cases h

end EventRelay.Json.Shape
