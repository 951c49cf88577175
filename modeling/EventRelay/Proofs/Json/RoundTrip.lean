import EventRelay.Proofs.Json.Scan

/-!
# Reading back what was written

The compact text of a value is read to the outline of that value, whatever
follows it, and the outline comes to the value again, with the members of
each object in the order of their keys. So no text that a value holds, as a
key or elsewhere, can end early, change its neighbours or change the
structure. Real numbers are left out: their digits may stand for another
real number as well.
-/

set_option autoImplicit false

namespace EventRelay.Json

open EventRelay.Text

/-! ## The octets of a value -/

def restItems : List Json → List UInt8
  | [] => [93]
  | v :: rest => 44 :: (v.octets ++ restItems rest)

def memberOctets (key : String) (v : Json) : List UInt8 :=
  34 :: (rawText key ++ 34 :: 58 :: v.octets)

def restMembers : List (String × Json) → List UInt8
  | [] => [125]
  | (key, v) :: rest => 44 :: (memberOctets key v ++ restMembers rest)

theorem encode_cons {c : Char} (h : c.toNat < 0x80) (cs : List Char) :
    Utf8.encode (c :: cs) = UInt8.ofNat c.toNat :: Utf8.encode cs := by
  rw [Utf8.encode, List.flatMap_cons, Utf8.encodeChar]
  simp only [if_pos h]
  rfl

theorem encode_quote (s : String) (cs : List Char) :
    Utf8.encode (quote s ++ cs) = 34 :: (rawText s ++ 34 :: Utf8.encode cs) := by
  rw [quote, List.cons_append, List.cons_append, List.append_assoc, encode_cons (by decide),
    Utf8.encode_append, List.singleton_append, encode_cons (by decide)]
  rfl

theorem octets_text (s : String) : (Json.text s).octets = 34 :: (rawText s ++ [34]) := by
  have h := encode_quote s []
  rw [List.append_nil] at h
  exact h

theorem encode_renderItems (v : Json) (rest : List Json) :
    Utf8.encode (renderItems (v :: rest)) = v.octets ++ restItems rest := by
  induction rest generalizing v with
  | nil =>
    rw [renderItems, Utf8.encode_append]
    rfl
  | cons w rest ih =>
    rw [renderItems, Utf8.encode_append, encode_cons (by decide), ih w]
    · rfl
    · nofun

theorem encode_member (key : String) (v : Json) (cs : List Char) :
    Utf8.encode (quote key ++ ':' :: (v.render ++ cs)) = memberOctets key v ++ Utf8.encode cs := by
  rw [encode_quote, encode_cons (by decide), Utf8.encode_append]
  simp only [memberOctets, octets, List.cons_append, List.append_assoc]
  rfl

theorem encode_renderMembers (key : String) (v : Json) (rest : List (String × Json)) :
    Utf8.encode (renderMembers ((key, v) :: rest)) = memberOctets key v ++ restMembers rest := by
  induction rest generalizing key v with
  | nil =>
    rw [renderMembers, List.append_assoc, List.cons_append, encode_member]
    rfl
  | cons member rest ih =>
    obtain ⟨key', w⟩ := member
    rw [renderMembers, List.append_assoc, List.cons_append, encode_member,
      encode_cons (by decide), ih key' w]
    · rfl
    · nofun

theorem octets_array (v : Json) (rest : List Json) :
    (Json.array (v :: rest)).octets = 91 :: (v.octets ++ restItems rest) := by
  rw [octets, render, encode_cons (by decide), encode_renderItems]
  rfl

theorem octets_object (key : String) (v : Json) (rest : List (String × Json)) :
    (Json.object ((key, v) :: rest)).octets = 123 :: (memberOctets key v ++ restMembers rest) := by
  rw [octets, render, encode_cons (by decide), encode_renderMembers]
  rfl

/-! ## What is read of them -/

mutual

/-- Without reals, with integers of 64 bits, and of no more than some levels of nesting. -/
def Fits : Nat → Json → Prop
  | _, .null => True
  | _, .bool _ => True
  | _, .number (.integer n) => FitsNumber n
  | _, .number (.real _) => False
  | _, .text _ => True
  | depth, .array items => 0 < depth ∧ FitsItems (depth - 1) items
  | depth, .object members => 0 < depth ∧ FitsMembers (depth - 1) members

def FitsItems : Nat → List Json → Prop
  | _, [] => True
  | depth, v :: rest => Fits depth v ∧ FitsItems depth rest

def FitsMembers : Nat → List (String × Json) → Prop
  | _, [] => True
  | depth, (_, v) :: rest => Fits depth v ∧ FitsMembers depth rest

end

mutual

def outline : Json → Outline
  | .null => .null
  | .bool b => .bool b
  | .number (.integer n) => .number (integerNumeral n)
  | .number (.real _) => .fault
  | .text s => .text (rawText s)
  | .array items => .array (outlineItems items) .closed
  | .object members => .object (outlineMembers members) .closed

def outlineItems : List Json → List Outline
  | [] => []
  | v :: rest => outline v :: outlineItems rest

def outlineMembers : List (String × Json) → List (List UInt8 × Outline)
  | [] => []
  | (key, v) :: rest => (rawText key, outline v) :: outlineMembers rest

end

mutual

/-- The value with the members of each object in the order of their keys, of two with one key the
later. -/
def sorted : Json → Json
  | .array items => .array (sortedItems items)
  | .object members => .object (sortedMembers members [])
  | v => v

def sortedItems : List Json → List Json
  | [] => []
  | v :: rest => sorted v :: sortedItems rest

def sortedMembers : List (String × Json) → List (String × Json) → List (String × Json)
  | [], done => done
  | (key, v) :: rest, done => sortedMembers rest (insertMember key (sorted v) done)

end

theorem isWhole_outline {depth : Nat} {v : Json} (h : Fits depth v) :
    (outline v).isWhole = true := by
  cases v with
  | number n =>
    cases n with
    | integer n => rfl
    | real r => cases h
  | _ => rfl

theorem octets_start {depth : Nat} {v : Json} (h : Fits depth v) :
    ∃ b bs, v.octets = b :: bs ∧ isSpace b = false ∧ b ≠ 93 := by
  cases v with
  | null => exact ⟨110, _, rfl, by decide⟩
  | bool b =>
    cases b with
    | true => exact ⟨116, _, rfl, by decide⟩
    | false => exact ⟨102, _, rfl, by decide⟩
  | number n =>
    cases n with
    | integer n =>
      obtain ⟨b, bs, hbs, hb⟩ := encode_integerDigits n
      refine ⟨b, bs, hbs, ?_, hb.ne (by decide)⟩
      simp [isSpace, hb.ne (c := 32) (by decide), hb.ne (c := 10) (by decide),
        hb.ne (c := 13) (by decide), hb.ne (c := 9) (by decide)]
    | real r => cases h
  | text s => exact ⟨34, _, octets_text s, by decide⟩
  | array items => exact ⟨91, _, encode_cons (by decide) _, by decide⟩
  | object members => exact ⟨123, _, encode_cons (by decide) _, by decide⟩

theorem skipSpace_start {b : UInt8} (h : isSpace b = false) (bs : List UInt8) :
    skipSpace (b :: bs) = b :: bs := List.dropWhile_cons_of_neg (by rw [h]; nofun)

theorem stops_restItems (items : List Json) (rest : List UInt8) :
    Stops (restItems items ++ rest) := by
  cases items <;>
  · intro b hb
    cases hb
    decide

theorem stops_restMembers (members : List (String × Json)) (rest : List UInt8) :
    Stops (restMembers members ++ rest) := by
  cases members <;>
  · intro b hb
    cases hb
    decide

/-! ## Reading -/

theorem readScalar_text (s : String) (rest : List UInt8) :
    readScalar 34 (rawText s ++ 34 :: rest) = (.text (rawText s), rest) := by
  simp only [readScalar, if_true, scanText_rawText]

theorem readScalar_integer {n : Int} {rest : List UInt8} (h : Stops rest) {b : UInt8}
    {bs : List UInt8} (hbs : Utf8.encode (integerDigits n) = b :: bs) (hb : StartsNumeral b) :
    readScalar b (bs ++ rest) = (.number (integerNumeral n), rest) := by
  have hscan := scanNumeral_integer n h
  rw [hbs, List.cons_append] at hscan
  have hstart : (decide (b = 45) || isDigitOctet b) = true := by
    rcases hb with rfl | hb
    · rfl
    · rw [hb, Bool.or_true]
  unfold readScalar
  simp only [hb.ne (c := 34) (by decide), hb.ne (c := 110) (by decide),
    hb.ne (c := 116) (by decide), hb.ne (c := 102) (by decide), if_false]
  rw [if_pos hstart, hscan]

theorem readValue_scalar {fuel : Nat} {b : UInt8} (hspace : isSpace b = false) (harray : b ≠ 91)
    (hobject : b ≠ 123) (bs : List UInt8) :
    readValue (fuel + 1) (b :: bs) = readScalar b bs := by
  rw [readValue, skipSpace_start hspace]
  simp only [harray, hobject, if_false]

theorem memberOctets_append (key : String) (v : Json) (rest : List UInt8) :
    memberOctets key v ++ rest = 34 :: (rawText key ++ 34 :: 58 :: (v.octets ++ rest)) := by
  simp only [memberOctets, List.cons_append, List.append_assoc]

theorem length_memberOctets (key : String) (v : Json) :
    v.octets.length < (memberOctets key v).length := by
  simp only [memberOctets, List.length_cons, List.length_append]
  omega

/-! One step of each loop. -/

theorem readItems_first {fuel : Nat} {b : UInt8} (hspace : isSpace b = false) (hclose : b ≠ 93)
    {bs rest : List UInt8} {v : Outline} (hread : readValue fuel (b :: bs) = (v, rest))
    (hv : v.isWhole = true) : readItems (fuel + 1) (b :: bs) [] = readItems fuel rest [v] := by
  rw [readItems, skipSpace_start hspace]
  simp only [if_neg hclose, List.isEmpty_nil, if_true, hread, hv]

theorem readItems_next {fuel : Nat} {b : UInt8} (hspace : isSpace b = false) (hclose : b ≠ 93)
    {bs rest : List UInt8} {v : Outline} (hread : readValue fuel (b :: bs) = (v, rest))
    (hv : v.isWhole = true) (w : Outline) (done : List Outline) :
    readItems (fuel + 1) (44 :: b :: bs) (w :: done) = readItems fuel rest (v :: w :: done) := by
  have hcomma : isSpace 44 = false := by decide
  rw [readItems, skipSpace_start hcomma]
  have hne : (44 : UInt8) ≠ 93 := by decide
  simp only [if_neg hne, List.isEmpty_cons, Bool.false_eq_true, if_false, if_true,
    skipSpace_start hspace, if_neg hclose, hread, hv]

theorem readMembers_first {fuel : Nat} {bs rest : List UInt8} {v : Outline}
    (hread : readValue fuel bs = (v, rest)) (hv : v.isWhole = true) (key : String) :
    readMembers (fuel + 1) (34 :: (rawText key ++ 34 :: 58 :: bs)) [] =
      readMembers fuel rest [(rawText key, v)] := by
  have hquote : isSpace 34 = false := by decide
  have hcolon : isSpace 58 = false := by decide
  have hne : (34 : UInt8) ≠ 125 := by decide
  rw [readMembers, skipSpace_start hquote]
  simp only [if_neg hne, List.isEmpty_nil, if_true, scanText_rawText, skipSpace_start hcolon,
    hread, hv]

theorem readMembers_next {fuel : Nat} {bs rest : List UInt8} {v : Outline}
    (hread : readValue fuel bs = (v, rest)) (hv : v.isWhole = true) (key : String)
    (member : List UInt8 × Outline) (done : List (List UInt8 × Outline)) :
    readMembers (fuel + 1) (44 :: 34 :: (rawText key ++ 34 :: 58 :: bs)) (member :: done) =
      readMembers fuel rest ((rawText key, v) :: member :: done) := by
  have hcomma : isSpace 44 = false := by decide
  have hquote : isSpace 34 = false := by decide
  have hcolon : isSpace 58 = false := by decide
  have hne : (44 : UInt8) ≠ 125 := by decide
  rw [readMembers, skipSpace_start hcomma]
  simp only [if_neg hne, List.isEmpty_cons, Bool.false_eq_true, if_false, if_true,
    skipSpace_start hquote, scanText_rawText, skipSpace_start hcolon, hread, hv]

theorem length_octets {depth : Nat} {v : Json} (h : Fits depth v) : 1 ≤ v.octets.length := by
  obtain ⟨b, bs, hbs, -⟩ := octets_start h
  rw [hbs]
  exact Nat.le_add_left 1 bs.length

/-! A numeral ends only where what follows stops it, so a value is read back in front of anything
that does; commas and brackets do. Each octet pays for two steps: the loop's and the value's. -/

mutual

theorem readValue_octets (v : Json) (depth : Nat) (h : Fits depth v) (rest : List UInt8)
    (hrest : Stops rest) (fuel : Nat) (hfuel : 2 * v.octets.length ≤ fuel) :
    readValue fuel (v.octets ++ rest) = (outline v, rest) := by
  have hlength := length_octets h
  obtain ⟨fuel, rfl⟩ : ∃ n, fuel = n + 1 := ⟨fuel - 1, by omega⟩
  match v with
  | .null => exact readValue_scalar rfl (by decide) (by decide) _
  | .bool true => exact readValue_scalar rfl (by decide) (by decide) _
  | .bool false => exact readValue_scalar rfl (by decide) (by decide) _
  | .number (.integer n) =>
    obtain ⟨b, bs, hbs, hb⟩ := encode_integerDigits n
    obtain ⟨b', bs', hbs', hspace, -⟩ := octets_start h
    have hoctets : (Json.number (.integer n)).octets = b :: bs := hbs
    obtain ⟨rfl, rfl⟩ := List.cons.inj (hoctets.symm.trans hbs')
    rw [hoctets, List.cons_append,
      readValue_scalar hspace (hb.ne (by decide)) (hb.ne (by decide)),
      readScalar_integer hrest hbs hb]
    rfl
  | .text s =>
    rw [octets_text, List.cons_append, List.append_assoc,
      readValue_scalar rfl (by decide) (by decide), List.singleton_append, readScalar_text]
    rfl
  | .array [] =>
    obtain ⟨fuel, rfl⟩ : ∃ n, fuel = n + 1 := ⟨fuel - 1, by omega⟩
    rfl
  | .array (w :: items) =>
    obtain ⟨-, hw, hitems⟩ := h
    rw [octets_array, List.length_cons, List.length_append] at hfuel
    obtain ⟨b, bs, hbs, hspace, hclose⟩ := octets_start hw
    obtain ⟨fuel, rfl⟩ : ∃ n, fuel = n + 1 := ⟨fuel - 1, by omega⟩
    have hread := readValue_octets w _ hw (restItems items ++ rest) (stops_restItems items rest)
      fuel (by omega)
    rw [hbs, List.cons_append] at hread
    rw [octets_array, List.cons_append, List.append_assoc, hbs, List.cons_append]
    change readItems (fuel + 1) (b :: (bs ++ (restItems items ++ rest))) [] = _
    rw [readItems_first hspace hclose hread (isWhole_outline hw),
      readItems_rest items _ hitems rest _ _ fuel (by omega)]
    rfl
  | .object [] =>
    obtain ⟨fuel, rfl⟩ : ∃ n, fuel = n + 1 := ⟨fuel - 1, by omega⟩
    rfl
  | .object ((key, w) :: members) =>
    obtain ⟨-, hw, hmembers⟩ := h
    rw [octets_object, List.length_cons, List.length_append] at hfuel
    have hmember := length_memberOctets key w
    obtain ⟨fuel, rfl⟩ : ∃ n, fuel = n + 1 := ⟨fuel - 1, by omega⟩
    have hread := readValue_octets w _ hw (restMembers members ++ rest)
      (stops_restMembers members rest) fuel (by omega)
    rw [octets_object, List.cons_append, List.append_assoc, memberOctets_append]
    change readMembers (fuel + 1)
      (34 :: (rawText key ++ 34 :: 58 :: (w.octets ++ (restMembers members ++ rest)))) [] = _
    rw [readMembers_first hread (isWhole_outline hw),
      readMembers_rest members _ hmembers rest _ _ fuel (by omega)]
    rfl

theorem readItems_rest (items : List Json) (depth : Nat) (h : FitsItems depth items)
    (rest : List UInt8) (w : Outline) (done : List Outline) (fuel : Nat)
    (hfuel : 2 * (restItems items).length ≤ fuel) :
    readItems fuel (restItems items ++ rest) (w :: done) =
      (.array ((w :: done).reverse ++ outlineItems items) .closed, rest) := by
  match items with
  | [] =>
    obtain ⟨fuel, rfl⟩ : ∃ n, fuel = n + 1 := ⟨fuel - 1, by rw [restItems] at hfuel; grind⟩
    rw [outlineItems, List.append_nil]
    rfl
  | v :: items =>
    obtain ⟨hv, hitems⟩ := h
    rw [restItems, List.length_cons, List.length_append] at hfuel
    obtain ⟨b, bs, hbs, hspace, hclose⟩ := octets_start hv
    obtain ⟨fuel, rfl⟩ : ∃ n, fuel = n + 1 := ⟨fuel - 1, by omega⟩
    have hread := readValue_octets v _ hv (restItems items ++ rest) (stops_restItems items rest)
      fuel (by omega)
    rw [hbs, List.cons_append] at hread
    rw [restItems, List.cons_append, List.append_assoc, hbs, List.cons_append,
      readItems_next hspace hclose hread (isWhole_outline hv),
      readItems_rest items _ hitems rest _ _ fuel (by omega), List.reverse_cons,
      List.append_assoc]
    rfl

theorem readMembers_rest (members : List (String × Json)) (depth : Nat)
    (h : FitsMembers depth members) (rest : List UInt8) (member : List UInt8 × Outline)
    (done : List (List UInt8 × Outline)) (fuel : Nat)
    (hfuel : 2 * (restMembers members).length ≤ fuel) :
    readMembers fuel (restMembers members ++ rest) (member :: done) =
      (.object ((member :: done).reverse ++ outlineMembers members) .closed, rest) := by
  match members with
  | [] =>
    obtain ⟨fuel, rfl⟩ : ∃ n, fuel = n + 1 := ⟨fuel - 1, by rw [restMembers] at hfuel; grind⟩
    rw [outlineMembers, List.append_nil]
    rfl
  | (key, v) :: members =>
    obtain ⟨hv, hmembers⟩ := h
    rw [restMembers, List.length_cons, List.length_append] at hfuel
    have hmember := length_memberOctets key v
    obtain ⟨fuel, rfl⟩ : ∃ n, fuel = n + 1 := ⟨fuel - 1, by omega⟩
    have hread := readValue_octets v _ hv (restMembers members ++ rest)
      (stops_restMembers members rest) fuel (by omega)
    rw [restMembers, List.cons_append, List.append_assoc, memberOctets_append,
      readMembers_next hread (isWhole_outline hv),
      readMembers_rest members _ hmembers rest _ _ fuel (by omega), List.reverse_cons,
      List.append_assoc]
    rfl

end

theorem read_octets {depth : Nat} {v : Json} (h : Fits depth v) :
    Document.read v.octets = ⟨outline v, true⟩ := by
  have hread := readValue_octets v depth h [] (fun _ hb => by cases hb)
    (2 * v.octets.length + 2) (by omega)
  rw [List.append_nil] at hread
  rw [Document.read, hread]
  simp only [isWhole_outline h]
  rfl

mutual

theorem value_outline (v : Json) (depth : Nat) (h : Fits depth v) :
    (outline v).value? depth = some (sorted v) := by
  match v with
  | .null => rfl
  | .bool b => rfl
  | .number (.integer n) =>
    rw [outline, Outline.value?, integerNumeral_value h]
    rfl
  | .text s =>
    rw [outline, Outline.value?, rawText, readText_encode]
    rfl
  | .array items =>
    obtain ⟨hdepth, hitems⟩ := h
    rw [outline, Outline.value?, if_neg (by omega), itemValues_outline items _ hitems]
    rfl
  | .object members =>
    obtain ⟨hdepth, hmembers⟩ := h
    rw [outline, Outline.value?, if_neg (by omega), memberValues_outline members _ hmembers]
    rfl

theorem itemValues_outline (items : List Json) (depth : Nat) (h : FitsItems depth items)
    (done : List Json) :
    itemValues depth (outlineItems items) done =
      some (.array (done.reverse ++ sortedItems items)) := by
  match items with
  | [] =>
    rw [sortedItems, List.append_nil]
    rfl
  | v :: items =>
    obtain ⟨hv, hitems⟩ := h
    rw [outlineItems, itemValues, value_outline v _ hv]
    simp only
    rw [itemValues_outline items _ hitems, List.reverse_cons, List.append_assoc]
    rfl

theorem memberValues_outline (members : List (String × Json)) (depth : Nat)
    (h : FitsMembers depth members) (done : List (String × Json)) :
    memberValues depth (outlineMembers members) done =
      some (.object (sortedMembers members done)) := by
  match members with
  | [] => rfl
  | (key, v) :: members =>
    obtain ⟨hv, hmembers⟩ := h
    rw [outlineMembers, memberValues, rawText, readText_encode, value_outline v _ hv]
    simp only
    rw [memberValues_outline members _ hmembers]
    rfl

end

/-- The compact text of a value is read back as that value. -/
theorem parse?_octets {v : Json} (h : Fits maxDepth v) : parse? v.octets = some (sorted v) := by
  rw [parse?, read_octets h]
  exact value_outline v _ h

end EventRelay.Json
