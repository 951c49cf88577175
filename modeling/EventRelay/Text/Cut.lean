import EventRelay.Text.Utf8

/-!
# Cutting a text

A text that has too many octets is cut at the last place within the limit
where a character ends. That place is looked for octet by octet, downwards
from the limit. Octet 0 is such a place, so the way down ends, and what stands
before the cut is well-formed.
-/

set_option autoImplicit false

namespace EventRelay.Utf8

def isContinuation (b : UInt8) : Bool := 0x80 ≤ b && b < 0xC0

/-- Whether octets may be cut before the one at `i`: at both ends, and where a character starts. -/
def isBoundary (bytes : List UInt8) : Nat → Bool
  | 0 => true
  | i + 1 =>
    match bytes[i + 1]? with
    | some b => !isContinuation b
    | none => i + 1 == bytes.length

/-- The first boundary on the way down from `i`; none if the way went on below 0. -/
def boundaryDown? (bytes : List UInt8) : Nat → Option Nat
  | 0 => if isBoundary bytes 0 then some 0 else none
  | i + 1 => if isBoundary bytes (i + 1) then some (i + 1) else boundaryDown? bytes i

def slice? (bytes : List UInt8) (i : Nat) : Option (List Char) :=
  if isBoundary bytes i then decode? (bytes.take i) else none

def truncate? (limit : Nat) (cs : List Char) : Option (List Char) :=
  let bytes := encode cs
  if bytes.length ≤ limit then some cs else (boundaryDown? bytes limit).bind (slice? bytes)

theorem isContinuation_ofNat (n : Nat) (h : n < 256) :
    isContinuation (UInt8.ofNat n) = decide (0x80 ≤ n ∧ n < 0xC0) := by
  rw [isContinuation, ← Bool.decide_and]
  simp only [UInt8.le_iff_toNat_le, UInt8.lt_iff_toNat_lt, toNat_ofNat n h]
  rfl

theorem encodeChar_octets (c : Char) :
    ∃ b bs, encodeChar c = b :: bs ∧ isContinuation b = false ∧
      ∀ d ∈ bs, isContinuation d = true := by
  have hc := toNat_bounds c
  have hstart (n : Nat) (h : n < 0x80 ∨ 0xC0 ≤ n ∧ n < 256) :
      isContinuation (UInt8.ofNat n) = false := by
    rw [isContinuation_ofNat n (by omega), decide_eq_false_iff_not]
    omega
  have hcont (n : Nat) (h : n < 64) : isContinuation (UInt8.ofNat (0x80 + n)) = true := by
    rw [isContinuation_ofNat _ (by omega), decide_eq_true_eq]
    omega
  unfold encodeChar
  generalize c.toNat = n at *
  simp only
  split
  · exact ⟨_, [], rfl, hstart n (by omega), nofun⟩
  split
  · refine ⟨_, _, rfl, hstart _ (by omega), ?_⟩
    simp only [List.forall_mem_cons]
    exact ⟨hcont _ (by omega), nofun⟩
  split
  · refine ⟨_, _, rfl, hstart _ (by omega), ?_⟩
    simp only [List.forall_mem_cons]
    exact ⟨hcont _ (by omega), hcont _ (by omega), nofun⟩
  · refine ⟨_, _, rfl, hstart _ (by omega), ?_⟩
    simp only [List.forall_mem_cons]
    exact ⟨hcont _ (by omega), hcont _ (by omega), hcont _ (by omega), nofun⟩

/-- There is no boundary inside a character. -/
theorem isBoundary_inside (c : Char) (cs : List Char) {i : Nat}
    (h : i + 1 < (encodeChar c).length) : isBoundary (encode (c :: cs)) (i + 1) = false := by
  obtain ⟨b, bs, hc, -, hcont⟩ := encodeChar_octets c
  rw [hc] at h
  have hi : i < bs.length := Nat.lt_of_succ_lt_succ h
  have hoctet : (encode (c :: cs))[i + 1]? = some bs[i] := by
    rw [encode_cons, hc, List.cons_append, List.getElem?_cons_succ, List.getElem?_append_left hi,
      List.getElem?_eq_getElem hi]
  simp only [isBoundary, hoctet, hcont bs[i] (List.getElem_mem hi), Bool.not_true]

theorem isBoundary_after (c : Char) (cs : List Char) (i : Nat) :
    isBoundary (encode (c :: cs)) ((encodeChar c).length + i) = isBoundary (encode cs) i := by
  obtain ⟨b, bs, hc, -, -⟩ := encodeChar_octets c
  have hoctet : (encode (c :: cs))[bs.length + i + 1]? = (encode cs)[i]? := by
    rw [encode_cons, hc, List.cons_append, List.getElem?_cons_succ,
      List.getElem?_append_right (Nat.le_add_right _ _), Nat.add_sub_cancel_left]
  rw [hc, List.length_cons, Nat.add_right_comm, isBoundary, hoctet]
  cases i with
  | zero =>
    cases cs with
    | nil => simp [encode, isBoundary, hc]
    | cons d ds =>
      obtain ⟨e, es, hd, hstart, -⟩ := encodeChar_octets d
      simp [encode_cons, hd, hstart, isBoundary]
  | succ i =>
    rw [isBoundary]
    cases (encode cs)[i + 1]? with
    | none =>
      rw [encode_cons, hc, List.length_append, List.length_cons, Bool.eq_iff_iff, beq_iff_eq,
        beq_iff_eq]
      omega
    | some b => rfl

theorem isBoundary_encode_iff (cs : List Char) (i : Nat) :
    isBoundary (encode cs) i = true ↔
      ∃ front back, cs = front ++ back ∧ (encode front).length = i := by
  induction cs generalizing i with
  | nil =>
    constructor
    · intro h
      cases i with
      | zero => exact ⟨[], [], rfl, rfl⟩
      | succ i => exact absurd (beq_iff_eq.mp h) (Nat.succ_ne_zero i)
    · rintro ⟨front, back, hnil, rfl⟩
      obtain ⟨rfl, -⟩ := List.append_eq_nil_iff.mp hnil.symm
      rfl
  | cons c cs ih =>
    constructor
    · intro h
      cases i with
      | zero => exact ⟨[], c :: cs, rfl, rfl⟩
      | succ i =>
        -- A boundary past the start is past the whole first character.
        have hwhole : (encodeChar c).length ≤ i + 1 := Nat.le_of_not_lt fun hinside => by
          rw [isBoundary_inside c cs hinside] at h
          cases h
        obtain ⟨k, hk⟩ := Nat.exists_eq_add_of_le hwhole
        rw [hk, isBoundary_after] at h
        obtain ⟨front, back, rfl, hfront⟩ := (ih k).mp h
        refine ⟨c :: front, back, rfl, ?_⟩
        rw [encode_cons, List.length_append, hfront, hk]
    · rintro ⟨front, back, hcs, rfl⟩
      cases front with
      | nil => rfl
      | cons d front =>
        obtain ⟨rfl, rfl⟩ := List.cons.inj hcs
        rw [encode_cons c front, List.length_append, isBoundary_after]
        exact (ih _).mpr ⟨front, back, rfl, rfl⟩

theorem slice?_boundary (front back : List Char) :
    slice? (encode (front ++ back)) (encode front).length = some front := by
  rw [slice?, if_pos ((isBoundary_encode_iff _ _).mpr ⟨front, back, rfl, rfl⟩), encode_append,
    List.take_left, decode?_encode]

theorem exists_boundaryDown (bytes : List UInt8) (i : Nat) :
    ∃ j ≤ i, boundaryDown? bytes i = some j ∧ isBoundary bytes j = true ∧
      ∀ k, j < k → k ≤ i → isBoundary bytes k = false := by
  induction i with
  | zero => exact ⟨0, Nat.le_refl 0, rfl, rfl, fun k hj hk => absurd hk (Nat.not_le.mpr hj)⟩
  | succ i ih =>
    cases h : isBoundary bytes (i + 1) with
    | true =>
      refine ⟨i + 1, Nat.le_refl _, ?_, h, fun k hj hk => absurd hk (Nat.not_le.mpr hj)⟩
      rw [boundaryDown?, if_pos h]
    | false =>
      obtain ⟨j, hj, hdown, hboundary, hlast⟩ := ih
      refine ⟨j, Nat.le_succ_of_le hj, ?_, hboundary, fun k hk hle => ?_⟩
      · rw [boundaryDown?, if_neg (by simp [h]), hdown]
      · rcases Nat.le_succ_iff.mp hle with hle | rfl
        · exact hlast k hk hle
        · exact h

/-- A text is cut within the limit, and there is no boundary between the cut and the limit. -/
theorem exists_truncate (limit : Nat) (cs : List Char) :
    ∃ front back, cs = front ++ back ∧ truncate? limit cs = some front ∧
      (encode front).length ≤ limit ∧
      ∀ k, (encode front).length < k → k ≤ limit → isBoundary (encode cs) k = false := by
  by_cases hfits : (encode cs).length ≤ limit
  · refine ⟨cs, [], (List.append_nil cs).symm, if_pos hfits, hfits, fun k hk _ => ?_⟩
    refine Bool.eq_false_iff.mpr fun hboundary => ?_
    obtain ⟨front, back, rfl, rfl⟩ := (isBoundary_encode_iff cs k).mp hboundary
    rw [encode_append, List.length_append] at hk
    omega
  · obtain ⟨j, hj, hdown, hboundary, hlast⟩ := exists_boundaryDown (encode cs) limit
    obtain ⟨front, back, rfl, rfl⟩ := (isBoundary_encode_iff cs j).mp hboundary
    refine ⟨front, back, rfl, ?_, hj, hlast⟩
    rw [truncate?, if_neg hfits, hdown, Option.bind_some, slice?_boundary]

theorem truncate?_isSome (limit : Nat) (cs : List Char) : (truncate? limit cs).isSome = true := by
  obtain ⟨front, back, -, h, -⟩ := exists_truncate limit cs
  rw [h]
  rfl

/-- What is left of a text that may have so many octets; it can always be cut. -/
def truncate (limit : Nat) (cs : List Char) : List Char :=
  (truncate? limit cs).get (truncate?_isSome limit cs)

end EventRelay.Utf8
