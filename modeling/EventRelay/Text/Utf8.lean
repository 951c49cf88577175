/-!
# UTF-8

Writing and reading of character lists as octets. Reading keeps one
state between octets, so that an ill-formed sequence can be refused
(`decode?`) or shown as one replacement character (`decodeLossy`). What is
written is read back (`decode?_encode`).
-/

set_option autoImplicit false

namespace EventRelay.Utf8

def encodeChar (c : Char) : List UInt8 :=
  let n := c.toNat
  if n < 0x80 then [UInt8.ofNat n]
  else if n < 0x800 then [UInt8.ofNat (0xC0 + n / 64), UInt8.ofNat (0x80 + n % 64)]
  else if n < 0x10000 then
    [UInt8.ofNat (0xE0 + n / 4096), UInt8.ofNat (0x80 + n / 64 % 64), UInt8.ofNat (0x80 + n % 64)]
  else
    [UInt8.ofNat (0xF0 + n / 262144), UInt8.ofNat (0x80 + n / 4096 % 64),
      UInt8.ofNat (0x80 + n / 64 % 64), UInt8.ofNat (0x80 + n % 64)]

def encode (cs : List Char) : List UInt8 := cs.flatMap encodeChar

def octets (s : String) : List UInt8 := encode s.toList

/-- An unfinished sequence: how many octets are still to come after the next one, the bounds of
the next one, and the bits read so far. -/
structure Pending where
  further : Nat
  least : Nat
  most : Nat
  bits : Nat

inductive Progress where
  | char (c : Char)
  | wait (p : Pending)
  | bad

def start (b : Nat) : Progress :=
  if b < 0x80 then .char (Char.ofNat b)
  else if b < 0xC2 then .bad
  else if b < 0xE0 then .wait ⟨0, 0x80, 0xBF, b - 0xC0⟩
  else if b < 0xF0 then
    .wait ⟨1, if b = 0xE0 then 0xA0 else 0x80, if b = 0xED then 0x9F else 0xBF, b - 0xE0⟩
  else if b < 0xF5 then
    .wait ⟨2, if b = 0xF0 then 0x90 else 0x80, if b = 0xF4 then 0x8F else 0xBF, b - 0xF0⟩
  else .bad

def resume (p : Pending) (b : Nat) : Progress :=
  if p.least ≤ b ∧ b ≤ p.most then
    let bits := p.bits * 64 + (b - 0x80)
    if p.further = 0 then .char (Char.ofNat bits)
    else .wait ⟨p.further - 1, 0x80, 0xBF, bits⟩
  else .bad

structure Reading where
  pending : Option Pending
  chars : List (Option Char)

def Reading.enter (chars : List (Option Char)) (b : Nat) : Reading :=
  match start b with
  | .char c => ⟨none, some c :: chars⟩
  | .wait p => ⟨some p, chars⟩
  | .bad => ⟨none, none :: chars⟩

def Reading.step (r : Reading) (octet : UInt8) : Reading :=
  match r.pending with
  | none => .enter r.chars octet.toNat
  | some p =>
    match resume p octet.toNat with
    | .char c => ⟨none, some c :: r.chars⟩
    | .wait q => ⟨some q, r.chars⟩
    | .bad => .enter (none :: r.chars) octet.toNat

def Reading.finish (r : Reading) : List (Option Char) :=
  match r.pending with
  | none => r.chars.reverse
  | some _ => (none :: r.chars).reverse

def read (bytes : List UInt8) : List (Option Char) :=
  (bytes.foldl Reading.step ⟨none, []⟩).finish

def decode? (bytes : List UInt8) : Option (List Char) :=
  let cs := read bytes
  if cs.all Option.isSome then some (cs.filterMap id) else none

def replacement : Char := Char.ofNat 0xFFFD

/-- The characters of any octet list, one replacement character for each ill-formed sequence. -/
def decodeLossy (bytes : List UInt8) : List Char :=
  (read bytes).map fun c => c.getD replacement

/-! ## Reading what was written -/

theorem toNat_ofNat (n : Nat) (h : n < 256) : (UInt8.ofNat n).toNat = n := by
  simp only [UInt8.toNat_ofNat']
  omega

theorem toNat_bounds (c : Char) : c.toNat < 0xD800 ∨ 0xDFFF < c.toNat ∧ c.toNat < 0x110000 :=
  c.valid

theorem step_start (passed : List (Option Char)) (n : Nat) (h : n < 256) :
    Reading.step ⟨none, passed⟩ (UInt8.ofNat n) = .enter passed n := by
  simp only [Reading.step, toNat_ofNat n h]

theorem step_last (passed : List (Option Char)) (p : Pending) (n : Nat) (hp : p.further = 0)
    (hn : p.least ≤ 0x80 + n ∧ 0x80 + n ≤ p.most) (h : n < 64) :
    Reading.step ⟨some p, passed⟩ (UInt8.ofNat (0x80 + n)) =
      ⟨none, some (Char.ofNat (p.bits * 64 + n)) :: passed⟩ := by
  simp only [Reading.step, toNat_ofNat (0x80 + n) (by omega), resume, if_pos hn, if_pos hp,
    Nat.add_sub_cancel_left]

theorem step_middle (passed : List (Option Char)) (p : Pending) (n : Nat) (hp : p.further ≠ 0)
    (hn : p.least ≤ 0x80 + n ∧ 0x80 + n ≤ p.most) (h : n < 64) :
    Reading.step ⟨some p, passed⟩ (UInt8.ofNat (0x80 + n)) =
      ⟨some ⟨p.further - 1, 0x80, 0xBF, p.bits * 64 + n⟩, passed⟩ := by
  simp only [Reading.step, toNat_ofNat (0x80 + n) (by omega), resume, if_pos hn, if_neg hp,
    Nat.add_sub_cancel_left]

theorem foldl_encodeChar (c : Char) (passed : List (Option Char)) :
    (encodeChar c).foldl Reading.step ⟨none, passed⟩ = ⟨none, some c :: passed⟩ := by
  have hc := toNat_bounds c
  have hr : Char.ofNat c.toNat = c := Char.ofNat_toNat c
  unfold encodeChar
  generalize c.toNat = n at *
  simp only
  split
  · simp only [List.foldl_cons, List.foldl_nil]
    rw [step_start _ _ (by omega), Reading.enter, start, if_pos (by omega), hr]
  split
  · simp only [List.foldl_cons, List.foldl_nil]
    rw [step_start _ _ (by omega), Reading.enter, start, if_neg (by omega), if_neg (by omega),
      if_pos (by omega)]
    simp only
    rw [step_last _ _ _ rfl (by simp only; omega) (by omega)]
    simp only
    rw [show (0xC0 + n / 64 - 0xC0) * 64 + n % 64 = n by omega, hr]
  split
  · simp only [List.foldl_cons, List.foldl_nil]
    rw [step_start _ _ (by omega), Reading.enter, start, if_neg (by omega), if_neg (by omega),
      if_neg (by omega), if_pos (by omega)]
    simp only
    rw [step_middle _ _ _ (by simp) (by simp only; split <;> split <;> omega) (by omega),
      step_last _ _ _ rfl (by simp only; omega) (by omega)]
    simp only
    rw [show ((0xE0 + n / 4096 - 0xE0) * 64 + n / 64 % 64) * 64 + n % 64 = n by omega, hr]
  · simp only [List.foldl_cons, List.foldl_nil]
    rw [step_start _ _ (by omega), Reading.enter, start, if_neg (by omega), if_neg (by omega),
      if_neg (by omega), if_neg (by omega), if_pos (by omega)]
    simp only
    rw [step_middle _ _ _ (by simp) (by simp only; split <;> split <;> omega) (by omega),
      step_middle _ _ _ (by simp) (by simp only; omega) (by omega),
      step_last _ _ _ rfl (by simp only; omega) (by omega)]
    simp only
    rw [show (((0xF0 + n / 262144 - 0xF0) * 64 + n / 4096 % 64) * 64 + n / 64 % 64) * 64 + n % 64 =
      n by omega, hr]

theorem encode_cons (c : Char) (cs : List Char) : encode (c :: cs) = encodeChar c ++ encode cs :=
  List.flatMap_cons

theorem encode_append (cs ds : List Char) : encode (cs ++ ds) = encode cs ++ encode ds :=
  List.flatMap_append

theorem foldl_encode (cs : List Char) (passed : List (Option Char)) :
    (encode cs).foldl Reading.step ⟨none, passed⟩ = ⟨none, (cs.map some).reverse ++ passed⟩ := by
  induction cs generalizing passed with
  | nil => rfl
  | cons c cs ih =>
    rw [encode_cons, List.foldl_append, foldl_encodeChar]
    simpa using ih (some c :: passed)

theorem read_encode (cs : List Char) : read (encode cs) = cs.map some := by
  simp [read, foldl_encode, Reading.finish]

theorem decode?_encode (cs : List Char) : decode? (encode cs) = some cs := by
  simp [decode?, read_encode, List.filterMap_map]

end EventRelay.Utf8
