import EventRelay.Text.Numeral

/-!
# Binary floating point numbers

A finite double is a sign, a mantissa below 2⁵³ and a power of two. All
arithmetic is on whole numbers: a quotient is rounded to the nearest double,
ties to the even mantissa. The written form has the fewest digits that read
back as the same double.
-/

set_option autoImplicit false

namespace EventRelay.Json

structure Real where
  negative : Bool
  mantissa : Nat
  exponent : Int
  deriving DecidableEq, Repr

namespace Real

def nearest (num den : Nat) : Nat :=
  let m := num / den
  let r := num % den
  if den < 2 * r ∨ (2 * r = den ∧ m % 2 = 1) then m + 1 else m

def scaled (num den : Nat) (q : Int) : Nat × Nat :=
  if q < 0 then (num * Nat.pow 2 (-q).toNat, den) else (num, den * Nat.pow 2 q.toNat)

/-- The power of two that leaves a quotient of at most 53 bits. -/
def unitExponent (num den : Nat) : Int :=
  let q := max ((num.log2 : Int) - den.log2 - 53) (-1074)
  let s := scaled num den q
  if s.1 / s.2 < Nat.pow 2 53 then q else q + 1

/-- The double nearest to `num / den`, if it is finite. -/
def ofRatio (num den : Nat) : Option (Nat × Int) :=
  if num = 0 then some (0, 0)
  else
    let q := unitExponent num den
    let s := scaled num den q
    let m := nearest s.1 s.2
    let (m, q) := if m = Nat.pow 2 53 then (Nat.pow 2 52, q + 1) else (m, q)
    if 971 < q then none else some (m, q)

def product (a b : Nat × Int) : Option (Nat × Int) :=
  let s := scaled (a.1 * b.1) 1 (-(a.2 + b.2))
  ofRatio s.1 s.2

def quotient (a b : Nat × Int) : Option (Nat × Int) :=
  let s := scaled a.1 b.1 (b.2 - a.2)
  ofRatio s.1 s.2

/-- The double nearest to a power of ten up to 10³⁰⁸. -/
def powerOfTen (e : Nat) : Nat × Int := (ofRatio (Nat.pow 10 e) 1).getD (0, 0)

/-- Divides by 10³⁰⁸ as long as the exponent is below -308; a 64-bit number is zero after three
such divisions. -/
def shrink : Nat → Nat × Int → Int → Option (Nat × Int)
  | 0, _, _ => some (0, 0)
  | rounds + 1, f, e =>
    if e < -308 then
      if f.1 = 0 then some f
      else (quotient f (powerOfTen 308)).bind fun g => shrink rounds g (e + 308)
    else quotient f (powerOfTen (-e).toNat)

def ofDecimal (negative : Bool) (significand : Nat) (e : Int) : Option Real :=
  ((ofRatio significand 1).bind fun f =>
    if e < 0 then shrink 4 f e
    else if f.1 = 0 then some f
    else if 308 < e then none
    else product f (powerOfTen e.toNat)).map fun f => ⟨negative, f.1, f.2⟩

/-! ## The written form -/

def decimalExponent (num den : Nat) : Int :=
  let guess := (((num.log2 : Int) - den.log2) * 30103).fdiv 100000
  let fits (e : Int) : Bool :=
    if e < 0 then decide (den ≤ num * Nat.pow 10 (-e).toNat)
    else decide (den * Nat.pow 10 e.toNat ≤ num)
  if fits (guess + 1) then guess + 1 else if fits guess then guess else guess - 1

structure Decimal where
  digits : Nat
  power : Int
  deriving DecidableEq, Repr

def Decimal.ratio (d : Decimal) : Nat × Nat :=
  if d.power < 0 then (d.digits, Nat.pow 10 (-d.power).toNat)
  else (d.digits * Nat.pow 10 d.power.toNat, 1)

/-- Whether a decimal lies between the halfway points to the doubles next to `m * 2 ^ q`, or on
one of them if `m` is even. The double below a power of two is only half as far away. -/
def readsBack (m : Nat) (q : Int) (d : Decimal) : Bool :=
  let lowGap := if m = Nat.pow 2 52 ∧ -1074 < q then 1 else 2
  let t := d.ratio
  let unit := scaled 1 1 (-q)
  let x := 4 * t.1 * unit.2
  let low := (4 * m - lowGap) * unit.1 * t.2
  let high := (4 * m + 2) * unit.1 * t.2
  if m % 2 = 0 then decide (low ≤ x ∧ x ≤ high) else decide (low < x ∧ x < high)

/-- Of the two decimals next to `m * 2 ^ q` on the grid of a power of ten, the one that reads
back, and the nearer one if both do. -/
def onGrid? (m : Nat) (q power : Int) : Option Decimal :=
  let v := scaled m 1 (-q)
  let s : Nat × Nat :=
    if power < 0 then (v.1 * Nat.pow 10 (-power).toNat, v.2)
    else (v.1, v.2 * Nat.pow 10 power.toNat)
  let below : Decimal := ⟨s.1 / s.2, power⟩
  let above : Decimal := ⟨s.1 / s.2 + 1, power⟩
  match readsBack m q below, readsBack m q above with
  | true, true => some (if 2 * (s.1 % s.2) ≤ s.2 then below else above)
  | true, false => some below
  | false, true => some above
  | false, false => none

def Decimal.normal : Nat → Decimal → Decimal
  | 0, d => d
  | rounds + 1, d =>
    if d.digits % 10 = 0 ∧ d.digits ≠ 0 then normal rounds ⟨d.digits / 10, d.power + 1⟩ else d

/-- The decimal with the fewest digits that reads back; seventeen digits always suffice. -/
def shortest (m : Nat) (q : Int) : Decimal :=
  let v := scaled m 1 (-q)
  let top := decimalExponent v.1 v.2
  match (List.range 17).findSome? fun (n : Nat) => onGrid? m q (top - (n : Int)) with
  | some d => d.normal 20
  | none => ⟨m, 0⟩

/-- Positional from 10⁻⁵ up to below 10¹⁶, with `.0` after a whole number; elsewhere one digit
before the point and a signed exponent. -/
def Decimal.layout (d : Decimal) : List Char :=
  let ds := Text.naturalDigits d.digits
  let size := ds.length
  let point := (size : Int) + d.power
  if 0 ≤ d.power ∧ point ≤ 16 then ds ++ List.replicate d.power.toNat '0' ++ ['.', '0']
  else if 0 < point ∧ point ≤ 16 then ds.take point.toNat ++ '.' :: ds.drop point.toNat
  else if -5 < point ∧ point ≤ 0 then
    '0' :: '.' :: List.replicate (-point).toNat '0' ++ ds
  else
    let e := point - 1
    let front := if size = 1 then ds else ds.take 1 ++ '.' :: ds.drop 1
    front ++ 'e' :: (if e < 0 then '-' else '+') :: Text.naturalDigits e.natAbs

def digits (r : Real) : List Char :=
  let body := if r.mantissa = 0 then ['0', '.', '0'] else (shortest r.mantissa r.exponent).layout
  if r.negative then '-' :: body else body

end Real

end EventRelay.Json
