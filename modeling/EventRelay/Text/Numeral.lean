/-!
# Numerals

Reading and writing of whole numbers in the ranges that identifiers and
durations live in; only the ASCII digits count as digits. Octets are written
as two lower-case hexadecimal digits each, and read in either case. What is
written is read back (`decode?_encode`).
-/

set_option autoImplicit false

namespace EventRelay.Text

/-! ## Decimal numerals -/

inductive NumeralFault where
  | empty
  | invalidDigit
  | tooLarge
  deriving DecidableEq, Repr

def NumeralFault.message : NumeralFault → String
  | .empty => "cannot parse integer from empty string"
  | .invalidDigit => "invalid digit found in string"
  | .tooLarge => "number too large to fit in target type"

def isDigit (c : Char) : Bool := '0' ≤ c && c ≤ '9'

def digitValue (c : Char) : Nat := c.toNat - 48

def readDigits (limit : Nat) : Nat → List Char → Except NumeralFault Nat
  | n, [] => .ok n
  | n, c :: cs =>
    if isDigit c then
      let m := n * 10 + digitValue c
      if m ≤ limit then readDigits limit m cs else .error .tooLarge
    else .error .invalidDigit

def readUnsigned (limit : Nat) : List Char → Except NumeralFault Nat
  | [] => .error .invalidDigit
  | cs => readDigits limit 0 cs

def maxUInt64 : Nat := 18446744073709551615

def maxInt64 : Nat := 9223372036854775807

def readUInt64 : List Char → Except NumeralFault Nat
  | [] => .error .empty
  | '+' :: cs => readUnsigned maxUInt64 cs
  | cs => readUnsigned maxUInt64 cs

def readInt64 : List Char → Except NumeralFault Int
  | [] => .error .empty
  | '+' :: cs => (readUnsigned maxInt64 cs).map Int.ofNat
  | '-' :: cs => (readUnsigned (maxInt64 + 1) cs).map fun n => -(n : Int)
  | cs => (readUnsigned maxInt64 cs).map Int.ofNat

def naturalDigits (n : Nat) : List Char := Nat.toDigits 10 n

def naturalText (n : Nat) : String := String.ofList (naturalDigits n)

def integerDigits : Int → List Char
  | .ofNat n => naturalDigits n
  | .negSucc n => '-' :: naturalDigits (n + 1)

def integerText (n : Int) : String := String.ofList (integerDigits n)

def paddedDigits (width n : Nat) : List Char :=
  let ds := naturalDigits n
  List.replicate (width - ds.length) '0' ++ ds

end EventRelay.Text

namespace EventRelay.Hex

/-! ## Hexadecimal octets -/

def digit (n : Nat) : Char := Char.ofNat (if n < 10 then 48 + n else 87 + n)

def value? (c : Char) : Option Nat :=
  if '0' ≤ c ∧ c ≤ '9' then some (c.toNat - 48)
  else if 'a' ≤ c ∧ c ≤ 'f' then some (c.toNat - 87)
  else if 'A' ≤ c ∧ c ≤ 'F' then some (c.toNat - 55)
  else none

def encode (octets : List UInt8) : List Char :=
  octets.flatMap fun b => [digit (b.toNat / 16), digit (b.toNat % 16)]

def decode? : List Char → Option (List UInt8)
  | [] => some []
  | [_] => none
  | h :: l :: rest =>
    match value? h, value? l, decode? rest with
    | some a, some b, some octets => some (UInt8.ofNat (16 * a + b) :: octets)
    | _, _, _ => none

def text (octets : List UInt8) : String := String.ofList (encode octets)

theorem value?_digit (n : Nat) (h : n < 16) : value? (digit n) = some n := by
  have all : ∀ m : Fin 16, value? (digit m.val) = some m.val := by decide
  exact all ⟨n, h⟩

theorem decode?_encode (octets : List UInt8) : decode? (encode octets) = some octets := by
  induction octets with
  | nil => rfl
  | cons b rest ih =>
    have hb := b.toNat_lt
    have e : 16 * (b.toNat / 16) + b.toNat % 16 = b.toNat := Nat.div_add_mod _ _
    simp only [encode] at ih
    simp [encode, decode?, ih, value?_digit (b.toNat / 16) (by omega),
      value?_digit (b.toNat % 16) (by omega), e]

end EventRelay.Hex
