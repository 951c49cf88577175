import EventRelay.Json.Value

/-!
# The outline of a JSON text

An octet list is read once, in text order, into an outline: the values with
their strings and numerals as written, up to the first place where the
grammar is broken. What an outline means is decided later, by reading it
strictly as a value or by a shape.
-/

set_option autoImplicit false

namespace EventRelay.Json

/-- A numeral as written; an exponent beyond any use is cut short. -/
structure Numeral where
  negative : Bool
  whole : List Nat
  fraction : Option (List Nat)
  exponent : Option Int
  deriving DecidableEq, Repr

/-- How an array or object ends: with its bracket, at a break of the grammar, or (an object) at a
value that stands where the first key should. -/
inductive Ending where
  | closed
  | broken
  | stray
  deriving DecidableEq, Repr

inductive Outline where
  | null
  | bool (b : Bool)
  | number (n : Numeral)
  | text (raw : List UInt8)
  | array (items : List Outline) (ending : Ending)
  | object (members : List (List UInt8 × Outline)) (ending : Ending)
  | fault
  deriving Repr

def Outline.isWhole : Outline → Bool
  | .array _ e => e = .closed
  | .object _ e => e = .closed
  | .fault => false
  | _ => true

/-! ## Octet classes -/

def isSpace (b : UInt8) : Bool := b == 32 || b == 10 || b == 13 || b == 9

def skipSpace (bytes : List UInt8) : List UInt8 := bytes.dropWhile isSpace

def isDigitOctet (b : UInt8) : Bool := 48 ≤ b && b ≤ 57

def hexValue? (b : UInt8) : Option Nat := Hex.value? (Char.ofNat b.toNat)

def isShortEscape (b : UInt8) : Bool :=
  b == 34 || b == 92 || b == 47 || b == 98 || b == 102 || b == 110 || b == 114 || b == 116

/-! ## Strings and numerals -/

def scanText : List UInt8 → List UInt8 → Option (List UInt8 × List UInt8)
  | [], _ => none
  | 92 :: 117 :: a :: b :: c :: d :: rest, passed =>
    if (hexValue? a).isSome && (hexValue? b).isSome && (hexValue? c).isSome && (hexValue? d).isSome
    then scanText rest (d :: c :: b :: a :: 117 :: 92 :: passed)
    else none
  | 92 :: e :: rest, passed =>
    if isShortEscape e then scanText rest (e :: 92 :: passed) else none
  | b :: rest, passed =>
    if b = 34 then some (passed.reverse, rest)
    else if b = 92 ∨ b < 32 then none
    else scanText rest (b :: passed)

def digitsOf (bytes : List UInt8) : List Nat :=
  (bytes.takeWhile isDigitOctet).map fun b => b.toNat - 48

def afterDigits (bytes : List UInt8) : List UInt8 := bytes.dropWhile isDigitOctet

/-- The value of an exponent's digits, held below 10¹⁰. -/
def exponentValue (ds : List Nat) : Nat := ds.foldl (fun n d => min (n * 10 + d) 9999999999) 0

def scanExponent : List UInt8 → Option (Option Int × List UInt8)
  | [] => some (none, [])
  | b :: rest =>
    if b = 101 ∨ b = 69 then
      let (negative, rest) : Bool × List UInt8 :=
        match rest with
        | 43 :: r => (false, r)
        | 45 :: r => (true, r)
        | r => (false, r)
      match digitsOf rest with
      | [] => none
      | ds =>
        let n : Int := exponentValue ds
        some (some (if negative then -n else n), afterDigits rest)
    else some (none, b :: rest)

def scanTail (negative : Bool) (whole : List Nat) (bytes : List UInt8) :
    Option (Numeral × List UInt8) :=
  match bytes with
  | 46 :: rest =>
    match digitsOf rest with
    | [] => none
    | ds => (scanExponent (afterDigits rest)).map fun e => (⟨negative, whole, some ds, e.1⟩, e.2)
  | _ => (scanExponent bytes).map fun e => (⟨negative, whole, none, e.1⟩, e.2)

/-- The digits before the point: no zero before another digit. -/
def scanUnsigned (negative : Bool) (bytes : List UInt8) : Option (Numeral × List UInt8) :=
  match digitsOf bytes with
  | [] => none
  | 0 :: _ :: _ => none
  | ds => scanTail negative ds (afterDigits bytes)

def scanNumeral : List UInt8 → Option (Numeral × List UInt8)
  | 45 :: rest => scanUnsigned true rest
  | bytes => scanUnsigned false bytes

def dropWord : List UInt8 → List UInt8 → Option (List UInt8)
  | [], bytes => some bytes
  | _ :: _, [] => none
  | w :: word, b :: bytes => if w = b then dropWord word bytes else none

/-! ## Values -/

def readScalar (b : UInt8) (rest : List UInt8) : Outline × List UInt8 :=
  let word (letters : List UInt8) (v : Outline) : Outline × List UInt8 :=
    match dropWord letters rest with
    | some r => (v, r)
    | none => (.fault, [])
  if b = 34 then
    match scanText rest [] with
    | some (raw, r) => (.text raw, r)
    | none => (.fault, [])
  else if b = 110 then word [117, 108, 108] .null
  else if b = 116 then word [114, 117, 101] (.bool true)
  else if b = 102 then word [97, 108, 115, 101] (.bool false)
  else if b = 45 || isDigitOctet b then
    match scanNumeral (b :: rest) with
    | some (n, r) => (.number n, r)
    | none => (.fault, [])
  else (.fault, [])

/-- An octet that opens an array, opens an object or starts a scalar that reads well. -/
def startsValue (b : UInt8) (rest : List UInt8) : Bool :=
  b == 91 || b == 123 || (readScalar b rest).1.isWhole

mutual

/-- One value after blanks. The first argument bounds the steps; two for each octet suffice. -/
def readValue : Nat → List UInt8 → Outline × List UInt8
  | 0, _ => (.fault, [])
  | fuel + 1, bytes =>
    match skipSpace bytes with
    | [] => (.fault, [])
    | b :: rest =>
      if b = 91 then readItems fuel rest []
      else if b = 123 then readMembers fuel rest []
      else readScalar b rest

def readItems : Nat → List UInt8 → List Outline → Outline × List UInt8
  | 0, _, done => (.array done.reverse .broken, [])
  | fuel + 1, bytes, done =>
    match skipSpace bytes with
    | [] => (.array done.reverse .broken, [])
    | b :: rest =>
      if b = 93 then (.array done.reverse .closed, rest)
      else
        let next : Option (List UInt8) :=
          if done.isEmpty then some (b :: rest)
          else if b = 44 then
            match skipSpace rest with
            | [] => none
            | c :: r => if c = 93 then none else some (c :: r)
          else none
        match next with
        | none => (.array done.reverse .broken, [])
        | some bytes =>
          match readValue fuel bytes with
          | (v, r) =>
            if v.isWhole then readItems fuel r (v :: done)
            else (.array (v :: done).reverse .broken, [])

def readMembers : Nat → List UInt8 → List (List UInt8 × Outline) → Outline × List UInt8
  | 0, _, done => (.object done.reverse .broken, [])
  | fuel + 1, bytes, done =>
    match skipSpace bytes with
    | [] => (.object done.reverse .broken, [])
    | b :: rest =>
      if b = 125 then (.object done.reverse .closed, rest)
      else
        let next : Option (List UInt8) :=
          if done.isEmpty then (if b = 34 then some rest else none)
          else if b = 44 then
            match skipSpace rest with
            | 34 :: r => some r
            | _ => none
          else none
        match next with
        | none =>
          (.object done.reverse
            (if done.isEmpty && startsValue b rest then .stray else .broken), [])
        | some bytes =>
          match scanText bytes [] with
          | none => (.object done.reverse .broken, [])
          | some (key, r) =>
            match skipSpace r with
            | 58 :: r =>
              match readValue fuel r with
              | (v, r) =>
                if v.isWhole then readMembers fuel r ((key, v) :: done)
                else (.object ((key, v) :: done).reverse .broken, [])
            | _ => (.object ((key, .fault) :: done).reverse .broken, [])

end

structure Document where
  root : Outline
  endsClean : Bool

def Document.read (bytes : List UInt8) : Document :=
  let (root, rest) := readValue (2 * bytes.length + 2) bytes
  ⟨root, root.isWhole && (skipSpace rest).isEmpty⟩

end EventRelay.Json
