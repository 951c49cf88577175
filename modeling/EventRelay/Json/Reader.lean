import EventRelay.Json.Outline

/-!
# Strict reading of JSON

Turns an outline into a value: strings must be well-formed Unicode, numbers
must fit a double, nesting stops at 127 levels, and of two members with one
key the later counts. Object members come out in the order of their keys.
-/

set_option autoImplicit false

namespace EventRelay.Json

/-! ## Strings -/

def shortEscape (c : Char) : Char :=
  if c = 'b' then Char.ofNat 8
  else if c = 'f' then Char.ofNat 12
  else if c = 'n' then Char.ofNat 10
  else if c = 'r' then Char.ofNat 13
  else if c = 't' then Char.ofNat 9
  else c

def unit? (a b c d : Char) : Option Nat :=
  match Hex.value? a, Hex.value? b, Hex.value? c, Hex.value? d with
  | some a, some b, some c, some d => some (((a * 16 + b) * 16 + c) * 16 + d)
  | _, _, _, _ => none

def isHighSurrogate (n : Nat) : Bool := 0xD800 ≤ n && n ≤ 0xDBFF

def isLowSurrogate (n : Nat) : Bool := 0xDC00 ≤ n && n ≤ 0xDFFF

def joinSurrogates (high low : Nat) : Char :=
  Char.ofNat (0x10000 + (high - 0xD800) * 1024 + (low - 0xDC00))

/-- Replaces the escapes of a string. A high surrogate, once read, waits for the escape of a low
one, and no low one stands alone; `done` holds the characters so far, last first. -/
def unescape : Option Nat → List Char → List Char → Option (List Char)
  | none, [], done => some done.reverse
  | none, '\\' :: 'u' :: a :: b :: c :: d :: rest, done =>
    match unit? a b c d with
    | none => none
    | some n =>
      if isHighSurrogate n then unescape (some n) rest done
      else if isLowSurrogate n then none
      else unescape none rest (Char.ofNat n :: done)
  | none, '\\' :: e :: rest, done => unescape none rest (shortEscape e :: done)
  | none, c :: rest, done => unescape none rest (c :: done)
  | some high, '\\' :: 'u' :: a :: b :: c :: d :: rest, done =>
    match unit? a b c d with
    | none => none
    | some n =>
      if isLowSurrogate n then unescape none rest (joinSurrogates high n :: done) else none
  | some _, _, _ => none

def readText (raw : List UInt8) : Option String :=
  (Utf8.decode? raw).bind fun cs => (unescape none cs []).map String.ofList

/-! What is written inside quotes is read back. -/

theorem unescape_plain (c : Char) (rest done : List Char) (h : c ≠ '\\') :
    unescape none (c :: rest) done = unescape none rest (c :: done) := by
  rw [unescape.eq_def]
  split <;> simp_all

theorem unescape_escapeControl (n : Nat) (rest done : List Char) (h : n < 32) :
    unescape none (escapeControl n ++ rest) done = unescape none rest (Char.ofNat n :: done) := by
  have digits : ∀ m : Fin 32,
      unit? '0' '0' (Hex.digit (m.val / 16)) (Hex.digit (m.val % 16)) = some m.val := by decide
  unfold escapeControl
  split
  · next e => subst e; rfl
  split
  · next e => subst e; rfl
  split
  · next e => subst e; rfl
  split
  · next e => subst e; rfl
  split
  · next e => subst e; rfl
  · have high : isHighSurrogate n = false := by simp [isHighSurrogate]; omega
    have low : isLowSurrogate n = false := by simp [isLowSurrogate]; omega
    simp only [List.cons_append, List.nil_append]
    rw [unescape, digits ⟨n, h⟩]
    simp [high, low]

theorem unescape_escapeChar (c : Char) (rest done : List Char) :
    unescape none (escapeChar c ++ rest) done = unescape none rest (c :: done) := by
  unfold escapeChar
  split
  · next e => subst e; rfl
  split
  · next e => subst e; rfl
  split
  · next h _ => exact unescape_plain c rest done h
  · rw [unescape_escapeControl c.toNat rest done (by omega), Char.ofNat_toNat]

theorem unescape_flatMap_escapeChar (cs done : List Char) :
    unescape none (cs.flatMap escapeChar) done = some (done.reverse ++ cs) := by
  induction cs generalizing done with
  | nil => simp [unescape]
  | cons c cs ih => rw [List.flatMap_cons, unescape_escapeChar, ih]; simp

theorem readText_encode (s : String) :
    readText (Utf8.encode (s.toList.flatMap escapeChar)) = some s := by
  simp [readText, Utf8.decode?_encode, unescape_flatMap_escapeChar]

/-! ## Numbers -/

/-- Digits taken into a 64-bit number as long as they fit, and the digits left over. -/
def take64 : Nat → List Nat → Nat × List Nat
  | n, [] => (n, [])
  | n, d :: ds =>
    let m := n * 10 + d
    if m ≤ Text.maxUInt64 then take64 m ds else (n, d :: ds)

/-- A whole numeral that fits 64 bits is an integer, minus zero apart; every other numeral is a
double. None when it is too large for a double. -/
def Numeral.value? (n : Numeral) : Option Number :=
  let (significand, excess) := take64 0 n.whole
  let lifted : Int := excess.length
  match n.fraction, n.exponent with
  | none, none =>
    if excess.isEmpty then
      if !n.negative then some (.integer significand)
      else if significand = 0 ∨ Text.maxInt64 + 1 < significand then
        (Real.ofDecimal true significand 0).map .real
      else some (.integer (-(significand : Int)))
    else (Real.ofDecimal n.negative significand lifted).map .real
  | fraction, exponent =>
    let ds := fraction.getD []
    let (s, unread) := take64 significand ds
    let lowered : Int := ds.length - unread.length
    (Real.ofDecimal n.negative s (lifted - lowered + exponent.getD 0)).map .real

/-! ## Values -/

def insertMember (key : String) (v : Json) : List (String × Json) → List (String × Json)
  | [] => [(key, v)]
  | (k, w) :: rest =>
    if key < k then (key, v) :: (k, w) :: rest
    else if k = key then (key, v) :: rest
    else (k, w) :: insertMember key v rest

mutual

/-- The value of an outline, with `depth` levels of nesting left. -/
def Outline.value? : Nat → Outline → Option Json
  | _, .null => some .null
  | _, .bool b => some (.bool b)
  | _, .number n => n.value?.map .number
  | _, .text raw => (readText raw).map .text
  | depth, .array items .closed =>
    if depth = 0 then none else itemValues (depth - 1) items []
  | depth, .object members .closed =>
    if depth = 0 then none else memberValues (depth - 1) members []
  | _, _ => none

def itemValues : Nat → List Outline → List Json → Option Json
  | _, [], done => some (.array done.reverse)
  | depth, v :: rest, done =>
    match Outline.value? depth v with
    | some w => itemValues depth rest (w :: done)
    | none => none

def memberValues : Nat → List (List UInt8 × Outline) → List (String × Json) → Option Json
  | _, [], done => some (.object done)
  | depth, (raw, v) :: rest, done =>
    match readText raw, Outline.value? depth v with
    | some key, some w => memberValues depth rest (insertMember key w done)
    | _, _ => none

end

def maxDepth : Nat := 127

/-- The value of a JSON text. -/
def parse? (bytes : List UInt8) : Option Json :=
  let doc := Document.read bytes
  if doc.endsClean then doc.root.value? maxDepth else none

end EventRelay.Json
