import EventRelay.Json.Value
import EventRelay.Text.Blank
import EventRelay.Text.Numeral
import EventRelay.Text.Utf8

/-!
# Requests and responses

The parts of a request that routes look at, and the parts of a response that
they set. In a query a plus stands for a space, octets that are no UTF-8 show
as replacement characters, and of two parameters with one name the later
counts. Headers come in the order received; only the first value of a name
counts, and only when it is visible ASCII, spaces and tabs.
-/

set_option autoImplicit false

/-! ## Percent codes -/

namespace EventRelay.Percent

def octetValue? (b : UInt8) : Option Nat := Hex.value? (Char.ofNat b.toNat)

def decode : List UInt8 → List UInt8
  | [] => []
  | b :: rest =>
    if b = 37 then
      match rest with
      | h :: l :: more =>
        match octetValue? h, octetValue? l with
        | some a, some c => UInt8.ofNat (16 * a + c) :: decode more
        | _, _ => b :: decode (h :: l :: more)
      | short => b :: decode short
    else b :: decode rest
  termination_by bytes => bytes.length

def upperDigit (n : Nat) : Char := Char.ofNat (if n < 10 then 48 + n else 55 + n)

def code (b : UInt8) : List Char := ['%', upperDigit (b.toNat / 16), upperDigit (b.toNat % 16)]

/-- Writes the characters that `mustCode` picks, and all that are not visible ASCII, as codes. -/
def encode (mustCode : Char → Bool) (cs : List Char) : List Char :=
  cs.flatMap fun c =>
    if c.toNat < 0x20 || 0x7F ≤ c.toNat || mustCode c then (Utf8.encodeChar c).flatMap code
    else [c]

end EventRelay.Percent

/-! ## Query strings -/

namespace EventRelay

abbrev Query := List (String × String)

namespace Query

open EventRelay.Text

def decodePart (cs : List Char) : String :=
  let octets := (Utf8.encode cs).map fun b => if b = 43 then 32 else b
  String.ofList (Utf8.decodeLossy (Percent.decode octets))

def decodePair (cs : List Char) : String × String :=
  let (name, value) := splitFirst '=' cs
  (decodePart name, decodePart (value.getD []))

def read (cs : List Char) : Query :=
  ((splitOn '&' cs).filter fun part => !part.isEmpty).map decodePair

def value? (q : Query) (name : String) : Option String := q.reverse.lookup name

end Query

/-! ## Headers -/

abbrev Headers := List (String × List UInt8)

namespace Headers

def isVisible (b : UInt8) : Bool := (32 ≤ b && b < 127) || b == 9

def textOf? (octets : List UInt8) : Option String :=
  if octets.all isVisible then some (String.ofList (octets.map fun b => Char.ofNat b.toNat))
  else none

def first? (headers : Headers) (name : String) : Option (List UInt8) :=
  (headers.find? fun h => Text.sameAscii h.1 name).map Prod.snd

def value? (headers : Headers) (name : String) : Option String :=
  (headers.first? name).bind textOf?

end Headers

end EventRelay

namespace EventRelay.Http

/-! ## Messages -/

structure Request where
  method : String
  path : String
  query : Query
  headers : Headers
  body : List UInt8

/-- Path and query of a request target; its fragment does not count. -/
def splitTarget (target : String) : String × Query :=
  let front := (Text.splitFirst '#' target.toList).1
  let (path, query) := Text.splitFirst '?' front
  (String.ofList path, Query.read (query.getD []))

structure Response where
  status : Nat
  contentType : Option String := none
  allow : Option String := none
  location : Option String := none
  body : String := ""
  deriving DecidableEq, Repr

namespace Response

def plain (status : Nat) (body : String) : Response :=
  { status := status, contentType := some "text/plain; charset=utf-8", body := body }

def json (status : Nat) (v : Json) : Response :=
  { status := status, contentType := some "application/json", body := v.compact }

def isHeaderChar (c : Char) : Bool := c == '\t' || (0x20 ≤ c.toNat && c.toNat != 0x7F)

/-- A redirect. An address that cannot stand in a header is left out, with a text in its place;
the status is that of a redirect all the same. -/
def found (location : String) : Response :=
  if location.toList.all isHeaderChar then { status := 302, location := some location }
  else plain 302 "failed to parse header value"

def withoutBody (r : Response) : Response := { r with body := "" }

end Response

end EventRelay.Http
