import EventRelay.Http.Message
import EventRelay.Net.Address
import EventRelay.Net.Domain

/-!
# Hosts of URLs

A host is a name, an address of four octets, or an address of eight groups in
brackets. The well-known schemes read names as domain names, and as addresses
if the last part is a number; the other schemes keep them as they are.
-/

set_option autoImplicit false

namespace EventRelay.Url

open EventRelay.Text

/-- The empty name stands for no host. -/
inductive Host where
  | name (chars : List Char)
  | four (octets : List Nat)
  | six (groups : Net.Groups)
  deriving DecidableEq, Repr

namespace Host

def chars : Host → List Char
  | name cs => cs
  | four octets => Net.fourDigits octets
  | six groups => '[' :: Net.shortDigits groups ++ [']']

def isEmpty (h : Host) : Bool := h = name []

/-! ## Addresses -/

def readBase (base : Nat) (cs : List Char) : Option Nat :=
  cs.foldl (fun n c =>
    match n, Hex.value? c with
    | some n, some d => if d < base then some (n * base + d) else none
    | _, _ => none) (some 0)

def readNumber : List Char → Option Nat
  | '0' :: 'x' :: cs => readBase 16 cs
  | '0' :: d :: cs => readBase 8 (d :: cs)
  | [] => none
  | cs => readBase 10 cs

/-- The value of up to four numbers, the last of which fills the octets left over. -/
def joinNumbers : Nat → List Nat → Option Nat
  | _, [] => none
  | room, [n] => if n < Nat.pow 256 room then some n else none
  | room, n :: rest =>
    if n < 256 ∧ 1 < room then
      (joinNumbers (room - 1) rest).map fun m => n * Nat.pow 256 (room - 1) + m
    else none

def looksNumeric (part : List Char) : Bool :=
  !part.isEmpty && part.all isDigit || (readNumber part).isSome

/-- What a domain name stands for: the address that it spells, if its last part is a number. A
dot at the end does not count. -/
def ofDomain (name : List Char) : Option Host :=
  let parts := splitOn '.' name
  let parts := if parts.getLast? = some [] ∧ 1 < parts.length then parts.dropLast else parts
  if looksNumeric (parts.getLast?.getD []) then do
    let n ← joinNumbers 4 (← parts.mapM readNumber)
    some (four [n / 16777216, n / 65536 % 256, n / 256 % 256, n % 256])
  else some (.name name)

def readSix (cs : List Char) : Option Host :=
  match Net.readSix cs with
  | some (groups, [']']) => some (six groups)
  | _ => none

/-! ## Names -/

/-- The host of a well-known scheme. Percent codes count as what they stand for. -/
def readDomain : List Char → Option Host
  | '[' :: cs => readSix cs
  | cs => do
    let name ← Net.Domain.plain? (Utf8.decodeLossy (Percent.decode (Utf8.encode cs)))
    if name.isEmpty then none else ofDomain name

def isForbidden (c : Char) : Bool := "\t\n\r #/:<>?@[\\]^|".toList.contains c || c.toNat == 0

def readName : List Char → Option Host
  | '[' :: cs => readSix cs
  | cs => if cs.any isForbidden then none else some (name (Percent.encode (fun _ => false) cs))

end Host

end EventRelay.Url
