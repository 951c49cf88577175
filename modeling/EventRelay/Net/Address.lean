import EventRelay.Text.Numeral

/-!
# Network addresses

Addresses of four octets, addresses of eight groups, and an address with a
port. An address of eight groups is written with its longest run of zero
groups left out.
-/

set_option autoImplicit false

namespace EventRelay.Net

open EventRelay.Text

abbrev Groups := List Nat

inductive Host where
  | v4 (octets : List Nat)
  | v6 (groups : Groups) (scope : Nat)
  deriving DecidableEq, Repr

structure SocketAddress where
  host : Host
  port : Nat
  deriving DecidableEq, Repr

/-! ## Reading -/

def readDecimal (limit : Nat) (cs : List Char) : Option (Nat × List Char) :=
  let ds := cs.takeWhile isDigit
  match readUnsigned limit ds with
  | .ok n => some (n, cs.drop ds.length)
  | .error _ => none

def readOctet (cs : List Char) : Option (Nat × List Char) :=
  match (cs.take 3).takeWhile isDigit with
  | [] => none
  | '0' :: _ :: _ => none
  | ds =>
    match readUnsigned 255 ds with
    | .ok n => some (n, cs.drop ds.length)
    | .error _ => none

def readAfter {α : Type} (mark : Char) (read : List Char → Option (α × List Char)) :
    List Char → Option (α × List Char)
  | c :: cs => if c = mark then read cs else none
  | [] => none

def readFour (cs : List Char) : Option (List Nat × List Char) := do
  let (a, cs) ← readOctet cs
  let (b, cs) ← readAfter '.' readOctet cs
  let (c, cs) ← readAfter '.' readOctet cs
  let (d, cs) ← readAfter '.' readOctet cs
  some ([a, b, c, d], cs)

def readGroup (cs : List Char) : Option (Nat × List Char) :=
  match (cs.take 4).takeWhile fun c => (Hex.value? c).isSome with
  | [] => none
  | ds => some (ds.foldl (fun n c => n * 16 + (Hex.value? c).getD 0) 0, cs.drop ds.length)

/-- Groups with colons between them, at most `room` of them; the last two may be written as four
octets. `isFirst` says whether a colon is due before the next group. -/
def readGroups : Nat → Bool → List Char → Groups × Bool × List Char
  | 0, _, cs => ([], false, cs)
  | room + 1, isFirst, cs =>
    let due {α : Type} (read : List Char → Option (α × List Char)) : Option (α × List Char) :=
      if isFirst then read cs else readAfter ':' read cs
    match (if room = 0 then none else due readFour) with
    | some ([a, b, c, d], rest) => ([a * 256 + b, c * 256 + d], true, rest)
    | _ =>
      match due readGroup with
      | none => ([], false, cs)
      | some (g, rest) =>
        let (gs, endsInOctets, rest) := readGroups room false rest
        (g :: gs, endsInOctets, rest)

def readSix (cs : List Char) : Option (Groups × List Char) :=
  let (head, endsInOctets, rest) := readGroups 8 true cs
  if head.length = 8 then some (head, rest)
  else if endsInOctets then none
  else
    match rest with
    | ':' :: ':' :: rest =>
      let (tail, _, rest) := readGroups (7 - head.length) true rest
      some (head ++ List.replicate (8 - head.length - tail.length) 0 ++ tail, rest)
    | _ => none

def readPort (cs : List Char) : Option Nat :=
  match readAfter ':' (readDecimal 65535) cs with
  | some (port, []) => some port
  | _ => none

def SocketAddress.read? (cs : List Char) : Option SocketAddress :=
  match readFour cs with
  | some (octets, rest) => (readPort rest).map fun port => ⟨.v4 octets, port⟩
  | none => do
    let (groups, rest) ← readAfter '[' readSix cs
    let (scope, rest) ←
      match rest with
      | '%' :: rest => readDecimal 4294967295 rest
      | rest => some (0, rest)
    match rest with
    | ']' :: rest => (readPort rest).map fun port => ⟨.v6 groups scope, port⟩
    | _ => none

/-! ## Writing -/

def fourDigits (octets : List Nat) : List Char :=
  List.intercalate ['.'] (octets.map naturalDigits)

def groupDigits (groups : Groups) : List Char :=
  List.intercalate [':'] (groups.map (Nat.toDigits 16))

/-- Start and length of the first longest run of zero groups. -/
def zeroRun (groups : Groups) : Nat × Nat :=
  let step (s : Nat × (Nat × Nat) × (Nat × Nat)) (g : Nat) :=
    let (i, current, best) := s
    let current := if g = 0 then (if current.2 = 0 then i else current.1, current.2 + 1) else (0, 0)
    (i + 1, current, if best.2 < current.2 then current else best)
  (groups.foldl step (0, (0, 0), (0, 0))).2.2

def shortDigits (groups : Groups) : List Char :=
  let (start, length) := zeroRun groups
  if 1 < length then
    groupDigits (groups.take start) ++ [':', ':'] ++ groupDigits (groups.drop (start + length))
  else groupDigits groups

/-- The groups in short; an address of four octets that stands in them is written as such. -/
def sixDigits (groups : Groups) : List Char :=
  match groups with
  | [0, 0, 0, 0, 0, 0xffff, a, b] =>
    "::ffff:".toList ++ fourDigits [a / 256, a % 256, b / 256, b % 256]
  | groups => shortDigits groups

def Host.digits : Host → List Char
  | .v4 octets => fourDigits octets
  | .v6 groups scope =>
    ['['] ++ sixDigits groups ++ (if scope = 0 then [] else '%' :: naturalDigits scope) ++ [']']

def SocketAddress.text (a : SocketAddress) : String :=
  String.ofList (a.host.digits ++ ':' :: naturalDigits a.port)

end EventRelay.Net
